/-
**The calls of a read.**

A read does not know what a line will show, or when a call on it will fail. It ends all the same:
each of its eighty-three rows of samples is bounded, and a call that fails is the last one.

* `Answers`: a line is called a number of times, gives these answers and is then in a last state.
* `Limited`: an action makes a limited number of samples and heeds the first call that fails. It is
  kept by sequences (`limited_bind`), so a read has it because its rows do (`limited_runLength`).
* `tally_eq_watch`: a row counted in 32 bits, each step checked, is the row as it is sampled here; no
  counter overflows, whatever the bound.
* `readSensor_bounded`: **a read takes at most 83 samples for each that its bound allows**, and all
  that is said of a failing sample and of the widths that were measured.
-/

import SensorCape.Bench.Replay
import SensorCape.Proofs.Dht.Sampling
import SensorCape.Proofs.Ran
import SensorCape.Proofs.Repeated

namespace SensorCape.Dht

/-! ### Calls and answers -/

/-- A call on a line and its answer. -/
inductive Contact
  | drive (how : Drive) (failure : Option Fault)
  | sample (answer : Except Fault Level)

namespace Contact

/-- The fault of a call that failed. -/
def fault? : Contact → Option Fault
  | .drive _ failure => failure
  | .sample (.ok _) => none
  | .sample (.error fault) => some fault

def isSample : Contact → Bool
  | .drive _ _ => false
  | .sample _ => true

/-- What a journal tells of a call; the level that a sample showed is not among it. -/
def told : Contact → Option Drive × Option Fault
  | .drive how failure => (some how, failure)
  | .sample answer => (none, (Contact.sample answer).fault?)

end Contact

/-- What an event tells of its calls, one after the other. -/
def LineEvent.told : LineEvent → List (Option Drive × Option Fault)
  | .drive how failure => [(some how, failure)]
  | .samples taken none => List.replicate taken (none, none)
  | .samples taken (some fault) => List.replicate taken (none, none) ++ [(none, some fault)]

variable {σ : Type} [SingleWire σ] {α β : Type}

/-- A line gives some answers, one after the other, and is then in a last state. -/
inductive Answers : σ → List Contact → σ → Prop
  | nil (line : σ) : Answers line [] line
  | drive {line next last : σ} {how : Drive} {failure : Option Fault} {rest : List Contact}
      (given : SingleWire.drive how line = (failure, next)) (follow : Answers next rest last) :
      Answers line (.drive how failure :: rest) last
  | sample {line next last : σ} {answer : Except Fault Level} {rest : List Contact}
      (given : SingleWire.sample line = (answer, next)) (follow : Answers next rest last) :
      Answers line (.sample answer :: rest) last

theorem Answers.append {line middle last : σ} {calls more : List Contact}
    (answers : Answers line calls middle) (follow : Answers middle more last) :
    Answers line (calls ++ more) last := by
  induction answers with
  | nil line => exact follow
  | drive given _ ih => exact .drive given (ih follow)
  | sample given _ ih => exact .sample given (ih follow)

/-! ### Actions that heed a failure -/

/-- No call fails but the last one, and if that one does, its fault is the result. -/
inductive Heeds : List Contact → Except Fault α → Prop
  | unfailed {calls : List Contact} {result : Except Fault α}
      (fine : ∀ call ∈ calls, call.fault? = none) : Heeds calls result
  | failed {before : List Contact} {call : Contact} {fault : Fault}
      (fine : ∀ call ∈ before, call.fault? = none) (failure : call.fault? = some fault) :
      Heeds (before ++ [call]) (.error fault)

/-- **A call that failed is the last one.** -/
theorem Heeds.ends {calls before after : List Contact} {result : Except Fault α} {call : Contact}
    {fault : Fault} (heeds : Heeds calls result) (split : calls = before ++ call :: after)
    (failure : call.fault? = some fault) : after = [] ∧ result = .error fault := by
  cases heeds with
  | unfailed fine =>
    have none := fine call (split ▸ List.mem_append_right _ List.mem_cons_self)
    rw [failure] at none
    cases none
  | @failed others last _ fine struck =>
    rcases List.eq_nil_or_concat after with rfl | ⟨init, final, rfl⟩
    · obtain ⟨rfl, same⟩ := List.append_inj' split rfl
      cases same
      rw [failure] at struck
      cases struck
      exact ⟨rfl, rfl⟩
    · -- With a call after it, it is among those that did not fail.
      rw [List.concat_eq_append, ← List.cons_append, ← List.append_assoc] at split
      obtain ⟨rfl, -⟩ := List.append_inj' split rfl
      have none := fine call (List.mem_append_right _ List.mem_cons_self)
      rw [failure] at none
      cases none

theorem Heeds.fine_of_ok {calls : List Contact} {value : α} (heeds : Heeds calls (.ok value)) :
    ∀ call ∈ calls, call.fault? = none := by
  cases heeds with
  | unfailed fine => exact fine

theorem Heeds.after {calls earlier : List Contact} {result : Except Fault α}
    (heeds : Heeds calls result) (fine : ∀ call ∈ earlier, call.fault? = none) :
    Heeds (earlier ++ calls) result := by
  cases heeds with
  | unfailed also => exact .unfailed (List.forall_mem_append.mpr ⟨fine, also⟩)
  | failed also failure =>
    rw [← List.append_assoc]
    exact .failed (List.forall_mem_append.mpr ⟨fine, also⟩) failure

/-- From a line, an action makes these calls; its journal tells them, and it heeds a failure. -/
structure Makes (body : Action LineEvent σ α) (line : σ) (calls : List Contact) : Prop where
  answers : Answers line calls (body line).state
  told : (body line).journal.events.flatMap LineEvent.told = calls.map Contact.told
  heeds : Heeds calls (body line).result

/-- The number of samples among some calls. -/
def sampleCount (calls : List Contact) : Nat :=
  calls.countP Contact.isSample

/-- From every line, an action heeds a failure and takes no more samples than its budget allows. -/
def Limited (budget : Nat) (body : Action LineEvent σ α) : Prop :=
  ∀ line, ∃ calls, Makes body line calls ∧ sampleCount calls ≤ budget

/-- The calls of a sequence are those of its first part if that one fails. -/
theorem Makes.bind_error {first : Action LineEvent σ α} {line : σ} {calls : List Contact}
    {fault : Fault} (makes : Makes first line calls) (found : (first line).result = .error fault)
    (next : α → Action LineEvent σ β) : Makes (first >>= next) line calls := by
  obtain ⟨answers, told, heeds⟩ := makes
  rw [found] at heeds
  refine ⟨?_, ?_, ?_⟩ <;> rw [Action.bind_error found]
  · exact answers
  · exact told
  · cases heeds with
    | unfailed fine => exact .unfailed fine
    | failed fine failure => exact .failed fine failure

/-- If the first part of a sequence succeeds, the calls of the next one follow on its own. -/
theorem Makes.bind_ok {first : Action LineEvent σ α} {next : α → Action LineEvent σ β} {line : σ}
    {calls others : List Contact} {value : α} (makes : Makes first line calls)
    (found : (first line).result = .ok value)
    (follow : Makes (next value) (first line).state others) :
    Makes (first >>= next) line (calls ++ others) := by
  obtain ⟨answers, told, heeds⟩ := makes
  obtain ⟨onward, alsoTold, minded⟩ := follow
  rw [found] at heeds
  refine ⟨?_, ?_, ?_⟩ <;> rw [Action.bind_ok found]
  · exact answers.append onward
  · rw [Journal.events_append, List.flatMap_append, told, alsoTold, List.map_append]
  · exact minded.after heeds.fine_of_ok

/-- **A sequence keeps within the budgets of its two parts.** -/
theorem limited_bind {budget more : Nat} {first : Action LineEvent σ α}
    {next : α → Action LineEvent σ β} (limited : Limited budget first)
    (follow : ∀ value, Limited more (next value)) : Limited (budget + more) (first >>= next) := by
  intro line
  obtain ⟨calls, makes, within⟩ := limited line
  cases found : (first line).result with
  | error fault => exact ⟨calls, makes.bind_error found next, Nat.le_add_right_of_le within⟩
  | ok value =>
    obtain ⟨others, onward, few⟩ := follow value (first line).state
    refine ⟨calls ++ others, makes.bind_ok found onward, ?_⟩
    rw [sampleCount, List.countP_append]
    exact Nat.add_le_add within few

theorem Limited.mono {budget larger : Nat} {body : Action LineEvent σ α}
    (limited : Limited budget body) (within : budget ≤ larger) : Limited larger body := fun line =>
  (limited line).imp fun _ made => ⟨made.1, Nat.le_trans made.2 within⟩

theorem limited_pure (value : α) : Limited 0 (pure value : Action LineEvent σ α) :=
  fun line => ⟨[], ⟨.nil line, rfl, .unfailed (List.forall_mem_nil _)⟩, Nat.le_refl 0⟩

theorem limited_ofExcept (result : Except Fault α) :
    Limited 0 (Action.ofExcept result : Action LineEvent σ α) := by
  intro line
  refine ⟨[], ⟨?_, ?_, .unfailed (List.forall_mem_nil _)⟩, Nat.le_refl 0⟩
  · cases result <;> exact .nil line
  · cases result <;> rfl

theorem makes_drive (how : Drive) (line : σ) :
    Makes (drive how) line [.drive how (SingleWire.drive how line).1] := by
  refine ⟨.drive rfl (.nil _), rfl, ?_⟩
  cases answered : (SingleWire.drive how line).1 with
  | none =>
    refine .unfailed fun call member => ?_
    rw [List.mem_singleton.mp member]
    rfl
  | some fault =>
    have failed : (drive how line).result = .error fault := by rw [drive, answered]
    rw [failed]
    have first : ∀ call ∈ ([] : List Contact), call.fault? = none := List.forall_mem_nil _
    exact .failed first rfl

theorem limited_drive (how : Drive) : Limited 0 (drive how : Action LineEvent σ Unit) :=
  fun line => ⟨_, makes_drive how line, Nat.le_refl 0⟩

/-! ### Rows of samples -/

/-- The call that ends a row of samples at a level. -/
def Ending.closing (level : Level) : Ending → List Contact
  | .left => [.sample (.ok (opposite level))]
  | .stuck => []
  | .failed fault => [.sample (.error fault)]

/-- **A row of samples shows its level a number of times, and then ends**: within its limit, unless
the line is stuck. -/
theorem watchFrom_row (level : Level) (limit seen : Nat) (line : σ) :
    ∃ held, (watchFrom level limit seen line).seen = seen + held ∧
      held + ((watchFrom level limit seen line).ending.closing level).length ≤ limit ∧
      Answers line (List.replicate held (.sample (.ok level)) ++
        (watchFrom level limit seen line).ending.closing level)
        (watchFrom level limit seen line).line := by
  induction limit generalizing seen line with
  | zero => exact ⟨0, rfl, Nat.le_refl 0, .nil line⟩
  | succ limit ih =>
    rw [watchFrom]
    cases taken : SingleWire.sample line with
    | mk answer next =>
      cases answer with
      | error fault => exact ⟨0, rfl, Nat.succ_le_succ (Nat.zero_le _), .sample taken (.nil next)⟩
      | ok found =>
        by_cases same : found = level
        · subst same
          obtain ⟨held, counted, short, answers⟩ := ih (seen + 1) next
          simp only [if_true]
          refine ⟨held + 1, by omega, by omega, ?_⟩
          rw [List.replicate_succ]
          exact .sample taken answers
        · simp only [if_neg same]
          rw [eq_opposite same] at taken
          exact ⟨0, rfl, Nat.succ_le_succ (Nat.zero_le _), .sample taken (.nil next)⟩

/-- The calls of a row of samples. -/
def Sampled.row (level : Level) (sampled : Sampled σ) : List Contact :=
  List.replicate sampled.seen (.sample (.ok level)) ++ sampled.ending.closing level

omit [SingleWire σ] in
theorem Sampled.told_row (level : Level) (sampled : Sampled σ) :
    sampled.event.told = (sampled.row level).map Contact.told := by
  rw [row, List.map_append, List.map_replicate]
  rcases sampled with ⟨ending, seen, line⟩
  cases ending with
  | left => exact List.replicate_succ'
  | stuck => exact (List.append_nil _).symm
  | failed fault => rfl

omit [SingleWire σ] in
theorem Sampled.heeds_row (level : Level) (sampled : Sampled σ) :
    Heeds (sampled.row level) sampled.width := by
  rcases sampled with ⟨ending, seen, line⟩
  have fine : ∀ call ∈ List.replicate seen (Contact.sample (.ok level)), call.fault? = none := by
    intro call member
    rw [List.eq_of_mem_replicate member]
    rfl
  cases ending with
  | left =>
    refine .unfailed (List.forall_mem_append.mpr ⟨fine, fun call member => ?_⟩)
    rw [List.mem_singleton.mp member]
    rfl
  | stuck => exact .unfailed (List.forall_mem_append.mpr ⟨fine, List.forall_mem_nil _⟩)
  | failed fault => exact .failed fine rfl

/-- **The calls of a row are no more than it may take.** -/
theorem watch_row (level : Level) (bound : UInt32) (line : σ) :
    ((watch level bound line).row level).length ≤ patience bound ∧
      Answers line ((watch level bound line).row level) (watch level bound line).line := by
  obtain ⟨held, counted, short, answers⟩ := watchFrom_row level (patience bound) 0 line
  rw [Nat.zero_add] at counted
  rw [← counted] at short answers
  refine ⟨?_, answers⟩
  rw [Sampled.row, List.length_append, List.length_replicate]
  exact short

theorem limited_runLength (level : Level) (bound : UInt32) :
    Limited (patience bound) (runLength level bound : Action LineEvent σ UInt32) := by
  intro line
  obtain ⟨short, answers⟩ := watch_row level bound line
  refine ⟨(watch level bound line).row level, ⟨answers, ?_, Sampled.heeds_row level _⟩, ?_⟩
  · show (watch level bound line).event.told ++ [] = _
    rw [List.append_nil, Sampled.told_row level]
  · exact Nat.le_trans List.countP_le_length short

/-! ### Trains and reads -/

theorem limited_samplePulse (bound : UInt32) :
    Limited (2 * patience bound) (samplePulse bound : Action LineEvent σ Pulse) := by
  have rows := limited_bind (limited_runLength (σ := σ) .low bound) fun low =>
    limited_bind (limited_runLength .high bound) fun high => limited_pure (⟨low, high⟩ : Pulse)
  exact rows.mono (by omega)

theorem limited_samplePulses (bound : UInt32) (count : Nat) :
    Limited (count * (2 * patience bound))
      (samplePulses bound count : Action LineEvent σ { pulses : List Pulse // pulses.length = count }) := by
  induction count with
  | zero =>
    rw [Nat.zero_mul]
    exact limited_pure _
  | succ count ih =>
    have pulses := limited_bind (limited_samplePulse (σ := σ) bound) fun pulse =>
      limited_bind ih fun rest => limited_pure
        (⟨pulse :: rest.1, by simp [rest.2]⟩ : { pulses : List Pulse // pulses.length = count + 1 })
    refine pulses.mono ?_
    rw [Nat.succ_mul count]
    omega

theorem limited_sampleTrain (bound : UInt32) :
    Limited (83 * patience bound) (sampleTrain bound : Action LineEvent σ Train) := by
  have rows := limited_bind (limited_runLength (σ := σ) .high bound) fun _ =>
    limited_bind (limited_samplePulse bound) fun preamble =>
      limited_bind (limited_samplePulses bound dataBits) fun data =>
        limited_pure (⟨preamble, data.1, data.2⟩ : Train)
  refine rows.mono ?_
  unfold dataBits
  omega

/-- **A read takes at most 83 rows of samples.** -/
theorem limited_readSensor (kind : Kind) (bound : UInt32) :
    Limited (83 * patience bound) (readSensor kind bound : Action LineEvent σ Reading) := by
  have parts := limited_bind (limited_drive (σ := σ) .output) fun _ =>
    limited_bind (limited_drive .high) fun _ => limited_bind (limited_drive .low) fun _ =>
      limited_bind (limited_drive .input) fun _ => limited_bind (limited_sampleTrain bound)
        fun train => limited_ofExcept (train.decode kind)
  exact parts.mono (by omega)

/-! ### Measured widths -/

theorem patience_lt (bound : UInt32) : patience bound < UInt32.size := by
  have room := bound.toNat_lt
  show max 1 bound.toNat < 2 ^ 32
  omega

section Widths

variable {line last : σ} {events : List LineEvent} {level : Level} {bound : UInt32}

/-- **A width is less than the number of samples that its row may take.** -/
theorem runLength_lt {width : UInt32}
    (ran : Ran (runLength level bound) line width events last) : width.toNat < patience bound := by
  obtain ⟨short, -⟩ := watch_row level bound line
  have found : (watch level bound line).width = .ok width := ran.result
  rw [Sampled.row, List.length_append, List.length_replicate] at short
  rw [Sampled.width] at found
  cases ended : (watch level bound line).ending with
  | left =>
    rw [ended] at found short
    cases found
    have below : (watch level bound line).seen < patience bound := short
    rwa [UInt32.toNat_ofNat_of_lt' (Nat.lt_trans below (patience_lt bound))]
  | stuck =>
    rw [ended] at found
    cases found
  | failed fault =>
    rw [ended] at found
    cases found

/-- Both widths of a pulse are below a limit. -/
def Pulse.Below (limit : Nat) (pulse : Pulse) : Prop :=
  pulse.low.toNat < limit ∧ pulse.high.toNat < limit

theorem samplePulse_below {pulse : Pulse}
    (ran : Ran (samplePulse bound) line pulse events last) : pulse.Below (patience bound) := by
  obtain ⟨low, _, _, _, fell, ran, -⟩ := ran.bind
  obtain ⟨high, _, _, _, rose, ran, -⟩ := ran.bind
  obtain ⟨rfl, -, -⟩ := ran.pure
  exact ⟨runLength_lt fell, runLength_lt rose⟩

theorem samplePulses_below {count : Nat} {pulses : { pulses : List Pulse // pulses.length = count }}
    (ran : Ran (samplePulses bound count) line pulses events last) :
    ∀ pulse ∈ pulses.1, pulse.Below (patience bound) := by
  induction count generalizing line events last with
  | zero =>
    obtain ⟨rfl, -, -⟩ := ran.pure
    exact fun _ member => absurd member List.not_mem_nil
  | succ count ih =>
    obtain ⟨pulse, _, _, _, first, ran, -⟩ := ran.bind
    obtain ⟨rest, _, _, _, others, ran, -⟩ := ran.bind
    obtain ⟨rfl, -, -⟩ := ran.pure
    exact List.forall_mem_cons.mpr ⟨samplePulse_below first, ih others⟩

/-- **All widths of a train that was measured are below the bound of its rows.** -/
theorem sampleTrain_below {train : Train} (ran : Ran (sampleTrain bound) line train events last) :
    ∀ pulse ∈ train.pulses, pulse.Below (patience bound) := by
  obtain ⟨_, _, _, _, -, ran, -⟩ := ran.bind
  obtain ⟨preamble, _, _, _, first, ran, -⟩ := ran.bind
  obtain ⟨data, _, _, _, others, ran, -⟩ := ran.bind
  obtain ⟨rfl, -, -⟩ := ran.pure
  exact List.forall_mem_cons.mpr ⟨samplePulse_below first, samplePulses_below others⟩

end Widths

/-! ### Counters -/

/-- A row of samples with the counter that a machine keeps of it: the counter has 32 bits, is raised
by every sample at the level, and is compared with the bound after that. `none` is a counter that
was to be raised above the last number it can hold. -/
def tally (level : Level) (bound counter : UInt32) (line : σ) : Option (Sampled σ) :=
  match SingleWire.sample line with
  | (.error fault, next) => some ⟨.failed fault, counter.toNat, next⟩
  | (.ok found, next) =>
    if found = level then
      if room : counter.toNat + 1 < UInt32.size then
        if bound ≤ counter + 1 then some ⟨.stuck, (counter + 1).toNat, next⟩
        else tally level bound (counter + 1) next
      else none
    else some ⟨.left, counter.toNat, next⟩
termination_by UInt32.size - counter.toNat
decreasing_by
  rw [raised_toNat room]
  omega

/-- The counter and what the bound leaves of it, one sample at least, make up the whole row. -/
theorem tally_eq_watchFrom (level : Level) {bound : UInt32} (left : Nat) {counter : UInt32}
    (whole : counter.toNat + (left + 1) = patience bound) (line : σ) :
    tally level bound counter line = some (watchFrom level (left + 1) counter.toNat line) := by
  have limit := patience_lt bound
  have room : counter.toNat + 1 < UInt32.size := by omega
  have raised := raised_toNat room
  induction left generalizing counter line with
  | zero =>
    have stop : bound ≤ counter + 1 := by
      rw [UInt32.le_iff_toNat_le, raised]
      unfold patience at whole
      omega
    rw [tally, watchFrom]
    cases SingleWire.sample line with
    | mk answer next =>
      cases answer with
      | error fault => rfl
      | ok found =>
        by_cases same : found = level
        · simp only [if_pos same, dif_pos room, if_pos stop, watchFrom, raised]
        · simp only [if_neg same]
  | succ left ih =>
    have go : ¬ bound ≤ counter + 1 := by
      rw [UInt32.le_iff_toNat_le, raised]
      unfold patience at whole
      omega
    rw [tally, watchFrom]
    cases SingleWire.sample line with
    | mk answer next =>
      cases answer with
      | error fault => rfl
      | ok found =>
        by_cases same : found = level
        · have more : (counter + 1).toNat + 1 < UInt32.size := by omega
          have rest := ih (by omega) next more (raised_toNat more)
          rw [raised] at rest
          simp only [if_pos same, dif_pos room, if_neg go, rest]
        · simp only [if_neg same]

/-- **No counter overflows**, and a row ends where it does when it is counted without a limit. -/
theorem tally_eq_watch (level : Level) (bound : UInt32) (line : σ) :
    tally level bound 0 line = some (watch level bound line) := by
  have positive : 1 ≤ patience bound := Nat.le_max_left _ _
  have whole : (0 : UInt32).toNat + (patience bound - 1 + 1) = patience bound := by
    rw [Nat.sub_add_cancel positive]
    exact Nat.zero_add _
  have row := tally_eq_watchFrom level (patience bound - 1) whole line
  rwa [Nat.sub_add_cancel positive] at row

/-! ### Reads -/

/-- **Every read is bounded**, whatever the line shows, whichever calls fail, and for every bound,
zero and the greatest among them. The calls of a read hold at most 83 samples for each that the
bound allows, and at least one sample is allowed; a sample that fails is the last call, and its fault
is what the read reports. No counter of a row overflows. A train that is measured in full has only
widths below the bound. -/
theorem readSensor_bounded (kind : Kind) (bound : UInt32) (line : σ) :
    (∃ calls, Answers line calls (readSensor kind bound line).state ∧
      calls.map Contact.told =
        (readSensor kind bound line).journal.events.flatMap LineEvent.told ∧
      sampleCount calls ≤ 83 * max 1 bound.toNat ∧
      ∀ before fault after, calls = before ++ .sample (.error fault) :: after →
        after = [] ∧ (readSensor kind bound line).result = .error fault) ∧
    (∀ level (start : σ), tally level bound 0 start = some (watch level bound start)) ∧
    ∀ (start : σ) train, (sampleTrain bound start).result = .ok train →
      ∀ place, (train.pulse place).low.toNat < max 1 bound.toNat ∧
        (train.pulse place).high.toNat < max 1 bound.toNat := by
  obtain ⟨calls, made, few⟩ := limited_readSensor kind bound line
  refine ⟨⟨calls, made.answers, made.told.symm, few, ?_⟩, ?_, ?_⟩
  · exact fun before fault after split => made.heeds.ends split rfl
  · exact fun level start => tally_eq_watch level bound start
  · intro start train measured place
    exact sampleTrain_below (.of_ok measured) _ (List.getElem_mem _)

/-- A bound of zero still lets one sample be taken. -/
example : (readSensor .dht11 0 (⟨[], [], .high⟩ : Bench.Replay)).journal.events.map LineEvent.taken =
    [0, 0, 0, 0, 1] := by decide

end SensorCape.Dht
