/-
**One cycle of a climate sensor.**

A cycle reads the sensor up to five times. A read drives the line four times and only then samples
it, and a read that follows another one finds the line as that one left it: of a script of levels it
sees those that are left.

* `Confined`: what a part of a read may call. It logs and publishes nothing (`confined_readSensor`).
* `Requested`: the drives in their order, up to the first that fails, and samples only after all.
* `Scripted`: a line takes its levels from a script. `Scripted.seen`: what calls see of it.
* `pollClimate_exact`: **the attempts of a cycle, their calls, and what the cycle publishes**.
-/

import SensorCape.Poll.Climate
import SensorCape.Proofs.Dht.Answer
import SensorCape.Proofs.Dht.Calls
import SensorCape.Proofs.Poll.Retry

namespace SensorCape.Dht

variable {σ : Type} [SingleWire σ] {α β : Type}

/-! ### Actions confined to some calls -/

/-- An action makes calls of some kind, and neither logs nor publishes anything. -/
def Confined (kind : LineEvent → Prop) (body : Action LineEvent σ α) : Prop :=
  ∀ line, ∃ events, (body line).journal = ⟨events, [], []⟩ ∧ ∀ event ∈ events, kind event

/-- An event that took samples. -/
def LineEvent.IsRow : LineEvent → Prop
  | .drive _ _ => False
  | .samples _ _ => True

section Confined

variable {kind other : LineEvent → Prop}

omit [SingleWire σ] in
theorem confined_pure (value : α) : Confined kind (pure value : Action LineEvent σ α) :=
  fun _ => ⟨[], rfl, List.forall_mem_nil _⟩

omit [SingleWire σ] in
theorem confined_ofExcept (result : Except Fault α) :
    Confined kind (Action.ofExcept result : Action LineEvent σ α) := by
  intro line
  cases result with
  | ok value => exact ⟨[], rfl, List.forall_mem_nil _⟩
  | error fault => exact ⟨[], rfl, List.forall_mem_nil _⟩

omit [SingleWire σ] in
theorem confined_bind {first : Action LineEvent σ α} {next : α → Action LineEvent σ β}
    (confined : Confined kind first) (follow : ∀ value, Confined kind (next value)) :
    Confined kind (first >>= next) := by
  intro line
  obtain ⟨events, made, within⟩ := confined line
  cases found : (first line).result with
  | error fault =>
    rw [Action.bind_error found]
    exact ⟨events, made, within⟩
  | ok value =>
    obtain ⟨others, also, alike⟩ := follow value (first line).state
    rw [Action.bind_ok found, made, also]
    exact ⟨events ++ others, rfl, List.forall_mem_append.mpr ⟨within, alike⟩⟩

omit [SingleWire σ] in
theorem Confined.mono {body : Action LineEvent σ α} (confined : Confined kind body)
    (wider : ∀ event, kind event → other event) : Confined other body := fun line =>
  (confined line).imp fun _ made => ⟨made.1, fun event member => wider event (made.2 event member)⟩

theorem confined_drive (how : Drive) :
    Confined (fun _ => True) (drive how : Action LineEvent σ Unit) :=
  fun _ => ⟨_, rfl, fun _ _ => trivial⟩

theorem confined_runLength (level : Level) (bound : UInt32) :
    Confined LineEvent.IsRow (runLength level bound : Action LineEvent σ UInt32) := by
  intro line
  refine ⟨_, rfl, fun event member => ?_⟩
  rw [List.mem_singleton.mp member, Sampled.event]
  cases (watch level bound line).ending <;> trivial

theorem confined_samplePulse (bound : UInt32) :
    Confined LineEvent.IsRow (samplePulse bound : Action LineEvent σ Pulse) :=
  confined_bind (confined_runLength _ _) fun _ =>
    confined_bind (confined_runLength _ _) fun _ => confined_pure _

theorem confined_samplePulses (bound : UInt32) (count : Nat) : Confined LineEvent.IsRow
    (samplePulses bound count :
      Action LineEvent σ { pulses : List Pulse // pulses.length = count }) := by
  induction count with
  | zero => exact confined_pure _
  | succ count ih =>
    exact confined_bind (confined_samplePulse bound) fun _ => confined_bind ih fun _ =>
      confined_pure _

/-- **A train is only sampled.** -/
theorem confined_sampleTrain (bound : UInt32) :
    Confined LineEvent.IsRow (sampleTrain bound : Action LineEvent σ Train) :=
  confined_bind (confined_runLength _ _) fun _ => confined_bind (confined_samplePulse bound)
    fun _ => confined_bind (confined_samplePulses bound dataBits) fun _ => confined_pure _

/-- A read neither logs nor publishes anything. -/
theorem confined_readSensor (kind : Kind) (bound : UInt32) :
    Confined (fun _ => True) (readSensor kind bound : Action LineEvent σ Reading) :=
  confined_bind (confined_drive _) fun _ => confined_bind (confined_drive _) fun _ =>
    confined_bind (confined_drive _) fun _ => confined_bind (confined_drive _) fun _ =>
      confined_bind ((confined_sampleTrain bound).mono fun _ _ => trivial) fun _ =>
        confined_ofExcept _

/-- The calls of an action whose events are rows of samples are samples. -/
theorem Makes.samples {body : Action LineEvent σ α} {line : σ} {calls : List Contact}
    (makes : Makes body line calls) (confined : Confined LineEvent.IsRow body) :
    ∀ call ∈ calls, call.isSample = true := by
  obtain ⟨events, made, rows⟩ := confined line
  have told := makes.told
  rw [made] at told
  intro call member
  have tells : call.told ∈ events.flatMap LineEvent.told :=
    told ▸ List.mem_map_of_mem member
  obtain ⟨event, among, same⟩ := List.mem_flatMap.mp tells
  cases call with
  | sample answer => rfl
  | drive how failure =>
    cases event with
    | drive other gone => exact absurd (rows _ among) id
    | samples taken gone =>
      -- a row of samples tells of no drive
      cases gone with
      | none => cases List.eq_of_mem_replicate same
      | some fault =>
        rcases List.mem_append.mp same with early | last
        · cases List.eq_of_mem_replicate early
        · cases List.mem_singleton.mp last

end Confined

/-! ### Requests -/

/-- The calls of a request and of what follows on it: the drives are made in their order, the first
that fails is the last call, and once all have succeeded the line is only sampled. -/
inductive Requested : List Drive → List Contact → Except Fault α → Prop
  | refused {how : Drive} {rest : List Drive} {fault : Fault} :
      Requested (how :: rest) [.drive how (some fault)] (.error fault)
  | driven {how : Drive} {rest : List Drive} {calls : List Contact} {result : Except Fault α}
      (follow : Requested rest calls result) :
      Requested (how :: rest) (.drive how none :: calls) result
  | sampled {calls : List Contact} {result : Except Fault α}
      (only : ∀ call ∈ calls, call.isSample = true) : Requested [] calls result

/-- Drives a line in an order, and then does something with it. -/
def driven : List Drive → Action LineEvent σ α → Action LineEvent σ α
  | [], body => body
  | how :: rest, body => do
    drive how
    driven rest body

theorem driven_requested {body : Action LineEvent σ α}
    (sampled : ∀ line, ∃ calls, Makes body line calls ∧ ∀ call ∈ calls, call.isSample = true)
    (order : List Drive) (line : σ) :
    ∃ calls, Makes (driven order body) line calls ∧
      Requested order calls (driven order body line).result := by
  induction order generalizing line with
  | nil =>
    obtain ⟨calls, makes, only⟩ := sampled line
    exact ⟨calls, makes, .sampled only⟩
  | cons how rest ih =>
    have makes := makes_drive how line
    cases answered : (SingleWire.drive how line).1 with
    | some fault =>
      have failed : (drive how line).result = .error fault := by rw [drive, answered]
      rw [answered] at makes
      refine ⟨_, makes.bind_error failed _, ?_⟩
      rw [driven, Action.bind_error failed]
      exact .refused
    | none =>
      have taken : (drive how line).result = .ok () := by rw [drive, answered]
      obtain ⟨calls, onward, follow⟩ := ih (drive how line).state
      rw [answered] at makes
      refine ⟨_, makes.bind_ok taken onward, ?_⟩
      rw [driven, Action.bind_ok taken]
      exact .driven follow

/-- **A read makes its four drives, and samples the line only after all of them.** -/
theorem readSensor_requested (kind : Kind) (bound : UInt32) (line : σ) :
    ∃ calls, Makes (readSensor kind bound) line calls ∧
      Requested request calls (readSensor kind bound line).result := by
  have confined : Confined LineEvent.IsRow (sampleTrain bound >>= fun train =>
      Action.ofExcept (train.decode kind) : Action LineEvent σ Reading) :=
    confined_bind (confined_sampleTrain bound) fun _ => confined_ofExcept _
  refine driven_requested (fun line => ?_) request line
  obtain ⟨calls, makes, -⟩ := limited_bind (limited_sampleTrain (σ := σ) bound)
    (fun train => limited_ofExcept (train.decode kind)) line
  exact ⟨calls, makes, makes.samples confined⟩

/-! ### Scripts -/

/-- The level that a call showed. -/
def Contact.level? : Contact → Option Level
  | .sample (.ok level) => some level
  | _ => none

/-- The levels that some calls showed. -/
def shown (calls : List Contact) : List Level := calls.filterMap Contact.level?

/-- A line takes its levels from a script: a sample that succeeds takes the first of those that are
left, and no other call takes any. -/
structure Scripted (left : σ → Nat → Level) : Prop where
  drive : ∀ how line, left (SingleWire.drive how line).2 = left line
  shows : ∀ line level, (SingleWire.sample line).1 = .ok level →
    level = left line 0 ∧ left (SingleWire.sample line).2 = fun place => left line (place + 1)
  fails : ∀ line fault, (SingleWire.sample line).1 = .error fault →
    left (SingleWire.sample line).2 = left line

/-- **Calls see the levels of a script in turn**, and leave the others. -/
theorem Scripted.seen {left : σ → Nat → Level} (scripted : Scripted left) {line last : σ}
    {calls : List Contact} (answers : Answers line calls last) :
    shown calls = (List.range (shown calls).length).map (left line) ∧
      left last = fun place => left line (place + (shown calls).length) := by
  induction answers with
  | nil line => exact ⟨rfl, rfl⟩
  | @drive line next last how failure rest given _ ih =>
    have kept : left next = left line := by
      have same := scripted.drive how line
      rwa [given] at same
    rw [kept] at ih
    exact ih
  | @sample line next last answer rest given _ ih =>
    cases answer with
    | error fault =>
      have kept : left next = left line := by
        have same := scripted.fails line fault (by rw [given])
        rwa [given] at same
      rw [kept] at ih
      exact ih
    | ok level =>
      obtain ⟨first, moved⟩ := scripted.shows line level (by rw [given])
      rw [given] at moved
      obtain ⟨seen, kept⟩ := ih
      rw [moved] at seen kept
      have more : shown (.sample (.ok level) :: rest) = level :: shown rest := rfl
      rw [more, List.length_cons]
      constructor
      · rw [List.range_succ_eq_map, List.map_cons, List.map_map, ← first]
        exact congrArg (level :: ·) seen
      · exact kept

/-- The levels of some runs. -/
def runLevels (runs : List (Level × Nat)) : List Level :=
  runs.flatMap fun run => List.replicate run.2 run.1

/-- The levels that a replayed line has left: those of its runs, and then the idle one. -/
def ahead (line : Bench.Replay) (place : Nat) : Level :=
  (runLevels line.runs)[place]?.getD line.idle

theorem nextLevel_eq (idle : Level) (runs : List (Level × Nat)) :
    (Bench.Replay.nextLevel idle runs).1 = (runLevels runs)[0]?.getD idle ∧
      runLevels (Bench.Replay.nextLevel idle runs).2 = (runLevels runs).tail := by
  induction runs with
  | nil => exact ⟨rfl, rfl⟩
  | cons run rest ih =>
    obtain ⟨level, count⟩ := run
    cases count with
    | zero => exact ih
    | succ count => exact ⟨rfl, rfl⟩

/-- **A replayed line takes its levels from a script.** -/
theorem scripted_ahead : Scripted ahead where
  drive _ _ := rfl
  shows line level showed := by
    obtain ⟨first, moved⟩ := nextLevel_eq line.idle line.runs
    simp only [SingleWire.sample, Bench.Replay.sample] at showed ⊢
    cases struck : (Bench.strike .sample line.plan).1.bind Bench.Mishap.fault? with
    | some fault =>
      rw [struck] at showed
      cases showed
    | none =>
      rw [struck] at showed
      refine ⟨(Except.ok.inj showed).symm.trans first, funext fun place => ?_⟩
      show (runLevels (Bench.Replay.nextLevel line.idle line.runs).2)[place]?.getD line.idle = _
      rw [moved, List.getElem?_tail]
      rfl
  fails line fault failed := by
    simp only [SingleWire.sample, Bench.Replay.sample] at failed ⊢
    cases struck : (Bench.strike .sample line.plan).1.bind Bench.Mishap.fault? with
    | some other => rfl
    | none =>
      rw [struck] at failed
      cases failed

end SensorCape.Dht

namespace SensorCape.Poll

open Dht

variable {σ : Type} [SingleWire σ]

/-! ### Cycles -/

/-- The samples of a reading. -/
def readingSamples (name : String) (reading : Reading) : List Sample :=
  [⟨name, "humidity", .number reading.humidity⟩, ⟨name, "temperature", .number reading.temperature⟩]

/-- A cycle of a climate sensor. -/
structure ClimateCycle (σ : Type) where
  name : String
  kind : Kind
  bound : UInt32
  line : σ

namespace ClimateCycle

variable (cycle : ClimateCycle σ)

/-- What becomes of the cycle. -/
def outcome : Outcome LineEvent σ Unit := pollClimate cycle.name cycle.kind cycle.bound cycle.line

/-- An attempt of the cycle by its place; it finds the line as the attempts before it left it. -/
def attempt (place : Nat) : Outcome LineEvent σ Reading :=
  (readSensor cycle.kind cycle.bound).turn cycle.line place

/-- The line that an attempt finds. -/
def found (place : Nat) : σ := (readSensor cycle.kind cycle.bound).stateAfter cycle.line place

/-- The cycle consists of a number of attempts, and these are their calls. -/
structure Tries (count : Nat) (calls : Nat → List Contact) : Prop where
  some : 1 ≤ count
  few : count ≤ 5
  /-- Another attempt follows exactly if one failed, not for good, and was not the fifth. -/
  followed : ∀ place < count, place + 1 < count ↔
    (∃ fault, (cycle.attempt place).result = .error fault ∧ fault.isFatal = false) ∧ place + 1 < 5
  makes : ∀ place < count,
    Makes (readSensor cycle.kind cycle.bound) (cycle.found place) (calls place)
  requested : ∀ place < count,
    Requested [.output, .high, .low, .input] (calls place) (cycle.attempt place).result
  /-- The calls of the cycle are those of its attempts, and the line answers them in turn. -/
  events : cycle.outcome.journal.events =
    (List.range count).flatMap fun place => (cycle.attempt place).journal.events
  answers : Answers cycle.line ((List.range count).flatMap calls) cycle.outcome.state
  /-- The samples of all attempts together see a script from its first level on. -/
  script : ∀ left, Scripted left → shown ((List.range count).flatMap calls) =
    (List.range (shown ((List.range count).flatMap calls)).length).map (left cycle.line)
  succeeded : ∀ reading, (cycle.attempt (count - 1)).result = .ok reading →
    cycle.outcome.result = .ok () ∧
      cycle.outcome.journal.samples = readingSamples cycle.name reading
  failed : ∀ fault, (cycle.attempt (count - 1)).result = .error fault →
    cycle.outcome.result = .error fault ∧ cycle.outcome.journal.samples = []

variable {cycle}

theorem answers_attempts {calls : Nat → List Contact} {count : Nat}
    (makes : ∀ place < count,
      Makes (readSensor cycle.kind cycle.bound) (cycle.found place) (calls place)) :
    Answers cycle.line ((List.range count).flatMap calls) (cycle.found count) := by
  induction count with
  | zero => exact .nil _
  | succ count ih =>
    have before := ih fun place within => makes place (Nat.lt_succ_of_lt within)
    have last := (makes count (Nat.lt_succ_self count)).answers
    rw [List.range_succ, List.flatMap_append, List.flatMap_singleton, found,
      Action.stateAfter_succ]
    exact before.append last

variable (cycle)

/-- All attempts of the cycle. -/
def tried : Outcome LineEvent σ Reading :=
  retry attemptsPerCycle (readSensor cycle.kind cycle.bound) cycle.line

/-- A cycle makes its attempts, and publishes the reading that the last one gives, if it does. -/
theorem outcome_eq : cycle.outcome = match cycle.tried.result with
    | .ok reading => ⟨.ok (), cycle.tried.journal ++ ⟨[], [], readingSamples cycle.name reading⟩,
        cycle.tried.state⟩
    | .error fault => ⟨.error fault, cycle.tried.journal, cycle.tried.state⟩ := by
  rw [outcome, pollClimate, Action.bind_apply, ← tried]
  cases cycle.tried.result with
  | ok reading => rfl
  | error fault => rfl

theorem outcome_events : cycle.outcome.journal.events = cycle.tried.journal.events := by
  rw [outcome_eq]
  cases cycle.tried.result with
  | ok reading => exact List.append_nil _
  | error fault => rfl

theorem outcome_state : cycle.outcome.state = cycle.tried.state := by
  rw [outcome_eq]
  cases cycle.tried.result with
  | ok reading => rfl
  | error fault => rfl

/-- The attempts themselves publish nothing. -/
theorem tried_samples : cycle.tried.journal.samples = [] := by
  rw [tried, retry_samples, List.flatMap_eq_nil_iff]
  intro place _
  obtain ⟨events, made, -⟩ := confined_readSensor cycle.kind cycle.bound (cycle.found place)
  show (readSensor cycle.kind cycle.bound (cycle.found place)).journal.samples = []
  rw [made]

theorem outcome_of_ok {reading : Reading} (read : cycle.tried.result = .ok reading) :
    cycle.outcome.result = .ok () ∧
      cycle.outcome.journal.samples = readingSamples cycle.name reading := by
  rw [outcome_eq, read]
  refine ⟨rfl, ?_⟩
  show cycle.tried.journal.samples ++ readingSamples cycle.name reading = _
  rw [tried_samples, List.nil_append]

theorem outcome_of_error {fault : Fault} (failed : cycle.tried.result = .error fault) :
    cycle.outcome.result = .error fault ∧ cycle.outcome.journal.samples = [] := by
  rw [outcome_eq, failed]
  exact ⟨rfl, cycle.tried_samples⟩

end ClimateCycle

/-- **A cycle of a climate sensor makes up to five attempts**, on a line that may show anything and
fail any call. Each attempt makes the drives of a request in their order, up to the first that
fails, and samples the line only after all four; it finds the line as the attempt before it left it,
so all attempts together see a script from its first level on. Another attempt follows exactly if
one failed, not for good, and was not the fifth. If the last attempt succeeds, the humidity and then
the temperature of its reading are published; if it fails, nothing is published and its fault is the
result. -/
theorem pollClimate_exact (cycle : ClimateCycle σ) : ∃ count calls, cycle.Tries count calls := by
  have requested (place : Nat) := readSensor_requested cycle.kind cycle.bound (cycle.found place)
  choose calls makes requested using requested
  let read : Action LineEvent σ Reading := readSensor cycle.kind cycle.bound
  obtain ⟨last, counted⟩ := exists_attemptsOn attemptsPerCycle read cycle.line
  have answers : Answers cycle.line
      ((List.range (attemptsOn attemptsPerCycle read cycle.line)).flatMap calls)
      (cycle.found (attemptsOn attemptsPerCycle read cycle.line)) :=
    ClimateCycle.answers_attempts fun place _ => makes place
  have ended : cycle.tried.result = (cycle.attempt last).result := by
    rw [ClimateCycle.tried, retry_eq attemptsPerCycle read cycle.line counted]
    rfl
  refine ⟨attemptsOn attemptsPerCycle read cycle.line, calls, ?_⟩
  exact {
    some := one_le_attemptCount _ _
    few := attemptCount_le _ _
    followed := fun place within => attempt_followed_iff within
    makes := fun place _ => makes place
    requested := fun place _ => requested place
    events := cycle.outcome_events.trans (retry_events attemptsPerCycle read cycle.line)
    answers := by
      rw [cycle.outcome_state, ClimateCycle.tried, retry_state]
      exact answers
    script := fun left scripted => (scripted.seen answers).1
    succeeded := fun reading read => cycle.outcome_of_ok (by rw [ended, ← read, counted]; rfl)
    failed := fun fault failed => cycle.outcome_of_error (by rw [ended, ← failed, counted]; rfl) }

/-- A cycle on a line that refuses to be driven low at first, and then replays an answer. -/
def tardyCycle : ClimateCycle Bench.Replay :=
  ⟨"rack", .dht22, 7, ⟨[⟨.drive .low, 0, .fault .timeout⟩], uneven.runs, .low⟩⟩

/-- The second attempt reads the answer from its first level on, and its reading is published. -/
theorem pollClimate_second_attempt :
    Scripted ahead ∧ ∃ calls, tardyCycle.Tries 2 calls ∧
      shown (calls 0) ++ shown (calls 1) =
        (List.range (shown (calls 0) ++ shown (calls 1)).length).map (ahead tardyCycle.line) ∧
      tardyCycle.outcome.result = .ok () ∧
      tardyCycle.outcome.journal.samples = readingSamples "rack" (Kind.dht22.interpret warm) := by
  obtain ⟨count, calls, tries⟩ := pollClimate_exact tardyCycle
  have refused : (tardyCycle.attempt 0).result = .error .timeout := rfl
  have read : (tardyCycle.attempt 1).result = .ok (Kind.dht22.interpret warm) := by decide +kernel
  have second : 0 + 1 < count := (tries.followed 0 tries.some).mpr ⟨⟨_, refused, rfl⟩, by decide⟩
  have last : ¬ 1 + 1 < count := by
    intro third
    obtain ⟨⟨fault, failed, -⟩, -⟩ := (tries.followed 1 second).mp third
    cases read.symm.trans failed
  obtain rfl : count = 2 := by omega
  have both : shown ((List.range 2).flatMap calls) = shown (calls 0) ++ shown (calls 1) := by
    simp [List.range_succ, shown]
  have seen := tries.script ahead scripted_ahead
  rw [both] at seen
  exact ⟨scripted_ahead, calls, tries, seen, tries.succeeded _ read⟩

end SensorCape.Poll
