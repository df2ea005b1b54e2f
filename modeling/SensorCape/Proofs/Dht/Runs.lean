/-
**Run lengths.**

What a line shows without end is a number of high levels and then runs of low and high levels in
turn; the last run may have no end. A train is measured by 83 rows of samples. The first row watches
the high levels before the answer; every other one watches a run of which the row before has taken
the opening sample already, so it measures one less than the run lasts, and may let the run last for
one sample more than the first row would.

* `Spells`: the lengths of the runs of a sequence. Every sequence has them (`spells_runs`).
* `Shows`: the samples of a line show a sequence. There is such a line for each (`shows_signal`).
* `Measures`: what a part of the read makes of the runs that it is to measure, be they short enough
  or not; it is kept by sequences of actions (`measures_bind`).
* `sampleTrain_run_lengths`: **a train is the run lengths of what the line shows, within the bound**,
  and the first run that is too long ends it.
-/

import Mathlib.Data.ENat.BigOperators
import SensorCape.Proofs.Dht.Sampling

namespace SensorCape.Dht

open Finset (range)

/-! ### Sequences of levels and their runs -/

section Sequences

/-- The level of a run. The first one, before an answer, is high. -/
def runLevel (run : Nat) : Level :=
  if run % 2 = 0 then .high else .low

theorem runLevel_succ (run : Nat) : runLevel (run + 1) ≠ runLevel run := by
  unfold runLevel
  by_cases even : run % 2 = 0
  · rw [if_pos even, if_neg (by omega)]
    decide
  · rw [if_neg even, if_pos (by omega)]
    decide

theorem eq_runLevel_succ {level : Level} {run : Nat} (differs : level ≠ runLevel run) :
    level = runLevel (run + 1) := by
  rw [eq_opposite differs, ← eq_opposite (runLevel_succ run)]

theorem runLevel_low (place : Nat) : runLevel (2 * place + 1) = .low :=
  if_neg (by omega)

theorem runLevel_high (place : Nat) : runLevel (2 * place + 2) = .high :=
  if_pos (by omega)

/-- The place at which a run begins. -/
def start (lengths : Nat → ENat) (run : Nat) : ENat :=
  ∑ earlier ∈ range run, lengths earlier

theorem start_succ (lengths : Nat → ENat) (run : Nat) :
    start lengths (run + 1) = start lengths run + lengths run :=
  Finset.sum_range_succ _ _

/-- A sequence of levels consists of runs with these lengths, one after the other. Each run but the
first lasts for one sample at least; after a run without end there is no other, and nothing is said
of the lengths that follow. -/
structure Spells (levels : Nat → Level) (lengths : Nat → ENat) : Prop where
  shown : ∀ run (place : Nat), start lengths run ≤ place → place < start lengths (run + 1) →
    levels place = runLevel run
  noticed : ∀ run, start lengths (run + 1) ≠ ⊤ → 1 ≤ lengths (run + 1)

namespace Spells

variable {levels : Nat → Level} {lengths : Nat → ENat} {run place length : Nat}

/-- A run stays at its level for as long as it lasts. -/
theorem level (spells : Spells levels lengths) (begins : start lengths run = place)
    (fits : length ≤ lengths run) {offset : Nat} (within : offset < length) :
    levels (place + offset) = runLevel run := by
  refine spells.shown run _ ?_ ?_
  · rw [begins, Nat.cast_le]
    exact Nat.le_add_right place offset
  · rw [start_succ, begins, Nat.cast_add]
    refine (ENat.add_lt_add_iff_left (ENat.natCast_ne_top place)).mpr (lt_of_lt_of_le ?_ fits)
    rwa [Nat.cast_lt]

/-- After a run that ends, the next one begins. -/
theorem leaves (spells : Spells levels lengths) (begins : start lengths run = place)
    (lasts : lengths run = length) :
    start lengths (run + 1) = (place + length : Nat) ∧ levels (place + length) ≠ runLevel run := by
  have next : start lengths (run + 1) = (place + length : Nat) := by
    rw [start_succ, begins, lasts, Nat.cast_add]
  have noticed : 1 ≤ lengths (run + 1) := spells.noticed run (next ▸ ENat.natCast_ne_top _)
  rw [← Nat.cast_one] at noticed
  have opened := spells.level next noticed Nat.one_pos
  rw [Nat.add_zero] at opened
  refine ⟨next, ?_⟩
  rw [opened]
  exact runLevel_succ run

end Spells

/-- How long a sequence stays at a level from a place on. -/
noncomputable def stay (levels : Nat → Level) (level : Level) (place : Nat) : ENat :=
  open Classical in
  if leaves : ∃ count, levels (place + count) ≠ level then (Nat.find leaves : ENat) else ⊤

theorem eq_of_lt_stay {levels : Nat → Level} {level : Level} {place count : Nat}
    (within : (count : ENat) < stay levels level place) : levels (place + count) = level := by
  classical
  by_contra differs
  have leaves : ∃ count, levels (place + count) ≠ level := ⟨count, differs⟩
  rw [stay, dif_pos leaves, Nat.cast_lt] at within
  exact Nat.find_min leaves within differs

theorem ne_of_eq_stay {levels : Nat → Level} {level : Level} {place count : Nat}
    (ends : stay levels level place = count) : levels (place + count) ≠ level := by
  classical
  by_cases leaves : ∃ count, levels (place + count) ≠ level
  · rw [stay, dif_pos leaves, Nat.cast_inj] at ends
    rw [← ends]
    exact Nat.find_spec leaves
  · rw [stay, dif_neg leaves] at ends
    exact absurd ends (ENat.top_ne_natCast count)

/-- The places at which the runs of a sequence begin. -/
noncomputable def edge (levels : Nat → Level) : Nat → ENat
  | 0 => 0
  | run + 1 => edge levels run + stay levels (runLevel run) (edge levels run).toNat

/-- The lengths of the runs of a sequence. -/
noncomputable def runs (levels : Nat → Level) (run : Nat) : ENat :=
  stay levels (runLevel run) (edge levels run).toNat

theorem start_runs (levels : Nat → Level) (run : Nat) : start (runs levels) run = edge levels run := by
  induction run with
  | zero => rfl
  | succ run ih => rw [start_succ, ih, edge, runs]

/-- **Every sequence of levels consists of runs.** -/
theorem spells_runs (levels : Nat → Level) : Spells levels (runs levels) := by
  refine ⟨fun run place since before => ?_, fun run finite => ?_⟩
  · rw [start_runs] at since
    rw [start_succ, start_runs] at before
    obtain ⟨first, begins, early⟩ := ENat.le_natCast_iff.mp since
    obtain ⟨count, rfl⟩ := Nat.exists_eq_add_of_le early
    rw [runs, begins, ENat.toNat_natCast, Nat.cast_add] at before
    exact eq_of_lt_stay (lt_of_add_lt_add_left before)
  · rw [start_runs, edge] at finite
    obtain ⟨begun, ended⟩ := not_or.mp (ENat.add_eq_top.not.mp finite)
    obtain ⟨first, begins⟩ := ENat.ne_top_iff_exists.mp begun
    obtain ⟨count, lasts⟩ := ENat.ne_top_iff_exists.mp ended
    have next : (edge levels (run + 1)).toNat = first + count := by
      rw [edge, ← lasts, ← begins, ← Nat.cast_add, ENat.toNat_natCast]
    rw [← begins, ENat.toNat_natCast] at lasts
    have left : levels (first + count) = runLevel (run + 1) :=
      eq_runLevel_succ (ne_of_eq_stay lasts.symm)
    rw [runs, next, Order.one_le_iff_ne_zero]
    intro none
    exact ne_of_eq_stay none left

end Sequences

/-! ### Lines that show a sequence -/

variable {σ : Type} [SingleWire σ] {α β : Type}

/-- A line after a number of samples. -/
def after (line : σ) (count : Nat) : σ :=
  (fun line => (SingleWire.sample line).2)^[count] line

theorem after_succ (line : σ) (count : Nat) :
    after line (count + 1) = (SingleWire.sample (after line count)).2 :=
  Function.iterate_succ_apply' _ _ _

/-- Each sample of a line shows the level that a sequence has at its place. -/
def Shows (line : σ) (levels : Nat → Level) : Prop :=
  ∀ place, (SingleWire.sample (after line place)).1 = .ok (levels place)

/-- From one sample on, an action that only samples gives a result, and it leaves the line before
another one. -/
structure Reads (body : Action LineEvent σ α) (line : σ) (first : Nat) (result : Except Fault α)
    (last : Nat) : Prop where
  result : (body (after line first)).result = result
  state : (body (after line first)).state = after line last
  samples : ∀ event ∈ (body (after line first)).journal.events, ∃ count, event = .samples count none
  total : first + ((body (after line first)).journal.events.map LineEvent.taken).sum = last

section Reads

variable {line : σ} {levels : Nat → Level} {level : Level} {first count : Nat} {bound : UInt32}

theorem reads_bind {body : Action LineEvent σ α} {next : α → Action LineEvent σ β} {value : α}
    {result : Except Fault β} {middle last : Nat} (reads : Reads body line first (.ok value) middle)
    (follow : Reads (next value) line middle result last) :
    Reads (body >>= next) line first result last := by
  obtain ⟨found, state, samples, total⟩ := reads
  obtain ⟨ended, left, others, more⟩ := follow
  refine ⟨?_, ?_, ?_, ?_⟩ <;> rw [Action.bind_ok found, state]
  · exact ended
  · exact left
  · exact List.forall_mem_append.mpr ⟨samples, others⟩
  · rw [Journal.events_append, List.map_append, List.sum_append, ← Nat.add_assoc, total, more]

theorem reads_bind_error {body : Action LineEvent σ α} {fault : Fault} {last : Nat}
    (reads : Reads body line first (.error fault) last) (next : α → Action LineEvent σ β) :
    Reads (body >>= next) line first (.error fault) last := by
  obtain ⟨found, state, samples, total⟩ := reads
  refine ⟨?_, ?_, ?_, ?_⟩ <;> rw [Action.bind_error found]
  · exact state
  · exact samples
  · exact total

theorem reads_pure (value : α) : Reads (pure value) line first (.ok value) first :=
  ⟨rfl, rfl, List.forall_mem_nil _, rfl⟩

/-- A line that shows one level for some time plays it. -/
theorem Shows.plays (shows : Shows line levels) {rest : List Level} {last : σ}
    (same : ∀ place < count, levels (first + place) = level)
    (follow : Plays (after line (first + count)) rest last) :
    Plays (after line first) (List.replicate count level ++ rest) last := by
  induction count generalizing first with
  | zero => exact follow
  | succ count ih =>
    have here : levels first = level := same 0 (Nat.succ_pos count)
    have others : ∀ place < count, levels (first + 1 + place) = level := by
      intro place within
      rw [Nat.add_assoc, Nat.add_comm 1]
      exact same (place + 1) (Nat.succ_lt_succ within)
    have onward := ih others (by rwa [Nat.add_assoc, Nat.add_comm 1])
    rw [after_succ] at onward
    exact .cons ((shows first).trans (congrArg _ here)) onward

/-- **A level that is left within the bound is measured**, and the sample that shows the other level
is taken. -/
theorem Shows.reads_left (shows : Shows line levels)
    (same : ∀ place < count, levels (first + place) = level)
    (differs : levels (first + count) ≠ level) (short : count < bound.toNat) :
    Reads (runLength level bound) line first (.ok (UInt32.ofNat count)) (first + count + 1) := by
  have other : Plays (after line (first + count)) [levels (first + count)]
      (after line (first + count + 1)) := by
    rw [after_succ]
    exact .cons (shows _) (.nil _)
  obtain ⟨next, ⟨result, state, samples, total⟩, played⟩ :=
    runLength_yields differs short (shows.plays same other)
  cases played
  exact ⟨result, state, samples, by rw [total, Nat.add_assoc]⟩

theorem watchFrom_stuck {limit : Nat} {line last : σ}
    (plays : Plays line (List.replicate limit level) last) (seen : Nat) :
    watchFrom level limit seen line = ⟨.stuck, seen + limit, last⟩ := by
  induction limit generalizing line seen with
  | zero =>
    cases plays
    rfl
  | succ limit ih =>
    cases plays with
    | cons shown follow =>
      rw [watchFrom_shown shown, if_pos rfl, ih follow, Nat.add_assoc, Nat.add_comm 1]

/-- **A level that is not left within the bound ends the read**, after as many samples. -/
theorem Shows.reads_stuck (shows : Shows line levels) (positive : 1 ≤ bound.toNat)
    (same : ∀ place < bound.toNat, levels (first + place) = level) :
    Reads (runLength level bound) line first (.error .timeout) (first + bound.toNat) := by
  have plays := shows.plays same (.nil (after line (first + bound.toNat)))
  rw [List.append_nil] at plays
  have whole : patience bound = bound.toNat := Nat.max_eq_right positive
  have stuck : watch level bound (after line first) =
      ⟨.stuck, bound.toNat, after line (first + bound.toNat)⟩ := by
    rw [watch, whole, watchFrom_stuck plays, Nat.zero_add]
  refine ⟨?_, ?_, ?_, ?_⟩ <;> rw [runLength, stuck]
  · rfl
  · intro event member
    exact ⟨_, List.mem_singleton.mp member⟩
  · rfl

end Reads

/-! ### Measured runs -/

section Measures

variable {line : σ} {levels : Nat → Level} {lengths : Nat → ENat} {bound : UInt32}
  {first middle last : Nat}

/-- All runs of a stretch are within the bound. -/
def Short (lengths : Nat → ENat) (bound : UInt32) (first last : Nat) : Prop :=
  ∀ run, first ≤ run → run < last → lengths run ≤ bound.toNat

theorem Short.before (short : Short lengths bound first last) (within : middle ≤ last) :
    Short lengths bound first middle :=
  fun run since till => short run since (Nat.lt_of_lt_of_le till within)

theorem Short.rest (short : Short lengths bound first last) (within : first ≤ middle) :
    Short lengths bound middle last :=
  fun run since till => short run (Nat.le_trans within since) till

/-- What a part of a read makes of a stretch of runs, once the opening sample of the first of them is
taken. Runs within the bound are measured, up to the opening sample of the run after them; the first
run that is too long ends the read. -/
structure Measures (line : σ) (lengths : Nat → ENat) (bound : UInt32)
    (body : Action LineEvent σ α) (first last : Nat) (found : α → Prop) : Prop where
  complete : ∀ place : Nat, start lengths first = place → Short lengths bound first last →
    ∃ value, found value ∧ ∃ next : Nat, start lengths last = next ∧
      Reads body line (place + 1) (.ok value) (next + 1)
  overrun : ∀ (place long : Nat), start lengths first = place → first ≤ long → long < last →
    Short lengths bound first long → bound.toNat < lengths long →
    ∃ next : Nat, start lengths long = next ∧
      Reads body line (place + 1) (.error .timeout) (next + bound.toNat + 1)

theorem measures_pure {value : α} {found : α → Prop} (holds : found value) :
    Measures line lengths bound (pure value) first first found where
  complete place begins _ := ⟨value, holds, place, begins, reads_pure value⟩
  overrun _ _ _ since before _ _ := absurd since (Nat.not_le_of_lt before)

/-- **One stretch of runs is measured after the other.** -/
theorem measures_bind {body : Action LineEvent σ α} {next : α → Action LineEvent σ β}
    {found : α → Prop} {more : β → Prop} (front : Measures line lengths bound body first middle found)
    (back : ∀ value, found value → Measures line lengths bound (next value) middle last more)
    (rises : first ≤ middle) (ends : middle ≤ last) :
    Measures line lengths bound (body >>= next) first last more where
  complete place begins short := by
    obtain ⟨value, holds, between, meets, reads⟩ := front.complete place begins (short.before ends)
    obtain ⟨produced, fits, final, left, follow⟩ :=
      (back value holds).complete between meets (short.rest rises)
    exact ⟨produced, fits, final, left, reads_bind reads follow⟩
  overrun place long begins since before short exceeds := by
    rcases Nat.lt_or_ge long middle with early | late
    · obtain ⟨final, left, reads⟩ := front.overrun place long begins since early short exceeds
      exact ⟨final, left, reads_bind_error reads next⟩
    · obtain ⟨value, holds, between, meets, reads⟩ := front.complete place begins (short.before late)
      obtain ⟨final, left, follow⟩ :=
        (back value holds).overrun between long meets late before (short.rest rises) exceeds
      exact ⟨final, left, reads_bind reads follow⟩

/-- **A row of samples measures one run**, whose opening sample the row before it has taken. -/
theorem measures_runLength (shows : Shows line levels) (spells : Spells levels lengths)
    (positive : 1 ≤ bound.toNat) (run : Nat) :
    Measures line lengths bound (runLength (runLevel (run + 1)) bound) (run + 1) (run + 2)
      fun width => (width.toNat : ENat) + 1 = lengths (run + 1) where
  complete place begins short := by
    obtain ⟨length, lasts, fits⟩ :=
      ENat.le_natCast_iff.mp (short (run + 1) (Nat.le_refl _) (Nat.lt_succ_self _))
    have noticed : 1 ≤ lengths (run + 1) := spells.noticed run (begins ▸ ENat.natCast_ne_top place)
    rw [lasts, Nat.one_le_cast] at noticed
    obtain ⟨count, rfl⟩ := Nat.exists_eq_add_of_le' noticed
    obtain ⟨ends, differs⟩ := spells.leaves begins lasts
    -- The row begins one sample after the run does, so it sees one sample less of it.
    have same : ∀ offset < count, levels (place + 1 + offset) = runLevel (run + 1) := by
      intro offset within
      rw [Nat.add_assoc, Nat.add_comm 1]
      exact spells.level begins lasts.ge (Nat.succ_lt_succ within)
    rw [← Nat.add_assoc, Nat.add_right_comm] at differs
    have reads := shows.reads_left same differs fits
    rw [Nat.add_right_comm place 1] at reads
    refine ⟨UInt32.ofNat count, ?_, _, ends, reads⟩
    have room : count < UInt32.size := Nat.lt_trans fits bound.toNat_lt
    rw [lasts, UInt32.toNat_ofNat_of_lt' room, Nat.cast_add, Nat.cast_one]
  overrun place long begins since before short exceeds := by
    obtain rfl := Nat.le_antisymm since (Nat.le_of_lt_succ before)
    have same : ∀ offset < bound.toNat, levels (place + 1 + offset) = runLevel (run + 1) := by
      intro offset within
      rw [Nat.add_assoc, Nat.add_comm 1]
      exact spells.level begins (Order.add_one_le_of_lt exceeds) (Nat.succ_lt_succ within)
    have reads := shows.reads_stuck positive same
    rw [Nat.add_right_comm place 1] at reads
    exact ⟨place, begins, reads⟩

/-! ### Measured trains -/

/-- A pulse has the lengths of the two runs of its place, each less the opening sample. -/
def Pulse.Spans (lengths : Nat → ENat) (place : Nat) (pulse : Pulse) : Prop :=
  (pulse.low.toNat : ENat) + 1 = lengths (2 * place + 1) ∧
    (pulse.high.toNat : ENat) + 1 = lengths (2 * place + 2)

theorem measures_samplePulse (shows : Shows line levels) (spells : Spells levels lengths)
    (positive : 1 ≤ bound.toNat) (place : Nat) :
    Measures line lengths bound (samplePulse bound) (2 * place + 1) (2 * (place + 1) + 1)
      (Pulse.Spans lengths place) := by
  have fell := measures_runLength shows spells positive (2 * place)
  have rose := measures_runLength shows spells positive (2 * place + 1)
  rw [runLevel_low] at fell
  rw [runLevel_high] at rose
  exact measures_bind fell
    (fun low lows => measures_bind rose
      (fun high highs => measures_pure ⟨lows, highs⟩) (Nat.le_succ _) (Nat.le_refl _))
    (Nat.le_succ _) (Nat.le_succ _)

/-- Pulses have the lengths of the runs from a place on. -/
def Spelled (lengths : Nat → ENat) (place : Nat) (pulses : List Pulse) : Prop :=
  ∀ offset (pulse : Pulse), pulses[offset]? = some pulse → pulse.Spans lengths (place + offset)

theorem spelled_cons {place : Nat} {pulse : Pulse} {rest : List Pulse}
    (first : pulse.Spans lengths place) (others : Spelled lengths (place + 1) rest) :
    Spelled lengths place (pulse :: rest) := by
  intro offset found there
  cases offset with
  | zero =>
    cases there
    exact first
  | succ offset =>
    have spans := others offset found there
    rwa [Nat.add_assoc, Nat.add_comm 1] at spans

theorem measures_samplePulses (shows : Shows line levels) (spells : Spells levels lengths)
    (positive : 1 ≤ bound.toNat) (count place : Nat) :
    Measures line lengths bound (samplePulses bound count) (2 * place + 1)
      (2 * (place + count) + 1) (fun pulses => Spelled lengths place pulses.1) := by
  induction count generalizing place with
  | zero => exact measures_pure fun _ _ there => nomatch there
  | succ count ih =>
    have others := ih (place + 1)
    rw [Nat.add_assoc place, Nat.add_comm 1] at others
    exact measures_bind (measures_samplePulse shows spells positive place)
      (fun pulse spans => measures_bind others
        (fun rest spelled => measures_pure (spelled_cons spans spelled))
        (by omega) (Nat.le_refl _))
      (by omega) (by omega)

/-- The pulses of a train, from the first low phase on. -/
theorem measures_train (shows : Shows line levels) (spells : Spells levels lengths)
    (positive : 1 ≤ bound.toNat) :
    Measures line lengths bound
      (samplePulse bound >>= fun preamble => samplePulses bound dataBits >>= fun data =>
        pure (⟨preamble, data.1, data.2⟩ : Train)) 1 83
      (fun train => Spelled lengths 0 train.pulses) :=
  measures_bind (measures_samplePulse shows spells positive 0)
    (fun preamble spans => measures_bind (measures_samplePulses shows spells positive dataBits 1)
      (fun data spelled => measures_pure (spelled_cons spans spelled))
      (by decide) (by decide))
    (by decide) (by decide)

theorem reads_answered (shows : Shows line levels) (spells : Spells levels lengths)
    (soon : lengths 0 < bound.toNat) :
    ∃ (width : UInt32) (count : Nat), start lengths 1 = count ∧
      Reads (runLength .high bound) line 0 (.ok width) (count + 1) := by
  obtain ⟨count, lasts, -⟩ := ENat.le_natCast_iff.mp soon.le
  have begins : start lengths 0 = (0 : Nat) := rfl
  obtain ⟨ends, differs⟩ := spells.leaves begins lasts
  rw [lasts, Nat.cast_lt] at soon
  have reads := shows.reads_left (fun _ within => spells.level begins lasts.ge within) differs soon
  rw [Nat.zero_add count] at ends reads
  exact ⟨_, count, ends, reads⟩

theorem reads_unanswered (shows : Shows line levels) (spells : Spells levels lengths)
    (positive : 1 ≤ bound.toNat) (late : bound.toNat ≤ lengths 0) :
    Reads (runLength .high bound) line 0 (.error .timeout) bound.toNat := by
  have begins : start lengths 0 = (0 : Nat) := rfl
  have reads := shows.reads_stuck positive fun _ within => spells.level begins late within
  rwa [Nat.zero_add] at reads

theorem reads_train (shows : Shows line levels) (spells : Spells levels lengths)
    (positive : 1 ≤ bound.toNat) (soon : lengths 0 < bound.toNat) (short : Short lengths bound 1 83) :
    ∃ train : Train, (∀ place : Fin pulseCount, (train.pulse place).Spans lengths place) ∧
      ∃ taken : Nat, (taken : ENat) = ∑ run ∈ range 83, lengths run + 1 ∧
        Reads (sampleTrain bound) line 0 (.ok train) taken := by
  obtain ⟨width, count, begins, answered⟩ := reads_answered shows spells soon
  obtain ⟨train, spelled, next, ends, reads⟩ :=
    (measures_train shows spells positive).complete count begins short
  refine ⟨train, fun place => ?_, next + 1, ?_, reads_bind answered reads⟩
  · have spans := spelled place (train.pulse place) (List.getElem?_eq_getElem _)
    rwa [Nat.zero_add] at spans
  · rw [Nat.cast_add, ← ends, Nat.cast_one, start]

/-- The first run that is too long ends the read. -/
theorem reads_overrun (shows : Shows line levels) (spells : Spells levels lengths)
    (positive : 1 ≤ bound.toNat) (soon : lengths 0 < bound.toNat)
    (exceeds : ¬ Short lengths bound 1 83) :
    ∃ long, 1 ≤ long ∧ long < 83 ∧ Short lengths bound 1 long ∧ bound.toNat < lengths long ∧
      ∃ taken : Nat, (taken : ENat) = ∑ run ∈ range long, lengths run + bound.toNat + 1 ∧
        Reads (sampleTrain bound) line 0 (.error .timeout) taken := by
  classical
  have passed : ∃ run, 1 ≤ run ∧ run < 83 ∧ bound.toNat < lengths run := by
    by_contra none
    exact exceeds fun run since before => not_lt.mp fun long => none ⟨run, since, before, long⟩
  obtain ⟨since, before, long⟩ := Nat.find_spec passed
  have short : Short lengths bound 1 (Nat.find passed) := fun run begun early =>
    not_lt.mp fun lasts => Nat.find_min passed early ⟨begun, Nat.lt_trans early before, lasts⟩
  obtain ⟨width, count, begins, answered⟩ := reads_answered shows spells soon
  obtain ⟨next, ends, reads⟩ :=
    (measures_train shows spells positive).overrun count _ begins since before short long
  refine ⟨_, since, before, short, long, next + bound.toNat + 1, ?_, reads_bind answered reads⟩
  rw [Nat.cast_add, Nat.cast_add, ← ends, Nat.cast_one, start]

end Measures

/-! ### Signals -/

/-- A line that shows a sequence of levels, and takes every drive. -/
structure Signal where
  levels : Nat → Level

instance : SingleWire Signal where
  drive _ signal := (none, signal)
  sample signal := (.ok (signal.levels 0), ⟨fun place => signal.levels (place + 1)⟩)

theorem after_signal (levels : Nat → Level) (count : Nat) :
    after (Signal.mk levels) count = ⟨fun place => levels (place + count)⟩ := by
  induction count with
  | zero => rfl
  | succ count ih =>
    rw [after_succ, ih]
    simp only [SingleWire.sample, Nat.add_right_comm _ 1, Nat.add_assoc]

/-- **There is a line for every sequence.** -/
theorem shows_signal (levels : Nat → Level) : Shows (Signal.mk levels) levels := by
  intro place
  rw [after_signal]
  show Except.ok (levels (0 + place)) = _
  rw [Nat.zero_add]

/-- One high level, and then runs of three levels each. -/
def paced (place : Nat) : Level :=
  runLevel ((place + 2) / 3)

def paces (run : Nat) : ENat :=
  if run = 0 then 1 else 3

theorem start_paces (run : Nat) : start paces run = (3 * run - 2 : Nat) := by
  induction run with
  | zero => rfl
  | succ run ih =>
    rw [start_succ, ih, paces]
    split
    · next first =>
      rw [first]
      rfl
    · next later =>
      have counted : 3 * (run + 1) - 2 = 3 * run - 2 + 3 := by omega
      rw [counted, Nat.cast_add, Nat.cast_ofNat]

theorem spells_paces : Spells paced paces := by
  refine ⟨fun run place since before => ?_, fun run _ => ?_⟩
  · rw [start_paces, Nat.cast_le] at since
    rw [start_paces, Nat.cast_lt] at before
    have turn : (place + 2) / 3 = run := by omega
    rw [paced, turn]
  · rw [paces, if_neg (Nat.succ_ne_zero run)]
    decide

theorem eq_two_of_paces {width : UInt32} {run : Nat}
    (spans : (width.toNat : ENat) + 1 = paces (run + 1)) : width = 2 := by
  rw [paces, if_neg (Nat.succ_ne_zero run)] at spans
  have counted : width.toNat + 1 = 3 := by exact_mod_cast spans
  exact UInt32.toNat_inj.mp (Nat.succ.inj counted)

/-! ### Trains -/

/-- **A train is the lengths of the runs that the line shows.** A line shows a number of high levels
and then runs of low and high levels in turn. However these are written, a train is measured exactly
if the high levels are fewer than the bound and none of the next 82 runs is longer than the bound.
Each width is then the length of its run less one, and the samples taken are those of the 83 runs and
one more. Otherwise the read times out: after as many samples as the bound allows if the high levels
last for all of them, and else after the runs before the first one that is too long, as many samples
of that run as the bound allows, and one more. -/
theorem sampleTrain_run_lengths {line : σ} {levels : Nat → Level} {bound : UInt32}
    (shows : Shows line levels) (positive : 1 ≤ bound.toNat) :
    (∃ lengths, Spells levels lengths) ∧ ∀ lengths, Spells levels lengths →
      ((∃ train, (sampleTrain bound line).result = .ok train) ↔
        lengths 0 < bound.toNat ∧ ∀ run, 1 ≤ run → run < 83 → lengths run ≤ bound.toNat) ∧
      (∀ train, (sampleTrain bound line).result = .ok train →
        (∀ place : Fin pulseCount,
          ((train.pulse place).low.toNat : ENat) + 1 = lengths (2 * place + 1) ∧
          ((train.pulse place).high.toNat : ENat) + 1 = lengths (2 * place + 2)) ∧
        ∃ taken : Nat, (taken : ENat) = ∑ run ∈ range 83, lengths run + 1 ∧
          Reads (sampleTrain bound) line 0 (.ok train) taken) ∧
      (¬ (lengths 0 < bound.toNat ∧ ∀ run, 1 ≤ run → run < 83 → lengths run ≤ bound.toNat) →
        bound.toNat ≤ lengths 0 ∧ Reads (sampleTrain bound) line 0 (.error .timeout) bound.toNat ∨
        lengths 0 < bound.toNat ∧ ∃ long, 1 ≤ long ∧ long < 83 ∧
          (∀ run, 1 ≤ run → run < long → lengths run ≤ bound.toNat) ∧ bound.toNat < lengths long ∧
          ∃ taken : Nat, (taken : ENat) = ∑ run ∈ range long, lengths run + bound.toNat + 1 ∧
            Reads (sampleTrain bound) line 0 (.error .timeout) taken) := by
  refine ⟨⟨_, spells_runs levels⟩, fun lengths spells => ?_⟩
  have late : bound.toNat ≤ lengths 0 →
      Reads (sampleTrain bound) line 0 (.error .timeout) bound.toNat := fun late =>
    reads_bind_error (reads_unanswered shows spells positive late) _
  -- A train that was measured rules out both ways for a read to time out.
  have fits : (∃ train, (sampleTrain bound line).result = .ok train) →
      lengths 0 < bound.toNat ∧ Short lengths bound 1 83 := by
    rintro ⟨train, measured⟩
    have soon : lengths 0 < bound.toNat := by
      by_contra quiet
      have timed := (late (not_lt.mp quiet)).result
      cases measured.symm.trans timed
    refine ⟨soon, ?_⟩
    by_contra exceeds
    obtain ⟨_, _, _, _, _, _, _, reads⟩ := reads_overrun shows spells positive soon exceeds
    cases measured.symm.trans reads.result
  refine ⟨⟨fits, ?_⟩, ?_, ?_⟩
  · rintro ⟨soon, short⟩
    obtain ⟨train, -, _, -, reads⟩ := reads_train shows spells positive soon short
    exact ⟨train, reads.result⟩
  · intro train measured
    obtain ⟨soon, short⟩ := fits ⟨train, measured⟩
    obtain ⟨found, spans, taken, counted, reads⟩ := reads_train shows spells positive soon short
    cases measured.symm.trans reads.result
    exact ⟨spans, taken, counted, reads⟩
  · intro misfit
    by_cases soon : lengths 0 < bound.toNat
    · have exceeds : ¬ Short lengths bound 1 83 := fun short => misfit ⟨soon, short⟩
      exact .inr ⟨soon, reads_overrun shows spells positive soon exceeds⟩
    · exact .inl ⟨not_lt.mp soon, late (not_lt.mp soon)⟩

/-- A bound of three is kept by one high level and by phases of three; a bound of two is passed by
the first low phase. -/
theorem sampleTrain_paced :
    Shows (Signal.mk paced) paced ∧ Spells paced paces ∧
      (∃ train, (∀ place, train.pulse place = ⟨2, 2⟩) ∧
        Reads (sampleTrain 3) (Signal.mk paced) 0 (.ok train) 248) ∧
      Reads (sampleTrain 2) (Signal.mk paced) 0 (.error .timeout) 4 := by
  have shows := shows_signal paced
  refine ⟨shows, spells_paces, ?_, ?_⟩
  · have positive : 1 ≤ (3 : UInt32).toNat := by decide
    obtain ⟨fits, measured, -⟩ :=
      (sampleTrain_run_lengths shows positive).2 paces spells_paces
    have short : ∀ run, 1 ≤ run → run < 83 → paces run ≤ (3 : UInt32).toNat := by
      intro run since _
      rw [paces, if_neg (Nat.ne_of_gt since)]
      exact le_refl 3
    obtain ⟨train, found⟩ := fits.mpr ⟨by decide, short⟩
    obtain ⟨spans, taken, counted, reads⟩ := measured train found
    have total : (taken : ENat) = (248 : Nat) := by
      rw [counted, ← start, start_paces]
      rfl
    obtain rfl := Nat.cast_inj.mp total
    refine ⟨train, fun place => ?_, reads⟩
    obtain ⟨low, high⟩ := spans place
    exact congrArg₂ Pulse.mk (eq_two_of_paces low) (eq_two_of_paces high)
  · have positive : 1 ≤ (2 : UInt32).toNat := by decide
    obtain ⟨-, -, timed⟩ :=
      (sampleTrain_run_lengths shows positive).2 paces spells_paces
    have exceeds : ¬ paces 1 ≤ (2 : UInt32).toNat := by decide
    rcases timed fun fits => exceeds (fits.2 1 (by decide) (by decide)) with
      ⟨late, -⟩ | ⟨-, long, since, -, short, -, taken, counted, reads⟩
    · exact absurd late (by decide)
    · have first : long ≤ 1 := by
        by_contra later
        exact exceeds (short 1 (Nat.le_refl 1) (Nat.lt_of_not_le later))
      obtain rfl := Nat.le_antisymm first since
      have total : (taken : ENat) = (4 : Nat) := by
        rw [counted, ← start, start_paces]
        rfl
      obtain rfl := Nat.cast_inj.mp total
      exact reads

end SensorCape.Dht
