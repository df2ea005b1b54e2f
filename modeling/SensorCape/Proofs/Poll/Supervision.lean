/-
**How a polling loop counts and ends.**

A loop runs its cycle until a fault makes the hardware unusable. Every cycle that fails leaves a
record with the number of cycles in a row that have failed, itself the last of them; what is counted
in the loop is thus told by the results alone.

* `FailingRun`: how many cycles in a row have failed, up to a given one. `failingRun_streak`: they
  can be counted from the beginning, starting over after a success.
* `superviseFrom_after`: what is left of the loop after a number of cycles, by induction on them.
* `supervise_running`, `supervise_stopped`: the loop before and after the hardware is unusable.
* `supervise_exact`: **which cycles are run before the loop stops, and what is logged**.
-/

import Mathlib.Data.List.Basic
import SensorCape.Bench.Rehearsal
import SensorCape.Poll.Supervision
import SensorCape.Proofs.Repeated

namespace SensorCape.Poll

variable {ε S : Type}

/-! ### Failures in a row -/

/-- The cycles in a row that have failed, up to a last one, and how many they are: all of them have
failed, and the cycle before them has not. -/
structure FailingRun (results : Nat → Except Fault Unit) (last length : Nat) : Prop where
  fits : length ≤ last + 1
  failed : ∀ place ≤ last, last < place + length → ∃ fault, results place = .error fault
  maximal : ∀ place, place + length = last → results place = .ok ()

/-- The number of failures since the last success, among a number of cycles. -/
def streak (results : Nat → Except Fault Unit) : Nat → Nat
  | 0 => 0
  | count + 1 =>
    match results count with
    | .ok _ => 0
    | .error _ => streak results count + 1

section Streak

variable {results : Nat → Except Fault Unit} {place : Nat}

theorem streak_of_ok (succeeded : results place = .ok ()) : streak results (place + 1) = 0 := by
  rw [streak, succeeded]

theorem streak_of_error {fault : Fault} (failed : results place = .error fault) :
    streak results (place + 1) = streak results place + 1 := by
  rw [streak, failed]

theorem streak_le (results : Nat → Except Fault Unit) (count : Nat) :
    streak results count ≤ count := by
  induction count with
  | zero => exact Nat.le_refl 0
  | succ count ih =>
    cases ended : results count with
    | ok done =>
      rw [streak_of_ok ended]
      exact Nat.zero_le _
    | error fault =>
      rw [streak_of_error ended]
      exact Nat.succ_le_succ ih

theorem failingRun_of_ok (succeeded : results place = .ok ()) : FailingRun results place 0 where
  fits := Nat.zero_le _
  failed other within beyond := absurd within (Nat.not_le_of_lt beyond)
  maximal other same := by
    obtain rfl : other = place := same
    exact succeeded

/-- A failure makes the run of failures before it longer by one. -/
theorem FailingRun.succ {length : Nat} {fault : Fault} (run : FailingRun results place length)
    (ended : results (place + 1) = .error fault) : FailingRun results (place + 1) (length + 1) where
  fits := Nat.succ_le_succ run.fits
  failed other within beyond := by
    rcases Nat.le_succ_iff.mp within with before | rfl
    · exact run.failed other before (by omega)
    · exact ⟨fault, ended⟩
  maximal other same := run.maximal other (Nat.succ.inj same)

/-- **The failures since the last success are the longest run of failures that ends there.** -/
theorem failingRun_streak (results : Nat → Except Fault Unit) (place : Nat) :
    FailingRun results place (streak results (place + 1)) := by
  induction place with
  | zero =>
    cases ended : results 0 with
    | ok done =>
      rw [streak_of_ok ended]
      exact failingRun_of_ok ended
    | error fault =>
      rw [streak_of_error ended]
      refine ⟨Nat.le_refl 1, fun other within _ => ?_, fun other same => ?_⟩
      · rw [Nat.le_zero.mp within]
        exact ⟨fault, ended⟩
      · exact absurd same (Nat.succ_ne_zero _)
  | succ place ih =>
    cases ended : results (place + 1) with
    | ok done =>
      rw [streak_of_ok ended]
      exact failingRun_of_ok ended
    | error fault =>
      rw [streak_of_error ended]
      exact ih.succ ended

end Streak

/-! ### The loop -/

/-- What is logged after a cycle that ends a number of failures in a row. -/
def failureLog (name : String) (length : Nat) : Except Fault Unit → List Record
  | .ok _ => []
  | .error fault => [⟨.warn, s!"{name}: {fault.message} ({length} consecutive failures)"⟩]

/-- The record of a loop that stops. -/
def stopping (name : String) : Record := ⟨.warn, s!"{name}: stopping, hardware unusable"⟩

/-- The hardware can be used after a cycle with this result. -/
def Usable (result : Except Fault Unit) : Prop :=
  ∀ fault, result = .error fault → fault.isFatal = false

section Loop

variable (name : String) (cycle : Action ε S Unit) (start : S)

/-- The result of a cycle by its place. -/
def cycleResult (place : Nat) : Except Fault Unit := (cycle.turn start place).result

/-- The failures in a row before a cycle. -/
def failuresAt (place : Nat) : Nat := streak (cycleResult cycle start) place

/-- What a cycle leaves behind. -/
def cycleJournal (place : Nat) : Journal ε :=
  (cycle.turn start place).journal ++
    ⟨[], failureLog name (failuresAt cycle start (place + 1)) (cycleResult cycle start place), []⟩

/-- What is left of the loop before a cycle. -/
def superviseAt (left place : Nat) : Outcome ε S Watch :=
  superviseFrom name cycle left (.ofNat (failuresAt cycle start place))
    (cycle.stateAfter start place)

variable {name cycle start}

/-- A counter that has room is written as the number it holds. -/
theorem counter_text {failures : Nat} (room : failures + 1 < UInt64.size) :
    toString (UInt64.ofNat failures + 1) = toString (failures + 1) := by
  rw [← UInt64.ofNat_one, ← UInt64.ofNat_add]
  exact congrArg toString (UInt64.toNat_ofNat_of_lt' room)

theorem failuresAt_room {place : Nat} (small : place + 1 < UInt64.size) :
    failuresAt cycle start place + 1 < UInt64.size :=
  Nat.lt_of_le_of_lt (Nat.succ_le_succ (streak_le _ place)) small

/-- After a cycle that leaves the hardware usable the loop goes on, with its failures counted. -/
theorem superviseAt_next {left place : Nat} (small : place + 1 < UInt64.size)
    (usable : Usable (cycleResult cycle start place)) :
    superviseAt name cycle start (left + 1) place =
      (superviseAt name cycle start left (place + 1)).after
        (cycleJournal name cycle start place) := by
  have moved := cycle.stateAfter_succ start place
  cases ended : cycleResult cycle start place with
  | ok done =>
    have result : (cycle (cycle.stateAfter start place)).result = .ok done := ended
    have counted : failuresAt cycle start (place + 1) = 0 := streak_of_ok ended
    rw [superviseAt, superviseAt, moved, counted, cycleJournal, ended, superviseFrom,
      Action.bind_apply, Action.attempt]
    simp only [result]
    show _ = Outcome.after (_ ++ Journal.empty) _
    rw [Journal.append_empty]
    rfl
  | error fault =>
    have result : (cycle (cycle.stateAfter start place)).result = .error fault := ended
    have passing : fault.isFatal = false := usable fault ended
    have counted : failuresAt cycle start (place + 1) = failuresAt cycle start place + 1 :=
      streak_of_error ended
    have raised : UInt64.ofNat (failuresAt cycle start place + 1) =
        .ofNat (failuresAt cycle start place) + 1 := UInt64.ofNat_add _ 1
    rw [superviseAt, superviseAt, moved, counted, raised, cycleJournal, ended, superviseFrom,
      Action.bind_apply, Action.attempt]
    simp only [result, passing, Bool.false_eq_true, if_false, Action.bind_apply, Action.note,
      failureLog, counted, counter_text (failuresAt_room small), Outcome.after,
      Journal.append_assoc]
    rfl

/-- A cycle that makes the hardware unusable is logged like others, and then the loop stops. -/
theorem superviseAt_last {left place : Nat} {fault : Fault} (small : place + 1 < UInt64.size)
    (ended : cycleResult cycle start place = .error fault) (final : fault.isFatal = true) :
    superviseAt name cycle start (left + 1) place =
      ⟨.ok .stopped, cycleJournal name cycle start place ++ ⟨[], [stopping name], []⟩,
        cycle.stateAfter start (place + 1)⟩ := by
  have result : (cycle (cycle.stateAfter start place)).result = .error fault := ended
  have counted : failuresAt cycle start (place + 1) = failuresAt cycle start place + 1 :=
    streak_of_error ended
  rw [superviseAt, cycle.stateAfter_succ start place, cycleJournal, counted, ended, superviseFrom,
    Action.bind_apply, Action.attempt]
  simp only [result, final, if_true, Action.bind_apply, Action.note, failureLog,
    counter_text (failuresAt_room small), stopping, Journal.append_assoc]
  rfl

/-- **After a number of cycles that left the hardware usable, the loop is as it was, with fewer
cycles left.** -/
theorem superviseFrom_after (place left : Nat) (small : place < UInt64.size)
    (usable : ∀ earlier < place, Usable (cycleResult cycle start earlier)) :
    supervise name cycle (place + left) start =
      (superviseAt name cycle start left place).after
        (.joined ((List.range place).map (cycleJournal name cycle start))) := by
  induction place generalizing left with
  | zero =>
    rw [Nat.zero_add]
    exact (Outcome.after_empty _).symm
  | succ place ih =>
    have earlier : ∀ earlier < place, Usable (cycleResult cycle start earlier) :=
      fun other before => usable other (Nat.lt_succ_of_lt before)
    rw [Nat.add_right_comm, Nat.add_assoc, ih (left + 1) (Nat.lt_of_succ_lt small) earlier,
      superviseAt_next small (usable place (Nat.lt_succ_self place)), Outcome.after_after,
      List.range_succ, List.map_append, List.map_singleton, Journal.joined_concat]

/-! ### Where the loop ends -/

/-- The hardware becomes unusable in a cycle, and not in one before it. -/
structure EndsAt (results : Nat → Except Fault Unit) (last : Nat) : Prop where
  usable : ∀ earlier < last, Usable (results earlier)
  final : ∃ fault, results last = .error fault ∧ fault.isFatal = true

variable (name cycle start)

/-- What a loop leaves behind that stops after a cycle. -/
def loopJournal (last : Nat) : Journal ε :=
  .joined ((List.range (last + 1)).map (cycleJournal name cycle start)) ++
    ⟨[], [stopping name], []⟩

variable {name cycle start}

/-- While the hardware is usable the loop runs on. -/
theorem supervise_running {cycles : Nat} (small : cycles < UInt64.size)
    (usable : ∀ earlier < cycles, Usable (cycleResult cycle start earlier)) :
    supervise name cycle cycles start =
      ⟨.ok .running, .joined ((List.range cycles).map (cycleJournal name cycle start)),
        cycle.stateAfter start cycles⟩ := by
  rw [← Nat.add_zero cycles, superviseFrom_after cycles 0 small usable, superviseAt, superviseFrom,
    Action.pure_apply, Outcome.after, Journal.append_empty]
  rfl

/-- The loop stops after the cycle that made the hardware unusable, however long it is watched. -/
theorem supervise_stopped {last : Nat} (small : last + 1 < UInt64.size)
    (ends : EndsAt (cycleResult cycle start) last) {cycles : Nat} (enough : last < cycles) :
    supervise name cycle cycles start =
      ⟨.ok .stopped, loopJournal name cycle start last, cycle.stateAfter start (last + 1)⟩ := by
  obtain ⟨left, rfl⟩ := Nat.exists_eq_add_of_lt enough
  obtain ⟨fault, ended, final⟩ := ends.final
  rw [Nat.add_assoc, superviseFrom_after last (left + 1) (Nat.lt_of_succ_lt small) ends.usable,
    superviseAt_last small ended final, loopJournal, List.range_succ, List.map_append,
    List.map_singleton, Journal.joined_concat, Journal.append_assoc]
  rfl

theorem cycleResult_recorded :
    cycleResult cycle.recorded (start, []) = cycleResult cycle start := by
  funext place
  rw [cycleResult, Action.turn_recorded]
  rfl

theorem cycleJournal_recorded :
    cycleJournal name cycle.recorded (start, []) = cycleJournal name cycle start := by
  funext place
  rw [cycleJournal, failuresAt, cycleResult_recorded, Action.turn_recorded]
  rfl

variable (name cycle start)

/-- **A loop runs its cycle until a fault makes the hardware unusable, and not once more**, whatever
the results of its cycles are. Watched for fewer cycles it is still running, with all of them made;
watched for more it has stopped after the one that ends it, as the record of the cycle shows. Every
cycle that failed leaves one record, with the length of the longest run of failures that ends there;
one that succeeded leaves none; and after all of them stands the record that the loop stops. -/
theorem supervise_exact {last : Nat} (small : last + 1 < UInt64.size)
    (ends : EndsAt (cycleResult cycle start) last) :
    let results := cycleResult cycle start
    (∀ cycles ≤ last,
      let run := supervise name cycle.recorded cycles (start, [])
      run.result = .ok .running ∧
        run.state = (cycle.stateAfter start cycles, (List.range cycles).map results)) ∧
    ∃ lengths : Nat → Nat, (∀ place ≤ last, FailingRun results place (lengths place)) ∧
      ∀ cycles > last,
        let run := supervise name cycle.recorded cycles (start, [])
        run.result = .ok .stopped ∧
          run.state =
            (cycle.stateAfter start (last + 1), (List.range (last + 1)).map results) ∧
          run.journal.log = ((List.range (last + 1)).flatMap fun place =>
            (cycle.turn start place).journal.log ++
              failureLog name (lengths place) (results place)) ++ [stopping name] := by
  intro results
  have recorded : EndsAt (cycleResult cycle.recorded (start, [])) last := by
    rwa [cycleResult_recorded]
  refine ⟨fun cycles within => ?_, fun place => streak results (place + 1),
    fun place _ => failingRun_streak results place, fun cycles beyond => ?_⟩
  · have usable : ∀ earlier < cycles, Usable (cycleResult cycle.recorded (start, []) earlier) :=
      fun earlier before => recorded.usable earlier (Nat.lt_of_lt_of_le before within)
    have room : cycles < UInt64.size := Nat.lt_of_le_of_lt within (Nat.lt_of_succ_lt small)
    rw [supervise_running room usable, Action.stateAfter_recorded]
    exact ⟨rfl, rfl⟩
  · rw [supervise_stopped small recorded beyond, Action.stateAfter_recorded]
    refine ⟨rfl, rfl, ?_⟩
    simp only [loopJournal, cycleJournal_recorded, Journal.log_append, Journal.log_joined,
      List.flatMap_map]
    rfl

end Loop

/-- A cycle whose results are prepared. -/
def preparedCycle : Action Unit Bench.Rehearsal Unit := do
  let _ ← Bench.perform

/-- A failure, a success, and two failures of which the second ends the loop. -/
theorem supervise_prepared :
    let start : Bench.Rehearsal := ⟨[some .timeout, none, some .timeout, some (.invalidPin 200)], 0⟩
    let run := supervise "rack" preparedCycle.recorded 9 (start, [])
    3 + 1 < UInt64.size ∧ EndsAt (cycleResult preparedCycle start) 3 ∧
      run.result = .ok .stopped ∧ run.state.2.length = 4 ∧
      run.journal.log =
        [⟨.warn, "rack: operation timeout (1 consecutive failures)"⟩,
          ⟨.warn, "rack: operation timeout (1 consecutive failures)"⟩,
          ⟨.warn, "rack: invalid pin 200 (2 consecutive failures)"⟩,
          ⟨.warn, "rack: stopping, hardware unusable"⟩] := by
  intro start run
  have ends : EndsAt (cycleResult preparedCycle start) 3 := by
    refine ⟨fun earlier before fault failed => ?_, .invalidPin 200, rfl, rfl⟩
    obtain rfl | rfl | rfl : earlier = 0 ∨ earlier = 1 ∨ earlier = 2 := by omega
    · cases failed; rfl
    · cases failed
    · cases failed; rfl
  obtain ⟨-, _, -, stopped⟩ := supervise_exact "rack" preparedCycle start (by decide) ends
  obtain ⟨result, state, -⟩ := stopped 9 (by decide)
  refine ⟨by decide, ends, result, by rw [state]; rfl, ?_⟩
  rfl

end SensorCape.Poll
