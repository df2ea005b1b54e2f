/-
**How often an attempt is made.**

An attempt that succeeds, or that fails for good, is the last one; so is the one that uses up the
bound. A bound of zero still allows one attempt, since the bound is looked at after the attempt.

* `attemptCount`: the number of attempts, from the results that the attempts would have.
* `retryFrom_after`: what is left of the loop after a number of attempts, by induction on them.
* `retryCounted_eq_retryFrom`: the loop with the counter of a machine. It never overflows.
* `retry_exact`: **which attempts are made, what the last one returns, and what is logged**.
-/

import Mathlib.Data.List.Basic
import Mathlib.Data.Nat.Find
import Mathlib.Order.MinMax
import SensorCape.Bench.Rehearsal
import SensorCape.Poll.Retry
import SensorCape.Proofs.Repeated

namespace SensorCape.Poll

variable {ε S α : Type}

/-! ### The number of attempts -/

/-- No attempt follows on this result: it is a success, or a fault for good. -/
def Conclusive : Except Fault α → Prop
  | .ok _ => True
  | .error fault => fault.isFatal = true

/-- A result that calls for another attempt is a fault that may pass. -/
theorem not_conclusive_iff {result : Except Fault α} :
    ¬ Conclusive result ↔ ∃ fault, result = .error fault ∧ fault.isFatal = false := by
  cases result with
  | ok value => simp [Conclusive]
  | error fault => simp [Conclusive]

/-- At least one attempt is allowed. -/
def allowed (attempts : UInt32) : Nat := max 1 attempts.toNat

open Classical in
/-- The number of attempts that are made, if the attempts have these results. -/
noncomputable def attemptCount (attempts : UInt32) (results : Nat → Except Fault α) : Nat :=
  if ends : ∃ place, Conclusive (results place) then min (allowed attempts) (Nat.find ends + 1)
  else allowed attempts

section Count

variable {attempts : UInt32} {results : Nat → Except Fault α} {place : Nat}

theorem one_le_allowed (attempts : UInt32) : 1 ≤ allowed attempts := Nat.le_max_left _ _

theorem allowed_lt (attempts : UInt32) : allowed attempts < UInt32.size := by
  have room := attempts.toNat_lt
  show max 1 attempts.toNat < 2 ^ 32
  omega

theorem one_le_attemptCount (attempts : UInt32) (results : Nat → Except Fault α) :
    1 ≤ attemptCount attempts results := by
  rw [attemptCount]
  split
  · exact le_min (one_le_allowed attempts) (Nat.le_add_left _ _)
  · exact one_le_allowed attempts

theorem attemptCount_le (attempts : UInt32) (results : Nat → Except Fault α) :
    attemptCount attempts results ≤ allowed attempts := by
  rw [attemptCount]
  split
  · exact min_le_left _ _
  · exact le_refl _

/-- Attempts before the last one are not conclusive. -/
theorem not_conclusive_of_lt (before : place + 1 < attemptCount attempts results) :
    ¬ Conclusive (results place) := by
  classical
  rw [attemptCount] at before
  split at before
  · next ends => exact Nat.find_min ends (Nat.lt_of_succ_lt_succ (lt_min_iff.mp before).2)
  · next never => exact fun ended => never ⟨place, ended⟩

/-- The last attempt is conclusive, or it is the last that is allowed. -/
theorem conclusive_or_allowed (last : place + 1 = attemptCount attempts results) :
    Conclusive (results place) ∨ place + 1 = allowed attempts := by
  classical
  rw [attemptCount] at last
  split at last
  · next ends =>
    rcases min_choice (allowed attempts) (Nat.find ends + 1) with bounded | concluded
    · exact .inr (last.trans bounded)
    · obtain rfl := Nat.succ.inj (last.trans concluded)
      exact .inl (Nat.find_spec ends)
  · exact .inr last

/-- **An attempt is followed by another exactly if it failed, though not for good, and is not the
last that is allowed.** -/
theorem attempt_followed_iff (made : place < attemptCount attempts results) :
    place + 1 < attemptCount attempts results ↔
      (∃ fault, results place = .error fault ∧ fault.isFatal = false) ∧
        place + 1 < allowed attempts := by
  rw [← not_conclusive_iff]
  constructor
  · intro before
    exact ⟨not_conclusive_of_lt before, before.trans_le (attemptCount_le attempts results)⟩
  · rintro ⟨open_, below⟩
    by_contra ended
    rcases conclusive_or_allowed (le_antisymm made (not_lt.mp ended)) with concluded | last
    · exact open_ concluded
    · exact absurd last below.ne

end Count

/-! ### The attempts -/

/-- The record of an attempt that another one follows; the first attempt has place zero. -/
def attemptRecord (attempts : UInt32) (place : Nat) (fault : Fault) : Record :=
  ⟨.debug, s!"attempt {place + 1}/{attempts} failed: {fault.message}"⟩

/-- What is logged after an attempt that another one follows. -/
def attemptLog (attempts : UInt32) (place : Nat) : Except Fault α → List Record
  | .ok _ => []
  | .error fault => [attemptRecord attempts place fault]

section Attempts

variable (attempts : UInt32) (body : Action ε S α) (start : S)

/-- What an attempt leaves behind that another one follows. -/
def attemptJournal (place : Nat) : Journal ε :=
  (body.turn start place).journal ++
    ⟨[], attemptLog attempts place (body.turn start place).result, []⟩

variable {attempts body start}

/-- The last attempt is made as it is. -/
theorem retryFrom_last {left : Nat} {attempt : UInt32} {state : S}
    (last : Conclusive (body state).result ∨ left = 0) :
    retryFrom attempts body left attempt state = body state := by
  cases left with
  | zero => rfl
  | succ left =>
    have concluded : Conclusive (body state).result := last.resolve_right (Nat.succ_ne_zero left)
    rw [retryFrom, Action.bind_apply, Action.attempt]
    cases ended : (body state).result with
    | ok value =>
      simp only [Action.pure_apply, Journal.append_empty]
      rw [← ended]
    | error fault =>
      rw [ended] at concluded
      have final : fault.isFatal = true := concluded
      simp only [final, if_true, Action.fail_apply, Journal.append_empty]
      rw [← ended]

/-- An attempt that is not conclusive leaves a record, and the next one goes on from there. -/
theorem retryFrom_again {left place : Nat} (small : place + 1 < UInt32.size)
    (failed : ¬ Conclusive (body.turn start place).result) :
    retryFrom attempts body (left + 1) (.ofNat (place + 1)) (body.stateAfter start place) =
      (retryFrom attempts body left (.ofNat (place + 2)) (body.stateAfter start (place + 1))).after
        (attemptJournal attempts body start place) := by
  obtain ⟨fault, ended, passing⟩ := not_conclusive_iff.mp failed
  have number : toString (UInt32.ofNat (place + 1)) = toString (place + 1) :=
    congrArg toString (UInt32.toNat_ofNat_of_lt' small)
  have next : UInt32.ofNat (place + 1) + 1 = .ofNat (place + 2) := (UInt32.ofNat_add _ 1).symm
  have result : (body (body.stateAfter start place)).result = .error fault := ended
  rw [retryFrom, Action.bind_apply, Action.attempt]
  simp only [result, passing, Bool.false_eq_true, if_false, Action.bind_apply, Action.note, number,
    next, Action.stateAfter_succ, attemptJournal, ended, attemptLog, attemptRecord, Outcome.after,
    Journal.append_assoc]
  rfl

/-- **After a number of attempts that were not conclusive, the loop is as it was, with fewer
attempts left.** -/
theorem retryFrom_after (place left : Nat) (small : place + left < UInt32.size)
    (failed : ∀ earlier < place, ¬ Conclusive (body.turn start earlier).result) :
    retryFrom attempts body (place + left) 1 start =
      (retryFrom attempts body left (.ofNat (place + 1)) (body.stateAfter start place)).after
        (.joined ((List.range place).map (attemptJournal attempts body start))) := by
  induction place generalizing left with
  | zero =>
    rw [Nat.zero_add]
    exact (Outcome.after_empty _).symm
  | succ place ih =>
    have earlier : ∀ earlier < place, ¬ Conclusive (body.turn start earlier).result :=
      fun other before => failed other (Nat.lt_succ_of_lt before)
    rw [Nat.add_right_comm, Nat.add_assoc, ih (left + 1) (by omega) earlier,
      retryFrom_again (by omega) (failed place (Nat.lt_succ_self place)), Outcome.after_after,
      List.range_succ, List.map_append, List.map_singleton, Journal.joined_concat]

variable (attempts body start)

/-- The number of attempts on a body, from a first state. -/
noncomputable def attemptsOn : Nat :=
  attemptCount attempts fun place => (body.turn start place).result

theorem exists_attemptsOn : ∃ place, attemptsOn attempts body start = place + 1 :=
  Nat.exists_eq_add_of_le' (one_le_attemptCount _ _)

/-- **All attempts but the last leave a record, and the last one gives the result.** -/
theorem retry_eq {place : Nat} (last : attemptsOn attempts body start = place + 1) :
    retry attempts body start = (body.turn start place).after
      (.joined ((List.range place).map (attemptJournal attempts body start))) := by
  have within : place + 1 ≤ allowed attempts := last ▸ attemptCount_le _ _
  obtain ⟨left, rest⟩ := Nat.exists_eq_add_of_le within
  have bounded := allowed_lt attempts
  have whole : attempts.toNat - 1 = place + left := by
    rw [allowed] at rest
    omega
  have small : place + left < UInt32.size := by omega
  have failed : ∀ earlier < place, ¬ Conclusive (body.turn start earlier).result := fun _ before =>
    not_conclusive_of_lt (Nat.succ_lt_succ before |>.trans_eq last.symm)
  have final : Conclusive (body.turn start place).result ∨ left = 0 :=
    (conclusive_or_allowed last.symm).imp_right fun all => by omega
  rw [retry, whole, retryFrom_after place left small failed, retryFrom_last final]
  rfl

/-! ### What the attempts leave behind -/

theorem retry_state : (retry attempts body start).state =
    body.stateAfter start (attemptsOn attempts body start) := by
  obtain ⟨place, last⟩ := exists_attemptsOn attempts body start
  rw [retry_eq attempts body start last, last, Action.stateAfter_succ, Outcome.after]

/-- The calls are those of the attempts. -/
theorem retry_events : (retry attempts body start).journal.events =
    (List.range (attemptsOn attempts body start)).flatMap fun place =>
      (body.turn start place).journal.events := by
  obtain ⟨place, last⟩ := exists_attemptsOn attempts body start
  rw [retry_eq attempts body start last, last, List.range_succ, List.flatMap_append,
    List.flatMap_singleton, Outcome.after]
  simp only [Journal.events_append, Journal.events_joined, List.flatMap_map, attemptJournal,
    List.append_nil]

/-- The samples are those of the attempts. -/
theorem retry_samples : (retry attempts body start).journal.samples =
    (List.range (attemptsOn attempts body start)).flatMap fun place =>
      (body.turn start place).journal.samples := by
  obtain ⟨place, last⟩ := exists_attemptsOn attempts body start
  rw [retry_eq attempts body start last, last, List.range_succ, List.flatMap_append,
    List.flatMap_singleton, Outcome.after]
  simp only [Journal.samples_append, Journal.samples_joined, List.flatMap_map, attemptJournal,
    List.append_nil]

/-- **A body with a record is tried as often**, and the record holds the results of its attempts. -/
theorem retry_recorded : retry attempts body.recorded (start, []) =
    ⟨(retry attempts body start).result, (retry attempts body start).journal,
      (retry attempts body start).state, (List.range (attemptsOn attempts body start)).map
        fun place => (body.turn start place).result⟩ := by
  obtain ⟨place, last⟩ := exists_attemptsOn attempts body start
  have same : attemptsOn attempts body.recorded (start, []) = place + 1 := by
    rw [← last]
    simp only [attemptsOn, Action.turn_recorded]
  have journals : attemptJournal attempts body.recorded (start, []) =
      attemptJournal attempts body start := by
    funext place
    simp only [attemptJournal, Action.turn_recorded]
  rw [retry_eq attempts body start last, retry_eq attempts body.recorded (start, []) same,
    Action.turn_recorded, Action.stateAfter_recorded, journals, last, Action.stateAfter_succ]
  rfl

/-! ### The counter -/

/-- The loop as a machine counts it: the counter is compared with the bound after a fault that may
pass, and is raised for the next attempt. `none` is a counter that was to be raised above the last
number it can hold. -/
def retryCounted (attempt : UInt32) (state : S) : Option (Outcome ε S α) :=
  let made := body state
  match made.result with
  | .ok _ => some made
  | .error fault =>
    if fault.isFatal ∨ attempts ≤ attempt then some made
    else if attempt.toNat + 1 < UInt32.size then
      (retryCounted (attempt + 1) made.state).map (Outcome.after (made.journal ++
        ⟨[], [⟨.debug, s!"attempt {attempt}/{attempts} failed: {fault.message}"⟩], []⟩))
    else none
termination_by UInt32.size - attempt.toNat
decreasing_by
  rw [raised_toNat ‹_›]
  omega

variable {attempts body}

/-- The counter and the attempts that are left after it make up what is allowed. -/
theorem retryCounted_eq_retryFrom (left : Nat) {attempt : UInt32} (begun : 1 ≤ attempt.toNat)
    (whole : attempt.toNat + left = allowed attempts) (state : S) :
    retryCounted attempts body attempt state =
      some (retryFrom attempts body left attempt state) := by
  have bounded := allowed_lt attempts
  induction left generalizing attempt state with
  | zero =>
    have stop : attempts ≤ attempt := by
      rw [UInt32.le_iff_toNat_le]
      unfold allowed at whole
      omega
    rw [retryCounted, retryFrom]
    cases (body state).result with
    | ok value => rfl
    | error fault => simp only [if_pos (Or.inr stop)]
  | succ left ih =>
    have go : ¬ attempts ≤ attempt := by
      rw [UInt32.le_iff_toNat_le]
      unfold allowed at whole
      omega
    have room : attempt.toNat + 1 < UInt32.size := by omega
    cases ended : (body state).result with
    | ok value =>
      have last : Conclusive (body state).result := by rw [ended]; trivial
      rw [retryFrom_last (.inl last), retryCounted]
      simp only [ended]
    | error fault =>
      cases final : fault.isFatal with
      | true =>
        have last : Conclusive (body state).result := by rw [ended]; exact final
        rw [retryFrom_last (.inl last), retryCounted]
        simp only [ended, final, true_or, if_true]
      | false =>
        have raised := raised_toNat room
        have rest := @ih (attempt + 1) (by omega) (by omega) (body state).state
        rw [retryCounted]
        simp only [ended, final, Bool.false_eq_true, false_or, if_neg go, if_pos room, rest,
          Option.map_some]
        rw [retryFrom, Action.bind_apply, Action.attempt]
        simp only [ended, final, Bool.false_eq_true, if_false, Action.bind_apply, Action.note,
          Outcome.after, Journal.append_assoc]

end Attempts

/-! ### Exact attempts -/

/-- **Attempts are made until one is conclusive or no further one is allowed**, whatever the body
does to its state and whatever the bound. The body is run as often as `attemptCount` says, which its
record shows; the result is that of the last attempt; every attempt before it failed and leaves one
record, with its number, the bound and its fault; and the counter of the attempts never
overflows. -/
theorem retry_exact (attempts : UInt32) (body : Action ε S α) (start : S) :
    let results := fun place => (body.turn start place).result
    let count := attemptCount attempts results
    let run := retry attempts body start
    retry attempts body.recorded (start, []) =
        ⟨run.result, run.journal, run.state, (List.range count).map results⟩ ∧
      run.result = results (count - 1) ∧
      (∃ faults : Nat → Fault, (∀ place < count - 1, results place = .error (faults place)) ∧
        run.journal.log = ((List.range (count - 1)).flatMap fun place =>
          (body.turn start place).journal.log ++ [attemptRecord attempts place (faults place)]) ++
            (body.turn start (count - 1)).journal.log) ∧
      retryCounted attempts body 1 start = some run := by
  intro results count run
  obtain ⟨place, last⟩ := exists_attemptsOn attempts body start
  have before : count - 1 = place := Nat.sub_eq_of_eq_add last
  have made : run = _ := retry_eq attempts body start last
  refine ⟨retry_recorded attempts body start, ?_, ?_, ?_⟩
  · rw [before, made]
    rfl
  · have failed : ∀ earlier, ∃ fault, earlier < place → results earlier = .error fault := by
      intro earlier
      by_cases within : earlier < place
      · have below : earlier + 1 < count := (Nat.succ_lt_succ within).trans_eq last.symm
        obtain ⟨fault, ended, -⟩ := not_conclusive_iff.mp (not_conclusive_of_lt below)
        exact ⟨fault, fun _ => ended⟩
      · exact ⟨.timeout, fun early => absurd early within⟩
    choose faults ended using failed
    rw [before, made]
    refine ⟨faults, ended, ?_⟩
    simp only [Outcome.after, Journal.log_append, Journal.log_joined, List.flatMap_map,
      attemptJournal]
    congr 1
    refine List.flatMap_congr fun earlier within => ?_
    have fault : (body.turn start earlier).result = _ := ended earlier (List.mem_range.mp within)
    rw [fault, attemptLog]
  · have single : (1 : UInt32).toNat + (attempts.toNat - 1) = allowed attempts := by
      show 1 + (attempts.toNat - 1) = max 1 attempts.toNat
      omega
    exact retryCounted_eq_retryFrom _ (by decide) single start

/-- A fault for good ends the attempts; only the one before it leaves a record. -/
example : let run := retry 3 Bench.perform ⟨[some .timeout, some (.invalidPin 128), none], 0⟩
    run.result = .error (.invalidPin 128) ∧
      run.journal.log = [⟨.debug, "attempt 1/3 failed: operation timeout"⟩] ∧
      run.state = ⟨[none], 2⟩ := by decide +kernel

/-- A bound of zero allows one attempt, though it fails. -/
example : (retry 0 Bench.perform ⟨[some .timeout, none], 0⟩).state = ⟨[none], 1⟩ := by decide

end SensorCape.Poll
