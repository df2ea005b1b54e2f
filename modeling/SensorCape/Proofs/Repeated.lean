/-
**Repeating an action.**

A body that is run again goes on from the state that it left, whatever came of it. So a repetition
is a sequence of turns, and what it leaves behind is what its turns leave behind, in their order.

* `Action.stateAfter`, `Action.turn`: the state after a number of runs, and the run that comes next.
* `Journal.joined`: journals one after the other. `Outcome.after`: something went before.
* `Action.recorded`: a body that keeps a record of its results. It tells which turns were taken
  (`stateAfter_recorded`), and the turns do not depend on it (`turn_recorded`).
* `raised_toNat`: a counter that has room is raised by one.
-/

import Mathlib.Logic.Function.Iterate
import SensorCape.Action

namespace SensorCape

variable {ε S α : Type}

/-! ### Journals in a row -/

namespace Journal

/-- Journals one after the other. -/
def joined : List (Journal ε) → Journal ε
  | [] => empty
  | first :: rest => first ++ joined rest

theorem joined_concat (journals : List (Journal ε)) (last : Journal ε) :
    joined (journals ++ [last]) = joined journals ++ last := by
  induction journals with
  | nil =>
    rw [List.nil_append, joined, joined, empty_append]
    exact append_empty last
  | cons first rest ih => rw [List.cons_append, joined, joined, ih, append_assoc]

@[simp] theorem events_joined (journals : List (Journal ε)) :
    (joined journals).events = journals.flatMap Journal.events := by
  induction journals with
  | nil => rfl
  | cons first rest ih => rw [joined, events_append, ih, List.flatMap_cons]

@[simp] theorem log_joined (journals : List (Journal ε)) :
    (joined journals).log = journals.flatMap Journal.log := by
  induction journals with
  | nil => rfl
  | cons first rest ih => rw [joined, log_append, ih, List.flatMap_cons]

@[simp] theorem samples_joined (journals : List (Journal ε)) :
    (joined journals).samples = journals.flatMap Journal.samples := by
  induction journals with
  | nil => rfl
  | cons first rest ih => rw [joined, samples_append, ih, List.flatMap_cons]

end Journal

namespace Outcome

/-- The outcome of something that another journal goes before. -/
def after (gone : Journal ε) (outcome : Outcome ε S α) : Outcome ε S α :=
  ⟨outcome.result, gone ++ outcome.journal, outcome.state⟩

theorem after_empty (outcome : Outcome ε S α) : outcome.after .empty = outcome := by
  rw [after, Journal.empty_append]

theorem after_after (first second : Journal ε) (outcome : Outcome ε S α) :
    (outcome.after second).after first = outcome.after (first ++ second) := by
  rw [after, after, after, Journal.append_assoc]

end Outcome

/-! ### Turns -/

namespace Action

/-- The state after a body was run a number of times. -/
def stateAfter (body : Action ε S α) (start : S) (count : Nat) : S :=
  (fun state => (body state).state)^[count] start

/-- The run of a body that a number of runs go before. -/
def turn (body : Action ε S α) (start : S) (place : Nat) : Outcome ε S α :=
  body (body.stateAfter start place)

variable (body : Action ε S α) (start : S)

theorem stateAfter_succ (count : Nat) :
    body.stateAfter start (count + 1) = (body.turn start count).state :=
  Function.iterate_succ_apply' _ _ _

/-! ### Records -/

/-- A body that keeps a record of its results. -/
def recorded : Action ε (S × List (Except Fault α)) α := fun state =>
  let outcome := body state.1
  ⟨outcome.result, outcome.journal, (outcome.state, state.2 ++ [outcome.result])⟩

/-- **The record holds the results of the turns that were taken.** -/
theorem stateAfter_recorded (count : Nat) : body.recorded.stateAfter (start, []) count =
    (body.stateAfter start count,
      (List.range count).map fun place => (body.turn start place).result) := by
  induction count with
  | zero => rfl
  | succ count ih =>
    rw [stateAfter_succ, turn, ih, stateAfter_succ, List.range_succ, List.map_append]
    rfl

/-- The turns do not depend on the record. -/
theorem turn_recorded (place : Nat) : body.recorded.turn (start, []) place =
    ⟨(body.turn start place).result, (body.turn start place).journal,
      body.recorded.stateAfter (start, []) (place + 1)⟩ := by
  rw [stateAfter_succ, turn, stateAfter_recorded]
  rfl

end Action

/-! ### Counters -/

theorem raised_toNat {counter : UInt32} (room : counter.toNat + 1 < UInt32.size) :
    (counter + 1).toNat = counter.toNat + 1 := by
  rw [UInt32.toNat_add]
  exact Nat.mod_eq_of_lt room

end SensorCape
