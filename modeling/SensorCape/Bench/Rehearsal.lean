/-
**A rehearsed cycle.**

A cycle whose outcomes are prepared, one for each call. Once they are used up it fails for good.

* `perform`: the next outcome; a success returns the number of the call.
-/

import SensorCape.Action

namespace SensorCape.Bench

/-- Prepared outcomes, and the number of calls so far. -/
structure Rehearsal where
  outcomes : List (Option Fault)
  calls : Nat
  deriving DecidableEq, Repr

/-- The next prepared outcome. -/
def perform : Action Unit Rehearsal Nat := do
  let rehearsal ← Action.get
  Action.modify fun rehearsal => ⟨rehearsal.outcomes.tail, rehearsal.calls + 1⟩
  match rehearsal.outcomes with
  | [] => Action.fail (.invalidPin 255)
  | none :: _ => pure rehearsal.calls
  | some fault :: _ => Action.fail fault

end SensorCape.Bench
