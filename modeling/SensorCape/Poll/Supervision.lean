/-
**Supervising a polling loop.**

A loop repeats its cycle for as long as the hardware is usable. Failed cycles are counted from the
last success on and logged; a fault that makes the hardware unusable ends the loop.

* `supervise`: the loop, watched for a number of cycles. `Watch.running` says that it would go on.
-/

import SensorCape.Action

namespace SensorCape.Poll

/-- How a loop is found after it was watched. -/
inductive Watch
  | stopped
  | running
  deriving DecidableEq, Repr

variable {ε S : Type}

/-- Repeats a cycle after a number of failures in a row, for a number of cycles at most. -/
def superviseFrom (name : String) (cycle : Action ε S Unit) :
    (cycles : Nat) → (failures : UInt64) → Action ε S Watch
  | 0, _ => pure .running
  | cycles + 1, failures => do
    match ← Action.attempt cycle with
    | .ok () => superviseFrom name cycle cycles 0
    | .error fault =>
      Action.note .warn s!"{name}: {fault.message} ({failures + 1} consecutive failures)"
      if fault.isFatal then
        Action.note .warn s!"{name}: stopping, hardware unusable"
        pure .stopped
      else superviseFrom name cycle cycles (failures + 1)

/-- Repeats a cycle until a fault ends the loop, for a number of cycles at most. -/
def supervise (name : String) (cycle : Action ε S Unit) (cycles : Nat) : Action ε S Watch :=
  superviseFrom name cycle cycles 0

end SensorCape.Poll
