/-
**Trying again.**

A read that fails may be repeated a bounded number of times, unless its fault says that the hardware
is unusable. Every failure but the last leaves a log record.

* `retry`: at least one attempt is made, whatever the bound; the result is that of the last one.
-/

import SensorCape.Action

namespace SensorCape.Poll

variable {ε S α : Type}

/-- Makes an attempt, the `attempt`-th of `attempts`, and up to `left` more. -/
def retryFrom (attempts : UInt32) (body : Action ε S α) :
    (left : Nat) → (attempt : UInt32) → Action ε S α
  | 0, _ => body
  | left + 1, attempt => do
    match ← Action.attempt body with
    | .ok value => pure value
    | .error fault =>
      if fault.isFatal then Action.fail fault
      else
        Action.note .debug s!"attempt {attempt}/{attempts} failed: {fault.message}"
        retryFrom attempts body left (attempt + 1)

/-- Makes attempts until one succeeds, one fails for good, or there were as many as allowed. -/
def retry (attempts : UInt32) (body : Action ε S α) : Action ε S α :=
  retryFrom attempts body (attempts.toNat - 1) 1

end SensorCape.Poll
