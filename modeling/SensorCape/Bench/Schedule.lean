/-
**Planned mishaps.**

A simulated device does as it is told unless a mishap is planned for the call. A plan is a list of
mishaps, each for one call by its name and by how many calls of that name go before it. Of two
mishaps for one call the one listed first happens.

* `strike`: what a call meets, and the plan that is left for the calls after it.
-/

import SensorCape.Fault

namespace SensorCape.Bench

/-- What can go wrong with a call. -/
inductive Mishap
  | fault (fault : Fault)
  | cause (cause : Cause)
  /-- The call claims to have moved a number of bytes. -/
  | count (bytes : Nat)
  deriving DecidableEq, Repr

/-- A mishap for a call that `after` calls of the same name go before. -/
structure Planned (κ : Type) where
  call : κ
  after : Nat
  mishap : Mishap
  deriving DecidableEq, Repr

variable {κ : Type} [DecidableEq κ]

/-- Whether a mishap is for this very call. -/
def Planned.isDue (call : κ) (planned : Planned κ) : Bool :=
  planned.call = call && planned.after == 0

/-- What is left of a planned mishap once a call has been made. -/
def Planned.afterCall? (call : κ) (planned : Planned κ) : Option (Planned κ) :=
  if planned.call = call then
    match planned.after with
    | 0 => none
    | after + 1 => some { planned with after }
  else some planned

/-- What a call meets, and the plan for the calls after it. -/
def strike (call : κ) (plan : List (Planned κ)) : Option Mishap × List (Planned κ) :=
  ((plan.find? (Planned.isDue call)).map Planned.mishap, plan.filterMap (Planned.afterCall? call))

/-- Nothing goes wrong where nothing is planned. -/
theorem strike_nil (call : κ) : strike call ([] : List (Planned κ)) = (none, []) := rfl

/-- The fault of a mishap. -/
def Mishap.fault? : Mishap → Option Fault
  | .fault it => some it
  | _ => none

/-- The cause of a mishap. -/
def Mishap.cause? : Mishap → Option Cause
  | .cause it => some it
  | _ => none

/-- What a call that moves `bytes` bytes answers after a mishap. -/
def Mishap.counted (bytes : Nat) : Option Mishap → Count
  | some (.cause it) => .refused it
  | some (.count claimed) => .moved claimed
  | some (.fault _) | none => .moved bytes

end SensorCape.Bench
