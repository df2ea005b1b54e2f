/-
**Outlets.**

The power board is a module that takes one command byte: outlet `i` is bit `i + 1`, and bit 0 is
unused. So one byte has room for seven outlets.

* `Outlets.mask`: the command byte. The shift is taken modulo the width of the byte, so outlets
  that do not fit share its bits; the check of the settings refuses them.
-/

namespace SensorCape

/-- The power board's module address and the states its outlets shall have, the first outlet
first. -/
structure Outlets where
  address : UInt8
  states : List Bool
  deriving DecidableEq, Repr

/-- The number of outlets that fit the command byte. -/
def maxOutlets : Nat := 7

/-- The bits of the outlets that are on, `place` being the first one's. -/
def outletBits : (place : UInt8) → List Bool → UInt8
  | _, [] => 0
  | place, state :: rest => (if state then 1 <<< place else 0) ||| outletBits (place + 1) rest

/-- The command byte. -/
def Outlets.mask (outlets : Outlets) : UInt8 :=
  outletBits 1 outlets.states

end SensorCape
