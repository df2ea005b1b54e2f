/-
**Request numbers.**

The kernel's device nodes take requests by a number that packs the direction of the data, the
letter of the device family, the number within the family, and the size of the data.

* `Request.number`: the packed number.
* The requests of the serial node; its exchange takes one record of thirty-two bytes.
-/

namespace SensorCape.Kernel

/-- A request that hands data to the kernel. -/
structure Request where
  /-- The letter of the device family. -/
  family : Char
  number : Nat
  /-- The number of bytes handed over. -/
  size : Nat
  deriving DecidableEq, Repr

/-- The bits that say that data is handed to the kernel. -/
def handsOver : Nat := 1

/-- The packed number of a request. -/
def Request.packed (request : Request) : Nat :=
  handsOver <<< 30 ||| request.size <<< 16 ||| request.family.toNat <<< 8 ||| request.number

/-- The number of bytes of the record of one exchange. -/
def exchangeRecord : Nat := 32

/-- Writes the mode word. -/
def Request.mode : Request := ⟨'k', 1, 1⟩

/-- Writes the word size. -/
def Request.wordSize : Request := ⟨'k', 3, 1⟩

/-- Writes the clock speed. -/
def Request.speed : Request := ⟨'k', 4, 4⟩

/-- Makes one exchange. -/
def Request.exchange : Request := ⟨'k', 0, exchangeRecord⟩

/-- Binds a register-bus node to a target address. This request is older than the packing. -/
def bindTarget : Nat := 0x0703

end SensorCape.Kernel
