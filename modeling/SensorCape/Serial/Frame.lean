/-
**Module addresses and address frames.**

Every module on the serial bus listens for a frame of one byte:

    bit  7   6   5   4   3   2   1   0
       [ P | A3  A2  A1  A0 | I2  I1  I0 ]

with the module's address in bits 3 to 6, what is intended with the module in bits 0 to 2, and a
parity bit that makes the number of ones among bits 3 to 7 even.

* `ModuleAddress`: an address that fits the four bits, by construction.
* `parity_toNat`: the parity bit is one exactly if the number of ones is odd.
* `Frame.byte`: the byte of a frame.
-/

import SensorCape.Fault

namespace SensorCape.Serial

/-! ### Addresses -/

/-- The highest module address. -/
def maxModuleAddress : UInt8 := 15

/-- The address of a module. -/
structure ModuleAddress where
  value : UInt8
  inRange : value ≤ maxModuleAddress
  deriving DecidableEq, Repr

/-- A byte as a module address. -/
def ModuleAddress.checked (byte : UInt8) : Except Fault ModuleAddress :=
  if inRange : byte ≤ maxModuleAddress then .ok ⟨byte, inRange⟩
  else .error (.contractViolation .moduleAddressRange)

/-- The byte of a module address is that address. -/
theorem ModuleAddress.checked_value (address : ModuleAddress) :
    ModuleAddress.checked address.value = .ok address := dif_pos address.inRange

/-! ### Intents -/

/-- What is intended with the module that a frame addresses. -/
inductive Intent
  /-- The module shall take a payload. -/
  | write
  /-- The module shall arm a read. -/
  | readReady
  /-- The module shall give out what it armed. -/
  | readExecute
  deriving DecidableEq, Repr

/-- The three bits of an intent. -/
def Intent.code : Intent → UInt8
  | .write => 1
  | .readReady => 2
  | .readExecute => 3

/-! ### Parity -/

/-- A byte folded onto itself: to each bit, the one some places above it is added without carry. -/
def folded (places byte : UInt8) : UInt8 := byte ^^^ (byte >>> places)

/-- The bit that makes the number of ones even. Three folds add up all bits of a byte in its lowest
one. -/
def parity (byte : UInt8) : UInt8 := folded 4 (folded 2 (folded 1 byte)) &&& 1

theorem testBit_folded (places byte : UInt8) (place : Nat) :
    (folded places byte).toNat.testBit place =
      (byte.toNat.testBit place ^^ byte.toNat.testBit (places.toNat % 8 + place)) := by
  rw [folded, UInt8.toNat_xor, UInt8.toNat_shiftRight, Nat.testBit_xor, Nat.testBit_shiftRight]

/-- Bits that are added without carry give one exactly if an odd number of them is one. -/
theorem foldr_xor (places : List Nat) (isOne : Nat → Bool) :
    places.foldr (fun place sum => isOne place ^^ sum) false =
      decide (places.countP isOne % 2 = 1) := by
  induction places with
  | nil => rfl
  | cons place rest ih =>
    rw [List.foldr_cons, ih, List.countP_cons]
    cases isOne place with
    | false => simp
    | true =>
      rw [Bool.true_xor, ← decide_not, if_pos rfl]
      exact decide_eq_decide.mpr (by omega)

/-- The number of ones of a byte. -/
def ones (byte : UInt8) : Nat := (List.range 8).countP byte.toNat.testBit

/-- **The parity bit is one exactly if the number of ones is odd**, and otherwise zero. -/
theorem parity_toNat (byte : UInt8) : (parity byte).toNat = ones byte % 2 := by
  have odd : (folded 4 (folded 2 (folded 1 byte))).toNat % 2 = 1 ↔ ones byte % 2 = 1 := by
    rw [ones, ← decide_eq_decide, ← foldr_xor, ← Nat.testBit_zero]
    simp only [testBit_folded]
    -- both are the sum of the same eight bits, in brackets of their own
    simp [List.range, List.range.loop]
  have lowest : (parity byte).toNat = (folded 4 (folded 2 (folded 1 byte))).toNat % 2 := by
    rw [parity, UInt8.toNat_and, UInt8.toNat_one, Nat.and_one_is_mod]
  omega

/-! ### Frames -/

/-- An address frame. -/
structure Frame where
  address : ModuleAddress
  intent : Intent
  deriving DecidableEq, Repr

/-- A frame for a byte that should be a module address. -/
def Frame.checked (byte : UInt8) (intent : Intent) : Except Fault Frame :=
  (ModuleAddress.checked byte).map fun address => ⟨address, intent⟩

/-- The parity bit of a frame. -/
def Frame.parity (frame : Frame) : UInt8 := Serial.parity frame.address.value

/-- The byte of a frame. -/
def Frame.byte (frame : Frame) : UInt8 :=
  (((frame.parity <<< 4) ||| frame.address.value) <<< 3) ||| frame.intent.code

end SensorCape.Serial
