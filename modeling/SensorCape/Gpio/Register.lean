/-
**The registers of a bank.**

The controller shows each bank as a window of physical memory. A line is one bit of the words in its
bank's window: its direction in one register, its level in another, and two registers that drive
the lines whose bits are written as ones, so that driving a line needs no knowledge of the others.

* `MemoryDevice`: memory that may refuse to be opened or mapped, but once mapped always answers.
* `Memory`: plain memory, where a word keeps what was stored last.
-/

import SensorCape.Devices

namespace SensorCape.Gpio

/-! ### Addresses -/

/-- The physical addresses of the four banks. -/
def bankBases : List Nat := [0x44E07000, 0x4804C000, 0x481AC000, 0x481AE000]

/-- The number of bytes of a bank's window. -/
def windowLength : Nat := 0x1000

/-- The registers of a bank that lines use. -/
inductive Register
  /-- A zero makes a line an output. -/
  | outputEnable
  /-- The levels on the lines. -/
  | dataIn
  /-- The levels that outputs are driven to. -/
  | dataOut
  /-- Ones drive lines low. -/
  | clearDataOut
  /-- Ones drive lines high. -/
  | setDataOut
  deriving DecidableEq, Repr

/-- The place of a register in its window, in bytes. -/
def Register.offset : Register → Nat
  | .outputEnable => 0x134
  | .dataIn => 0x138
  | .dataOut => 0x13C
  | .clearDataOut => 0x190
  | .setDataOut => 0x194

/-- The registers in the order of their places. -/
def registers : List Register :=
  [.outputEnable, .dataIn, .dataOut, .clearDataOut, .setDataOut]

/-- The number of bytes of a word. -/
def wordLength : Nat := 4

/-- The number of a register's word in its window. -/
def Register.word (register : Register) : Nat :=
  register.offset / wordLength

/-! ### Memory -/

/-- States of a memory device. Words are found by a bank and a number within its window. -/
class MemoryDevice (σ : Type) where
  /-- The device is opened. -/
  acquire : σ → Option Cause × σ
  /-- The window of a bank is mapped. -/
  map : (bank : Nat) → σ → Option Cause × σ
  load : (bank word : Nat) → σ → UInt32
  store : (bank word : Nat) → UInt32 → σ → σ

/-- Plain memory, which is never refused. -/
structure Memory where
  words : (bank word : Nat) → UInt32

namespace Memory

/-- Memory that holds nothing but zeros. -/
def zeroed : Memory := ⟨fun _ _ => 0⟩

/-- The memory after a word was stored. -/
def store (bank word : Nat) (value : UInt32) (memory : Memory) : Memory :=
  ⟨fun otherBank otherWord =>
    if otherBank = bank ∧ otherWord = word then value else memory.words otherBank otherWord⟩

end Memory

instance : MemoryDevice Memory where
  acquire memory := (none, memory)
  map _ memory := (none, memory)
  load bank word memory := memory.words bank word
  store := Memory.store

end SensorCape.Gpio
