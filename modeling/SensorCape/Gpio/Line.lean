/-
**Lines of a bank.**

What is done to a line is done to the words of its bank: the direction is one bit of a word that all
lines of the bank share and is changed by reading and writing the word; a level is driven by one
write that says nothing about the other lines.

* `Pin.mask`: the bit of a pin.
* `Pin.apply`, `Pin.level`: driving and sampling a line.
-/

import SensorCape.Gpio.Register

namespace SensorCape

variable {σ : Type} [Gpio.MemoryDevice σ]

open Gpio (MemoryDevice Register)

/-- The word with a one at the pin's bit only. -/
def Pin.mask (pin : Pin) : UInt32 :=
  1 <<< UInt32.ofNat pin.bit

/-- A register of the pin's bank. -/
def Pin.load (pin : Pin) (register : Register) (memory : σ) : UInt32 :=
  MemoryDevice.load pin.bank register.word memory

/-- Writes a register of the pin's bank. -/
def Pin.store (pin : Pin) (register : Register) (value : UInt32) (memory : σ) : σ :=
  MemoryDevice.store pin.bank register.word value memory

/-- The memory after a line was given a direction or a level. -/
def Pin.apply (pin : Pin) (how : Drive) (memory : σ) : σ :=
  match how with
  | .output => pin.store .outputEnable (pin.load .outputEnable memory &&& ~~~pin.mask) memory
  | .input => pin.store .outputEnable (pin.load .outputEnable memory ||| pin.mask) memory
  | .high => pin.store .setDataOut pin.mask memory
  | .low => pin.store .clearDataOut pin.mask memory

/-- The level on a line. -/
def Pin.level (pin : Pin) (memory : σ) : Level :=
  Level.ofBool (pin.load .dataIn memory &&& pin.mask != 0)

end SensorCape
