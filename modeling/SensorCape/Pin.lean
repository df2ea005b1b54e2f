/-
**Pins.**

The controller has four banks of thirty-two lines. A pin is numbered across the banks, so its bank
and its bit within the bank are the quotient and the remainder by thirty-two.

* `Pin.number_eq`, `Pin.eq_of_line`: bank and bit determine the number, and with it the pin.
* `Pin.chipSelect`, `Pin.strobe`, `Pin.muxLow`, `Pin.muxHigh`: the four lines that the buses drive.
-/

namespace SensorCape

/-- The number of lines in a bank. -/
def linesPerBank : Nat := 32

/-- The number of banks. -/
def bankCount : Nat := 4

/-- A controller line, by its number across the banks. -/
structure Pin where
  number : UInt8
  deriving DecidableEq, Repr

namespace Pin

/-- The bank of a pin. Pins from 128 on lie on no bank. -/
def bank (pin : Pin) : Nat :=
  pin.number.toNat / linesPerBank

/-- The bit of a pin within its bank. -/
def bit (pin : Pin) : Nat :=
  pin.number.toNat % linesPerBank

/-- Bank and bit determine the number. -/
theorem number_eq (pin : Pin) : pin.number.toNat = linesPerBank * pin.bank + pin.bit :=
  (Nat.div_add_mod _ _).symm

/-- No two pins are for one line. -/
theorem eq_of_line {pin other : Pin} (bank : pin.bank = other.bank) (bit : pin.bit = other.bit) :
    pin = other := by
  have numbers : pin.number.toNat = other.number.toNat := by rw [number_eq, number_eq, bank, bit]
  cases pin
  cases other
  exact congrArg mk (UInt8.toNat_inj.mp numbers)

/-- The bit lies within the bank. -/
theorem bit_lt (pin : Pin) : pin.bit < linesPerBank :=
  Nat.mod_lt _ (by decide)

/-- The line that frames raw module payloads. -/
def chipSelect : Pin := ⟨5⟩

/-- The line that frames secondary exchanges. -/
def strobe : Pin := ⟨50⟩

/-- The low select line of the local multiplexer. -/
def muxLow : Pin := ⟨48⟩

/-- The high select line of the local multiplexer. -/
def muxHigh : Pin := ⟨51⟩

end Pin

end SensorCape
