/-
**Binary interchange formats.**

A binary floating-point number is a word with a sign bit, an exponent field and a fraction field.
A `Format` gives the widths of the two fields; everything else follows from them. Decoding is exact
(`Quantity`: a sign, a natural significand and a power of two), and the only rounding is `nearest`,
which is to the nearest representable number with ties to an even significand.

* `roundHalfEven_close`: a rounded quotient is within half a unit of the quotient.
* `Format.nearest`: the word of the representable number nearest to a quotient of naturals.
-/

namespace SensorCape.Binary

/-! ### Powers -/

/-- A power of two. -/
def twoTo (exponent : Nat) : Nat := Nat.pow 2 exponent

/-- A power of ten. -/
def tenTo (exponent : Nat) : Nat := Nat.pow 10 exponent

/-! ### Rounding a quotient -/

/-- The natural number nearest to `dividend / divisor`; a half goes to the even neighbour. -/
def roundHalfEven (dividend divisor : Nat) : Nat :=
  let quotient := dividend / divisor
  let remainder := dividend % divisor
  if divisor < 2 * remainder ∨ (2 * remainder = divisor ∧ quotient % 2 = 1) then quotient + 1
  else quotient

/-- **A rounded quotient is within half a unit of the quotient.** -/
theorem roundHalfEven_close (dividend divisor : Nat) (positive : 0 < divisor) :
    2 * dividend ≤ divisor * (2 * roundHalfEven dividend divisor + 1) ∧
      divisor * (2 * roundHalfEven dividend divisor) ≤ 2 * dividend + divisor := by
  have split := Nat.div_add_mod dividend divisor
  have small := Nat.mod_lt dividend positive
  have double : divisor * (2 * (dividend / divisor)) = 2 * (divisor * (dividend / divisor)) :=
    Nat.mul_left_comm _ _ _
  simp only [roundHalfEven]
  split
  · simp only [Nat.mul_add, Nat.mul_one]
    omega
  · simp only [Nat.mul_add, Nat.mul_one]
    omega

/-! ### Formats -/

/-- A binary interchange format, given by the widths of its two fields. -/
structure Format where
  fractionBits : Nat
  exponentBits : Nat
  deriving DecidableEq, Repr

/-- Four bytes: 23 bits of fraction, 8 of exponent. -/
def single : Format := ⟨23, 8⟩

/-- Eight bytes: 52 bits of fraction, 11 of exponent. -/
def double : Format := ⟨52, 11⟩

/-- What a word stands for: `±significand · 2 ^ exponent`, an infinity, or no number. -/
inductive Quantity
  | finite (negative : Bool) (significand : Nat) (exponent : Int)
  | infinite (negative : Bool)
  | nan
  deriving DecidableEq, Repr

namespace Format

/-- The number of fractions. -/
def fractions (format : Format) : Nat := twoTo format.fractionBits

/-- The number of exponent fields. -/
def exponents (format : Format) : Nat := twoTo format.exponentBits

/-- The power of two that the last bit of the smallest numbers stands for. -/
def leastExponent (format : Format) : Int :=
  2 - (twoTo (format.exponentBits - 1) : Nat) - format.fractionBits

/-- The word of positive infinity, above the words of all finite positive numbers. -/
def infinity (format : Format) : Nat :=
  (format.exponents - 1) * format.fractions

/-- The place of the sign bit. -/
def signPlace (format : Format) : Nat :=
  format.exponents * format.fractions

/-- The quantity that a word stands for. -/
def decode (format : Format) (word : Nat) : Quantity :=
  let fraction := word % format.fractions
  let biased := word / format.fractions % format.exponents
  let negative := word / format.signPlace % 2 == 1
  if biased = format.exponents - 1 then
    if fraction = 0 then .infinite negative else .nan
  else if biased = 0 then .finite negative fraction format.leastExponent
  else
    .finite negative (format.fractions + fraction) (format.leastExponent + (biased - 1 : Nat))

/-- The greatest exponent at which the quotient still fills the significand. -/
def floorExponent (format : Format) (dividend divisor : Nat) : Int :=
  let guess : Int := (dividend.log2 : Int) - divisor.log2
  let reached := divisor * twoTo guess.toNat ≤ dividend * twoTo (-guess).toNat
  (if reached then guess else guess - 1) - format.fractionBits

/-- The word of the number nearest to `dividend / divisor`; beyond the finite numbers it is the
word of infinity. The words of positive numbers are consecutive, so a significand that rounds up
to the next power of two carries into the exponent by itself. -/
def nearest (format : Format) (dividend divisor : Nat) : Nat :=
  if dividend = 0 then 0
  else
    let exponent := max format.leastExponent (format.floorExponent dividend divisor)
    let significand :=
      roundHalfEven (dividend * twoTo (-exponent).toNat) (divisor * twoTo exponent.toNat)
    let steps := (exponent - format.leastExponent).toNat
    min format.infinity (steps * format.fractions + significand)

/-- The word nearest to the decimal `digits · 10 ^ power`. Powers beyond the reach of every format
in use are settled without computing them. -/
def nearestDecimal (format : Format) (digits : Nat) (power : Int) : Nat :=
  let magnitude := power + (Nat.toDigits 10 digits).length
  if digits = 0 ∨ magnitude < -400 then 0
  else if 400 < magnitude then format.infinity
  else format.nearest (digits * tenTo power.toNat) (tenTo (-power).toNat)

end Format

end SensorCape.Binary
