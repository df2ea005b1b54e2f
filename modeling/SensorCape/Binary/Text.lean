/-
**Texts of binary numbers.**

Two texts are in use. Telemetry writes one decimal, rounded exactly with a half to even
(`oneDecimal`). Messages about the settings file write the fewest digits that read back as the
number, without an exponent (`plain`).

* `oneDecimal` keeps the sign of zero and of what rounds to zero.
* `shortest` takes the first decimal grid that has a point between the two neighbouring midpoints.
-/

import SensorCape.Binary.Format

namespace SensorCape.Binary

/-! ### One decimal -/

/-- The tenths nearest to `significand · 2 ^ exponent`, a half going to even. -/
def tenths (significand : Nat) (exponent : Int) : Nat :=
  roundHalfEven (significand * 10 * twoTo exponent.toNat) (twoTo (-exponent).toNat)

/-- A minus sign where the number has one. -/
def signText (negative : Bool) : String :=
  if negative then "-" else ""

/-- The text of a quantity with one decimal. -/
def Quantity.oneDecimal : Quantity → String
  | .finite negative significand exponent =>
    let rounded := tenths significand exponent
    s!"{signText negative}{rounded / 10}.{rounded % 10}"
  | .infinite negative => signText negative ++ "inf"
  | .nan => "NaN"

/-! ### The fewest digits -/

/-- A positive number with the ends of the interval of numbers that round to it, all three over
one denominator. -/
structure Neighbourhood where
  low : Nat
  value : Nat
  high : Nat
  denominator : Nat
  /-- Whether the ends themselves round to the number. -/
  closed : Bool

/-- The neighbourhood of `significand · 2 ^ exponent` in a format. Below a power of two the
neighbour is only half as far away. -/
def Format.neighbourhood (format : Format) (significand : Nat) (exponent : Int) : Neighbourhood :=
  let below :=
    if significand = format.fractions ∧ format.leastExponent < exponent then 1 else 2
  let power := exponent - 2
  let scale := twoTo power.toNat
  { low := (4 * significand - below) * scale
    value := 4 * significand * scale
    high := (4 * significand + 2) * scale
    denominator := twoTo (-power).toNat
    closed := significand % 2 = 0 }

/-- The same neighbourhood measured in units of `10 ^ power`. -/
def Neighbourhood.inUnits (around : Neighbourhood) (power : Int) : Neighbourhood :=
  let scale := tenTo (-power).toNat
  { around with
    low := around.low * scale
    value := around.value * scale
    high := around.high * scale
    denominator := around.denominator * tenTo power.toNat }

/-- Whether a whole number of units rounds to the number. -/
def Neighbourhood.admits (around : Neighbourhood) (units : Nat) : Bool :=
  let scaled := units * around.denominator
  if around.closed then around.low ≤ scaled && scaled ≤ around.high
  else around.low < scaled && scaled < around.high

/-- The whole number of units nearest to the number among those that round to it. -/
def Neighbourhood.wholeUnits? (around : Neighbourhood) : Option Nat :=
  let below := around.value / around.denominator
  let above := below + 1
  match around.admits below, around.admits above with
  | true, true =>
    if above * around.denominator + below * around.denominator ≤ 2 * around.value then some above
    else some below
  | true, false => some below
  | false, true => some above
  | false, false => none

/-- The power of ten of the first digit. -/
def Neighbourhood.leadingPower (around : Neighbourhood) : Int :=
  if around.denominator ≤ around.value then
    ((Nat.toDigits 10 (around.value / around.denominator)).length : Int) - 1
  else
    let reaches (places : Nat) : Bool := around.denominator ≤ around.value * tenTo places
    Int.negOfNat (((List.range 400).find? reaches).getD 400)

/-- The decimal `digits · 10 ^ power` with the fewest digits that reads back as the number. Some
grid of at most seventeen digits has a point in the neighbourhood of a number of eight bytes. -/
def Format.shortest (format : Format) (significand : Nat) (exponent : Int) : Nat × Int :=
  let around := format.neighbourhood significand exponent
  let leading := around.leadingPower
  let onGrid (count : Nat) : Option (Nat × Int) :=
    let power := leading - count
    ((around.inUnits power).wholeUnits?).map fun units => (units, power)
  ((List.range 20).findSome? onGrid).getD (0, 0)

/-- A decimal written out in full, with a point and at least one digit after it. -/
def plainDecimal (digits : Nat) (power : Int) : String :=
  if power < 0 then
    let places := (-power).toNat
    let whole := digits / tenTo places
    let rest := Nat.toDigits 10 (digits % tenTo places)
    let fraction := List.replicate (places - rest.length) '0' ++ rest
    let kept := (fraction.reverse.dropWhile (· == '0')).reverse
    s!"{whole}." ++ (if kept.isEmpty then "0" else String.ofList kept)
  else s!"{digits * tenTo power.toNat}.0"

/-- The text of a quantity with the fewest digits that read back, never with an exponent. -/
def Format.plain (format : Format) : Quantity → String
  | .finite negative 0 _ => signText negative ++ "0.0"
  | .finite negative significand exponent =>
    let decimal := format.shortest significand exponent
    signText negative ++ plainDecimal decimal.1 decimal.2
  | .infinite negative => signText negative ++ "inf"
  | .nan => "NaN"

end SensorCape.Binary
