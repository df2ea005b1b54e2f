/-
**Numbers.**

Integers are written in base ten with an optional sign, or in base sixteen, eight or two without
one, and must fit eight bytes. Floats have a fraction or an exponent. Underscores may stand between
digits, and a number in base ten does not begin with a zero that could be left out.

* `number`: an integer or a float. A decimal too large for a float is refused, unless it is
  negative.
-/

import SensorCape.Binary.Format
import SensorCape.Toml.Quoted
import SensorCape.Toml.Value

namespace SensorCape.Toml

/-! ### Digits -/

/-- Takes digits after a first one, with single underscores between them. -/
def moreDigits (accepts : Char → Bool) : List Char → List Char × List Char
  | '_' :: c :: rest =>
    if accepts c then
      let more := moreDigits accepts rest
      (c :: more.1, more.2)
    else ([], '_' :: c :: rest)
  | c :: rest =>
    if accepts c then
      let more := moreDigits accepts rest
      (c :: more.1, more.2)
    else ([], c :: rest)
  | [] => ([], [])

/-- Reads one or more digits. -/
def digits (accepts : Char → Bool) : Reader (List Char)
  | c :: rest =>
    if accepts c then
      let more := moreDigits accepts rest
      some (c :: more.1, more.2)
    else none
  | [] => none

/-- Reads digits of which the first is zero only if it is alone. -/
def wholeDigits : Reader (List Char)
  | '0' :: rest => some (['0'], rest)
  | text => digits isDigit text

/-- Reads a sign; true is a minus. -/
def sign : List Char → Bool × List Char
  | '-' :: rest => (true, rest)
  | '+' :: rest => (false, rest)
  | text => (false, text)

/-- The number that decimal digits stand for. -/
def decimal (digits : List Char) : Nat :=
  digits.foldl (fun number digit => number * 10 + (digit.toNat - 0x30)) 0

/-- A number with its sign. -/
def signed (negative : Bool) (number : Nat) : Int :=
  if negative then -number else number

/-! ### Integers -/

/-- How far integers of eight bytes reach from zero. -/
def reach : Int := 0x8000000000000000

/-- An integer that fits eight bytes. -/
def bounded (number : Int) : Option Value :=
  if -reach ≤ number ∧ number < reach then some (.integer number) else none

/-- Reads an integer in a base that its mark names. -/
def marked (base : Nat) (text : List Char) : Option (Value × List Char) := do
  let accepts := fun c => (hexDigit? c).any (· < base)
  let (read, rest) ← digits accepts text
  let number := read.foldl (fun number digit => number * base + (hexDigit? digit).getD 0) 0
  return (← bounded number, rest)

/-- Reads an integer. -/
def integer : Reader Value
  | '0' :: 'x' :: rest => marked 16 rest
  | '0' :: 'o' :: rest => marked 8 rest
  | '0' :: 'b' :: rest => marked 2 rest
  | text => do
    let (negative, text) := sign text
    let (read, rest) ← wholeDigits text
    return (← bounded (signed negative (decimal read)), rest)

/-! ### Floats -/

/-- Reads a fraction; without one there are no digits. -/
def fraction : Reader (List Char)
  | '.' :: rest => digits isDigit rest
  | text => some ([], text)

/-- Reads an exponent; without one it is zero. -/
def exponent : Reader Int
  | c :: rest =>
    if c == 'e' || c == 'E' then do
      let (negative, rest) := sign rest
      let (read, rest) ← digits isDigit rest
      return (signed negative (decimal read), rest)
    else some (0, c :: rest)
  | [] => some (0, [])

/-- The word of a number with its sign. -/
def signedWord (negative : Bool) (word : Nat) : Nat :=
  if negative then Binary.double.signPlace + word else word

/-- The float of a decimal; positive infinity is no float of a decimal. -/
def floatOf (negative : Bool) (digits : List Char) (power : Int) : Option Value :=
  let word := Binary.double.nearestDecimal (decimal digits) power
  if !negative && word == Binary.double.infinity then none
  else some (.float (signedWord negative word))

/-- Reads a float that has a fraction or an exponent. -/
def decimalFloat (text : List Char) : Option (Value × List Char) := do
  let (negative, text) := sign text
  let (whole, afterWhole) ← wholeDigits text
  let (part, afterPart) ← fraction afterWhole
  let (power, rest) ← exponent afterPart
  if rest.length = afterWhole.length then none
  else return (← floatOf negative (whole ++ part) (power - part.length), rest)

/-- Reads a float that is no number of digits. -/
def namedFloat (text : List Char) : Option (Value × List Char) :=
  let (negative, text) := sign text
  match text with
  | 'i' :: 'n' :: 'f' :: rest =>
    some (.float (signedWord negative Binary.double.infinity), rest)
  | 'n' :: 'a' :: 'n' :: rest =>
    some (.float (signedWord negative (Binary.double.infinity + 1)), rest)
  | _ => none

/-- Reads a number. -/
def number (text : List Char) : Option (Value × List Char) :=
  decimalFloat text <|> namedFloat text <|> integer text

end SensorCape.Toml
