/-
**Moments.**

A date, a time of the day, or a date with a time and perhaps an offset. The settings have no use for
moments, so only their form is read: the numbers must be those of a calendar and a clock.

* `moment`: reads a moment.
-/

import SensorCape.Toml.Number

namespace SensorCape.Toml

/-- Reads a number of so many digits. -/
def fixedDigits (count : Nat) (text : List Char) : Option (Nat × List Char) :=
  let read := text.take count
  if read.length = count ∧ read.all isDigit then some (decimal read, text.drop count) else none

/-- Reads two digits within bounds. -/
def pair (low high : Nat) (text : List Char) : Option (Nat × List Char) := do
  let (number, rest) ← fixedDigits 2 text
  if low ≤ number ∧ number ≤ high then some (number, rest) else none

/-- Drops a character. -/
def expect (wanted : Char) : List Char → Option (List Char)
  | c :: rest => if c == wanted then some rest else none
  | [] => none

/-- Whether a year has a leap day. -/
def isLeapYear (year : Nat) : Bool :=
  year % 4 == 0 && (year % 100 != 0 || year % 400 == 0)

/-- The number of days of a month. -/
def daysOfMonth (year month : Nat) : Nat :=
  if month = 2 then (if isLeapYear year then 29 else 28)
  else if month = 4 ∨ month = 6 ∨ month = 9 ∨ month = 11 then 30
  else 31

/-- Drops a date. -/
def date (text : List Char) : Option (List Char) := do
  let (year, rest) ← fixedDigits 4 text
  let (month, rest) ← pair 1 12 (← expect '-' rest)
  let (_, rest) ← pair 1 (daysOfMonth year month) (← expect '-' rest)
  return rest

/-- Drops a fraction of a second, if there is one. -/
def subsecond : List Char → Option (List Char)
  | '.' :: c :: rest => if isDigit c then some (rest.dropWhile isDigit) else none
  | text => some text

/-- Drops a time of the day. -/
def clockTime (text : List Char) : Option (List Char) := do
  let (_, rest) ← pair 0 23 text
  let (_, rest) ← pair 0 59 (← expect ':' rest)
  let (_, rest) ← pair 0 60 (← expect ':' rest)
  subsecond rest

/-- Drops hours and minutes. -/
def hoursMinutes (text : List Char) : Option (List Char) := do
  let (_, rest) ← pair 0 23 text
  let (_, rest) ← pair 0 59 (← expect ':' rest)
  return rest

/-- Drops an offset, if there is one. -/
def offset : List Char → Option (List Char)
  | [] => some []
  | c :: rest =>
    if c == 'Z' || c == 'z' then some rest
    else if c == '+' || c == '-' then hoursMinutes rest
    else some (c :: rest)

/-- Drops the time that follows a date. -/
def timeAfterDate : List Char → Option (List Char)
  | c :: rest =>
    if c == 'T' || c == 't' || c == ' ' then (clockTime rest).bind offset else none
  | [] => none

/-- Reads a moment. -/
def moment (text : List Char) : Option (Value × List Char) :=
  match date text with
  | some rest => some (.moment, (timeAfterDate rest).getD rest)
  | none => (clockTime text).map fun rest => (.moment, rest)

end SensorCape.Toml
