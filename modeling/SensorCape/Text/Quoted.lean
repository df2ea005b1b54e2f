/-
**Quoted texts.**

A text as messages quote it: between quotation marks, with a backslash before a mark or a
backslash, with letters for the usual controls, and with its code for every other character that
would not show.

* `quoted`: the quoted text.
-/

import SensorCape.Text.Shapeless

namespace SensorCape.Text

/-- The characters that are written as a backslash and another character. -/
def shortEscapes : List (Char × Char) :=
  [('\x00', '0'), ('\t', 't'), ('\r', 'r'), ('\n', 'n'), ('\x5c', '\x5c'), ('\x22', '\x22')]

/-- A character as it is written between quotation marks. -/
def quotedChar (c : Char) : List Char :=
  match shortEscapes.lookup c with
  | some letter => ['\x5c', letter]
  | none =>
    if isShapeless c then ['\x5c', 'u', '\x7b'] ++ Nat.toDigits 16 c.toNat ++ ['\x7d']
    else [c]

/-- A text between quotation marks. -/
def quoted (text : String) : String :=
  String.ofList (['\x22'] ++ text.toList.flatMap quotedChar ++ ['\x22'])

end SensorCape.Text
