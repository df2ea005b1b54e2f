/-
**Strings.**

Strings come with quotes, in which a backslash escapes, or with apostrophes, in which nothing does.
Either sort has a form between triple marks that runs over lines. There, a line end right after the
opening marks does not count, up to two marks may stand next to the closing ones, and a backslash at
the end of a line swallows the blanks up to the next word.

* `string`: a string of any of the four forms.
-/

import SensorCape.Toml.Scan

namespace SensorCape.Toml

/-! ### Escapes -/

/-- The value of a hexadecimal digit. -/
def hexDigit? (c : Char) : Option Nat :=
  if '0' ≤ c && c ≤ '9' then some (c.toNat - 0x30)
  else if 'a' ≤ c && c ≤ 'f' then some (c.toNat - 0x61 + 10)
  else if 'A' ≤ c && c ≤ 'F' then some (c.toNat - 0x41 + 10)
  else none

/-- The number that hexadecimal digits stand for. -/
def hexNumber? (digits : List Char) : Option Nat :=
  digits.foldlM (fun number digit => (hexDigit? digit).map (number * 16 + ·)) 0

/-- The character that an escape names by its code. -/
def coded? (digits : List Char) : Option Char := do
  let code ← hexNumber? digits
  if valid : code.isValidChar then some (Char.ofNatAux code valid) else none

/-- The characters that an escape names by a letter. -/
def letterEscapes : List (Char × Char) :=
  [('b', '\x08'), ('f', '\x0c'), ('n', '\n'), ('r', '\r'), ('t', '\t'), ('\x5c', '\x5c'),
    ('\x22', '\x22')]

/-- Reads an escape after its backslash. -/
def escape : Reader Char
  | 'u' :: a :: b :: c :: d :: rest => (coded? [a, b, c, d]).map fun it => (it, rest)
  | 'U' :: a :: b :: c :: d :: e :: f :: g :: h :: rest =>
    (coded? [a, b, c, d, e, f, g, h]).map fun it => (it, rest)
  | letter :: rest => (letterEscapes.lookup letter).map fun it => (it, rest)
  | [] => none

/-! ### Forms on one line -/

/-- Reads the rest of a string with quotes after the characters in `seen`, the last one first. -/
def quotedFrom : (fuel : Nat) → (seen : List Char) → Reader (List Char)
  | 0, _, _ => none
  | _, _, [] => none
  | fuel + 1, seen, c :: rest =>
    if c == '\x22' then some (seen.reverse, rest)
    else if c == '\x5c' then
      match escape rest with
      | some (it, rest) => quotedFrom fuel (it :: seen) rest
      | none => none
    else if isPlain c then quotedFrom fuel (c :: seen) rest
    else none

/-- Reads the rest of a string with apostrophes. -/
def literalRest (text : List Char) : Option (List Char × List Char) :=
  let stretch := takeStretch (fun c => isPlain c && c != '\x27') text
  match stretch.2 with
  | '\x27' :: rest => some (stretch.1, rest)
  | _ => none

/-! ### Forms over lines -/

/-- Reads closing marks, together with up to two marks that belong to the string. -/
def closing? (mark : Char) (text : List Char) : Option (List Char × List Char) :=
  let marks := min 5 (text.takeWhile (· == mark)).length
  if 3 ≤ marks then some (List.replicate (marks - 3) mark, text.drop marks) else none

/-- Whether a backslash before the text ends its line. -/
def continues (text : List Char) : Bool :=
  (lineFeed (skipWhite text)).isSome

/-- Drops blanks and line ends. -/
def skipBlankLines : List Char → List Char
  | '\r' :: '\n' :: rest => skipBlankLines rest
  | c :: rest => if isWhite c || c == '\n' then skipBlankLines rest else c :: rest
  | [] => []

/-- Reads the rest of a string between triple marks after the characters in `seen`, the last one
first. Only with quotes does a backslash escape. -/
def blockFrom (mark : Char) : (fuel : Nat) → (seen : List Char) → Reader (List Char)
  | 0, _, _ => none
  | fuel + 1, seen, text =>
    match closing? mark text, lineFeed text, text with
    | some (kept, rest), _, _ => some (seen.reverse ++ kept, rest)
    | none, some rest, _ => blockFrom mark fuel ('\n' :: seen) rest
    | none, none, [] => none
    | none, none, c :: rest =>
      if mark == '\x22' && c == '\x5c' then
        if continues rest then blockFrom mark fuel seen (skipBlankLines rest)
        else
          match escape rest with
          | some (it, rest) => blockFrom mark fuel (it :: seen) rest
          | none => none
      else if isPlain c then blockFrom mark fuel (c :: seen) rest
      else none

/-- Reads the rest of a string between triple marks. -/
def block (mark : Char) (text : List Char) : Option (List Char × List Char) :=
  blockFrom mark (text.length + 1) [] ((lineFeed text).getD text)

/-! ### All forms -/

/-- Reads a string on one line. -/
def lineString : Reader String
  | '\x22' :: rest =>
    (quotedFrom (rest.length + 1) [] rest).map fun read => (String.ofList read.1, read.2)
  | '\x27' :: rest => (literalRest rest).map fun read => (String.ofList read.1, read.2)
  | _ => none

/-- Reads a string. -/
def string : Reader String
  | '\x22' :: '\x22' :: '\x22' :: rest =>
    (block '\x22' rest).map fun read => (String.ofList read.1, read.2)
  | '\x27' :: '\x27' :: '\x27' :: rest =>
    (block '\x27' rest).map fun read => (String.ofList read.1, read.2)
  | text => lineString text

end SensorCape.Toml
