/-
**Statements.**

A settings text is a sequence of lines, each with an entry, a header or nothing. Values may nest: an
array or a braced table within another one, to a bounded depth.

* `value`: a value, at most so many levels deep.
* `statements`: the statements of a text.
-/

import SensorCape.Toml.Moment

namespace SensorCape.Toml

/-! ### Keys -/

/-- A character of a key without quotes. -/
def isBare (c : Char) : Bool :=
  ('a' ≤ c && c ≤ 'z') || ('A' ≤ c && c ≤ 'Z') || isDigit c || c == '-' || c == '_'

/-- Reads one part of a key. -/
def keyPart (text : List Char) : Option (String × List Char) :=
  lineString text <|>
    let stretch := takeStretch isBare text
    if stretch.1.isEmpty then none else some (String.ofList stretch.1, stretch.2)

/-- The number of levels that paths and values stay below. -/
def maxLevels : Nat := 80

/-- A key: the path of its parts before the last, and the last. -/
structure Key where
  path : List String
  last : String
  deriving DecidableEq, Repr

/-- Reads a key after some parts, the last one first, of which there may be only so many more. -/
def keyFrom : (room : Nat) → (parts : List String) → Reader Key
  | 0, _, _ => none
  | room + 1, parts, text => do
    let (part, rest) ← keyPart (skipWhite text)
    match skipWhite rest with
    | '.' :: rest => keyFrom room (part :: parts) rest
    | rest => return (⟨parts.reverse, part⟩, rest)

/-- Reads a key, with the blanks around it. -/
def key (text : List Char) : Option (Key × List Char) :=
  keyFrom (maxLevels - 1) [] text

/-! ### Values -/

/-- Reads the rest of an array. -/
def arrayFrom (item : Reader Value) : (fuel : Nat) → (items : List Value) → Reader Value
  | 0, _, _ => none
  | fuel + 1, items, text =>
    match skipTrivia text with
    | ']' :: rest => some (.array items.reverse, rest)
    | text => do
      let (read, rest) ← item text
      match skipTrivia rest with
      | ',' :: rest => arrayFrom item fuel (read :: items) rest
      | ']' :: rest => return (.array (read :: items).reverse, rest)
      | _ => none

/-- Reads an entry, up to the end of its value. -/
def entry (item : Reader Value) (text : List Char) : Option ((Key × Value) × List Char) := do
  let (name, rest) ← key text
  let (read, rest) ← item (skipWhite (← expect '=' rest))
  return ((name, read), rest)

/-- Reads the rest of a braced table, which has at least one entry more. -/
def bracedFrom (item : Reader Value) : (fuel : Nat) → (table : Table) → Reader Value
  | 0, _, _ => none
  | fuel + 1, table, text => do
    let ((name, read), rest) ← entry item text
    let table ← Table.define name.path name.last read .headed table
    match skipWhite rest with
    | ',' :: rest => bracedFrom item fuel table rest
    | '\x7d' :: rest => return (.table .closed table, rest)
    | _ => none

/-- Reads the rest of a braced table. -/
def braced (item : Reader Value) (text : List Char) : Option (Value × List Char) :=
  match skipWhite text with
  | '\x7d' :: rest => some (.table .closed [], rest)
  | text => bracedFrom item (text.length + 1) [] text

/-- Reads a value that holds no other. -/
def scalar : Reader Value
  | 't' :: 'r' :: 'u' :: 'e' :: rest => some (.boolean true, rest)
  | 'f' :: 'a' :: 'l' :: 's' :: 'e' :: rest => some (.boolean false, rest)
  | text => ((string text).map fun read => (.text read.1, read.2)) <|> moment text <|> number text

/-- Reads a value of which at most so many levels nest. -/
def value : (levels : Nat) → Reader Value
  | 0, text => scalar text
  | levels + 1, text =>
    match text with
    | '[' :: rest => arrayFrom (value levels) (rest.length + 1) [] rest
    | '\x7b' :: rest => braced (value levels) rest
    | text => scalar text

/-! ### Lines -/

/-- What a line says. -/
inductive Statement
  /-- An entry of the current table. -/
  | entry (key : Key) (value : Value)
  /-- The header of a table. -/
  | header (key : Key)
  /-- The header of an element of an array of tables. -/
  | element (key : Key)
  deriving Repr

/-- Reads a statement. -/
def statement : Reader Statement
  | '[' :: '[' :: rest => do
    let (name, rest) ← key rest
    return (.element name, ← expect ']' (← expect ']' rest))
  | '[' :: rest => do
    let (name, rest) ← key rest
    return (.header name, ← expect ']' rest)
  | text => do
    let ((name, read), rest) ← entry (value (maxLevels - 1)) text
    return (.entry name read, rest)

/-- Reads the statements of lines after those read before, the last one first. -/
def statementsFrom : (fuel : Nat) → (before : List Statement) → List Char → Option (List Statement)
  | 0, _, _ => none
  | fuel + 1, before, text =>
    match skipWhite text with
    | [] => some before.reverse
    | text =>
      match lineRest text with
      | some rest => statementsFrom fuel before rest
      | none => do
        let (read, rest) ← statement text
        statementsFrom fuel (read :: before) (← lineRest rest)

/-- The statements of a text; a byte-order mark in front does not count. -/
def statements (text : List Char) : Option (List Statement) :=
  let lines := if text.head? = some '\ufeff' then text.tail else text
  statementsFrom (lines.length + 1) [] lines

end SensorCape.Toml
