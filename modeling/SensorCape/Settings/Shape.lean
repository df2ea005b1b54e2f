/-
**Shapes of sections.**

A section is written as a table or, with its fields in their order, as an array. Its `Shape` lists
the fields: what each is called, how it is read, and whether it may be left out. The values of a
table are met in the order of the text, so the first one that does not fit is the one reported.

* `Shape.ofTable`, `Shape.ofItems`: the two forms.
* `Shape.read`: a section in either form.
-/

import SensorCape.Settings.Mismatch

namespace SensorCape.Settings

open Toml (Table)

/-! ### Plain values -/

/-- The mismatch of a value of another type. -/
def wrongType {α : Type} (expected : String) (value : Toml.Value) : Except Mismatch α :=
  .error (.wrongType (.ofValue value) expected)

/-- Reads a text. -/
def readText : Toml.Value → Except Mismatch String
  | .text characters => .ok characters
  | value => wrongType "a string" value

/-- Reads a truth value. -/
def readFlag : Toml.Value → Except Mismatch Bool
  | .boolean flag => .ok flag
  | value => wrongType "a boolean" value

/-- Reads a number without a sign that is below a limit. -/
def readNumber (limit : Nat) (expected : String) : Toml.Value → Except Mismatch Nat
  | .integer number =>
    if 0 ≤ number ∧ number < limit then .ok number.toNat
    else .error (.wrongValue (.integer number) expected)
  | value => wrongType expected value

/-- Reads a byte. -/
def readByte (value : Toml.Value) : Except Mismatch UInt8 :=
  (readNumber UInt8.size "u8" value).map UInt8.ofNat

/-- Reads a number of four bytes. -/
def readWord (value : Toml.Value) : Except Mismatch UInt32 :=
  (readNumber UInt32.size "u32" value).map UInt32.ofNat

/-- Reads a number of eight bytes. -/
def readLong (value : Toml.Value) : Except Mismatch UInt64 :=
  (readNumber UInt64.size "u64" value).map UInt64.ofNat

/-- Reads a size. -/
def readSize (value : Toml.Value) : Except Mismatch Nat :=
  readNumber UInt64.size "usize" value

/-- Reads a list of values of one sort. -/
def readList {α : Type} (item : Toml.Value → Except Mismatch α) :
    Toml.Value → Except Mismatch (List α)
  | .array items => items.mapM item
  | .elements tables => tables.mapM fun table => item (.table .headed table)
  | value => wrongType "a sequence" value

/-- Whether a value holds nothing. -/
def isEmptyValue : Toml.Value → Bool
  | .array [] | .table _ [] => true
  | _ => false

/-- Reads one of some names. A name may also be the only key of a table, with nothing under it. -/
def readName {α : Type} (names : List (String × α)) : Toml.Value → Except Mismatch α
  | .text name => named name
  | .table _ [(name, value)] => do
    let found ← named name
    if isEmptyValue value then .ok found else .error .noVariant
  | _ => .error .noVariant
where
  /-- What a name stands for. -/
  named (name : String) : Except Mismatch α :=
    match names.lookup name with
    | some found => .ok found
    | none => .error (.unknownVariant name (names.map Prod.fst))

/-! ### Sections -/

/-- A field of a section that is being read into a `ρ`. -/
structure Field (ρ : Type) where
  name : String
  /-- Whether the array form may end before the field. -/
  optional : Bool
  read : Toml.Value → ρ → Except Mismatch ρ

/-- A field that holds what `item` reads. -/
def Field.of {ρ α : Type} (name : String) (optional : Bool)
    (item : Toml.Value → Except Mismatch α) (set : α → ρ → ρ) : Field ρ :=
  ⟨name, optional, fun value draft => (item value).map fun read => set read draft⟩

/-- What a section is made of. -/
structure Shape (ρ : Type) where
  name : String
  fields : List (Field ρ)
  /-- The section before any field is read. -/
  blank : ρ

namespace Shape

variable {ρ : Type}

/-- The names of the fields. -/
def fieldNames (shape : Shape ρ) : List String :=
  shape.fields.map Field.name

/-- Reads one entry of a table. -/
def readEntry (shape : Shape ρ) (draft : ρ) (entry : String × Toml.Value) : Except Mismatch ρ :=
  match shape.fields.find? (·.name = entry.1) with
  | some field => field.read entry.2 draft
  | none => .error (.unknownField entry.1 shape.fieldNames)

/-- Reads the table form. -/
def ofTable (shape : Shape ρ) (table : Table) : Except Mismatch ρ :=
  table.foldlM shape.readEntry shape.blank

/-- Reads items into fields; `place` items were read before. Items without a field do not count. -/
def readItems (shape : Shape ρ) :
    (place : Nat) → List (Field ρ) → List Toml.Value → ρ → Except Mismatch ρ
  | _, [], _, draft => .ok draft
  | place, field :: fields, item :: items, draft => do
    shape.readItems (place + 1) fields items (← field.read item draft)
  | place, field :: fields, [], draft =>
    if field.optional then shape.readItems (place + 1) fields [] draft
    else .error (.wrongLength place s!"struct {shape.name} with {shape.fields.length} elements")

/-- Reads the array form. -/
def ofItems (shape : Shape ρ) (items : List Toml.Value) : Except Mismatch ρ :=
  shape.readItems 0 shape.fields items shape.blank

/-- The key under which a moment counts as a map. -/
def momentKey : String := "$__toml_private_datetime"

/-- Reads a section. -/
def read (shape : Shape ρ) : Toml.Value → Except Mismatch ρ
  | .table _ entries => shape.ofTable entries
  | .moment => shape.ofTable [(momentKey, .moment)]
  | .array items => shape.ofItems items
  | .elements tables => shape.ofItems (tables.map (.table .headed))
  | value => wrongType s!"struct {shape.name}" value

end Shape

/-- A field that a table may not leave out. -/
def required {α : Type} (name : String) : Option α → Except Mismatch α
  | some value => .ok value
  | none => .error (.missingField name)

end SensorCape.Settings
