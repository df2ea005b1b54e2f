/-
**Mismatches.**

A settings file may be well-formed and still not say what settings are made of: a value of the wrong
type, a number out of range, an unknown name, a field that is missing. Each mismatch has its words,
except that a name with something to it has none.

* `Mismatch.message`: the words of a mismatch.
-/

import SensorCape.Binary.Text
import SensorCape.Text.Quoted
import SensorCape.Toml.Value

namespace SensorCape.Settings

/-- What was found in the place of something else. -/
inductive Found
  | text (characters : String)
  | integer (number : Int)
  /-- An eight-byte binary number, by its word. -/
  | float (word : Nat)
  | boolean (flag : Bool)
  | sequence
  | map
  deriving DecidableEq, Repr

/-- What was found, in words. -/
def Found.words : Found → String
  | .text characters => "string " ++ Text.quoted characters
  | .integer number => s!"integer `{number}`"
  | .float word =>
    let shown := Binary.double.plain (Binary.double.decode word)
    s!"floating point `{shown}`"
  | .boolean flag => s!"boolean `{flag}`"
  | .sequence => "sequence"
  | .map => "map"

/-- What a value counts as. A moment counts as a map. -/
def Found.ofValue : Toml.Value → Found
  | .text characters => .text characters
  | .integer number => .integer number
  | .float word => .float word
  | .boolean flag => .boolean flag
  | .moment => .map
  | .array _ | .elements _ => .sequence
  | .table _ _ => .map

/-- How a settings file differs from what settings are made of. -/
inductive Mismatch
  | missingField (name : String)
  | unknownField (name : String) (known : List String)
  | unknownVariant (name : String) (known : List String)
  | wrongType (found : Found) (expected : String)
  | wrongValue (found : Found) (expected : String)
  | wrongLength (length : Nat) (expected : String)
  /-- Something that is no name stands where one of several names should. -/
  | noVariant
  deriving DecidableEq, Repr

/-- Names in marks, as alternatives. -/
def alternatives (names : List String) : String :=
  match names with
  | [first, second] => s!"`{first}` or `{second}`"
  | names => "one of " ++ ", ".intercalate (names.map fun name => s!"`{name}`")

/-- The words of a mismatch. -/
def Mismatch.message : Mismatch → Option String
  | .missingField name => some s!"missing field `{name}`"
  | .unknownField name known => some s!"unknown field `{name}`, expected {alternatives known}"
  | .unknownVariant name known => some s!"unknown variant `{name}`, expected {alternatives known}"
  | .wrongType found expected => some s!"invalid type: {found.words}, expected {expected}"
  | .wrongValue found expected => some s!"invalid value: {found.words}, expected {expected}"
  | .wrongLength length expected => some s!"invalid length {length}, expected {expected}"
  | .noVariant => none

end SensorCape.Settings
