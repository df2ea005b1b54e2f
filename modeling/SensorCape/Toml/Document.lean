/-
**Documents.**

The statements of a text add to one table, its document. Entries go to the table that the last
header began; a header says where that table lies in the document.

* `Document.parse`: the document of a text, unless the text breaks a rule.
-/

import SensorCape.Toml.Statement

namespace SensorCape.Toml

/-- The table that was built so far, and the path of the table that entries go to. -/
structure Document where
  table : Table
  current : List String
  deriving Repr

namespace Document

/-- Changes the table at the end of a header's path. -/
def atPath (path : List String) (change : Table → Option Table) (table : Table) : Option Table :=
  Table.reach false (fun _ => change) path .headed table

/-- The document after one more statement. -/
def extend (document : Document) : Statement → Option Document
  | .entry key value =>
    (atPath document.current (Table.define key.path key.last value .headed) document.table).map
      fun table => { document with table }
  | .header key =>
    (atPath key.path (Table.begin key.last) document.table).map
      fun table => ⟨table, key.path ++ [key.last]⟩
  | .element key =>
    (atPath key.path (Table.beginElement key.last) document.table).map
      fun table => ⟨table, key.path ++ [key.last]⟩

/-- The table of a text. -/
def parse (text : String) : Option Table := do
  let read ← statements text.toList
  let document ← read.foldlM extend ⟨[], []⟩
  return document.table

end Document

end SensorCape.Toml
