/-
**Values and tables.**

What a settings text says: texts, numbers, truth values, moments, arrays and tables. The entries of
a table keep the order of the text. A table remembers how it came about, because that decides
whether a later line may add to it: a table between braces is finished, a table with a header may
get one header only, and a table made by a dotted key grows by dotted keys alone.

* `Table.reach`: a change to the table at the end of a path, which makes the tables on the way.
* `Table.define`: a new entry under a dotted key.
* `Table.begin`, `Table.beginElement`: the two kinds of header.
-/

namespace SensorCape.Toml

/-- How a table came about. -/
inductive Origin
  /-- Written between braces. -/
  | closed
  /-- Begun by a header, or an element of an array of tables. -/
  | headed
  /-- On the path of some header. -/
  | passed
  /-- On the path of a dotted key. -/
  | dotted
  deriving DecidableEq, Repr

/-- A value. -/
inductive Value
  | text (characters : String)
  | integer (number : Int)
  /-- An eight-byte binary number, by its word. -/
  | float (word : Nat)
  | boolean (flag : Bool)
  /-- A date, a time or both. -/
  | moment
  | array (items : List Value)
  | table (origin : Origin) (entries : List (String × Value))
  /-- The elements that headers in double brackets made. -/
  | elements (tables : List (List (String × Value)))
  deriving Repr

/-- The entries of a table in the order of the text. -/
abbrev Table : Type := List (String × Value)

namespace Table

/-- The table with another value under a key that it has. -/
def replace (key : String) (value : Value) (table : Table) : Table :=
  table.map fun entry => if entry.1 = key then (key, value) else entry

/-- The table without a key. -/
def without (key : String) (table : Table) : Table :=
  table.filter fun entry => entry.1 != key

/-- Whether a dotted key may pass through a table. -/
def openToDots : Origin → Bool
  | .closed | .headed => false
  | .passed | .dotted => true

/-- Changes the last of some tables. -/
def changeLast (change : Table → Option Table) : List Table → Option (List Table)
  | [] => none
  | [last] => (change last).map fun changed => [changed]
  | first :: rest => (changeLast change rest).map fun changed => first :: changed

/-- Changes the table at the end of a path. Tables that are missing on the way are made; `dots` says
whether the path belongs to a dotted key or to a header. An array of tables is passed through its
last element. -/
def reach (dots : Bool) (change : Origin → Table → Option Table) :
    (path : List String) → (origin : Origin) → Table → Option Table
  | [], origin, table => change origin table
  | key :: path, _, table =>
    match table.lookup key with
    | none =>
      let made := if dots then Origin.dotted else Origin.passed
      (reach dots change path made []).map fun inner => table ++ [(key, .table made inner)]
    | some (.table origin inner) =>
      if origin = .closed || (dots && !openToDots origin) then none
      else
        (reach dots change path origin inner).map fun inner =>
          replace key (.table origin inner) table
    | some (.elements tables) =>
      (changeLast (reach dots change path .headed) tables).map fun tables =>
        replace key (.elements tables) table
    | some _ => none

/-- Adds an entry under a key that is free. -/
def add (key : String) (value : Value) (table : Table) : Option Table :=
  if (table.lookup key).isSome then none else some (table ++ [(key, value)])

/-- Adds the entry of a dotted key. A table that headers passed takes no entries from dots. -/
def define (path : List String) (key : String) (value : Value) (origin : Origin) (table : Table) :
    Option Table :=
  reach true
    (fun reached inner =>
      if path.isEmpty || reached == .dotted then add key value inner else none)
    path origin table

/-- Begins the table of a header. A table that other headers only passed is begun by its own and
moves to the end of the table that holds it. -/
def begin (key : String) (table : Table) : Option Table :=
  match table.lookup key with
  | none => some (table ++ [(key, .table .headed [])])
  | some (.table .passed inner) => some (without key table ++ [(key, .table .headed inner)])
  | some _ => none

/-- Begins the next element of an array of tables. -/
def beginElement (key : String) (table : Table) : Option Table :=
  match table.lookup key with
  | none => some (table ++ [(key, .elements [[]])])
  | some (.elements tables) => some (replace key (.elements (tables ++ [[]])) table)
  | some _ => none

end Table

end SensorCape.Toml
