/-
**Log filters.**

Which log records are shown is said by directives between commas. A directive is a level, or a
target with or without a level, and may name in brackets a field that the record must have. Of the
directives that apply to a record the one with the longest target decides, then the one with a
field, and of two alike the later. A directive for spans says nothing about records.

The parts of a directive are found with the blanks around it left out, but they are cut out of the
directive as it stands, at the same counts of bytes. So blanks in front shift what is cut, and a cut
may fall into a character; no daemon starts under such a filter.

* `LogFilter.parse`: the filter of a text.
* `LogFilter.shows`: whether a record is shown.
-/

import SensorCape.Daemon.Pattern
import SensorCape.Telemetry

namespace SensorCape.Daemon

/-! ### Levels -/

/-- How much a severity adds to the log; what is more urgent adds less. -/
def verbosity : Severity → Nat
  | .error => 1
  | .warn => 2
  | .info => 3
  | .debug => 4
  | .trace => 5

/-- The names of levels in small letters, with the verbosity up to which records are shown. -/
def levelNames : List (String × Nat) :=
  [("off", 0), ("error", 1), ("warn", 2), ("info", 3), ("debug", 4), ("trace", 5)]

/-- The greatest verbosity. -/
def fullVerbosity : Nat := 5

/-- A text without a plus sign in front. -/
def withoutPlus : List Char → List Char
  | '+' :: rest => rest
  | text => text

/-- The level that a number stands for. -/
def numberedLevel? (text : List Char) : Option Nat :=
  let digits := withoutPlus text
  if !digits.isEmpty && digits.all Char.isDigit then
    let number := digits.foldl (fun number digit => number * 10 + (digit.toNat - 0x30)) 0
    if number ≤ fullVerbosity then some number else none
  else none

/-- The level of a number or a name. -/
def level? (text : List Char) : Option Nat :=
  numberedLevel? text <|> levelNames.lookup (String.ofList (text.map Char.toLower))

/-! ### Cuts -/

/-- Why a filter cannot be read. -/
inductive Misreading
  | malformed
  /-- A cut falls into a character. -/
  | splitCharacter
  deriving DecidableEq, Repr

/-- The number of bytes of a text. -/
def size (text : List Char) : Nat :=
  text.foldr (fun c total => c.utf8Size + total) 0

/-- A text without so many bytes in front, unless that splits a character. -/
def dropBytes : (count : Nat) → List Char → Option (List Char)
  | 0, text => some text
  | _, [] => none
  | count, c :: rest => if c.utf8Size ≤ count then dropBytes (count - c.utf8Size) rest else none

/-- So many bytes of a text, unless that splits a character. -/
def takeBytes : (count : Nat) → List Char → Option (List Char)
  | 0, _ => some []
  | _, [] => none
  | count, c :: rest =>
    if c.utf8Size ≤ count then (takeBytes (count - c.utf8Size) rest).map (c :: ·) else none

/-- The part of a text from one count of bytes on. -/
def cutFrom (text : List Char) (start : Nat) : Except Misreading (List Char) :=
  match dropBytes start text with
  | some part => .ok part
  | none => .error .splitCharacter

/-- The part of a text between two counts of bytes. -/
def cut (text : List Char) (start stop : Nat) : Except Misreading (List Char) := do
  match takeBytes (stop - start) (← cutFrom text start) with
  | some part => .ok part
  | none => .error .splitCharacter

/-! ### Directives -/

/-- Up to which verbosity records are shown that have the target and the field. -/
structure Directive where
  target : Option String
  field : Option String
  level : Nat
  deriving DecidableEq, Repr

/-- A character that may begin a directive without brackets. -/
def beginsDirective (c : Char) : Bool :=
  c == '-' || c == ':' || c == '_' || Text.isLetterOrNumeral c

/-- The level written from a count of bytes on; where none is written everything is shown. -/
def levelFrom (written : List Char) (start : Nat) : Except Misreading Nat := do
  let name ← cutFrom written start
  if name.isEmpty then .ok fullVerbosity
  else
    match level? name with
    | some level => .ok level
    | none => .error .malformed

/-- What brackets select. -/
inductive Scope
  /-- Spans, by a name or by the value of a field. -/
  | spans
  /-- What has a field. -/
  | having (field : String)
  deriving DecidableEq, Repr

/-- What a field in braces selects. -/
def fieldScope (text : List Char) : Except Misreading Scope :=
  let name := text.takeWhile (· != '=')
  match text.dropWhile (· != '=') with
  | [] => .ok (.having (String.ofList name))
  | _ :: rest => if isComparand (rest.takeWhile (· != '=')) then .ok .spans else .error .malformed

/-- What was read of a directive up to the end of its brackets. -/
structure Bracketed where
  scope : Scope
  /-- How many bytes go before the rest. -/
  place : Nat
  rest : List Char

/-- Reads a field after its brace and the ends of the brackets; `place` bytes go before it. -/
def braced (written spanName : List Char) (place : Nat) (text : List Char) :
    Except Misreading Bracketed := do
  let stop := place + size (text.takeWhile (· != '\x7d'))
  match text.dropWhile (· != '\x7d') with
  | [] => .error .malformed
  | _ :: rest =>
    let field ← cut written place stop
    if field.isEmpty then .error .malformed
    else
      let scope ← fieldScope field
      match rest with
      | ']' :: rest => return ⟨if spanName.isEmpty then scope else .spans, stop + 2, rest⟩
      | _ => .error .malformed

/-- Reads what stands between brackets, after the first of them; `place` bytes go before it. -/
def bracketed (written : List Char) (place : Nat) (text : List Char) :
    Except Misreading Bracketed := do
  let isEnd (c : Char) : Bool := c == ']' || c == '\x7b'
  let stop := place + size (text.takeWhile (!isEnd ·))
  match text.dropWhile (!isEnd ·) with
  | [] => .error .malformed
  | ending :: rest =>
    let spanName ← cut written place stop
    if ending == ']' then return ⟨.spans, stop + 1, rest⟩
    else braced written spanName (stop + 1) rest

/-- Reads the rest of a directive with brackets. One for spans has nothing to say about records. -/
def withBrackets (written : List Char) (target : Option String) (place : Nat) (text : List Char) :
    Except Misreading (List Directive) := do
  let read ← bracketed written place text
  let level ← match read.rest with
    | [] => .ok fullVerbosity
    | c :: _ => if c == '=' then levelFrom written (read.place + 1) else .error .malformed
  match read.scope with
  | .spans => return []
  | .having field => return [⟨target, some field, level⟩]

/-- Reads a directive. -/
def directives (written : List Char) : Except Misreading (List Directive) := do
  let text := Text.trimmed written
  match text with
  | [] => .error .malformed
  | '[' :: rest => withBrackets written none 1 rest
  | c :: _ =>
    if !beginsDirective c then .error .malformed
    else
      let isEnd (c : Char) : Bool := c == '=' || c == '['
      let stop := size (text.takeWhile (!isEnd ·))
      match text.dropWhile (!isEnd ·) with
      | [] =>
        match level? written with
        | some level => return [⟨none, none, level⟩]
        | none => return [⟨some (String.ofList written), none, fullVerbosity⟩]
      | ending :: rest =>
        let target := String.ofList (← cut written 0 stop)
        if ending == '=' then return [⟨some target, none, ← levelFrom written (stop + 1)⟩]
        else withBrackets written (some target) (stop + 1) rest

/-! ### Filters -/

/-- The directives of a filter. -/
structure LogFilter where
  directives : List Directive
  deriving DecidableEq, Repr

/-- The fields of a record. -/
def recordFields : List String :=
  ["log.file", "log.line", "log.module_path", "log.target", "message"]

namespace LogFilter

/-- The filter of a text. -/
def parse (text : String) : Except Misreading LogFilter := do
  let pieces := (text.splitOn ",").filter (!·.isEmpty)
  let read ← pieces.mapM fun piece => Daemon.directives piece.toList
  return ⟨read.flatten⟩

/-- The filter where none is given: what the daemon says of itself, without details. -/
def standard : LogFilter := ⟨[⟨some "sensord", none, verbosity .info⟩]⟩

/-- The filter of an environment that may hold one, unless the daemon cannot start under it. -/
def ofVariable? : Option String → Option LogFilter
  | none => some standard
  | some text =>
    match parse text with
    | .ok filter => some filter
    | .error .malformed => some standard
    | .error .splitCharacter => none

/-- How closely a directive fits records of a target, if it does: by its own target, and by its
field. -/
def fit? (target : String) (directive : Directive) : Option (Nat × Nat) := do
  let byTarget ← match directive.target with
    | none => some 0
    | some front =>
      if front.toList.isPrefixOf target.toList then some (front.length + 1) else none
  let byField ← match directive.field with
    | none => some 0
    | some field => (recordFields.idxOf? field).map (· + 1)
  return (byTarget, byField)

/-- Whether a fit is closer than another one. -/
def isCloser (one other : Nat × Nat) : Bool :=
  other.1 < one.1 || (one.1 == other.1 && other.2 < one.2)

/-- The better of two directives for a target, the second one if they fit alike. -/
def better (target : String) (best : Option Directive) (next : Directive) : Option Directive :=
  match fit? target next, best with
  | none, _ => best
  | some _, none => some next
  | some fit, some held =>
    if isCloser ((fit? target held).getD (0, 0)) fit then best else some next

/-- The directive that decides about a target. -/
def deciding? (filter : LogFilter) (target : String) : Option Directive :=
  filter.directives.foldl (better target) none

/-- Whether records of a target and a severity are shown. -/
def shows (filter : LogFilter) (target : String) (severity : Severity) : Bool :=
  (filter.deciding? target).any fun directive => verbosity severity ≤ directive.level

end LogFilter

end SensorCape.Daemon
