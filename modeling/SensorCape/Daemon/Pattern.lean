/-
**Patterns.**

A log filter may compare a field with a number or with a pattern. Patterns are regular expressions
over characters. Only their form matters here, because what they select are spans and never records:
a filter with a pattern that is none is malformed as a whole.

Matching goes byte by byte through tables made from the pattern alone. So a pattern may not use what
needs tables of characters (sets of letters, digits or blanks, folded case, word boundaries) unless
it restricts itself to ASCII, and then it may not reach beyond ASCII.

* `isPattern`: whether a text is a pattern.
* `isComparand`: whether a field can be compared with a text.
-/

import SensorCape.Text.Blank
import SensorCape.Text.Letters

namespace SensorCape.Daemon

/-! ### Modes -/

/-- What the flags of a pattern say, as far as its form hangs on it. -/
structure PatternMode where
  /-- Blanks and comments do not count. -/
  spaced : Bool
  /-- The case of letters does not count. -/
  folded : Bool
  /-- The pattern is about characters and not only about ASCII. -/
  wide : Bool
  deriving DecidableEq, Repr

/-- The mode in which a pattern begins. -/
def PatternMode.initial : PatternMode := ⟨false, false, true⟩

/-- The mode after a flag is set or cleared; the other flags do not bear on the form. -/
def PatternMode.set (value : Bool) (mode : PatternMode) (flag : Char) : PatternMode :=
  if flag == 'x' then { mode with spaced := value }
  else if flag == 'i' then { mode with folded := value }
  else if flag == 'u' then { mode with wide := value }
  else mode

/-- The letters of the flags. -/
def patternFlags : List Char := ['i', 'm', 's', 'U', 'u', 'R', 'x']

/-- The mode after a list of flags; those behind a minus sign are cleared. -/
def PatternMode.apply (mode : PatternMode) (flags : List Char) : PatternMode :=
  let cleared := (flags.dropWhile (· != '-')).drop 1
  cleared.foldl (set false) ((flags.takeWhile (· != '-')).foldl (set true) mode)

/-- Whether a list of flags is one: no flag or minus sign stands twice, and no minus sign last. -/
def areFlags (flags : List Char) : Bool :=
  flags.all (fun flag => (flag == '-' || patternFlags.contains flag) && flags.count flag == 1) &&
    flags.getLast? != some '-'

/-- Drops blanks and comments; `comment` says whether a comment is being dropped. -/
def skipSpacing : (comment : Bool) → List Char → List Char
  | _, [] => []
  | true, c :: rest => skipSpacing (c != '\n') rest
  | false, c :: rest =>
    if Text.isBlank c then skipSpacing false rest
    else if c == '#' then skipSpacing true rest
    else c :: rest

/-- Drops what does not count in a mode. -/
def PatternMode.skip (mode : PatternMode) (text : List Char) : List Char :=
  if mode.spaced then skipSpacing false text else text

/-! ### Symbols -/

/-- A symbol of a pattern. -/
inductive Symbol
  /-- A character, perhaps written as a byte by two digits. -/
  | character (value : Char) (asByte : Bool)
  /-- The digits, the blanks or the characters of words, or all others. -/
  | group (negated : Bool)
  /-- The beginning or the end of the text or of a line. -/
  | anchor
  /-- A place where a word begins or ends, or where none does. -/
  | boundary
  /-- Any character. -/
  | any
  deriving DecidableEq, Repr

/-- Whether a symbol can be matched in a mode. -/
def Symbol.fits (mode : PatternMode) : Symbol → Bool
  | .character value asByte =>
    if mode.wide then !mode.folded else !asByte || value ≤ '\x7f'
  | .group negated => !mode.wide && !negated
  | .anchor => true
  | .boundary => !mode.wide
  | .any => mode.wide

/-- Whether a symbol can be a member of a set in a mode. -/
def Symbol.fitsSet (mode : PatternMode) : Symbol → Bool
  | .character value _ => mode.wide || value ≤ '\x7f'
  | .group negated => !mode.wide && !negated
  | .anchor | .boundary | .any => false

/-- Whether two symbols are the ends of a range of characters. -/
def Symbol.areEnds : Symbol → Symbol → Bool
  | .character low _, .character high _ => low ≤ high
  | _, _ => false

/-- The value of a hexadecimal digit. -/
def digitValue? (c : Char) : Option Nat :=
  if '0' ≤ c && c ≤ '9' then some (c.toNat - 0x30)
  else if 'a' ≤ c && c ≤ 'f' then some (c.toNat - 0x61 + 10)
  else if 'A' ≤ c && c ≤ 'F' then some (c.toNat - 0x41 + 10)
  else none

/-- Reads a character's code of so many digits. -/
def codedSymbol (mode : PatternMode) (asByte : Bool) :
    (digits : Nat) → (code : Nat) → List Char → Option (Symbol × List Char)
  | 0, code, text =>
    if valid : code.isValidChar then some (.character (Char.ofNatAux code valid) asByte, text)
    else none
  | digits + 1, code, text =>
    match mode.skip text with
    | c :: rest => do
      let value ← digitValue? c
      codedSymbol mode asByte digits (code * 16 + value) rest
    | [] => none

/-- The letters that stand for a control after a backslash. -/
def controlLetters : List Char := ['a', 'f', 'n', 'r', 't', 'v']

/-- Reads a symbol after its backslash. Letters that mean nothing and digits are refused. -/
def escapedSymbol (mode : PatternMode) : List Char → Option (Symbol × List Char)
  | 'x' :: rest => codedSymbol mode true 2 0 rest
  | 'u' :: rest => codedSymbol mode false 4 0 rest
  | 'U' :: rest => codedSymbol mode false 8 0 rest
  | c :: rest =>
    if ['d', 's', 'w'].contains c then some (.group false, rest)
    else if ['D', 'S', 'W'].contains c then some (.group true, rest)
    else if ['A', 'z'].contains c then some (.anchor, rest)
    else if ['b', 'B', '<', '>'].contains c then some (.boundary, rest)
    else if controlLetters.contains c then some (.character '\t' false, rest)
    else if '\x80' ≤ c || c.isAlphanum then none
    else some (.character c false, rest)
  | [] => none

/-! ### Sets -/

/-- The names of the sets of ASCII characters. -/
def setNames : List String :=
  ["alnum", "alpha", "ascii", "blank", "cntrl", "digit", "graph", "lower", "print", "punct",
    "space", "upper", "word", "xdigit"]

/-- Whether a set can be matched in a mode. -/
def setFits (mode : PatternMode) (negated : Bool) : Bool :=
  if mode.wide then !mode.folded else !negated

/-- Reads a named set after its bracket; says whether it is negated. -/
def namedSet : List Char → Option (Bool × List Char)
  | ':' :: rest =>
    let negated := rest.head? == some '^'
    let rest := if negated then rest.drop 1 else rest
    match rest.dropWhile (· != ':') with
    | ':' :: ']' :: after =>
      if setNames.contains (String.ofList (rest.takeWhile (· != ':'))) then some (negated, after)
      else none
    | _ => none
  | _ => none

/-- Drops the minus signs at the beginning of a set. -/
def skipMinus (mode : PatternMode) (text : List Char) : List Char :=
  text.dropWhile fun c => c == '-' || (mode.spaced && Text.isBlank c)

/-- Reads the beginning of a set after its bracket. Minus signs, or else a closing bracket, may
stand there as members; says whether the set is negated. -/
def setStart (mode : PatternMode) (text : List Char) : Bool × List Char :=
  let text := mode.skip text
  let negated := text.head? == some '^'
  let text := if negated then mode.skip (text.drop 1) else text
  match text with
  | '-' :: _ => (negated, skipMinus mode text)
  | ']' :: rest => (negated, mode.skip rest)
  | _ => (negated, text)

/-- Reads a member of a set. -/
def setSymbol (mode : PatternMode) : List Char → Option (Symbol × List Char)
  | '\x5c' :: rest => escapedSymbol mode rest
  | c :: rest => some (.character c false, rest)
  | [] => none

/-- Reads a member or a range of members of a set. -/
def setRange (mode : PatternMode) (text : List Char) : Option (List Char) := do
  let (first, rest) ← setSymbol mode text
  if !first.fitsSet mode then none
  else
    match mode.skip rest with
    | '-' :: after =>
      match mode.skip after with
      | [] => none
      | ']' :: _ | '-' :: _ => some ('-' :: after)
      | last => do
        let (second, rest) ← setSymbol mode last
        if second.fitsSet mode && first.areEnds second then some rest else none
    | rest => some rest

/-- Reads the rest of a set in which so many sets are open, the outermost one included. -/
def setRest (mode : PatternMode) : (fuel : Nat) → (opened : Nat) → List Char → Option (List Char)
  | 0, _, _ => none
  | fuel + 1, opened, text =>
    match mode.skip text with
    | '[' :: rest =>
      match namedSet rest with
      | some (negated, rest) =>
        if setFits mode negated then setRest mode fuel opened rest else none
      | none =>
        let (negated, rest) := setStart mode rest
        if setFits mode negated then setRest mode fuel (opened + 1) rest else none
    | ']' :: rest => if opened = 1 then some rest else setRest mode fuel (opened - 1) rest
    | '&' :: '&' :: rest | '-' :: '-' :: rest | '~' :: '~' :: rest =>
      setRest mode fuel opened rest
    | text => (setRange mode text).bind (setRest mode fuel opened)

/-- Reads a set after its bracket. -/
def patternSet (mode : PatternMode) (text : List Char) : Option (List Char) :=
  let (negated, rest) := setStart mode text
  if setFits mode negated then setRest mode (rest.length + 1) 1 rest else none

/-! ### Groups -/

/-- Whether a text is the name of a group. -/
def isGroupName : List Char → Bool
  | [] => false
  | c :: rest =>
    (c == '_' || Text.isLetter c) &&
      rest.all fun c => ['_', '.', '[', ']'].contains c || Text.isLetterOrNumeral c

/-- What a parenthesis begins. -/
inductive Opening
  /-- A group, in a mode, perhaps with a name. -/
  | group (mode : PatternMode) (name : Option (List Char))
  /-- No group: the mode changes from here on. -/
  | mode (mode : PatternMode)
  deriving DecidableEq, Repr

/-- Reads a name up to its angle bracket. -/
def groupName (mode : PatternMode) (text : List Char) : Option (Opening × List Char) :=
  let name := text.takeWhile (· != '>')
  match text.dropWhile (· != '>') with
  | _ :: rest => if isGroupName name then some (.group mode (some name), rest) else none
  | [] => none

/-- Reads flags up to the sign that ends them. -/
def groupFlags (mode : PatternMode) (text : List Char) : Option (Opening × List Char) :=
  let isEnd (c : Char) : Bool := c == ':' || c == ')'
  let flags := text.takeWhile (!isEnd ·)
  match text.dropWhile (!isEnd ·) with
  | ':' :: rest => if areFlags flags then some (.group (mode.apply flags) none, rest) else none
  | _ :: rest =>
    if areFlags flags && !flags.isEmpty then some (.mode (mode.apply flags), rest) else none
  | [] => none

/-- Reads what a parenthesis begins. Looking ahead or behind is not supported. -/
def opening (mode : PatternMode) (text : List Char) : Option (Opening × List Char) :=
  match mode.skip text with
  | '?' :: 'P' :: '<' :: rest => groupName mode rest
  | '?' :: '<' :: c :: rest => if c == '=' || c == '!' then none else groupName mode (c :: rest)
  | '?' :: rest => groupFlags mode rest
  | rest => some (.group mode none, rest)

/-! ### Patterns -/

/-- How far a pattern was read. -/
structure PatternState where
  mode : PatternMode
  /-- The modes to go back to at the ends of the open groups, the innermost first. -/
  outer : List PatternMode
  /-- Whether there is something that a repetition could repeat. -/
  repeatable : Bool
  /-- The names of the groups so far. -/
  names : List (List Char)
  deriving DecidableEq, Repr

/-- The state after something that can be repeated. -/
def PatternState.after (state : PatternState) : PatternState :=
  { state with repeatable := true }

/-- The state after a parenthesis, unless a name is given twice. -/
def PatternState.opened (state : PatternState) : Opening → Option PatternState
  | .mode mode => some { state with mode, repeatable := false }
  | .group mode none =>
    some { state with mode, outer := state.mode :: state.outer, repeatable := false }
  | .group mode (some name) =>
    if state.names.contains name then none
    else
      some
        { mode, outer := state.mode :: state.outer, repeatable := false
          names := name :: state.names }

/-- The state after a closing parenthesis, unless no group is open. -/
def PatternState.closed (state : PatternState) : Option PatternState :=
  match state.outer with
  | [] => none
  | mode :: outer => some { state with mode, outer, repeatable := true }

/-- Drops the mark that makes a repetition take as little as it can. -/
def skipLazy : List Char → List Char
  | '?' :: rest => rest
  | text => text

/-- Reads a symbol outside of sets. -/
def symbol (mode : PatternMode) : List Char → Option (Symbol × List Char)
  | '\x5c' :: rest => escapedSymbol mode rest
  | '.' :: rest => some (.any, rest)
  | '^' :: rest | '$' :: rest => some (.anchor, rest)
  | c :: rest => some (.character c false, rest)
  | [] => none

/-- Whether the rest of a pattern is one. A count in braces needs a closing brace, which ends the
field of a filter, so no pattern has one. -/
def isPatternFrom : (fuel : Nat) → PatternState → List Char → Bool
  | 0, _, _ => false
  | fuel + 1, state, text =>
    match state.mode.skip text with
    | [] => state.outer.isEmpty
    | '(' :: rest =>
      match opening state.mode rest with
      | some (opening, rest) =>
        (state.opened opening).any fun state => isPatternFrom fuel state rest
      | none => false
    | ')' :: rest => state.closed.any fun state => isPatternFrom fuel state rest
    | '|' :: rest => isPatternFrom fuel { state with repeatable := false } rest
    | '[' :: rest => (patternSet state.mode rest).any (isPatternFrom fuel state.after)
    | '?' :: rest | '*' :: rest | '+' :: rest =>
      state.repeatable && isPatternFrom fuel state (skipLazy rest)
    | '\x7b' :: _ => false
    | text =>
      match symbol state.mode text with
      | some (symbol, rest) => symbol.fits state.mode && isPatternFrom fuel state.after rest
      | none => false

/-- Whether a text is a pattern. -/
def isPattern (text : List Char) : Bool :=
  isPatternFrom (text.length + 1) ⟨.initial, [], false, []⟩ text

/-! ### Numbers -/

/-- Whether a text is an exponent, or nothing. -/
def isExponent : List Char → Bool
  | [] => true
  | c :: rest =>
    let digits := if rest.head? == some '+' || rest.head? == some '-' then rest.drop 1 else rest
    (c == 'e' || c == 'E') && !digits.isEmpty && digits.all Char.isDigit

/-- Whether a text is a number without a sign. -/
def isUnsignedNumber (text : List Char) : Bool :=
  let whole := text.takeWhile Char.isDigit
  let rest := text.dropWhile Char.isDigit
  let part := if rest.head? == some '.' then (rest.drop 1).takeWhile Char.isDigit else []
  let rest := if rest.head? == some '.' then (rest.drop 1).dropWhile Char.isDigit else rest
  ["inf", "infinity", "nan"].contains (String.ofList (text.map Char.toLower)) ||
    ((!whole.isEmpty || !part.isEmpty) && isExponent rest)

/-- Whether a field can be compared with a text: it is a pattern, or a number with a plus sign,
which would be no pattern. -/
def isComparand (text : List Char) : Bool :=
  match text with
  | '+' :: rest => isUnsignedNumber rest
  | text => isPattern text

end SensorCape.Daemon
