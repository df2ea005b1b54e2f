/-
**Characters and blanks of settings texts.**

A text is read character by character. A `Reader` takes what it needs from the front of the
characters and returns the rest, or refuses.

* `skipWhite`, `skipTrivia`: blanks within a line, and blanks, line ends and comments.
* `lineRest`: the end of a line, with or without a comment.
-/

namespace SensorCape.Toml

/-- Reads something from the front of the characters, and returns the rest. -/
abbrev Reader (α : Type) : Type := List Char → Option (α × List Char)

/-- A blank within a line. -/
def isWhite (c : Char) : Bool :=
  c == ' ' || c == '\t'

/-- A character that comments and strings may hold as it is. -/
def isPlain (c : Char) : Bool :=
  c == '\t' || (' ' ≤ c && c ≤ '~') || '\x80' ≤ c

/-- A decimal digit. -/
def isDigit (c : Char) : Bool :=
  '0' ≤ c && c ≤ '9'

/-- Drops blanks within a line. -/
def skipWhite (text : List Char) : List Char :=
  text.dropWhile isWhite

/-- Drops the end of a line: a line feed, or a carriage return before one. -/
def lineFeed : List Char → Option (List Char)
  | '\n' :: rest => some rest
  | '\r' :: '\n' :: rest => some rest
  | _ => none

/-- Drops a comment, if there is one, up to the end of its line. -/
def skipComment : List Char → List Char
  | '#' :: rest => rest.dropWhile isPlain
  | text => text

/-- Drops what may follow a statement on its line, and the end of the line. -/
def lineRest (text : List Char) : Option (List Char) :=
  match skipComment (skipWhite text) with
  | [] => some []
  | rest => lineFeed rest

/-- Drops blanks, line ends and comments; `comment` says whether a comment is being dropped. -/
def skipTriviaFrom : (comment : Bool) → List Char → List Char
  | _, [] => []
  | _, '\n' :: rest => skipTriviaFrom false rest
  | _, '\r' :: '\n' :: rest => skipTriviaFrom false rest
  | true, c :: rest => if isPlain c then skipTriviaFrom true rest else c :: rest
  | false, c :: rest =>
    if isWhite c then skipTriviaFrom false rest
    else if c == '#' then skipTriviaFrom true rest
    else c :: rest

/-- Drops blanks, line ends and comments. -/
def skipTrivia (text : List Char) : List Char :=
  skipTriviaFrom false text

/-- Takes the longest stretch of characters of a class. -/
def takeStretch (accepts : Char → Bool) (text : List Char) : List Char × List Char :=
  (text.takeWhile accepts, text.dropWhile accepts)

end SensorCape.Toml
