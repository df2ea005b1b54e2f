/-
**Texts on a terminal.**

A log line may quote what someone wrote into the settings file, so the characters that a terminal
takes as commands are written by their codes. Other controls, line ends among them, stay as they
are.

* `screened`: the text as it is printed.
-/

namespace SensorCape.Text

/-- The controls of the first row that begin or are commands, with their codes in writing. -/
def terminalCommands : List (Char × String) :=
  [('\x07', "\\x07"), ('\x08', "\\x08"), ('\x0c', "\\x0c"), ('\x1b', "\\x1b"), ('\x7f', "\\x7f")]

/-- Whether a character is a control of the second row. -/
def isSecondRowControl (c : Char) : Bool :=
  '\x80' ≤ c && c ≤ '\x9f'

/-- A character as it is printed. -/
def screenedChar (c : Char) : List Char :=
  match terminalCommands.lookup c with
  | some code => code.toList
  | none =>
    if isSecondRowControl c then ['\x5c', 'u', '\x7b'] ++ Nat.toDigits 16 c.toNat ++ ['\x7d']
    else [c]

/-- A text as it is printed. -/
def screened (text : String) : String :=
  String.ofList (text.toList.flatMap screenedChar)

end SensorCape.Text
