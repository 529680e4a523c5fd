import BaseStation.Toml.Scanner

/-!
What may stand between the parts of a TOML document: blanks, line ends and comments.
-/

namespace BaseStation.Toml

open Scanner

/-! ### Characters -/

def isBlank (c : Char) : Bool := c == ' ' || c == '\t'

/-- A control character other than the tabulator, which may stand nowhere. -/
def isControl (c : Char) : Bool := (c.toNat < 0x20 && c != '\t') || c.toNat == 0x7f

/-! ### Between the parts -/

def blanks : Scanner Unit := do let _ ← run isBlank

/-- A line feed, with or without a carriage return in front. -/
def newline : Scanner Unit := char '\n' <|> literal ['\r', '\n']

/-- A comment runs to the end of its line. -/
def comment : Scanner Unit := do
  char '#'
  let _ ← run (!isControl ·)

def lineEnd : Scanner Unit := newline <|> atEnd

/-- What may follow the last part of a line. -/
def lineRest : Scanner Unit := do
  blanks
  let _ ← optional comment
  lineEnd

/-- Blanks, comments and line ends in any number. -/
def blankLines : Scanner Unit := do
  blanks
  let _ ← many ((comment *> newline <|> newline) *> blanks)

end BaseStation.Toml
