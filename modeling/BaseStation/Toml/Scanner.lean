/-!
Scanners: readers from the front of a text. A scanner gives a value and the text behind it, or
fails; what fails has read nothing, so that another scanner can be tried.
-/

namespace BaseStation.Toml

abbrev Scanner := StateT (List Char) Option

namespace Scanner

variable {α β : Type}

def one (p : Char → Bool) : Scanner Char
  | c :: rest => if p c then some (c, rest) else none
  | [] => none

def literal (cs : List Char) : Scanner Unit := fun s =>
  if cs.isPrefixOf s then some ((), s.drop cs.length) else none

def char (c : Char) : Scanner Unit := literal [c]

/-- All characters of a class up to the first other one. -/
def run (p : Char → Bool) : Scanner (List Char) := fun s => some (s.span p)

/-- At least one character of a class, up to the first other one. -/
def runOf (p : Char → Bool) : Scanner (List Char) := do
  let c ← one p
  let cs ← run p
  return c :: cs

/-- Exactly `n` characters of a class. -/
def exactly (n : Nat) (p : Char → Bool) : Scanner (List Char) := fun s =>
  let cs := s.take n
  if cs.length = n ∧ cs.all p then some (cs, s.drop n) else none

def atEnd : Scanner Unit
  | [] => some ((), [])
  | _ :: _ => none

/-- A value that may be refused. -/
def ofOption (o : Option α) : Scanner α := fun s => o.map fun a => (a, s)

/-- Reads as often as the scanner gets on, with what is left then. -/
def manyFrom (p : Scanner α) (s : List Char) : List α × List Char :=
  match p s with
  | some (a, rest) =>
    if rest.length < s.length then
      let (as, rest) := manyFrom p rest
      (a :: as, rest)
    else ([], s)
  | none => ([], s)
termination_by s.length

def many (p : Scanner α) : Scanner (List α) := fun s => some (manyFrom p s)

/-- One or more items with separators between them. -/
def separated (p : Scanner α) (sep : Scanner β) : Scanner (List α) := do
  let a ← p
  let as ← many (sep *> p)
  return a :: as

/-- What a scanner makes of a whole text. -/
def all? (p : Scanner α) (text : String) : Option α := ((p <* atEnd) text.toList).map (·.1)

end Scanner
end BaseStation.Toml
