import BaseStation.Toml.DateTime
import BaseStation.Toml.StringLiteral
import BaseStation.Toml.Value

/-!
TOML documents (version 1.0): keys, values, lines, and the table that the lines build.
-/

namespace BaseStation.Toml

open Scanner

/-- Keys of a dotted key, and nested values, stay below this number. -/
def depthLimit : Nat := 80

/-! ### Keys -/

/-- A character of a bare key. -/
def isKeyChar (c : Char) : Bool := c.isAlphanum || c == '_' || c == '-'

def simpleKey : Scanner String := quotedLine <|> String.ofList <$> runOf isKeyChar

/-- A dotted key: the keys in front, and the last one. -/
def key : Scanner (List String × String) := do
  let ks ← separated (blanks *> simpleKey <* blanks) (char '.')
  match ks.getLast? with
  | some k => if ks.length < depthLimit then return (ks.dropLast, k) else failure
  | none => failure

/-! ### Values -/

def boolean : Scanner Bool :=
  literal "true".toList *> pure true <|> literal "false".toList *> pure false

def scalar : Scanner Value :=
  .string <$> stringLiteral <|> dateTime *> pure .dateTime <|> float *> pure .float <|>
    .integer <$> integer <|> .boolean <$> boolean

/-- Values in brackets, with commas between them and perhaps behind the last one. -/
def array (element : Scanner Value) : Scanner Value := do
  char '['
  let vs ← optional (separated (blankLines *> element <* blankLines) (char ',') <*
    optional (char ','))
  blankLines
  char ']'
  return .array (vs.getD [])

def entry (value : Scanner Value) : Scanner ((List String × String) × Value) := do
  let k ← key
  char '='
  blanks
  let v ← value
  blanks
  return (k, v)

/-- Entries in braces on one line, with commas between them. -/
def inlineTable (value : Scanner Value) : Scanner Value := do
  char '\x7b'
  let es ← optional (separated (entry value) (char ','))
  blanks
  char '\x7d'
  let add (t : Entries) (e : (List String × String) × Value) : Option Entries :=
    t.insert e.1.1 e.1.2 e.2 .inline
  .table .inline <$> ofOption ((es.getD []).foldlM add [])

def compound (value : Scanner Value) : Scanner Value := array value <|> inlineTable value

/-- A value that is nested no deeper than `n`. -/
def value : Nat → Scanner Value
  | 0 => scalar
  | n + 1 => scalar <|> compound (value n)

/-! ### Lines -/

inductive Line where
  | blank
  | entry (path : List String) (key : String) (value : Value)
  /-- The header of a table. -/
  | table (path : List String) (key : String)
  /-- The header of one of several tables under a key. -/
  | element (path : List String) (key : String)

def line : Scanner Line := blanks *> (blankLine <|> element <|> table <|> keyLine)
where
  blankLine : Scanner Line := (comment *> lineEnd <|> newline) *> pure .blank
  element : Scanner Line := do
    literal ['[', '[']
    let k ← key
    literal [']', ']']
    lineRest
    return .element k.1 k.2
  table : Scanner Line := do
    char '['
    let k ← key
    char ']'
    lineRest
    return .table k.1 k.2
  keyLine : Scanner Line := do
    let e ← entry (value (depthLimit - 1))
    lineRest
    return .entry e.1.1 e.1.2 e.2

/-! ### Documents -/

/-- The document so far, and the path of the table that entries are added to. -/
structure Draft where
  root : Entries
  current : List String

namespace Draft

/-- The document with one more line. -/
def add (d : Draft) : Line → Option Draft
  | .blank => some d
  | .entry path k v => do
    let root ← Entries.descend false (fun o es => es.insert path k v o) d.current .header d.root
    return { d with root := root }
  | .table path k => do return ⟨← d.root.openTable path k, path ++ [k]⟩
  | .element path k => do return ⟨← d.root.openElement path k, path ++ [k]⟩

end Draft

/-- A byte order mark may lead the text. -/
def lines : Scanner (List Line) := do
  let _ ← optional (char '\ufeff')
  many line <* blanks

/-- The table that a document describes. -/
def parse? (text : String) : Option Entries := do
  let ls ← lines.all? text
  let d ← ls.foldlM Draft.add ⟨[], []⟩
  return d.root

end BaseStation.Toml
