import BaseStation.Text.Digits
import BaseStation.Toml.Blank

/-!
String literals of TOML: basic ones, with escapes, and literal ones, without; each on one line or,
between three quotes, on several.
-/

namespace BaseStation.Toml

open Scanner

/-! ### Escapes -/

/-- The character of `n` hexadecimal digits; a surrogate is none. -/
def codePoint (n : Nat) : Scanner Char := do
  let ds ← exactly n fun c => (Text.digitValue? c).isSome
  let v := Text.ofDigits 16 ds
  if v.isValidChar then return Char.ofNat v else failure

/-- The character that a letter behind the backslash stands for. -/
def escapeLetter? : Char → Option Char
  | 'b' => some '\x08'
  | 't' => some '\t'
  | 'n' => some '\n'
  | 'f' => some '\x0c'
  | 'r' => some '\r'
  | '"' => some '"'
  | '\\' => some '\\'
  | _ => none

def escape : Scanner Char := do
  char '\\'
  let c ← one fun _ => true
  match c with
  | 'u' => codePoint 4
  | 'U' => codePoint 8
  | c => ofOption (escapeLetter? c)

/-! ### On one line -/

/-- A character that stands for itself in a string with the given quote; only basic strings give
the backslash a meaning. -/
def isPlain (quote : Char) (c : Char) : Bool :=
  !isControl c && c != quote && !(quote == '"' && c == '\\')

/-- A run of plain characters, or an escape in a basic string. -/
def piece (quote : Char) : Scanner (List Char) :=
  runOf (isPlain quote) <|> if quote = '"' then List.singleton <$> escape else failure

def singleLine (quote : Char) : Scanner (List Char) := do
  char quote
  let parts ← many (piece quote)
  char quote
  return parts.flatten

/-! ### On several lines -/

/-- A backslash at the end of a line joins it with the next text. -/
def lineJoin : Scanner (List Char) := do
  char '\\'
  blanks
  newline
  let _ ← many (newline <|> (one isBlank *> blanks))
  return []

/-- One or two quotes that do not end the string. -/
def innerQuotes (quote : Char) : Scanner (List Char) := fun s =>
  match s.span (· == quote) with
  | ([q], c :: rest) => some ([q], c :: rest)
  | ([q, r], c :: rest) => some ([q, r], c :: rest)
  | _ => none

/-- The three quotes at the end, with up to two in front that belong to the string. -/
def closingQuotes (quote : Char) : Scanner (List Char) := fun s =>
  match s.span (· == quote) with
  | (_ :: _ :: _ :: qs, rest) => if qs.length ≤ 2 then some (qs, rest) else none
  | _ => none

def multiLinePiece (quote : Char) : Scanner (List Char) :=
  innerQuotes quote <|> newline *> pure ['\n'] <|>
    (if quote = '"' then lineJoin else failure) <|> piece quote

/-- A line end right behind the opening quotes is left out. -/
def multiLine (quote : Char) : Scanner (List Char) := do
  literal [quote, quote, quote]
  let _ ← optional newline
  let parts ← many (multiLinePiece quote)
  let last ← closingQuotes quote
  return parts.flatten ++ last

/-! ### Strings -/

def quotedLine : Scanner String := String.ofList <$> (singleLine '"' <|> singleLine '\'')

def stringLiteral : Scanner String :=
  String.ofList <$> (multiLine '"' <|> multiLine '\'') <|> quotedLine

end BaseStation.Toml
