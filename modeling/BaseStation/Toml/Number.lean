import BaseStation.Text.Digits
import BaseStation.Toml.Blank

/-!
Numbers of TOML. Integers have 64 bits; they are decimal, or hexadecimal, octal or binary behind a
mark. Floats are read for their form only, as they stand.
-/

namespace BaseStation.Toml

open Scanner

/-! ### Digits -/

/-- A digit in base `b`. -/
def isDigitOf (b : Nat) (c : Char) : Bool :=
  match Text.digitValue? c with
  | some d => d < b
  | none => false

def isDecimal (c : Char) : Bool := isDigitOf 10 c

/-- Digits, single underscores between them left out. -/
def digitRun (b : Nat) : Scanner (List Char) := do
  let d ← one (isDigitOf b)
  let ds ← many (one (isDigitOf b) <|> char '_' *> one (isDigitOf b))
  return d :: ds

/-- The digits of a decimal number, which has no zero in front. -/
def wholeDigits : Scanner (List Char) := fun s =>
  match s with
  | '0' :: rest => some (['0'], rest)
  | s => digitRun 10 s

/-- A sign, minus if it is set. -/
def sign : Scanner Bool := char '-' *> pure true <|> char '+' *> pure false <|> pure false

/-! ### Integers -/

/-- The value, if it has 64 bits. -/
def int64? (n : Int) : Option Int :=
  if -0x8000000000000000 ≤ n ∧ n ≤ 0x7fffffffffffffff then some n else none

/-- Digits in base `b` behind a mark. -/
def marked (mark : Char) (b : Nat) : Scanner Int := do
  literal ['0', mark]
  let ds ← digitRun b
  ofOption (int64? (Text.ofDigits b ds))

def decimal : Scanner Int := do
  let negative ← sign
  let ds ← wholeDigits
  let n : Int := Text.ofDigits 10 ds
  ofOption (int64? (if negative then -n else n))

def integer : Scanner Int := marked 'x' 16 <|> marked 'o' 8 <|> marked 'b' 2 <|> decimal

/-! ### Floats -/

def fraction : Scanner (List Char) := char '.' *> digitRun 10

def exponent : Scanner Int := do
  let _ ← one fun c => c == 'e' || c == 'E'
  let negative ← sign
  let ds ← digitRun 10
  let n : Int := Text.ofDigits 10 ds
  return if negative then -n else n

/-- The least decimal exponent of ten behind which every number is beyond the range. -/
def maxDecimalExponent : Int := 310

/-- Numbers from here on, halfway above the largest double, are beyond the range. -/
def doubleBound : Nat := Nat.pow 2 1024 - Nat.pow 2 970

/-- The number `m * 10 ^ e` is within the range of doubles. -/
def inDoubleRange (m : Nat) (e : Int) : Bool :=
  let magnitude := (Nat.toDigits 10 m).length + e
  m == 0 || magnitude < 300 ||
    (magnitude ≤ maxDecimalExponent &&
      m * Nat.pow 10 e.toNat < doubleBound * Nat.pow 10 (-e).toNat)

/-- A float with a fraction or an exponent. A positive one has to be within the range. -/
def decimalFloat : Scanner Unit := do
  let negative ← sign
  let whole ← wholeDigits
  let frac ← optional fraction
  let exp ← if frac.isSome then optional exponent else some <$> exponent
  let frac := frac.getD []
  let m := Text.ofDigits 10 (whole ++ frac)
  if negative || inDoubleRange m (exp.getD 0 - frac.length) then pure () else failure

/-- Infinities, and what is not a number. -/
def specialFloat : Scanner Unit := do
  let _ ← sign
  literal ['i', 'n', 'f'] <|> literal ['n', 'a', 'n']

def float : Scanner Unit := decimalFloat <|> specialFloat

end BaseStation.Toml
