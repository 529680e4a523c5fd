/-!
Numbers in text: decimal and hexadecimal digits with leading zeros.
-/

namespace BaseStation.Text

/-- The digits of `n` in base `b`, at least `width` of them. -/
def digits (b width n : Nat) : List Char :=
  let ds := Nat.toDigits b n
  List.replicate (width - ds.length) '0' ++ ds

/-- Decimal digits, at least `width` of them. -/
def dec (width n : Nat) : String := String.ofList (digits 10 width n)

/-- Lower case hexadecimal digits, at least `width` of them. -/
def hex (width n : Nat) : String := String.ofList (digits 16 width n)

def octet (x : UInt8) : String := hex 2 x.toNat

/-- The value of a digit in bases up to 16, letters in either case. -/
def digitValue? (c : Char) : Option Nat :=
  if '0' ≤ c ∧ c ≤ '9' then some (c.toNat - '0'.toNat)
  else if 'a' ≤ c ∧ c ≤ 'f' then some (c.toNat - 'a'.toNat + 10)
  else if 'A' ≤ c ∧ c ≤ 'F' then some (c.toNat - 'A'.toNat + 10)
  else none

/-- The number that digits in base `b` stand for. -/
def ofDigits (b : Nat) (ds : List Char) : Nat :=
  ds.foldl (fun n d => b * n + (digitValue? d).getD 0) 0

/-- The text of a value that may be absent, as it stands in messages. -/
def optional : Option String → String
  | some s => "Some(" ++ s ++ ")"
  | none => "None"

def bit (b : Bool) : String := if b then "1" else "0"

end BaseStation.Text
