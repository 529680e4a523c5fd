import BaseStation.Toml.Number

/-!
Dates and times of TOML, checked against the calendar. They are read for their form only, as they
stand.
-/

namespace BaseStation.Toml

open Scanner

/-- A number of exactly `n` digits from `lo` to `hi`. -/
def fixedNumber (n lo hi : Nat) : Scanner Nat := do
  let ds ← exactly n isDecimal
  let v := Text.ofDigits 10 ds
  if lo ≤ v ∧ v ≤ hi then return v else failure

def isLeapYear (y : Nat) : Bool := y % 4 == 0 && (y % 100 != 0 || y % 400 == 0)

def daysOfMonth (y m : Nat) : Nat :=
  if m = 2 then if isLeapYear y then 29 else 28
  else if m ∈ [4, 6, 9, 11] then 30
  else 31

def date : Scanner Unit := do
  let y ← fixedNumber 4 0 9999
  char '-'
  let m ← fixedNumber 2 1 12
  char '-'
  let _ ← fixedNumber 2 1 (daysOfMonth y m)

def hourMinute : Scanner Unit := do
  let _ ← fixedNumber 2 0 23
  char ':'
  let _ ← fixedNumber 2 0 59

/-- The time of a day, whose last minute may have a leap second. -/
def time : Scanner Unit := do
  hourMinute
  char ':'
  let _ ← fixedNumber 2 0 60
  let _ ← optional (char '.' *> runOf isDecimal)

def offset : Scanner Unit :=
  (do let _ ← one fun c => c == 'Z' || c == 'z') <|>
    (do let _ ← one fun c => c == '+' || c == '-'
        hourMinute)

/-- A date, a date with a time and perhaps an offset, or a time. -/
def dateTime : Scanner Unit :=
  (do date
      let _ ← optional do
        let _ ← one fun c => c == 'T' || c == 't' || c == ' '
        time
        let _ ← optional offset) <|>
    time

end BaseStation.Toml
