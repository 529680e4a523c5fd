import BaseStation.Toml.DateTime
import BaseStation.Toml.Value

/-!
Tagged dates and times. A table that the date-time key leads stands for a date or time, whose text
is the one thing in it. Where a value of any kind is welcome, such a table has to be one.
-/

namespace BaseStation.Toml

/-- The value is the text of a date or time, written as in a document. -/
def Value.isDateTimeText (v : Value) : Bool := (v.string?.bind Toml.dateTime.all?).isSome

mutual

/-- Each table within the value that the date-time key leads is a date or time. -/
def Value.wellTagged : Value → Bool
  | .array vs => listWellTagged vs
  | .table _ es => entriesWellTagged es
  | .tables ts => tablesWellTagged ts
  | _ => true

def listWellTagged : List Value → Bool
  | [] => true
  | v :: vs => v.wellTagged && listWellTagged vs

def entriesWellTagged : List (String × Value) → Bool
  | [] => true
  | (k, v) :: es =>
    if k = Value.dateTimeKey then v.isDateTimeText && es.isEmpty
    else v.wellTagged && restWellTagged es

/-- The entries of a table behind the first one, whose keys have no such meaning. -/
def restWellTagged : List (String × Value) → Bool
  | [] => true
  | (_, v) :: es => v.wellTagged && restWellTagged es

def tablesWellTagged : List (List (String × Value)) → Bool
  | [] => true
  | es :: ts => entriesWellTagged es && tablesWellTagged ts

end

/-- The keys that are not in the list, in order, where the values under them can be read. -/
def Entries.keysBut? (known : List String) (es : Entries) : Option (List String) :=
  let others := es.filter (·.1 ∉ known)
  if others.all (·.2.wellTagged) then some ((others.map (·.1)).mergeSort fun a b => !(b < a))
  else none

end BaseStation.Toml
