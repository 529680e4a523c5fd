/-!
TOML values, and how tables grow while a document is read. A table remembers where it comes from,
since that decides which later parts of the document may add to it.
-/

namespace BaseStation.Toml

/-- Where a table comes from. -/
inductive Origin where
  | header
  /-- The header of a table below it implies it. -/
  | implied
  | dotted
  | inline
deriving DecidableEq, Repr

/-- A value. The configuration has no floats, dates or times, so that theirs are not kept. -/
inductive Value where
  | string (s : String)
  | integer (n : Int)
  | boolean (b : Bool)
  | float
  | dateTime
  | array (elements : List Value)
  | table (origin : Origin) (entries : List (String × Value))
  /-- Tables under one key, each with a header of its own. -/
  | tables (elements : List (List (String × Value)))

/-- The contents of a table, keys in the order of their first use. -/
abbrev Entries := List (String × Value)

namespace Value

/-! ### What a value is taken for -/

def string? : Value → Option String
  | string s => some s
  | _ => none

def boolean? : Value → Option Bool
  | boolean b => some b
  | _ => none

/-- An integer from `lo` to `hi`. -/
def integer? (lo hi : Int) : Value → Option Int
  | integer n => if lo ≤ n ∧ n ≤ hi then some n else none
  | _ => none

/-- A number below `2 ^ width`. -/
def unsigned? (width : Nat) (v : Value) : Option Nat :=
  (v.integer? 0 (Nat.pow 2 width - 1 : Nat)).map Int.toNat

/-- The elements of an array, each taken for something. -/
def list? {α : Type} (element : Value → Option α) : Value → Option (List α)
  | array vs => vs.mapM element
  | tables ts => ts.mapM fun es => element (table .header es)
  | _ => none

/-- The key under which a date or time stands where a table is expected. -/
def dateTimeKey : String := "$__toml_private_datetime"

def entries? : Value → Option Entries
  | table _ es => some es
  | dateTime => some [(dateTimeKey, dateTime)]
  | _ => none

def isEmpty : Value → Bool
  | array vs => vs.isEmpty
  | table _ es => es.isEmpty
  | tables ts => ts.isEmpty
  | _ => false

/-- A name: a string, or the one key of a table with nothing under it. -/
def name? : Value → Option String
  | string s => some s
  | table _ [(k, v)] => if v.isEmpty then some k else none
  | _ => none

end Value

/-! ### Tables -/

namespace Entries

def required {α : Type} (es : Entries) (k : String) (f : Value → Option α) : Option α :=
  (es.lookup k).bind f

def given {α : Type} (es : Entries) (k : String) (f : Value → Option α) : Option (Option α) :=
  match es.lookup k with
  | some v => (f v).map some
  | none => some none

/-- Writes an entry; a new key comes last. -/
def put (k : String) (v : Value) : Entries → Entries
  | [] => [(k, v)]
  | (k', v') :: es => if k' = k then (k, v) :: es else (k', v') :: put k v es

/-- Changes the table that a path leads to. Tables that are missing on the way are made; of tables
under one key the last is meant. A dotted path does not enter a table that has a header, and no
path enters a table in braces. -/
def descend (dotted : Bool) (f : Origin → Entries → Option Entries) :
    List String → Origin → Entries → Option Entries
  | [], o, es => f o es
  | k :: path, _, es => do
    let made := if dotted then Origin.dotted else .implied
    let new ← match es.lookup k with
      | none => (descend dotted f path made []).map (Value.table made)
      | some (.table o sub) =>
        if o = .inline ∨ (dotted ∧ o = .header) then none
        else (descend dotted f path o sub).map (Value.table o)
      | some (.tables ts) =>
        (descend dotted f path .header (ts.getLastD [])).map fun sub =>
          .tables (ts.dropLast ++ [sub])
      | some _ => none
    return es.put k new

/-- Adds an entry at a dotted path, whose last table has to come from a dotted key too. -/
def insert (path : List String) (k : String) (v : Value) (o : Origin) (es : Entries) :
    Option Entries :=
  descend true (fun o es =>
    if (o = .dotted ↔ path ≠ []) ∧ (es.lookup k).isNone then some (es ++ [(k, v)]) else none)
    path o es

/-- Opens a table by its header. One that only headers below it implied becomes its own, and comes
last now. -/
def openTable (path : List String) (k : String) (es : Entries) : Option Entries :=
  descend false (fun _ es =>
    match es.lookup k with
    | none => some (es ++ [(k, .table .header [])])
    | some (.table .implied sub) => some (es.eraseP (·.1 == k) ++ [(k, .table .header sub)])
    | some _ => none)
    path .header es

/-- Opens one more of the tables under a key. -/
def openElement (path : List String) (k : String) (es : Entries) : Option Entries :=
  descend false (fun _ es =>
    match es.lookup k with
    | none => some (es ++ [(k, .tables [[]])])
    | some (.tables ts) => some (es.put k (.tables (ts ++ [[]])))
    | some _ => none)
    path .header es

end Entries
end BaseStation.Toml
