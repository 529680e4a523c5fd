import Mathlib.Data.Nat.ModEq

/-!
Arithmetic and access as a machine with words of fixed width does them. A result has to fit in its
word, an index has to lie in its list and a slice in its bounds; where they do not, the machine
stops.
-/

namespace BaseStation.Machine

/-- Why the machine stops. -/
inductive Panic where
  /-- The result of an operation does not fit in its word. -/
  | overflow (result : Int)
  /-- A word is shifted by as many places as it has, or more. -/
  | shift (places : Nat)
  | index (i length : Nat)
  | slice (start stop length : Nat)
  /-- The program stops the machine of its own accord. -/
  | raised (message : String)
deriving DecidableEq

/-- A value, unless the machine stops on the way to it. -/
abbrev Checked (α : Type) := Except Panic α

variable {α β : Type} {xs : List α} {x : α} {i n : Nat}

@[simp] theorem ok_bind (a : α) (k : α → Checked β) : (Except.ok a : Checked α) >>= k = k a := rfl

@[simp] theorem pure_eq_ok (a : α) : (pure a : Checked α) = .ok a := rfl

/-! ### Words -/

/-- A result as an unsigned word of `n` bits. -/
def unsigned (n x : Nat) : Checked Nat := if x < 2 ^ n then .ok x else .error (.overflow x)

/-- A result as a signed word of `n` bits. -/
def signed (n : Nat) (x : Int) : Checked Int :=
  if -2 ^ (n - 1) ≤ x ∧ x < 2 ^ (n - 1) then .ok x else .error (.overflow x)

/-- The difference of unsigned words. -/
def minus (a b : Nat) : Checked Nat := if b ≤ a then .ok (a - b) else .error (.overflow (a - b))

/-- A shift of a word of `n` bits. -/
def checkShift (n places : Nat) : Checked Unit :=
  if places < n then .ok () else .error (.shift places)

/-- The conversion to an unsigned word of `n` bits, which keeps the low bits. -/
def toUnsigned (n : Nat) (x : Int) : Nat := (x % (2 ^ n : Nat)).toNat

/-- The conversion to a signed word of `n` bits, which keeps the low bits. -/
def toSigned (n : Nat) (x : Int) : Int := Int.bmod x (2 ^ n)

theorem unsigned_eq {x : Nat} (fits : x < 2 ^ n) : unsigned n x = .ok x := if_pos fits

theorem signed_eq {x : Int} (low : -2 ^ (n - 1) ≤ x) (high : x < 2 ^ (n - 1)) :
    signed n x = .ok x := if_pos ⟨low, high⟩

theorem minus_eq {a b : Nat} (le : b ≤ a) : minus a b = .ok (a - b) := if_pos le

theorem checkShift_eq (lt : i < n) : checkShift n i = .ok () := if_pos lt

theorem toUnsigned_of_nonneg {x : Int} (nonneg : 0 ≤ x) (fits : x < (2 ^ n : Nat)) :
    toUnsigned n x = x.toNat := by
  unfold toUnsigned
  rw [Int.emod_eq_of_lt nonneg fits]

theorem toUnsigned_eq {x : Nat} (fits : x < 2 ^ n) : toUnsigned n x = x := by
  rw [toUnsigned_of_nonneg (Int.natCast_nonneg x) (Int.ofNat_lt.mpr fits), Int.toNat_natCast]

/-! ### Lists -/

/-- The entry at a place. -/
def index (xs : List α) (i : Nat) : Checked α :=
  match xs[i]? with
  | some x => .ok x
  | none => .error (.index i xs.length)

/-- The entries from a place up to another one. -/
def slice (xs : List α) (start stop : Nat) : Checked (List α) :=
  if start ≤ stop ∧ stop ≤ xs.length then .ok ((xs.take stop).drop start)
  else .error (.slice start stop xs.length)

theorem index_eq (there : xs[i]? = some x) : index xs i = .ok x := by
  unfold index
  rw [there]

/-- The first entries. -/
theorem slice_zero (le : n ≤ xs.length) : slice xs 0 n = .ok (xs.take n) :=
  if_pos ⟨Nat.zero_le n, le⟩

/-- The entries from a place to the end. -/
theorem slice_length (le : n ≤ xs.length) : slice xs n xs.length = .ok (xs.drop n) := by
  unfold slice
  rw [if_pos ⟨le, Nat.le_refl _⟩, List.take_length]

end BaseStation.Machine
