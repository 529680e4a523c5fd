import Mathlib.Data.Nat.Bitwise
import BaseStation.Capture
import BaseStation.Proofs.Validity

/-!
What a list of names selects for capture. A filter has a bit for each category and a flag for the
associated control channels, and each name adds one of them; so what a list leaves behind depends on
which names are in it alone, and of the records that can be made it lets through those that a name
chooses.
-/

namespace BaseStation.Capture

open Gsmtap (Channel acchFlag acchName maskBit sameName)

/-- A name that can be selected: that of the associated control channels or of a category. -/
def Selectable (name : String) : Prop :=
  sameName name acchName = true ∨ ∃ ch ∈ Channel.selectable, sameName name ch.name = true

/-- A filter that has selected a list of names, and nothing else. -/
structure Filter.Selects (f : Filter) (names : List String) : Prop where
  acch : f.acch = true ↔ ∃ name ∈ names, sameName name acchName = true
  mask : ∀ i, f.mask.toNat.testBit i = true ↔
    ∃ name ∈ names, ∃ ch ∈ Channel.selectable, sameName name ch.name = true ∧ ch.code.toNat = i

/-! ### Names -/

theorem sameName_iff {a b : String} :
    sameName a b = true ↔ a.toList.map Char.toLower = b.toList.map Char.toLower := beq_iff_eq

theorem sameName_comm {a b : String} : sameName a b = true ↔ sameName b a = true := by
  rw [sameName_iff, sameName_iff, eq_comm]

/-- No two categories that can be selected have one name. -/
theorem selectable_inj : ∀ a ∈ Channel.selectable, ∀ b ∈ Channel.selectable,
    sameName a.name b.name = true → a = b := by
  decide +kernel

theorem acchName_ne : ∀ ch ∈ Channel.selectable, ¬ sameName acchName ch.name = true := by
  decide +kernel

theorem sameName_trans {a b c : String} (left : sameName a b = true) (right : sameName a c = true) :
    sameName b c = true := by
  rw [sameName_iff] at left right ⊢
  exact left.symm.trans right

theorem ofName?_eq_some {name : String} {ch : Channel} :
    Channel.ofName? name = some ch ↔ ch ∈ Channel.selectable ∧ sameName name ch.name = true := by
  have sound {ch : Channel} (found : Channel.ofName? name = some ch) :
      ch ∈ Channel.selectable ∧ sameName ch.name name = true := by
    unfold Channel.ofName? at found
    have same := List.find?_some found
    exact ⟨List.mem_of_find?_eq_some found, same⟩
  constructor
  · intro found
    exact ⟨(sound found).1, sameName_comm.mp (sound found).2⟩
  · rintro ⟨there, same⟩
    cases found : Channel.ofName? name with
    | none => exact absurd (sameName_comm.mp same) (List.find?_eq_none.mp found ch there)
    | some ch' =>
      have same' := sameName_comm.mp (sound found).2
      rw [selectable_inj ch' (sound found).1 ch there (sameName_trans same' same)]

/-! ### Bits -/

theorem maskBit_toNat (ch : Channel) : (maskBit ch.code).toNat = 1 <<< ch.code.toNat := by
  cases ch <;> rfl

theorem testBit_maskBit (ch : Channel) (i : Nat) :
    (maskBit ch.code).toNat.testBit i = true ↔ ch.code.toNat = i := by
  rw [maskBit_toNat, Nat.one_shiftLeft, Nat.testBit_two_pow, decide_eq_true_iff]

namespace Filter

/-- A filter is known by its flag and its bits. -/
theorem ext_of_testBit {f g : Filter} (acch : f.acch = true ↔ g.acch = true)
    (mask : ∀ i, f.mask.toNat.testBit i = true ↔ g.mask.toNat.testBit i = true) : f = g := by
  obtain ⟨m, a⟩ := f
  obtain ⟨n, b⟩ := g
  have bits : m = n :=
    UInt32.toNat_inj.mp (Nat.eq_of_testBit_eq fun i => Bool.eq_iff_iff.mpr (mask i))
  have flags : a = b := Bool.eq_iff_iff.mpr acch
  rw [bits, flags]

theorem Selects.unique {f g : Filter} {names : List String} (left : f.Selects names)
    (right : g.Selects names) : f = g :=
  ext_of_testBit (left.acch.trans right.acch.symm) fun i =>
    (left.mask i).trans (right.mask i).symm

/-! ### Selection -/

/-- A filter with one more name selected, or the name if it is not known. -/
def add (f : Filter) (name : String) : Except String Filter :=
  match f.select? name with
  | some g => .ok g
  | none => .error name

theorem ofNames_eq (names : List String) : ofNames names = names.foldlM add empty := rfl

theorem empty_selects : empty.Selects [] where
  acch := ⟨nofun, nofun⟩
  mask i := by simp [empty]

section Selection

variable {f : Filter} {names before : List String} {name : String}

/-- One more name that can be selected: the flag or one bit joins what there was. -/
theorem add_selects (was : f.Selects before) (known : Selectable name) :
    ∃ g, f.add name = .ok g ∧ g.Selects (before ++ [name]) := by
  unfold add select?
  by_cases isAcch : sameName name acchName = true
  · rw [if_pos isAcch]
    refine ⟨_, rfl, ?_, fun i => ?_⟩
    · simp [isAcch]
    · -- the name of the control channels is that of no category
      have none_new : ∀ ch ∈ Channel.selectable, ¬ sameName name ch.name = true :=
        fun ch there same => acchName_ne ch there (sameName_trans isAcch same)
      simp only [was.mask, List.mem_append, List.mem_singleton, or_and_right, exists_or]
      grind
  · rw [if_neg isAcch]
    obtain ⟨ch, there, same⟩ := known.resolve_left isAcch
    rw [ofName?_eq_some.mpr ⟨there, same⟩]
    refine ⟨_, rfl, ?_, fun i => ?_⟩
    · simp [was.acch, isAcch]
    · have only : ∀ ch' ∈ Channel.selectable, sameName name ch'.name = true → ch' = ch :=
        fun ch' there' same' => Option.some.inj
          ((ofName?_eq_some.mpr ⟨there', same'⟩).symm.trans (ofName?_eq_some.mpr ⟨there, same⟩))
      rw [UInt32.toNat_or, Nat.testBit_or, Bool.or_eq_true, was.mask, testBit_maskBit]
      grind

theorem add_unknown (unknown : ¬ Selectable name) : f.add name = .error name := by
  unfold add select?
  rw [if_neg fun isAcch => unknown (.inl isAcch)]
  cases found : Channel.ofName? name with
  | none => rfl
  | some ch =>
    obtain ⟨there, same⟩ := ofName?_eq_some.mp found
    exact absurd (.inr ⟨ch, there, same⟩) unknown

/-- A list of names is selected, after others, exactly if each of them can be. -/
theorem foldlM_add_eq_ok (was : f.Selects before) {g : Filter} :
    names.foldlM add f = .ok g ↔ (∀ n ∈ names, Selectable n) ∧ g.Selects (before ++ names) := by
  induction names generalizing f before with
  | nil =>
    rw [List.foldlM_nil, List.append_nil]
    constructor
    · rintro ⟨⟩
      exact ⟨nofun, was⟩
    · rintro ⟨-, now⟩
      rw [was.unique now]
      rfl
  | cons name names ih =>
    rw [List.foldlM_cons, List.forall_mem_cons]
    by_cases known : Selectable name
    · obtain ⟨h, added, now⟩ := add_selects was known
      rw [added]
      refine (ih now).trans ?_
      rw [List.append_assoc, List.singleton_append, and_iff_right known]
    · rw [add_unknown known]
      exact ⟨nofun, fun h => absurd h.1.1 known⟩

theorem ofNames_eq_ok : ofNames names = .ok f ↔ (∀ n ∈ names, Selectable n) ∧ f.Selects names :=
  foldlM_add_eq_ok empty_selects

/-- Names that can be selected have a filter. -/
theorem exists_selects (known : ∀ n ∈ names, Selectable n) : ∃ f : Filter, f.Selects names := by
  have after {f : Filter} {before : List String} (was : f.Selects before) :
      ∃ g : Filter, g.Selects (before ++ names) := by
    induction names generalizing f before with
    | nil =>
      rw [List.append_nil]
      exact ⟨f, was⟩
    | cons name names ih =>
      obtain ⟨first, rest⟩ := List.forall_mem_cons.mp known
      obtain ⟨g, -, now⟩ := add_selects was first
      rw [← List.singleton_append, ← List.append_assoc]
      exact ih rest now
  exact after empty_selects

end Selection
end Filter

/-! ### Lists of names -/

section Lists

variable {names names' : List String} {f : Filter}

/-- The lists have the same names, up to order, repetition and the case of letters. -/
def SameNames (names names' : List String) : Prop :=
  (∀ n ∈ names, ∃ m ∈ names', sameName n m = true) ∧ ∀ m ∈ names', ∃ n ∈ names, sameName m n = true

theorem sameName_congr {a b c : String} (same : sameName a b = true) :
    sameName a c = true ↔ sameName b c = true :=
  ⟨sameName_trans same, sameName_trans (sameName_comm.mp same)⟩

/-- What one of the names does, one of the other list does. -/
theorem SameNames.exists_iff (same : SameNames names names') {P : String → Prop}
    (invariant : ∀ a b, sameName a b = true → (P a ↔ P b)) :
    (∃ n ∈ names, P n) ↔ ∃ m ∈ names', P m := by
  constructor
  · rintro ⟨n, there, holds⟩
    obtain ⟨m, other, alike⟩ := same.1 n there
    exact ⟨m, other, (invariant n m alike).mp holds⟩
  · rintro ⟨m, there, holds⟩
    obtain ⟨n, other, alike⟩ := same.2 m there
    exact ⟨n, other, (invariant m n alike).mp holds⟩

theorem Filter.Selects.congr (selects : f.Selects names) (same : SameNames names names') :
    f.Selects names' where
  acch := selects.acch.trans (same.exists_iff fun _ _ alike => sameName_congr alike)
  mask i := by
    refine (selects.mask i).trans (same.exists_iff fun a b alike => ?_)
    simp only [sameName_congr alike]

theorem Selectable.congr {a b : String} (alike : sameName a b = true) :
    Selectable a ↔ Selectable b := by
  unfold Selectable
  simp only [sameName_congr alike]

theorem SameNames.selectable (same : SameNames names names') (known : ∀ n ∈ names, Selectable n) :
    ∀ m ∈ names', Selectable m := by
  intro m there
  obtain ⟨n, other, alike⟩ := same.2 m there
  exact (Selectable.congr alike).mpr (known n other)

/-! ### What a list chooses -/

/-- A list chooses a record: one of an associated control channel by the name of these, any other
one by the name of its category. -/
def Record.Chosen (names : List String) (r : Record) : Prop :=
  if r.category &&& acchFlag ≠ 0 then ∃ n ∈ names, sameName n acchName = true
  else ∃ n ∈ names, ∃ ch ∈ Channel.selectable, sameName n ch.name = true ∧ ch.code = r.category

instance (names : List String) : DecidablePred (Record.Chosen names) := fun r => by
  unfold Record.Chosen
  infer_instance

theorem code_unflagged (ch : Channel) : ch.code &&& acchFlag = 0 := by
  cases ch <;> rfl

theorem code_flagged (ch : Channel) : (ch.code ||| acchFlag) &&& acchFlag ≠ 0 := by
  cases ch <;> decide

/-- The test of a mask for the bit of a category. -/
theorem and_maskBit_ne (mask : UInt32) (ch : Channel) :
    (mask &&& maskBit ch.code != 0) = mask.toNat.testBit ch.code.toNat := by
  rw [Bool.eq_iff_iff, bne_iff_ne, ne_eq, ← UInt32.toNat_inj, UInt32.toNat_and, maskBit_toNat,
    Nat.one_shiftLeft, Nat.and_comm, Nat.two_pow_and]
  cases mask.toNat.testBit ch.code.toNat <;> simp

/-- A filter lets through the records that its list chooses, of all those that can be made. -/
theorem Filter.Selects.passes_iff (selects : f.Selects names) {r : Record} {ch : Channel}
    (category : r.category = ch.code ∨ r.category = ch.code ||| acchFlag) :
    f.passes r.category = true ↔ r.Chosen names := by
  unfold passes Record.Chosen
  rcases category with plain | flagged
  · rw [plain, code_unflagged, if_neg (by decide), if_neg (not_not_intro rfl), and_maskBit_ne,
      selects.mask]
    simp only [UInt8.toNat_inj]
  · have there := code_flagged ch
    rw [flagged, if_pos (bne_iff_ne.mpr there), if_pos there, selects.acch]

end Lists
end BaseStation.Capture
