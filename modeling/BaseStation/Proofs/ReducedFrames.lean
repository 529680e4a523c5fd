import BaseStation.Bridge.Basic
import BaseStation.Proofs.Bts
import BaseStation.Proofs.SameFrame

/-!
Base stations that are the same but for the last frame numbers of their channels, which name the
same frames: what is looked up in them, and changes that keep them so. They are compared by their
reduced forms, in which each of these numbers lies within the hyperframe.
-/

namespace BaseStation

/-! ### Reduced forms -/

/-- The channel with the number of its last voice frame within the hyperframe. -/
def Lchan.reduced (l : Lchan) : Lchan := { l with lastFn := l.lastFn.map reducedFrame }

def Timeslot.reduced (t : Timeslot) : Timeslot := { t with lchans := t.lchans.map Lchan.reduced }

def Carrier.reduced (c : Carrier) : Carrier := { c with slots := c.slots.map Timeslot.reduced }

def Bts.reduced (b : Bts) : Bts := { b with carriers := b.carriers.map Carrier.reduced }

/-- Of two things that map to one, either both are there or none is. -/
theorem map_eq_map_cases {α β : Type} {g : α → β} {x? y? : Option α}
    (same : x?.map g = y?.map g) :
    (x? = none ∧ y? = none) ∨ ∃ x y, x? = some x ∧ y? = some y ∧ g x = g y := by
  cases x? with
  | none => exact .inl ⟨rfl, Option.map_eq_none_iff.mp same.symm⟩
  | some x =>
    obtain ⟨y, rfl, maps⟩ := Option.map_eq_some_iff.mp same.symm
    exact .inr ⟨x, y, rfl, rfl, maps.symm⟩

/-- Changes at one place that keep what entries map to keep what the lists map to. -/
theorem map_modify_congr {α β : Type} {g : α → β} {xs ys : List α} {f h : α → α} (i : Nat)
    (same : xs.map g = ys.map g) (keep : ∀ x y, g x = g y → g (f x) = g (h y)) :
    (xs.modify i f).map g = (ys.modify i h).map g := by
  apply List.ext_getElem?
  intro j
  have entry : xs[j]?.map g = ys[j]?.map g := by
    rw [← List.getElem?_map, ← List.getElem?_map, same]
  rw [List.getElem?_map, List.getElem?_map, List.getElem?_modify, List.getElem?_modify]
  obtain ⟨left, right⟩ | ⟨x, y, left, right, maps⟩ := map_eq_map_cases entry
  · rw [left, right]
    rfl
  · rw [left, right]
    by_cases here : i = j
    · simpa [here] using keep x y maps
    · simpa [here] using maps

/-- A change that does the same to a reduced form does the same to all things that reduce to it. -/
theorem changes_alike {α γ : Type} {reduced : α → α} (change : α → α × γ)
    (apart : ∀ x, change (reduced x) = (reduced (change x).1, (change x).2)) {x y : α}
    (same : reduced x = reduced y) :
    reduced (change x).1 = reduced (change y).1 ∧ (change x).2 = (change y).2 := by
  rw [← Prod.mk.injEq, ← apart, ← apart, same]

/-! ### Channels -/

namespace Lchan

variable {l l' : Lchan}

theorem eq_of_reduced (same : l.reduced = l'.reduced) :
    SameLast l.lastFn l'.lastFn ∧ l' = { l with lastFn := l'.lastFn } := by
  cases l
  cases l'
  simp only [reduced, mk.injEq] at same
  simp [SameLast, same]

theorem reduced_last {last : Option UInt32} (frames : SameLast l.lastFn last) :
    l.reduced = { l with lastFn := last }.reduced := by
  unfold reduced
  dsimp only
  rw [frames]

theorem reduced_setAccessOffset (symbols : Int) (l : Lchan) :
    { l with meas := l.meas.setAccessOffset symbols }.reduced =
      { l.reduced with meas := l.reduced.meas.setAccessOffset symbols } := rfl

section Changes

variable (same : l.reduced = l'.reduced)
include same

theorem checkDownlink_congr (n : UInt8) (xs : List UInt8) :
    (l.checkDownlink n xs).1.reduced = (l'.checkDownlink n xs).1.reduced ∧
      (l.checkDownlink n xs).2 = (l'.checkDownlink n xs).2 := by
  refine changes_alike (·.checkDownlink n xs) (fun l => ?_) same
  unfold checkDownlink reduced
  dsimp only
  split <;> rfl

theorem checkUplink_congr (n : UInt8) (xs : List UInt8) :
    (l.checkUplink n xs).1.reduced = (l'.checkUplink n xs).1.reduced ∧
      (l.checkUplink n xs).2 = (l'.checkUplink n xs).2 := by
  refine changes_alike (·.checkUplink n xs) (fun l => ?_) same
  unfold checkUplink reduced
  dsimp only
  split <;> rfl

theorem confirmCipher_congr (c : CipherConfirm) :
    (l.confirmCipher c).1.reduced = (l'.confirmCipher c).1.reduced ∧
      (l.confirmCipher c).2 = (l'.confirmCipher c).2 := by
  refine changes_alike (·.confirmCipher c) (fun l => ?_) same
  unfold confirmCipher reduced
  dsimp only
  split <;> rfl

theorem onSacchFrame_congr (ceiling : Int) (bad : Bool) :
    (l.onSacchFrame ceiling bad).1.reduced = (l'.onSacchFrame ceiling bad).1.reduced ∧
      (l.onSacchFrame ceiling bad).2 = (l'.onSacchFrame ceiling bad).2 := by
  refine changes_alike (·.onSacchFrame ceiling bad) (fun l => ?_) same
  unfold onSacchFrame reduced
  dsimp only
  split
  · rfl
  · split
    · rfl
    · split <;> rfl

end Changes

end Lchan

/-! ### Timeslots and carriers -/

namespace Timeslot

variable {t t' : Timeslot}

theorem isPdch_congr (same : t.reduced = t'.reduced) : t.isPdch = t'.isPdch := by
  change t.reduced.isPdch = t'.reduced.isPdch
  rw [same]

theorem flags_congr (same : t.reduced = t'.reduced) : t.flags = t'.flags := by
  change t.reduced.flags = t'.reduced.flags
  rw [same]

theorem reduced_settle (same : t.reduced = t'.reduced) :
    { t with flags := t.flags.settle }.reduced = { t' with flags := t'.flags.settle }.reduced :=
  congrArg (fun t : Timeslot => { t with flags := t.flags.settle }) same

theorem reduced_beginSwitch? (t : Timeslot) (toPdch : Bool) :
    t.reduced.beginSwitch? toPdch = (t.beginSwitch? toPdch).map reduced := by
  cases toPdch with
  | true =>
    by_cases idle : t.pchan = .tchFPdch ∧ t.flags.pending = false <;>
      simp [beginSwitch?, beginPdchAct?, reduced, idle]
  | false =>
    by_cases inUse : t.pchan = .tchFPdch ∧ t.flags.pending = false ∧ t.flags.active = true <;>
      simp [beginSwitch?, beginPdchDeact?, reduced, inUse]

theorem reduced_modifyLchans {i : Nat} {f h : Lchan → Lchan} (same : t.reduced = t'.reduced)
    (keep : ∀ l l', l.reduced = l'.reduced → (f l).reduced = (h l').reduced) :
    { t with lchans := t.lchans.modify i f }.reduced =
      { t' with lchans := t'.lchans.modify i h }.reduced := by
  have lchans := map_modify_congr i (congrArg lchans same) keep
  cases t
  cases t'
  simp only [reduced, mk.injEq] at same lchans ⊢
  exact ⟨same.1, same.2.1, same.2.2.1, same.2.2.2.1, lchans⟩

end Timeslot

namespace Bridge

variable {t t' : Timeslot} (same : t.reduced = t'.reduced)
include same

theorem afterActivation_congr (type : LchanType) (ok : Bool) :
    (afterActivation t type ok).1.reduced = (afterActivation t' type ok).1.reduced ∧
      (afterActivation t type ok).2 = (afterActivation t' type ok).2 := by
  refine changes_alike (afterActivation · type ok) (fun t => ?_) same
  cases dynamic : ok && t.pchan == .tchFTchHPdch <;>
    cases switching : t.pchan == .tchFPdch && t.flags.actPending <;>
      simp [afterActivation, Timeslot.reduced, dynamic, switching]

theorem afterRelease_congr :
    (afterRelease t).1.reduced = (afterRelease t').1.reduced ∧
      (afterRelease t).2 = (afterRelease t').2 := by
  refine changes_alike afterRelease (fun t => ?_) same
  have states : (t.lchans.map Lchan.reduced).all (·.state == .none) =
      t.lchans.all (·.state == .none) := by
    rw [List.all_map]
    rfl
  cases dynamic : t.pchan == .tchFTchHPdch && t.lchans.all (·.state == .none) <;>
    cases switching : t.pchan == .tchFPdch && t.flags.deactPending <;>
      simp [afterRelease, Timeslot.reduced, states, dynamic, switching]

end Bridge

namespace Carrier

variable {c c' : Carrier}

theorem arfcn_congr (same : c.reduced = c'.reduced) : c.arfcn = c'.arfcn := by
  change c.reduced.arfcn = c'.reduced.arfcn
  rw [same]

theorem slotOf_congr (same : c.reduced = c'.reduced) (n : UInt8) :
    (c.slotOf n).reduced = (c'.slotOf n).reduced := by
  have slots := congrArg (slotOf · n) same
  simpa [slotOf, reduced] using slots

theorem reduced_modifySlot {f h : Timeslot → Timeslot} (same : c.reduced = c'.reduced) (tn : Nat)
    (keep : ∀ t t', t.reduced = t'.reduced → (f t).reduced = (h t').reduced) :
    (c.modifySlot tn f).reduced = (c'.modifySlot tn h).reduced := by
  have slots : c.slots.map Timeslot.reduced = c'.slots.map Timeslot.reduced :=
    congrArg Carrier.slots same
  unfold modifySlot
  split
  · rename_i lt
    have entry : (c.slots[tn]).reduced = (c'.slots[tn]).reduced := by
      rw [← Vector.getElem_map Timeslot.reduced, ← Vector.getElem_map Timeslot.reduced]
      simp only [slots]
    cases c
    cases c'
    simp only [reduced, mk.injEq] at same slots ⊢
    refine ⟨same.1, same.2.1, ?_⟩
    rw [Vector.map_set, Vector.map_set, slots, keep _ _ entry]
  · exact same

end Carrier

/-! ### Base stations -/

/-- Two look-ups find nothing, or the same channel but for the last frame number. -/
def SameFound (p? p'? : Option (LchanId × Lchan)) : Prop :=
  (p? = none ∧ p'? = none) ∨ ∃ id l last, p? = some (id, l) ∧
    p'? = some (id, { l with lastFn := last }) ∧ SameLast l.lastFn last

/-- A condition on the channel apart from its last frame number holds of both or of none. -/
theorem SameFound.filter {p? p'? : Option (LchanId × Lchan)} (same : SameFound p? p'?)
    (q : LchanId × Lchan → Bool)
    (apart : ∀ id l last, q (id, { l with lastFn := last }) = q (id, l)) :
    SameFound (p?.filter q) (p'?.filter q) := by
  obtain ⟨rfl, rfl⟩ | ⟨id, l, last, rfl, rfl, frames⟩ := same
  · exact .inl ⟨rfl, rfl⟩
  · unfold SameFound
    rw [Option.filter_some, Option.filter_some, apart id l last]
    split
    · exact .inr ⟨id, l, last, rfl, rfl, frames⟩
    · exact .inl ⟨rfl, rfl⟩

namespace Bts

/-- The base stations are the same but for last frame numbers, which name the same frames. -/
def Congruent (b b' : Bts) : Prop := b.reduced = b'.reduced

namespace Congruent

variable {b b' : Bts} (same : b.Congruent b')
include same

theorem time : b.time = b'.time := by
  change b.reduced.time = b'.reduced.time
  rw [same]

theorem withTime (t : GsmTime) : { b with time := t }.Congruent { b' with time := t } := by
  change { b.reduced with time := t } = { b'.reduced with time := t }
  rw [same]

theorem withLoad (f : RachLoad → RachLoad) :
    { b with rach := f b.rach }.Congruent { b' with rach := f b'.rach } := by
  change { b.reduced with rach := f b.reduced.rach } = { b'.reduced with rach := f b'.reduced.rach }
  rw [same]

theorem carrier? (trx : UInt8) : (b.carrier? trx = none ∧ b'.carrier? trx = none) ∨
    ∃ c c', b.carrier? trx = some c ∧ b'.carrier? trx = some c' ∧ c.reduced = c'.reduced := by
  have carriers := congrArg (fun b : Bts => b.carriers[trx.toNat]?) same
  unfold reduced at carriers
  rw [List.getElem?_map, List.getElem?_map] at carriers
  exact map_eq_map_cases carriers

theorem slot? (trx tn : UInt8) :
    (b.slot? trx tn).map Timeslot.reduced = (b'.slot? trx tn).map Timeslot.reduced := by
  unfold Bts.slot?
  obtain ⟨left, right⟩ | ⟨c, c', left, right, carriers⟩ := same.carrier? trx
  · rw [left, right]
  · rw [left, right, Option.bind_some, Option.bind_some, ← Vector.getElem?_map,
      ← Vector.getElem?_map]
    exact congrArg (·.slots[tn.toNat]?) carriers

theorem beginSwitch? (trx tn : UInt8) (toPdch : Bool) :
    ((b.slot? trx tn).bind (·.beginSwitch? toPdch)).map Timeslot.reduced =
      ((b'.slot? trx tn).bind (·.beginSwitch? toPdch)).map Timeslot.reduced := by
  obtain ⟨left, right⟩ | ⟨t, t', left, right, slots⟩ := map_eq_map_cases (same.slot? trx tn)
  · rw [left, right]
  · rw [left, right, Option.bind_some, Option.bind_some, ← Timeslot.reduced_beginSwitch?,
      ← Timeslot.reduced_beginSwitch?, slots]

theorem lchan? (id : LchanId) : (b.lchan? id = none ∧ b'.lchan? id = none) ∨
    ∃ l last, b.lchan? id = some l ∧ b'.lchan? id = some { l with lastFn := last } ∧
      SameLast l.lastFn last := by
  have lchans : (b.lchan? id).map Lchan.reduced = (b'.lchan? id).map Lchan.reduced := by
    unfold Bts.lchan?
    obtain ⟨left, right⟩ | ⟨t, t', left, right, slots⟩ :=
      map_eq_map_cases (same.slot? id.trx id.tn)
    · rw [left, right]
    · rw [left, right, Option.bind_some, Option.bind_some, ← List.getElem?_map,
        ← List.getElem?_map]
      exact congrArg (·.lchans[id.ss.toNat]?) slots
  obtain none | ⟨l, l', left, right, reduced⟩ := map_eq_map_cases lchans
  · exact .inl none
  · obtain ⟨last, other⟩ := Lchan.eq_of_reduced reduced
    exact .inr ⟨l, l'.lastFn, left, other ▸ right, last⟩

theorem isSome_lchan? (id : LchanId) : (b.lchan? id).isSome = (b'.lchan? id).isSome := by
  obtain ⟨left, right⟩ | ⟨l, last, left, right, -⟩ := same.lchan? id
  · rw [left, right]
  · rw [left, right]
    rfl

theorem locate? (trx n : UInt8) : b.locate? trx n = b'.locate? trx n := by
  unfold Bts.locate?
  cases ChanAddr.decode n with
  | error e => rfl
  | ok a => simp only [same.isSome_lchan?]

theorem find? (trx n : UInt8) : SameFound (b.find? trx n) (b'.find? trx n) := by
  unfold Bts.find?
  rw [same.locate?]
  cases b'.locate? trx n with
  | none => exact .inl ⟨rfl, rfl⟩
  | some id =>
    rw [Option.bind_some, Option.bind_some]
    obtain ⟨left, right⟩ | ⟨l, last, left, right, frames⟩ := same.lchan? id
    · rw [left, right]
      exact .inl ⟨rfl, rfl⟩
    · rw [left, right]
      exact .inr ⟨id, l, last, rfl, rfl, frames⟩

theorem findActive? (trx n : UInt8) : SameFound (b.findActive? trx n) (b'.findActive? trx n) :=
  (same.find? trx n).filter (·.2.isActive) fun _ _ _ => rfl

theorem modifySlot (trx tn : UInt8) {f h : Timeslot → Timeslot}
    (keep : ∀ t t', t.reduced = t'.reduced → (f t).reduced = (h t').reduced) :
    (b.modifySlot trx tn f).Congruent (b'.modifySlot trx tn h) := by
  have carriers := map_modify_congr trx.toNat (congrArg carriers same) fun c c' reduced =>
    Carrier.reduced_modifySlot reduced tn.toNat keep
  cases b
  cases b'
  simp only [Congruent, reduced, Bts.modifySlot, mk.injEq] at same carriers ⊢
  exact ⟨same.1, same.2.1, same.2.2.1, carriers⟩

theorem modifyLchan (id : LchanId) {f h : Lchan → Lchan}
    (keep : ∀ l l', l.reduced = l'.reduced → (f l).reduced = (h l').reduced) :
    (b.modifyLchan id f).Congruent (b'.modifyLchan id h) :=
  same.modifySlot id.trx id.tn fun _ _ reduced => Timeslot.reduced_modifyLchans reduced keep

end Congruent
end Bts
end BaseStation
