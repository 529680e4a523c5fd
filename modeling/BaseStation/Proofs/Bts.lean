import BaseStation.Bts

/-!
Look-up in the base station and after changes of it: what a channel number finds, and the change
of one logical channel as the replacement of its record.
-/

namespace BaseStation

/-! ### Look-up -/

namespace Bts

variable {b : Bts} {trx n : UInt8} {id : LchanId} {l : Lchan}

theorem locate?_eq_some :
    b.locate? trx n = some id ↔ ∃ a, ChanAddr.decode n = .ok a ∧
      id = ⟨trx, a.tn, a.lchanIndex.toUInt8⟩ ∧ (b.lchan? id).isSome := by
  unfold locate?
  cases hd : ChanAddr.decode n with
  | error e => simp
  | ok a =>
    simp only [Option.ite_none_right_eq_some, Option.some.injEq, Except.ok.injEq,
      exists_eq_left']
    constructor
    · rintro ⟨h, rfl⟩
      exact ⟨rfl, h⟩
    · rintro ⟨rfl, h⟩
      exact ⟨h, rfl⟩

theorem find?_eq_some :
    b.find? trx n = some (id, l) ↔ b.locate? trx n = some id ∧ b.lchan? id = some l := by
  simp only [find?, Option.bind_eq_some_iff, Option.map_eq_some_iff, Prod.mk.injEq]
  constructor
  · rintro ⟨id', hid, l', hl, rfl, rfl⟩
    exact ⟨hid, hl⟩
  · rintro ⟨hid, hl⟩
    exact ⟨id, hid, l, hl, rfl, rfl⟩

theorem findActive?_eq_some :
    b.findActive? trx n = some (id, l) ↔ b.find? trx n = some (id, l) ∧ l.isActive = true := by
  simp [findActive?, Option.filter_eq_some_iff]

theorem find?_eq_none : b.find? trx n = none ↔ b.locate? trx n = none := by
  cases h : b.locate? trx n with
  | none => simp [find?, h]
  | some id =>
    obtain ⟨a, -, -, hl⟩ := locate?_eq_some.mp h
    simpa [find?, h] using Option.isSome_iff_ne_none.mp hl

/-- A channel number names channels of carriers that exist only. -/
theorem carrier?_of_locate? (h : b.locate? trx n = some id) : ∃ c, b.carrier? trx = some c := by
  obtain ⟨a, -, rfl, hl⟩ := locate?_eq_some.mp h
  cases hc : b.carrier? trx with
  | none => simp [lchan?, slot?, hc] at hl
  | some c => exact ⟨c, rfl⟩

theorem not_located_of_carrier (unknown : b.carrier? trx = none) : b.locate? trx n ≠ some id := by
  intro located
  obtain ⟨c, carrier⟩ := carrier?_of_locate? located
  rw [unknown] at carrier
  cases carrier

theorem not_located_of_find? (unknown : b.find? trx n = none) : b.locate? trx n ≠ some id := by
  rw [find?_eq_none.mp unknown]
  simp

theorem not_located_of_other {j : LchanId} (located : b.locate? trx n = some j) (other : j ≠ id) :
    b.locate? trx n ≠ some id :=
  fun here => other (Option.some.inj (located.symm.trans here))

theorem slot?_slotOf {c : Carrier} (h : b.carrier? trx = some c) :
    b.slot? trx (chanTn n) = some (c.slotOf n) := by
  have hlt := chanTn_lt n
  simp [slot?, h, Carrier.slotOf, hlt]

end Bts

namespace Bts

/-- The channels of a base station that was just set up are unused. -/
theorem lchan?_ofConfig {c : Config} {id : LchanId} {l : Lchan}
    (h : (Bts.ofConfig c).lchan? id = some l) : ∃ type, l = .fresh id type := by
  simp only [lchan?, slot?, carrier?, ofConfig, List.getElem?_mapIdx, Option.bind_eq_some_iff,
    Option.map_eq_some_iff] at h
  obtain ⟨t, ⟨k, ⟨cc, -, rfl⟩, ht⟩, hl⟩ := h
  obtain ⟨hlt, rfl⟩ := Vector.getElem?_eq_some_iff.mp ht
  simp only [Carrier.fresh, Vector.getElem_ofFn, Timeslot.fresh, List.getElem?_mapIdx,
    Option.map_eq_some_iff] at hl
  obtain ⟨type, -, rfl⟩ := hl
  exact ⟨type, by simp⟩

end Bts

/-! ### Changes -/

/-- What a change at one place does depends on the entry at that place only. -/
theorem modify_congr {α : Type} {xs : List α} {i : Nat} {f g : α → α}
    (h : ∀ x, xs[i]? = some x → f x = g x) : xs.modify i f = xs.modify i g := by
  apply List.ext_getElem?
  intro j
  simp only [List.getElem?_modify]
  split
  · rename_i hij
    subst hij
    cases hx : xs[i]? with
    | none => rfl
    | some x => exact congrArg some (h x hx)
  · rfl

theorem modify_same {α : Type} (xs : List α) (i : Nat) : xs.modify i (fun x => x) = xs :=
  List.modify_id i xs

namespace Carrier

variable {c : Carrier} {tn : Nat} {f g : Timeslot → Timeslot}

theorem modifySlot_congr (h : ∀ t, c.slots[tn]? = some t → f t = g t) :
    c.modifySlot tn f = c.modifySlot tn g := by
  unfold modifySlot
  split
  · rename_i hlt
    rw [h _ (Vector.getElem?_eq_getElem hlt)]
  · rfl

theorem modifySlot_modifySlot : (c.modifySlot tn f).modifySlot tn g = c.modifySlot tn (g ∘ f) := by
  unfold modifySlot
  split <;> simp

theorem modifySlot_same : c.modifySlot tn (fun t => t) = c := by
  unfold modifySlot
  split <;> simp

theorem arfcn_modifySlot : (c.modifySlot tn f).arfcn = c.arfcn := by
  unfold modifySlot
  split <;> rfl

theorem slotOf_modifySlot (n : UInt8) : (c.modifySlot tn f).slotOf n =
    if tn = (chanTn n).toNat then f (c.slotOf n) else c.slotOf n := by
  have slots := c.slots_modifySlot tn (chanTn n).toNat f
  rw [Vector.getElem?_eq_getElem (chanTn_lt n), Vector.getElem?_eq_getElem (chanTn_lt n)] at slots
  unfold slotOf
  split at slots
  · rename_i same
    rw [if_pos same]
    exact Option.some.inj slots
  · rename_i other
    rw [if_neg other]
    exact Option.some.inj slots

end Carrier

namespace Bts

variable {b : Bts} {trx tn n : UInt8} {id j : LchanId} {l l' : Lchan} {f g : Timeslot → Timeslot}

theorem modifySlot_congr (h : ∀ t, b.slot? trx tn = some t → f t = g t) :
    b.modifySlot trx tn f = b.modifySlot trx tn g := by
  unfold modifySlot
  congr 1
  refine modify_congr fun c hc => Carrier.modifySlot_congr fun t ht => h t ?_
  simpa [slot?, carrier?, hc] using ht

theorem modifySlot_modifySlot :
    (b.modifySlot trx tn f).modifySlot trx tn g = b.modifySlot trx tn (g ∘ f) := by
  unfold modifySlot
  simp only [List.modify_modify_eq]
  congr 2
  funext c
  exact Carrier.modifySlot_modifySlot

theorem modifySlot_same : b.modifySlot trx tn (fun t => t) = b := by
  unfold modifySlot
  simp only [Carrier.modifySlot_same, modify_same]

/-- A change of a channel is the replacement of its record. -/
theorem modifyLchan_eq_setLchan {f : Lchan → Lchan} (h : b.lchan? id = some l) :
    b.modifyLchan id f = b.setLchan id (f l) := by
  refine modifySlot_congr fun t ht => ?_
  have hl : t.lchans[id.ss.toNat]? = some l := by simpa [lchan?, ht] using h
  congr 1
  refine modify_congr fun x hx => ?_
  rw [hl, Option.some.injEq] at hx
  rw [hx]

/-- A channel that does not exist is not changed. -/
theorem modifyLchan_of_none {f : Lchan → Lchan} (h : b.lchan? id = none) :
    b.modifyLchan id f = b := by
  refine (modifySlot_congr fun t ht => ?_).trans (modifySlot_same : b.modifySlot id.trx id.tn _ = b)
  have hl : t.lchans[id.ss.toNat]? = none := by simpa [lchan?, ht] using h
  congr 1
  refine (modify_congr fun x hx => ?_).trans (modify_same t.lchans id.ss.toNat)
  rw [hl] at hx
  cases hx

theorem modifyLchan_same : b.modifyLchan id (fun l => l) = b := by
  unfold modifyLchan
  simp only [modify_same, modifySlot_same]

theorem setLchan_self (h : b.lchan? id = some l) : b.setLchan id l = b := by
  rw [← modifyLchan_eq_setLchan (f := fun l => l) h, modifyLchan_same]

/-- Of two replacements the later one counts. -/
theorem setLchan_setLchan : (b.setLchan id l).setLchan id l' = b.setLchan id l' := by
  unfold setLchan modifyLchan
  rw [modifySlot_modifySlot]
  congr 1
  funext t
  simp only [Function.comp, List.modify_modify_eq]
  rfl

theorem lchan?_setLchan :
    (b.setLchan id l).lchan? j = if id = j then (b.lchan? j).map fun _ => l else b.lchan? j :=
  lchan?_modifyLchan b id j _

theorem lchan?_setLchan_self (h : b.lchan? id = some l) :
    (b.setLchan id l').lchan? id = some l' := by
  rw [lchan?_setLchan, if_pos rfl, h, Option.map_some]

/-- The replacement of a record leaves the addresses as they are. -/
theorem locate?_setLchan : (b.setLchan id l).locate? trx n = b.locate? trx n := by
  have same : ∀ j, ((b.setLchan id l).lchan? j).isSome = (b.lchan? j).isSome := by
    intro j
    rw [lchan?_setLchan]
    split <;> simp
  unfold locate?
  cases ChanAddr.decode n with
  | error e => rfl
  | ok a => simp only [same]

/-- The replacement of a record leaves the timeslots as they are, apart from their channels. -/
theorem slot?_setLchan {t : Timeslot} (h : b.slot? trx tn = some t) :
    ∃ ls, (b.setLchan id l).slot? trx tn = some { t with lchans := ls } := by
  unfold setLchan modifyLchan
  rw [slot?_modifySlot, h]
  split
  · exact ⟨_, rfl⟩
  · exact ⟨t.lchans, rfl⟩

theorem carrier?_setLchan {c : Carrier} (h : b.carrier? trx = some c) :
    ∃ c', (b.setLchan id l).carrier? trx = some c' := by
  unfold setLchan modifyLchan
  rw [carrier?_modifySlot, h]
  split
  · exact ⟨_, rfl⟩
  · exact ⟨c, rfl⟩

/-- A change of a timeslot apart from its channels leaves the channels as they are. -/
theorem lchan?_modifySlot (hf : ∀ t, (f t).lchans = t.lchans) :
    (b.modifySlot trx tn f).lchan? j = b.lchan? j := by
  unfold lchan?
  rw [slot?_modifySlot]
  split
  · cases b.slot? j.trx j.tn <;> simp [hf]
  · rfl

end Bts
end BaseStation
