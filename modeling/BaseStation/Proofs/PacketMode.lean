import BaseStation.Proofs.Bridge.Slot

/-!
The modes of the dynamic timeslots. A timeslot is of one of three kinds by its configuration: it is
fixed, or it switches between traffic and packet data on request, or it takes the mode of its
channels. What holds of a timeslot of each kind is kept by all that inputs do to it.
-/

namespace BaseStation.Bridge

/-! ### Kinds of timeslots -/

/-- A timeslot that has one use only. -/
structure FixedSlot (t : Timeslot) : Prop where
  unswitched : t.pchan ≠ .tchFPdch
  modeless : t.pchan ≠ .tchFTchHPdch
  flags : t.flags = .none
  mode : t.dynPchan = .none

/-- A timeslot that switches on request. It has one channel, which is for packet data while packet
mode is in use or under way. -/
structure SwitchedSlot (t : Timeslot) : Prop where
  config : t.pchan = .tchFPdch
  mode : t.dynPchan = .none
  apart : ¬ (t.flags.actPending = true ∧ t.flags.deactPending = true)
  leaving : t.flags.deactPending = true → t.flags.active = true
  channel : ∃ l, t.lchans = [l] ∧ (t.isPdch = true ∨ t.flags.actPending = true → l.type = .pdtch)

/-- A timeslot that takes the mode of its channels. -/
structure DynamicSlot (t : Timeslot) : Prop where
  config : t.pchan = .tchFTchHPdch
  flags : t.flags = .none
  mode : t.dynPchan = .none ∨ t.dynPchan = .pdch ∨ t.dynPchan = .tchF ∨ t.dynPchan = .tchH
  packet : t.dynPchan = .pdch → ∃ l ∈ t.lchans, l.type = .pdtch
  used : ∀ l ∈ t.lchans, l.isActive = true → t.dynPchan ≠ .none

inductive SoundSlot (t : Timeslot) : Prop
  | fixed (h : FixedSlot t)
  | switched (h : SwitchedSlot t)
  | dynamic (h : DynamicSlot t)

theorem soundSlot_fresh (trx nr : UInt8) (p : Pchan) : SoundSlot (.fresh trx nr p) := by
  cases p with
  | tchFPdch =>
    refine .switched ⟨rfl, rfl, by simp [Timeslot.fresh, SlotFlags.none],
      by simp [Timeslot.fresh, SlotFlags.none], _, rfl, ?_⟩
    simp [Timeslot.fresh, Timeslot.isPdch, SlotFlags.none]
  | tchFTchHPdch =>
    refine .dynamic ⟨rfl, rfl, .inl rfl, by simp [Timeslot.fresh], ?_⟩
    intro l hl active
    obtain ⟨i, hi, rfl⟩ := List.mem_mapIdx.mp hl
    simp [Lchan.fresh, Lchan.isActive] at active
  | _ => exact .fixed ⟨by simp [Timeslot.fresh], by simp [Timeslot.fresh], rfl, rfl⟩

variable {σ φ : Type} {site : Site σ φ} {b b' : Bts} {trx tn ss : UInt8} {t t' : Timeslot}
  {l l' : Lchan} {type : LchanType} {ok : Bool}

/-! ### Confirms -/

theorem afterActivation_fixed (h : t.pchan ≠ .tchFPdch) (h' : t.pchan ≠ .tchFTchHPdch) :
    (afterActivation t type ok).1 = t := by
  unfold afterActivation
  simp [h, h']

theorem afterRelease_fixed (h : t.pchan ≠ .tchFPdch) (h' : t.pchan ≠ .tchFTchHPdch) :
    (afterRelease t).1 = t := by
  unfold afterRelease
  simp [h, h']

theorem afterActivation_switched (h : t.pchan = .tchFPdch) :
    (afterActivation t type ok).1 = if t.flags.actPending then
      { t with flags := { t.flags with actPending := false, active := t.flags.active || ok } }
    else t := by
  unfold afterActivation
  cases pending : t.flags.actPending <;> simp [h, pending]

theorem afterRelease_switched (h : t.pchan = .tchFPdch) :
    (afterRelease t).1 = if t.flags.deactPending then
      { t with flags := { t.flags.settle with active := false } }
    else t := by
  unfold afterRelease
  cases pending : t.flags.deactPending <;> simp [h, pending]

theorem afterActivation_dynamic (h : t.pchan = .tchFTchHPdch) :
    (afterActivation t type ok).1 = if ok then { t with dynPchan := dynamicMode type } else t := by
  unfold afterActivation
  cases ok <;> simp [h]

theorem afterRelease_dynamic (h : t.pchan = .tchFTchHPdch) :
    (afterRelease t).1 =
      if t.lchans.all (·.state == .none) then { t with dynPchan := .none } else t := by
  unfold afterRelease
  cases t.lchans.all (·.state == .none) <;> simp [h]

theorem dynamicMode_cases (type : LchanType) : dynamicMode type = .none ∨
    dynamicMode type = .pdch ∨ dynamicMode type = .tchF ∨ dynamicMode type = .tchH := by
  cases type <;> simp [dynamicMode]

theorem dynamicMode_ne_none (type : LchanType) : dynamicMode type ≠ .none := by
  cases type <;> simp [dynamicMode]

/-- Packet mode comes with a channel for packet data. -/
theorem dynamicMode_pdch (packet : dynamicMode type = .pdch) : type = .pdtch := by
  cases type <;> simp_all [dynamicMode]

/-! ### Moves -/

theorem FixedSlot.setLchan (h : FixedSlot t) : FixedSlot (t.setLchan ss l) :=
  ⟨h.unswitched, h.modeless, h.flags, h.mode⟩

theorem FixedSlot.moved (h : FixedSlot t) (move : SlotMove ss t t') : FixedSlot t' := by
  cases move with
  | record => exact h.setLchan
  | asked => exact h.setLchan
  | confirmed =>
    rw [afterActivation_fixed h.setLchan.unswitched h.setLchan.modeless]
    exact h.setLchan
  | released =>
    rw [afterRelease_fixed h.setLchan.unswitched h.setLchan.modeless]
    exact h.setLchan
  | begun begun => exact absurd (beginPdchAct?_eq_some.mp begun).1.1 h.unswitched
  | givenUp => exact h.setLchan
  | endBegun begun => exact absurd (beginPdchDeact?_eq_some.mp begun).1.1 h.unswitched

/-- The one channel of a timeslot is the one that changes. -/
theorem lchans_setLchan_single {k : Lchan} (l' : Lchan) (one : t.lchans = [k])
    (known : t.lchans[ss.toNat]? = some l) : k = l ∧ (t.setLchan ss l').lchans = [l'] := by
  unfold Timeslot.setLchan
  rw [one, List.getElem?_singleton] at known
  obtain ⟨first, same⟩ := Option.ite_none_right_eq_some.mp known
  rw [one, first]
  exact ⟨Option.some.inj same, rfl⟩

theorem SwitchedSlot.setLchan (h : SwitchedSlot t) (known : t.lchans[ss.toNat]? = some l)
    (type : l'.type = l.type ∨ (t.isPdch = true ∨ t.flags.actPending = true → l'.type = .pdtch)) :
    SwitchedSlot (t.setLchan ss l') := by
  obtain ⟨k, one, packet⟩ := h.channel
  obtain ⟨rfl, single⟩ := lchans_setLchan_single l' one known
  refine ⟨h.config, h.mode, h.apart, h.leaving, l', single, fun now => ?_⟩
  rcases type with same | new
  · exact same.trans (packet now)
  · exact new now

/-- Packet mode ends with the flags, or was in use or under way before. -/
theorem SwitchedSlot.withFlags (h : SwitchedSlot t) {f : SlotFlags}
    (apart : ¬ (f.actPending = true ∧ f.deactPending = true))
    (leaving : f.deactPending = true → f.active = true)
    (before : (f.active = true ∧ f.deactPending = false) ∨ f.actPending = true →
      t.isPdch = true ∨ t.flags.actPending = true) : SwitchedSlot { t with flags := f } := by
  obtain ⟨l, one, packet⟩ := h.channel
  refine ⟨h.config, h.mode, apart, leaving, l, one, fun now => packet (before ?_)⟩
  simpa [Timeslot.isPdch, h.config] using now

theorem SwitchedSlot.moved (h : SwitchedSlot t) (move : SlotMove ss t t') : SwitchedSlot t' := by
  cases move with
  | record known on => exact h.setLchan known (.inl on.type)
  | asked known asked => exact h.setLchan known (.inr asked.type)
  | @confirmed l known ok =>
    -- the confirm enters packet mode if a switch into it is under way
    generalize record : ({ l with state := if ok then .active else .none } : Lchan) = l'
    have set : SwitchedSlot (t.setLchan ss l') := h.setLchan known (.inl (by rw [← record]))
    rw [afterActivation_switched set.config]
    split
    · rename_i pending
      exact set.withFlags (by simp) (fun leaving => by simp [set.leaving leaving])
        fun _ => .inr pending
    · exact set
  | @released l known =>
    have set : SwitchedSlot (t.setLchan ss l.resetAfterRelease) := h.setLchan known (.inl rfl)
    rw [afterRelease_switched set.config]
    split
    · exact set.withFlags (by simp [SlotFlags.settle]) (by simp [SlotFlags.settle])
        (by simp [SlotFlags.settle])
    · exact set
  | begun begun known asked =>
    obtain ⟨⟨-, idle⟩, rfl⟩ := beginPdchAct?_eq_some.mp begun
    simp only [SlotFlags.pending, Bool.or_eq_false_iff] at idle
    obtain ⟨k, one, -⟩ := h.channel
    obtain ⟨-, single⟩ := lchans_setLchan_single _ one known
    exact ⟨h.config, h.mode, by simp [Timeslot.setLchan, idle.2],
      by simp [Timeslot.setLchan, idle.2], _, single, fun _ => asked.type (.inr rfl)⟩
  | givenUp begun known asked =>
    obtain ⟨-, rfl⟩ := beginPdchAct?_eq_some.mp begun
    exact h.setLchan known (.inr fun _ => asked.type (.inr rfl))
  -- the timeslot stays in packet mode until the confirm
  | @endBegun _ l begun known =>
    obtain ⟨⟨-, idle, active⟩, rfl⟩ := beginPdchDeact?_eq_some.mp begun
    simp only [SlotFlags.pending, Bool.or_eq_false_iff] at idle
    have set : SwitchedSlot (t.setLchan ss (releasing l)) := h.setLchan known (.inl rfl)
    exact set.withFlags (by simp [idle.1]) (fun _ => active) (by simp [idle.1])

theorem DynamicSlot.setLchan (h : DynamicSlot t) (known : t.lchans[ss.toNat]? = some l)
    (active : l'.isActive = true → l.isActive = true)
    (type : l'.type = l.type ∨ (t.isPdch = true ∨ t.flags.actPending = true → l'.type = .pdtch)) :
    DynamicSlot (t.setLchan ss l') := by
  have new : l' ∈ (t.setLchan ss l').lchans := Timeslot.mem_setLchan_self known
  refine ⟨h.config, h.flags, h.mode, fun packet => ?_, fun k hk up => ?_⟩
  · rcases type with same | data
    · obtain ⟨k, hk, data⟩ := h.packet packet
      rcases Timeslot.mem_setLchan_or known hk with here | rfl
      · exact ⟨k, here, data⟩
      · exact ⟨l', new, same.trans data⟩
    · have packet : t.dynPchan = .pdch := packet
      exact ⟨l', new, data (.inl (by simp [Timeslot.isPdch, h.config, packet]))⟩
  · rcases Timeslot.mem_setLchan hk with rfl | hk
    · exact h.used l (List.mem_of_getElem? known) (active up)
    · exact h.used k hk up

theorem DynamicSlot.moved (h : DynamicSlot t) (move : SlotMove ss t t') : DynamicSlot t' := by
  have switchless : t.pchan ≠ .tchFPdch := by simp [h.config]
  cases move with
  | record known on => exact h.setLchan known on.active (.inl on.type)
  | asked known asked =>
    exact h.setLchan known (fun active => absurd active (by simp [asked.idle])) (.inr asked.type)
  | @confirmed l known ok =>
    rw [afterActivation_dynamic (t := t.setLchan ss _) h.config]
    cases ok with
    | false =>
      exact h.setLchan known (fun active => absurd active Bool.false_ne_true) (.inl rfl)
    | true =>
      refine ⟨h.config, h.flags, ?_, fun packet => ?_, fun k hk up => ?_⟩
      · exact dynamicMode_cases l.type
      · exact ⟨_, Timeslot.mem_setLchan_self known, dynamicMode_pdch packet⟩
      · exact dynamicMode_ne_none l.type
  | @released l known =>
    have set : DynamicSlot (t.setLchan ss l.resetAfterRelease) :=
      h.setLchan known (fun active => absurd active Bool.false_ne_true) (.inl rfl)
    rw [afterRelease_dynamic set.config]
    split
    -- no channel is left in use, so the mode is given up
    · rename_i idle
      refine ⟨set.config, set.flags, .inl rfl, fun packet => Pchan.noConfusion packet,
        fun k hk up => ?_⟩
      have idle : k.state = .none := by simpa using List.all_eq_true.mp idle k hk
      simp [Lchan.isActive, idle] at up
    · exact set
  | begun begun => exact absurd (beginPdchAct?_eq_some.mp begun).1.1 switchless
  | givenUp begun => exact absurd (beginPdchAct?_eq_some.mp begun).1.1 switchless
  | endBegun begun => exact absurd (beginPdchDeact?_eq_some.mp begun).1.1 switchless

theorem SoundSlot.moved (h : SoundSlot t) (move : SlotMove ss t t') : SoundSlot t' := by
  cases h with
  | fixed h => exact .fixed (h.moved move)
  | switched h => exact .switched (h.moved move)
  | dynamic h => exact .dynamic (h.moved move)

/-! ### Runs -/

/-- All timeslots are sound. -/
def SoundBts (b : Bts) : Prop := ∀ k ∈ b.carriers, ∀ t ∈ k.slots, SoundSlot t

theorem SoundBts.slot (h : SoundBts b) (slot : b.slot? trx tn = some t) : SoundSlot t := by
  obtain ⟨k, carrier, slot⟩ := Option.bind_eq_some_iff.mp slot
  exact h k (List.mem_of_getElem? carrier) t (Vector.mem_of_getElem? slot)

theorem SoundBts.modifySlot (h : SoundBts b) {f : Timeslot → Timeslot}
    (new : ∀ t, b.slot? trx tn = some t → SoundSlot (f t)) : SoundBts (b.modifySlot trx tn f) := by
  intro k hk t ht
  obtain ⟨i, hi⟩ := List.mem_iff_getElem?.mp hk
  simp only [Bts.modifySlot, List.getElem?_modify, Option.map_eq_map,
    Option.map_eq_some_iff] at hi
  obtain ⟨k₀, hk₀, rfl⟩ := hi
  split at ht
  · rename_i here
    subst here
    obtain ⟨j, hj⟩ := Vector.mem_iff_getElem?.mp ht
    rw [Carrier.slots_modifySlot] at hj
    split at hj
    · rename_i here
      subst here
      obtain ⟨t₀, ht₀, rfl⟩ := Option.map_eq_some_iff.mp hj
      exact new t₀ (Option.bind_eq_some_iff.mpr ⟨k₀, hk₀, ht₀⟩)
    · exact h k₀ (List.mem_of_getElem? hk₀) t (Vector.mem_of_getElem? hj)
  · exact h k₀ (List.mem_of_getElem? hk₀) t ht

theorem soundBts_ofConfig (c : Config) : SoundBts (.ofConfig c) := by
  intro k hk t ht
  obtain ⟨i, hi, rfl⟩ := List.mem_mapIdx.mp hk
  obtain ⟨j, hj, rfl⟩ := Vector.mem_ofFn.mp ht
  exact soundSlot_fresh _ _ _

theorem Turn.Lawful.sound {t : Turn} (lawful : t.Lawful site) (h : SoundBts t.before) :
    SoundBts t.after := by
  unfold SoundBts at h ⊢
  rcases lawful.slotMove with same | ⟨id, k, k', slot, move, changed⟩
  · rwa [same]
  · have moved := (SoundBts.slot h slot).moved move
    rw [changed]
    exact SoundBts.modifySlot h fun _ _ => moved

/-- What can be relied on for the mode of a timeslot. -/
structure ConsistentSlot (t : Timeslot) : Prop where
  /-- One switch at a time is under way. -/
  apart : ¬ (t.flags.actPending = true ∧ t.flags.deactPending = true)
  leaving : t.flags.deactPending = true → t.flags.active = true
  flagless : t.pchan ≠ .tchFPdch →
    t.flags.active = false ∧ t.flags.actPending = false ∧ t.flags.deactPending = false
  modeless : t.pchan ≠ .tchFTchHPdch → t.dynPchan = .none
  mode : t.dynPchan = .none ∨ t.dynPchan = .pdch ∨ t.dynPchan = .tchF ∨ t.dynPchan = .tchH
  switched : t.pchan = .tchFPdch → t.isPdch = true → ∃ l, t.lchans = [l] ∧ l.type = .pdtch
  dynamic : t.pchan = .tchFTchHPdch → t.isPdch = true → ∃ l ∈ t.lchans, l.type = .pdtch
  used : t.pchan = .tchFTchHPdch → ∀ l ∈ t.lchans, l.isActive = true → t.dynPchan ≠ .none

theorem SoundSlot.consistent (h : SoundSlot t) : ConsistentSlot t := by
  cases h with
  | fixed h =>
    exact ⟨by simp [h.flags, SlotFlags.none], by simp [h.flags, SlotFlags.none],
      fun _ => by simp [h.flags, SlotFlags.none], fun _ => h.mode, .inl h.mode,
      fun config => absurd config h.unswitched, fun config => absurd config h.modeless,
      fun config => absurd config h.modeless⟩
  | switched h =>
    have modeless : t.pchan ≠ .tchFTchHPdch := by simp [h.config]
    obtain ⟨l, one, packet⟩ := h.channel
    exact ⟨h.apart, h.leaving, fun other => absurd h.config other, fun _ => h.mode, .inl h.mode,
      fun _ now => ⟨l, one, packet (.inl now)⟩, fun config => absurd config modeless,
      fun config => absurd config modeless⟩
  | dynamic h =>
    have unswitched : t.pchan ≠ .tchFPdch := by simp [h.config]
    exact ⟨by simp [h.flags, SlotFlags.none], by simp [h.flags, SlotFlags.none],
      fun _ => by simp [h.flags, SlotFlags.none], fun other => absurd h.config other, h.mode,
      fun config => absurd config unswitched,
      fun _ packet => h.packet (by simpa [Timeslot.isPdch, h.config] using packet),
      fun _ => h.used⟩

/-- In every run the modes of the timeslots are consistent, whatever the radio confirms and
refuses, and in whatever order. -/
theorem slot_modes_consistent (site : Site σ φ) (c : Config) (filter : Capture.Filter)
    (services : σ) (phy : φ) (ms : List Move) :
    ∀ k ∈ (run site (.fresh c filter services phy) ms).bts.carriers, ∀ t ∈ k.slots,
      ConsistentSlot t := by
  have sound : SoundBts (run site (.fresh c filter services phy) ms).bts :=
    invariant_run (fun _ lawful h => lawful.sound h) ms (soundBts_ofConfig c)
  exact fun k hk t ht => (sound k hk t ht).consistent

/-- The cell with a timeslot that switches. -/
def switchableConfig : Config :=
  { scriptedConfig with
    carriers := [{ CarrierConfig.default with
      slots := CarrierConfig.default.slots.set 1 .tchFPdch }] }

example : switchableConfig.validate = .ok () := rfl

/-- The timeslot is switched into packet mode, and then its channel is asked for as that of a
traffic channel. -/
def switchingMoves : List Move := [
  .input (.pdchSwitch 0 1 true) rfl,
  .up 0 (.mphInfoCnf (.activateCnf ⟨0x09, 0⟩)),
  .chanAct 0 0x09 none]

/-- The base station of the cell after the switch. -/
def switchedWorld : World ScriptedServices ScriptedPhy :=
  run scriptedSite (.fresh switchableConfig .empty .fresh .accepting) switchingMoves

/-- In packet mode an activation of the channel leaves it a channel for packet data. -/
theorem switched_slot_packet : ∃ t, switchedWorld.bts.slot? 0 1 = some t ∧ t.isPdch = true ∧
    ∃ l, t.lchans = [l] ∧ l.type = .pdtch := by
  have here : (switchedWorld.bts.slot? 0 1).map (fun t => (t.pchan, t.isPdch)) =
      some (.tchFPdch, true) := by decide +kernel
  obtain ⟨t, slot, use⟩ := Option.map_eq_some_iff.mp here
  rw [Prod.mk.injEq] at use
  obtain ⟨k, carrier, place⟩ := Option.bind_eq_some_iff.mp slot
  exact ⟨t, slot, use.2, (slot_modes_consistent scriptedSite switchableConfig .empty .fresh
    .accepting switchingMoves k (List.mem_of_getElem? carrier) t
    (Vector.mem_of_getElem? place)).switched use.1 use.2⟩

end BaseStation.Bridge
