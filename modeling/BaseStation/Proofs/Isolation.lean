import BaseStation.Proofs.Bridge.Local
import BaseStation.Proofs.Reception

/-!
Channels are isolated from each other. What an input does that names a channel stays with the
channel and its timeslot, and is decided by what the timeslot holds: how the other channels are
used makes no difference.
-/

namespace BaseStation

/-! ### The plan of a base station -/

/-- The number of a timeslot, its configuration and the addresses of its channels. -/
def Timeslot.plan (t : Timeslot) : UInt8 × Pchan × List LchanId :=
  (t.nr, t.pchan, t.lchans.map (·.id))

/-- The number of a carrier, its number in the band and the plans of its timeslots. -/
def Carrier.plan (k : Carrier) :
    UInt8 × UInt16 × Vector (UInt8 × Pchan × List LchanId) numSlots :=
  (k.nr, k.arfcn, k.slots.map Timeslot.plan)

/-- What is fixed when a base station is set up: its carriers, timeslots and channels, with their
numbers and configurations. -/
def Bts.plan (b : Bts) : List (UInt8 × UInt16 × Vector (UInt8 × Pchan × List LchanId) numSlots) :=
  b.carriers.map Carrier.plan

theorem Timeslot.plan_setLchan {t : Timeslot} {ss : UInt8} {l l' : Lchan}
    (known : t.lchans[ss.toNat]? = some l) (own : l'.id = l.id) :
    (t.setLchan ss l').plan = t.plan := by
  have ids : (t.setLchan ss l').lchans.map (·.id) = t.lchans.map (·.id) := by
    apply List.ext_getElem?
    intro i
    rw [List.getElem?_map, List.getElem?_map, lchans_setLchan]
    split
    · rename_i here
      rw [← here, known, Option.map_some, Option.map_some, Option.map_some, own]
    · rfl
  exact congrArg (fun ids => (t.nr, t.pchan, ids)) ids

theorem Carrier.plan_modifySlot {k : Carrier} {tn : Nat} {f : Timeslot → Timeslot}
    (same : ∀ t, k.slots[tn]? = some t → (f t).plan = t.plan) :
    (k.modifySlot tn f).plan = k.plan := by
  unfold modifySlot
  split
  · rename_i range
    have kept : (f k.slots[tn]).plan = k.slots[tn].plan :=
      same _ (Vector.getElem?_eq_getElem range)
    unfold plan
    rw [Vector.map_set, kept, ← Vector.getElem_map Timeslot.plan (by simpa using range),
      Vector.set_getElem_self]
  · rfl

namespace Bts

variable {b b' : Bts} {trx tn : UInt8} {id : LchanId} {l : Lchan}

theorem plan_modifySlot {f : Timeslot → Timeslot}
    (same : ∀ t, b.slot? trx tn = some t → (f t).plan = t.plan) :
    (b.modifySlot trx tn f).plan = b.plan := by
  apply List.ext_getElem?
  intro i
  unfold plan modifySlot
  rw [List.getElem?_map, List.getElem?_map, List.getElem?_modify]
  cases carrier : b.carriers[i]? with
  | none => rfl
  | some k =>
    split
    · rename_i here
      subst here
      refine congrArg some (Carrier.plan_modifySlot fun t ht => same t ?_)
      exact Option.bind_eq_some_iff.mpr ⟨k, carrier, ht⟩
    · rfl

/-- The plan has the addresses of all channels. -/
theorem id_lchan? : (b.lchan? id).map (·.id) = (b.plan[id.trx.toNat]?).bind fun k =>
    (k.2.2[id.tn.toNat]?).bind fun t => t.2.2[id.ss.toNat]? := by
  simp only [lchan?, slot?, carrier?, plan, List.getElem?_map]
  cases b.carriers[id.trx.toNat]? with
  | none => rfl
  | some k =>
    simp only [Option.bind_some, Option.map_some, Carrier.plan, Vector.getElem?_map]
    cases k.slots[id.tn.toNat]? with
    | none => rfl
    | some t =>
      simp only [Option.bind_some, Option.map_some, Timeslot.plan, List.getElem?_map]

/-- Two base stations of one plan look the same from a timeslot that they have in common. -/
theorem sameView_of_plan (plan : b.plan = b'.plan) (slot : b.slot? trx tn = b'.slot? trx tn) :
    SameView trx tn b b' := by
  have carriers : ∀ u : UInt8,
      (b.carrier? u).map Carrier.plan = (b'.carrier? u).map Carrier.plan := by
    intro u
    have here := congrArg (·[u.toNat]?) plan
    simpa only [carrier?, Bts.plan, List.getElem?_map] using here
  refine ⟨fun u => ?_, ?_, slot⟩
  · have same := congrArg Option.isSome (carriers u)
    rwa [Option.isSome_map, Option.isSome_map] at same
  · have same := congrArg (Option.map (·.2.1)) (carriers trx)
    rwa [Option.map_map, Option.map_map] at same

/-- Where a base station was set up as another one, a channel with its own address in the one has
it in the other. -/
theorem own_of_plan (plan : b'.plan = b.plan) (own : ∀ l, b.lchan? id = some l → l.id = id)
    (known : b'.lchan? id = some l) : l.id = id := by
  have same : (b.lchan? id).map (·.id) = some l.id := by
    rw [id_lchan?, ← plan, ← id_lchan?, known, Option.map_some]
  obtain ⟨l', known', address⟩ := Option.map_eq_some_iff.mp same
  rw [← address, own l' known']

end Bts

namespace Bridge

variable {σ φ : Type} {site : Site σ φ} {b b' : Bts} {trx tn ss : UInt8} {id : LchanId}
  {t t' t'' : Timeslot} {l l' : Lchan} {i : Input} {a : Address}

/-! ### What is left alone -/

/-- A timeslot of which only the flags, the mode and the channel at the place `ss` changed. -/
structure Retouched (ss : UInt8) (t t' : Timeslot) : Prop where
  plan : t'.plan = t.plan
  lchans : ∀ i, ss.toNat ≠ i → t'.lchans[i]? = t.lchans[i]?

namespace Retouched

theorem trans (h : Retouched ss t t') (h' : Retouched ss t' t'') : Retouched ss t t'' :=
  ⟨h'.plan.trans h.plan, fun i other => (h'.lchans i other).trans (h.lchans i other)⟩

theorem mode (flags : SlotFlags) (dyn : Pchan) :
    Retouched ss t { t with flags := flags, dynPchan := dyn } := ⟨rfl, fun _ _ => rfl⟩

theorem setLchan (known : t.lchans[ss.toNat]? = some l) (own : l'.id = l.id) :
    Retouched ss t (t.setLchan ss l') :=
  ⟨Timeslot.plan_setLchan known own, fun i other => by
    rw [Timeslot.lchans_setLchan, if_neg other]⟩

theorem afterActivation (type : LchanType) (ok : Bool) :
    Retouched ss t (Bridge.afterActivation t type ok).1 := by
  unfold Bridge.afterActivation
  dsimp only
  split <;> split <;> exact mode _ _

theorem afterRelease : Retouched ss t (Bridge.afterRelease t).1 := by
  unfold Bridge.afterRelease
  dsimp only
  split <;> split <;> exact mode _ _

theorem beginPdchAct (begun : t.beginPdchAct? = some t') : Retouched ss t t' := by
  obtain ⟨-, rfl⟩ := beginPdchAct?_eq_some.mp begun
  exact mode _ _

theorem beginPdchDeact (begun : t.beginPdchDeact? = some t') : Retouched ss t t' := by
  obtain ⟨-, rfl⟩ := beginPdchDeact?_eq_some.mp begun
  exact mode _ _

end Retouched

theorem SlotMove.retouched (move : SlotMove ss t t') : Retouched ss t t' := by
  cases move with
  | record known on => exact .setLchan known on.id
  | asked known asked => exact .setLchan known asked.id
  | @confirmed l known ok =>
    have stored : Retouched ss t
        (t.setLchan ss { l with state := if ok then .active else .none }) := .setLchan known rfl
    exact stored.trans (.afterActivation l.type ok)
  | @released l known =>
    have reset : Retouched ss t (t.setLchan ss l.resetAfterRelease) := .setLchan known rfl
    exact reset.trans .afterRelease
  | @begun t₁ l _ begun known asked =>
    have there : t₁.lchans[ss.toNat]? = some l := by rw [lchans_beginPdchAct begun, known]
    exact (Retouched.beginPdchAct begun).trans (.setLchan there asked.id)
  | givenUp _ known asked => exact .setLchan known asked.id
  | @endBegun t₁ l begun known =>
    have there : t₁.lchans[ss.toNat]? = some l := by rw [lchans_beginPdchDeact begun, known]
    exact (Retouched.beginPdchDeact begun).trans (.setLchan there rfl)

/-- Apart from the counters of access bursts, a base station changed at most the channel `target`,
and the flags and the mode of its timeslot. -/
structure Confined (target : Option LchanId) (b b' : Bts) : Prop where
  bsic : b'.bsic = b.bsic
  time : b'.time = b.time
  plan : b'.plan = b.plan
  carriers : ∀ i, (∀ id, target = some id → id.trx.toNat ≠ i) → b'.carriers[i]? = b.carriers[i]?
  slots : ∀ trx tn, (∀ id, target = some id → ¬ (id.trx = trx ∧ id.tn = tn)) →
    b'.slot? trx tn = b.slot? trx tn
  lchans : ∀ id, target ≠ some id → b'.lchan? id = b.lchan? id

theorem Confined.keep {target : Option LchanId} {load : RachLoad} :
    Confined target b { b with rach := load } :=
  ⟨rfl, rfl, rfl, fun _ _ => rfl, fun _ _ _ => rfl, fun _ _ => rfl⟩

theorem Confined.retouched {load : RachLoad} (slot : b.slot? id.trx id.tn = some t)
    (h : Retouched id.ss t t') :
    Confined (some id) b { b.modifySlot id.trx id.tn (fun _ => t') with rach := load } where
  bsic := rfl
  time := rfl
  plan := by
    refine Bts.plan_modifySlot fun t₀ here => ?_
    rw [slot, Option.some.injEq] at here
    rw [h.plan, here]
  carriers := fun i other => by
    refine (List.getElem?_modify ..).trans ?_
    simp only [if_neg (other id rfl), Option.map_eq_map, Option.map_id']
  slots := fun trx tn other => by
    refine (Bts.slot?_modifySlot ..).trans ?_
    rw [if_neg (other id rfl)]
  lchans := fun j other => by
    refine (congrArg (Option.bind · _) (Bts.slot?_modifySlot ..)).trans ?_
    split
    -- another channel of the timeslot has another place on it
    · rename_i here
      have place : id.ss.toNat ≠ j.ss.toNat := by
        intro same
        obtain ⟨u, m, s⟩ := id
        obtain ⟨u', m', s'⟩ := j
        obtain ⟨rfl, rfl⟩ := here
        obtain rfl : s = s' := UInt8.toNat_inj.mp same
        exact other rfl
      unfold Bts.lchan?
      rw [← here.1, ← here.2, slot, Option.map_some, Option.bind_some, Option.bind_some]
      exact h.lchans _ place
    · rfl

/-- What names a channel stays with the channel. -/
theorem Change.confined (change : Change site b i b') (named : i.address? = some a) :
    Confined (a.resolve b) b b' ∧ (i.isBurst = false → b'.rach = b.rach) := by
  cases change with
  | counted same => exact ⟨.keep, same⟩
  | moved address target slot move same =>
    rw [named, Option.some.injEq] at address
    subst address
    rw [target]
    exact ⟨.retouched slot move.retouched, same⟩
  | time => cases named

theorem Change.plan (change : Change site b i b') : b'.plan = b.plan := by
  cases change with
  | counted => rfl
  | moved _ _ slot move => exact (Confined.retouched slot move.retouched).plan
  | time => rfl

/-! ### Addresses -/

/-- The channel of an address lies on the timeslot of the address. -/
theorem Address.place_of_resolve (target : a.resolve b = some id) :
    id.trx = a.trx ∧ id.tn = a.tn := by
  cases a with
  | number trx n => exact Bts.place_of_locate? target
  | timeslot trx tn =>
    obtain ⟨t, slot, located⟩ := Option.bind_eq_some_iff.mp target
    have place := Bts.place_of_locate? located
    rwa [chanTn_fullRate (tn_lt_of_slot? slot)] at place
  | channel j =>
    obtain ⟨-, same⟩ := Option.ite_none_right_eq_some.mp target
    cases same
    exact ⟨rfl, rfl⟩

theorem Turn.Lawful.plan {t : Turn} (lawful : t.Lawful site) : t.after.plan = t.before.plan := by
  unfold Bts.plan
  obtain same | ⟨id, k, k', slot, move, changed⟩ := lawful.slotMove
  · rw [same]
  · rw [changed]
    have kept : Confined (some id) t.before
        { t.before.modifySlot id.trx id.tn (fun _ => k') with rach := t.before.rach } :=
      .retouched slot move.retouched
    exact kept.plan

/-! ### Runs -/

variable (site) (c : Config) (filter : Capture.Filter) (services : σ) (phy : φ) (ms : List Move)

/-- Every run keeps the plan. -/
theorem plan_run :
    (run site (.fresh c filter services phy) ms).bts.plan = (Bts.ofConfig c).plan :=
  invariant_run (P := fun b => b.plan = (Bts.ofConfig c).plan)
    (fun _ lawful same => lawful.plan.trans same) ms rfl

/-- In every run the channels are where they were set up. -/
theorem own_of_run (known : (run site (.fresh c filter services phy) ms).bts.lchan? id = some l) :
    l.id = id := by
  refine Bts.own_of_plan (plan_run site c filter services phy ms) (fun l fresh => ?_) known
  obtain ⟨type, rfl⟩ := Bts.lchan?_ofConfig fresh
  rfl

/-- What an input that names the channel at `a` does from the state `w`, and what decides it. -/
structure Isolated (site : Site σ φ) (i : Input) (a : Address) (w : World σ φ) : Prop where
  confined : Confined (a.resolve w.bts) w.bts (step site i w).2.bts
  load : i.isBurst = false → (step site i w).2.bts.rach = w.bts.rach
  /-- A state that looks the same from the timeslot has the same result and the same events. -/
  decided : ∀ w', Twin site a.trx a.tn w w' →
    (step site i w).1 = (step site i w').1 ∧ ∃ es, (step site i w).2.trace = w.trace ++ es ∧
      (step site i w').2.trace = w'.trace ++ es

theorem isolated_step (site : Site σ φ) (named : i.address? = some a) (w : World σ φ) :
    Isolated site i a w := by
  obtain ⟨es, -, outcome⟩ := step_outcome site i w
  obtain ⟨confined, load⟩ := outcome.change.confined named
  refine ⟨confined, load, fun w' twin => ?_⟩
  obtain ⟨result, -, events⟩ := perform_local named w w' twin
  exact ⟨result, events⟩

/-- In every reachable state the channel that an input names is found where the input says, and
under its own address. The input stays with this channel and is decided by the timeslot of it; and
no input at all changes the plan. -/
theorem channels_isolated (site : Site σ φ) (c : Config) (filter : Capture.Filter) (services : σ)
    (phy : φ) (ms : List Move) :
    let w := run site (.fresh c filter services phy) ms
    (∀ i, (step site i w).2.bts.plan = w.bts.plan) ∧
      (∀ id l, w.bts.lchan? id = some l → l.id = id) ∧
      (∀ trx n id l, w.bts.find? trx n = some (id, l) → w.bts.lchan? l.id = some l) ∧
      ∀ i a, i.address? = some a → Isolated site i a w ∧
        ∀ id, a.resolve w.bts = some id → id.trx = a.trx ∧ id.tn = a.tn := by
  intro w
  have own : ∀ id l, w.bts.lchan? id = some l → l.id = id :=
    fun _ _ known => own_of_run site c filter services phy ms known
  refine ⟨fun i => ?_, own, fun trx n id l found => ?_, fun i a named => ?_⟩
  · obtain ⟨es, -, outcome⟩ := step_outcome site i w
    exact outcome.change.plan
  · have known := (Bts.find?_eq_some.mp found).2
    rw [own id l known]
    exact known
  · exact ⟨isolated_step site named w, fun id => Address.place_of_resolve⟩

/-- A connection, and a second one on the next timeslot. -/
def crowdingMoves : List Move := [
  .chanAct 0 0x09 none,
  .up 0 (.mphInfoCnf (.activateCnf ⟨0x09, 0⟩)),
  .chanAct 0 0x0a none,
  .up 0 (.mphInfoCnf (.activateCnf ⟨0x0a, 0⟩))]

/-- The cell with both connections. -/
def crowdedWorld : World ScriptedServices ScriptedPhy :=
  run scriptedSite (scriptedWorld .fresh) crowdingMoves

/-- The release of one connection is done as if there were no other, which is left alone. -/
theorem neighbour_left_alone :
    (step scriptedSite (.chanRel 0 0x09) crowdedWorld).2.bts.lchan? ⟨0, 2, 0⟩ =
        crowdedWorld.bts.lchan? ⟨0, 2, 0⟩ ∧
      (step scriptedSite (.chanRel 0 0x09) crowdedWorld).1 =
        (step scriptedSite (.chanRel 0 0x09) trafficWorld).1 := by
  obtain ⟨-, -, -, isolated⟩ :=
    channels_isolated scriptedSite scriptedConfig .empty .fresh .accepting crowdingMoves
  obtain ⟨isolated, -⟩ := isolated (.chanRel 0 0x09) (.number 0 0x09) rfl
  have target : crowdedWorld.bts.locate? 0 0x09 = some ⟨0, 1, 0⟩ := by decide +kernel
  have elsewhere : crowdedWorld.bts.locate? 0 0x09 ≠ some ⟨0, 2, 0⟩ := by rw [target]; decide
  have slot : crowdedWorld.bts.slot? 0 1 = trafficWorld.bts.slot? 0 1 := by decide +kernel
  have services : crowdedWorld.services = trafficWorld.services := by decide +kernel
  have phy : crowdedWorld.phy = trafficWorld.phy := by decide +kernel
  have crowded : crowdedWorld.bts.plan = (Bts.ofConfig scriptedConfig).plan :=
    plan_run scriptedSite scriptedConfig .empty .fresh .accepting _
  have traffic : trafficWorld.bts.plan = (Bts.ofConfig scriptedConfig).plan :=
    plan_run scriptedSite scriptedConfig .empty .fresh .accepting _
  have twin : Twin scriptedSite 0 1 crowdedWorld trafficWorld := by
    refine ⟨Bts.sameView_of_plan (crowded.trans traffic.symm) slot, ?_, ?_⟩
    · rw [services]
      exact .refl _ _
    · rw [phy]
      exact .refl _ _
  exact ⟨isolated.confined.lchans _ elsewhere, (isolated.decided _ twin).1⟩

end Bridge
end BaseStation
