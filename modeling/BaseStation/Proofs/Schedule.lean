import BaseStation.Proofs.Completion
import BaseStation.Proofs.SameFrame
import Mathlib.Order.Interval.Finset.Nat

/-!
The schedule of the radio within the program, beside the base station of the same configuration.
What the radio asks about in a frame are channels that the base station has, each once; and over a
multiframe each channel has the turns that its kind is due, wherever the multiframe is taken to
begin.
-/

namespace BaseStation

/-! ### Opportunities -/

inductive OpportunityKind where
  | block
  | voice
deriving DecidableEq

/-- A transmit opportunity: the channel number and, for a block, the link. -/
structure Opportunity where
  kind : OpportunityKind
  chanNr : UInt8
  linkId : UInt8
deriving DecidableEq

def Prim.opportunity? : Prim → Option Opportunity
  | .phRtsInd r => some ⟨.block, r.chanNr, r.linkId⟩
  | .tchRtsInd r => some ⟨.voice, r.chanNr, 0⟩
  | _ => none

/-- An opportunity is that of a channel, whichever the frame. -/
theorem Prim.opportunity?_atFrame (p : Prim) (f : UInt32) :
    (p.atFrame f).opportunity? = p.opportunity? := by
  cases p <;> rfl

/-- `n` frames in a row from frame `s` on, with frame 0 after the last one of the hyperframe. -/
def window (s n : Nat) : List UInt32 :=
  (List.range n).map fun i => ((s + i) % hyperframe).toUInt32

namespace Pchan

/-- The frames after which the schedule of a timeslot starts again. -/
def period : Pchan → Nat
  | ccch | ccchSdcch4 | sdcch8 => controlMultiframe
  | tchF | tchH | tchFPdch | tchFTchHPdch => trafficMultiframe
  | pdch => 4
  | none => 1

/-- The opportunities that a timeslot is due in one period. -/
def due (tn : UInt8) : Pchan → List Opportunity
  | none => []
  | ccch => common
  | ccchSdcch4 => common ++ subslots .sdcch4 4
  | sdcch8 => subslots .sdcch8 8
  | tchF | tchFPdch | tchFTchHPdch =>
    traffic 6 .tchF 0 ++ [⟨.block, VirtualPhy.number .tchF 0 tn, sacchLink⟩]
  | tchH => traffic 3 .tchH 0 ++ traffic 3 .tchH 1
  | pdch => [⟨.block, VirtualPhy.number .pdch 0 tn, 0⟩]
where
  common : List Opportunity := ⟨.block, VirtualPhy.number .bcch 0 tn, 0⟩ ::
    List.replicate 9 ⟨.block, VirtualPhy.number .pchAgch 0 tn, 0⟩
  subslots (kind : ChanKind) (n : Nat) : List Opportunity :=
    (List.range n).map fun ss => ⟨.block, VirtualPhy.number kind ss.toUInt8 tn, 0⟩
  traffic (n : Nat) (kind : ChanKind) (ss : UInt8) : List Opportunity :=
    List.replicate n ⟨.block, VirtualPhy.number kind ss tn, 0⟩ ++
      List.replicate n ⟨.voice, VirtualPhy.number kind ss tn, 0⟩

end Pchan

open Bridge

namespace VirtualPhy

variable {c : Config} {p : Pchan} {trx tn : UInt8} {fn fn' : UInt32} {o : Opportunity}

/-- The opportunities of a frame, with their carriers. -/
def opportunities (v : VirtualPhy) (fn : UInt32) : List (UInt8 × Opportunity) :=
  (v.frameIndications fn).filterMap fun q => q.2.opportunity?.map fun o => (q.1, o)

/-- The opportunities of a frame whose carrier and channel number name a timeslot. -/
def slotOpportunities (v : VirtualPhy) (trx tn : UInt8) (fn : UInt32) : List Opportunity :=
  (v.opportunities fn).filterMap fun q =>
    if q.1 = trx ∧ chanTn q.2.chanNr = tn then some q.2 else none

/-- The opportunities that are sent up for a timeslot in a frame. -/
def scheduled (p : Pchan) (tn : UInt8) (fn : UInt32) : List Opportunity :=
  (slotSchedule p tn fn).filterMap Prim.opportunity?

/-! ### Periods -/

/-- A frame starts a common control block by its place in the multiframe alone. -/
theorem startsCcchBlock_eq :
    startsCcchBlock fn = decide (fn.toNat % controlMultiframe ∈ ccchBlockStarts) := by
  have every : ∀ r : Fin controlMultiframe,
      ((ccchBlock? r).isSome && ccchBlock? (r + 50) != ccchBlock? r) =
        decide (r.val ∈ ccchBlockStarts) := by
    decide +kernel
  have residue : ∀ n, ccchBlock? (n % controlMultiframe) = ccchBlock? n := by
    intro n
    unfold ccchBlock?
    rw [Nat.mod_mod]
  have here := every ⟨fn.toNat % controlMultiframe, Nat.mod_lt _ (by decide)⟩
  dsimp only at here
  rw [← here, residue]
  unfold startsCcchBlock
  by_cases zero : fn.toNat = 0
  · rw [zero]
    rfl
  · have before : (fn.toNat % controlMultiframe + 50) % controlMultiframe =
        (fn - 1).toNat % controlMultiframe := by
      have unit : (1 : UInt32).toNat = 1 := rfl
      have one : (1 : UInt32) ≤ fn := by
        rw [UInt32.le_iff_toNat_le, unit]
        omega
      rw [UInt32.toNat_sub_of_le _ _ one, unit]
      unfold controlMultiframe
      omega
    rw [← residue (fn - 1).toNat, ← before, residue]

theorem pollCommon_atFrame (same : fn.toNat % controlMultiframe = fn'.toNat % controlMultiframe) :
    pollCommon tn fn' = (pollCommon tn fn).map (Prim.atFrame fn') := by
  unfold pollCommon
  rw [startsCcchBlock_eq, startsCcchBlock_eq, same]
  split
  · rfl
  · split <;> rfl

theorem pollSubslots_atFrame {kind : ChanKind} {n : Nat} :
    pollSubslots kind n tn fn' = (pollSubslots kind n tn fn).map (Prim.atFrame fn') := by
  unfold pollSubslots
  rw [List.map_map]
  rfl

/-- The schedule of a timeslot starts again with each period, but for the number of the frame. -/
theorem slotSchedule_atFrame (same : fn.toNat % p.period = fn'.toNat % p.period) :
    slotSchedule p tn fn' = (slotSchedule p tn fn).map (Prim.atFrame fn') := by
  unfold slotSchedule
  unfold Pchan.period at same
  cases p with
  | none => rfl
  | ccch => exact pollCommon_atFrame same
  | ccchSdcch4 =>
    dsimp only at same ⊢
    rw [List.map_append, pollCommon_atFrame same, same]
    split
    · rw [pollSubslots_atFrame]
    · rfl
  | sdcch8 =>
    dsimp only at same ⊢
    rw [same]
    split
    · exact pollSubslots_atFrame
    · rfl
  | tchF | tchFPdch | tchFTchHPdch =>
    dsimp only at same ⊢
    rw [same]
    split
    · rfl
    · split <;> rfl
  | tchH =>
    dsimp only at same ⊢
    rw [same]
    split <;> rfl
  | pdch =>
    dsimp only at same ⊢
    rw [same]
    split <;> rfl

theorem scheduled_congr (same : fn.toNat % p.period = fn'.toNat % p.period) :
    scheduled p tn fn = scheduled p tn fn' := by
  unfold scheduled
  rw [slotSchedule_atFrame same, List.filterMap_map]
  exact congrArg (List.filterMap · _) (funext fun q => (q.opportunity?_atFrame fn').symm)

/-- The periods divide the hyperframe. -/
theorem period_dvd (p : Pchan) : p.period ∣ hyperframe := by cases p <;> decide

theorem period_pos (p : Pchan) : 0 < p.period := by cases p <;> decide

/-- A frame has the opportunities of its place in the period. -/
theorem scheduled_mod : scheduled p tn fn = scheduled p tn (fn.toNat % p.period).toUInt32 := by
  have small : fn.toNat % p.period < hyperframe :=
    Nat.lt_of_lt_of_le (Nat.mod_lt _ (period_pos p)) (Nat.le_of_dvd (by decide) (period_dvd p))
  apply scheduled_congr
  rw [toNat_toUInt32 small, Nat.mod_mod]

/-- What is sent up for a timeslot names it, and no opportunity comes twice in a frame. -/
theorem scheduled_frame (fn : UInt32) (range : tn.toNat < numSlots) :
    (scheduled p tn fn).Nodup ∧ ∀ o ∈ scheduled p tn fn, chanTn o.chanNr = tn := by
  have every : ∀ tn : Fin 256, tn.val < numSlots → ∀ r < p.period,
      (scheduled p (.ofFin tn) r.toUInt32).Nodup ∧
        ∀ o ∈ scheduled p (.ofFin tn) r.toUInt32, chanTn o.chanNr = .ofFin tn := by
    cases p <;> decide +kernel
  rw [scheduled_mod]
  exact every tn.toFin range _ (Nat.mod_lt _ (period_pos p))

/-- In one period a timeslot gets what it is due. -/
theorem scheduled_period (range : tn.toNat < numSlots) :
    ((List.range p.period).flatMap fun r => scheduled p tn r.toUInt32).Perm (p.due tn) := by
  have every : ∀ tn : Fin 256, tn.val < numSlots →
      ((List.range p.period).flatMap fun r => scheduled p (.ofFin tn) r.toUInt32).Perm
        (p.due (.ofFin tn)) := by
    cases p <;> decide +kernel
  exact every tn.toFin range

/-- What is sent up for a timeslot names a channel that the timeslot has. -/
theorem polled_of_mem_scheduled (mem : o ∈ scheduled p tn fn) :
    ∃ kind ss, (kind, ss) ∈ p.polled ∧ o.chanNr = number kind ss tn := by
  obtain ⟨q, inside, read⟩ := List.mem_filterMap.mp mem
  obtain ⟨kind, ss, polled, asks⟩ := mem_slotSchedule inside
  refine ⟨kind, ss, polled, ?_⟩
  cases asks <;> cases read <;> rfl

/-! ### Frames -/

/-- Where one place only adds to a list, it adds the whole of it. -/
theorem flatten_mapIdx_single {α β : Type} {xs : List α} {f : Nat → α → List β} {j : Nat} {x : α}
    (here : xs[j]? = some x) (others : ∀ i y, xs[i]? = some y → i ≠ j → f i y = []) :
    (xs.mapIdx f).flatten = f j x := by
  induction xs generalizing f j with
  | nil => cases here
  | cons y ys ih =>
    rw [List.mapIdx_cons, List.flatten_cons]
    cases j with
    | zero =>
      have same : y = x := Option.some.inj here
      have rest : (ys.mapIdx fun i => f (i + 1)).flatten = [] := by
        rw [List.flatten_eq_nil_iff]
        intro l mem
        obtain ⟨i, range, rfl⟩ := List.mem_mapIdx.mp mem
        exact others (i + 1) _ (List.getElem?_eq_getElem range) (Nat.succ_ne_zero i)
      rw [rest, same, List.append_nil]
    | succ j =>
      have first : f 0 y = [] := others 0 y rfl (Nat.succ_ne_zero j).symm
      rw [first, List.nil_append]
      exact ih here fun i z there other =>
        others (i + 1) z there fun same => other (Nat.succ.inj same)

theorem filterMap_flatten_mapIdx {α β γ : Type} {xs : List α} {f : Nat → α → List β}
    {g : β → Option γ} :
    (xs.mapIdx f).flatten.filterMap g = (xs.mapIdx fun i x => (f i x).filterMap g).flatten := by
  have inside : (xs.mapIdx f).map (List.filterMap g) =
      xs.mapIdx fun i x => (f i x).filterMap g := by
    apply List.ext_getElem?
    intro i
    rw [List.getElem?_map, List.getElem?_mapIdx, List.getElem?_mapIdx, Option.map_map]
    rfl
  rw [List.filterMap_flatten, inside]

theorem mapIdx_map {α β γ : Type} {xs : List α} {f : Nat → β → γ} {g : α → β} :
    (xs.map g).mapIdx f = xs.mapIdx fun i x => f i (g x) := by
  apply List.ext_getElem?
  intro i
  rw [List.getElem?_mapIdx, List.getElem?_mapIdx, List.getElem?_map, Option.map_map]
  rfl

theorem toNat_toUInt8 {n : Nat} (small : n < 256) : n.toUInt8.toNat = n := by
  rw [Nat.toUInt8_eq, UInt8.toNat_ofNat', Nat.mod_eq_of_lt (by omega)]

/-- The opportunities of a frame by carriers and timeslots. -/
theorem opportunities_eq : (ofConfig c).opportunities fn =
    (c.carriers.mapIdx fun i k => (k.slots.toList.mapIdx fun m p =>
      (scheduled p m.toUInt8 fn).map fun o => (i.toUInt8, o)).flatten).flatten := by
  have carrier : ∀ i (slots : Vector Pchan numSlots),
      (carrierSchedule i slots fn).filterMap (fun q => q.2.opportunity?.map fun o => (q.1, o)) =
        (slots.toList.mapIdx fun m p =>
          (scheduled p m.toUInt8 fn).map fun o => (i, o)).flatten := by
    intro i slots
    unfold carrierSchedule
    rw [List.filterMap_map, filterMap_flatten_mapIdx]
    congr 2
    funext m p
    unfold scheduled
    rw [List.map_filterMap]
    rfl
  have time : Prim.opportunity? (.mphInfoInd (.time fn)) = none := rfl
  unfold opportunities frameIndications ofConfig
  rw [List.filterMap_cons_none (by rw [time]; rfl), filterMap_flatten_mapIdx, mapIdx_map]
  simp only [carrier]

/-- The numbers of the carriers and timeslots of a configuration. -/
theorem pchan?_of_getElem? {i m : Nat} {k : CarrierConfig} (few : c.carriers.length ≤ 256)
    (carrier : c.carriers[i]? = some k) (slot : k.slots.toList[m]? = some p) :
    i.toUInt8.toNat = i ∧ m.toUInt8.toNat = m ∧ m < numSlots ∧
      c.pchan? i.toUInt8 m.toUInt8 = some p := by
  obtain ⟨carriers, -⟩ := List.getElem?_eq_some_iff.mp carrier
  obtain ⟨slots, -⟩ := List.getElem?_eq_some_iff.mp slot
  rw [Vector.length_toList] at slots
  have trx : i.toUInt8.toNat = i := toNat_toUInt8 (Nat.lt_of_lt_of_le carriers few)
  have tn : m.toUInt8.toNat = m := toNat_toUInt8 (Nat.lt_trans slots (by decide))
  refine ⟨trx, tn, slots, ?_⟩
  unfold Config.pchan?
  rw [trx, carrier, Option.bind_some, tn, ← slot, Vector.getElem?_toList]

theorem mem_opportunities (few : c.carriers.length ≤ 256)
    (mem : (trx, o) ∈ (ofConfig c).opportunities fn) :
    ∃ p tn, tn.toNat < numSlots ∧ c.pchan? trx tn = some p ∧ o ∈ scheduled p tn fn := by
  rw [opportunities_eq] at mem
  obtain ⟨os, here, mem⟩ := List.mem_flatten.mp mem
  obtain ⟨i, carriers, rfl⟩ := List.mem_mapIdx.mp here
  obtain ⟨os, here, mem⟩ := List.mem_flatten.mp mem
  obtain ⟨m, slots, rfl⟩ := List.mem_mapIdx.mp here
  obtain ⟨o', mem, same⟩ := List.mem_map.mp mem
  cases same
  obtain ⟨-, tn, range, slot⟩ := pchan?_of_getElem? few (List.getElem?_eq_getElem carriers)
    (List.getElem?_eq_getElem slots)
  exact ⟨_, m.toUInt8, tn.symm ▸ range, slot, mem⟩

/-- What is sent up for a timeslot of a carrier names this timeslot and no other. -/
theorem filterMap_named {i m : Nat} {k : CarrierConfig} (few : c.carriers.length ≤ 256)
    (carrier : c.carriers[i]? = some k) (slot : k.slots.toList[m]? = some p) :
    ((scheduled p m.toUInt8 fn).map fun o => (i.toUInt8, o)).filterMap (fun q =>
        if q.1 = trx ∧ chanTn q.2.chanNr = tn then some q.2 else none) =
      if i = trx.toNat ∧ m = tn.toNat then scheduled p m.toUInt8 fn else [] := by
  obtain ⟨number, place, range, -⟩ := pchan?_of_getElem? few carrier slot
  have names := (scheduled_frame (p := p) fn (place.symm ▸ range)).2
  have here : (i.toUInt8 = trx ∧ m.toUInt8 = tn) ↔ i = trx.toNat ∧ m = tn.toNat := by
    rw [← UInt8.toNat_inj, ← UInt8.toNat_inj, number, place]
  rw [List.filterMap_map]
  split
  · rename_i both
    obtain ⟨same, named⟩ := here.mpr both
    have kept : ∀ o ∈ scheduled p m.toUInt8 fn,
        (if i.toUInt8 = trx ∧ chanTn o.chanNr = tn then some o else none) = some o :=
      fun o mem => if_pos ⟨same, (names o mem).trans named⟩
    exact (List.filterMap_congr kept).trans List.filterMap_some
  · rename_i other
    rw [List.filterMap_eq_nil_iff]
    intro o mem
    refine if_neg fun both => other (here.mp ?_)
    rwa [names o mem] at both

/-- The opportunities that name a timeslot are those that are sent up for it. -/
theorem slotOpportunities_eq (few : c.carriers.length ≤ 256) (slot : c.pchan? trx tn = some p) :
    (ofConfig c).slotOpportunities trx tn fn = scheduled p tn fn := by
  obtain ⟨k, carrier, slot⟩ := Option.bind_eq_some_iff.mp slot
  rw [← Vector.getElem?_toList] at slot
  have trx' : trx.toNat.toUInt8 = trx := by simp
  have tn' : tn.toNat.toUInt8 = tn := by simp
  unfold slotOpportunities
  rw [opportunities_eq, filterMap_flatten_mapIdx, flatten_mapIdx_single carrier]
  · rw [filterMap_flatten_mapIdx, flatten_mapIdx_single slot]
    · rw [filterMap_named few carrier slot, if_pos ⟨rfl, rfl⟩, tn']
    · intro m p' slot' other
      rw [filterMap_named few carrier slot', if_neg fun both => other both.2]
  · intro i k' carrier' other
    rw [filterMap_flatten_mapIdx, List.flatten_eq_nil_iff]
    intro os mem
    obtain ⟨m, range, rfl⟩ := List.mem_mapIdx.mp mem
    rw [filterMap_named few carrier' (List.getElem?_eq_getElem range),
      if_neg fun both => other both.1]

theorem nodup_opportunities (few : c.carriers.length ≤ 256) :
    ((ofConfig c).opportunities fn).Nodup := by
  rw [List.nodup_iff_count_le_one]
  rintro ⟨trx, o⟩
  by_cases mem : (trx, o) ∈ (ofConfig c).opportunities fn
  · obtain ⟨p, tn, range, slot, inside⟩ := mem_opportunities few mem
    obtain ⟨nodup, names⟩ := scheduled_frame (p := p) fn range
    -- on its timeslot the opportunity is counted as often
    have counted : ((ofConfig c).opportunities fn).count (trx, o) ≤
        ((ofConfig c).slotOpportunities trx tn fn).count o := by
      unfold slotOpportunities List.count
      rw [List.countP_filterMap]
      refine List.countP_mono_left fun q _ same => ?_
      rw [beq_iff_eq] at same
      subst same
      simp [names o inside]
    rw [slotOpportunities_eq few slot] at counted
    exact counted.trans (List.nodup_iff_count_le_one.mp nodup o)
  · rw [List.count_eq_zero_of_not_mem mem]
    exact Nat.zero_le 1

/-! ### Windows -/

/-- As many numbers in a row as the modulus have each residue once. -/
theorem map_mod_perm (s n : Nat) :
    ((List.range n).map fun i => (s + i) % n).Perm (List.range n) := by
  have residues := Nat.multiset_Ico_map_mod s n
  have listed : Multiset.Ico s (s + n) = ↑((List.range n).map (s + ·)) := by
    have interval : Multiset.Ico s (s + n) = ↑(List.range' s (s + n - s)) := rfl
    rw [interval, Nat.add_sub_cancel_left, List.range'_eq_map_range]
  rw [listed, Multiset.map_coe, List.map_map, ← Multiset.coe_range] at residues
  exact Multiset.coe_eq_coe.mp residues

/-- What depends on the place of a frame in a period alone is the same over every window of one
period, but for the order. -/
theorem window_perm {α : Type} {f : UInt32 → List α} {n : Nat} (divides : n ∣ hyperframe)
    (periodic : ∀ fn, f fn = f (fn.toNat % n).toUInt32) (s : Nat) :
    ((window s n).flatMap f).Perm ((List.range n).flatMap fun r => f r.toUInt32) := by
  have residues : (window s n).flatMap f =
      ((List.range n).map fun i => (s + i) % n).flatMap fun r => f r.toUInt32 := by
    unfold window
    rw [List.flatMap_map, List.flatMap_map]
    refine List.flatMap_congr fun i _ => ?_
    rw [periodic, toNat_toUInt32 (Nat.mod_lt _ (by decide)), Nat.mod_mod_of_dvd _ divides]
  rw [residues]
  exact (map_mod_perm s n).flatMap_right _

/-- The common control blocks in which a frame has opportunities for paging and access grants. -/
def commonBlocks (v : VirtualPhy) (trx tn : UInt8) (fn : UInt32) : List (Option Nat) :=
  ((v.slotOpportunities trx tn fn).filter (· == ⟨.block, number .pchAgch 0 tn, 0⟩)).map
    fun _ => ccchBlock? fn.toNat

section Windows

variable (few : c.carriers.length ≤ 256) (slot : c.pchan? trx tn = some p)
include few slot

/-- Over a window of one period a timeslot gets what it is due. -/
theorem window_due (s : Nat) :
    ((window s p.period).flatMap ((ofConfig c).slotOpportunities trx tn)).Perm (p.due tn) := by
  obtain ⟨k, -, here⟩ := Option.bind_eq_some_iff.mp slot
  have same : (ofConfig c).slotOpportunities trx tn = scheduled p tn :=
    funext fun fn => slotOpportunities_eq few slot
  rw [same]
  exact (window_perm (period_dvd p) (fun fn => scheduled_mod) s).trans
    (scheduled_period (Vector.getElem?_eq_some_iff.mp here).1)

/-- Over a control multiframe each common control block has one opportunity for paging and access
grants. -/
theorem window_commonBlocks (control : p.hasCcch = true) (s : Nat) :
    ((window s controlMultiframe).flatMap ((ofConfig c).commonBlocks trx tn)).Perm
      ((List.range 9).map some) := by
  obtain ⟨k, -, here⟩ := Option.bind_eq_some_iff.mp slot
  have range : tn.toNat < numSlots := (Vector.getElem?_eq_some_iff.mp here).1
  have period : p.period = controlMultiframe := by
    cases p with
    | ccch | ccchSdcch4 => rfl
    | _ => cases control
  let blocks (tn : UInt8) (fn : UInt32) : List (Option Nat) :=
    ((scheduled p tn fn).filter (· == ⟨.block, number .pchAgch 0 tn, 0⟩)).map
      fun _ => ccchBlock? fn.toNat
  have same : (ofConfig c).commonBlocks trx tn = blocks tn := by
    funext fn
    unfold commonBlocks
    rw [slotOpportunities_eq few slot]
  -- the schedule starts again with each multiframe, and so does the number of the block
  have periodic : ∀ fn, blocks tn fn = blocks tn (fn.toNat % controlMultiframe).toUInt32 := by
    intro fn
    have residue : ccchBlock? (fn.toNat % controlMultiframe) = ccchBlock? fn.toNat := by
      unfold ccchBlock?
      rw [Nat.mod_mod]
    dsimp only [blocks]
    rw [scheduled_mod, period, toNat_toUInt32 (Nat.lt_of_lt_of_le (Nat.mod_lt _ (by decide))
      (by decide)), residue]
  have every : ∀ tn : Fin 256, tn.val < numSlots →
      ((List.range controlMultiframe).flatMap fun r => blocks (.ofFin tn) r.toUInt32).Perm
        ((List.range 9).map some) := by
    cases p with
    | ccch | ccchSdcch4 => decide +kernel
    | _ => cases control
  rw [same]
  exact (window_perm (by decide) periodic s).trans (every tn.toFin range)

end Windows

/-- What the radio sends up for a timeslot names a channel of the base station. -/
theorem located_of_mem_opportunities (few : c.carriers.length ≤ 256)
    (mem : (trx, o) ∈ (ofConfig c).opportunities fn) :
    ∃ a p, ChanAddr.decode o.chanNr = .ok a ∧ c.pchan? trx a.tn = some p ∧
      o ∈ scheduled p a.tn fn ∧ ((Bts.ofConfig c).find? trx o.chanNr).isSome = true := by
  obtain ⟨p, tn, range, slot, inside⟩ := mem_opportunities few mem
  obtain ⟨kind, ss, polled, number⟩ := polled_of_mem_scheduled inside
  obtain ⟨i, place, -⟩ := p.place?_polled polled range
  have located := isSome_locate?_polled (b := .ofConfig c) rfl slot polled
  unfold place? at place
  split at place
  · rename_i a decoded
    cases place
    refine ⟨a, p, by rw [number, decoded], slot, inside, ?_⟩
    rw [number, Option.isSome_iff_ne_none, ne_eq, Bts.find?_eq_none]
    exact Option.isSome_iff_ne_none.mp located
  · cases place

/-- The schedule of the radio within the program and the base station of the same configuration
agree, as long as the numbers of the carriers fit into an octet. In every frame, what is sent up
names a configured timeslot by its carrier and its channel number, which finds a channel there, and
nothing is asked for twice; and what names a timeslot is what is sent up for it. Over as many frames
in a row as its period has, wherever they begin, a timeslot gets just what it is due, and the common
control channel one opportunity for paging and access grants in each of its blocks. -/
theorem schedule_fits_base_station (few : c.carriers.length ≤ 256) :
    (∀ fn trx o, (trx, o) ∈ (ofConfig c).opportunities fn →
      ∃ a p, ChanAddr.decode o.chanNr = .ok a ∧ c.pchan? trx a.tn = some p ∧
        o ∈ scheduled p a.tn fn ∧ ((Bts.ofConfig c).find? trx o.chanNr).isSome = true) ∧
    (∀ fn, ((ofConfig c).opportunities fn).Nodup) ∧
    ∀ trx tn p, c.pchan? trx tn = some p →
      (∀ fn, (ofConfig c).slotOpportunities trx tn fn = scheduled p tn fn) ∧
      (∀ s, ((window s p.period).flatMap ((ofConfig c).slotOpportunities trx tn)).Perm
        (p.due tn)) ∧
      (p.hasCcch = true → ∀ s,
        ((window s controlMultiframe).flatMap ((ofConfig c).commonBlocks trx tn)).Perm
          ((List.range 9).map some)) :=
  ⟨fun _ _ _ mem => located_of_mem_opportunities few mem, fun _ => nodup_opportunities few,
    fun _ _ _ slot => ⟨fun _ => slotOpportunities_eq few slot, window_due few slot,
      window_commonBlocks few slot⟩⟩

/-- On the first timeslot of a cell the channels have their turns over the end of the hyperframe
too. -/
theorem turns_around_hyperframe : scriptedConfig.carriers.length ≤ 256 ∧
    ((window (hyperframe - 20) 51).flatMap ((ofConfig scriptedConfig).slotOpportunities 0 0)).Perm
      (Pchan.due 0 .ccchSdcch4) := by
  have few : scriptedConfig.carriers.length ≤ 256 := by decide
  have slot : scriptedConfig.pchan? 0 0 = some .ccchSdcch4 := by decide +kernel
  exact ⟨few, ((schedule_fits_base_station few).2.2 0 0 .ccchSdcch4 slot).2.1 (hyperframe - 20)⟩

end VirtualPhy
end BaseStation
