import BaseStation.Phy.Backend
import BaseStation.Proofs.Bridge.Answers
import BaseStation.Proofs.Bridge.Channel
import BaseStation.Proofs.Bridge.Events

/-!
The radio within the program, as the access point sees it: what it answers, what waits in it after
a step, and which channels it asks about in a frame.
-/

namespace BaseStation

open Bridge

/-! ### Requests -/

/-- The confirm that the radio within the program has for what was handed down. -/
def Bridge.Event.confirm? : Event → Option (UInt8 × Prim)
  | .down trx (.mphInfoReq i) (.ok ()) =>
    (VirtualPhy.confirm? i).map fun c => (trx, .mphInfoCnf c)
  | _ => none

/-- The confirms that wait after a step, in order. -/
def Bridge.confirms (es : List Event) : List (UInt8 × Prim) := es.filterMap Event.confirm?

instance : Aside Event.confirm? := by constructor <;> intros <;> rfl

theorem Bridge.confirms_cons {e : Event} {es : List Event} :
    confirms (e :: es) = e.confirm?.toList ++ confirms es := filterMap_event _ _ _

/-- The primitive is a confirm. -/
def Prim.IsConfirm (p : Prim) : Prop := ∃ i, p = .mphInfoCnf i

theorem Bridge.isConfirm_of_mem_confirms {es : List Event} {q : UInt8 × Prim}
    (h : q ∈ confirms es) : q.2.IsConfirm := by
  obtain ⟨e, -, hq⟩ := List.mem_filterMap.mp h
  unfold Event.confirm? at hq
  split at hq
  · obtain ⟨i, -, rfl⟩ := Option.map_eq_some_iff.mp hq
    exact ⟨i, rfl⟩
  · cases hq

namespace VirtualPhy

variable {v v' : VirtualPhy} {trx : UInt8} {p : Prim}

/-- A primitive handed down leaves the timeslots as they are, and its confirm behind what waits. -/
theorem down_eq : ∃ n, (VirtualPhy.down trx p v).2 =
    { v with
      pending := v.pending ++ (Event.confirm? (.down trx p (VirtualPhy.down trx p v).1)).toList
      numTx := n } := by
  unfold VirtualPhy.down
  split
  · exact ⟨v.numTx, by simp [Event.confirm?]⟩
  · split
    · exact ⟨v.numTx + 1, by simp [Event.confirm?]⟩
    · exact ⟨v.numTx + 1, by simp [Event.confirm?]⟩
    · exact ⟨v.numTx, by simp [Event.confirm?, confirm?]⟩
    · rename_i i _
      cases here : confirm? i with
      | none => exact ⟨v.numTx, by simp [Event.confirm?]⟩
      | some c => exact ⟨v.numTx, by simp [Event.confirm?, here, queueUp]⟩
    · exact ⟨v.numTx, by simp [Event.confirm?]⟩

/-- What the radio answers depends on its carriers only. -/
theorem answer_congr (same : v'.slots = v.slots) :
    (VirtualPhy.down trx p v').1 = (VirtualPhy.down trx p v).1 := by
  unfold VirtualPhy.down
  rw [same]
  split
  · rfl
  · split
    · rfl
    · rfl
    · rfl
    · rename_i i _
      cases confirm? i <;> rfl
    · rfl

/-- A block or a voice frame for one of its carriers the radio takes. -/
theorem answer_block (range : trx.toNat < v.slots.length)
    (block : (∃ d, p = .phDataReq d) ∨ ∃ t, p = .tchReq t) :
    (VirtualPhy.down trx p v).1 = .ok () := by
  unfold VirtualPhy.down
  rw [if_neg (Nat.not_le.mpr range)]
  obtain ⟨d, rfl⟩ | ⟨t, rfl⟩ := block <;> rfl

end VirtualPhy

/-- What the events of a step make of the radio within the program. -/
structure VirtualPhy.Serves (v : VirtualPhy) (es : List Event) (v' : VirtualPhy) : Prop where
  slots : v'.slots = v.slots
  pending : v'.pending = v.pending ++ confirms es
  down : ∀ trx p a, .down trx p a ∈ es → a = (VirtualPhy.down trx p v).1
  disconnect : ∀ trx tn a, .disconnect trx tn a ∈ es → a = .ok ()

namespace Bridge

variable {σ : Type} {site : Site σ Phy} {w : World σ Phy} {v : VirtualPhy}

theorem Answers.serves (radio : site.phy = Phy.link) {s s' : σ} {p p' : Phy} {es : List Event}
    (answers : Answers site s p es s' p') {v : VirtualPhy} (virtual : p = .virtual v) :
    ∃ v', p' = .virtual v' ∧ v.Serves es v' := by
  induction answers generalizing v with
  | nil => exact ⟨v, virtual, rfl, (List.append_nil _).symm, by simp, by simp⟩
  | call c _ ih =>
    obtain ⟨v', virtual', serves⟩ := ih virtual
    refine ⟨v', virtual', serves.slots, serves.pending, ?_, ?_⟩
    · intro trx p a mem
      exact serves.down trx p a ((List.mem_cons.mp mem).resolve_left nofun)
    · intro trx tn a mem
      exact serves.disconnect trx tn a ((List.mem_cons.mp mem).resolve_left nofun)
  -- a confirm that the radio has for a request comes behind those that wait
  | @down s s' p p' es trx prim _ ih =>
    subst virtual
    rw [radio] at ih ⊢
    obtain ⟨v', virtual', serves⟩ := ih (v := (VirtualPhy.down trx prim v).2) rfl
    obtain ⟨n, after⟩ : ∃ n, (VirtualPhy.down trx prim v).2 = _ := VirtualPhy.down_eq
    have slots : (VirtualPhy.down trx prim v).2.slots = v.slots := by rw [after]
    refine ⟨v', virtual', serves.slots.trans slots, ?_, ?_, ?_⟩
    · rw [serves.pending, after, confirms_cons, List.append_assoc]
      rfl
    · intro trx' prim' a mem
      rcases List.mem_cons.mp mem with first | later
      · cases first
        rfl
      · rw [serves.down trx' prim' a later]
        exact VirtualPhy.answer_congr slots
    · intro trx' tn a mem
      exact serves.disconnect trx' tn a ((List.mem_cons.mp mem).resolve_left nofun)
  | @disconnect s s' p p' es trx tn _ ih =>
    subst virtual
    rw [radio] at ih ⊢
    obtain ⟨v', virtual', serves⟩ := ih (v := { v with numDisconnects := v.numDisconnects + 1 }) rfl
    refine ⟨v', virtual', serves.slots, ?_, ?_, ?_⟩
    · rw [serves.pending, confirms_cons]
      rfl
    · intro trx' prim' a mem
      rw [serves.down trx' prim' a ((List.mem_cons.mp mem).resolve_left nofun)]
      exact VirtualPhy.answer_congr rfl
    · intro trx' tn' a mem
      rcases List.mem_cons.mp mem with first | later
      · cases first
        rfl
      · exact serves.disconnect trx' tn' a later

/-- What a step over the radio within the program comes to, and what it makes of the radio. -/
theorem step_served (radio : site.phy = Phy.link) (virtual : w.phy = .virtual v) (i : Input) :
    ∃ es v', (step site i w).2.trace = w.trace ++ es ∧
      StepOutcome site w.bts i (step site i w).1 (step site i w).2.bts es ∧
      (step site i w).2.phy = .virtual v' ∧ v.Serves es v' := by
  obtain ⟨es, ht, outcome, answers⟩ := step_answered site i w
  obtain ⟨v', virtual', serves⟩ := answers.serves radio virtual
  exact ⟨es, v', ht, outcome, virtual', serves⟩

end Bridge

/-! ### The schedule -/

/-- The channels of a timeslot that the radio asks about, by kind and subslot. -/
def Pchan.polled : Pchan → List (ChanKind × UInt8)
  | .none => []
  | .ccch => [(.bcch, 0), (.pchAgch, 0)]
  | .ccchSdcch4 => [(.bcch, 0), (.pchAgch, 0)] ++ (List.range 4).map fun ss => (.sdcch4, ss.toUInt8)
  | .sdcch8 => (List.range 8).map fun ss => (.sdcch8, ss.toUInt8)
  | .tchF | .tchFPdch | .tchFTchHPdch => [(.tchF, 0)]
  | .tchH => [(.tchH, 0), (.tchH, 1)]
  | .pdch => [(.pdch, 0)]

/-- The number of a polled channel names a place that the timeslot has. -/
theorem Pchan.place?_polled (p : Pchan) {kind : ChanKind} {ss tn : UInt8}
    (polled : (kind, ss) ∈ p.polled) (range : tn.toNat < numSlots) :
    ∃ i, place? (VirtualPhy.number kind ss tn) = some (tn, i) ∧ i < p.layout.length := by
  have every : ∀ tn : Fin 256, tn.val < numSlots → ∀ q ∈ p.polled,
      (place? (VirtualPhy.number q.1 q.2 (.ofFin tn))).any
        fun r => r.1 == .ofFin tn && r.2 < p.layout.length := by
    cases p <;> decide +kernel
  obtain ⟨⟨m, i⟩, place, here⟩ := Option.any_eq_true _ _ |>.mp (every tn.toFin range _ polled)
  rw [Bool.and_eq_true, beq_iff_eq, decide_eq_true_iff] at here
  obtain ⟨rfl, inside⟩ := here
  exact ⟨i, place, inside⟩

namespace VirtualPhy

variable {p : Pchan} {tn : UInt8} {fn : UInt32}

/-- The primitive asks for a block or a voice frame of the channel of a number. -/
inductive Asks (fn : UInt32) (chanNr : UInt8) : Prim → Prop
  | block (linkId : UInt8) : Asks fn chanNr (poll chanNr linkId fn)
  | voice : Asks fn chanNr (.tchRtsInd ⟨chanNr, fn⟩)

theorem mem_pollTraffic {chanNr : UInt8} {q : Prim} (h : q ∈ pollTraffic chanNr fn) :
    Asks fn chanNr q := by
  unfold pollTraffic at h
  rcases List.mem_cons.mp h with rfl | h
  · exact .block 0
  · rw [List.mem_singleton.mp h]
    exact .voice

theorem mem_pollSubslots {kind : ChanKind} {n : Nat} {q : Prim}
    (h : q ∈ pollSubslots kind n tn fn) :
    ∃ ss, ss ∈ List.range n ∧ Asks fn (number kind ss.toUInt8 tn) q := by
  obtain ⟨ss, range, rfl⟩ := List.mem_map.mp h
  exact ⟨ss, range, .block 0⟩

theorem mem_pollCommon {q : Prim} (h : q ∈ pollCommon tn fn) :
    Asks fn (number .bcch 0 tn) q ∨ Asks fn (number .pchAgch 0 tn) q := by
  unfold pollCommon at h
  split at h
  · rw [List.mem_singleton.mp h]
    exact .inl (.block 0)
  · split at h
    · rw [List.mem_singleton.mp h]
      exact .inr (.block 0)
    · cases h

/-- The radio asks about the channels that the timeslot has. -/
theorem mem_slotSchedule {q : Prim} (h : q ∈ slotSchedule p tn fn) :
    ∃ kind ss, (kind, ss) ∈ p.polled ∧ Asks fn (number kind ss tn) q := by
  -- timeslots that switch are polled as full rate traffic channels
  have traffic : q ∈ (if fn.toNat % trafficMultiframe ∈ tchBlockStarts then
      pollTraffic (number .tchF 0 tn) fn
      else if fn.toNat % trafficMultiframe = tchSacchFrame then
        [poll (number .tchF 0 tn) sacchLink fn]
      else []) → Asks fn (number .tchF 0 tn) q := by
    intro h
    split at h
    · exact mem_pollTraffic h
    · split at h
      · rw [List.mem_singleton.mp h]
        exact .block sacchLink
      · cases h
  cases p with
  | none => cases h
  | ccch =>
    rcases mem_pollCommon h with asks | asks
    · exact ⟨.bcch, 0, by simp [Pchan.polled], asks⟩
    · exact ⟨.pchAgch, 0, by simp [Pchan.polled], asks⟩
  | ccchSdcch4 =>
    rcases List.mem_append.mp h with common | dedicated
    · rcases mem_pollCommon common with asks | asks
      · exact ⟨.bcch, 0, by simp [Pchan.polled], asks⟩
      · exact ⟨.pchAgch, 0, by simp [Pchan.polled], asks⟩
    · obtain ⟨-, dedicated⟩ := List.mem_ite_nil_right.mp dedicated
      obtain ⟨ss, range, asks⟩ := mem_pollSubslots dedicated
      exact ⟨.sdcch4, ss.toUInt8,
        List.mem_append_right _ (List.mem_map.mpr ⟨ss, range, rfl⟩), asks⟩
  | sdcch8 =>
    obtain ⟨-, dedicated⟩ := List.mem_ite_nil_right.mp h
    obtain ⟨ss, range, asks⟩ := mem_pollSubslots dedicated
    exact ⟨.sdcch8, ss.toUInt8, List.mem_map.mpr ⟨ss, range, rfl⟩, asks⟩
  | tchF | tchFPdch | tchFTchHPdch => exact ⟨.tchF, 0, List.mem_singleton.mpr rfl, traffic h⟩
  | tchH =>
    obtain ⟨-, h⟩ := List.mem_ite_nil_right.mp h
    refine ⟨.tchH, _, ?_, mem_pollTraffic h⟩
    -- the two halves take turns, by the parity of the frame
    have parity := Nat.mod_two_eq_zero_or_one (fn.toNat % trafficMultiframe)
    rcases parity with even | odd
    · rw [even]
      exact List.mem_cons_self
    · rw [odd]
      exact List.mem_cons_of_mem _ List.mem_cons_self
  | pdch =>
    obtain ⟨-, h⟩ := List.mem_ite_nil_right.mp h
    rw [List.mem_singleton.mp h]
    exact ⟨.pdch, 0, List.mem_singleton.mpr rfl, .block 0⟩

theorem mem_carrierSchedule {trx : UInt8} {slots : Vector Pchan numSlots} {q : UInt8 × Prim}
    (h : q ∈ carrierSchedule trx slots fn) : q.1 = trx ∧
      ∃ (tn : UInt8) (p : Pchan), slots[tn.toNat]? = some p ∧ ∃ kind ss, (kind, ss) ∈ p.polled ∧
        Asks fn (number kind ss tn) q.2 := by
  obtain ⟨q, inside, rfl⟩ := List.mem_map.mp h
  obtain ⟨qs, here, inside⟩ := List.mem_flatten.mp inside
  obtain ⟨i, range, rfl⟩ := List.mem_mapIdx.mp here
  rw [Vector.length_toList] at range
  have tn : i.toUInt8.toNat = i := by
    have : i < 8 := range
    rw [Nat.toUInt8_eq, UInt8.toNat_ofNat']
    omega
  refine ⟨rfl, i.toUInt8, slots[i], ?_, mem_slotSchedule inside⟩
  rw [tn]
  exact Vector.getElem?_eq_getElem range

/-- In a frame the radio sends up the time on the primary carrier, and the schedules of the
carriers that it has. -/
theorem mem_frameIndications {v : VirtualPhy} {q : UInt8 × Prim}
    (h : q ∈ v.frameIndications fn) : q = (0, .mphInfoInd (.time fn)) ∨
      q.1.toNat < v.slots.length ∧ ∃ slots ∈ v.slots, q ∈ carrierSchedule q.1 slots fn := by
  rcases List.mem_cons.mp h with time | h
  · exact .inl time
  · obtain ⟨qs, here, inside⟩ := List.mem_flatten.mp h
    obtain ⟨i, range, rfl⟩ := List.mem_mapIdx.mp here
    obtain ⟨trx, -⟩ := mem_carrierSchedule inside
    refine .inr ⟨?_, v.slots[i], List.getElem_mem range, trx ▸ inside⟩
    have wrapped : i.toUInt8.toNat ≤ i := by
      rw [Nat.toUInt8_eq, UInt8.toNat_ofNat']
      exact Nat.mod_le _ _
    rw [trx]
    exact Nat.lt_of_le_of_lt wrapped range

end VirtualPhy
end BaseStation
