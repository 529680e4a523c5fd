import BaseStation.Proofs.Bridge.Causes
import BaseStation.Proofs.Opportunity

/-!
Blocks of the packet control unit for the downlink. The access point hands each of them down as it
was asked to, whatever the timeslot is used for: it is the packet control unit that keeps to the
timeslots in packet mode, of which alone it is told.
-/

namespace BaseStation.Bridge

variable {σ φ : Type} {site : Site σ φ} {b b' : Bts} {trx tn n : UInt8} {i : Input}
  {q : PacketRequest} {x : PacketRts} {r : Except Failure Unit} {es : List Event}

/-! ### Requests -/

/-- The channel number under which a block goes down. -/
def PacketRequest.chanNr (q : PacketRequest) : UInt8 := ChanKind.base .tchF ||| q.tn

/-- The block as the radio gets it. -/
def PacketRequest.prim (q : PacketRequest) : Prim :=
  .phDataReq (.request q.chanNr 0 q.fn (.ofL2 q.data))

/-- A timeslot of a carrier that exists, in packet mode. -/
structure PacketTimeslot (b : Bts) (trx tn : UInt8) : Prop where
  carrier : ∃ c, b.carrier? trx = some c
  range : tn.toNat < numSlots
  mode : ∃ t, b.slot? trx tn = some t ∧ t.isPdch = true

/-- The channel number of a block names the timeslot that was asked for. -/
theorem PacketRequest.decode_chanNr (range : q.tn.toNat < numSlots) :
    ChanAddr.decode q.chanNr = .ok ⟨.tchF, q.tn, none⟩ := by
  have every : ∀ i : Fin 256, i.val < 8 →
      ofCBits? ((ChanKind.base .tchF ||| .ofFin i) >>> 3) = some (.tchF, none) := by
    decide +kernel
  have kind : ofCBits? (q.chanNr >>> 3) = some (.tchF, none) := every q.tn.toFin range
  have place : chanTn q.chanNr = q.tn := chanTn_fullRate range
  unfold ChanAddr.decode
  rw [kind, place]

/-- One block goes down for a request, and nothing else becomes of it. -/
theorem StepOutcome.packetReqOutcome (h : StepOutcome site b (.packetReq q) r b' es) :
    orders es = [.prim q.trx q.prim] ∧ b' = b ∧
      ∃ a, r = downResult a ∧ .down q.trx q.prim a ∈ es := by
  cases h with
  | packetReq answer => exact ⟨orders_downEvents, rfl, answer, rfl, List.mem_cons_self ..⟩

/-! ### Opportunities told -/

theorem packetTimeslot_of_slotOf {c : Carrier} (carrier : b.carrier? trx = some c)
    (packet : (c.slotOf n).isPdch = true) : PacketTimeslot b trx (chanTn n) :=
  ⟨⟨c, carrier⟩, chanTn_lt n, _, Bts.slot?_slotOf carrier, packet⟩

theorem RtsOutcome.told {p : PhRts} (h : RtsOutcome site trx p b r b' es)
    (told : x ∈ packetOpportunities es) : b' = b ∧ PacketTimeslot b x.trx x.tn := by
  cases h with
  | packet _ carrier packet =>
    obtain rfl := List.mem_singleton.mp told
    exact ⟨rfl, packetTimeslot_of_slotOf carrier packet⟩
  | circuit _ _ _ block =>
    rw [packetOpportunities_append, packetOpportunities_append, block.readings.2,
      packetOpportunities_requestEvents, packetOpportunities_downEvents] at told
    cases told
  | looped =>
    rw [packetOpportunities_downEvents] at told
    cases told
  | _ => cases told

/-- The packet control unit is told of opportunities only. -/
theorem StepOutcome.rts_of_told (h : StepOutcome site b i r b' es)
    (told : x ∈ packetOpportunities es) : ∃ trx p, i = .up trx (.phRtsInd p) := by
  obtain ⟨e, he, read⟩ := List.mem_filterMap.mp told
  cases h.causes e he with
  | packetRts => exact ⟨_, _, rfl⟩
  | _ => cases read

theorem StepOutcome.told (h : StepOutcome site b i r b' es)
    (told : x ∈ packetOpportunities es) : b' = b ∧ PacketTimeslot b x.trx x.tn := by
  obtain ⟨trx, p, rfl⟩ := h.rts_of_told told
  exact h.rtsOutcome.told told

/-! ### Every state -/

/-- In every state one block goes down for a request of the packet control unit, on the carrier and
in the frame asked for and under a number that names the timeslot asked for, if there is such a
timeslot; the data stay as they are. The packet control unit is told of opportunities on timeslots
in packet mode only, so that a block that answers one before anything else happens goes out on such
a timeslot. -/
theorem packet_requests_sent_as_asked (site : Site σ φ) (w : World σ φ) :
    (∀ q : PacketRequest, ∃ es, (step site (.packetReq q) w).2.trace = w.trace ++ es ∧
      orders es = [.prim q.trx q.prim] ∧ (step site (.packetReq q) w).2.bts = w.bts ∧
      ∃ a, (step site (.packetReq q) w).1 = downResult a ∧ .down q.trx q.prim a ∈ es) ∧
    (∀ q : PacketRequest, q.tn.toNat < numSlots →
      ChanAddr.decode q.chanNr = .ok ⟨.tchF, q.tn, none⟩) ∧
    ∀ i, ∃ es, (step site i w).2.trace = w.trace ++ es ∧
      ∀ x ∈ packetOpportunities es,
        PacketTimeslot w.bts x.trx x.tn ∧ PacketTimeslot (step site i w).2.bts x.trx x.tn := by
  refine ⟨fun q => ?_, fun q => q.decode_chanNr, fun i => ?_⟩
  · obtain ⟨es, ht, h⟩ := step_outcome site (.packetReq q) w
    exact ⟨es, ht, h.packetReqOutcome⟩
  · obtain ⟨es, ht, h⟩ := step_outcome site i w
    refine ⟨es, ht, fun x mem => ?_⟩
    obtain ⟨same, packet⟩ := h.told mem
    rw [same]
    exact ⟨packet, packet⟩

/-- A block for a timeslot that carries a traffic channel. -/
def strayRequest : PacketRequest := ⟨0, 1, false, 0, 0, 0, []⟩

/-- The block goes down though the timeslot is not in packet mode. -/
theorem block_sent_on_traffic_slot : scriptedConfig.validate = .ok () ∧
    ¬ ∀ q : PacketRequest,
      .prim q.trx q.prim ∈
          orders (step scriptedSite (.packetReq q) (scriptedWorld .fresh)).2.trace →
        PacketTimeslot (scriptedWorld .fresh).bts q.trx q.tn := by
  refine ⟨rfl, fun only => ?_⟩
  obtain ⟨t, slot, packet⟩ := (only strayRequest (by decide +kernel)).mode
  have circuit : ((scriptedWorld .fresh).bts.slot? 0 1).map Timeslot.isPdch = some false := by
    decide +kernel
  rw [show (scriptedWorld .fresh).bts.slot? 0 1 = some t from slot, Option.map_some, packet]
    at circuit
  cases circuit

end BaseStation.Bridge
