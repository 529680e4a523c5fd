import BaseStation.Proofs.Bridge.Events
import BaseStation.Proofs.Bridge.Run

/-!
Transmit opportunities are answered once: a block goes down for each of them, save that the packet
control unit alone is told where it has the timeslot.
-/

namespace BaseStation.Bridge

variable {σ φ : Type} {site : Site σ φ} {b b' : Bts} {trx : UInt8}

/-! ### The two answers -/

/-- The packet control unit has the transmit opportunities of a channel number: the timeslot is in
packet mode, and there is no active channel in loopback. -/
def LeftToPacketControl (b : Bts) (trx : UInt8) (c : Carrier) (n : UInt8) : Prop :=
  (c.slotOf n).isPdch = true ∧
    ∀ id l, b.findActive? trx n = some (id, l) → l.loopback = false

/-- The frame is one of the two of a packet multiframe that carry the timing control channel. -/
def IsTimingFrame (fn : Nat) : Prop := fn % 52 = 12 ∨ fn % 52 = 38

instance (fn : Nat) : Decidable (IsTimingFrame fn) := by
  unfold IsTimingFrame
  infer_instance

/-- The number of the radio block: in the packet multiframe or, in the frames of the timing control
channel, that of the multiframe in a round of eight. -/
def packetBlockNr (fn : Nat) : UInt8 :=
  if IsTimingFrame fn then (fn / 52 % 8).toUInt8 else (fn % 52 / 4).toUInt8

/-- Nothing goes down and no block is asked for; the packet control unit is told. -/
structure ToldToPacketControl (trx : UInt8) (c : Carrier) (r : PhRts) (es : List Event) :
    Prop where
  silent : orders es = []
  told : packetOpportunities es =
    [⟨trx, chanTn r.chanNr, decide (IsTimingFrame r.fn.toNat), r.fn, c.arfcn,
      packetBlockNr r.fn.toNat⟩]
  unasked : blocksAsked es = []

/-- The orders of an answer by a block: at most one ciphering request, and the block. -/
def blockOrders (trx : UInt8) (r : PhRts) (q : Option CipherRequest) (f : Frame) : List Order :=
  (q.map fun c => .prim trx (.mphInfoReq (.cipherReq c))).toList ++
    [.prim trx (.phDataReq (.request r.chanNr r.linkId r.fn f))]

/-- One block goes down, and the packet control unit is not told. -/
structure AnsweredByBlock (trx : UInt8) (r : PhRts) (es : List Event) : Prop where
  answered : ∃ q f, orders es = blockOrders trx r q f
  untold : packetOpportunities es = []

/-- One voice frame or underrun goes down, and the packet control unit is not told. -/
structure AnsweredByVoice (trx : UInt8) (r : TchRts) (es : List Event) : Prop where
  answered : ∃ t : TchData, t.chanNr = r.chanNr ∧ t.fn = r.fn ∧ orders es = [.prim trx (.tchReq t)]
  untold : packetOpportunities es = []

/-! ### Readings of the outcomes -/

theorem isPtcch_eq (fn : Nat) : isPtcch fn = decide (IsTimingFrame fn) := by
  rw [Bool.eq_iff_iff, decide_eq_true_iff]
  exact Bool.or_eq_true_iff.trans (or_congr beq_iff_eq beq_iff_eq)

theorem packetBlock_eq (fn : Nat) : packetBlock fn = (isPtcch fn, packetBlockNr fn) := by
  unfold packetBlock packetBlockNr
  rw [isPtcch_eq]
  by_cases timing : IsTimingFrame fn
  · rw [if_pos timing, if_pos (decide_eq_true timing), decide_eq_true timing]
    rfl
  · rw [if_neg timing, if_neg (by simp [timing]), decide_eq_false timing]
    rfl

/-- The making of a block gives no order and leaves packet control alone. -/
theorem CircuitBlock.readings {r : PhRts} {kind : ChanKind} {f : Frame} {q : Option CipherRequest}
    {es : List Event} (h : CircuitBlock site trx r b kind f q b' es) :
    orders es = [] ∧ packetOpportunities es = [] := by
  cases h with
  | main =>
    exact ⟨filterMap_facchEvents, filterMap_facchEvents⟩
  | _ => exact ⟨rfl, rfl⟩

/-- What is read off orders alone is not read off events without any. -/
theorem filterMap_of_unordered {α : Type} {f : Event → Option α} {es : List Event}
    (unordered : orders es = []) (reads : ∀ c a, f (.call c a) = none) : es.filterMap f = [] := by
  rw [List.filterMap_eq_nil_iff]
  intro e he
  cases e with
  | call c a => exact reads c a
  | down | disconnect => cases List.filterMap_eq_nil_iff.mp unordered _ he

theorem orders_downEvents {p : Prim} {a : Except PhyError Unit} :
    orders (downEvents trx p a) = [.prim trx p] := filterMap_downEvents

theorem orders_requestEvents {q : Option CipherRequest} {a : Except PhyError Unit} :
    orders (requestEvents trx q a) =
      (q.map fun c => .prim trx (.mphInfoReq (.cipherReq c))).toList := by
  cases q with
  | none => rfl
  | some c => exact orders_downEvents

theorem orders_voiceEvents {id : LchanId} {l : Lchan} : orders (voiceEvents id l) = [] := by
  simp [orders, Event.order?]

theorem packetOpportunities_voiceEvents {id : LchanId} {l : Lchan} :
    packetOpportunities (voiceEvents id l) = [] := by
  simp [packetOpportunities, Event.packetRts?]

theorem orders_append (es es' : List Event) : orders (es ++ es') = orders es ++ orders es' :=
  List.filterMap_append

theorem packetOpportunities_append (es es' : List Event) :
    packetOpportunities (es ++ es') = packetOpportunities es ++ packetOpportunities es' :=
  List.filterMap_append

theorem packetOpportunities_downEvents {p : Prim} {a : Except PhyError Unit} :
    packetOpportunities (downEvents trx p a) = [] := filterMap_downEvents

theorem packetOpportunities_requestEvents {q : Option CipherRequest} {a : Except PhyError Unit} :
    packetOpportunities (requestEvents trx q a) = [] := by
  cases q with
  | none => rfl
  | some c => exact packetOpportunities_downEvents

theorem RtsOutcome.answered {r : PhRts} {c : Carrier} {a : ChanAddr} {res : Except Failure Unit}
    {es : List Event} (h : RtsOutcome site trx r b res b' es) (carrier : b.carrier? trx = some c)
    (addr : ChanAddr.decode r.chanNr = .ok a) :
    (LeftToPacketControl b trx c r.chanNr → ToldToPacketControl trx c r es) ∧
      (¬ LeftToPacketControl b trx c r.chanNr → AnsweredByBlock trx r es) := by
  cases h with
  | undecodable bad => rw [bad] at addr; cases addr
  | unknownTrx _ unknown => rw [unknown] at carrier; cases carrier
  | looped _ _ _ found loop answer =>
    refine ⟨fun left => ?_, fun _ => ⟨⟨none, _, orders_downEvents⟩,
      packetOpportunities_downEvents⟩⟩
    rw [left.2 _ _ found] at loop
    cases loop
  | @packet _ k _ carrier' packet free =>
    obtain rfl : k = c := by rw [carrier'] at carrier; exact Option.some.inj carrier
    refine ⟨fun _ => ⟨rfl, ?_, rfl⟩, fun circuit => absurd ⟨packet, free⟩ circuit⟩
    rw [packetBlock_eq, isPtcch_eq]
    rfl
  | @circuit _ k f q _ es _ carrier' circuit block answer answer' =>
    obtain rfl : k = c := by rw [carrier'] at carrier; exact Option.some.inj carrier
    obtain ⟨no, untold⟩ := block.readings
    refine ⟨fun left => ?_, fun _ => ⟨⟨q, f, ?_⟩, ?_⟩⟩
    · rw [left.1] at circuit
      cases circuit
    · rw [orders_append, orders_append, no, orders_requestEvents, orders_downEvents]
      rfl
    · rw [packetOpportunities_append, packetOpportunities_append, untold,
        packetOpportunities_requestEvents, packetOpportunities_downEvents]
      rfl

theorem TchRtsOutcome.answered {r : TchRts} {c : Carrier} {res : Except Failure Unit}
    {es : List Event} (h : TchRtsOutcome trx r b res b' es) (carrier : b.carrier? trx = some c) :
    AnsweredByVoice trx r es := by
  have voice : ∀ f answer, ∃ t : TchData, t.chanNr = r.chanNr ∧ t.fn = r.fn ∧
      orders (downEvents trx (voiceRequest r f) answer) = [.prim trx (.tchReq t)] := by
    intro f answer
    obtain ⟨t, ht, number, fn⟩ := voiceRequest_eq r f
    exact ⟨t, number, fn, ht ▸ orders_downEvents⟩
  cases h with
  | unknownTrx unknown => rw [unknown] at carrier; cases carrier
  | inactive _ _ answer => exact ⟨voice none answer, packetOpportunities_downEvents⟩
  | @active _ id l _ _ answer =>
    refine ⟨?_, ?_⟩
    · rw [orders_append, orders_voiceEvents]
      exact voice l.queue.pop.1 answer
    · rw [packetOpportunities_append, packetOpportunities_downEvents, List.append_nil]
      exact packetOpportunities_voiceEvents

/-! ### Opportunities -/

/-- On a carrier that exists every transmit opportunity is answered once: one for a block of a
decodable channel number by the block or by the packet control unit, and never by both, one for a
voice frame by a voice frame or an underrun. -/
theorem opportunity_answered_once (site : Site σ φ) (w : World σ φ) {trx : UInt8} {c : Carrier}
    (carrier : w.bts.carrier? trx = some c) :
    (∀ (r : PhRts) (a : ChanAddr), ChanAddr.decode r.chanNr = .ok a →
      ∃ es, (step site (.up trx (.phRtsInd r)) w).2.trace = w.trace ++ es ∧
        (LeftToPacketControl w.bts trx c r.chanNr → ToldToPacketControl trx c r es) ∧
        (¬ LeftToPacketControl w.bts trx c r.chanNr → AnsweredByBlock trx r es)) ∧
    ∀ r : TchRts, ∃ es, (step site (.up trx (.tchRtsInd r)) w).2.trace = w.trace ++ es ∧
      AnsweredByVoice trx r es := by
  refine ⟨fun r a addr => ?_, fun r => ?_⟩
  · obtain ⟨es, ht, h⟩ := step_outcome site (.up trx (.phRtsInd r)) w
    exact ⟨es, ht, h.rtsOutcome.answered carrier addr⟩
  · obtain ⟨es, ht, h⟩ := step_outcome site (.up trx (.tchRtsInd r)) w
    exact ⟨es, ht, h.tchRtsOutcome.answered carrier⟩

/-- A full rate traffic channel of the default configuration is sent a block. -/
theorem traffic_opportunity_answered : ∃ es,
    (step scriptedSite (.up 0 (.phRtsInd ⟨0x09, 0, 0⟩)) (scriptedWorld .fresh)).2.trace =
      (scriptedWorld .fresh).trace ++ es ∧ AnsweredByBlock 0 ⟨0x09, 0, 0⟩ es := by
  have carrier : (scriptedWorld .fresh).bts.carrier? 0 = some (.fresh 0 .default) := rfl
  have circuit : ¬ LeftToPacketControl (scriptedWorld .fresh).bts 0 (.fresh 0 .default) 0x09 :=
    fun left => absurd left.1 (by decide)
  obtain ⟨es, ht, -, h⟩ :=
    (opportunity_answered_once scriptedSite (scriptedWorld .fresh) carrier).1 ⟨0x09, 0, 0⟩
      ⟨.tchF, 1, none⟩ rfl
  exact ⟨es, ht, h circuit⟩

end BaseStation.Bridge
