import BaseStation.Proofs.Bridge.Moved
import BaseStation.Proofs.Opportunity

/-!
Received blocks. The addressed timeslot, the addressed channel, the link and the length of a block
settle its fate, and each fate has one result, one record left and one list of calls: a block for
the link layer gets there once, and one for the packet control unit gets there once.
-/

namespace BaseStation.Bridge

variable {σ φ : Type} {site : Site σ φ} {b b' : Bts} {trx n : UInt8} {id : LchanId} {l k : Lchan}
  {r : Except Failure Unit} {es es' : List Event}

/-! ### Calls -/

def Event.call? : Event → Option Call
  | .call (.alarm _) _ => none
  | .call c _ => some c
  | _ => none

/-- The calls on the parties above in the order they were made, alarms apart. -/
def calls (es : List Event) : List Call := es.filterMap Event.call?

theorem calls_append : calls (es ++ es') = calls es ++ calls es' := List.filterMap_append

theorem calls_requestEvents {q : Option CipherRequest} {a : Except PhyError Unit} :
    calls (requestEvents trx q a) = [] := by
  cases q with
  | none => rfl
  | some c =>
    rcases a with e | ⟨⟩
    · cases e <;> rfl
    · rfl

/-- The report on the first frame after a handover, if it is awaited. -/
def firstFrameCalls (id : LchanId) (l : Lchan) : List Call :=
  if l.handover = .waitFrame then [.handoverFrame id] else []

theorem calls_handoverEvents : calls (handoverEvents id l) = firstFrameCalls id l := by
  unfold handoverEvents firstFrameCalls
  split <;> rfl

/-! ### Fates -/

/-- What becomes of a received block. -/
inductive Fate where
  /-- The channel of the block is not in use. -/
  | ignored
  /-- Nothing of the block was decoded. -/
  | lost (id : LchanId) (l : Lchan)
  /-- There is no room for the layer 1 header of a SACCH. -/
  | tooShort (id : LchanId) (l : Lchan)
  | main (id : LchanId) (l : Lchan)
  | sacch (id : LchanId) (l : Lchan)
  /-- A packet channel in loopback keeps the block. -/
  | looped (id : LchanId) (l : Lchan)
  | packetLost
  /-- A packet block was decoded in part. -/
  | packetPartial
  | packet
deriving DecidableEq

/-- The fate of a block that a carrier received. -/
def fateOf (b : Bts) (trx : UInt8) (c : Carrier) (d : PhData) : Fate :=
  if (c.slotOf d.chanNr).isPdch then
    match (b.find? trx d.chanNr).filter (·.2.loopback) with
    | some (id, l) => .looped id l
    | none =>
      if d.frame.isEmpty then .packetLost
      else if isPtcch d.fn.toNat ∨ d.presence = .both then .packet
      else .packetPartial
  else
    match b.findActive? trx d.chanNr with
    | none => .ignored
    | some (id, l) =>
      if d.frame.isEmpty then .lost id l
      else if isSacchLink d.linkId = false then .main id l
      else if d.frame.l2Length < sacchHeaderLength then .tooShort id l
      else .sacch id l

/-- The radio link counter of a channel after a SACCH frame. -/
def counterAfter (site : Site σ φ) (l : Lchan) (bad : Bool) : Int :=
  (l.onSacchFrame site.settings.radioLinkTimeout bad).1.s

/-- The orders for a ciphering request. -/
def cipherOrders (trx : UInt8) (q : Option CipherRequest) : List Order :=
  (q.map fun c => .prim trx (.mphInfoReq (.cipherReq c))).toList

/-- What is done with a block of a given fate: the result, the data left and the events. -/
def Fate.Done (site : Site σ φ) (trx : UInt8) (c : Carrier) (d : PhData) (b : Bts)
    (r : Except Failure Unit) (b' : Bts) (es : List Event) : Fate → Prop
  | .ignored => r = .ok () ∧ b' = b ∧ es = []
  -- A lost frame of the SACCH is counted, and may be the one with which the link fails.
  | .lost id l =>
    r = .error (.refused .badFrame) ∧
      if isSacchLink d.linkId then
        b' = b.setLchan id { l with s := counterAfter site l true } ∧
          es = superviseEvents site id l true
      else b' = b ∧ es = []
  | .tooShort id l =>
    r = .error (.refused (.sacchTooShort d.frame.l2Length)) ∧
      b' = b.setLchan id { l with handover := .none, s := counterAfter site l false } ∧
      es = handoverEvents id l
  | .main id l =>
    r = .ok () ∧
      b' = b.setLchan id { l with
        handover := .none
        cipher := (l.checkUplink d.chanNr d.frame.l2).1.cipher } ∧
      calls es =
        firstFrameCalls id l ++ [.dataUp id .dcch { d with frame := .ofL2 d.frame.l2 }] ∧
      orders es = cipherOrders trx (l.checkUplink d.chanNr d.frame.l2).2
  -- The first two octets are the layer 1 header, whatever was marked as such before.
  | .sacch id l =>
    ∃ x y body level, d.frame.octets = x :: y :: body ∧ r = .ok () ∧
      b' = b.setLchan id { l with
        handover := .none
        s := counterAfter site l false
        meas := { l.meas with l1Header := some (Measurements.rslPower x, y) }
        msPower := level
        cipher := (l.checkUplink d.chanNr body).1.cipher } ∧
      calls es = firstFrameCalls id l ++
        [.powerControl id (x &&& 0x1f) d.rssi, .dataUp id .acch { d with frame := .ofL2 body }] ∧
      orders es = cipherOrders trx (l.checkUplink d.chanNr body).2
  | .looped id l =>
    r = .ok () ∧
      b' = b.setLchan id { l with queue := (l.queue.push (.looped d.frame.octets)).1 } ∧ es = []
  | .packetLost => r = .error (.refused .badFrame) ∧ b' = b ∧ es = []
  | .packetPartial => r = .ok () ∧ b' = b ∧ es = []
  | .packet =>
    r = .ok () ∧ b' = b ∧
      es = [.call (.packetData ⟨trx, chanTn d.chanNr, isPtcch d.fn.toNat, d.fn, c.arfcn,
        packetBlockNr d.fn.toNat, d.frame.octets, d.rssi, d.ber10k, d.taOffset,
        d.linkQuality⟩) ()]

/-! ### Parts of a reception -/

/-- The check of an uplink frame reads the ciphering of the channel alone. -/
theorem checkUplink_congr {xs : List UInt8} (state : k.cipher = l.cipher)
    (number : k.cipherNs = l.cipherNs) :
    k.checkUplink n xs =
      ({ k with cipher := (l.checkUplink n xs).1.cipher }, (l.checkUplink n xs).2) := by
  unfold Lchan.checkUplink
  rw [state, number]
  split
  · rfl
  · rw [← state, ← number]

/-- Supervision reads and writes the counter alone. -/
theorem supervised_eq_counterAfter (h : HandoverState) (bad : Bool) :
    supervised site { l with handover := h } bad =
      { l with handover := h, s := counterAfter site l bad } := by
  unfold supervised counterAfter Lchan.onSacchFrame
  split
  · rfl
  · split
    · rfl
    · split <;> rfl

/-- A link does not fail with a good frame. -/
theorem superviseEvents_good : superviseEvents site id l false = [] := by
  unfold superviseEvents Lchan.onSacchFrame
  split
  · rename_i cause failed
    split at failed
    · cases failed
    · rw [if_neg Bool.false_ne_true] at failed
      split at failed <;> cases failed
  · rfl

/-- A frame with room for the header of a SACCH is that header and the rest. -/
theorem sacchMarked_parts {d : PhData} (long : sacchHeaderLength ≤ d.frame.l2Length) :
    ∃ x y body, d.frame.octets = x :: y :: body ∧ (sacchMarked d).frame.l1 = [x, y] ∧
      (sacchMarked d).frame.l2 = body := by
  have two : 2 ≤ d.frame.octets.length := Nat.le_trans long (Nat.sub_le _ _)
  cases octets : d.frame.octets with
  | nil => simp [octets] at two
  | cons x rest =>
    cases rest with
    | nil => simp [octets] at two
    | cons y body =>
      refine ⟨x, y, body, rfl, ?_, ?_⟩
      · simp [sacchMarked, Frame.l1, Frame.setL1Length, sacchHeaderLength, octets]
      · simp [sacchMarked, Frame.l2, Frame.setL1Length, sacchHeaderLength, octets]

@[simp] theorem linkId_sacchMarked (d : PhData) : (sacchMarked d).linkId = d.linkId := rfl

/-! ### Receptions -/

theorem calls_deliverEvents {d : PhData} {a : Except PhyError Unit} :
    calls (deliverEvents trx id l d a) =
      [.dataUp id (.ofId d.linkId) { d with frame := d.frame.dropL1 }] := by
  unfold deliverEvents
  rw [calls_append, calls_requestEvents]
  rfl

theorem orders_deliverEvents {d : PhData} {a : Except PhyError Unit} :
    orders (deliverEvents trx id l d a) =
      cipherOrders trx (l.checkUplink d.chanNr d.frame.l2).2 := by
  unfold deliverEvents
  rw [orders_append, orders_requestEvents]
  exact List.append_nil _

theorem orders_handoverEvents : orders (handoverEvents id l) = [] := filterMap_handoverEvents

/-! ### The fate of a block -/

section Fates

variable {c : Carrier} {d : PhData}

theorem fateOf_looped (packet : (c.slotOf d.chanNr).isPdch = true)
    (found : b.find? trx d.chanNr = some (id, l)) (loop : l.loopback = true) :
    fateOf b trx c d = .looped id l := by
  unfold fateOf
  rw [if_pos packet, found, Option.filter_some, if_pos loop]

/-- On a packet timeslot without a loopback the block alone counts. -/
theorem fateOf_packet (packet : (c.slotOf d.chanNr).isPdch = true)
    (free : ∀ id l, b.find? trx d.chanNr = some (id, l) → l.loopback = false) :
    fateOf b trx c d =
      if d.frame.isEmpty then .packetLost
      else if isPtcch d.fn.toNat ∨ d.presence = .both then .packet
      else .packetPartial := by
  have none : (b.find? trx d.chanNr).filter (·.2.loopback) = none := by
    rw [Option.filter_eq_none_iff]
    rintro ⟨id, l⟩ found
    simp [free id l found]
  unfold fateOf
  rw [if_pos packet, none]

theorem fateOf_ignored (circuit : (c.slotOf d.chanNr).isPdch = false)
    (free : b.findActive? trx d.chanNr = none) : fateOf b trx c d = .ignored := by
  unfold fateOf
  rw [circuit, if_neg Bool.false_ne_true, free]

/-- On an active channel of a circuit timeslot the link and the lengths count. -/
theorem fateOf_active (circuit : (c.slotOf d.chanNr).isPdch = false)
    (found : b.findActive? trx d.chanNr = some (id, l)) :
    fateOf b trx c d =
      if d.frame.isEmpty then .lost id l
      else if isSacchLink d.linkId = false then .main id l
      else if d.frame.l2Length < sacchHeaderLength then .tooShort id l
      else .sacch id l := by
  unfold fateOf
  rw [circuit, if_neg Bool.false_ne_true, found]

end Fates

theorem DataOutcome.done {c : Carrier} {d : PhData} (h : DataOutcome site trx d b r b' es)
    (carrier : b.carrier? trx = some c) : (fateOf b trx c d).Done site trx c d b r b' es := by
  -- the fate is read off the carrier that is given, the outcome off the one that was found
  have same : ∀ {k : Carrier}, b.carrier? trx = some k → k = c := by
    intro k hk
    rw [carrier] at hk
    exact (Option.some.inj hk).symm
  cases h with
  | unknownTrx unknown => rw [unknown] at carrier; cases carrier
  | looped carrier' packet found loop =>
    obtain rfl := same carrier'
    rw [fateOf_looped packet found loop]
    exact ⟨rfl, rfl, rfl⟩
  | packetBad carrier' packet free bad =>
    obtain rfl := same carrier'
    rw [fateOf_packet packet free, if_pos bad]
    exact ⟨rfl, rfl, rfl⟩
  | packetPartial carrier' packet free good control part =>
    obtain rfl := same carrier'
    -- the step tests the block number, the fate the frame number
    have control : isPtcch d.fn.toNat = false := by rwa [packetBlock_eq] at control
    rw [fateOf_packet packet free, good, if_neg Bool.false_ne_true,
      if_neg (by simp [control, part])]
    exact ⟨rfl, rfl, rfl⟩
  | packetData carrier' packet free good whole =>
    obtain rfl := same carrier'
    rw [packetBlock_eq] at whole ⊢
    rw [fateOf_packet packet free, good, if_neg Bool.false_ne_true, if_pos whole]
    exact ⟨rfl, rfl, rfl⟩
  | inactive carrier' circuit free =>
    obtain rfl := same carrier'
    rw [fateOf_ignored circuit free]
    exact ⟨rfl, rfl, rfl⟩
  | badMain carrier' circuit found link bad =>
    obtain rfl := same carrier'
    rw [fateOf_active circuit found, if_pos bad]
    refine ⟨rfl, ?_⟩
    rw [link, if_neg Bool.false_ne_true]
    exact ⟨rfl, rfl⟩
  | @badSacch _ _ l carrier' circuit found link bad =>
    obtain rfl := same carrier'
    rw [fateOf_active circuit found, if_pos bad]
    refine ⟨rfl, ?_⟩
    rw [if_pos link]
    exact ⟨congrArg _ (supervised_eq_counterAfter l.handover true), rfl⟩
  | @main _ _ l carrier' circuit found link good answer =>
    obtain rfl := same carrier'
    rw [fateOf_active circuit found, good, if_neg Bool.false_ne_true, if_pos link]
    have checked : Lchan.checkUplink { l with handover := .none } d.chanNr d.frame.l2 =
        ({ l with handover := .none, cipher := (l.checkUplink d.chanNr d.frame.l2).1.cipher },
          (l.checkUplink d.chanNr d.frame.l2).2) := checkUplink_congr rfl rfl
    refine ⟨rfl, ?_, ?_, ?_⟩
    · rw [checked]
    · rw [calls_append, calls_handoverEvents, calls_deliverEvents, Link.ofId, link]
      rfl
    · rw [orders_append, orders_handoverEvents, orders_deliverEvents, checked]
      rfl
  | shortSacch carrier' circuit found link good short =>
    obtain rfl := same carrier'
    rw [fateOf_active circuit found, good, if_neg Bool.false_ne_true, if_neg (by simp [link]),
      if_pos short]
    refine ⟨rfl, ?_, ?_⟩
    · rw [supervised_eq_counterAfter]
    · rw [superviseEvents_good, List.append_nil]
  | @sacch _ id l k carrier' circuit found link good long level answer header =>
    obtain rfl := same carrier'
    obtain ⟨x, y, body, octets, l1, l2⟩ := sacchMarked_parts long
    rw [fateOf_active circuit found, good, if_neg Bool.false_ne_true, if_neg (by simp [link]),
      if_neg (Nat.not_lt.mpr long)]
    rw [supervised_eq_counterAfter, l1] at header
    -- the check reads only the two fields of ciphering, which the header does not change
    have state : k.cipher = l.cipher := by rw [header]; rfl
    have number : k.cipherNs = l.cipherNs := by rw [header]; rfl
    refine ⟨x, y, body, level.getD l.msPower, octets, rfl, ?_, ?_, ?_⟩
    · rw [checkUplink_congr state number, l2, header]
      rfl
    · rw [superviseEvents_good, l1, List.nil_append, calls_append, calls_append,
        calls_handoverEvents, calls_deliverEvents]
      simp only [linkId_sacchMarked, Link.ofId, link, Frame.dropL1, l2]
      rfl
    · rw [superviseEvents_good, l1, List.nil_append, orders_append, orders_append,
        orders_handoverEvents, orders_deliverEvents, checkUplink_congr state number, l2]
      rfl

/-- **One outcome**: on a carrier that exists a received block has the fate that is read off its
timeslot, its channel, its link and its length, and what belongs to that fate is done, no more. -/
theorem uplink_block_one_outcome (site : Site σ φ) (w : World σ φ) {trx : UInt8} {c : Carrier}
    (carrier : w.bts.carrier? trx = some c) (d : PhData) :
    ∃ es, (step site (.up trx (.phDataInd d)) w).2.trace = w.trace ++ es ∧
      (fateOf w.bts trx c d).Done site trx c d w.bts (step site (.up trx (.phDataInd d)) w).1
        (step site (.up trx (.phDataInd d)) w).2.bts es := by
  obtain ⟨es, ht, h⟩ := step_outcome site (.up trx (.phDataInd d)) w
  exact ⟨es, ht, h.dataOutcome.done carrier⟩

/-- A traffic channel with a connection. -/
def trafficWorld : World ScriptedServices ScriptedPhy :=
  run scriptedSite (scriptedWorld .fresh)
    [.chanAct 0 0x09 none, .up 0 (.mphInfoCnf (.activateCnf ⟨0x09, 0⟩))]

/-- A SACCH frame of which one octet alone is marked as the layer 1 header. -/
def sacchFrame : PhData :=
  ⟨0x09, 0x40, 12, -60, 0, 0, 100, .both, .ofParts [0x05] [0x00, 0x03, 0x03, 0x01]⟩

/-- Both octets of the header are taken off, and power control hears of the level in them. -/
theorem sacch_frame_delivered : ∃ es,
    (step scriptedSite (.up 0 (.phDataInd sacchFrame)) trafficWorld).2.trace =
      trafficWorld.trace ++ es ∧
    calls es = [.powerControl ⟨0, 1, 0⟩ 0x05 (-60), .dataUp ⟨0, 1, 0⟩ .acch
      { sacchFrame with frame := .ofL2 [0x03, 0x03, 0x01] }] := by
  obtain ⟨c, carrier⟩ : ∃ c, trafficWorld.bts.carrier? 0 = some c :=
    Option.isSome_iff_exists.mp (by decide +kernel)
  have fate : (trafficWorld.bts.carrier? 0).map (fateOf trafficWorld.bts 0 · sacchFrame) =
      some (.sacch ⟨0, 1, 0⟩ { Lchan.fresh ⟨0, 1, 0⟩ .tchF with state := .active, s := 32 }) := by
    decide +kernel
  rw [carrier, Option.map_some, Option.some.injEq] at fate
  obtain ⟨es, ht, done⟩ := uplink_block_one_outcome scriptedSite trafficWorld carrier sacchFrame
  rw [fate] at done
  obtain ⟨x, y, body, level, octets, -, -, made, -⟩ := done
  obtain ⟨rfl, rfl, rfl⟩ : 0x05 = x ∧ 0x00 = y ∧ [0x03, 0x03, 0x01] = body := by
    simpa [sacchFrame, Frame.ofParts] using octets
  exact ⟨es, ht, made⟩

end BaseStation.Bridge
