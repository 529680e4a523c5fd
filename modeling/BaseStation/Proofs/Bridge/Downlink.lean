import BaseStation.Bridge.Downlink
import BaseStation.Proofs.Bridge.Effect

/-!
What a transmit opportunity comes to: for each way in which it can go the result, the data left
and the events, in terms of the answers of the parties and of the radio.
-/

namespace BaseStation.Bridge

variable {σ φ : Type} {site : Site σ φ} {b : Bts} {trx : UInt8}

/-! ### Blocks of data -/

/-- The events of the request for ciphering that comes with a block. -/
def requestEvents (trx : UInt8) (q : Option CipherRequest) (a : Except PhyError Unit) :
    List Event :=
  match q with
  | some c => downEvents trx (.mphInfoReq (.cipherReq c)) a
  | none => []

/-- The controller of discontinuous transmission that hears of a signalling block. -/
def facchEvents (site : Site σ φ) (l : Lchan) : List Event :=
  match l.dtx with
  | some h => if site.settings.dtxDl then [.call (.dtxFacch h) ()] else []
  | none => []

/-- The block of a main channel without anything to send. -/
def idleFrame (kind : ChanKind) (l : Lchan) : Frame :=
  if !kind.isTraffic || l.mode == .signalling then .ofBlock .fill else .empty

/-- The block made for a channel in circuit mode, by the kind of the channel: the frame, the
ciphering request it gives rise to, the data left and the events. -/
inductive CircuitBlock (site : Site σ φ) (trx : UInt8) (r : PhRts) (b : Bts) :
    ChanKind → Frame → Option CipherRequest → Bts → List Event → Prop
  | broadcast (a : Option MacBlock) :
    CircuitBlock site trx r b .bcch (.ofBlock (a.getD .fill)) none b
      [.call (.bcchBlock (.ofFrame r.fn.toNat)) a]
  | paging (a : Option MacBlock) :
    CircuitBlock site trx r b .pchAgch (.ofBlock (a.getD .fill)) none b
      [.call (.ccchBlock (.ofFrame r.fn.toNat) (isAgchFrame site r.fn)) a]
  | silent {kind : ChanKind} (common : kind = .rach ∨ kind = .pdch) :
    CircuitBlock site trx r b kind .empty none b []
  | inactive {kind : ChanKind} (dedicated : kind.isCommon = false)
      (free : b.findActive? trx r.chanNr = none) : CircuitBlock site trx r b kind .empty none b []
  | sacch {kind : ChanKind} {id : LchanId} {l : Lchan} (dedicated : kind.isCommon = false)
      (found : b.findActive? trx r.chanNr = some (id, l)) (link : isSacchLink r.linkId = true)
      (f : Frame) :
    CircuitBlock site trx r b kind
      (.ofParts [l.msPower, l.rqdTa] (padTo (blockLength - sacchHeaderLength)
        (f.octets.drop sacchHeaderLength))) none b [.call (.dequeue id .acch) (some f)]
  | filling {kind : ChanKind} {id : LchanId} {l : Lchan} (dedicated : kind.isCommon = false)
      (found : b.findActive? trx r.chanNr = some (id, l)) (link : isSacchLink r.linkId = true) :
    CircuitBlock site trx r b kind
      (.ofParts [l.msPower, l.rqdTa] ((l.fill.next.1.getD .fill).octets.take
        (blockLength - sacchHeaderLength))) none
      (b.setLchan id { l with fill := l.fill.next.2 }) [.call (.dequeue id .acch) none]
  | main {kind : ChanKind} {id : LchanId} {l : Lchan} (dedicated : kind.isCommon = false)
      (found : b.findActive? trx r.chanNr = some (id, l)) (link : isSacchLink r.linkId = false)
      (f : Frame) :
    CircuitBlock site trx r b kind (.ofL2 (padTo blockLength f.octets))
      (l.checkDownlink r.chanNr f.octets).2 (b.setLchan id (l.checkDownlink r.chanNr f.octets).1)
      (.call (.dequeue id .dcch) (some f) :: facchEvents site l)
  | idle {kind : ChanKind} {id : LchanId} {l : Lchan} (dedicated : kind.isCommon = false)
      (found : b.findActive? trx r.chanNr = some (id, l)) (link : isSacchLink r.linkId = false) :
    CircuitBlock site trx r b kind (idleFrame kind l) none b [.call (.dequeue id .dcch) none]

theorem lchan?_of_findActive? {n : UInt8} {id : LchanId} {l : Lchan}
    (h : b.findActive? trx n = some (id, l)) : b.lchan? id = some l :=
  (Bts.find?_eq_some.mp (Bts.findActive?_eq_some.mp h).1).2

theorem sacchBlock_ensures {r : PhRts} {kind : ChanKind} {id : LchanId} {l : Lchan}
    (dedicated : kind.isCommon = false) (found : b.findActive? trx r.chanNr = some (id, l))
    (link : isSacchLink r.linkId = true) :
    Ensures b (sacchBlock site id l) fun f b' es =>
      CircuitBlock site trx r b kind f none b' es := by
  refine .asked fun a => ?_
  cases a with
  | some f => exact .done (.sacch dedicated found link f)
  | none =>
    refine .writeLchan (.done ?_)
    rw [Bts.modifyLchan_eq_setLchan (lchan?_of_findActive? found)]
    exact .filling dedicated found link

theorem mainBlock_ensures {r : PhRts} {kind : ChanKind} {id : LchanId} {l : Lchan}
    (dedicated : kind.isCommon = false) (found : b.findActive? trx r.chanNr = some (id, l))
    (link : isSacchLink r.linkId = false) :
    Ensures b (mainBlock site kind r.chanNr id l) fun p b' es =>
      CircuitBlock site trx r b kind p.1 p.2 b' es := by
  unfold mainBlock
  refine .asked fun a => ?_
  cases a with
  | some f =>
    have main : CircuitBlock site trx r b kind _ _ _ _ := .main dedicated found link f
    unfold facchEvents at main
    dsimp only
    generalize l.checkDownlink r.chanNr f.octets = c at main ⊢
    -- the check is written back whether or not it fired, and the controller is told after it
    obtain ⟨l', request⟩ := c
    refine .writeLchan ?_
    rw [Bts.modifyLchan_eq_setLchan (lchan?_of_findActive? found)]
    cases hd : l.dtx with
    | none =>
      rw [hd] at main
      exact .done main
    | some h =>
      rw [hd] at main
      dsimp only at main ⊢
      split
      · rw [if_pos ‹_›] at main
        exact .told fun _ => .done main
      · rw [if_neg ‹_›] at main
        exact .done main
  | none =>
    have idle : CircuitBlock site trx r b kind _ _ _ _ := .idle dedicated found link
    unfold idleFrame at idle
    dsimp only
    split
    · rw [if_pos ‹_›] at idle
      exact .done idle
    · rw [if_neg ‹_›] at idle
      exact .done idle

theorem dedicatedBlock_ensures {r : PhRts} {kind : ChanKind} (dedicated : kind.isCommon = false) :
    Ensures b (dedicatedBlock site trx kind r) fun p b' es =>
      CircuitBlock site trx r b kind p.1 p.2 b' es := by
  unfold dedicatedBlock
  refine .read fun w hw => ?_
  subst hw
  cases found : w.bts.findActive? trx r.chanNr with
  | none => exact .done (.inactive dedicated found)
  | some p =>
    obtain ⟨id, l⟩ := p
    dsimp only
    split
    · rename_i link
      refine .bind (sacchBlock_ensures dedicated found link) fun f b' es hf => .done ?_
      rwa [List.append_nil]
    · rename_i link
      exact mainBlock_ensures dedicated found (by simpa using link)

theorem circuitBlock_ensures {r : PhRts} {kind : ChanKind} :
    Ensures b (circuitBlock site trx kind r) fun p b' es =>
      CircuitBlock site trx r b kind p.1 p.2 b' es := by
  unfold circuitBlock
  cases kind with
  | bcch => exact .asked fun a => .done (.broadcast a)
  | pchAgch => exact .asked fun a => .done (.paging a)
  | rach => exact .done (.silent (.inl rfl))
  | pdch => exact .done (.silent (.inr rfl))
  | tchF => exact dedicatedBlock_ensures rfl
  | tchH => exact dedicatedBlock_ensures rfl
  | sdcch4 => exact dedicatedBlock_ensures rfl
  | sdcch8 => exact dedicatedBlock_ensures rfl

/-- An opportunity for a block of data. -/
inductive RtsOutcome (site : Site σ φ) (trx : UInt8) (r : PhRts) (b : Bts) :
    Except Failure Unit → Bts → List Event → Prop
  | undecodable {e : ChanNrError} (bad : ChanAddr.decode r.chanNr = .error e) :
    RtsOutcome site trx r b (.error (.breach (.undecodable trx e))) b []
  | unknownTrx {a : ChanAddr} (addr : ChanAddr.decode r.chanNr = .ok a)
      (unknown : b.carrier? trx = none) :
    RtsOutcome site trx r b (.error (.breach (.unknownTrx trx))) b []
  /-- A loopback on a packet channel echoes the uplink. -/
  | looped {a : ChanAddr} {c : Carrier} {id : LchanId} {l : Lchan}
      (addr : ChanAddr.decode r.chanNr = .ok a) (carrier : b.carrier? trx = some c)
      (packet : (c.slotOf r.chanNr).isPdch = true)
      (found : b.findActive? trx r.chanNr = some (id, l)) (loop : l.loopback = true)
      (answer : Except PhyError Unit) :
    RtsOutcome site trx r b (downResult answer)
      (b.setLchan id { l with queue := (loopedBlock l.queue r.fn).2 })
      (downEvents trx (.phDataReq (.request r.chanNr r.linkId r.fn (loopedBlock l.queue r.fn).1))
        answer)
  | packet {a : ChanAddr} {c : Carrier} (addr : ChanAddr.decode r.chanNr = .ok a)
      (carrier : b.carrier? trx = some c) (packet : (c.slotOf r.chanNr).isPdch = true)
      (free : ∀ id l, b.findActive? trx r.chanNr = some (id, l) → l.loopback = false) :
    RtsOutcome site trx r b (.ok ()) b
      [.call (.packetRts ⟨trx, chanTn r.chanNr, (packetBlock r.fn.toNat).1, r.fn, c.arfcn,
        (packetBlock r.fn.toNat).2⟩) ()]
  | circuit {a : ChanAddr} {c : Carrier} {f : Frame} {q : Option CipherRequest} {b' : Bts}
      {es : List Event} (addr : ChanAddr.decode r.chanNr = .ok a)
      (carrier : b.carrier? trx = some c) (circuit : (c.slotOf r.chanNr).isPdch = false)
      (block : CircuitBlock site trx r b a.kind f q b' es)
      (answer answer' : Except PhyError Unit) :
    RtsOutcome site trx r b (downResult answer') b'
      (es ++ (requestEvents trx q answer ++
        downEvents trx (.phDataReq (.request r.chanNr r.linkId r.fn f)) answer'))

theorem packetRts_ensures {r : PhRts} {a : ChanAddr} {c : Carrier}
    (addr : ChanAddr.decode r.chanNr = .ok a) (carrier : b.carrier? trx = some c)
    (packet : (c.slotOf r.chanNr).isPdch = true) :
    Ensures b (packetRts site trx c.arfcn r) (RtsOutcome site trx r b) := by
  unfold packetRts
  refine .actRead fun w hw => ?_
  subst hw
  cases found : (w.bts.findActive? trx r.chanNr).filter (·.2.loopback) with
  | none =>
    refine .actTold fun _ => .succeed (.packet addr carrier packet fun id l hl => ?_)
    simpa [hl] using found
  | some p =>
    obtain ⟨id, l⟩ := p
    rw [Option.filter_eq_some_iff] at found
    have looped : ∀ answer, RtsOutcome site trx r w.bts _ _ _ :=
      .looped addr carrier packet found.1 found.2
    dsimp only
    refine .actWriteLchan ?_
    rw [Bts.modifyLchan_eq_setLchan (lchan?_of_findActive? found.1)]
    refine (down_ensures trx _).mono ?_
    rintro _ _ _ ⟨answer, rfl, rfl, rfl⟩
    exact looped answer

theorem circuitRts_ensures {r : PhRts} {a : ChanAddr} {c : Carrier}
    (addr : ChanAddr.decode r.chanNr = .ok a) (carrier : b.carrier? trx = some c)
    (circuit : (c.slotOf r.chanNr).isPdch = false) :
    Ensures b (circuitRts site trx a.kind r) (RtsOutcome site trx r b) := by
  unfold circuitRts
  refine .lift circuitBlock_ensures ?_
  rintro ⟨f, q⟩ b' es block
  cases q with
  | none =>
    refine (down_ensures trx _).mono ?_
    rintro _ _ _ ⟨answer, rfl, rfl, rfl⟩
    exact .circuit addr carrier circuit block answer answer
  | some request =>
    refine .lift (handDown_ensures trx _) ?_
    rintro answer _ _ ⟨rfl, rfl⟩
    refine (down_ensures trx _).mono ?_
    rintro _ _ _ ⟨answer', rfl, rfl, rfl⟩
    exact .circuit addr carrier circuit block answer answer'

theorem rtsInd_ensures (r : PhRts) : Ensures b (rtsInd site trx r) (RtsOutcome site trx r b) := by
  unfold rtsInd
  cases addr : ChanAddr.decode r.chanNr with
  | error e => exact .done (.undecodable addr)
  | ok a =>
    refine .actRead fun w hw => ?_
    subst hw
    cases carrier : w.bts.carrier? trx with
    | none => exact .done (.unknownTrx addr carrier)
    | some c =>
      dsimp only
      split
      · rename_i packet
        exact packetRts_ensures addr carrier packet
      · rename_i circuit
        exact circuitRts_ensures addr carrier (by simpa using circuit)

/-! ### Voice -/

/-- The events before a voice frame is sent: the transport is polled for one, and a release
indication that was held back goes out. -/
def voiceEvents (id : LchanId) (l : Lchan) : List Event :=
  (if !l.loopback && l.hasRtp then
    [.call (.voicePoll id) (), .call (.voiceAdvance id voiceSamples) ()] else []) ++
  match l.pendingRelInd with
  | some msg => [.call (.releaseIndication id msg) ()]
  | none => []

/-- An opportunity for a voice frame. -/
inductive TchRtsOutcome (trx : UInt8) (r : TchRts) (b : Bts) :
    Except Failure Unit → Bts → List Event → Prop
  | unknownTrx (unknown : b.carrier? trx = none) :
    TchRtsOutcome trx r b (.error (.refused (.noSuchTrx trx))) b []
  | inactive {c : Carrier} (carrier : b.carrier? trx = some c)
      (free : b.findActive? trx r.chanNr = none) (answer : Except PhyError Unit) :
    TchRtsOutcome trx r b (downResult answer) b (downEvents trx (voiceRequest r none) answer)
  | active {c : Carrier} {id : LchanId} {l : Lchan} (carrier : b.carrier? trx = some c)
      (found : b.findActive? trx r.chanNr = some (id, l)) (answer : Except PhyError Unit) :
    TchRtsOutcome trx r b (downResult answer)
      (b.setLchan id { l with queue := l.queue.pop.2, pendingRelInd := none })
      (voiceEvents id l ++ downEvents trx (voiceRequest r l.queue.pop.1) answer)

theorem voiceBlock_ensures {id : LchanId} {l : Lchan} (hl : b.lchan? id = some l) :
    Ensures b (voiceBlock site id l) fun f b' es => f = l.queue.pop.1 ∧
      b' = b.setLchan id { l with queue := l.queue.pop.2, pendingRelInd := none } ∧
      es = voiceEvents id l := by
  have rest : Ensures b (do
      modify (·.modifyLchan id ({ · with queue := l.queue.pop.2, pendingRelInd := none }))
      match l.pendingRelInd with
      | some msg => tell site (.releaseIndication id msg)
      | none => pure ()
      pure l.queue.pop.1) fun f b' es => f = l.queue.pop.1 ∧
        b' = b.setLchan id { l with queue := l.queue.pop.2, pendingRelInd := none } ∧
        es = match l.pendingRelInd with
          | some msg => [.call (.releaseIndication id msg) ()]
          | none => [] := by
    refine .writeLchan ?_
    rw [Bts.modifyLchan_eq_setLchan hl]
    cases l.pendingRelInd with
    | none => exact .done ⟨rfl, rfl, rfl⟩
    | some msg => exact .told fun _ => .done ⟨rfl, rfl, rfl⟩
  unfold voiceBlock voiceEvents
  cases !l.loopback && l.hasRtp with
  | false => exact rest
  | true =>
    refine .told fun _ => .told fun _ => rest.mono ?_
    rintro _ _ _ ⟨rfl, rfl, rfl⟩
    exact ⟨rfl, rfl, rfl⟩

theorem tchRtsInd_ensures (r : TchRts) :
    Ensures b (tchRtsInd site trx r) (TchRtsOutcome trx r b) := by
  unfold tchRtsInd
  refine .needCarrier .unknownTrx fun c carrier => .actRead fun w hw => ?_
  subst hw
  cases found : w.bts.findActive? trx r.chanNr with
  | none =>
    refine (down_ensures trx _).mono ?_
    rintro _ _ _ ⟨answer, rfl, rfl, rfl⟩
    exact .inactive carrier found answer
  | some p =>
    obtain ⟨id, l⟩ := p
    refine .lift (voiceBlock_ensures (lchan?_of_findActive? found)) ?_
    rintro _ _ _ ⟨rfl, rfl, rfl⟩
    refine (down_ensures trx _).mono ?_
    rintro _ _ _ ⟨answer, rfl, rfl, rfl⟩
    exact .active carrier found answer

end BaseStation.Bridge
