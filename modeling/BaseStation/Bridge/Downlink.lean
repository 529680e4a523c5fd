import BaseStation.Bridge.State
import BaseStation.Lchan.Ciphering

/-!
Transmit opportunities. On a timeslot in packet mode the packet control unit is told; on any other
one a block for the addressed channel goes down.
-/

namespace BaseStation.Bridge

variable {σ φ : Type} (site : Site σ φ)

/-- Octets of the layer 1 header in front of a SACCH frame: power level and timing advance. -/
def sacchHeaderLength : Nat := 2

/-! ### Packet mode -/

/-- A block of the loopback on a packet channel, which echoes the uplink, and the queue without
it. There is nothing to echo in a timing control block. -/
def loopedBlock (q : VoiceQueue) (fn : UInt32) : Frame × VoiceQueue :=
  if isPtcch fn.toNat then (.empty, q)
  else
    match q.pop with
    | (some f, q) => (.ofL2 f.payload, q)
    | (none, q) => (.ofL2 (List.replicate blockLength 0), q)

/-- An opportunity on a timeslot in packet mode. -/
def packetRts (trx : UInt8) (arfcn : UInt16) (r : PhRts) : Act σ φ Unit := do
  match ((← get).bts.findActive? trx r.chanNr).filter (·.2.loopback) with
  | some (id, l) =>
    let (f, q) := loopedBlock l.queue r.fn
    modify (·.modifyLchan id ({ · with queue := q }))
    down site trx (.phDataReq (.request r.chanNr r.linkId r.fn f))
  | none =>
    let (ptcch, block) := packetBlock r.fn.toNat
    tell site (.packetRts ⟨trx, chanTn r.chanNr, ptcch, r.fn, arfcn, block⟩)

/-! ### Circuit mode -/

/-- The block of a SACCH: the layer 1 header, then what the link layer has to send, else the
filling, else the fill frame. -/
def sacchBlock (id : LchanId) (l : Lchan) : Step σ φ Frame := do
  let body := blockLength - sacchHeaderLength
  let header := [l.msPower, l.rqdTa]
  match ← ask site (.dequeue id .acch) with
  | some f => pure (.ofParts header (padTo body (f.octets.drop sacchHeaderLength)))
  | none =>
    let (b, fill) := l.fill.next
    modify (·.modifyLchan id ({ · with fill := fill }))
    pure (.ofParts header ((b.getD .fill).octets.take body))

/-- The block of a main channel: what the link layer has to send, which may start ciphering. With
nothing to send, voice fills a traffic channel in a mode other than signalling, and the fill frame
any other. -/
def mainBlock (kind : ChanKind) (chanNr : UInt8) (id : LchanId) (l : Lchan) :
    Step σ φ (Frame × Option CipherRequest) := do
  match ← ask site (.dequeue id .dcch) with
  | some f =>
    let (l', request) := l.checkDownlink chanNr f.octets
    modify (·.modifyLchan id fun _ => l')
    match l.dtx with
    | some h => if site.settings.dtxDl then tell site (.dtxFacch h) else pure ()
    | none => pure ()
    pure (.ofL2 (padTo blockLength f.octets), request)
  | none =>
    if !kind.isTraffic || l.mode == .signalling then pure (.ofBlock .fill, none)
    else pure (.empty, none)

/-- The block of a dedicated channel, empty while the channel is not active. -/
def dedicatedBlock (trx : UInt8) (kind : ChanKind) (r : PhRts) :
    Step σ φ (Frame × Option CipherRequest) := do
  match (← get).bts.findActive? trx r.chanNr with
  | some (id, l) =>
    if isSacchLink r.linkId then
      let f ← sacchBlock site id l
      pure (f, none)
    else mainBlock site kind r.chanNr id l
  | none => pure (.empty, none)

/-- The frame belongs to a block kept for access grants. -/
def isAgchFrame (fn : UInt32) : Bool :=
  match ccchBlock? fn.toNat with
  | some b => b < site.settings.numAgch.toNat
  | none => false

/-- The block of a channel, and the ciphering request it gives rise to. -/
def circuitBlock (trx : UInt8) (kind : ChanKind) (r : PhRts) :
    Step σ φ (Frame × Option CipherRequest) := do
  let time := GsmTime.ofFrame r.fn.toNat
  match kind with
  | .bcch =>
    let b ← ask site (.bcchBlock time)
    pure (.ofBlock (b.getD .fill), none)
  | .pchAgch =>
    let b ← ask site (.ccchBlock time (isAgchFrame site r.fn))
    pure (.ofBlock (b.getD .fill), none)
  | .rach | .pdch => pure (.empty, none)
  | kind => dedicatedBlock site trx kind r

/-- An opportunity on a timeslot in circuit mode. A refused ciphering request does not keep the
block back. -/
def circuitRts (trx : UInt8) (kind : ChanKind) (r : PhRts) : Act σ φ Unit := do
  let (f, request) ← circuitBlock site trx kind r
  match request with
  | some c =>
    let _ ← handDown site trx (.mphInfoReq (.cipherReq c))
  | none => pure ()
  down site trx (.phDataReq (.request r.chanNr r.linkId r.fn f))

/-- PH-RTS.ind: the radio asks for a block. It may ask for channels of existing carriers only. -/
def rtsInd (trx : UInt8) (r : PhRts) : Act σ φ Unit := do
  match ChanAddr.decode r.chanNr with
  | .error e => throw (.breach (.undecodable trx e))
  | .ok a =>
    match (← get).bts.carrier? trx with
    | none => throw (.breach (.unknownTrx trx))
    | some c =>
      if (c.slotOf r.chanNr).isPdch then packetRts site trx c.arfcn r
      else circuitRts site trx a.kind r

/-! ### Voice -/

/-- The primitive for a voice frame, or for an underrun. -/
def voiceRequest (r : TchRts) : Option VoiceFrame → Prim
  | some f => .tchReq ⟨r.chanNr, r.fn, f.marker, some (.ofL2 f.payload)⟩
  | none => .tchReq ⟨r.chanNr, r.fn, false, none⟩

/-- The frame an active channel has to send: the voice transport may deliver one first, and a
release indication held back goes out now. -/
def voiceBlock (id : LchanId) (l : Lchan) : Step σ φ (Option VoiceFrame) := do
  if !l.loopback && l.hasRtp then
    tell site (.voicePoll id)
    tell site (.voiceAdvance id voiceSamples)
  else pure ()
  let (f, q) := l.queue.pop
  modify (·.modifyLchan id ({ · with queue := q, pendingRelInd := none }))
  match l.pendingRelInd with
  | some msg => tell site (.releaseIndication id msg)
  | none => pure ()
  pure f

/-- TCH-RTS.ind: the radio asks for a voice frame. -/
def tchRtsInd (trx : UInt8) (r : TchRts) : Act σ φ Unit := do
  let _ ← needCarrier trx
  match (← get).bts.findActive? trx r.chanNr with
  | some (id, l) =>
    let f ← voiceBlock site id l
    down site trx (voiceRequest r f)
  | none => down site trx (voiceRequest r none)

end BaseStation.Bridge
