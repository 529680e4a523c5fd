import BaseStation.Bridge.Basic
import BaseStation.Proofs.Machine.Frame
import BaseStation.Proofs.Machine.Lchan

/-!
The handlers of the access point on the machine: each index, slice and sum is taken by an operation
that can stop it, and the results go on from there. The parties, the radio and the records of the
base station are those of the access point itself.
-/

namespace BaseStation.Machine

open Bridge (Site World Refusal Input PacketRequest)

variable {σ φ α : Type}

/-- A step that always ends well unless the machine stops. -/
abbrev Step (σ φ : Type) := ExceptT Panic (Bridge.Step σ φ)

/-- A step that can be refused. -/
abbrev Act (σ φ : Type) := ExceptT Refusal (Step σ φ)

def refuse (r : Refusal) : Act σ φ α := throw r

/-! ### Look-up -/

/-- The channel that a channel number names on a carrier, with its address. -/
def find (b : Bts) (trx chanNr : UInt8) : Checked (Option (LchanId × Lchan)) :=
  match b.carrier? trx with
  | some c =>
    match ChanAddr.decode chanNr with
    | .ok a => do
      let slot ← slotAt c a.tn
      pure (slot.lchans[a.lchanIndex]?.map fun l => (⟨trx, a.tn, a.lchanIndex.toUInt8⟩, l))
    | .error _ => pure none
  | none => pure none

def findActive (b : Bts) (trx chanNr : UInt8) : Checked (Option (LchanId × Lchan)) := do
  let p ← find b trx chanNr
  pure (p.filter (·.2.isActive))

def needCarrier (trx : UInt8) : Act σ φ Carrier := do
  match (← get).bts.carrier? trx with
  | some c => pure c
  | none => refuse (.noSuchTrx trx)

def needLchan (trx chanNr : UInt8) : Act σ φ (LchanId × Lchan) := do
  let p ← find (← get).bts trx chanNr
  match p with
  | some p => pure p
  | none => refuse (.noLchan chanNr)

/-- Changes the timeslot at a place of a carrier. -/
def changeSlot (trx tn : UInt8) (f : Timeslot → Timeslot) : Act σ φ Unit := do
  match (← get).bts.carrier? trx with
  | some c => do
    let slot ← slotAt c tn
    modify (·.modifySlot trx tn fun _ => f slot)
  | none => pure ()

variable (site : Site σ φ)

/-! ### Towards the radio -/

/-- Captures a block. -/
def tapData (trx : UInt8) (d : PhData) (uplink : Bool) : Step σ φ Unit := do
  let w ← captureData (← get) site trx d uplink
  set w

/-- Captures an access burst. -/
def tapRach (trx : UInt8) (p : PhRach) : Act σ φ Unit := do
  let w ← captureRach (← get) trx p
  set w

def handDown (trx : UInt8) (p : Prim) : Step σ φ (Except PhyError Unit) := do
  match p with
  | .phDataReq d => tapData site trx d false
  | _ => pure ()
  let r ← Bridge.transmit site trx p
  match r with
  | .error (.unsupported what) => Bridge.tell site (.alarm (Bridge.unsupportedAlarm trx p what))
  | _ => pure ()
  pure r

def down (trx : UInt8) (p : Prim) : Act σ φ Unit := do
  match ← handDown site trx p with
  | .ok () => pure ()
  | .error e => refuse (.phy e)

/-! ### Transmit opportunities -/

def packetRts (trx : UInt8) (arfcn : UInt16) (r : PhRts) : Act σ φ Unit := do
  let p ← findActive (← get).bts trx r.chanNr
  match p.filter (·.2.loopback) with
  | some (id, l) => do
    let (f, q) := Bridge.loopedBlock l.queue r.fn
    modify (·.modifyLchan id ({ · with queue := q }))
    down site trx (.phDataReq (.request r.chanNr r.linkId r.fn f))
  | none => do
    let (ptcch, block) := packetBlock r.fn.toNat
    Bridge.tell site (.packetRts ⟨trx, chanTn r.chanNr, ptcch, r.fn, arfcn, block⟩)

/-- The block of a SACCH: the header, and the body that fills the rest of the block. -/
def sacchBlock (id : LchanId) (l : Lchan) : Step σ φ Frame := do
  let header := Frame.empty.append [l.msPower, l.rqdTa]
  let body ← minus blockLength Bridge.sacchHeaderLength
  match ← Bridge.ask site (.dequeue id .acch) with
  | some f => do
    let block ← putPadded header (f.octets.drop Bridge.sacchHeaderLength) body
    pure (block.setL1Length Bridge.sacchHeaderLength)
  | none => do
    let (b, fill) ← nextFill l.fill
    modify (·.modifyLchan id ({ · with fill := fill }))
    let part ← slice (b.getD .fill).octets 0 body
    pure ((header.append part).setL1Length Bridge.sacchHeaderLength)

def mainBlock (kind : ChanKind) (chanNr : UInt8) (id : LchanId) (l : Lchan) :
    Step σ φ (Frame × Option CipherRequest) := do
  match ← Bridge.ask site (.dequeue id .dcch) with
  | some f => do
    let block ← putPadded .empty f.octets blockLength
    let (l', request) ← checkDownlink l chanNr f.octets
    modify (·.modifyLchan id fun _ => l')
    match l.dtx with
    | some h => if site.settings.dtxDl then Bridge.tell site (.dtxFacch h) else pure ()
    | none => pure ()
    pure (block, request)
  | none =>
    if !kind.isTraffic || l.mode == .signalling then pure (.ofBlock .fill, none)
    else pure (.empty, none)

def dedicatedBlock (trx : UInt8) (kind : ChanKind) (r : PhRts) :
    Step σ φ (Frame × Option CipherRequest) := do
  match ← findActive (← get).bts trx r.chanNr with
  | some (id, l) =>
    if isSacchLink r.linkId then do
      let f ← sacchBlock site id l
      pure (f, none)
    else mainBlock site kind r.chanNr id l
  | none => pure (.empty, none)

def isAgchFrame (fn : UInt32) : Checked Bool := do
  match ← ccchBlock? fn.toNat with
  | some b => pure (b < site.settings.numAgch.toNat)
  | none => pure false

def circuitBlock (trx : UInt8) (kind : ChanKind) (r : PhRts) :
    Step σ φ (Frame × Option CipherRequest) := do
  let time := GsmTime.ofFrame r.fn.toNat
  match kind with
  | .bcch => do
    let b ← Bridge.ask site (.bcchBlock time)
    pure (.ofBlock (b.getD .fill), none)
  | .pchAgch => do
    let agch ← isAgchFrame site r.fn
    let b ← Bridge.ask site (.ccchBlock time agch)
    pure (.ofBlock (b.getD .fill), none)
  | .rach | .pdch => pure (.empty, none)
  | kind => dedicatedBlock site trx kind r

def circuitRts (trx : UInt8) (kind : ChanKind) (r : PhRts) : Act σ φ Unit := do
  let (f, request) ← circuitBlock site trx kind r
  match request with
  | some c => do
    let _ ← handDown site trx (.mphInfoReq (.cipherReq c))
  | none => pure ()
  down site trx (.phDataReq (.request r.chanNr r.linkId r.fn f))

/-- The radio asks for a block. The machine is stopped if it asks for one of a channel that does
not exist. -/
def rtsInd (trx : UInt8) (r : PhRts) : Act σ φ Unit := do
  match ChanAddr.decode r.chanNr with
  | .error e => throwThe Panic (.raised (Bridge.Breach.undecodable trx e).message)
  | .ok a =>
    match (← get).bts.carrier? trx with
    | none => throwThe Panic (.raised (Bridge.Breach.unknownTrx trx).message)
    | some c => do
      let slot ← slotAt c a.tn
      if slot.isPdch then packetRts site trx c.arfcn r
      else circuitRts site trx a.kind r

def voiceBlock (id : LchanId) (l : Lchan) : Step σ φ (Option VoiceFrame) := do
  if !l.loopback && l.hasRtp then
    Bridge.tell site (.voicePoll id)
    Bridge.tell site (.voiceAdvance id voiceSamples)
  else pure ()
  let (f, q) := l.queue.pop
  modify (·.modifyLchan id ({ · with queue := q, pendingRelInd := none }))
  match l.pendingRelInd with
  | some msg => Bridge.tell site (.releaseIndication id msg)
  | none => pure ()
  pure f

def tchRtsInd (trx : UInt8) (r : TchRts) : Act σ φ Unit := do
  let _ ← needCarrier trx
  match ← findActive (← get).bts trx r.chanNr with
  | some (id, l) => do
    let f ← voiceBlock site id l
    down site trx (Bridge.voiceRequest r f)
  | none => down site trx (Bridge.voiceRequest r none)

/-! ### Uplink -/

def packetDataInd (trx : UInt8) (arfcn : UInt16) (d : PhData) : Act σ φ Unit := do
  let p ← find (← get).bts trx d.chanNr
  match p.filter (·.2.loopback) with
  | some (id, l) => do
    let (q, _) ← push l.queue (.looped d.frame.octets)
    modify (·.modifyLchan id ({ · with queue := q }))
  | none =>
    if d.frame.isEmpty then refuse .badFrame
    else
      let (ptcch, block) := packetBlock d.fn.toNat
      if !ptcch && d.presence != .both then pure ()
      else
        Bridge.tell site (.packetData ⟨trx, chanTn d.chanNr, ptcch, d.fn, arfcn, block,
          d.frame.octets, d.rssi, d.ber10k, d.taOffset, d.linkQuality⟩)

def superviseLink (id : LchanId) (bad : Bool) : Step σ φ Unit := do
  match (← get).bts.lchan? id with
  | some l => do
    let (l', cause) ← onSacchFrame l site.settings.radioLinkTimeout bad
    modify (·.modifyLchan id fun _ => l')
    match cause with
    | some c => Bridge.tell site (.connectionFailure id c)
    | none => pure ()
  | none => pure ()

def deliver (trx : UInt8) (id : LchanId) (d : PhData) : Step σ φ Unit := do
  match (← get).bts.lchan? id with
  | some l => do
    let body ← l2 d.frame
    let (l', request) ← checkUplink l d.chanNr body
    modify (·.modifyLchan id fun _ => l')
    match request with
    | some c => do
      let _ ← handDown site trx (.mphInfoReq (.cipherReq c))
    | none => pure ()
  | none => pure ()
  let f ← pullL1 d.frame
  Bridge.tell site (.dataUp id (.ofId d.linkId) { d with frame := f })

def sacchDataInd (trx : UInt8) (id : LchanId) (d : PhData) : Act σ φ Unit := do
  superviseLink site id false
  let length ← l2Length d.frame
  if length < Bridge.sacchHeaderLength then refuse (.sacchTooShort length)
  else
    let f := d.frame.setL1Length Bridge.sacchHeaderLength
    let header ← l1 f
    Bridge.takeL1Header site id d.rssi header
    deliver site trx id { d with frame := f }

def circuitDataInd (trx : UInt8) (d : PhData) : Act σ φ Unit := do
  match ← findActive (← get).bts trx d.chanNr with
  | some (id, l) =>
    if d.frame.isEmpty then do
      if isSacchLink d.linkId then superviseLink site id true else pure ()
      refuse .badFrame
    else do
      Bridge.completeHandover site id l
      if isSacchLink d.linkId then sacchDataInd site trx id d else deliver site trx id d
  | none => pure ()

/-- A block was received; its frame is logged. -/
def dataInd (trx : UInt8) (d : PhData) : Act σ φ Unit := do
  let _ ← text d.frame
  let c ← needCarrier trx
  let slot ← slotAt c (chanTn d.chanNr)
  if slot.isPdch then packetDataInd site trx c.arfcn d
  else circuitDataInd site trx d

/-- The octets of a voice frame behind its layer 1 header. -/
def voicePayload : Option Frame → Checked (List UInt8)
  | some f => do
    let f ← pullL1 f
    pure f.octets
  | none => pure []

/-- Keeps a voice frame for the downlink in loopback, else the frame number it was received in. -/
def keepVoice (id : LchanId) (l : Lchan) (fn : UInt32) (payload : List UInt8) : Act σ φ Unit :=
  if l.loopback then do
    let (q, _) ← push l.queue (.looped payload)
    modify (·.modifyLchan id ({ · with queue := q }))
  else modify (·.modifyLchan id ({ · with txMarker := false, lastFn := some fn }))

def tchInd (trx : UInt8) (t : TchData) : Act σ φ Unit := do
  let _ ← needCarrier trx
  match ← findActive (← get).bts trx t.chanNr with
  | some (id, l) => do
    let payload ← voicePayload t.frame
    if l.hasRtp then do
      let duration ← voiceDuration t.fn l.lastFn site.settings.dtxUl
      Bridge.tell site (.voiceUp id ⟨payload, duration, l.txMarker⟩)
    else pure ()
    keepVoice id l t.fn payload
  | none => pure ()

def measInd (trx : UInt8) (m : Measured) : Act σ φ Unit := do
  let _ ← needCarrier trx
  match ← findActive (← get).bts trx m.chanNr with
  | some (id, l) =>
    if l.type = .pdtch then pure ()
    else do
      let added ← addMeasured l.meas m
      let meas ← Bridge.ask site (.measure id added m.fn)
      modify (·.modifyLchan id ({ · with meas := meas }))
  | none => pure ()

/-- The counters of the load of the random access channel. -/
inductive Counter where
  | total
  | busy
  | access

def Counter.get : Counter → RachLoad → Nat
  | total, r => r.total
  | busy, r => r.busy
  | access, r => r.access

def Counter.set : Counter → RachLoad → Nat → RachLoad
  | total, r, n => { r with total := n }
  | busy, r, n => { r with busy := n }
  | access, r, n => { r with access := n }

/-- Adds slots to a counter, which is a word of 64 bits. -/
def count (c : Counter) (slots : Nat) : Act σ φ Unit := do
  let sum ← unsigned 64 (c.get (← get).bts.rach + slots)
  modify (·.modifyBts fun b => { b with rach := c.set b.rach sum })

/-- The number of time indications that were missed, for the log. -/
def missedIndications (elapsed : Int) : Checked Int :=
  if 1 < elapsed then signed 32 (elapsed - 1) else pure 0

def timeInd (trx : UInt8) (fn : UInt32) : Act σ φ Unit := do
  if trx ≠ 0 then refuse (.timeFromSecondaryTrx trx)
  else do
    let elapsed ← fnDiff fn.toNat (← get).bts.time.frame
    let _ ← missedIndications elapsed
    modify (·.modifyBts fun b => { b with time := .ofFrame fn.toNat })
    Bridge.tell site (.packetTime fn)
    let slots ← expiredSlots site.settings.ccchConf fn.toNat
    let passed ← unsigned 64 (slots * toUnsigned 64 (max elapsed 0))
    count .total passed

/-! ### Access bursts -/

def countBusy (p : PhRach) : Act σ φ Unit :=
  if isRachNumber p.chanNr && isBusy p.rssi then count .busy 1 else pure ()

/-- Stores the delay of an access burst with the channel it came in on. -/
def storeDelay (p : PhRach) : Option (LchanId × Lchan) → Act σ φ Unit
  | some (id, l) => do
    let meas ← setOffset l.meas p.delay.toNat false
    modify (·.modifyLchan id ({ · with meas := meas }))
  | none => pure ()

def handoverAccess (p : PhRach) : Option LchanId → Act σ φ Unit
  | some id => do
    let taken ← Bridge.ask site (.handoverAccess id p.ra p.delay)
    if taken then modify (·.modifyLchan id ({ · with handover := .waitFrame })) else pure ()
  | none => refuse (.noLchan p.chanNr)

def rachInd (trx : UInt8) (p : PhRach) : Act σ φ Unit := do
  countBusy p
  match p.route trx site.settings.maxTa with
  | .discard => pure ()
  | route => do
    let _ ← needCarrier trx
    let found ← find (← get).bts trx p.chanNr
    storeDelay p found
    match route with
    | .discard => pure ()
    | .handover => handoverAccess site p (found.map (·.1))
    | .pcu => do
      count .access 1
      Bridge.tell site (.packetAccess p.packetAccess)
    | .linkLayer => do
      count .access 1
      Bridge.tell site (.accessUp (Bridge.commonLchan trx)
        ⟨p.chanNr, p.ra, p.delay, p.fn, p.elevenBit, p.burst⟩)

/-! ### Channel control -/

def activateCnf (trx : UInt8) (c : ActConfirm) : Act σ φ Unit := do
  let k ← needCarrier trx
  let (id, l) ← needLchan trx c.chanNr
  let ok := c.cause == 0
  modify (·.modifyLchan id ({ · with state := if ok then .active else .none }))
  let slot ← slotAt k (chanTn c.chanNr)
  let switched := (Bridge.afterActivation slot l.type ok).2
  changeSlot trx (chanTn c.chanNr) fun t => (Bridge.afterActivation t l.type ok).1
  Bridge.tell site (.activationDone id c.cause)
  if switched then Bridge.tell site (.switchDone trx (chanTn c.chanNr) ok) else pure ()

def deactivateCnf (trx : UInt8) (c : ActConfirm) : Act σ φ Unit := do
  let k ← needCarrier trx
  let (id, l) ← needLchan trx c.chanNr
  if l.sacchDeact && l.state != .relRequested then pure ()
  else do
    modify (·.modifyLchan id Lchan.resetAfterRelease)
    let slot ← slotAt k (chanTn c.chanNr)
    let switched := (Bridge.afterRelease slot).2
    changeSlot trx (chanTn c.chanNr) fun t => (Bridge.afterRelease t).1
    Bridge.tell site (.releaseDone id)
    if switched then do
      let r ← Bridge.disconnect site trx (chanTn c.chanNr)
      Bridge.tell site (.switchDone trx (chanTn c.chanNr) r.toBool)
    else pure ()

def cipherCnf (trx : UInt8) (c : CipherConfirm) : Act σ φ Unit := do
  let _ ← needCarrier trx
  let (id, _) ← needLchan trx c.chanNr
  modify (·.modifyLchan id fun l => (l.confirmCipher c).1)

/-- Asks the radio to activate a channel. -/
def activate (trx chanNr : UInt8) (id : LchanId) (type : LchanType) : Act σ φ Unit := do
  match ← handDown site trx (.mphInfoReq (.activateReq (Bridge.actRequest chanNr false))) with
  | .error _ => refuse (.chanAct .equipmentFailure)
  | .ok () =>
    if site.settings.dtxDl && type != .sdcch then do
      let h ← Bridge.ask site (.dtxAlloc id)
      modify (·.modifyLchan id ({ · with dtx := some h }))
    else pure ()

def chanAct (trx chanNr : UInt8) (tsc : Option UInt8) : Act σ φ Unit := do
  match ChanAddr.decode chanNr with
  | .error e => refuse (.chanNr e)
  | .ok a =>
    match Bridge.checkTsc tsc site.settings.tsc with
    | .error cause => refuse (.chanAct cause)
    | .ok () => do
      let k ← needCarrier trx
      let slot ← slotAt k a.tn
      let type := LchanType.forActivation a.kind (slot.isPdch || slot.flags.actPending)
      let (id, l) ← needLchan trx chanNr
      modify (·.modifyLchan id ({ · with
        sacchDeact := false
        s := site.settings.radioLinkTimeout
        state := .actRequested
        type := type }))
      Bridge.freeDtx site id l
      if type ≠ .pdtch then
        match ← timers? site.settings.t200 a.kind with
        | some t => Bridge.tell site (.setT200 id t)
        | none => pure ()
      else pure ()
      activate site trx chanNr id type

def chanRel (trx chanNr : UInt8) : Act σ φ Unit := do
  let _ ← needCarrier trx
  let (id, l) ← needLchan trx chanNr
  modify (·.modifyLchan id ({ · with state := .relRequested }))
  Bridge.freeDtx site id l
  down site trx (.mphInfoReq (.deactivateReq (Bridge.actRequest chanNr false)))

def chanDeactSacch (trx chanNr : UInt8) : Act σ φ Unit := do
  let _ ← needCarrier trx
  let (id, _) ← needLchan trx chanNr
  modify (·.modifyLchan id ({ · with sacchDeact := true }))
  down site trx (.mphInfoReq (.deactivateReq (Bridge.actRequest chanNr true)))

def chanModify (trx chanNr : UInt8) : Act σ φ Unit :=
  down site trx (.mphInfoReq (.modifyReq (Bridge.actRequest chanNr false)))

def pdchSwitch (trx tn : UInt8) (toPdch : Bool) : Act σ φ Unit := do
  let _ ← needCarrier trx
  match ((← get).bts.slot? trx tn).bind (·.beginSwitch? toPdch) with
  | none => refuse (.pdchSwitchRefused trx tn)
  | some t => do
    modify (·.modifySlot trx tn fun _ => t)
    let chanNr := ChanKind.base .tchF ||| tn
    tryCatch (if toPdch then chanAct site trx chanNr none else chanRel site trx chanNr) fun e => do
      changeSlot trx tn fun t => { t with flags := t.flags.settle }
      throw e

/-! ### Inputs -/

def unknownUp (trx : UInt8) (p : Prim) : Act σ φ Unit := do
  Bridge.tell site (.alarm ⟨.unknownUp, some trx, none, some ("unknown L1SAP up primitive " ++
    toString p.type.code.toNat ++ " op " ++ toString p.op.code.toNat)⟩)
  refuse (.unknownPrimitive p.type.code p.op.code)

def up (trx : UInt8) (p : Prim) : Act σ φ Unit :=
  match p with
  | .mphInfoInd (.time fn) => timeInd site trx fn
  | .mphInfoInd (.measured m) => measInd site trx m
  | .mphInfoCnf (.activateCnf c) => activateCnf site trx c
  | .mphInfoCnf (.deactivateCnf c) => deactivateCnf site trx c
  | .mphInfoCnf (.cipherCnf c) => cipherCnf trx c
  | .mphInfoInd _ | .mphInfoCnf _ => pure ()
  | .phRtsInd r => rtsInd site trx r
  | .tchRtsInd r => tchRtsInd site trx r
  | .phDataInd d => do
    tapData site trx d true
    dataInd site trx d
  | .tchInd t => tchInd site trx t
  | .phRachInd r => do
    tapRach trx r
    rachInd site trx r
  | .phDataReq _ | .tchReq _ | .mphInfoReq _ => unknownUp site trx p

def packetReq (r : PacketRequest) : Act σ φ Unit :=
  down site r.trx
    (.phDataReq (.request (ChanKind.base .tchF ||| r.tn) 0 r.fn (.ofL2 r.data)))

def voiceRx (id : LchanId) (f : VoiceFrame) : Act σ φ Unit := do
  match (← get).bts.lchan? id with
  | some l =>
    if l.loopback then pure ()
    else do
      let (q, _) ← push l.queue f
      modify (·.modifyLchan id ({ · with queue := q }))
  | none => pure ()

def perform : Input → Act σ φ Unit
  | .up trx p => up site trx p
  | .down trx p => down site trx p
  | .chanAct trx chanNr tsc => chanAct site trx chanNr tsc
  | .chanRel trx chanNr => chanRel site trx chanNr
  | .chanDeactSacch trx chanNr => chanDeactSacch site trx chanNr
  | .chanModify trx chanNr => chanModify site trx chanNr
  | .pdchSwitch trx tn toPdch => pdchSwitch site trx tn toPdch
  | .packetReq r => packetReq site r
  | .voiceRx id f => voiceRx id f

/-- The result and the state after an input, or why the machine stops, with the state it stops
in. -/
def step (input : Input) (w : World σ φ) : Except Panic (Except Refusal Unit) × World σ φ :=
  perform site input w

end BaseStation.Machine
