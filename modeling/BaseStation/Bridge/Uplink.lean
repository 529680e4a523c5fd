import BaseStation.Bridge.Downlink
import BaseStation.Lchan.RadioLink

/-!
What comes in from mobile stations: blocks of data, voice frames, measurements and access bursts,
and the time that the radio keeps.
-/

namespace BaseStation.Bridge

variable {σ φ : Type} (site : Site σ φ)

/-! ### Blocks of data -/

/-- A block on a timeslot in packet mode. A channel in loopback keeps it for the downlink; else
the packet control unit gets it if all of it was decoded. -/
def packetDataInd (trx : UInt8) (arfcn : UInt16) (d : PhData) : Act σ φ Unit := do
  match ((← get).bts.find? trx d.chanNr).filter (·.2.loopback) with
  | some (id, l) =>
    modify (·.modifyLchan id ({ · with queue := (l.queue.push (.looped d.frame.octets)).1 }))
  | none =>
    if d.frame.isEmpty then refuse .badFrame
    else
      let (ptcch, block) := packetBlock d.fn.toNat
      if !ptcch && d.presence != .both then pure ()
      else
        tell site (.packetData ⟨trx, chanTn d.chanNr, ptcch, d.fn, arfcn, block, d.frame.octets,
          d.rssi, d.ber10k, d.taOffset, d.linkQuality⟩)

/-- Counts a SACCH frame for the supervision of the radio link. -/
def superviseLink (id : LchanId) (bad : Bool) : Step σ φ Unit := do
  match (← get).bts.lchan? id with
  | some l =>
    let (l', cause) := l.onSacchFrame site.settings.radioLinkTimeout bad
    modify (·.modifyLchan id fun _ => l')
    match cause with
    | some c => tell site (.connectionFailure id c)
    | none => pure ()
  | none => pure ()

/-- The first decodable frame ends a handover. -/
def completeHandover (id : LchanId) (l : Lchan) : Step σ φ Unit := do
  if l.handover = .waitFrame then
    tell site (.handoverFrame id)
    modify (·.modifyLchan id ({ · with handover := .none }))
  else pure ()

/-- Takes the layer 1 header of a SACCH frame: it is stored, and power control is told the level
it reports. -/
def takeL1Header (id : LchanId) (rssi : Int8) (header : List UInt8) : Step σ φ Unit := do
  match (← get).bts.lchan? id with
  | some l =>
    let (meas, power) := l.meas.storeL1Header header
    modify (·.modifyLchan id ({ · with meas := meas }))
    match power with
    | some p =>
      match ← ask site (.powerControl id p rssi) with
      | some level => modify (·.modifyLchan id ({ · with msPower := level }))
      | none => pure ()
    | none => pure ()
  | none => pure ()

/-- A frame for the link layer; one that acknowledges the ciphering command starts ciphering of
the downlink. -/
def deliver (trx : UInt8) (id : LchanId) (d : PhData) : Step σ φ Unit := do
  match (← get).bts.lchan? id with
  | some l =>
    let (l', request) := l.checkUplink d.chanNr d.frame.l2
    modify (·.modifyLchan id fun _ => l')
    match request with
    | some c =>
      let _ ← handDown site trx (.mphInfoReq (.cipherReq c))
    | none => pure ()
  | none => pure ()
  tell site (.dataUp id (.ofId d.linkId) { d with frame := d.frame.dropL1 })

def sacchDataInd (trx : UInt8) (id : LchanId) (d : PhData) : Act σ φ Unit := do
  superviseLink site id false
  if d.frame.l2Length < sacchHeaderLength then refuse (.sacchTooShort d.frame.l2Length)
  else
    let f := d.frame.setL1Length sacchHeaderLength
    takeL1Header site id d.rssi f.l1
    deliver site trx id { d with frame := f }

def circuitDataInd (trx : UInt8) (d : PhData) : Act σ φ Unit := do
  match (← get).bts.findActive? trx d.chanNr with
  | some (id, l) =>
    if d.frame.isEmpty then
      if isSacchLink d.linkId then superviseLink site id true else pure ()
      refuse .badFrame
    else
      completeHandover site id l
      if isSacchLink d.linkId then sacchDataInd site trx id d else deliver site trx id d
  | none => pure ()

/-- PH-DATA.ind: a block was received. -/
def dataInd (trx : UInt8) (d : PhData) : Act σ φ Unit := do
  let c ← needCarrier trx
  if (c.slotOf d.chanNr).isPdch then packetDataInd site trx c.arfcn d
  else circuitDataInd site trx d

/-! ### Voice -/

/-- TCH.ind: a voice frame was received. In loopback it is kept for the downlink. -/
def tchInd (trx : UInt8) (t : TchData) : Act σ φ Unit := do
  let _ ← needCarrier trx
  match (← get).bts.findActive? trx t.chanNr with
  | some (id, l) =>
    let payload := (t.frame.map Frame.l2).getD []
    if l.hasRtp then
      tell site
        (.voiceUp id ⟨payload, voiceDuration t.fn l.lastFn site.settings.dtxUl, l.txMarker⟩)
    else pure ()
    if l.loopback then
      modify (·.modifyLchan id ({ · with queue := (l.queue.push (.looped payload)).1 }))
    else modify (·.modifyLchan id ({ · with txMarker := false, lastFn := some t.fn }))
  | none => pure ()

/-! ### Measurements and time -/

/-- A measurement of an active channel. The packet control unit measures packet channels
itself. -/
def measInd (trx : UInt8) (m : Measured) : Act σ φ Unit := do
  let _ ← needCarrier trx
  match (← get).bts.findActive? trx m.chanNr with
  | some (id, l) =>
    if l.type = .pdtch then pure ()
    else
      let meas ← ask site (.measure id (l.meas.add m) m.fn)
      modify (·.modifyLchan id ({ · with meas := meas }))
  | none => pure ()

/-- The time, which only the primary carrier keeps. The slots for access bursts that passed since
the last indication are counted as those of the indicated frame. -/
def timeInd (trx : UInt8) (fn : UInt32) : Act σ φ Unit := do
  if trx ≠ 0 then refuse (.timeFromSecondaryTrx trx)
  else
    let b := (← get).bts
    let elapsed := (frameDiff fn.toNat b.time.frame).toNat
    let slots := expiredSlots site.settings.ccchConf fn.toNat * elapsed
    modify (·.modifyBts fun b => { b with time := .ofFrame fn.toNat })
    tell site (.packetTime fn)
    modify (·.modifyBts fun b => { b with rach := { b.rach with total := b.rach.total + slots } })

/-! ### Access bursts -/

def World.countAccess (w : World σ φ) : World σ φ :=
  w.modifyBts fun b => { b with rach := { b.rach with access := b.rach.access + 1 } }

def World.countBusy (w : World σ φ) (p : PhRach) : World σ φ :=
  if isRachNumber p.chanNr && isBusy p.rssi then
    w.modifyBts fun b => { b with rach := { b.rach with busy := b.rach.busy + 1 } }
  else w

/-- Stores the delay of an access burst with the channel. -/
def World.storeDelay (w : World σ φ) (id : LchanId) (p : PhRach) : World σ φ :=
  w.modifyLchan id fun l => { l with meas := l.meas.setAccessOffset p.delay.toNat }

/-- The channel whose link entity takes the channel requests of a carrier. -/
def commonLchan (trx : UInt8) : LchanId := ⟨trx, 0, ChanAddr.commonIndex.toUInt8⟩

/-- A handover access burst on a dedicated channel. -/
def handoverAccess (p : PhRach) : Option LchanId → Act σ φ Unit
  | some id => do
    let taken ← ask site (.handoverAccess id p.ra p.delay)
    if taken then modify (·.modifyLchan id ({ · with handover := .waitFrame })) else pure ()
  | none => refuse (.noLchan p.chanNr)

/-- PH-RACH.ind: an access burst was received. -/
def rachInd (trx : UInt8) (p : PhRach) : Act σ φ Unit := do
  modify (·.countBusy p)
  match p.route trx site.settings.maxTa with
  | .discard => pure ()
  | route =>
    let _ ← needCarrier trx
    let id := (← get).bts.locate? trx p.chanNr
    match id with
    | some id => modify (·.storeDelay id p)
    | none => pure ()
    match route with
    | .discard => pure ()
    | .handover => handoverAccess site p id
    | .pcu =>
      modify (·.countAccess)
      tell site (.packetAccess p.packetAccess)
    | .linkLayer =>
      modify (·.countAccess)
      tell site (.accessUp (commonLchan trx) ⟨p.chanNr, p.ra, p.delay, p.fn, p.elevenBit, p.burst⟩)

end BaseStation.Bridge
