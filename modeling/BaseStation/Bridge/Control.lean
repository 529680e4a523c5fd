import BaseStation.Bridge.State
import BaseStation.Lchan.Ciphering

/-!
Channel control: what RSL asks for, and what the radio confirms.
-/

namespace BaseStation.Bridge

variable {σ φ : Type} (site : Site σ φ)

/-! ### Confirms -/

/-- The mode that a dynamic timeslot takes with a channel of the given type. -/
def dynamicMode : LchanType → Pchan
  | .pdtch => .pdch
  | .tchH => .tchH
  | _ => .tchF

/-- The timeslot after an activation of one of its channels was confirmed, and whether a switch
into packet mode ends with it. -/
def afterActivation (t : Timeslot) (type : LchanType) (ok : Bool) : Timeslot × Bool :=
  let t := if ok && t.pchan == .tchFTchHPdch then { t with dynPchan := dynamicMode type } else t
  if t.pchan == .tchFPdch && t.flags.actPending then
    ({ t with flags := { t.flags with actPending := false, active := t.flags.active || ok } }, true)
  else (t, false)

def activateCnf (trx : UInt8) (c : ActConfirm) : Act σ φ Unit := do
  let k ← needCarrier trx
  let (id, l) ← needLchan trx c.chanNr
  let ok := c.cause == 0
  modify (·.modifyLchan id ({ · with state := if ok then .active else .none }))
  let switched := (afterActivation (k.slotOf c.chanNr) l.type ok).2
  modify (·.modifySlot trx (chanTn c.chanNr) fun t => (afterActivation t l.type ok).1)
  tell site (.activationDone id c.cause)
  if switched then tell site (.switchDone trx (chanTn c.chanNr) ok) else pure ()

/-- The timeslot after a release of one of its channels was confirmed, and whether a switch out of
packet mode ends with it. -/
def afterRelease (t : Timeslot) : Timeslot × Bool :=
  let t :=
    if t.pchan == .tchFTchHPdch && t.lchans.all (·.state == .none) then { t with dynPchan := .none }
    else t
  if t.pchan == .tchFPdch && t.flags.deactPending then
    ({ t with flags := { t.flags.settle with active := false } }, true)
  else (t, false)

/-- The radio confirms a deactivation. That of a SACCH alone leaves the channel as it is. -/
def deactivateCnf (trx : UInt8) (c : ActConfirm) : Act σ φ Unit := do
  let k ← needCarrier trx
  let (id, l) ← needLchan trx c.chanNr
  if l.sacchDeact && l.state != .relRequested then pure ()
  else
    modify (·.modifyLchan id Lchan.resetAfterRelease)
    let switched := (afterRelease (k.slotOf c.chanNr)).2
    modify (·.modifySlot trx (chanTn c.chanNr) fun t => (afterRelease t).1)
    tell site (.releaseDone id)
    if switched then
      let r ← disconnect site trx (chanTn c.chanNr)
      tell site (.switchDone trx (chanTn c.chanNr) r.toBool)
    else pure ()

def cipherCnf (trx : UInt8) (c : CipherConfirm) : Act σ φ Unit := do
  let _ ← needCarrier trx
  let (id, _) ← needLchan trx c.chanNr
  modify (·.modifyLchan id fun l => (l.confirmCipher c).1)

/-! ### Requests -/

/-- The training sequence asked for, if any, has to be that of the cell. -/
def checkTsc (tsc : Option UInt8) (cellTsc : UInt8) : Except RslCause Unit :=
  match tsc with
  | some t => if t ≠ cellTsc then .error .serviceUnimplemented else .ok ()
  | none => .ok ()

/-- A request for a channel number, a packet data number written as a traffic channel. -/
def actRequest (chanNr : UInt8) (sacchOnly : Bool) : ActRequest := ⟨pdchAsTchF chanNr, sacchOnly⟩

/-- Gives back the controller of discontinuous transmission that a channel holds. -/
def freeDtx (id : LchanId) (l : Lchan) : Step σ φ Unit := do
  modify (·.modifyLchan id ({ · with dtx := none }))
  match l.dtx with
  | some h => tell site (.dtxFree h)
  | none => pure ()

def chanAct (trx chanNr : UInt8) (tsc : Option UInt8) : Act σ φ Unit := do
  match ChanAddr.decode chanNr with
  | .error e => refuse (.chanNr e)
  | .ok a =>
    match checkTsc tsc site.settings.tsc with
    | .error cause => refuse (.chanAct cause)
    | .ok () =>
      let k ← needCarrier trx
      let slot := k.slotOf chanNr
      let type := LchanType.forActivation a.kind (slot.isPdch || slot.flags.actPending)
      let (id, l) ← needLchan trx chanNr
      modify (·.modifyLchan id ({ · with
        sacchDeact := false
        s := site.settings.radioLinkTimeout
        state := .actRequested
        type := type }))
      freeDtx site id l
      match site.settings.t200.forKind? a.kind with
      | some t => if type ≠ .pdtch then tell site (.setT200 id t) else pure ()
      | none => pure ()
      match ← handDown site trx (.mphInfoReq (.activateReq (actRequest chanNr false))) with
      | .error _ => refuse (.chanAct .equipmentFailure)
      | .ok () =>
        if site.settings.dtxDl && type != .sdcch then
          let h ← ask site (.dtxAlloc id)
          modify (·.modifyLchan id ({ · with dtx := some h }))
        else pure ()

def chanRel (trx chanNr : UInt8) : Act σ φ Unit := do
  let _ ← needCarrier trx
  let (id, l) ← needLchan trx chanNr
  modify (·.modifyLchan id ({ · with state := .relRequested }))
  freeDtx site id l
  down site trx (.mphInfoReq (.deactivateReq (actRequest chanNr false)))

/-- Stops the SACCH of a channel, whose main channel stays up. -/
def chanDeactSacch (trx chanNr : UInt8) : Act σ φ Unit := do
  let _ ← needCarrier trx
  let (id, _) ← needLchan trx chanNr
  modify (·.modifyLchan id ({ · with sacchDeact := true }))
  down site trx (.mphInfoReq (.deactivateReq (actRequest chanNr true)))

def chanModify (trx chanNr : UInt8) : Act σ φ Unit :=
  down site trx (.mphInfoReq (.modifyReq (actRequest chanNr false)))

/-- Starts the switch of a timeslot into or out of packet mode. The confirm of the radio ends
it. -/
def pdchSwitch (trx tn : UInt8) (toPdch : Bool) : Act σ φ Unit := do
  let _ ← needCarrier trx
  match ((← get).bts.slot? trx tn).bind (·.beginSwitch? toPdch) with
  | none => refuse (.pdchSwitchRefused trx tn)
  | some t =>
    modify (·.modifySlot trx tn fun _ => t)
    let chanNr := ChanKind.base .tchF ||| tn
    tryCatch (if toPdch then chanAct site trx chanNr none else chanRel site trx chanNr) fun e => do
      modify (·.modifySlot trx tn fun t => { t with flags := t.flags.settle })
      throw e

end BaseStation.Bridge
