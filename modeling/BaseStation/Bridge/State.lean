import BaseStation.Bts
import BaseStation.Capture
import BaseStation.Phy.Link
import BaseStation.Services.Call

/-!
The layer 1 access point: what it is set up with, the state it runs on, what can go wrong, and the
steps from which its handlers are made. Each call on a party and each order to the radio leaves an
event in the trace; what was captured is kept apart from it.
-/

namespace BaseStation.Bridge

/-! ### Set-up -/

/-- The parameters of the configuration that the handlers use. -/
structure Settings where
  tsc : UInt8
  maxTa : UInt8
  radioLinkTimeout : Int
  t200 : T200Table
  dtxDl : Bool
  dtxUl : Bool
  numAgch : UInt8
  ccchConf : CcchConf
deriving DecidableEq

def Settings.ofConfig (c : Config) : Settings where
  tsc := c.cell.tsc
  maxTa := c.cell.maxTa
  radioLinkTimeout := c.cell.radioLinkTimeout
  t200 := c.cell.t200
  dtxDl := c.cell.dtxDl
  dtxUl := c.cell.dtxUl
  numAgch := c.cell.numAgch
  ccchConf := c.cell.ccchConf

/-- The settings with the parties above and the radio below. -/
structure Site (σ φ : Type) where
  settings : Settings
  services : Services σ
  phy : PhyLink φ

/-! ### Failures -/

inductive Refusal where
  | unknownPrimitive (type op : UInt8)
  | noSuchTrx (trx : UInt8)
  | chanNr (e : ChanNrError)
  | noLchan (chanNr : UInt8)
  | timeFromSecondaryTrx (trx : UInt8)
  | badFrame
  | sacchTooShort (length : Nat)
  /-- The channel is not activated, for the given cause. -/
  | chanAct (cause : RslCause)
  | pdchSwitchRefused (trx tn : UInt8)
  | phy (e : PhyError)
deriving DecidableEq

def Refusal.message : Refusal → String
  | unknownPrimitive type op =>
    "unknown primitive type " ++ toString type.toNat ++ " op " ++ toString op.toNat
  | noSuchTrx trx => "no such trx " ++ toString trx.toNat
  | chanNr e => e.message
  | noLchan number => "no lchan for chan_nr 0x" ++ Text.octet number
  | timeFromSecondaryTrx trx => "time indication from secondary trx " ++ toString trx.toNat
  | badFrame => "bad frame"
  | sacchTooShort length => "SACCH frame too short (" ++ toString length ++ " bytes)"
  | chanAct cause => "channel activation failed: " ++ cause.text
  | pdchSwitchRefused trx tn =>
    "trx " ++ toString trx.toNat ++ " ts " ++ toString tn.toNat ++ " cannot switch PDCH mode now"
  | phy e => e.message

/-- How the radio can break its contract: it asks for a block of a channel that does not exist. -/
inductive Breach where
  | undecodable (trx : UInt8) (e : ChanNrError)
  | unknownTrx (trx : UInt8)
deriving DecidableEq

def Breach.message : Breach → String
  | undecodable trx e => "PH-RTS.ind from trx " ++ toString trx.toNat ++ " with " ++ e.message
  | unknownTrx trx => "PH-RTS.ind for unknown trx " ++ toString trx.toNat

/-- How a handler can end other than well. After a breach the access point cannot go on. -/
inductive Failure where
  | refused (r : Refusal)
  | breach (b : Breach)
deriving DecidableEq

/-! ### State -/

/-- What the access point did. -/
inductive Event where
  /-- A call on one of the parties, with its answer. -/
  | call (c : Call) (answer : c.Answer)
  /-- A primitive handed to the radio of a carrier, with the answer. -/
  | down (trx : UInt8) (prim : Prim) (result : Except PhyError Unit)
  /-- A timeslot torn down by the radio, with the answer. -/
  | disconnect (trx tn : UInt8) (result : Except PhyError Unit)

/-- Where captured records go. -/
inductive Tap where
  | off
  /-- Records are received. -/
  | received
  /-- The receiver is gone, and records are lost. -/
  | gone
deriving DecidableEq, Repr

/-- Everything a step can read and change. -/
structure World (σ φ : Type) where
  bts : Bts
  services : σ
  phy : φ
  filter : Capture.Filter
  tap : Tap
  trace : List Event
  records : List Capture.Record

/-- A base station that was just set up: nothing was done, and capture is off. -/
def World.fresh {σ φ : Type} (c : Config) (filter : Capture.Filter) (services : σ) (phy : φ) :
    World σ φ :=
  ⟨.ofConfig c, services, phy, filter, .off, [], []⟩

def World.note {σ φ : Type} (w : World σ φ) (e : Event) : World σ φ :=
  { w with trace := w.trace ++ [e] }

variable {σ φ : Type}

def World.modifyBts (w : World σ φ) (f : Bts → Bts) : World σ φ := { w with bts := f w.bts }

def World.modifyLchan (w : World σ φ) (id : LchanId) (f : Lchan → Lchan) : World σ φ :=
  w.modifyBts (·.modifyLchan id f)

def World.modifySlot (w : World σ φ) (trx tn : UInt8) (f : Timeslot → Timeslot) : World σ φ :=
  w.modifyBts (·.modifySlot trx tn f)

/-- A step that always ends well. -/
abbrev Step (σ φ : Type) := StateM (World σ φ)

/-- A step that can fail; what it did before stays done. -/
abbrev Act (σ φ : Type) := ExceptT Failure (Step σ φ)

/-! ### Steps -/

def refuse {α : Type} (r : Refusal) : Act σ φ α := throw (.refused r)

def needCarrier (trx : UInt8) : Act σ φ Carrier := do
  match (← get).bts.carrier? trx with
  | some c => pure c
  | none => refuse (.noSuchTrx trx)

/-- The logical channel of a channel number, which has to exist. -/
def needLchan (trx chanNr : UInt8) : Act σ φ (LchanId × Lchan) := do
  match (← get).bts.find? trx chanNr with
  | some p => pure p
  | none => refuse (.noLchan chanNr)

def ask (site : Site σ φ) (c : Call) : Step σ φ c.Answer := fun w =>
  let (a, s) := site.services.answer c w.services
  (a, { w with services := s }.note (.call c a))

/-- Calls one of the parties and does without the answer. -/
def tell (site : Site σ φ) (c : Call) : Step σ φ Unit := do
  let _ ← ask site c

/-! ### Capture -/

/-- A record is received: the tap is open, and the filter selects it. -/
def World.keeps (w : World σ φ) (r : Capture.Record) : Bool :=
  w.tap == .received && w.filter.passes r.category

def World.capture (w : World σ φ) (r : Capture.Record) : World σ φ :=
  if w.keeps r then { w with records := w.records ++ [r] } else w

def World.captureData (w : World σ φ) (site : Site σ φ) (trx : UInt8) (d : PhData)
    (uplink : Bool) : World σ φ :=
  match w.bts.carrier? trx with
  | some c =>
    match Capture.dataRecord? d c.arfcn (c.slotOf d.chanNr).isPdch site.settings.numAgch.toNat
        uplink with
    | some r => w.capture r
    | none => w
  | none => w

def World.captureRach (w : World σ φ) (trx : UInt8) (p : PhRach) : World σ φ :=
  match w.bts.carrier? trx with
  | some c => w.capture (Capture.rachRecord p c.arfcn)
  | none => w

/-! ### Towards the radio -/

/-- The report on a primitive that the radio does not handle. -/
def unsupportedAlarm (trx : UInt8) (p : Prim) (what : String) : Alarm :=
  ⟨.unknownDown, some trx, none, some ("unknown L1SAP down primitive " ++
    toString p.type.code.toNat ++ " op " ++ toString p.op.code.toNat ++ ": " ++ what)⟩

/-- The radio of a carrier gets a primitive. -/
def transmit (site : Site σ φ) (trx : UInt8) (p : Prim) : Step σ φ (Except PhyError Unit) :=
  fun w =>
    let (r, phy) := site.phy.down trx p w.phy
    (r, { w with phy := phy }.note (.down trx p r))

/-- Hands a primitive to the radio of a carrier, data captured on the way; a primitive that the
radio does not handle is reported. -/
def handDown (site : Site σ φ) (trx : UInt8) (p : Prim) : Step σ φ (Except PhyError Unit) := do
  match p with
  | .phDataReq d => modify (·.captureData site trx d false)
  | _ => pure ()
  let r ← transmit site trx p
  match r with
  | .error (.unsupported what) => tell site (.alarm (unsupportedAlarm trx p what))
  | _ => pure ()
  pure r

/-- Hands a primitive to the radio of a carrier, which has to take it. -/
def down (site : Site σ φ) (trx : UInt8) (p : Prim) : Act σ φ Unit := do
  match ← handDown site trx p with
  | .ok () => pure ()
  | .error e => refuse (.phy e)

def disconnect (site : Site σ φ) (trx tn : UInt8) : Step σ φ (Except PhyError Unit) := fun w =>
  let (r, phy) := site.phy.disconnect trx tn w.phy
  (r, { w with phy := phy }.note (.disconnect trx tn r))

end BaseStation.Bridge
