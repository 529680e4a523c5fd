import BaseStation.Channel.Pchan
import BaseStation.LinkLayer

/-!
The configuration of a base station and what makes it valid.
-/

namespace BaseStation

inductive PhyBackend where
  | undefined
  /-- No radio: what goes down is dropped. -/
  | none
  /-- A radio within the program, driven by a frame clock. -/
  | virtual
  | sysmobts
  | osmoTrx
  | octphy
deriving DecidableEq, Repr

namespace PhyBackend

def isHardware : PhyBackend → Bool
  | sysmobts | osmoTrx | octphy => true
  | _ => false

def name : PhyBackend → String
  | undefined => "Undefined"
  | none => "None"
  | virtual => "Virtual"
  | sysmobts => "Sysmobts"
  | osmoTrx => "OsmoTrx"
  | octphy => "Octphy"

def all : List PhyBackend := [undefined, none, virtual, sysmobts, osmoTrx, octphy]

def ofName? (s : String) : Option PhyBackend := all.find? (·.name == s)

end PhyBackend

structure CellConfig where
  /-- The identity code of the base station, whose low bits give the training sequence. -/
  bsic : UInt8
  /-- The largest access delay that is taken, in symbols. -/
  maxTa : UInt8
  /-- The ceiling of the radio link counter; -1 switches supervision off. -/
  radioLinkTimeout : Int
  t200 : T200Table
  dtxDl : Bool
  dtxUl : Bool
  /-- Common control blocks kept for access grants. -/
  numAgch : UInt8
  ccchConf : CcchConf
deriving DecidableEq

def maxTimingAdvance : UInt8 := 63

namespace CellConfig

def default : CellConfig where
  bsic := 0
  maxTa := maxTimingAdvance
  radioLinkTimeout := 32
  t200 := .default
  dtxDl := false
  dtxUl := false
  numAgch := 1
  ccchConf := .one

/-- The training sequence of the cell. -/
def tsc (c : CellConfig) : UInt8 := c.bsic &&& 0x07

end CellConfig

abbrev numSlots : Nat := 8

/-- A carrier: its number and what its timeslots carry. -/
structure CarrierConfig where
  arfcn : UInt16
  slots : Vector Pchan numSlots
deriving DecidableEq

def CarrierConfig.default : CarrierConfig :=
  ⟨0, (Vector.replicate numSlots .tchF).set 0 .ccchSdcch4⟩

structure CaptureConfig where
  enabled : Bool
  host : String
  port : UInt16
  /-- The categories selected, by name. -/
  names : List String
deriving DecidableEq

def CaptureConfig.default : CaptureConfig := ⟨false, "127.0.0.1", 4729, []⟩

/-- The configuration. The first carrier is the primary one. -/
structure Config where
  debugLog : Option String
  cell : CellConfig
  carriers : List CarrierConfig
  capture : CaptureConfig
  backend : PhyBackend
deriving DecidableEq

def Config.default : Config := ⟨none, .default, [.default], .default, .undefined⟩

/-! ### Validity -/

inductive ConfigError where
  | backendUndefined
  | backendUnavailable
  | bsic
  | maxTa
  | radioLinkTimeout
  | numAgch
  | t200
  | noCarrier
  | noCcch
  | ccchConf
  | secondaryCcch
deriving DecidableEq, Repr

def ConfigError.message : ConfigError → String
  | backendUndefined => "phy_link backend must be defined"
  | backendUnavailable => "phy_link backend is not available in this build"
  | bsic => "bsic must be in range 0..=63"
  | maxTa => "max_ta must not exceed 63"
  | radioLinkTimeout => "radio_link_timeout must be -1 (disabled) or in range 4..=64"
  | numAgch => "num_agch must be in range 0..=7"
  | t200 => "t200_ms entries must be non-zero"
  | noCarrier => "at least one trx must be configured"
  | noCcch => "timeslot 0 of trx 0 must carry the CCCH"
  | ccchConf => "ccch_conf must be \"1c\" exactly when timeslot 0 is ccch+sdcch4"
  | secondaryCcch => "only trx 0 may carry a CCCH"

/-- A rule of validity: the error it stands for, unless `ok`. -/
def require (ok : Bool) (e : ConfigError) : Except ConfigError Unit :=
  if ok then .ok () else .error e

def PhyBackend.validate (b : PhyBackend) : Except ConfigError Unit := do
  require (b != .undefined) .backendUndefined
  require (!b.isHardware) .backendUnavailable

def CellConfig.validate (c : CellConfig) : Except ConfigError Unit := do
  require (c.bsic ≤ 63) .bsic
  require (c.maxTa ≤ maxTimingAdvance) .maxTa
  require (c.radioLinkTimeout == -1 || (4 ≤ c.radioLinkTimeout && c.radioLinkTimeout ≤ 64))
    .radioLinkTimeout
  require (c.numAgch ≤ 7) .numAgch
  require (c.t200.toList.all (· != 0)) .t200

/-- The rules on the carriers: the common control channel is on the first timeslot of the first
carrier, laid out as the cell announces it, and on no other carrier. -/
def validateCarriers (conf : CcchConf) : List CarrierConfig → Except ConfigError Unit
  | [] => .error .noCarrier
  | c :: cs => do
    require c.slots[0].hasCcch .noCcch
    require ((c.slots[0] == .ccchSdcch4) == (conf == .oneCombined)) .ccchConf
    require (cs.all fun c => c.slots.toList.all (!·.hasCcch)) .secondaryCcch

/-- Accepts exactly the valid configurations; of several faults the first is named. -/
def Config.validate (c : Config) : Except ConfigError Unit := do
  c.backend.validate
  c.cell.validate
  validateCarriers c.cell.ccchConf c.carriers

end BaseStation
