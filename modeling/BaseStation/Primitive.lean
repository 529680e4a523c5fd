import BaseStation.Frame
import BaseStation.Pdu.AccessCode

/-!
Primitives at the layer 1 service access point (3GPP TS 44.004, clause 7): what the radio sends
up and what is handed down to it.
-/

namespace BaseStation

/-! ### Parameters -/

/-- The halves of an uplink packet block that were decoded. -/
inductive Presence where
  | invalid
  | header
  | first
  | second
  | both
deriving DecidableEq, Repr, Inhabited

/-- A block of data. Signal level, error rate, timing offset in quarter bits and link quality
matter on the uplink only; an undecodable block is an empty frame. -/
structure PhData where
  chanNr : UInt8
  linkId : UInt8
  fn : UInt32
  rssi : Int8
  ber10k : UInt16
  taOffset : Int16
  linkQuality : Int16
  presence : Presence
  frame : Frame
deriving DecidableEq

/-- A block of data to transmit. -/
def PhData.request (chanNr linkId : UInt8) (fn : UInt32) (frame : Frame) : PhData :=
  ⟨chanNr, linkId, fn, 0, 0, 0, 0, .invalid, frame⟩

/-- A transmit opportunity for a block of data. -/
structure PhRts where
  chanNr : UInt8
  linkId : UInt8
  fn : UInt32
deriving DecidableEq

/-- An access burst: the code, the delay in symbols, the training sequence and the level. -/
structure PhRach where
  chanNr : UInt8
  ra : UInt16
  delay : UInt8
  fn : UInt32
  elevenBit : Bool
  burst : BurstType
  rssi : Int8
deriving DecidableEq

/-- A voice frame; the marker leads a talk spurt, and there is no frame on an underrun. -/
structure TchData where
  chanNr : UInt8
  fn : UInt32
  marker : Bool
  frame : Option Frame
deriving DecidableEq

/-- A transmit opportunity for a voice frame. -/
structure TchRts where
  chanNr : UInt8
  fn : UInt32
deriving DecidableEq

/-! ### Channel control, time and measurements -/

/-- The measurement of one uplink burst; the level counts down from 0 dBm. -/
structure Measured where
  chanNr : UInt8
  fn : UInt32
  taOffset : Int16
  ber10k : UInt16
  invRssi : UInt8
deriving DecidableEq

/-- A request to activate, deactivate or modify a channel, or its SACCH alone. -/
structure ActRequest where
  chanNr : UInt8
  sacchOnly : Bool
deriving DecidableEq

/-- The answer to an activation or deactivation; cause 0 is success. -/
structure ActConfirm where
  chanNr : UInt8
  cause : UInt8
deriving DecidableEq

/-- A request to cipher the given directions. -/
structure CipherRequest where
  chanNr : UInt8
  downlink : Bool
  uplink : Bool
deriving DecidableEq

/-- The answer to a ciphering request; cause 0 is success. -/
structure CipherConfirm where
  chanNr : UInt8
  downlink : Bool
  uplink : Bool
  cause : UInt8
deriving DecidableEq

/-- The payload of a management primitive. -/
inductive MphInfo where
  /-- The number of the next frame to be transmitted. -/
  | time (fn : UInt32)
  | measured (m : Measured)
  | activateReq (r : ActRequest)
  | deactivateReq (r : ActRequest)
  | modifyReq (r : ActRequest)
  | cipherReq (r : CipherRequest)
  | activateCnf (c : ActConfirm)
  | deactivateCnf (c : ActConfirm)
  | cipherCnf (c : CipherConfirm)
deriving DecidableEq

/-- Kinds of management payload. -/
inductive MphKind where
  | time
  | meas
  | activate
  | deactivate
  | modify
  | actCiph
deriving DecidableEq, Repr

namespace MphKind

def code : MphKind → UInt8
  | time => 0
  | meas => 1
  | activate => 2
  | deactivate => 3
  | modify => 4
  | actCiph => 5

def name : MphKind → String
  | time => "Time"
  | meas => "Meas"
  | activate => "Activate"
  | deactivate => "Deactivate"
  | modify => "Modify"
  | actCiph => "ActCiph"

end MphKind

def MphInfo.kind : MphInfo → MphKind
  | time _ => .time
  | measured _ => .meas
  | activateReq _ | activateCnf _ => .activate
  | deactivateReq _ | deactivateCnf _ => .deactivate
  | modifyReq _ => .modify
  | cipherReq _ | cipherCnf _ => .actCiph

/-! ### Primitives -/

/-- One primitive. The first seven come up from the radio, the last three go down to it. -/
inductive Prim where
  | phRtsInd (p : PhRts)
  | phDataInd (p : PhData)
  | phRachInd (p : PhRach)
  | tchRtsInd (p : TchRts)
  | tchInd (p : TchData)
  | mphInfoInd (i : MphInfo)
  | mphInfoCnf (i : MphInfo)
  | phDataReq (p : PhData)
  | tchReq (p : TchData)
  | mphInfoReq (i : MphInfo)
deriving DecidableEq

/-- Primitive types, the first half of the tag. -/
inductive PrimType where
  | phData
  | phRach
  | phConn
  | phEmpty
  | phRts
  | mphInfo
  | tch
  | tchRts
deriving DecidableEq, Repr

def PrimType.code : PrimType → UInt8
  | phData => 0
  | phRach => 1
  | phConn => 2
  | phEmpty => 3
  | phRts => 4
  | mphInfo => 5
  | tch => 6
  | tchRts => 7

/-- Primitive operations, the second half of the tag. -/
inductive PrimOp where
  | request
  | response
  | indication
  | confirm
deriving DecidableEq, Repr

def PrimOp.code : PrimOp → UInt8
  | request => 0
  | response => 1
  | indication => 2
  | confirm => 3

namespace Prim

def type : Prim → PrimType
  | phRtsInd _ => .phRts
  | phDataInd _ | phDataReq _ => .phData
  | phRachInd _ => .phRach
  | tchRtsInd _ => .tchRts
  | tchInd _ | tchReq _ => .tch
  | mphInfoInd _ | mphInfoCnf _ | mphInfoReq _ => .mphInfo

def op : Prim → PrimOp
  | phRtsInd _ | phDataInd _ | phRachInd _ | tchRtsInd _ | tchInd _ | mphInfoInd _ => .indication
  | mphInfoCnf _ => .confirm
  | phDataReq _ | tchReq _ | mphInfoReq _ => .request

/-- The primitive comes up from the radio. -/
def isUpward (p : Prim) : Bool := p.op == .indication || p.op == .confirm

private def numberText (chanNr : UInt8) : String := " chan_nr=0x" ++ Text.octet chanNr

private def linkText (chanNr linkId : UInt8) : String :=
  numberText chanNr ++ " link_id=0x" ++ Text.octet linkId

private def dataText (p : PhData) : String :=
  linkText p.chanNr p.linkId ++ " len=" ++ toString p.frame.length

def text : Prim → String
  | phRtsInd p => "PH-RTS.ind" ++ linkText p.chanNr p.linkId
  | phDataInd p => "PH-DATA.ind" ++ dataText p
  | phRachInd p => "PH-RACH.ind" ++ numberText p.chanNr ++ " ra=0x" ++ Text.hex 2 p.ra.toNat
  | tchRtsInd p => "TCH-RTS.ind" ++ numberText p.chanNr
  | tchInd p => "TCH.ind" ++ numberText p.chanNr
  | mphInfoInd i => "MPH-INFO.ind " ++ i.kind.name
  | mphInfoCnf i => "MPH-INFO.cnf " ++ i.kind.name
  | phDataReq p => "PH-DATA.req" ++ dataText p
  | tchReq p => "TCH.req" ++ numberText p.chanNr
  | mphInfoReq i => "MPH-INFO.req " ++ i.kind.name

end Prim
end BaseStation
