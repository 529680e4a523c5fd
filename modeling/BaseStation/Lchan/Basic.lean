import BaseStation.Channel.Number
import BaseStation.Lchan.Measurements
import BaseStation.Lchan.SacchFill
import BaseStation.Lchan.VoiceQueue

/-!
Logical channels and the state that each of them keeps.
-/

namespace BaseStation

inductive LchanState where
  | none
  | actRequested
  | active
  | relRequested
deriving DecidableEq, Repr

inductive LchanType where
  | none
  | sdcch
  | tchF
  | tchH
  | pdtch
  | cbch
  | ccch
deriving DecidableEq, Repr

/-- The type of a channel activated under a number of the given kind. -/
def LchanType.forActivation (kind : ChanKind) (onPdch : Bool) : LchanType :=
  if onPdch then pdtch
  else match kind with
    | .pdch => pdtch
    | .tchF => tchF
    | .tchH => tchH
    | .sdcch4 | .sdcch8 => sdcch
    | .bcch | .rach | .pchAgch => ccch

/-- Channel modes (3GPP TS 48.058, 9.3.6). -/
inductive ChannelMode where
  | signalling
  | speech
  | data
deriving DecidableEq, Repr

/-- How far ciphering has come on a channel. -/
inductive CipherState where
  | none
  /-- The radio was asked to decipher the uplink. -/
  | rxRequested
  /-- The radio deciphers the uplink. -/
  | rxConfirmed
  /-- The radio was asked to cipher the downlink, after the first ciphered uplink frame. -/
  | txEnabled
deriving DecidableEq, Repr

inductive HandoverState where
  | none
  /-- The access burst came in, and the first decodable frame is awaited. -/
  | waitFrame
deriving DecidableEq, Repr

/-- Names a controller of discontinuous transmission on the downlink. -/
structure DtxHandle where
  number : UInt32
deriving DecidableEq

structure Lchan where
  id : LchanId
  type : LchanType
  state : LchanState
  mode : ChannelMode
  cipher : CipherState
  /-- The receive number by which the mobile station acknowledges the ciphering command. -/
  cipherNs : UInt8
  /-- The radio link counter S. -/
  s : Int
  sacchDeact : Bool
  dtx : Option DtxHandle
  meas : Measurements
  msPower : UInt8
  rqdTa : UInt8
  handover : HandoverState
  queue : VoiceQueue
  /-- The frame number of the last uplink voice frame. -/
  lastFn : Option UInt32
  hasRtp : Bool
  /-- The next uplink voice frame leads a talk spurt. -/
  txMarker : Bool
  loopback : Bool
  /-- A release indication held back until the next voice opportunity. -/
  pendingRelInd : Option (List UInt8)
  fill : SacchFill
deriving DecidableEq

namespace Lchan

/-- A channel that was never used. -/
def fresh (id : LchanId) (type : LchanType) : Lchan where
  id := id
  type := type
  state := .none
  mode := .signalling
  cipher := .none
  cipherNs := 0
  s := 0
  sacchDeact := false
  dtx := none
  meas := .empty
  msPower := 0
  rqdTa := 0
  handover := .none
  queue := .withLimit 1
  lastFn := none
  hasRtp := false
  txMarker := false
  loopback := false
  pendingRelInd := none
  fill := .empty

def isActive (l : Lchan) : Bool := l.state == .active

/-- Clears the state of a connection once the radio confirmed the release. -/
def resetAfterRelease (l : Lchan) : Lchan :=
  { l with
    state := .none
    cipher := .none
    cipherNs := 0
    handover := .none
    queue := l.queue.clear
    lastFn := none
    txMarker := false
    meas := .empty }

end Lchan
end BaseStation
