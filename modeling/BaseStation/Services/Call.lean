import BaseStation.Access
import BaseStation.Alarm
import BaseStation.Cause
import BaseStation.LinkLayer
import BaseStation.Lchan.Basic
import BaseStation.Lchan.Voice

/-!
The parties above the layer 1 access point, as their user sees them: the calls made on them and
the answers that each call has.
-/

namespace BaseStation

/-! ### Packet control -/

/-- A transmit opportunity of a packet channel. -/
structure PacketRts where
  trx : UInt8
  tn : UInt8
  ptcch : Bool
  fn : UInt32
  arfcn : UInt16
  block : UInt8
deriving DecidableEq

/-- A block received on a packet channel. -/
structure PacketData where
  trx : UInt8
  tn : UInt8
  ptcch : Bool
  fn : UInt32
  arfcn : UInt16
  block : UInt8
  data : List UInt8
  rssi : Int8
  ber10k : UInt16
  taOffset : Int16
  linkQuality : Int16
deriving DecidableEq

/-! ### Calls -/

/-- A call on one of the parties. -/
inductive Call where
  /-- Link layer: the next block to transmit. -/
  | dequeue (lchan : LchanId) (link : Link)
  /-- Link layer: a block received. -/
  | dataUp (lchan : LchanId) (link : Link) (data : PhData)
  /-- Link layer: an ordinary access burst. -/
  | accessUp (lchan : LchanId) (request : ChannelRequest)
  /-- Link layer: the timers of a channel. -/
  | setT200 (lchan : LchanId) (t200 : T200Set)
  /-- Packet control: a transmit opportunity. -/
  | packetRts (rts : PacketRts)
  /-- Packet control: a block received. -/
  | packetData (data : PacketData)
  /-- Packet control: an access burst. -/
  | packetAccess (access : PacketAccess)
  /-- Packet control: the frame number. -/
  | packetTime (fn : UInt32)
  /-- RSL: a channel was activated, or was not if the cause is not 0. -/
  | activationDone (lchan : LchanId) (cause : UInt8)
  /-- RSL: a channel was released. -/
  | releaseDone (lchan : LchanId)
  /-- RSL: the radio link of a channel failed. -/
  | connectionFailure (lchan : LchanId) (cause : RslCause)
  /-- RSL: a timeslot was switched into or out of packet mode, or could not be. -/
  | switchDone (trx tn : UInt8) (ok : Bool)
  /-- RSL: a release indication that was held back. -/
  | releaseIndication (lchan : LchanId) (msg : List UInt8)
  /-- Handover: an access burst on a dedicated channel; the answer tells whether it is taken. -/
  | handoverAccess (lchan : LchanId) (ra : UInt16) (delay : UInt8)
  /-- Handover: the first frame after an access burst that was taken. -/
  | handoverFrame (lchan : LchanId)
  /-- Operation and maintenance: a failure. -/
  | alarm (report : Alarm)
  /-- Voice: a frame may be fetched. -/
  | voicePoll (lchan : LchanId)
  /-- Voice: the receive timestamp moves on. -/
  | voiceAdvance (lchan : LchanId) (samples : UInt32)
  /-- Voice: a frame received. -/
  | voiceUp (lchan : LchanId) (frame : VoiceUplink)
  /-- Measurement: the period ends if this frame ends it; the answer is what goes on. -/
  | measure (lchan : LchanId) (meas : Measurements) (fn : UInt32)
  /-- Measurement: the power level reported; the answer is the one to command, if it changes. -/
  | powerControl (lchan : LchanId) (msPower : UInt8) (rssi : Int8)
  /-- Discontinuous transmission: a new controller. -/
  | dtxAlloc (lchan : LchanId)
  /-- Discontinuous transmission: a controller is given back. -/
  | dtxFree (handle : DtxHandle)
  /-- Discontinuous transmission: a signalling block is about to be sent. -/
  | dtxFacch (handle : DtxHandle)
  /-- Broadcast: the system information block of a time. -/
  | bcchBlock (time : GsmTime)
  /-- Broadcast: the paging or access grant block of a time. -/
  | ccchBlock (time : GsmTime) (agch : Bool)
deriving DecidableEq

/-- The answers of a call. -/
@[reducible] def Call.Answer : Call → Type
  | dequeue .. => Option Frame
  | handoverAccess .. => Bool
  | measure .. => Measurements
  | powerControl .. => Option UInt8
  | dtxAlloc .. => DtxHandle
  | bcchBlock .. | ccchBlock .. => Option MacBlock
  | _ => Unit

/-- The parties above, with states of type `σ`. -/
structure Services (σ : Type) where
  answer : (c : Call) → σ → c.Answer × σ

end BaseStation
