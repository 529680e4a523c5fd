import BaseStation.Time

/-!
The time that an uplink voice frame stands for.
-/

namespace BaseStation

/-- An uplink voice frame for the transport; the duration is the advance of the timestamp since
the previous frame, in samples at 8 kHz. -/
structure VoiceUplink where
  payload : List UInt8
  duration : UInt32
  marker : Bool
deriving DecidableEq

/-- Samples of one voice frame. -/
def voiceSamples : UInt32 := 160

/-- Frames from `b` to `a`, none if `b` comes later. -/
def framesElapsed (a b : UInt32) : UInt32 := (frameDiff a.toNat b.toNat).toNat.toUInt32

/-- The duration of the voice frame received in frame `fn`. Where the mobile station may leave
frames out, the radio frames since the last voice frame count, at 12 voice frames in 52 of them
and rounded to whole voice frames. -/
def voiceDuration (fn : UInt32) (last : Option UInt32) (dtx : Bool) : UInt32 :=
  match last with
  | some last =>
    if dtx then
      let r := framesElapsed fn last * 12 * voiceSamples / (13 * 4) + voiceSamples / 2
      r - r % voiceSamples
    else voiceSamples
  | none => voiceSamples

end BaseStation
