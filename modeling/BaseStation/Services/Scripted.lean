import BaseStation.Services.Call

/-!
Parties that answer as they were told to: blocks queued for each link, fixed broadcast blocks and
fixed decisions.
-/

namespace BaseStation

structure ScriptedServices where
  /-- Blocks to transmit, oldest first. -/
  blocks : List (LchanId × Link × Frame)
  bcch : Option MacBlock
  ccch : Option MacBlock
  acceptHandover : Bool
  msPower : Option UInt8
  lastHandle : UInt32
deriving DecidableEq

namespace ScriptedServices

def fresh : ScriptedServices := ⟨[], none, none, false, none, 0⟩

def enqueue (s : ScriptedServices) (lchan : LchanId) (link : Link) (f : Frame) :
    ScriptedServices :=
  { s with blocks := s.blocks ++ [(lchan, link, f)] }

/-- The oldest block queued for a link, and the parties without it. -/
def dequeue (s : ScriptedServices) (lchan : LchanId) (link : Link) :
    Option Frame × ScriptedServices :=
  let here (b : LchanId × Link × Frame) : Bool := b.1 == lchan && b.2.1 == link
  ((s.blocks.find? here).map (·.2.2), { s with blocks := s.blocks.eraseP here })

def answer : (c : Call) → ScriptedServices → c.Answer × ScriptedServices
  | .dequeue lchan link, s => s.dequeue lchan link
  | .handoverAccess .., s => (s.acceptHandover, s)
  | .measure _ m _, s => (m, s)
  | .powerControl .., s => (s.msPower, s)
  | .dtxAlloc _, s => (⟨s.lastHandle + 1⟩, { s with lastHandle := s.lastHandle + 1 })
  | .bcchBlock _, s => (s.bcch, s)
  | .ccchBlock .., s => (s.ccch, s)
  | .dataUp .., s | .accessUp .., s | .setT200 .., s | .packetRts _, s | .packetData _, s
  | .packetAccess _, s | .packetTime _, s | .activationDone .., s | .releaseDone _, s
  | .connectionFailure .., s | .switchDone .., s | .releaseIndication .., s | .handoverFrame _, s
  | .alarm _, s | .voicePoll _, s | .voiceAdvance .., s | .voiceUp .., s | .dtxFree _, s
  | .dtxFacch _, s => ((), s)

def services : Services ScriptedServices := ⟨answer⟩

end ScriptedServices
end BaseStation
