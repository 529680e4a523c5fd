import BaseStation.Services.Call

/-!
Parties that have nothing to send and take everything they are told. They count the calls that an
upper layer would act on.
-/

namespace BaseStation

/-- The last handle given out, and the calls counted. -/
structure QuietServices where
  lastHandle : UInt32
  numCalls : Nat
deriving DecidableEq

def Call.isCounted : Call → Bool
  | dataUp .. | accessUp .. | packetData .. | packetAccess .. | activationDone .. | releaseDone ..
  | connectionFailure .. => true
  | _ => false

namespace QuietServices

def fresh : QuietServices := ⟨0, 0⟩

def count (c : Call) (s : QuietServices) : QuietServices :=
  if c.isCounted then { s with numCalls := s.numCalls + 1 } else s

/-- The answer to a call: nothing to send, no handover, no change of power. -/
def answer : (c : Call) → QuietServices → c.Answer × QuietServices
  | .dequeue .., s => (none, s)
  | .handoverAccess .., s => (false, s)
  | .measure _ m _, s => (m, s)
  | .powerControl .., s => (none, s)
  | .dtxAlloc _, s => (⟨s.lastHandle + 1⟩, { s with lastHandle := s.lastHandle + 1 })
  | .bcchBlock _, s => (none, s)
  | .ccchBlock .., s => (none, s)
  | .dataUp l k d, s => ((), s.count (.dataUp l k d))
  | .accessUp l r, s => ((), s.count (.accessUp l r))
  | .packetData d, s => ((), s.count (.packetData d))
  | .packetAccess a, s => ((), s.count (.packetAccess a))
  | .activationDone l c, s => ((), s.count (.activationDone l c))
  | .releaseDone l, s => ((), s.count (.releaseDone l))
  | .connectionFailure l c, s => ((), s.count (.connectionFailure l c))
  | .setT200 .., s | .packetRts _, s | .packetTime _, s | .switchDone .., s
  | .releaseIndication .., s | .handoverFrame _, s | .alarm _, s | .voicePoll _, s
  | .voiceAdvance .., s | .voiceUp .., s | .dtxFree _, s | .dtxFacch _, s => ((), s)

def services : Services QuietServices := ⟨answer⟩

end QuietServices
end BaseStation
