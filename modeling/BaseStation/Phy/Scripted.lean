import BaseStation.Phy.Link

/-!
A radio that takes or refuses everything as it was told to.
-/

namespace BaseStation

/-- What the radio does with primitives. -/
inductive PhyMode where
  | accept
  | unsupported
  | notConnected
  | io
deriving DecidableEq, Repr

/-- The answer to a primitive. -/
def PhyMode.answer (p : Prim) : PhyMode → Except PhyError Unit
  | accept => .ok ()
  | unsupported => .error (.unsupported p.text)
  | notConnected => .error .notConnected
  | io => .error (.io "link down")

structure ScriptedPhy where
  mode : PhyMode
  /-- Orders to tear down a timeslot fail. -/
  failDisconnect : Bool
deriving DecidableEq

namespace ScriptedPhy

/-- A radio that takes everything. -/
def accepting : ScriptedPhy := ⟨.accept, false⟩

def link : PhyLink ScriptedPhy where
  down _ p r := (r.mode.answer p, r)
  disconnect _ _ r := (if r.failDisconnect then .error .notConnected else .ok (), r)
  indications _ _ := []
  takePending r := ([], r)

end ScriptedPhy
end BaseStation
