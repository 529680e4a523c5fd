import BaseStation.Primitive

/-!
The radio below the layer 1 access point, as its user sees it: it takes primitives and may
refuse them.
-/

namespace BaseStation

/-- Why the radio refuses. -/
inductive PhyError where
  /-- It does not handle the named primitive. -/
  | unsupported (what : String)
  | notConnected
  | io (what : String)
deriving DecidableEq

def PhyError.message : PhyError → String
  | unsupported what => "unsupported primitive: " ++ what
  | notConnected => "phy link not connected"
  | io what => "phy link i/o error: " ++ what

/-- A radio with states of type `φ`: what it does with a primitive for a carrier and with the
order to tear down the physical channel of a timeslot, what it sends up in a frame by its own
clock, and what waits to be sent up, each primitive with its carrier. -/
structure PhyLink (φ : Type) where
  down : UInt8 → Prim → φ → Except PhyError Unit × φ
  disconnect : UInt8 → UInt8 → φ → Except PhyError Unit × φ
  indications : UInt32 → φ → List (UInt8 × Prim)
  takePending : φ → List (UInt8 × Prim) × φ

end BaseStation
