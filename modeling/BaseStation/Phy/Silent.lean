import BaseStation.Phy.Link

/-!
A radio that takes every primitive, drops it and never sends anything up.
-/

namespace BaseStation

/-- The number of primitives dropped. -/
structure SilentPhy where
  dropped : Nat
deriving DecidableEq

namespace SilentPhy

def fresh : SilentPhy := ⟨0⟩

def link : PhyLink SilentPhy where
  down _ _ p := (.ok (), ⟨p.dropped + 1⟩)
  disconnect _ _ p := (.ok (), p)
  indications _ _ := []
  takePending p := ([], p)

end SilentPhy
end BaseStation
