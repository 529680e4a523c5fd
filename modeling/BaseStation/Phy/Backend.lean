import BaseStation.Phy.Scripted
import BaseStation.Phy.Silent
import BaseStation.Phy.Virtual

/-!
The radios of this library as one type, and the radio that a configuration selects.
-/

namespace BaseStation

inductive Phy where
  | silent (p : SilentPhy)
  | virtual (p : VirtualPhy)
  | scripted (p : ScriptedPhy)
deriving DecidableEq

namespace Phy

/-- The radio of a configuration; there is none for an undefined or a hardware backend. -/
def ofConfig (c : Config) : Except PhyError Phy :=
  match c.backend with
  | .none => .ok (.silent .fresh)
  | .virtual => .ok (.virtual (.ofConfig c))
  | b => .error (.unsupported ("backend " ++ b.name))

/-- Lets the radio at hand act. -/
def act {α : Type} (f : (φ : Type) → PhyLink φ → φ → α × φ) : Phy → α × Phy
  | silent p => (f _ SilentPhy.link p).map id silent
  | virtual p => (f _ VirtualPhy.link p).map id virtual
  | scripted p => (f _ ScriptedPhy.link p).map id scripted

def link : PhyLink Phy where
  down trx prim := act fun _ l => l.down trx prim
  disconnect trx tn := act fun _ l => l.disconnect trx tn
  indications fn p := (p.act fun _ l r => (l.indications fn r, r)).1
  takePending := act fun _ l => l.takePending

end Phy
end BaseStation
