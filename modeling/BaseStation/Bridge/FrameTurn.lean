import BaseStation.Bridge.Basic

/-!
One turn of the frame clock: what the radio sends up in the frame by itself goes up, then the
confirms that this gave rise to.
-/

namespace BaseStation.Bridge

variable {σ φ : Type} (site : Site σ φ)

/-- A primitive that was sent up for a carrier, with what became of it. -/
structure Delivery where
  trx : UInt8
  prim : Prim
  result : Except Failure Unit

def deliverAll : List (UInt8 × Prim) → Step σ φ (List Delivery)
  | [] => pure []
  | (trx, p) :: rest => do
    let r ← (up site trx p).run
    let ds ← deliverAll rest
    pure (⟨trx, p, r⟩ :: ds)

def takePending : Step σ φ (List (UInt8 × Prim)) := fun w =>
  let (ps, phy) := site.phy.takePending w.phy
  (ps, { w with phy := phy })

/-- Sends up what waits in the radio, until nothing does or `n` batches were sent. -/
def drain : Nat → Step σ φ (List Delivery)
  | 0 => pure []
  | n + 1 => do
    let ps ← takePending site
    if ps.isEmpty then pure []
    else
      let ds ← deliverAll site ps
      let es ← drain n
      pure (ds ++ es)

/-- The bound on the batches of a turn. A confirm gives rise to no request, so that the second
batch is empty. -/
def maxBatches : Nat := 2

def frameTurn (fn : UInt32) : Step σ φ (List Delivery) := do
  let ds ← deliverAll site (site.phy.indications fn (← get).phy)
  let es ← drain site maxBatches
  pure (ds ++ es)

end BaseStation.Bridge
