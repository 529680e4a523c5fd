import BaseStation.Proofs.Bridge.Answers

/-!
Capture cannot be noticed. A step looks at the base station and at the answers that it gets, never
at the tap, the filter or the records, so two runs that differ in these alone do the same: the tap
may be opened, closed or lost and the filter changed between any two moves.
-/

namespace BaseStation.Bridge

variable {σ φ α : Type} {site : Site σ φ} {w w' : World σ φ}

/-! ### Steps -/

/-- The state without what belongs to capture. -/
def World.uncaptured (w : World σ φ) : World σ φ :=
  { w with filter := .empty, tap := .off, records := [] }

/-- Two states that capture apart are the same have the same base station, parties, radio and
trace. -/
theorem World.uncaptured_inj : w.uncaptured = w'.uncaptured ↔
    w.bts = w'.bts ∧ w.services = w'.services ∧ w.phy = w'.phy ∧ w.trace = w'.trace := by
  obtain ⟨b, s, p, f, t, es, rs⟩ := w
  obtain ⟨b', s', p', f', t', es', rs'⟩ := w'
  simp [uncaptured]

/-- From states that are the same apart from capture a composed step has the same result, and
leaves states that are. -/
theorem Composed.blind {m : Step σ φ α} (h : Composed site m)
    (same : w.uncaptured = w'.uncaptured) :
    (m w).1 = (m w').1 ∧ (m w).2.uncaptured = (m w').2.uncaptured := by
  induction h generalizing w w' with
  | done a => exact ⟨rfl, same⟩
  | @bind α β m k hm hk ihm ihk =>
    obtain ⟨result, after⟩ := ihm same
    have next := ihk (m w).1 after
    rw [result] at next
    have started : (m >>= k) w = k (m w').1 (m w).2 := congrArg (k · (m w).2) result
    rw [started]
    exact next
  | @look α k hk seen ih =>
    -- a step that looks at the state sees only what capture leaves alone
    have started : k w = k w' := seen w w' (World.uncaptured_inj.mp same).1
    have next := ih w same
    change (k w w).1 = (k w' w').1 ∧ (k w w).2.uncaptured = (k w' w').2.uncaptured
    rw [← started]
    exact next
  | @write f data =>
    -- what is written changes the data by a function of the data
    obtain ⟨g, data⟩ := data
    obtain ⟨rs, changed, -⟩ := data w
    obtain ⟨rs', changed', -⟩ := data w'
    refine ⟨rfl, ?_⟩
    change (f w).uncaptured = (f w').uncaptured
    obtain ⟨bts, services, phy, trace⟩ := World.uncaptured_inj.mp same
    rw [changed, changed']
    exact World.uncaptured_inj.mpr ⟨congrArg g bts, services, phy, trace⟩
  | ask c =>
    obtain ⟨bts, services, phy, trace⟩ := World.uncaptured_inj.mp same
    unfold Bridge.ask
    rw [services]
    exact ⟨rfl, World.uncaptured_inj.mpr ⟨bts, rfl, phy, congrArg (· ++ _) trace⟩⟩
  | transmit trx p =>
    obtain ⟨bts, services, phy, trace⟩ := World.uncaptured_inj.mp same
    unfold Bridge.transmit
    rw [phy]
    exact ⟨rfl, World.uncaptured_inj.mpr ⟨bts, services, rfl, congrArg (· ++ _) trace⟩⟩
  | disconnect trx tn =>
    obtain ⟨bts, services, phy, trace⟩ := World.uncaptured_inj.mp same
    unfold Bridge.disconnect
    rw [phy]
    exact ⟨rfl, World.uncaptured_inj.mpr ⟨bts, services, rfl, congrArg (· ++ _) trace⟩⟩

/-- While nobody receives records, none are kept, and the tap stays as it is. -/
theorem Composed.unrecorded {m : Step σ φ α} (h : Composed site m) (closed : w.tap ≠ .received) :
    (m w).2.records = w.records ∧ (m w).2.tap = w.tap := by
  induction h generalizing w with
  | done a => exact ⟨rfl, rfl⟩
  | @bind α β m k hm hk ihm ihk =>
    obtain ⟨records, tap⟩ := ihm closed
    obtain ⟨records', tap'⟩ := ihk (m w).1 (tap ▸ closed)
    exact ⟨records'.trans records, tap'.trans tap⟩
  | look hk seen ih => exact ih w closed
  | @write f data =>
    obtain ⟨g, data⟩ := data
    obtain ⟨rs, changed, unkept⟩ := data w
    change (f w).records = w.records ∧ (f w).tap = w.tap
    rw [changed]
    exact ⟨unkept closed, rfl⟩
  | ask | transmit | disconnect => exact ⟨rfl, rfl⟩

/-! ### Moves -/

theorem uncaptured_takeTurn (site : Site σ φ) (m : Move) (same : w.uncaptured = w'.uncaptured) :
    (takeTurn site m w).1 = (takeTurn site m w').1 ∧
      (takeTurn site m w).2.uncaptured = (takeTurn site m w').2.uncaptured := by
  cases m with
  | input i o => exact (perform_composed i).blind same
  | write id x =>
    obtain ⟨bts, others⟩ := World.uncaptured_inj.mp same
    exact ⟨rfl, World.uncaptured_inj.mpr ⟨congrArg (·.modifyLchan id x.apply) bts, others⟩⟩

theorem unrecorded_takeTurn (site : Site σ φ) (m : Move) (closed : w.tap ≠ .received) :
    (takeTurn site m w).2.records = w.records ∧ (takeTurn site m w).2.tap = w.tap := by
  cases m with
  | input i o =>
    have composed : Composed site (perform site i) := perform_composed i
    exact composed.unrecorded closed
  | write id x => exact ⟨rfl, rfl⟩

/-- A turn does not show what is captured. -/
theorem turnOf_congr (m : Move) (same : w.uncaptured = w'.uncaptured) :
    turnOf site w m = turnOf site w' m := by
  obtain ⟨result, after⟩ := uncaptured_takeTurn site m same
  obtain ⟨bts, -, -, trace⟩ := World.uncaptured_inj.mp same
  obtain ⟨bts', -, -, trace'⟩ := World.uncaptured_inj.mp after
  simp only [turnOf, bts, result, trace, bts', trace']

/-! ### Runs -/

/-- A move, and how capture is set before it: the filter, and the tap with its receiver. -/
structure TappedMove where
  filter : Capture.Filter
  tap : Tap
  move : Move

def World.withTap (w : World σ φ) (t : TappedMove) : World σ φ :=
  { w with filter := t.filter, tap := t.tap }

/-- A run in which capture is set anew before each move. -/
def tappedRun (site : Site σ φ) (w : World σ φ) (ts : List TappedMove) : World σ φ :=
  ts.foldl (fun w t => (takeTurn site t.move (w.withTap t)).2) w

def tappedHistory (site : Site σ φ) (w : World σ φ) : List TappedMove → List Turn
  | [] => []
  | t :: ts =>
    turnOf site (w.withTap t) t.move ::
      tappedHistory site (takeTurn site t.move (w.withTap t)).2 ts

theorem tapped_agrees (site : Site σ φ) (ts : List TappedMove)
    (same : w.uncaptured = w'.uncaptured) :
    tappedHistory site w ts = history site w' (ts.map (·.move)) ∧
      (tappedRun site w ts).uncaptured = (run site w' (ts.map (·.move))).uncaptured := by
  induction ts generalizing w w' with
  | nil => exact ⟨rfl, same⟩
  | cons t ts ih =>
    have tapped : (w.withTap t).uncaptured = w'.uncaptured := same
    obtain ⟨later, last⟩ := ih (uncaptured_takeTurn site t.move tapped).2
    refine ⟨?_, last⟩
    rw [tappedHistory, List.map_cons, history, turnOf_congr t.move tapped, later]

theorem unrecorded_run (ms : List Move) (closed : w.tap ≠ .received) :
    (run site w ms).records = w.records := by
  induction ms generalizing w with
  | nil => rfl
  | cons m ms ih =>
    obtain ⟨records, tap⟩ := unrecorded_takeTurn site m closed
    exact (ih (tap ▸ closed)).trans records

/-- A run without a tap captures nothing, and the same run with a tap, set in any way before each
move, does the same turn by turn: the results, the data model, the orders to the radio with their
frames and the calls on the parties are equal. The states that the two runs leave differ in what
belongs to capture alone. -/
theorem capture_invisible (site : Site σ φ) (c : Config) (filter : Capture.Filter) (services : σ)
    (phy : φ) (ts : List TappedMove) :
    let w : World σ φ := .fresh c filter services phy
    tappedHistory site w ts = history site w (ts.map (·.move)) ∧
      (tappedRun site w ts).uncaptured = (run site w (ts.map (·.move))).uncaptured ∧
      (run site w (ts.map (·.move))).records = [] := by
  intro w
  have same : w.uncaptured = w.uncaptured := rfl
  obtain ⟨turns, last⟩ := tapped_agrees site ts same
  exact ⟨turns, last, unrecorded_run (ts.map (·.move)) (show Tap.off ≠ .received by decide)⟩

/-- A tap that is open for all but associated control channels at first, and lost later on. -/
def tappedMoves : List TappedMove := [
  ⟨⟨0xffff, false⟩, .received, .up 0 (.phRtsInd ⟨0x80, 0, 2⟩)⟩,
  ⟨⟨0xffff, true⟩, .gone, .up 0 (.phRtsInd ⟨0x80, 0, 53⟩)⟩]

example : (tappedRun scriptedSite (scriptedWorld .fresh) tappedMoves).records.length = 1 := by
  decide +kernel

end BaseStation.Bridge
