import BaseStation.Proofs.Bridge.Run
import BaseStation.Proofs.Machine.Agreement

/-!
The machine stops for a breach of the radio's contract only. In each state that it comes to on a
valid configuration all channels are in bounds, so from there it does what the access point does,
until a load counter runs out of its word.
-/

namespace BaseStation.Machine

open Bridge (Site World Input Write Refusal scriptedConfig scriptedSite scriptedWorld)

variable {σ φ : Type} {site : Site σ φ} {c : Config} {w w' : World σ φ} {i : Input}

/-! ### What is reached -/

/-- The states that the machine comes to on a configuration: with every input that it gets through,
whatever the parties above write into the records of channels, and however capture is set. -/
inductive Reached (site : Site σ φ) (c : Config) : World σ φ → Prop
  | fresh (filter : Capture.Filter) (services : σ) (phy : φ) :
      Reached site c (.fresh c filter services phy)
  | step {w w' : World σ φ} {i : Input} {r : Except Refusal Unit} (before : Reached site c w)
      (through : step site i w = (.ok r, w')) : Reached site c w'
  | written {w : World σ φ} (before : Reached site c w) (id : LchanId) (x : Write) :
      Reached site c (w.modifyLchan id x.apply)
  | tapped {w : World σ φ} (before : Reached site c w) (filter : Capture.Filter)
      (tap : Bridge.Tap) : Reached site c { w with filter := filter, tap := tap }

/-! ### Bounds -/

/-- A valid configuration has the ceiling of the link supervision at 64 at the most. -/
theorem radioLinkTimeout_le (valid : c.validate = .ok ()) : c.cell.radioLinkTimeout ≤ 64 := by
  by_contra high
  have wrong : (c.cell.radioLinkTimeout == -1 ||
      (4 ≤ c.cell.radioLinkTimeout && c.cell.radioLinkTimeout ≤ 64)) = false := by
    simp only [Bool.or_eq_false_iff, beq_eq_false_iff_ne, Bool.and_eq_false_iff,
      decide_eq_false_iff_not]
    omega
  have refused : c.cell.validate ≠ .ok () := by
    unfold CellConfig.validate
    rw [wrong]
    unfold require
    split
    · split
      · exact nofun
      · exact nofun
    · exact nofun
  unfold Config.validate at valid
  cases backend : c.backend.validate with
  | error e =>
    rw [backend] at valid
    cases valid
  | ok =>
    cases cell : c.cell.validate with
    | error e =>
      rw [backend, cell] at valid
      cases valid
    | ok => exact refused cell

theorem ceiling_le (valid : c.validate = .ok ()) (settings : site.settings = .ofConfig c) :
    site.settings.radioLinkTimeout ≤ 64 := by
  rw [settings]
  exact radioLinkTimeout_le valid

theorem lchanBounds_fresh (ceiling : Int) (id : LchanId) (type : LchanType) :
    LchanBounds ceiling (.fresh id type) where
  counter := ⟨fun _ => Int.le_refl 0, le_max_left 0 ceiling⟩
  queue := ⟨Nat.zero_le 1, rfl⟩

theorem bounds_ofConfig (ceiling : Int) (c : Config) : Bounds ceiling (.ofConfig c) := by
  intro trx tn t slot ss l there
  have known : (Bts.ofConfig c).lchan? ⟨trx, tn, ss⟩ = some l :=
    Bts.lchan?_eq_some.mpr ⟨t, slot, there⟩
  obtain ⟨type, rfl⟩ := Bts.lchan?_ofConfig known
  exact lchanBounds_fresh ceiling _ type

theorem LchanBounds.written {ceiling : Int} {l : Lchan} (h : LchanBounds ceiling l) (x : Write) :
    LchanBounds ceiling (x.apply l) := by
  cases x <;> exact ⟨h.counter, h.queue⟩

/-! ### Runs -/

section Through

variable (highest : site.settings.radioLinkTimeout ≤ 64)
  (bounds : Bounds site.settings.radioLinkTimeout w.bts) (counted : Counted w.bts)
include highest bounds

/-- Unless it is asked in vain, the machine does what the access point does, or a load counter runs
out. -/
theorem step_counted (allowed : ¬ AsksInVain w.bts i)
    (fits : Counted (Bridge.step site i w).2.bts) :
    ∃ r, Bridge.step site i w = (r.mapError .refused, (Bridge.step site i w).2) ∧
      step site i w = (.ok r, (Bridge.step site i w).2) := by
  obtain ⟨x, result, same⟩ := (perform_next highest allowed bounds).same
  exact ⟨x, Prod.ext result rfl, same fits⟩

include counted

/-- What the machine gets through, the access point does in the same way, and all stays in
bounds. -/
theorem step_through {r : Except Refusal Unit} (through : step site i w = (.ok r, w')) :
    Bridge.step site i w = (r.mapError .refused, w') ∧
      Bounds site.settings.radioLinkTimeout w'.bts ∧ Counted w'.bts := by
  have allowed : ¬ AsksInVain w.bts i := fun asked => by
    obtain ⟨b, -, stops⟩ := step_asksInVain site asked
    rw [stops] at through
    cases through
  have next := perform_next highest allowed bounds
  have fits : Counted (Bridge.step site i w).2.bts := by
    by_contra out
    obtain ⟨sum, stops⟩ := next.overflows counted out
    rw [through] at stops
    cases stops
  obtain ⟨x, result, here⟩ := step_counted highest bounds allowed fits
  rw [through, Prod.mk.injEq, Except.ok.injEq] at here
  obtain ⟨rfl, rfl⟩ := here
  exact ⟨result, next.bounds, fits⟩

end Through

/-- In every state that is reached the channels are in bounds, and no load counter has run out. -/
theorem Reached.invariant (highest : site.settings.radioLinkTimeout ≤ 64)
    (reached : Reached site c w) :
    Bounds site.settings.radioLinkTimeout w.bts ∧ Counted w.bts := by
  induction reached with
  | fresh filter services phy =>
    refine ⟨bounds_ofConfig _ c, fun counter => ?_⟩
    have zero : counter.get ⟨0, 0, 0⟩ = 0 := by cases counter <;> rfl
    exact zero.trans_lt (by decide)
  | step before through ih => exact (step_through highest ih.1 ih.2 through).2
  | written before id x ih => exact ⟨ih.1.modifyLchan fun _ h => h.written x, ih.2⟩
  | tapped before filter tap ih => exact ih

/-! ### Where the machine stops -/

/-- **A breach of contract is the only panic.** In every state that is reached on a valid
configuration, and with every input in which no load counter runs out, the machine stops exactly if
the radio asks for a block of a channel that does not exist, so no request of the parties above
stops it. It stops with the message of that breach; with every other input, whatever the lengths of
the blocks that come with it or in answer to it, it comes to the result and the state of the access
point. -/
theorem stops_iff_asked_in_vain (valid : c.validate = .ok ())
    (settings : site.settings = .ofConfig c) (reached : Reached site c w) (i : Input)
    (counted : Counted (Bridge.step site i w).2.bts) :
    ((∃ p, (step site i w).1 = .error p) ↔ AsksInVain w.bts i) ∧
      (∀ p, (step site i w).1 = .error p →
        ∃ b : Bridge.Breach, p = .raised b.message ∧
          Bridge.step site i w = (.error (.breach b), w)) ∧
      ∀ r, (step site i w).1 = .ok r →
        Bridge.step site i w = (r.mapError .refused, (step site i w).2) := by
  have highest := ceiling_le valid settings
  obtain ⟨bounds, -⟩ := reached.invariant highest
  by_cases asked : AsksInVain w.bts i
  · obtain ⟨b, breach, stops⟩ := step_asksInVain site asked
    rw [stops]
    refine ⟨⟨fun _ => asked, fun _ => ⟨_, rfl⟩⟩, fun p stopped => ?_, nofun⟩
    cases stopped
    exact ⟨b, rfl, breach⟩
  · obtain ⟨r, result, through⟩ := step_counted highest bounds asked counted
    rw [through]
    refine ⟨⟨nofun, fun h => absurd h asked⟩, nofun, fun r' ended => ?_⟩
    cases ended
    exact result

/-- The machine with a traffic channel that is about to be activated. -/
def activatedWorld : World ScriptedServices ScriptedPhy :=
  (step scriptedSite (.chanAct 0 0x09 none) (scriptedWorld .fresh)).2

/-- An opportunity on the channel is answered, and one on a number that names no channel stops the
machine. -/
theorem opportunity_in_vain_stops :
    (∃ p, (step scriptedSite (.up 0 (.phRtsInd ⟨0x00, 0, 0⟩)) activatedWorld).1 = .error p) ∧
      ¬ ∃ p, (step scriptedSite (.up 0 (.phRtsInd ⟨0x09, 0, 0⟩)) activatedWorld).1 = .error p := by
  have through : (step scriptedSite (.chanAct 0 0x09 none) (scriptedWorld .fresh)).1 =
      .ok (.ok ()) := by decide +kernel
  have reached : Reached scriptedSite scriptedConfig activatedWorld :=
    .step (.fresh .empty .fresh .accepting) (Prod.ext through rfl)
  have vain : AsksInVain activatedWorld.bts (.up 0 (.phRtsInd ⟨0x00, 0, 0⟩)) := .undecodable rfl
  have asked : ¬ AsksInVain activatedWorld.bts (.up 0 (.phRtsInd ⟨0x09, 0, 0⟩)) := by
    rintro (number | carrier)
    · cases number
    · exact absurd carrier (by decide +kernel)
  constructor
  · refine (stops_iff_asked_in_vain rfl rfl reached _ fun c => ?_).1.mpr vain
    cases c <;> decide +kernel
  · refine fun stops => asked ((stops_iff_asked_in_vain rfl rfl reached _ fun c => ?_).1.mp stops)
    cases c <;> decide +kernel

/-- When a load counter runs out, the machine stops with the overflow of its sum, and with nothing
else. -/
theorem overflows_of_exhausted (valid : c.validate = .ok ())
    (settings : site.settings = .ofConfig c) (reached : Reached site c w)
    (out : ¬ Counted (Bridge.step site i w).2.bts) :
    ∃ sum, (step site i w).1 = .error (.overflow sum) := by
  have highest := ceiling_le valid settings
  obtain ⟨bounds, counted⟩ := reached.invariant highest
  have allowed : ¬ AsksInVain w.bts i := fun asked => by
    obtain ⟨b, breach, -⟩ := step_asksInVain site asked
    rw [breach] at out
    exact out counted
  exact (perform_next highest allowed bounds).overflows counted out

end BaseStation.Machine
