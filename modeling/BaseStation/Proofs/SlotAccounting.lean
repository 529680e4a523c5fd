import BaseStation.Proofs.AccessBursts
import BaseStation.Proofs.FrameNumbers

/-!
The slots for access bursts that the base station counts as passed, against those that did pass. An
indication of the time charges every frame since the last one as if it were the last frame. This is
right where all frames have the same slots, and where each frame is indicated; beside SDCCH/4, where
some frames have none, it is right where what is charged too much makes up for what is charged too
little.
-/

namespace BaseStation

variable {conf : CcchConf} {t g : GsmTime} {gs : List GsmTime}

/-! ### Frames that pass -/

namespace GsmTime

theorem frame_addFrames (n : Nat) : (t.addFrames n).frame = (t.frame + n) % hyperframe := by
  rw [← Int.natCast_inj, frame_addFrames_emod, ← Int.natCast_add, ← Int.natCast_emod]

theorem addFrames_add (n m : Nat) :
    (t.addFrames n).addFrames m = t.addFrames ((n + m : Nat) : Int) := by
  rw [addFrames_addFrames, Int.natCast_add]

/-- Going forward by the frames between two times leads from one to the other. -/
theorem addFrames_diff (forward : 0 ≤ g.diff t) : t.addFrames (g.diff t).toNat = g := by
  apply ext_frame
  have whole : ((g.diff t).toNat : Int) = Int.bmod (g.frame - t.frame) hyperframe :=
    Int.toNat_of_nonneg forward
  have lt := g.frame_lt
  have cancel := Int.bmod_emod (x := (g.frame : Int) - t.frame) (m := hyperframe)
  rw [← whole] at cancel
  rw [frame_addFrames]
  unfold hyperframe at lt cancel ⊢
  omega

end GsmTime

/-- The `n` frames after a time. -/
def framesAfter (t : GsmTime) (n : Nat) : List GsmTime :=
  (List.range n).map fun i => t.addFrames ((i + 1 : Nat) : Int)

theorem framesAfter_add (n m : Nat) :
    framesAfter t (n + m) = framesAfter t n ++ framesAfter (t.addFrames n) m := by
  unfold framesAfter
  rw [List.range_add, List.map_append, List.map_map]
  congr 2
  funext i
  rw [Function.comp_apply, GsmTime.addFrames_add, Nat.add_assoc]

theorem length_framesAfter (n : Nat) : (framesAfter t n).length = n := by
  unfold framesAfter
  rw [List.length_map, List.length_range]

/-- The number of frames that pass from a time over the following ones. -/
def passed (t : GsmTime) : List GsmTime → Nat
  | [] => 0
  | g :: gs => (g.diff t).toNat + passed g gs

/-- No time lies behind the one before it. -/
def Forward (t : GsmTime) : List GsmTime → Prop
  | [] => True
  | g :: gs => 0 ≤ g.diff t ∧ Forward g gs

/-! ### Slots -/

/-- The slots for access bursts in the given frames. -/
def slotsIn (conf : CcchConf) (gs : List GsmTime) : Nat :=
  (gs.map fun g => expiredSlots conf g.frame).sum

/-- The frame carries access bursts beside SDCCH/4. -/
def GsmTime.carriesBursts (g : GsmTime) : Bool := combinedRachFrame g.t3

/-- The slots that are charged when the given times are indicated. -/
def charged (conf : CcchConf) (t : GsmTime) : List GsmTime → Nat
  | [] => 0
  | g :: gs => expiredSlots conf g.frame * (g.diff t).toNat + charged conf g gs

/-- The frames without access bursts that are charged like the one with them that ends their gap. -/
def overcharged (t : GsmTime) : List GsmTime → Nat
  | [] => 0
  | g :: gs => (if g.carriesBursts then
      (framesAfter t (g.diff t).toNat).countP (!·.carriesBursts) else 0) + overcharged g gs

/-- The frames with access bursts that are charged like the one without them that ends their gap. -/
def undercharged (t : GsmTime) : List GsmTime → Nat
  | [] => 0
  | g :: gs => (if g.carriesBursts then 0 else
      (framesAfter t (g.diff t).toNat).countP (·.carriesBursts)) + undercharged g gs

theorem expiredSlots_combined :
    expiredSlots .oneCombined g.frame = if g.carriesBursts then slotsPerFrame else 0 := by
  have same : expiredSlots .oneCombined g.frame =
      slotsPerFrame * if g.carriesBursts then 1 else 0 := rfl
  rw [same]
  split <;> rfl

theorem slotsIn_append {hs : List GsmTime} :
    slotsIn conf (gs ++ hs) = slotsIn conf gs + slotsIn conf hs := by
  unfold slotsIn
  rw [List.map_append, List.sum_append]

theorem slotsIn_combined :
    slotsIn .oneCombined gs = slotsPerFrame * gs.countP (·.carriesBursts) := by
  induction gs with
  | nil => rfl
  | cons g gs ih =>
    unfold slotsIn at ih ⊢
    rw [List.map_cons, List.sum_cons, ih, expiredSlots_combined, List.countP_cons]
    unfold slotsPerFrame
    split <;> omega

/-- Without SDCCH/4 all frames have the same slots. -/
theorem expiredSlots_uniform (uniform : conf ≠ .oneCombined) (n : Nat) :
    expiredSlots conf n = expiredSlots conf 0 := by
  cases conf with
  | oneCombined => exact absurd rfl uniform
  | _ => rfl

theorem slotsIn_uniform (uniform : conf ≠ .oneCombined) :
    slotsIn conf gs = expiredSlots conf 0 * gs.length := by
  induction gs with
  | nil => rfl
  | cons g gs ih =>
    unfold slotsIn at ih ⊢
    rw [List.map_cons, List.sum_cons, ih, expiredSlots_uniform uniform, List.length_cons,
      Nat.mul_succ, Nat.add_comm]

/-! ### What is charged -/

theorem framesAfter_passed (forward : 0 ≤ g.diff t) :
    framesAfter t (passed t (g :: gs)) =
      framesAfter t (g.diff t).toNat ++ framesAfter g (passed g gs) := by
  have here := GsmTime.addFrames_diff forward
  rw [passed, framesAfter_add, here]

/-- The time of the last indication is as many frames later as have passed. -/
theorem addFrames_passed (forward : Forward t gs) :
    t.addFrames (passed t gs) = gs.getLastD t := by
  induction gs generalizing t with
  | nil => exact GsmTime.addFrames_zero
  | cons g gs ih =>
    obtain ⟨first, later⟩ := forward
    rw [passed, ← GsmTime.addFrames_add, GsmTime.addFrames_diff first, ih later,
      List.getLastD_cons]

theorem charged_uniform (uniform : conf ≠ .oneCombined) :
    charged conf t gs = slotsIn conf (framesAfter t (passed t gs)) := by
  rw [slotsIn_uniform uniform, length_framesAfter]
  induction gs generalizing t with
  | nil => rfl
  | cons g gs ih => rw [charged, passed, ih, expiredSlots_uniform uniform, Nat.mul_add]

/-- Beside SDCCH/4, what is charged is what passed, with the frames that are charged too much and
without those that are charged too little. -/
theorem charged_combined (forward : Forward t gs) :
    charged .oneCombined t gs + slotsPerFrame * undercharged t gs =
      slotsIn .oneCombined (framesAfter t (passed t gs)) + slotsPerFrame * overcharged t gs := by
  induction gs generalizing t with
  | nil => rfl
  | cons g gs ih =>
    obtain ⟨first, later⟩ := forward
    have rest := ih later
    have parts : (g.diff t).toNat =
        (framesAfter t (g.diff t).toNat).countP (·.carriesBursts) +
          (framesAfter t (g.diff t).toNat).countP (!·.carriesBursts) := by
      have both := List.length_eq_countP_add_countP (·.carriesBursts)
        (l := framesAfter t (g.diff t).toNat)
      simpa [length_framesAfter] using both
    rw [framesAfter_passed first, slotsIn_append, slotsIn_combined, charged, undercharged,
      overcharged, expiredSlots_combined]
    unfold slotsPerFrame at rest ⊢
    cases g.carriesBursts with
    | true =>
      simp only [if_true]
      omega
    | false =>
      simp only [Bool.false_eq_true, if_false]
      omega

theorem diff_addFrames_one : (t.addFrames (1 : Nat)).diff t = 1 := by
  have one : ((t.frame + 1 : Nat) : Int) - t.frame = 1 := by omega
  unfold GsmTime.diff frameDiff
  rw [GsmTime.frame_addFrames, Int.natCast_emod, Int.emod_sub_bmod, one]
  rfl

/-- Indicated one by one, frames are charged their own slots. -/
theorem charged_framesAfter (n : Nat) :
    charged conf t (framesAfter t n) = slotsIn conf (framesAfter t n) := by
  induction n generalizing t with
  | zero => rfl
  | succ n ih =>
    have first : framesAfter t (n + 1) =
        t.addFrames (1 : Nat) :: framesAfter (t.addFrames (1 : Nat)) n := by
      rw [Nat.add_comm, framesAfter_add]
      rfl
    rw [first, charged, ih, diff_addFrames_one, Int.toNat_one, Nat.mul_one]
    rfl

/-- The slots charged are those that passed just where all frames have the same slots, or as many
frames are charged too much as too little. -/
theorem charged_eq_iff (forward : Forward t gs) :
    charged conf t gs = slotsIn conf (framesAfter t (passed t gs)) ↔
      conf ≠ .oneCombined ∨ overcharged t gs = undercharged t gs := by
  by_cases combined : conf = .oneCombined
  · subst combined
    have whole := charged_combined forward
    unfold slotsPerFrame at whole
    constructor
    · intro same
      exact .inr (by omega)
    · rintro (other | same)
      · exact absurd rfl other
      · omega
  · exact iff_of_true (charged_uniform combined) (.inl combined)

/-! ### Indications -/

namespace Bridge

variable {σ φ : Type} {site : Site σ φ} {w : World σ φ} {b b' : Bts} {trx : UInt8} {fn : UInt32}
  {i : Input} {m : Move} {r : Except Failure Unit} {es : List Event}

/-- The time that a move indicates, on the primary carrier. -/
def Move.time? : Move → Option GsmTime
  | .input (.up trx (.mphInfoInd (.time fn))) _ =>
    if trx = 0 then some (.ofFrame fn.toNat) else none
  | _ => none

/-- The times that are indicated and accepted. -/
def clock (ms : List Move) : List GsmTime := ms.filterMap Move.time?

/-- An indication charges the frames since the last one at the rate of the frame indicated. -/
theorem timed_eq : timed site fn b = { b with
    time := .ofFrame fn.toNat
    rach := { b.rach with
      total := b.rach.total + charged site.settings.ccchConf b.time [.ofFrame fn.toNat] } } := by
  have rate : expiredSlots site.settings.ccchConf (fn.toNat % hyperframe) =
      expiredSlots site.settings.ccchConf fn.toNat := by
    unfold expiredSlots controlMultiframe
    rw [Nat.mod_mul_left_mod fn.toNat (2048 * 26) 51]
  have gap : (GsmTime.ofFrame fn.toNat).diff b.time = frameDiff fn.toNat b.time.frame := by
    unfold GsmTime.diff frameDiff
    rw [GsmTime.frame_ofFrame, Int.natCast_emod]
    exact Int.emod_sub_bmod _ _
  unfold timed charged charged
  rw [gap, GsmTime.frame_ofFrame, rate, Nat.add_zero]

/-- The time, and the slots counted as passed, are as before. -/
structure TimeKept (b b' : Bts) : Prop where
  time : b'.time = b.time
  total : b'.rach.total = b.rach.total

theorem RachOutcome.timeKept {p : PhRach} (h : RachOutcome site trx p b r b' es) :
    TimeKept b b' := by
  have busy : TimeKept b (busyCounted p b) := by
    constructor
    · unfold busyCounted
      split <;> rfl
    · rw [rach_busyCounted]
  have kept : TimeKept b (accessCounted (delayKept trx p (busyCounted p b))) := by
    constructor
    · refine Eq.trans ?_ busy.time
      unfold delayKept
      split <;> rfl
    · have same : (delayKept trx p (busyCounted p b)).rach = (busyCounted p b).rach :=
        rach_delayKept
      exact (congrArg RachLoad.total same).trans busy.total
  cases h with
  | late => exact busy
  | unknownTrx => exact busy
  | unknownLchan => exact busy
  | handover => exact ⟨busy.time, busy.total⟩
  | packet => exact kept
  | request => exact kept

/-- Without an indication from the primary carrier the time stands still. -/
theorem StepOutcome.timeKept {o : i.isDown = false} (h : StepOutcome site b i r b' es)
    (untimed : (Move.input i o).time? = none) : TimeKept b b' := by
  by_cases indication : ∃ trx fn, i = .up trx (.mphInfoInd (.time fn))
  · obtain ⟨trx, fn, rfl⟩ := indication
    cases h.timeOutcome with
    | secondary => exact ⟨rfl, rfl⟩
    | primary first => cases (if_pos first).symm.trans untimed
  cases burst : i.isBurst with
  | true =>
    obtain ⟨trx, p, rfl⟩ := Input.isBurst_eq_true.mp burst
    exact h.rachOutcome.timeKept
  | false =>
    cases h.change with
    | counted same => exact ⟨rfl, congrArg RachLoad.total (same burst)⟩
    | moved _ _ _ _ same => exact ⟨rfl, congrArg RachLoad.total (same burst)⟩
    | time => exact absurd ⟨_, _, rfl⟩ indication

/-- A turn moves the time to the one it indicates, if it does, and charges the frames until then. -/
theorem Turn.Lawful.charges {t : Turn} (lawful : t.Lawful site) :
    t.after.time = t.move.time?.getD t.before.time ∧ t.after.rach.total = t.before.rach.total +
      charged site.settings.ccchConf t.before.time t.move.time?.toList := by
  obtain ⟨b, m, r, es, b'⟩ := t
  cases timing : m.time? with
  | none =>
    have kept : TimeKept b b' := by
      cases m with
      | input i o =>
        have h : StepOutcome site b i r b' es := lawful
        exact h.timeKept timing
      | write id x =>
        obtain ⟨-, after, -⟩ : r = .ok () ∧ b' = b.modifyLchan id x.apply ∧ es = [] := lawful
        rw [after]
        exact ⟨rfl, rfl⟩
    exact ⟨kept.time, kept.total⟩
  | some g =>
    unfold Move.time? at timing
    split at timing
    · rename_i trx fn o
      obtain ⟨first, same⟩ := Option.ite_none_right_eq_some.mp timing
      cases same
      have h : StepOutcome site b (.up trx (.mphInfoInd (.time fn))) r b' es := lawful
      cases h.timeOutcome with
      | secondary other => exact absurd first other
      | primary =>
        rw [timed_eq]
        exact ⟨rfl, rfl⟩
    · cases timing

/-- In a run the time follows the indications, and the slots are charged with them. -/
theorem total_run (site : Site σ φ) (w : World σ φ) (ms : List Move) :
    (run site w ms).bts.time = (clock ms).getLastD w.bts.time ∧
      (run site w ms).bts.rach.total = w.bts.rach.total +
        charged site.settings.ccchConf w.bts.time (clock ms) := by
  induction ms generalizing w with
  | nil => exact ⟨rfl, rfl⟩
  | cons m ms ih =>
    obtain ⟨time, total⟩ := ih (takeTurn site m w).2
    obtain ⟨first, charge⟩ := (lawful_turnOf site w m).charges
    have here : (takeTurn site m w).2.bts.time = m.time?.getD w.bts.time := first
    have taken : (takeTurn site m w).2.bts.rach.total = w.bts.rach.total +
        charged site.settings.ccchConf w.bts.time m.time?.toList := charge
    rw [here] at time total
    rw [taken] at total
    have next : run site w (m :: ms) = run site (takeTurn site m w).2 ms := rfl
    rw [next, time, total]
    unfold clock
    cases timing : m.time? with
    | none =>
      rw [List.filterMap_cons_none timing]
      exact ⟨rfl, rfl⟩
    | some g =>
      rw [List.filterMap_cons_some timing, List.getLastD_cons]
      exact ⟨rfl, Nat.add_assoc _ _ _⟩

/-! ### Runs -/

/-- Each of the next `n` frames is indicated. -/
def everyFrame (t : GsmTime) (n : Nat) : List Move :=
  (framesAfter t n).map fun g => .up 0 (.mphInfoInd (.time g.frame.toUInt32))

theorem clock_everyFrame (t : GsmTime) (n : Nat) : clock (everyFrame t n) = framesAfter t n := by
  have each : ∀ g : GsmTime,
      (Move.up 0 (.mphInfoInd (.time g.frame.toUInt32))).time? = some g := by
    intro g
    have small : g.frame.toUInt32.toNat = g.frame := by
      have lt := g.frame_lt
      unfold hyperframe at lt
      rw [Nat.toUInt32_eq, UInt32.toNat_ofNat', Nat.mod_eq_of_lt (by omega)]
    show some (GsmTime.ofFrame g.frame.toUInt32.toNat) = some g
    rw [small, GsmTime.ofFrame_frame]
  unfold clock everyFrame
  rw [List.filterMap_map]
  simp [each]

/-- In a run whose indications do not go back, whatever else happens between them, the time moves on
by the frames that pass. The slots counted are those of these frames if each of them is indicated.
However they are indicated, the slots are right just where all frames have the same ones, or where
the frames charged too much are as many as those charged too little; beside SDCCH/4 they are wrong
by the difference. -/
theorem rach_slots_right_iff (site : Site σ φ) (w : World σ φ) (ms : List Move)
    (forward : Forward w.bts.time (clock ms)) :
    let conf := site.settings.ccchConf
    let t := w.bts.time
    let right := w.bts.rach.total + slotsIn conf (framesAfter t (passed t (clock ms)))
    let total := (run site w ms).bts.rach.total
    (run site w ms).bts.time = t.addFrames (passed t (clock ms)) ∧
    (run site w (everyFrame t (passed t (clock ms)))).bts.rach.total = right ∧
    (total = right ↔ conf ≠ .oneCombined ∨ overcharged t (clock ms) = undercharged t (clock ms)) ∧
    (conf = .oneCombined → total + slotsPerFrame * undercharged t (clock ms) =
      right + slotsPerFrame * overcharged t (clock ms)) := by
  intro conf t right total
  obtain ⟨time, counted⟩ := total_run site w ms
  have total_eq : total = w.bts.rach.total + charged conf t (clock ms) := counted
  refine ⟨?_, ?_, ?_, fun combined => ?_⟩
  · rw [time, addFrames_passed forward]
  · rw [(total_run site w _).2, clock_everyFrame, charged_framesAfter]
  · rw [total_eq, Nat.add_left_cancel_iff]
    exact charged_eq_iff forward
  · have whole := charged_combined forward
    rw [total_eq, combined, Nat.add_assoc, whole, ← Nat.add_assoc, ← combined]

/-- Indications some frames apart, one of another carrier among them. -/
def sparseMoves : List Move :=
  [.up 0 (.mphInfoInd (.time 14)), .up 1 (.mphInfoInd (.time 20)), .up 0 (.mphInfoInd (.time 36)),
    .up 0 (.mphInfoInd (.time 42)), .up 0 (.mphInfoInd (.time 45))]

/-- The slots that are missed until the first indication are made up for with the last one. -/
theorem sparse_indications_right :
    Forward (.ofFrame 0) (clock sparseMoves) ∧
      (run scriptedSite (scriptedWorld .fresh) sparseMoves).bts.rach.total =
        slotsIn .oneCombined (framesAfter (.ofFrame 0) 45) := by
  have forward : Forward (.ofFrame 0) (clock sparseMoves) := by
    refine ⟨?_, ?_, ?_, ?_, trivial⟩ <;> decide +kernel
  obtain ⟨-, -, exact_iff, -⟩ :=
    rach_slots_right_iff scriptedSite (scriptedWorld .fresh) sparseMoves forward
  exact ⟨forward, (exact_iff.mpr (.inr (by decide +kernel))).trans (by decide +kernel)⟩

/-- Three frames without access bursts are charged with the fourth one, which has them. -/
theorem missed_frames_charged : ¬ ∀ ms : List Move, Forward (.ofFrame 0) (clock ms) →
    (run scriptedSite (scriptedWorld .fresh) ms).bts.rach.total =
      slotsIn .oneCombined (framesAfter (.ofFrame 0) (passed (.ofFrame 0) (clock ms))) := by
  intro all
  have same := all [.up 0 (.mphInfoInd (.time 4))] ⟨by decide +kernel, trivial⟩
  revert same
  decide +kernel

end Bridge
end BaseStation
