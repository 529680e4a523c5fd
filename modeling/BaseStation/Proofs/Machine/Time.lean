import BaseStation.Access
import BaseStation.Proofs.Machine.Word
import BaseStation.Proofs.VoiceDuration

/-!
Frame numbers on the machine: the difference of two of them, times that are moved by frames or
reassembled from their counters, the control block and the slots of a frame, and the duration of a
voice frame. Whatever frame numbers the radio sends, every step fits in its word, and the results
are the exact ones.
-/

namespace BaseStation.Machine

/-! ### Differences -/

/-- Adds hyperframes to a difference while it is below half of one below zero. -/
def raise (d : Int) : Checked Int :=
  if d < -(hyperframe : Int) / 2 then
    match _ : signed 64 (d + hyperframe) with
    | .ok d' => raise d'
    | .error e => .error e
  else pure d
termination_by (-d).toNat
decreasing_by
  rename_i h
  have whole : (hyperframe : Int) = 2715648 := rfl
  unfold signed at h
  split at h
  · rw [Except.ok.injEq] at h
    omega
  · cases h

/-- Takes hyperframes off a difference while it is not below half of one. -/
def lower (d : Int) : Checked Int :=
  if (hyperframe : Int) / 2 ≤ d then
    match _ : signed 64 (d - hyperframe) with
    | .ok d' => lower d'
    | .error e => .error e
  else pure d
termination_by d.toNat
decreasing_by
  rename_i h
  have whole : (hyperframe : Int) = 2715648 := rfl
  unfold signed at h
  split at h
  · rw [Except.ok.injEq] at h
    omega
  · cases h

/-- The difference of two frame numbers. -/
def fnDiff (a b : Nat) : Checked Int := do
  let d ← signed 64 (a - b)
  let d ← raise d
  let d ← lower d
  pure (toSigned 32 d)

/-- Raised, a difference is not below the lower half, and is off by whole hyperframes. -/
theorem raise_eq (d : Int) (low : -2 ^ 32 ≤ d) (high : d < 2 ^ 32) : ∃ d', raise d = .ok d' ∧
    d' % 2715648 = d % 2715648 ∧ -1357824 ≤ d' ∧ d' < 2 ^ 32 := by
  have whole : (hyperframe : Int) = 2715648 := rfl
  induction d using raise.induct with
  | case1 d below d₁ fits ih =>
    have sum : d₁ = d + hyperframe := by
      rw [signed_eq (by omega) (by omega), Except.ok.injEq] at fits
      exact fits.symm
    obtain ⟨d', raised, same, range⟩ := ih (by omega) (by omega)
    refine ⟨d', ?_, by omega, range⟩
    rw [← raised, raise, if_pos below]
    split <;> simp_all
  | case2 d below e overflow =>
    rw [signed_eq (by omega) (by omega)] at overflow
    cases overflow
  | case3 d enough =>
    rw [raise, if_neg enough]
    exact ⟨d, rfl, rfl, by omega, high⟩

/-- Lowered, a difference is below the upper half too. -/
theorem lower_eq (d : Int) (low : -1357824 ≤ d) (high : d < 2 ^ 32) : ∃ d', lower d = .ok d' ∧
    d' % 2715648 = d % 2715648 ∧ -1357824 ≤ d' ∧ d' < 1357824 := by
  have whole : (hyperframe : Int) = 2715648 := rfl
  induction d using lower.induct with
  | case1 d above d₁ fits ih =>
    have difference : d₁ = d - hyperframe := by
      rw [signed_eq (by omega) (by omega), Except.ok.injEq] at fits
      exact fits.symm
    obtain ⟨d', lowered, same, range⟩ := ih (by omega) (by omega)
    refine ⟨d', ?_, by omega, range⟩
    rw [← lowered, lower, if_pos above]
    split <;> simp_all
  | case2 d above e overflow =>
    rw [signed_eq (by omega) (by omega)] at overflow
    cases overflow
  | case3 d enough =>
    rw [lower, if_neg enough]
    exact ⟨d, rfl, rfl, low, by omega⟩

/-- The machine comes to the representative of the difference that lies nearest to zero. -/
theorem fnDiff_eq {a b : Nat} (ha : a < 2 ^ 32) (hb : b < 2 ^ 32) :
    fnDiff a b = .ok (frameDiff a b) := by
  obtain ⟨d₁, raised, same₁, low₁, high₁⟩ := raise_eq (a - b) (by omega) (by omega)
  obtain ⟨d, lowered, same, low, high⟩ := lower_eq d₁ low₁ high₁
  have nearest : frameDiff a b = d := by
    have whole : hyperframe = 2715648 := rfl
    rw [frameDiff, whole, Int.bmod_def]
    split <;> omega
  have word : toSigned 32 d = d := by
    rw [toSigned, Int.bmod_def]
    split <;> omega
  unfold fnDiff
  rw [signed_eq (by omega) (by omega), ok_bind, raised, ok_bind, lowered, ok_bind, word, nearest,
    pure_eq_ok]

/-! ### Times -/

/-- The time `n` frames later, or earlier if `n` is negative. -/
def addFrames (t : GsmTime) (n : Int) : Checked GsmTime := do
  let sum ← signed 64 (t.frame + n)
  pure (.ofFrame (toUnsigned 32 (sum % hyperframe)))

/-- The time with the given counters, if they are in range. -/
def ofCounters? (t1 t2 t3 : Nat) : Checked (Option GsmTime) :=
  if 2048 ≤ t1 ∨ trafficMultiframe ≤ t2 ∨ controlMultiframe ≤ t3 then pure none
  else do
    let lead ← signed 64 (t3 - t2)
    let multiframes ← signed 64 (51 * (lead % 26))
    let within ← signed 64 (multiframes + t3)
    let superframes ← signed 64 (51 * 26 * t1)
    let sum ← signed 64 (within + superframes)
    pure (some (.ofFrame (toUnsigned 32 sum)))

theorem addFrames_eq (t : GsmTime) (n : Int32) :
    addFrames t n.toInt = .ok (t.addFrames n.toInt) := by
  have low := n.le_toInt
  have high := n.toInt_lt
  have lt := t.frame_lt
  have whole : hyperframe = 2715648 := rfl
  unfold addFrames GsmTime.addFrames
  rw [signed_eq (by omega) (by omega), ok_bind, pure_eq_ok, whole,
    toUnsigned_of_nonneg (by omega) (by omega)]

theorem ofCounters?_eq (t1 t2 t3 : Nat) :
    ofCounters? t1 t2 t3 = .ok (GsmTime.ofCounters? t1 t2 t3) := by
  have traffic : trafficMultiframe = 26 := rfl
  have control : controlMultiframe = 51 := rfl
  unfold ofCounters? GsmTime.ofCounters?
  by_cases range : t1 < 2048 ∧ t2 < trafficMultiframe ∧ t3 < controlMultiframe
  · have inside : ¬ (2048 ≤ t1 ∨ trafficMultiframe ≤ t2 ∨ controlMultiframe ≤ t3) := by omega
    rw [if_pos range, if_neg inside]
    rw [signed_eq (by omega) (by omega), ok_bind, signed_eq (by omega) (by omega), ok_bind,
      signed_eq (by omega) (by omega), ok_bind, signed_eq (by omega) (by omega), ok_bind,
      signed_eq (by omega) (by omega), ok_bind, pure_eq_ok,
      toUnsigned_of_nonneg (by omega) (by omega)]
    congr 3
    omega
  · have outside : 2048 ≤ t1 ∨ trafficMultiframe ≤ t2 ∨ controlMultiframe ≤ t3 := by omega
    rw [if_neg range, if_pos outside, pure_eq_ok]

/-! ### Places in the multiframe -/

/-- The first of some control blocks that the frame `r` of the multiframe belongs to, the blocks
counted from `i`. -/
def blockFrom (r i : Nat) : List Nat → Checked (Option Nat)
  | [] => pure none
  | start :: starts => do
    if start ≤ r then
      let stop ← unsigned 32 (start + 4)
      if r < stop then pure (some i) else blockFrom r (i + 1) starts
    else blockFrom r (i + 1) starts

/-- The common control block a frame belongs to. -/
def ccchBlock? (fn : Nat) : Checked (Option Nat) :=
  blockFrom (fn % controlMultiframe) 0 ccchBlockStarts

theorem blockFrom_eq {r i : Nat} {starts : List Nat} (low : ∀ start ∈ starts, start < 51) :
    blockFrom r i starts =
      .ok ((starts.findIdx? fun start => start ≤ r && r < start + 4).map (· + i)) := by
  induction starts generalizing i with
  | nil => rfl
  | cons start starts ih =>
    have first := low start List.mem_cons_self
    have rest := ih (i := i + 1) fun s hs => low s (List.mem_cons_of_mem _ hs)
    have later : ((starts.findIdx? fun start => start ≤ r && r < start + 4).map (· + (i + 1))) =
        ((starts.findIdx? fun start => start ≤ r && r < start + 4).map (· + 1)).map (· + i) := by
      rw [Option.map_map]
      congr 1
      funext j
      dsimp only [Function.comp]
      omega
    rw [blockFrom, List.findIdx?_cons, rest, later]
    by_cases started : start ≤ r
    · rw [if_pos started, unsigned_eq (by omega), ok_bind]
      by_cases within : r < start + 4
      · simp [started, within]
      · simp [within]
    · simp [started]

theorem ccchBlock?_eq (fn : Nat) : ccchBlock? fn = .ok (BaseStation.ccchBlock? fn) := by
  unfold ccchBlock? BaseStation.ccchBlock?
  rw [blockFrom_eq (by decide)]
  simp

/-! ### Slots for access bursts -/

/-- Frames of the control multiframe in which slots pass with a frame, for each of its control
channels. -/
def expiredSlots (conf : CcchConf) (fn : Nat) : Checked Nat :=
  match conf with
  | .oneCombined => unsigned 64 ((if combinedRachFrame (fn % controlMultiframe) then 1 else 0) * 4)
  | .one => unsigned 64 (1 * 4)
  | .two => unsigned 64 (2 * 4)
  | .three => unsigned 64 (3 * 4)
  | .four => unsigned 64 (4 * 4)

theorem expiredSlots_le (conf : CcchConf) (fn : Nat) : BaseStation.expiredSlots conf fn ≤ 16 := by
  unfold BaseStation.expiredSlots slotsPerFrame
  cases conf with
  | oneCombined =>
    dsimp only
    split <;> decide
  | _ => simp

theorem expiredSlots_eq (conf : CcchConf) (fn : Nat) :
    expiredSlots conf fn = .ok (BaseStation.expiredSlots conf fn) := by
  unfold expiredSlots BaseStation.expiredSlots slotsPerFrame
  cases conf with
  | oneCombined =>
    dsimp only
    split <;> rfl
  | _ => rfl

/-! ### Voice -/

/-- The duration of the voice frame received in frame `fn`. -/
def voiceDuration (fn : UInt32) (last : Option UInt32) (dtx : Bool) : Checked UInt32 :=
  match last with
  | some last =>
    if dtx then do
      let d ← fnDiff fn.toNat last.toNat
      let frames := toUnsigned 32 (max d 0)
      let scaled ← unsigned 32 (frames * 12)
      let samples ← unsigned 32 (scaled * 160)
      let raised ← unsigned 32 (samples / 52 + 80)
      let rounded ← minus raised (raised % 160)
      pure rounded.toUInt32
    else pure voiceSamples
  | none => pure voiceSamples

theorem voiceDuration_eq (fn : UInt32) (last : Option UInt32) (dtx : Bool) :
    voiceDuration fn last dtx = .ok (BaseStation.voiceDuration fn last dtx) := by
  cases last with
  | none => rfl
  | some last =>
    cases dtx with
    | false => rfl
    | true =>
      obtain ⟨scaled, raised, exact⟩ := exactDuration fn last
      have frames : toUnsigned 32 (max (frameDiff fn.toNat last.toNat) 0) =
          framesSince fn last := by
        unfold framesSince
        rw [← Int.toNat_eq_max]
        exact toUnsigned_eq (framesSince_lt.trans (by decide))
      unfold voiceDuration
      dsimp only
      rw [if_pos rfl, fnDiff_eq fn.toNat_lt last.toNat_lt, ok_bind, frames,
        unsigned_eq (by omega), ok_bind, unsigned_eq scaled, ok_bind, unsigned_eq raised, ok_bind,
        minus_eq (Nat.mod_le _ _), ok_bind, pure_eq_ok]
      congr 1
      rw [← UInt32.toNat_inj, exact, UInt32.toNat_ofNat']
      omega

end BaseStation.Machine
