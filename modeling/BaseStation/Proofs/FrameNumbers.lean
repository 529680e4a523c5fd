import BaseStation.Proofs.Machine.Time
import Mathlib.Data.Int.ModEq

/-!
Arithmetic of frame numbers. The difference of two of them leads from the one to the other by the
shortest way around the hyperframe; times move by any number of frames, and back; and the counters
T1, T2 and T3 name a frame of the hyperframe. The machine comes to the same results, from any words.
-/

namespace BaseStation

/-! ### Differences -/

/-- `d` leads from the frame `b` to the frame `a` by the shortest way around the hyperframe; of two
ways of half a hyperframe, by the one backwards. -/
structure ShortestWay (a b : Nat) (d : Int) : Prop where
  leads : d ≡ a - b [ZMOD hyperframe]
  low : -(hyperframe / 2 : Nat) ≤ d
  high : d < (hyperframe / 2 : Nat)

section
variable {a b : Nat} {d e : Int}

theorem shortestWay_frameDiff (a b : Nat) : ShortestWay a b (frameDiff a b) where
  leads := Int.bmod_emod
  low := Int.le_bmod (by decide)
  high := Int.bmod_lt (by decide)

theorem ShortestWay.eq (h : ShortestWay a b d) (h' : ShortestWay a b e) : d = e := by
  have same : d ≡ e [ZMOD hyperframe] := h.leads.trans h'.leads.symm
  obtain ⟨-, low, high⟩ := h
  obtain ⟨-, low', high'⟩ := h'
  unfold Int.ModEq hyperframe at same
  unfold hyperframe at low high low' high'
  omega

theorem eq_frameDiff_iff : d = frameDiff a b ↔ ShortestWay a b d :=
  ⟨fun same => same ▸ shortestWay_frameDiff a b, fun way => way.eq (shortestWay_frameDiff a b)⟩

/-- The way back is as long, but half a hyperframe is backwards both ways. -/
theorem frameDiff_swap_iff :
    frameDiff b a = -frameDiff a b ↔ frameDiff a b ≠ -(hyperframe / 2 : Nat) := by
  obtain ⟨leads, low, high⟩ := shortestWay_frameDiff a b
  obtain ⟨leads', low', high'⟩ := shortestWay_frameDiff b a
  unfold Int.ModEq hyperframe at leads leads'
  unfold hyperframe at low high low' high' ⊢
  omega

theorem frameDiff_add (a b c : Nat) :
    frameDiff a b + frameDiff b c ≡ frameDiff a c [ZMOD hyperframe] := by
  have sum := (shortestWay_frameDiff a b).leads.add (shortestWay_frameDiff b c).leads
  rw [sub_add_sub_cancel] at sum
  exact sum.trans (shortestWay_frameDiff a c).leads.symm

end

namespace GsmTime

/-! ### Moving by frames -/

section
variable {t g : GsmTime}

theorem ext_frame (same : t.frame = g.frame) : t = g := by
  cases t
  cases g
  cases same
  rfl

theorem frame_addFrames_emod (t : GsmTime) (n : Int) :
    ((t.addFrames n).frame : Int) = (t.frame + n) % hyperframe := by
  have nonneg : 0 ≤ (t.frame + n) % (hyperframe : Int) := Int.emod_nonneg _ (by decide)
  unfold addFrames
  rw [frame_ofFrame, Int.natCast_emod, Int.toNat_of_nonneg nonneg, Int.emod_emod]

@[simp] theorem addFrames_zero : t.addFrames 0 = t := by
  unfold addFrames
  rw [add_zero, ← Int.natCast_emod, Int.toNat_natCast, Nat.mod_eq_of_lt t.frame_lt, ofFrame_frame]

theorem addFrames_addFrames (t : GsmTime) (n m : Int) :
    (t.addFrames n).addFrames m = t.addFrames (n + m) := by
  apply ext_frame
  rw [← Int.natCast_inj, frame_addFrames_emod, frame_addFrames_emod, frame_addFrames_emod,
    Int.emod_add_emod, add_assoc]

theorem addFrames_neg (t : GsmTime) (n : Int) : (t.addFrames n).addFrames (-n) = t := by
  rw [addFrames_addFrames, add_neg_cancel, addFrames_zero]

/-- Moving by `n` frames is the shortest way where `n` is below half a hyperframe. -/
theorem diff_addFrames_iff (t : GsmTime) (n : Int) : (t.addFrames n).diff t = n ↔
    -(hyperframe / 2 : Nat) ≤ n ∧ n < (hyperframe / 2 : Nat) := by
  have leads : n ≡ (t.addFrames n).frame - t.frame [ZMOD hyperframe] := by
    have moved := (Int.mod_modEq (t.frame + n) hyperframe).sub_right t.frame
    rw [← frame_addFrames_emod, add_sub_cancel_left] at moved
    exact moved.symm
  unfold diff
  rw [eq_comm, eq_frameDiff_iff]
  exact ⟨fun way => ⟨way.low, way.high⟩, fun ⟨low, high⟩ => ⟨leads, low, high⟩⟩

end

/-! ### Counters -/

section
variable {t : GsmTime} {t1 t2 t3 : Nat}

/-- Counters that a frame of the hyperframe can have. -/
def InRange (t1 t2 t3 : Nat) : Prop := t1 < 2048 ∧ t2 < trafficMultiframe ∧ t3 < controlMultiframe

/-- The number that the counters reassemble to. -/
def reassembled (t1 t2 t3 : Nat) : Nat := 51 * ((t3 + 26 - t2) % 26) + t3 + 51 * 26 * t1

theorem reassembled_lt (range : InRange t1 t2 t3) : reassembled t1 t2 t3 < hyperframe := by
  obtain ⟨superframe, traffic, control⟩ := range
  unfold controlMultiframe at control
  unfold reassembled hyperframe
  omega

theorem inRange_counters (t : GsmTime) : InRange t.t1 t.t2 t.t3 := by
  refine ⟨?_, Nat.mod_lt _ (by decide), Nat.mod_lt _ (by decide)⟩
  have lt := t.frame_lt
  unfold hyperframe at lt
  unfold GsmTime.t1 trafficMultiframe controlMultiframe
  omega

theorem reassembled_counters (t : GsmTime) : reassembled t.t1 t.t2 t.t3 = t.frame := by
  unfold reassembled GsmTime.t1 GsmTime.t2 GsmTime.t3 trafficMultiframe controlMultiframe
  omega

/-- The frame of the reassembled number has the counters it was made of. -/
theorem counters_reassembled (range : InRange t1 t2 t3) (frame : t.frame = reassembled t1 t2 t3) :
    t.t1 = t1 ∧ t.t2 = t2 ∧ t.t3 = t3 := by
  obtain ⟨superframe, traffic, control⟩ := range
  unfold reassembled at frame
  unfold trafficMultiframe at traffic
  unfold controlMultiframe at control
  unfold GsmTime.t1 GsmTime.t2 GsmTime.t3 trafficMultiframe controlMultiframe
  refine ⟨?_, ?_, ?_⟩ <;> omega

theorem ofCounters?_of_inRange (range : InRange t1 t2 t3) :
    ofCounters? t1 t2 t3 = some (ofFrame (reassembled t1 t2 t3)) := if_pos range

/-- The counters give a time back just where they are its own. -/
theorem ofCounters?_eq_some_iff :
    ofCounters? t1 t2 t3 = some t ↔ t.t1 = t1 ∧ t.t2 = t2 ∧ t.t3 = t3 := by
  constructor
  · intro given
    unfold ofCounters? at given
    obtain ⟨range, same⟩ := Option.ite_none_right_eq_some.mp given
    cases same
    exact counters_reassembled range (Nat.mod_eq_of_lt (reassembled_lt range))
  · rintro ⟨rfl, rfl, rfl⟩
    rw [ofCounters?_of_inRange (inRange_counters t), reassembled_counters, ofFrame_frame]

theorem isSome_ofCounters?_iff : (ofCounters? t1 t2 t3).isSome ↔ InRange t1 t2 t3 := by
  unfold ofCounters?
  rw [Option.isSome_ite]
  rfl

/-- The time given back is that of the reassembled number, which needs no reduction. -/
theorem ofCounters?_eq_some_reassembled_iff : ofCounters? t1 t2 t3 = some t ↔
    InRange t1 t2 t3 ∧ reassembled t1 t2 t3 < hyperframe ∧ t = ofFrame (reassembled t1 t2 t3) := by
  constructor
  · intro given
    have range : InRange t1 t2 t3 := by
      rw [← isSome_ofCounters?_iff, given]
      rfl
    rw [ofCounters?_of_inRange range, Option.some_inj] at given
    exact ⟨range, reassembled_lt range, given.symm⟩
  · rintro ⟨range, -, rfl⟩
    exact ofCounters?_of_inRange range

/-- Frames with the same counters are whole hyperframes apart. -/
theorem counters_eq_iff {f f' : Nat} :
    ((ofFrame f).t1 = (ofFrame f').t1 ∧ (ofFrame f).t2 = (ofFrame f').t2 ∧
      (ofFrame f).t3 = (ofFrame f').t3) ↔ f ≡ f' [MOD hyperframe] := by
  constructor
  · rintro ⟨superframe, traffic, control⟩
    have same := reassembled_counters (ofFrame f)
    rw [superframe, traffic, control, reassembled_counters] at same
    exact same.symm
  · intro same
    have times : ofFrame f = ofFrame f' := ext_frame same
    rw [times]
    exact ⟨rfl, rfl, rfl⟩

end
end GsmTime

/-! ### The machine's results -/

/-- The machine comes to the difference of any two frame numbers, which is the shortest way from the
one to the other and no other number; the way back is as long unless it is half a hyperframe, and
ways add up. It moves any time by any number of frames, to the frame so many frames away; moves add
up, the opposite move leads back, and the difference to where a move began is the move, if that is
below half a hyperframe. -/
theorem frame_arithmetic_exact :
    (∀ a b : UInt32,
      Machine.fnDiff a.toNat b.toNat = .ok (frameDiff a.toNat b.toNat) ∧
      (∀ d, d = frameDiff a.toNat b.toNat ↔ ShortestWay a.toNat b.toNat d) ∧
      (frameDiff b.toNat a.toNat = -frameDiff a.toNat b.toNat ↔
        frameDiff a.toNat b.toNat ≠ -(hyperframe / 2 : Nat)) ∧
      ∀ c : UInt32, frameDiff a.toNat b.toNat + frameDiff b.toNat c.toNat ≡
        frameDiff a.toNat c.toNat [ZMOD hyperframe]) ∧
    ∀ (t : GsmTime) (n m : Int32),
      Machine.addFrames t n.toInt = .ok (t.addFrames n.toInt) ∧
      ((t.addFrames n.toInt).frame : Int) = (t.frame + n.toInt) % hyperframe ∧
      (t.addFrames n.toInt).addFrames m.toInt = t.addFrames (n.toInt + m.toInt) ∧
      (t.addFrames n.toInt).addFrames (-n.toInt) = t ∧
      Machine.fnDiff (t.addFrames n.toInt).frame t.frame = .ok ((t.addFrames n.toInt).diff t) ∧
      ((t.addFrames n.toInt).diff t = n.toInt ↔
        -(hyperframe / 2 : Nat) ≤ n.toInt ∧ n.toInt < (hyperframe / 2 : Nat)) := by
  refine ⟨fun a b => ⟨?_, fun d => ?_, ?_, fun c => ?_⟩, fun t n m => ⟨?_, ?_, ?_, ?_, ?_, ?_⟩⟩
  · exact Machine.fnDiff_eq a.toNat_lt b.toNat_lt
  · exact eq_frameDiff_iff
  · exact frameDiff_swap_iff
  · exact frameDiff_add a.toNat b.toNat c.toNat
  · exact Machine.addFrames_eq t n
  · exact GsmTime.frame_addFrames_emod t n.toInt
  · exact GsmTime.addFrames_addFrames t n.toInt m.toInt
  · exact GsmTime.addFrames_neg t n.toInt
  · have word : ∀ g : GsmTime, g.frame < 2 ^ 32 := fun g => g.frame_lt.trans (by decide)
    exact Machine.fnDiff_eq (word _) (word t)
  · exact GsmTime.diff_addFrames_iff t n.toInt

/-- The machine gives every frame's time back from its counters. It takes counters just where they
are in range, and then gives the one time that has them: that of the reassembled number, which lies
within the hyperframe. Two frames have the same counters just where they are whole hyperframes
apart. -/
theorem counters_name_frame :
    (∀ fn : UInt32, let t := GsmTime.ofFrame fn.toNat
      Machine.ofCounters? t.t1 t.t2 t.t3 = .ok (some t)) ∧
    (∀ t1 t2 t3 : Nat,
      Machine.ofCounters? t1 t2 t3 = .ok (GsmTime.ofCounters? t1 t2 t3) ∧
      ((GsmTime.ofCounters? t1 t2 t3).isSome ↔ t1 < 2048 ∧ t2 < 26 ∧ t3 < 51) ∧
      ∀ t, (GsmTime.ofCounters? t1 t2 t3 = some t ↔ t.t1 = t1 ∧ t.t2 = t2 ∧ t.t3 = t3) ∧
        (GsmTime.ofCounters? t1 t2 t3 = some t ↔ GsmTime.InRange t1 t2 t3 ∧
          GsmTime.reassembled t1 t2 t3 < hyperframe ∧
          t = .ofFrame (GsmTime.reassembled t1 t2 t3))) ∧
    ∀ f f' : UInt32, let t := GsmTime.ofFrame f.toNat
      let t' := GsmTime.ofFrame f'.toNat
      (t.t1 = t'.t1 ∧ t.t2 = t'.t2 ∧ t.t3 = t'.t3) ↔ f.toNat ≡ f'.toNat [MOD hyperframe] := by
  refine ⟨fun fn => ?_, fun t1 t2 t3 => ⟨?_, ?_, fun t => ⟨?_, ?_⟩⟩, fun f f' => ?_⟩
  · intro t
    rw [Machine.ofCounters?_eq, GsmTime.ofCounters?_eq_some_iff.mpr ⟨rfl, rfl, rfl⟩]
  · exact Machine.ofCounters?_eq t1 t2 t3
  · exact GsmTime.isSome_ofCounters?_iff
  · exact GsmTime.ofCounters?_eq_some_iff
  · exact GsmTime.ofCounters?_eq_some_reassembled_iff
  · exact GsmTime.counters_eq_iff

end BaseStation
