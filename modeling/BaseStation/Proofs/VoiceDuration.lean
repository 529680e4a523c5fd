import BaseStation.Lchan.Voice
import BaseStation.Phy.Virtual
import Mathlib.Data.List.Chain
import Mathlib.Data.Nat.ModEq

/-!
The durations of voice frames. Where the mobile station may leave frames out, the duration of a
voice frame is worked out from the radio frames since the last one: at 12 voice frames in 52 radio
frames, rounded to whole voice frames. The blocks of a traffic channel start 4 or 5 frames apart, so
each duration is a little off before it is rounded. The errors do not add up: a duration is that of
the blocks that started since the last frame, and over a whole call no time is lost or gained.
-/

namespace BaseStation

/-! ### Blocks of a traffic channel -/

/-- A block of a full rate traffic channel starts in the frame. -/
def startsBlock (fn : Nat) : Bool := decide (fn % trafficMultiframe ∈ VirtualPhy.tchBlockStarts)

/-- The number of blocks that start in the `n` frames after the frame `fn`. -/
def blockStarts (fn : Nat) : Nat → Nat
  | 0 => 0
  | n + 1 => blockStarts fn n + if startsBlock ((fn + n + 1) % hyperframe) then 1 else 0

/-- A hyperframe is made of whole multiframes. -/
theorem startsBlock_wrapped {fn : Nat} : startsBlock (fn % hyperframe) = startsBlock fn := by
  unfold startsBlock
  rw [Nat.mod_mod_of_dvd fn (by decide)]

/-- The number of blocks that start in a multiframe up to its frame `r`. -/
def startsUpTo (r : Nat) : Nat := VirtualPhy.tchBlockStarts.countP (· ≤ r)

/-- The number of blocks that start up to a frame, since frame zero. -/
def startsBy (fn : Nat) : Nat := 6 * (fn / 26) + startsUpTo (fn % 26)

theorem startsBy_succ (fn : Nat) :
    startsBy (fn + 1) = startsBy fn + if startsBlock (fn + 1) then 1 else 0 := by
  have every : ∀ r : Fin 26, 6 * ((r.val + 1) / 26) + startsUpTo ((r.val + 1) % 26) =
      startsUpTo r + if startsBlock (r.val + 1) then 1 else 0 := by decide
  have place := every ⟨fn % 26, Nat.mod_lt _ (by decide)⟩
  have starts : startsBlock (fn % 26 + 1) = startsBlock (fn + 1) := by
    unfold startsBlock
    rw [Nat.mod_add_mod]
  have multiframe : (fn + 1) / 26 = fn / 26 + (fn % 26 + 1) / 26 := by omega
  have frame : (fn + 1) % 26 = (fn % 26 + 1) % 26 := by omega
  dsimp only at place
  rw [starts] at place
  unfold startsBy
  rw [multiframe, frame]
  omega

theorem blockStarts_add_startsBy (fn n : Nat) :
    blockStarts fn n + startsBy fn = startsBy (fn + n) := by
  induction n with
  | zero => exact Nat.zero_add _
  | succ n ih =>
    rw [blockStarts, startsBlock_wrapped, ← Nat.add_assoc, startsBy_succ]
    omega

theorem blockStarts_add (fn m n : Nat) :
    blockStarts fn (m + n) = blockStarts fn m + blockStarts (fn + m) n := by
  have whole := blockStarts_add_startsBy fn (m + n)
  have first := blockStarts_add_startsBy fn m
  have rest := blockStarts_add_startsBy (fn + m) n
  rw [← Nat.add_assoc] at whole
  omega

theorem blockStarts_congr {a b : Nat} (same : a ≡ b [MOD hyperframe]) (n : Nat) :
    blockStarts a n = blockStarts b n := by
  induction n with
  | zero => rfl
  | succ n ih =>
    have frame : (a + n + 1) % hyperframe = (b + n + 1) % hyperframe := same.add_right (n + 1)
    rw [blockStarts, blockStarts, ih, frame]

/-- Six blocks take 26 frames. A block that starts is at most two thirds of a frame early against
an even spacing. -/
theorem startsBy_of_start {fn : Nat} (start : startsBlock fn = true) :
    3 * fn + 13 ≤ 13 * startsBy fn ∧ 13 * startsBy fn ≤ 3 * fn + 15 := by
  have every : ∀ r : Fin 26, startsBlock r.val = true →
      3 * r.val + 13 ≤ 13 * startsUpTo r ∧ 13 * startsUpTo r ≤ 3 * r.val + 15 := by decide
  have wrapped : startsBlock (fn % 26) = true := by
    unfold startsBlock at start ⊢
    rwa [Nat.mod_mod]
  obtain ⟨low, high⟩ := every ⟨fn % 26, Nat.mod_lt _ (by decide)⟩ wrapped
  dsimp only at low high
  unfold startsBy
  omega

/-- From one start of a block to another the rounding takes the error away. -/
theorem rounded_of_starts {fn n : Nat} (start : startsBlock fn = true)
    (next : startsBlock (fn + n) = true) :
    (n * 12 * 160 / 52 + 80) / 160 * 160 = 160 * blockStarts fn n := by
  obtain ⟨low, high⟩ := startsBy_of_start start
  obtain ⟨low', high'⟩ := startsBy_of_start next
  have count := blockStarts_add_startsBy fn n
  omega

/-! ### The duration of a voice frame -/

section Duration

variable {a b fn last : UInt32}

/-- The radio frames that a duration is worked out from. -/
def framesSince (fn last : UInt32) : Nat := (frameDiff fn.toNat last.toNat).toNat

/-- Frame numbers lie less than half a hyperframe apart. -/
theorem framesSince_lt : framesSince fn last < 1357824 := by
  have lt : frameDiff fn.toNat last.toNat < 1357824 := Int.bmod_lt (m := hyperframe) (by decide)
  unfold framesSince
  omega

theorem toNat_framesElapsed : (framesElapsed fn last).toNat = framesSince fn last :=
  UInt32.toNat_ofNat_of_lt' (framesSince_lt.trans (by decide))

/-- The steps of the computation fit in 32 bits, and its result is exact. -/
structure ExactDuration (fn last : UInt32) : Prop where
  scaled : framesSince fn last * 12 * 160 < 2 ^ 32
  raised : framesSince fn last * 12 * 160 / 52 + 80 < 2 ^ 32
  exact : (voiceDuration fn (some last) true).toNat =
    (framesSince fn last * 12 * 160 / 52 + 80) / 160 * 160

theorem exactDuration (fn last : UInt32) : ExactDuration fn last := by
  have lt : framesSince fn last < 1357824 := framesSince_lt
  have elapsed : (framesElapsed fn last).toNat = framesSince fn last := toNat_framesElapsed
  refine ⟨by omega, by omega, ?_⟩
  unfold voiceDuration
  dsimp only
  rw [if_pos rfl]
  generalize framesElapsed fn last = e at elapsed ⊢
  have twelve : (12 : UInt32).toNat = 12 := rfl
  have frame : voiceSamples.toNat = 160 := rfl
  have half : (voiceSamples / 2).toNat = 80 := rfl
  have multiframe : (13 * 4 : UInt32).toNat = 52 := rfl
  have scaled : (e * 12 * voiceSamples).toNat = framesSince fn last * 12 * 160 := by
    rw [UInt32.toNat_mul, UInt32.toNat_mul, twelve, frame, elapsed]
    omega
  have raised : (e * 12 * voiceSamples / (13 * 4) + voiceSamples / 2).toNat =
      framesSince fn last * 12 * 160 / 52 + 80 := by
    rw [UInt32.toNat_add, UInt32.toNat_div, scaled, multiframe, half]
    omega
  generalize e * 12 * voiceSamples / (13 * 4) + voiceSamples / 2 = r at raised ⊢
  have part : r % voiceSamples ≤ r := by
    rw [UInt32.le_iff_toNat_le, UInt32.toNat_mod]
    exact Nat.mod_le _ _
  rw [UInt32.toNat_sub_of_le _ _ part, UInt32.toNat_mod, frame, raised]
  omega

/-- A duration is one of whole voice frames. -/
theorem dvd_voiceDuration (fn : UInt32) (last : Option UInt32) (dtx : Bool) :
    160 ∣ (voiceDuration fn last dtx).toNat := by
  cases last with
  | none => exact ⟨1, rfl⟩
  | some last =>
    cases dtx with
    | false => exact ⟨1, rfl⟩
    | true =>
      rw [(exactDuration fn last).exact]
      exact Nat.dvd_mul_left 160 _

end Duration

/-! ### Frames of a call -/

/-- The frames from a frame number until the other one comes next. -/
def framesTo (a b : Nat) : Nat := ((b - a : Int) % hyperframe).toNat

theorem add_framesTo (a b : Nat) : a + framesTo a b ≡ b [MOD hyperframe] := by
  unfold Nat.ModEq framesTo hyperframe
  omega

theorem framesTo_of_add {a b n : Nat} (ends : a + n ≡ b [MOD hyperframe]) :
    n % hyperframe = framesTo a b := by
  unfold Nat.ModEq hyperframe at ends
  unfold framesTo hyperframe
  omega

/-- A frame number that comes within half a hyperframe is told from an earlier one. -/
theorem framesSince_of_soon {a b : UInt32}
    (soon : framesTo a.toNat b.toNat < hyperframe / 2) :
    framesSince b a = framesTo a.toNat b.toNat := by
  unfold framesTo hyperframe at soon
  unfold framesSince framesTo frameDiff
  rw [Int.bmod_eq_emod_of_lt (by unfold hyperframe; omega)]

/-- The voice frames of a call, by the frames in which they came in: each at the start of a block,
and within half a hyperframe after the one before it. -/
structure VoiceFrames (fns : List UInt32) : Prop where
  starts : ∀ fn ∈ fns, startsBlock fn.toNat = true
  soon : fns.IsChain fun a b =>
    0 < framesTo a.toNat b.toNat ∧ framesTo a.toNat b.toNat < hyperframe / 2

/-- The radio frames that a call takes, from its first voice frame to its last one. -/
def elapsed : List UInt32 → Nat
  | a :: b :: fns => framesTo a.toNat b.toNat + elapsed (b :: fns)
  | _ => 0

/-- The durations of voice frames; `last` is the frame of the one before them. -/
def durationsFrom (last : Option UInt32) : List UInt32 → List UInt32
  | [] => []
  | fn :: fns => voiceDuration fn last true :: durationsFrom (some fn) fns

/-- The durations keep time: each after the first one is that of the blocks that started since the
frame before it, and together they are those of the blocks that started after the first frame and
up to the last one. Whole hyperframes in between count as well. -/
structure KeepsTime (fns ds : List UInt32) : Prop where
  sent : ds.length = fns.length
  each : ds.tail.map UInt32.toNat =
    List.zipWith (fun a b => 160 * blockStarts a.toNat (framesTo a.toNat b.toNat)) fns fns.tail
  total : ∀ first ∈ fns.head?, ∀ last ∈ fns.getLast?, (ds.tail.map UInt32.toNat).sum =
    160 * blockStarts first.toNat
      (framesTo first.toNat last.toNat + hyperframe * (elapsed fns / hyperframe))

section Call

variable {fns : List UInt32}

theorem length_durationsFrom (last : Option UInt32) :
    (durationsFrom last fns).length = fns.length := by
  induction fns generalizing last with
  | nil => rfl
  | cons fn fns ih => exact congrArg (· + 1) (ih (some fn))

theorem map_durationsFrom {a : UInt32} (frames : VoiceFrames (a :: fns)) :
    (durationsFrom (some a) fns).map UInt32.toNat = List.zipWith
      (fun a b => 160 * blockStarts a.toNat (framesTo a.toNat b.toNat)) (a :: fns) fns := by
  induction fns generalizing a with
  | nil => rfl
  | cons b fns ih =>
    obtain ⟨starts, soon⟩ := frames
    rw [List.isChain_cons_cons] at soon
    have start : startsBlock a.toNat = true := starts a List.mem_cons_self
    have next : startsBlock (a.toNat + framesTo a.toNat b.toNat) = true := by
      rw [← startsBlock_wrapped, add_framesTo, startsBlock_wrapped]
      exact starts b (List.mem_cons_of_mem _ List.mem_cons_self)
    have duration : (voiceDuration b (some a) true).toNat =
        160 * blockStarts a.toNat (framesTo a.toNat b.toNat) := by
      rw [(exactDuration b a).exact, framesSince_of_soon soon.1.2, rounded_of_starts start next]
    have rest := ih ⟨fun fn hfn => starts fn (List.mem_cons_of_mem _ hfn), soon.2⟩
    rw [durationsFrom, List.map_cons, duration, rest, List.zipWith_cons_cons]

/-- The blocks that started between the frames of a call are those of the whole call. -/
theorem sum_blockStarts (a : UInt32) (fns : List UInt32) :
    (List.zipWith (fun a b => 160 * blockStarts a.toNat (framesTo a.toNat b.toNat))
      (a :: fns) fns).sum = 160 * blockStarts a.toNat (elapsed (a :: fns)) := by
  induction fns generalizing a with
  | nil => rfl
  | cons b fns ih =>
    have next : blockStarts (a.toNat + framesTo a.toNat b.toNat) (elapsed (b :: fns)) =
        blockStarts b.toNat (elapsed (b :: fns)) := blockStarts_congr (add_framesTo _ _) _
    rw [List.zipWith_cons_cons, List.sum_cons, ih, elapsed, blockStarts_add, next]
    omega

/-- A call ends in its last frame. -/
theorem add_elapsed {a last : UInt32} (ends : last ∈ (a :: fns).getLast?) :
    a.toNat + elapsed (a :: fns) ≡ last.toNat [MOD hyperframe] := by
  induction fns generalizing a with
  | nil =>
    cases ends
    rfl
  | cons b fns ih =>
    have rest := ih (a := b) (by simpa using ends)
    have first := add_framesTo a.toNat b.toNat
    rw [elapsed, ← Nat.add_assoc]
    exact (first.add_right _).trans rest

theorem VoiceFrames.keepsTime (frames : VoiceFrames fns) (last : Option UInt32) :
    KeepsTime fns (durationsFrom last fns) := by
  refine ⟨length_durationsFrom last, ?_, ?_⟩
  · cases fns with
    | nil => rfl
    | cons a fns => exact map_durationsFrom frames
  · intro first begins end' ends
    cases fns with
    | nil => cases begins
    | cons a fns =>
      cases begins
      have whole : elapsed (first :: fns) % hyperframe = framesTo first.toNat end'.toNat :=
        framesTo_of_add (add_elapsed ends)
      rw [← whole, Nat.mod_add_div, ← sum_blockStarts]
      exact congrArg List.sum (map_durationsFrom frames)

end Call

end BaseStation
