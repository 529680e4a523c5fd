import BaseStation.Proofs.Machine.Lchan
import Mathlib.Data.List.Basic
import Mathlib.Data.List.Induction

/-!
# The account of a voice queue

A queue is reached from an empty one by calls that push a frame, pop one or clear the queue. Frames
leave it in the order in which they were pushed (`frames_reach`), so the calls and their answers
alone tell what waits: the frames pushed last, as many as have not left. The limit is kept unless it
is zero, in which case the frame pushed last waits all the same (`length_reach_le`).
-/

namespace BaseStation

/-- A call on a queue. -/
inductive QueueOp where
  | push (f : VoiceFrame)
  | pop
  | clear
deriving DecidableEq

/-- How a frame leaves a queue. -/
inductive Departure where
  | popped
  | dropped
  | cleared
deriving DecidableEq

namespace QueueOp

/-- The queue behind the call. -/
def apply (q : VoiceQueue) : QueueOp → VoiceQueue
  | push f => (q.push f).1
  | pop => q.pop.2
  | clear => q.clear

/-- The frame that the call pushes. -/
def frame? : QueueOp → Option VoiceFrame
  | push f => some f
  | pop | clear => none

/-- How frames leave the queue by the call: as many are dropped as a push tells, one is popped if a
pop returns one, and all that waited are cleared. -/
def departures (q : VoiceQueue) : QueueOp → List Departure
  | push f => List.replicate (q.push f).2 .dropped
  | pop => q.pop.1.toList.map fun _ => .popped
  | clear => List.replicate q.length .cleared

end QueueOp

namespace VoiceQueue

variable {limit : Nat} {q : VoiceQueue} {op : QueueOp} {ops : List QueueOp}

/-- The queue behind a run of calls on an empty one. -/
def reach (limit : Nat) (ops : List QueueOp) : VoiceQueue :=
  ops.foldl QueueOp.apply (withLimit limit)

/-- The frames that a run of calls pushes. -/
def pushed (ops : List QueueOp) : List VoiceFrame := ops.filterMap QueueOp.frame?

/-- How frames leave the queue `q` in a run of calls, one entry for each of them. -/
def departuresFrom (q : VoiceQueue) : List QueueOp → List Departure
  | [] => []
  | op :: ops => op.departures q ++ departuresFrom (op.apply q) ops

/-- How frames left a queue that was empty before the calls. -/
def departures (limit : Nat) (ops : List QueueOp) : List Departure :=
  departuresFrom (withLimit limit) ops

/-- Those of the frames `fs` that were neither popped nor cleared, where `ds` tells how the first
ones of them left. -/
def remaining : List VoiceFrame → List Departure → List VoiceFrame
  | fs, [] => fs
  | [], _ :: _ => []
  | f :: fs, d :: ds => if d = .dropped then f :: remaining fs ds else remaining fs ds

/-! ### One more call -/

theorem reach_snoc (limit : Nat) (ops : List QueueOp) (op : QueueOp) :
    reach limit (ops ++ [op]) = op.apply (reach limit ops) :=
  List.foldl_concat _ _ _ _

theorem pushed_snoc (ops : List QueueOp) (op : QueueOp) :
    pushed (ops ++ [op]) = pushed ops ++ op.frame?.toList := by
  rw [pushed, List.filterMap_append, ← pushed]
  cases op <;> rfl

theorem departuresFrom_snoc (q : VoiceQueue) (ops : List QueueOp) (op : QueueOp) :
    departuresFrom q (ops ++ [op]) =
      departuresFrom q ops ++ op.departures (ops.foldl QueueOp.apply q) := by
  induction ops generalizing q with
  | nil => simp [departuresFrom]
  | cons first ops ih =>
    rw [List.cons_append, departuresFrom, ih, departuresFrom, List.foldl_cons, List.append_assoc]

theorem departures_snoc (limit : Nat) (ops : List QueueOp) (op : QueueOp) :
    departures limit (ops ++ [op]) = departures limit ops ++ op.departures (reach limit ops) :=
  departuresFrom_snoc _ ops op

/-! ### What a call does -/

theorem limit_apply (q : VoiceQueue) (op : QueueOp) : (op.apply q).limit = q.limit := by
  cases op <;> rfl

theorem limit_reach (limit : Nat) (ops : List QueueOp) : (reach limit ops).limit = limit := by
  induction ops using List.reverseRecOn with
  | nil => rfl
  | append_singleton ops op ih => rw [reach_snoc, limit_apply, ih]

theorem length_departures_le (q : VoiceQueue) (op : QueueOp) :
    (op.departures q).length ≤ q.frames.length := by
  cases op with
  | push f => simp [QueueOp.departures, push, excess]
  | pop => cases h : q.frames <;> simp [QueueOp.departures, pop, h]
  | clear => simp [QueueOp.departures, length]

/-- A call brings in its frame at the end, and the frames that leave are the oldest. -/
theorem frames_apply (q : VoiceQueue) (op : QueueOp) :
    (op.apply q).frames = (q.frames ++ op.frame?.toList).drop (op.departures q).length := by
  rw [List.drop_append_of_le_length (length_departures_le q op)]
  cases op with
  | push f => simp [QueueOp.apply, QueueOp.departures, QueueOp.frame?, push]
  | pop => cases h : q.frames <;> simp [QueueOp.apply, QueueOp.departures, QueueOp.frame?, pop, h]
  | clear => simp [QueueOp.apply, QueueOp.departures, QueueOp.frame?, clear, length]

/-- A call leaves a queue within its limit, or with one frame. -/
theorem length_apply_le (has : q.limit = limit) (within : q.length ≤ max 1 limit) :
    (op.apply q).length ≤ max 1 limit := by
  cases op with
  | push f => exact has ▸ q.length_push_le f
  | pop =>
    refine Nat.le_trans ?_ within
    simp [QueueOp.apply, pop, length]
  | clear => exact Nat.zero_le _

/-- A frame is driven out only while the queue is full. -/
theorem full_of_lt_push {f : VoiceFrame} {n : Nat} (more : n < (q.push f).2) :
    q.limit ≤ q.length - n := by
  simp only [push, excess, length] at more ⊢
  omega

/-! ### Runs of calls -/

theorem length_reach_le (limit : Nat) (ops : List QueueOp) :
    (reach limit ops).length ≤ max 1 limit := by
  induction ops using List.reverseRecOn with
  | nil => exact Nat.zero_le _
  | append_singleton ops op ih =>
    rw [reach_snoc]
    exact length_apply_le (limit_reach limit ops) ih

/-- Frames leave in the order in which they were pushed: those that wait are the pushed ones without
as many of the first as have left. -/
theorem frames_reach (limit : Nat) (ops : List QueueOp) :
    (departures limit ops).length ≤ (pushed ops).length ∧
      (reach limit ops).frames = (pushed ops).drop (departures limit ops).length := by
  induction ops using List.reverseRecOn with
  | nil => exact ⟨Nat.le_refl _, rfl⟩
  | append_singleton ops op ih =>
    obtain ⟨le, frames⟩ := ih
    have leaving := length_departures_le (reach limit ops) op
    rw [frames, List.length_drop] at leaving
    rw [reach_snoc, pushed_snoc, departures_snoc, frames_apply, frames,
      ← List.drop_append_of_le_length le, List.drop_drop, List.length_append, List.length_append]
    exact ⟨by omega, rfl⟩

theorem length_reach (limit : Nat) (ops : List QueueOp) :
    (departures limit ops).length + (reach limit ops).length = (pushed ops).length := by
  obtain ⟨le, frames⟩ := frames_reach limit ops
  rw [length, frames, List.length_drop]
  omega

theorem length_eq_counts (ds : List Departure) :
    ds.length = ds.count .popped + ds.count .dropped + ds.count .cleared := by
  induction ds with
  | nil => rfl
  | cons d ds ih => cases d <;> simp <;> omega

/-- Of the frames that were neither popped nor cleared, those that did not leave at all are the last
ones. -/
theorem drop_remaining {fs : List VoiceFrame} {ds : List Departure} (le : ds.length ≤ fs.length) :
    (remaining fs ds).drop (ds.count .dropped) = fs.drop ds.length := by
  induction ds generalizing fs with
  | nil => simp [remaining]
  | cons d ds ih =>
    cases fs with
    | nil => simp at le
    | cons f fs =>
      have rest := ih (Nat.le_of_succ_le_succ le)
      by_cases dropped : d = .dropped
      · simp [remaining, dropped, rest]
      · simp [remaining, dropped, rest]

/-- A push leaves its frame in the queue, whatever the limit is. -/
theorem length_push_pos (q : VoiceQueue) (f : VoiceFrame) : 0 < (q.push f).1.length := by
  simp [push, length]

/-- The limit is kept throughout a run of calls iff it is not zero or nothing is pushed. -/
theorem limit_kept_iff (limit : Nat) (ops : List QueueOp) :
    (∀ pre, pre <+: ops → (reach limit pre).length ≤ limit) ↔ limit ≠ 0 ∨ pushed ops = [] := by
  constructor
  · intro within
    by_contra! broken
    obtain ⟨rfl, some⟩ := broken
    obtain ⟨f, there⟩ := List.exists_mem_of_ne_nil _ some
    obtain ⟨op, mem, is⟩ := List.mem_filterMap.mp there
    obtain ⟨pre, post, rfl⟩ := List.append_of_mem mem
    have held := within (pre ++ [op]) ⟨post, by simp⟩
    cases op with
    | push g =>
      have one := length_push_pos (reach 0 pre) g
      rw [reach_snoc] at held
      exact absurd held (Nat.not_le.mpr one)
    | pop => cases is
    | clear => cases is
  · rintro (positive | nothing) pre ⟨post, rfl⟩
    · have le := length_reach_le limit pre
      omega
    · have all := length_reach limit pre
      rw [pushed, List.filterMap_append, List.append_eq_nil_iff] at nothing
      rw [pushed, nothing.1, List.length_nil] at all
      omega

/-- What the calls on an empty queue and their answers tell of the queue `q` behind them, where `ds`
are the ways in which frames left. -/
structure Accounted (limit : Nat) (ops : List QueueOp) (q : VoiceQueue) (ds : List Departure) :
    Prop where
  /-- What waits is what was pushed, in that order, without as many of the first as have left. -/
  order : q.frames = (pushed ops).drop ds.length
  /-- It is what was neither popped nor cleared, without as many of the first as were dropped. -/
  newest : q.frames = (remaining (pushed ops) ds).drop (ds.count .dropped)
  /-- A pop returns the first frame that was pushed and has not left. -/
  pop : q.pop.1 = (pushed ops)[ds.length]?
  /-- A push, which drives out frames one by one and counts them, adds its frame behind what waits
  without as many of the first as it tells. -/
  push : ∀ f, Machine.push q f = .ok (q.push f) ∧
    (q.push f).1.frames = q.frames.drop (q.push f).2 ++ [f] ∧
    (q.push f).1.length + (q.push f).2 = q.length + 1
  /-- It drives out no more frames than the limit asks for. -/
  needed : ∀ f n, n < (q.push f).2 → limit ≤ q.length - n
  total : (pushed ops).length =
    ds.count .popped + ds.count .dropped + ds.count .cleared + q.length

/-- A queue is made empty and with the limit that it is given, and whatever the limit is, the calls
on it are accounted for. The limit is kept at all times iff it is not zero or nothing is pushed. -/
theorem queue_accounted_and_limit_kept_iff (limit : UInt64) (ops : List QueueOp) :
    (∀ q, withRoom limit = .ok q → q = withLimit limit.toNat) ∧
      Accounted limit.toNat ops (reach limit.toNat ops) (departures limit.toNat ops) ∧
      ((∀ pre, pre <+: ops → (reach limit.toNat pre).length ≤ limit.toNat) ↔
        limit ≠ 0 ∨ pushed ops = []) := by
  refine ⟨fun _ made => eq_of_checkRoom_map made, ?_, ?_⟩
  · obtain ⟨le, frames⟩ := frames_reach limit.toNat ops
    -- the count of the frames that wait, and so of those that are driven out, is a word
    have few : (reach limit.toNat ops).frames.length < 2 ^ 64 := by
      have within : (reach limit.toNat ops).frames.length ≤ max 1 limit.toNat :=
        length_reach_le limit.toNat ops
      have word := limit.toNat_lt
      omega
    constructor
    case order => exact frames
    case newest => rw [drop_remaining le, frames]
    case pop => rw [VoiceQueue.pop, frames, List.head?_drop]
    case push =>
      intro f
      exact ⟨Machine.push_eq_of_lt few f, rfl, VoiceQueue.length_push _ f⟩
    case needed =>
      intro f n more
      have full := full_of_lt_push more
      rwa [limit_reach] at full
    case total => rw [← length_reach, length_eq_counts (departures limit.toNat ops)]
  · have zero : limit.toNat ≠ 0 ↔ limit ≠ 0 := not_congr (UInt64.toNat_inj (b := 0))
    rw [limit_kept_iff, zero]

/-- In a queue with two places the third frame drives out the first one, and a pop returns the
second one. -/
theorem third_frame_drives_out_first :
    let ops : List QueueOp :=
      [.push (.looped [1]), .push (.looped [2]), .push (.looped [3]), .pop]
    (∀ pre, pre <+: ops → (reach 2 pre).length ≤ 2) ∧ (reach 2 ops).frames = [.looped [3]] ∧
      remaining (pushed ops) (departures 2 ops) = [.looped [1], .looped [3]] := by
  intro ops
  obtain ⟨-, account, kept_iff⟩ := queue_accounted_and_limit_kept_iff 2 ops
  exact ⟨kept_iff.mpr (.inl (by decide)), account.order.trans (by decide), by decide⟩

/-- A queue whose limit is zero holds the frame that is pushed. -/
theorem frame_waits_beyond_limit :
    ¬ ∀ (limit : Nat) (ops : List QueueOp), (reach limit ops).length ≤ limit := by
  intro kept
  exact absurd (kept 0 [.push (.looped [1])]) (by decide)

end VoiceQueue
end BaseStation
