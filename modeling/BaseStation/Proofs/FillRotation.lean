import BaseStation.Lchan.SacchFill
import Mathlib.Data.List.Rotate

/-!
# The rotation of the SACCH filling blocks

A filling record is reached by calls that install a block, clear one or ask for the next one. The
installed types take turns: `round` lists them from the one behind the type sent last, and a call of
`next` sends the first of the list and moves it to the end (`round_next`). So a run of calls walks
through the list over and over (`round_calls`).
-/

namespace BaseStation

/-- `ys` is `xs` cut to `n` octets, or filled up to them with the octet 0x2b. -/
structure Padded (n : Nat) (xs ys : List UInt8) : Prop where
  length : ys.length = n
  octet : ∀ i < n, ys[i]? = some (xs[i]?.getD 0x2b)

theorem padded_padTo (n : Nat) (xs : List UInt8) : Padded n xs (padTo n xs) := by
  refine ⟨length_padTo n xs, fun i hi => ?_⟩
  by_cases hx : i < xs.length
  · have ht : i < (xs.take n).length := by simp; omega
    rw [padTo, List.getElem?_append_left ht, List.getElem?_take_of_lt hi, List.getElem?_eq_getElem hx]
    rfl
  · have ht : (xs.take n).length ≤ i := by simp; omega
    rw [padTo, List.getElem?_append_right ht, List.getElem?_replicate_of_lt (by simp; omega),
      List.getElem?_eq_none (Nat.not_lt.mp hx)]
    rfl

theorem Padded.eq_padTo {n : Nat} {xs ys : List UInt8} (h : Padded n xs ys) : ys = padTo n xs := by
  have hp := padded_padTo n xs
  refine List.ext_getElem? fun i => ?_
  by_cases hi : i < n
  · rw [h.octet i hi, hp.octet i hi]
  · rw [List.getElem?_eq_none (by have := h.length; omega),
      List.getElem?_eq_none (by have := hp.length; omega)]

/-! ### The cyclic order of the types -/

namespace SysinfoType

/-- The place of `u` in the cyclic order that starts behind `t`, from 0 for the type behind `t` to
22 for `t` itself. -/
def ahead (t u : SysinfoType) : Nat := (u.index.val + 22 - t.index.val) % 23

theorem index_injective {t u : SysinfoType} (h : t.index = u.index) : t = u := by
  revert h
  cases t <;> cases u <;> decide

theorem getElem?_all (t : SysinfoType) : all[t.index.val]? = some t := by cases t <;> rfl

theorem map_ahead_after (t : SysinfoType) : (after t).map (ahead t) = List.range 23 := by
  cases t <;> decide

theorem after_eq_rotate (t : SysinfoType) : after t = all.rotate (t.index + 1) := by
  have ht : t.index.val + 1 ≤ all.length := t.index.isLt
  rw [List.rotate_eq_drop_append_take ht, after]

theorem mem_after (t u : SysinfoType) : u ∈ after t := by
  rw [after_eq_rotate, List.mem_rotate]
  exact List.mem_of_getElem? (getElem?_all u)

theorem pairwise_after (t : SysinfoType) :
    (after t).Pairwise fun u v => ahead t u < ahead t v := by
  have hr : (List.range 23).Pairwise (· < ·) := List.pairwise_lt_range
  rw [← map_ahead_after t, List.pairwise_map] at hr
  exact hr

/-- What comes behind a type that stands in the order behind `t`: the rest of that order, then what
stood before the type, then the type itself. -/
theorem after_of_after {t u : SysinfoType} {xs ys : List SysinfoType} (h : after t = xs ++ u :: ys) :
    after u = ys ++ xs ++ [u] := by
  have hlen : (xs ++ u :: ys).length = 23 := by rw [← h, after_eq_rotate, List.length_rotate]; rfl
  have hxs : xs.length < all.length := by
    simp only [List.length_append, List.length_cons] at hlen
    change xs.length < 23
    omega
  have hu : all[(xs.length + (t.index.val + 1)) % 23]? = some u := by
    have hg := List.getElem?_rotate (n := t.index.val + 1) hxs
    rw [← after_eq_rotate, h, List.getElem?_append_right (Nat.le_refl _), Nat.sub_self] at hg
    exact hg.symm
  -- the place where `u` stands is the index of `u`, because no type stands in two places
  have hi : (xs.length + (t.index.val + 1)) % 23 = u.index := by
    have hnd : all.Nodup := by decide
    exact (List.getElem?_inj (Nat.mod_lt _ (by decide)) hnd).mp (hu.trans (getElem?_all u).symm)
  calc after u = all.rotate (u.index + 1) := after_eq_rotate u
    _ = all.rotate ((t.index + 1) + (xs.length + 1)) := by
        rw [← List.rotate_mod all (u.index + 1), ← List.rotate_mod all (t.index.val + 1 + _)]
        congr 1
        change (_ + 1) % 23 = _ % 23
        omega
    _ = (xs ++ u :: ys).rotate (xs.length + 1) := by rw [← List.rotate_rotate, ← after_eq_rotate, h]
    _ = ys ++ xs ++ [u] := by
        rw [List.append_cons, List.rotate_eq_drop_append_take (by simp),
          List.drop_left' (by simp), List.take_left' (by simp), List.append_assoc]

end SysinfoType

/-! ### Calls on a filling record -/

/-- A call on a filling record. -/
inductive FillOp where
  | set (t : SysinfoType) (data : List UInt8)
  | clear (t : SysinfoType)
  | next
deriving DecidableEq

namespace FillOp

/-- The record behind the call. -/
def apply (f : SacchFill) : FillOp → SacchFill
  | set t data => f.set t data
  | clear t => f.clear t
  | next => f.next.2

/-- The type that the call installs or clears. -/
def type? : FillOp → Option SysinfoType
  | set t _ => some t
  | clear t => some t
  | next => none

end FillOp

namespace SacchFill

open SysinfoType (ahead after)

/-- The record behind a run of calls on an empty one. -/
def reach (ops : List FillOp) : SacchFill := ops.foldl FillOp.apply empty

/-- The last call of `ops` that installed or cleared the type `t` installed `data`. -/
def Installed (ops : List FillOp) (t : SysinfoType) (data : List UInt8) : Prop :=
  (ops.filter (·.type? = some t)).getLast? = some (.set t data)

instance (ops : List FillOp) (t : SysinfoType) (data : List UInt8) :
    Decidable (Installed ops t data) :=
  inferInstanceAs (Decidable (_ = _))

/-- The record behind `n` calls of `next`. -/
def calls (n : Nat) (f : SacchFill) : SacchFill := (fun f => f.next.2)^[n] f

/-- The type `t` is the first valid one behind the type sent last. -/
structure IsNext (f : SacchFill) (t : SysinfoType) : Prop where
  valid : f.isValid t = true
  first : ∀ u, f.isValid u = true → ahead f.last t ≤ ahead f.last u

/-- The valid types, each once, in the cyclic order that starts behind the type sent last. -/
structure TurnOrder (f : SacchFill) (ts : List SysinfoType) : Prop where
  mem : ∀ t, t ∈ ts ↔ f.isValid t = true
  increasing : ts.Pairwise fun t u => ahead f.last t < ahead f.last u

theorem reach_snoc (ops : List FillOp) (op : FillOp) : reach (ops ++ [op]) = op.apply (reach ops) :=
  List.foldl_concat _ _ _ _

/-! ### The blocks -/

theorem block?_set_of_ne {t u : SysinfoType} (f : SacchFill) (data : List UInt8) (h : t ≠ u) :
    (f.set t data).block? u = f.block? u := by
  rw [block?_set, if_neg fun hi => h (SysinfoType.index_injective hi)]

theorem block?_clear_of_ne {t u : SysinfoType} (f : SacchFill) (h : t ≠ u) :
    (f.clear t).block? u = f.block? u := by
  rw [block?_clear, if_neg fun hi => h (SysinfoType.index_injective hi)]

theorem blocks_next (f : SacchFill) : f.next.2.blocks = f.blocks := by
  rw [next]
  split <;> rfl

theorem block?_next (f : SacchFill) (t : SysinfoType) : f.next.2.block? t = f.block? t := by
  rw [block?, blocks_next, block?]

theorem blocks_calls (n : Nat) (f : SacchFill) : (calls n f).blocks = f.blocks := by
  induction n with
  | zero => rfl
  | succ n ih => rw [calls, Function.iterate_succ_apply', ← calls, blocks_next, ih]

/-- A block is there exactly as it was installed last. -/
theorem block?_reach (ops : List FillOp) (t : SysinfoType) (b : MacBlock) :
    (reach ops).block? t = some b ↔ ∃ data, Installed ops t data ∧ b = .ofOctets data := by
  induction ops using List.reverseRecOn with
  | nil => simp [reach, empty, block?, Installed]
  | append_singleton ops op ih =>
    simp only [Installed, reach_snoc, List.filter_append] at ih ⊢
    by_cases hop : op.type? = some t
    · -- the call is about the type: it alone decides
      rw [List.filter_cons_of_pos (by simpa using hop), List.filter_nil, List.getLast?_concat]
      cases op with
      | set u data =>
        cases hop
        simp [FillOp.apply, block?_set, eq_comm]
      | clear u =>
        cases hop
        simp [FillOp.apply, block?_clear]
      | next => cases hop
    · rw [List.filter_cons_of_neg (by simpa using hop), List.filter_nil, List.append_nil, ← ih]
      cases op with
      | set u data => rw [FillOp.apply, block?_set_of_ne _ _ fun h => hop (congrArg some h)]
      | clear u => rw [FillOp.apply, block?_clear_of_ne _ fun h => hop (congrArg some h)]
      | next => rw [FillOp.apply, block?_next]

/-! ### Turns -/

/-- The valid types in the order in which they are sent next. -/
def round (f : SacchFill) : List SysinfoType := (after f.last).filter f.isValid

theorem turnOrder_round (f : SacchFill) : TurnOrder f f.round where
  mem t := by rw [round, List.mem_filter, and_iff_right (SysinfoType.mem_after _ t)]
  increasing := (SysinfoType.pairwise_after f.last).sublist List.filter_sublist

theorem isNext_of_round {f : SacchFill} {t : SysinfoType} {ts : List SysinfoType}
    (h : f.round = t :: ts) : IsNext f t := by
  have ho := f.turnOrder_round
  rw [h] at ho
  refine ⟨(ho.mem t).mp (List.mem_cons_self ..), fun u hu => ?_⟩
  obtain rfl | hts := List.mem_cons.mp ((ho.mem u).mpr hu)
  · exact Nat.le_refl _
  · exact Nat.le_of_lt (List.rel_of_pairwise_cons ho.increasing hts)

/-- With no type valid there is no block, and the rotation stays where it is. -/
theorem next_of_round_nil {f : SacchFill} (h : f.round = []) : f.next = (none, f) := by
  have hf : (after f.last).find? f.isValid = none := by rw [← List.head?_filter, ← round, h]; rfl
  rw [next, hf]

/-- The first type of the round is sent and becomes its last. -/
theorem round_next {f : SacchFill} {t : SysinfoType} {ts : List SysinfoType} (h : f.round = t :: ts) :
    f.next = (f.block? t, { f with last := t }) ∧ f.next.2.round = ts ++ [t] := by
  have hf : (after f.last).find? f.isValid = some t := by rw [← List.head?_filter, ← round, h]; rfl
  have hn : f.next = (f.block? t, { f with last := t }) := by rw [next, hf]
  refine ⟨hn, ?_⟩
  obtain ⟨hv, xs, ys, hsplit, hxs⟩ := List.find?_eq_some_iff_append.mp hf
  have hnone : xs.filter f.isValid = [] := List.filter_eq_nil_iff.mpr fun u hu => by simpa using hxs u hu
  have hts : ts = ys.filter f.isValid := by
    rw [round, hsplit, List.filter_append, hnone, List.filter_cons_of_pos hv] at h
    exact (List.cons.inj h).2.symm
  rw [hn]
  change (after t).filter f.isValid = ts ++ [t]
  rw [SysinfoType.after_of_after hsplit, List.filter_append, List.filter_append, hnone,
    List.filter_cons_of_pos hv, List.filter_nil, List.append_nil, hts]

/-- The filling whose turn it is comes first among the valid ones in the order of the rotation. -/
theorem next_of_isNext {f : SacchFill} {t : SysinfoType} (h : IsNext f t) :
    f.next = (f.block? t, { f with last := t }) := by
  have order := f.turnOrder_round
  cases hr : f.round with
  | nil =>
    rw [hr] at order
    exact absurd ((order.mem t).mpr h.valid) List.not_mem_nil
  | cons u us =>
    have hu := isNext_of_round hr
    rw [hr] at order
    -- no valid type but the first of the round is as near as that one
    have same : t = u := by
      rcases List.mem_cons.mp ((order.mem t).mpr h.valid) with same | later
      · exact same
      · have near := h.first u hu.valid
        have far := List.rel_of_pairwise_cons order.increasing later
        omega
    rw [same]
    exact (round_next hr).1

theorem round_calls (n : Nat) (f : SacchFill) : (calls n f).round = f.round.rotate n := by
  induction n with
  | zero => rw [List.rotate_zero, calls, Function.iterate_zero_apply]
  | succ n ih =>
    rw [calls, Function.iterate_succ_apply', ← calls, ← List.rotate_rotate, ← ih]
    cases hr : (calls n f).round with
    | nil => rw [next_of_round_nil hr, hr]; rfl
    | cons t ts => rw [(round_next hr).2]; simp

/-- The `i`-th call of `next` sends the type whose turn it is. -/
theorem next_calls {f : SacchFill} {i : Nat} {t : SysinfoType}
    (h : f.round[i % f.round.length]? = some t) :
    (calls i f).next.1 = f.block? t ∧ (calls (i + 1) f).last = t := by
  have hlt : i % f.round.length < f.round.length := (List.getElem?_eq_some_iff.mp h).1
  have hhead : (calls i f).round.head? = some t := by
    rw [round_calls, ← List.rotate_mod, List.head?_rotate hlt, h]
  obtain ⟨ts, hr⟩ := List.head?_eq_some_iff.mp hhead
  have hn := (round_next hr).1
  constructor
  · rw [hn, block?, blocks_calls, block?]
  · rw [calls, Function.iterate_succ_apply', ← calls, hn]

theorem next_eq_none_iff (f : SacchFill) : f.next.1 = none ↔ ∀ t, f.isValid t = false := by
  have hmem := f.turnOrder_round.mem
  cases hr : f.round with
  | nil =>
    refine iff_of_true (by rw [next_of_round_nil hr]) fun t => ?_
    rw [hr] at hmem
    exact Bool.eq_false_iff.mpr fun hv => List.not_mem_nil ((hmem t).mpr hv)
  | cons t ts =>
    have hv := (isNext_of_round hr).valid
    have hb : f.block? t ≠ none := Option.isSome_iff_ne_none.mp hv
    refine iff_of_false (by rw [(round_next hr).1]; exact hb) fun hall => ?_
    rw [hall t] at hv
    exact nomatch hv

theorem next_eq_self {f : SacchFill} (h : f.next.1 = none) : f.next.2 = f := by
  cases hr : f.round with
  | nil => rw [next_of_round_nil hr]
  | cons t ts =>
    have hv := (isNext_of_round hr).valid
    rw [(round_next hr).1] at h
    exact absurd h (Option.isSome_iff_ne_none.mp hv)

theorem isNext_next {f : SacchFill} {b : MacBlock} (h : f.next.1 = some b) :
    IsNext f f.next.2.last ∧ f.block? f.next.2.last = some b := by
  cases hr : f.round with
  | nil => rw [next_of_round_nil hr] at h; exact nomatch h
  | cons t ts =>
    have hn := (round_next hr).1
    rw [hn] at h ⊢
    exact ⟨isNext_of_round hr, h⟩

/-- Calls among which no `next` has a block to send leave the type sent last as it is. -/
theorem last_reach_append (pre post : List FillOp)
    (h : ∀ mid rest, post = mid ++ .next :: rest → (reach (pre ++ mid)).next.1 = none) :
    (reach (pre ++ post)).last = (reach pre).last := by
  induction post using List.reverseRecOn with
  | nil => rw [List.append_nil]
  | append_singleton post op ih =>
    have hpost := ih fun mid rest hm => h mid (rest ++ [op]) (by rw [hm]; simp)
    rw [← hpost, ← List.append_assoc, reach_snoc]
    cases op with
    | set t data => rfl
    | clear t => rfl
    | next => rw [FillOp.apply, next_eq_self (h post [] rfl)]

/-! ### Runs of calls -/

/-- The installed data can be read off the calls, cut or padded to 23 octets. -/
theorem block?_reach_padded (ops : List FillOp) (t : SysinfoType) (b : MacBlock) :
    (reach ops).block? t = some b ↔ ∃ data, Installed ops t data ∧ Padded 23 data b.octets := by
  rw [block?_reach]
  refine exists_congr fun data => and_congr_right fun _ => ⟨fun hb => ?_, fun hp => ?_⟩
  · rw [hb]
    exact padded_padTo 23 data
  · exact (MacBlock.mk.injEq ..).mpr hp.eq_padTo

/-- The calls of `next` walk through the round of the record, over and over. -/
theorem next_calls_round (f : SacchFill) {i : Nat} {t : SysinfoType}
    (h : f.round[i % f.round.length]? = some t) :
    ∃ b, f.block? t = some b ∧ (calls i f).next.1 = some b ∧ (calls (i + 1) f).last = t := by
  obtain ⟨hn, hl⟩ := next_calls h
  have hv := (f.turnOrder_round.mem t).mp (List.mem_of_getElem? h)
  obtain ⟨b, hb⟩ := Option.isSome_iff_exists.mp hv
  exact ⟨b, hb, hn.trans hb, hl⟩

/-- The type sent last is that of the block that was returned last. -/
theorem last_reach_of_returned {pre post : List FillOp} {b : MacBlock}
    (h : (reach pre).next.1 = some b)
    (hnone : ∀ mid rest, post = mid ++ .next :: rest → (reach (pre ++ .next :: mid)).next.1 = none) :
    IsNext (reach pre) (reach (pre ++ .next :: post)).last ∧
      (reach pre).block? (reach (pre ++ .next :: post)).last = some b := by
  have hlast := last_reach_append (pre ++ [.next]) post fun mid rest hm => by
    rw [List.append_assoc]
    exact hnone mid rest hm
  rw [List.append_assoc, List.singleton_append, reach_snoc] at hlast
  rw [hlast]
  exact isNext_next h

theorem others_kept {t u : SysinfoType} (f : SacchFill) (data : List UInt8) (h : t ≠ u) :
    (f.set t data).block? u = f.block? u ∧ (f.set t data).isValid u = f.isValid u ∧
      (f.clear t).block? u = f.block? u ∧ (f.clear t).isValid u = f.isValid u := by
  have hs := block?_set_of_ne f data h
  have hc := block?_clear_of_ne f h
  exact ⟨hs, by rw [isValid, hs, isValid], hc, by rw [isValid, hc, isValid]⟩

/-- What can be told of a filling record from the calls that it was reached by. -/
structure TakesTurns (ops : List FillOp) : Prop where
  /-- A block is the data that was set for its type last, cut or padded. -/
  content : ∀ t b, (reach ops).block? t = some b ↔
    ∃ data, Installed ops t data ∧ Padded 23 data b.octets
  /-- With `ts` the valid types in the cyclic order behind the type sent last, the `i`-th call of
  `next` from here returns the block of the `i`-th type of `ts`, counted round and round. -/
  turns : ∃ ts, TurnOrder (reach ops) ts ∧ ∀ i t, ts[i % ts.length]? = some t →
    ∃ b, (reach ops).block? t = some b ∧ (calls i (reach ops)).next.1 = some b ∧
      (calls (i + 1) (reach ops)).last = t
  /-- The type sent last is that of the block returned last. -/
  last : ∀ pre post b, ops = pre ++ .next :: post → (reach pre).next.1 = some b →
    (∀ mid rest, post = mid ++ .next :: rest → (reach (pre ++ .next :: mid)).next.1 = none) →
    IsNext (reach pre) (reach ops).last ∧ (reach pre).block? (reach ops).last = some b
  unsent : (∀ mid rest, ops = mid ++ .next :: rest → (reach mid).next.1 = none) →
    (reach ops).last = .none
  nothing : (reach ops).next.1 = none ↔ ∀ t, (reach ops).isValid t = false
  unchanged : (reach ops).next.1 = none → (reach ops).next.2 = reach ops
  others : ∀ t u data, t ≠ u →
    ((reach ops).set t data).block? u = (reach ops).block? u ∧
    ((reach ops).set t data).isValid u = (reach ops).isValid u ∧
    ((reach ops).clear t).block? u = (reach ops).block? u ∧
    ((reach ops).clear t).isValid u = (reach ops).isValid u

/-- The filling blocks take turns, behind every run of calls. -/
theorem filling_takes_turns (ops : List FillOp) : TakesTurns ops where
  content := block?_reach_padded ops
  turns := ⟨(reach ops).round, turnOrder_round _, fun _ _ => next_calls_round _⟩
  last pre post b hops hb hnone := by
    rw [hops]
    exact last_reach_of_returned hb hnone
  unsent := last_reach_append [] ops
  nothing := next_eq_none_iff _
  unchanged := next_eq_self
  others _ _ data := others_kept _ data

/-- Three types were installed and sent, then the second was cleared: the last one is still the type
sent last, and the first comes again. -/
theorem filling_skips_cleared :
    let pre : List FillOp :=
      [.set .si5 [0x05], .set .si6 [0x06], .set .si5ter [0x5c], .next, .next]
    let ops := pre ++ [.next, .clear .si6]
    (reach pre).next.1 = some (.ofOctets [0x5c]) ∧
      (reach pre).block? (reach ops).last = some (.ofOctets [0x5c]) ∧
      (reach ops).block? .si5 = some (.ofOctets [0x05]) ∧ (reach ops).next.1 ≠ none := by
  intro pre ops
  have hb : (reach pre).next.1 = some (.ofOctets [0x5c]) := by decide
  have h : TakesTurns ops := filling_takes_turns ops
  have hclear : ∀ mid rest, [FillOp.clear .si6] = mid ++ .next :: rest →
      (reach (pre ++ .next :: mid)).next.1 = none := fun mid rest hm => by
    have hmem : FillOp.next ∈ [FillOp.clear .si6] := hm ▸ by simp
    exact nomatch List.mem_singleton.mp hmem
  have h5 := (h.content .si5 (.ofOctets [0x05])).mpr ⟨[0x05], by decide, padded_padTo 23 _⟩
  refine ⟨hb, (h.last pre _ _ rfl hb hclear).2, h5, fun hnone => ?_⟩
  have hv := h.nothing.mp hnone .si5
  rw [isValid, h5] at hv
  exact nomatch hv

end SacchFill
end BaseStation
