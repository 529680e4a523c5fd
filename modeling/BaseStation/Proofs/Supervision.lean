import BaseStation.Proofs.Bridge.Allotted
import BaseStation.Proofs.Bridge.Track

/-!
Supervision of the radio link through runs. What the counter of a channel has lost since the last
activation was lost to frames on the SACCH that could not be decoded, one for each: a link fails
with such a frame only, after as many of them as the ceiling at the least, and once in a connection.
-/

namespace BaseStation

/-! ### The counter -/

/-- The counter is between zero and the ceiling, if there is one, and else not above zero. -/
structure WithinCeiling (ceiling s : Int) : Prop where
  low : 0 ≤ ceiling → 0 ≤ s
  high : s ≤ max 0 ceiling

namespace Lchan

variable {l : Lchan} {ceiling : Int} {bad : Bool}

/-- The counter stays between zero and the ceiling, if there is one. -/
theorem withinCeiling_onSacchFrame (range : WithinCeiling ceiling l.s) :
    WithinCeiling ceiling (l.onSacchFrame ceiling bad).1.s := by
  obtain ⟨low, high⟩ := range
  unfold onSacchFrame
  split
  · exact ⟨low, high⟩
  · rename_i on
    rw [not_or] at on
    have low := low (by omega)
    split
    · exact ⟨fun _ => by dsimp only; omega, by dsimp only; omega⟩
    · split
      · exact ⟨fun _ => by dsimp only; omega, by dsimp only; omega⟩
      · exact ⟨fun _ => low, high⟩

/-- A frame takes at most one off the counter, and one that was decoded takes nothing off. -/
theorem s_le_onSacchFrame :
    l.s ≤ (l.onSacchFrame ceiling bad).1.s + if bad then 1 else 0 := by
  unfold onSacchFrame
  split
  · dsimp only
    split <;> omega
  · split
    · dsimp only
      omega
    · split
      · dsimp only
        omega
      · dsimp only
        omega

/-- A counter that has run out stays so. -/
theorem onSacchFrame_of_zero (zero : l.s = 0) : l.onSacchFrame ceiling bad = (l, none) :=
  if_pos (.inr zero)

/-- A link fails when a frame that could not be decoded takes the counter from one to zero. -/
theorem onSacchFrame_fails_iff : (l.onSacchFrame ceiling bad).2.isSome = true ↔
    bad = true ∧ l.s = 1 ∧ (l.onSacchFrame ceiling bad).1.s = 0 := by
  unfold onSacchFrame
  split
  · rename_i off
    refine iff_of_false (by simp) fun h => ?_
    obtain ⟨-, one, zero⟩ := h
    dsimp only at zero
    omega
  · rename_i on
    rw [not_or] at on
    cases bad with
    | true =>
      rw [if_pos rfl]
      dsimp only
      split
      · simp; omega
      · simp; omega
    | false =>
      rw [if_neg Bool.false_ne_true]
      split <;> simp

end Lchan

namespace Bridge

variable {σ φ : Type} {site : Site σ φ} {w : World σ φ} {id : LchanId} {l l' : Lchan}
  {t : Turn} {ts us : List Turn}

/-! ### Readings -/

/-- What is noted of the supervision of a link: a failure that RSL is told of, and an activation
that the radio is asked for. -/
inductive LinkNote where
  | failed
  | activated
deriving DecidableEq

def Event.linkNote? (b : Bts) (id : LchanId) : Event → Option LinkNote
  | .call (.connectionFailure j _) _ => if j = id then some .failed else none
  | .down trx (.mphInfoReq (.activateReq r)) _ =>
    if b.locate? trx r.chanNr = some id then some .activated else none
  | _ => none

/-- What a turn notes of the link of a channel. -/
def Turn.linkNotes (id : LchanId) (t : Turn) : List LinkNote :=
  t.events.filterMap (Event.linkNote? t.before id)

/-- The failures of the link of a channel that a turn reports. -/
def Turn.failures (id : LchanId) (t : Turn) : Nat := (t.linkNotes id).count .failed

/-- The turn activates a channel as far as the access point goes: the checks are passed, and the
radio is asked. -/
def Turn.AsksActivation (id : LchanId) (t : Turn) : Prop := .activated ∈ t.linkNotes id

instance (id : LchanId) (t : Turn) : Decidable (t.AsksActivation id) := by
  unfold Turn.AsksActivation
  infer_instance

/-- The frame on the SACCH of a channel that a turn brings; the answer is whether it could not be
decoded. -/
def Turn.sacchFrame? (id : LchanId) (t : Turn) : Option Bool := t.move.sacchFrame? t.before id

/-- The number of frames on the SACCH of a channel that could not be decoded. -/
def badFrames (id : LchanId) (ts : List Turn) : Nat :=
  ts.countP fun t => t.sacchFrame? id == some true

/-- The number of reports on a failure of the link of a channel. -/
def linkFailures (id : LchanId) (ts : List Turn) : Nat :=
  (ts.flatMap (Turn.linkNotes id)).count .failed

section Notes

variable {b : Bts} {j : LchanId}

/-- What is noted goes with the allotments. -/
theorem linkNotes_eq :
    t.linkNotes id = (allotments t.events).filterMap (Event.linkNote? t.before id) := by
  unfold Turn.linkNotes allotments
  rw [List.filterMap_filter]
  congr 1
  funext e
  unfold Event.linkNote? Event.isAllotment
  split <;> simp

theorem linkNotes_superviseEvents {bad : Bool} :
    (superviseEvents site j l bad).filterMap (Event.linkNote? b id) =
      if j = id ∧ (l.onSacchFrame site.settings.radioLinkTimeout bad).2.isSome = true then
        [.failed] else [] := by
  unfold superviseEvents
  cases (l.onSacchFrame site.settings.radioLinkTimeout bad).2 with
  | none => simp
  | some c => by_cases here : j = id <;> simp [Event.linkNote?, here]

theorem linkNotes_facchEvents :
    (facchEvents site l).filterMap (Event.linkNote? b id) = [] := by
  unfold facchEvents
  split
  · split <;> rfl
  · rfl

theorem linkNotes_freeEvents : (freeEvents l).filterMap (Event.linkNote? b id) = [] := by
  unfold freeEvents
  split <;> rfl

theorem linkNotes_grantEvents {grant : Option DtxHandle} :
    (grantEvents j grant).filterMap (Event.linkNote? b id) = [] := by
  unfold grantEvents
  split <;> rfl

end Notes

/-! ### What a turn does to a counter -/

/-- What a turn does to the counter of a channel, and what it notes. -/
inductive SupervisionTurn (site : Site σ φ) (id : LchanId) (t : Turn) (l l' : Lchan) : Prop
  | steady (unnoted : t.linkNotes id = []) (same : l'.s = l.s)
  /-- A frame on the SACCH is counted. -/
  | frame (bad : Bool) (frame : t.sacchFrame? id = some bad)
      (noted : t.linkNotes id =
        if (l.onSacchFrame site.settings.radioLinkTimeout bad).2.isSome then [.failed] else [])
      (after : l'.s = (l.onSacchFrame site.settings.radioLinkTimeout bad).1.s)
  | activated (noted : t.linkNotes id = [.activated])
      (after : l'.s = site.settings.radioLinkTimeout)

theorem Turn.Takes.supervision (h : t.Takes site id l l') : SupervisionTurn site id t l l' := by
  have before := Bts.allotted_of_lchan? h.before
  have after := Bts.allotted_of_lchan? h.after
  -- the counter of another channel stays as it is
  have kept {j : LchanId} {x : Allotment} (other : j ≠ id)
      (changed : t.after.allotted = Function.update t.before.allotted j (some x)) :
      l'.s = l.s := by
    rw [changed, Function.update_of_ne (Ne.symm other), before, Option.some.injEq] at after
    exact congrArg Allotment.s after.symm
  have here {x : Allotment}
      (changed : t.after.allotted = Function.update t.before.allotted id (some x)) :
      l'.s = x.s := by
    rw [changed, Function.update_self, Option.some.injEq] at after
    exact congrArg Allotment.s after.symm
  have noted : t.linkNotes id = _ := linkNotes_eq
  cases h.lawful.allotting with
  | steady same quiet =>
    rw [same, before, Option.some.injEq] at after
    rw [quiet] at noted
    exact .steady noted (congrArg Allotment.s after.symm)
  | sent move found f answer taken handed same told =>
    rw [same, before, Option.some.injEq] at after
    rw [told, linkNotes_facchEvents] at noted
    exact .steady noted (congrArg Allotment.s after.symm)
  -- the frame is counted for one channel: this one, or another
  | @supervised j k known bad frame changed told =>
    rw [told, linkNotes_superviseEvents] at noted
    by_cases same : j = id
    · subst same
      rw [h.before, Option.some.injEq] at known
      subst known
      simp only [true_and] at noted
      exact .frame bad frame noted (here changed)
    · rw [if_neg fun h => same h.1] at noted
      exact .steady noted (kept same changed)
  | @activated trx n j k located known type answer grant granted changed told =>
    rw [told, List.filterMap_append, linkNotes_freeEvents, List.nil_append, filterMap_event,
      linkNotes_grantEvents, List.append_nil] at noted
    by_cases same : j = id
    · subst same
      refine .activated (noted.trans ?_) (here changed)
      simp [Event.linkNote?, located]
    · refine .steady (noted.trans ?_) (kept same changed)
      simp [Event.linkNote?, located, same]
  | @released j k known changed told =>
    rw [told, linkNotes_freeEvents] at noted
    by_cases same : j = id
    · subst same
      rw [h.before, Option.some.injEq] at known
      subst known
      exact .steady noted (here changed)
    · exact .steady noted (kept same changed)

namespace SupervisionTurn

variable (h : SupervisionTurn site id t l l')
include h

/-- A turn reports a failure exactly when a frame that could not be decoded takes the counter from
one to zero. -/
theorem failures_eq (range : WithinCeiling site.settings.radioLinkTimeout l.s) :
    t.failures id = if t.sacchFrame? id = some true ∧ l.s = 1 ∧ l'.s = 0 then 1 else 0 := by
  have high := range.high
  unfold Turn.failures
  cases h with
  | steady unnoted same =>
    rw [unnoted, if_neg (by omega)]
    rfl
  | frame bad frame noted after =>
    have fails : (t.sacchFrame? id = some true ∧ l.s = 1 ∧ l'.s = 0) ↔
        (l.onSacchFrame site.settings.radioLinkTimeout bad).2.isSome = true := by
      rw [frame, after, Option.some.injEq, Lchan.onSacchFrame_fails_iff]
    rw [noted]
    by_cases failed : (l.onSacchFrame site.settings.radioLinkTimeout bad).2.isSome = true
    · rw [if_pos failed, if_pos (fails.mpr failed)]
      rfl
    · rw [if_neg failed, if_neg fun h => failed (fails.mp h)]
      rfl
  | activated noted after =>
    rw [noted, if_neg (by omega)]
    rfl

theorem withinCeiling (range : WithinCeiling site.settings.radioLinkTimeout l.s) :
    WithinCeiling site.settings.radioLinkTimeout l'.s := by
  cases h with
  | steady _ same => rwa [same]
  | frame bad _ _ after =>
    rw [after]
    exact Lchan.withinCeiling_onSacchFrame range
  | activated _ after =>
    rw [after]
    exact ⟨fun on => on, Int.le_max_right _ _⟩

/-- An activation sets the counter to the ceiling. -/
theorem of_asksActivation (asked : t.AsksActivation id) :
    l'.s = site.settings.radioLinkTimeout := by
  unfold Turn.AsksActivation at asked
  cases h with
  | steady unnoted =>
    rw [unnoted] at asked
    cases asked
  | frame bad _ noted =>
    rw [noted] at asked
    split at asked <;> simp at asked
  | activated _ after => exact after

/-- A counter that has run out stays so until the next activation, and no failure is reported. -/
theorem of_zero (unasked : ¬ t.AsksActivation id) (zero : l.s = 0) :
    l'.s = 0 ∧ t.failures id = 0 := by
  unfold Turn.failures
  cases h with
  | steady unnoted same =>
    rw [unnoted, same]
    exact ⟨zero, rfl⟩
  | frame bad _ noted after =>
    rw [noted, after, Lchan.onSacchFrame_of_zero zero]
    exact ⟨zero, rfl⟩
  | activated noted =>
    refine absurd ?_ unasked
    unfold Turn.AsksActivation
    rw [noted]
    exact List.mem_singleton_self _

/-- Without an activation a counter loses at most one, to a frame that could not be decoded. -/
theorem loss (unasked : ¬ t.AsksActivation id) : l.s ≤ l'.s + badFrames id [t] := by
  cases h with
  | steady _ same =>
    rw [same]
    exact Int.le_add_of_nonneg_right (Int.natCast_nonneg _)
  | frame bad frame _ after =>
    have counted : badFrames id [t] = if bad then 1 else 0 := by
      unfold badFrames
      rw [List.countP_singleton, frame]
      cases bad <;> rfl
    have cost : l.s ≤ (l.onSacchFrame site.settings.radioLinkTimeout bad).1.s +
        if bad then 1 else 0 := Lchan.s_le_onSacchFrame
    rw [after, counted]
    cases bad <;> exact cost
  | activated noted =>
    refine absurd ?_ unasked
    unfold Turn.AsksActivation
    rw [noted]
    exact List.mem_singleton_self _

end SupervisionTurn

/-! ### Runs -/

theorem Track.withinCeiling (track : Track site id l ts l')
    (range : WithinCeiling site.settings.radioLinkTimeout l.s) :
    WithinCeiling site.settings.radioLinkTimeout l'.s := by
  induction track with
  | nil => exact range
  | cons first _ ih => exact ih (first.supervision.withinCeiling range)

theorem linkFailures_cons : linkFailures id (t :: ts) = t.failures id + linkFailures id ts := by
  unfold linkFailures Turn.failures
  rw [List.flatMap_cons, List.count_append]

theorem badFrames_append : badFrames id (ts ++ us) = badFrames id ts + badFrames id us :=
  List.countP_append

/-- Once a counter has run out nothing changes it until the next activation. -/
theorem Track.of_zero (track : Track site id l ts l') (unasked : ∀ t ∈ ts, ¬ t.AsksActivation id)
    (zero : l.s = 0) : l'.s = 0 ∧ linkFailures id ts = 0 := by
  induction track with
  | nil => exact ⟨zero, rfl⟩
  | cons first _ ih =>
    have stuck := first.supervision.of_zero (unasked _ List.mem_cons_self) zero
    have rest := ih (fun t ht => unasked t (List.mem_cons_of_mem _ ht)) stuck.1
    rw [linkFailures_cons, stuck.2, rest.2]
    exact ⟨rest.1, rfl⟩

/-- A link that fails does so once until the next activation. -/
theorem Track.linkFailures_le_one (track : Track site id l ts l')
    (range : WithinCeiling site.settings.radioLinkTimeout l.s)
    (unasked : ∀ t ∈ ts, ¬ t.AsksActivation id) : linkFailures id ts ≤ 1 := by
  induction track with
  | nil => exact Nat.zero_le 1
  | @cons l k l'' t ts first rest ih =>
    have later : ∀ u ∈ ts, ¬ u.AsksActivation id :=
      fun u hu => unasked u (List.mem_cons_of_mem _ hu)
    have fails := first.supervision.failures_eq range
    rw [linkFailures_cons]
    split at fails
    · rename_i failed
      have none : linkFailures id ts = 0 := (rest.of_zero later failed.2.2).2
      omega
    · rw [fails, Nat.zero_add]
      exact ih (first.supervision.withinCeiling range) later

/-- What a counter has lost since the last activation of its channel was lost to frames that could
not be decoded; or it has run out. -/
def CountedDown (ceiling : Int) (id : LchanId) (ts : List Turn) (s : Int) : Prop :=
  s = 0 ∨ ∃ pre a mid, ts = pre ++ a :: mid ∧ a.AsksActivation id ∧
    (∀ u ∈ mid, ¬ u.AsksActivation id) ∧ ceiling ≤ s + badFrames id mid

theorem CountedDown.snoc (h : CountedDown site.settings.radioLinkTimeout id ts l.s)
    (takes : t.Takes site id l l') :
    CountedDown site.settings.radioLinkTimeout id (ts ++ [t]) l'.s := by
  by_cases asked : t.AsksActivation id
  · refine .inr ⟨ts, t, [], rfl, asked, fun u hu => absurd hu List.not_mem_nil, ?_⟩
    rw [takes.supervision.of_asksActivation asked]
    exact Int.le_add_of_nonneg_right (Int.natCast_nonneg _)
  · rcases h with zero | ⟨pre, a, mid, rfl, act, none, spent⟩
    · exact .inl (takes.supervision.of_zero asked zero).1
    · refine .inr ⟨pre, a, mid ++ [t], by simp, act, ?_, ?_⟩
      · intro u hu
        rcases List.mem_append.mp hu with hu | hu
        · exact none u hu
        · rwa [List.mem_singleton.mp hu]
      · have loss := takes.supervision.loss asked
        rw [badFrames_append]
        omega

theorem CountedDown.append (h : CountedDown site.settings.radioLinkTimeout id ts l.s)
    (track : Track site id l us l') :
    CountedDown site.settings.radioLinkTimeout id (ts ++ us) l'.s :=
  track.history_induction (P := fun ts l => CountedDown site.settings.radioLinkTimeout id ts l.s) h
    CountedDown.snoc

/-! ### All runs -/

/-- The radio link counter of a channel. -/
def counter? (b : Bts) (id : LchanId) : Option Int := (b.lchan? id).map (·.s)

theorem Turn.Takes.counters (h : t.Takes site id l l') :
    counter? t.before id = some l.s ∧ counter? t.after id = some l'.s := by
  unfold counter?
  rw [h.before, h.after]
  exact ⟨rfl, rfl⟩

/-- What supervision makes of the frames on the SACCH of a channel, turn by turn; `s` is the
counter at the end. -/
structure LinkSupervised (ceiling : Int) (id : LchanId) (ts : List Turn) (s : Int) : Prop where
  /-- The counter is between zero and the ceiling. -/
  bounds : 0 ≤ ceiling → 0 ≤ s ∧ s ≤ ceiling
  /-- A failure is reported with a frame that takes the counter from one to zero, and then alone. -/
  failed : ∀ t ∈ ts, t.failures id = if t.sacchFrame? id = some true ∧
    counter? t.before id = some 1 ∧ counter? t.after id = some 0 then 1 else 0
  off : ceiling < 0 → ∀ t ∈ ts, t.failures id = 0
  activated : ∀ t ∈ ts, t.AsksActivation id → counter? t.after id = some ceiling
  /-- Between two activations a link fails once at most. -/
  once : ∀ pre mid post, ts = pre ++ mid ++ post → (∀ u ∈ mid, ¬ u.AsksActivation id) →
    linkFailures id mid ≤ 1
  /-- A link fails after as many undecodable frames as the ceiling, counted from the last
  activation. -/
  earned : ∀ pre t post, ts = pre ++ t :: post → t.failures id ≠ 0 →
    ∃ pre' a mid, pre = pre' ++ a :: mid ∧ a.AsksActivation id ∧
      (∀ u ∈ mid, ¬ u.AsksActivation id) ∧ ceiling ≤ badFrames id (mid ++ [t])
  /-- A failed link stays so: nothing changes the counter until the next activation. -/
  stuck : ∀ pre t mid post, ts = pre ++ t :: (mid ++ post) → t.failures id ≠ 0 →
    (∀ u ∈ mid, ¬ u.AsksActivation id) →
      ∀ u ∈ mid, counter? u.before id = some 0 ∧ counter? u.after id = some 0

section Supervised

variable (track : Track site id l ts l')
  (range : WithinCeiling site.settings.radioLinkTimeout l.s)
include track range

/-- Each turn of a run reports a failure when it should. -/
theorem Track.failures_eq {t : Turn} (ht : t ∈ ts) :
    t.failures id = if t.sacchFrame? id = some true ∧ counter? t.before id = some 1 ∧
      counter? t.after id = some 0 then 1 else 0 := by
  obtain ⟨pre, post, rfl⟩ := List.append_of_mem ht
  obtain ⟨k, k', earlier, takes, -⟩ := track.split
  simp only [takes.counters, Option.some.injEq]
  exact takes.supervision.failures_eq (earlier.withinCeiling range)

/-- A turn that reports a failure takes the counter from one to zero. -/
theorem Track.of_failures {pre post : List Turn} {t : Turn} (split : ts = pre ++ t :: post)
    (failed : t.failures id ≠ 0) :
    ∃ k k', Track site id l pre k ∧ t.Takes site id k k' ∧ Track site id k' post l' ∧
      t.sacchFrame? id = some true ∧ k.s = 1 ∧ k'.s = 0 := by
  subst split
  obtain ⟨k, k', earlier, takes, later⟩ := track.split
  rw [takes.supervision.failures_eq (earlier.withinCeiling range), ne_eq,
    ite_eq_right_iff, Classical.not_imp] at failed
  exact ⟨k, k', earlier, takes, later, failed.1⟩

theorem Track.failures_of_off (off : site.settings.radioLinkTimeout < 0) {t : Turn} (ht : t ∈ ts) :
    t.failures id = 0 := by
  by_contra failed
  obtain ⟨pre, post, split⟩ := List.append_of_mem ht
  obtain ⟨k, -, earlier, -, -, -, one, -⟩ := track.of_failures range split failed
  have high := (earlier.withinCeiling range).high
  omega

theorem Track.linkSupervised (zero : l.s = 0) :
    LinkSupervised site.settings.radioLinkTimeout id ts l'.s where
  bounds on := by
    have final := track.withinCeiling range
    exact ⟨final.low on, by have := final.high; omega⟩
  failed t ht := track.failures_eq range ht
  off negative t ht := track.failures_of_off range negative ht
  activated t ht asked := by
    obtain ⟨pre, post, rfl⟩ := List.append_of_mem ht
    obtain ⟨k, k', -, takes, -⟩ := track.split
    rw [takes.counters.2, takes.supervision.of_asksActivation asked]
  once pre mid post split unasked := by
    subst split
    obtain ⟨k', track, -⟩ := append_iff.mp track
    obtain ⟨k, earlier, track⟩ := append_iff.mp track
    exact track.linkFailures_le_one (earlier.withinCeiling range) unasked
  earned pre t post split failed := by
    obtain ⟨k, -, earlier, -, -, bad, one, -⟩ := track.of_failures range split failed
    -- the counter went from the ceiling to one, and this frame is the last it takes
    have spent : CountedDown site.settings.radioLinkTimeout id ([] ++ pre) k.s :=
      CountedDown.append (.inl zero) earlier
    rcases spent with none | ⟨pre', a, mid, since, asked, unasked, spent⟩
    · omega
    · refine ⟨pre', a, mid, since, asked, unasked, ?_⟩
      have last : badFrames id [t] = 1 := by simp [badFrames, bad]
      rw [badFrames_append, last]
      omega
  stuck pre t mid post split failed unasked u hu := by
    obtain ⟨-, k', -, -, later, -, -, out⟩ := track.of_failures range split failed
    obtain ⟨before, after, rfl⟩ := List.append_of_mem hu
    rw [List.append_assoc] at later
    obtain ⟨x, x', until', takes, -⟩ := later.split
    have first : ∀ v ∈ before, ¬ v.AsksActivation id :=
      fun v hv => unasked v (List.mem_append_left _ hv)
    -- zero is left with an activation alone
    have held := (until'.of_zero first out).1
    rw [takes.counters.1, takes.counters.2, held, (takes.supervision.of_zero (unasked u hu) held).1]
    exact ⟨rfl, rfl⟩

end Supervised

/-- **Supervision of the radio link**: in every run the counter of a channel stays within the
ceiling, a failure is reported with the undecodable frame that takes the counter to zero and with
nothing else, not before as many of these as the ceiling have come since the activation, and once
until the next. -/
theorem radio_link_supervised (site : Site σ φ) (c : Config) (filter : Capture.Filter)
    (services : σ) (phy : φ) (ms : List Move) {id : LchanId} {l₀ : Lchan}
    (known : (Bts.ofConfig c).lchan? id = some l₀) :
    ∃ l, (run site (.fresh c filter services phy) ms).bts.lchan? id = some l ∧
      LinkSupervised site.settings.radioLinkTimeout id
        (history site (.fresh c filter services phy) ms) l.s := by
  obtain ⟨l, after, track⟩ := track_history site (w := .fresh c filter services phy) ms known
  have zero : l₀.s = 0 := by
    obtain ⟨type, rfl⟩ := Bts.lchan?_ofConfig known
    rfl
  have range : WithinCeiling site.settings.radioLinkTimeout l₀.s :=
    ⟨fun _ => by omega, by omega⟩
  exact ⟨l, after, track.linkSupervised range zero⟩

/-- The cell with the lowest ceiling. -/
def impatientConfig : Config :=
  { scriptedConfig with cell := { scriptedConfig.cell with radioLinkTimeout := 4 } }

example : impatientConfig.validate = .ok () := rfl

def impatientSite : Site ScriptedServices ScriptedPhy :=
  { scriptedSite with settings := .ofConfig impatientConfig }

/-- A frame on the SACCH of the first traffic channel of which nothing was decoded. -/
def lostFrame : PhData := ⟨0x09, 0x40, 12, -110, 0, 0, 0, .invalid, .empty⟩

/-- A connection of which five frames on the SACCH are lost. -/
def lostMoves : List Move :=
  [.chanAct 0 0x09 none, .up 0 (.mphInfoCnf (.activateCnf ⟨0x09, 0⟩))] ++
    List.replicate 5 (.up 0 (.phDataInd lostFrame))

/-- The link fails with the fourth frame, and the fifth makes no difference. -/
theorem lost_frames_fail_link :
    let ts := history impatientSite (.fresh impatientConfig .empty .fresh .accepting) lostMoves
    ts.map (Turn.failures ⟨0, 1, 0⟩) = [0, 0, 0, 0, 0, 1, 0] ∧
      ∃ s, 0 ≤ s ∧ LinkSupervised 4 ⟨0, 1, 0⟩ ts s := by
  intro ts
  have known : (Bts.ofConfig impatientConfig).lchan? ⟨0, 1, 0⟩ =
      some (.fresh ⟨0, 1, 0⟩ .tchF) := by decide +kernel
  obtain ⟨l, -, supervised⟩ := radio_link_supervised impatientSite impatientConfig .empty .fresh
    .accepting lostMoves known
  exact ⟨by decide +kernel, l.s, (supervised.bounds (by decide)).1, supervised⟩

end Bridge
end BaseStation
