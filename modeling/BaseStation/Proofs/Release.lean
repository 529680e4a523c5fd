import BaseStation.Proofs.Bridge.Track

/-!
Which confirm acknowledges a release. The confirm of a deactivation does not say what it answers, a
release or the end of the SACCH alone; the access point tells by the record of the channel. Beside
the run a ledger is kept of the requests that the radio took and has yet to confirm, and it shows
when the access point is right.
-/

namespace BaseStation.Bridge

variable {σ φ : Type} {site : Site σ φ} {w : World σ φ} {id : LchanId} {l l' : Lchan}
  {t : Turn} {ts us : List Turn}

/-! ### Requests and confirms -/

/-- What a confirm says that it is of. -/
inductive Confirm where
  | activation
  | deactivation
deriving DecidableEq

inductive Demand where
  | activation
  | release
  | sacchStop
deriving DecidableEq

/-- The confirm that answers a demand. It does not tell a release from the end of the SACCH. -/
def Demand.confirm : Demand → Confirm
  | activation => .activation
  | release => .deactivation
  | sacchStop => .deactivation

def Event.demand? (b : Bts) (id : LchanId) : Event → Option (Demand × Bool)
  | .down trx (.mphInfoReq (.activateReq r)) a =>
    if b.locate? trx r.chanNr = some id then some (.activation, a.toBool) else none
  | .down trx (.mphInfoReq (.deactivateReq r)) a =>
    if b.locate? trx r.chanNr = some id then
      some (if r.sacchOnly then .sacchStop else .release, a.toBool)
    else none
  | _ => none

instance {b : Bts} : Aside (Event.demand? b id) := by constructor <;> intros <;> rfl

/-- The demands of a turn on the radio for a channel, and whether the radio took each of them. -/
def Turn.demands (id : LchanId) (t : Turn) : List (Demand × Bool) :=
  t.events.filterMap (Event.demand? t.before id)

def Move.confirm? (b : Bts) (id : LchanId) : Move → Option Confirm
  | .input (.up trx (.mphInfoCnf (.activateCnf c))) _ =>
    if b.locate? trx c.chanNr = some id then some .activation else none
  | .input (.up trx (.mphInfoCnf (.deactivateCnf c))) _ =>
    if b.locate? trx c.chanNr = some id then some .deactivation else none
  | _ => none

/-- The confirm for a channel that a turn handles. -/
def Turn.confirm? (id : LchanId) (t : Turn) : Option Confirm := t.move.confirm? t.before id

/-- The cause in the confirm of an activation. -/
def Move.cause? : Move → Option UInt8
  | .input (.up _ (.mphInfoCnf (.activateCnf c))) _ => some c.cause
  | _ => none

/-- The radio confirms the activation of a channel, and with no cause against it. -/
def Turn.Opens (id : LchanId) (t : Turn) : Prop :=
  t.confirm? id = some .activation ∧ t.move.cause? = some 0

instance (id : LchanId) (t : Turn) : Decidable (t.Opens id) := by
  unfold Turn.Opens
  infer_instance

theorem opens_iff {trx : UInt8} {c : ActConfirm}
    {h : (Input.up trx (.mphInfoCnf (.activateCnf c))).isDown = false}
    (move : t.move = .input (.up trx (.mphInfoCnf (.activateCnf c))) h)
    (located : t.before.locate? trx c.chanNr = some id) : t.Opens id ↔ c.cause = 0 := by
  have confirmed : t.confirm? id = some .activation := by
    unfold Turn.confirm?
    rw [move]
    exact if_pos located
  rw [Turn.Opens, and_iff_right confirmed, move]
  exact Option.some_inj

/-- Events that are not about a channel demand nothing for it. -/
theorem demands_of_subjects {b : Bts} {es : List Event} (quiet : id ∉ subjects b es) :
    es.filterMap (Event.demand? b id) = [] := by
  refine filterMap_of_quiet (fun e d hd => ?_) quiet
  unfold Event.demand? at hd
  split at hd
  · exact (Option.ite_none_right_eq_some.mp hd).1
  · exact (Option.ite_none_right_eq_some.mp hd).1
  · cases hd

theorem confirm?_of_unreached (unreached : ¬ t.move.Reaches site t.before id l) :
    t.confirm? id = none := by
  unfold Turn.confirm? Move.confirm?
  split
  · rename_i move
    rw [move] at unreached
    exact if_neg unreached
  · rename_i move
    rw [move] at unreached
    exact if_neg unreached
  · rfl

theorem confirm?_of_onAir (air : t.move.OnAir) : t.confirm? id = none := by
  unfold Turn.confirm? Move.confirm?
  split
  · rename_i move
    rw [move] at air
    exact air.elim
  · rename_i move
    rw [move] at air
    exact air.elim
  · rfl

/-- A request of RSL is not a confirm. -/
theorem confirm?_of_asked {trx n : UInt8} (asked : t.move.activates trx n ∨ t.move.releases trx n) :
    t.confirm? id = none := by
  unfold Turn.confirm?
  obtain ⟨_, _, move⟩ | ⟨_, move⟩ | ⟨_, _, _, move⟩ := Move.asked_cases asked <;> rw [move] <;> rfl

/-! ### Steps of a link -/

/-- What a turn asks of the radio for a channel or handles as its confirm, and what the record
keeps of it. -/
inductive LinkStep (id : LchanId) (t : Turn) (l l' : Lchan) : Prop
  | keep (unasked : t.demands id = []) (unconfirmed : t.confirm? id = none)
      (silent : ¬ t.Releases id) (stopped : l'.sacchDeact = l.sacchDeact)
      (state : l'.state = l.state)
  | activation (taken : Bool) (asked : t.demands id = [(.activation, taken)])
      (unconfirmed : t.confirm? id = none) (silent : ¬ t.Releases id)
      (stopped : l'.sacchDeact = false) (state : l'.state = .actRequested)
  | release (taken : Bool) (asked : t.demands id = [(.release, taken)])
      (unconfirmed : t.confirm? id = none) (silent : ¬ t.Releases id)
      (stopped : l'.sacchDeact = l.sacchDeact) (state : l'.state = .relRequested)
  | sacchStop (taken : Bool) (asked : t.demands id = [(.sacchStop, taken)])
      (unconfirmed : t.confirm? id = none) (silent : ¬ t.Releases id)
      (stopped : l'.sacchDeact = true) (state : l'.state = l.state)
  | activated (unasked : t.demands id = []) (confirmed : t.confirm? id = some .activation)
      (silent : ¬ t.Releases id) (stopped : l'.sacchDeact = l.sacchDeact)
      (state : l'.state = if t.Opens id then .active else .none)
  /-- The confirm is taken to be that of the SACCH. -/
  | sacchDown (unasked : t.demands id = []) (confirmed : t.confirm? id = some .deactivation)
      (silent : ¬ t.Releases id) (stopped : l.sacchDeact = true) (up : l.state ≠ .relRequested)
      (record : l' = l)
  /-- The confirm is taken to be that of a release. -/
  | released (unasked : t.demands id = []) (confirmed : t.confirm? id = some .deactivation)
      (once : (releasesDone t.events).count id = 1)
      (full : l.sacchDeact = false ∨ l.state = .relRequested)
      (record : l' = l.resetAfterRelease)

/-- A turn with no event about the channel and no confirm for it. -/
theorem linkStep_of_quiet (quiet : id ∉ subjects t.before t.events)
    (unconfirmed : t.confirm? id = none) (stopped : l'.sacchDeact = l.sacchDeact)
    (state : l'.state = l.state) : LinkStep id t l l' :=
  .keep (demands_of_subjects quiet) unconfirmed (not_releases_of_quiet quiet) stopped state

/-- Without the confirm of a deactivation no release is reported. -/
theorem Turn.Takes.silent (h : t.Takes site id l l')
    (unconfirmed : t.confirm? id ≠ some .deactivation) : ¬ t.Releases id := by
  rcases h.completes with silent | completed
  · exact silent
  · obtain ⟨trx, c, o, move, located⟩ := completed.confirm
    refine absurd ?_ unconfirmed
    unfold Turn.confirm?
    rw [move]
    exact if_pos located

/-- A turn with no request and no confirm for the channel. -/
theorem linkStep_of_none (takes : t.Takes site id l l') (unasked : t.demands id = [])
    (unconfirmed : t.confirm? id = none) (stopped : l'.sacchDeact = l.sacchDeact)
    (state : l'.state = l.state) : LinkStep id t l l' :=
  .keep unasked unconfirmed (takes.silent (by simp [unconfirmed])) stopped state

theorem Write.apply_link (x : Write) (l : Lchan) :
    (x.apply l).sacchDeact = l.sacchDeact ∧ (x.apply l).state = l.state := by
  cases x <;> exact ⟨rfl, rfl⟩

theorem Turn.Takes.linkStep (h : t.Takes site id l l') : LinkStep id t l l' := by
  have takes := h
  obtain ⟨-, -, -, move⟩ := h
  obtain ⟨before, m, res, events, after⟩ := t
  dsimp only at move
  cases move with
  | keep unreached quiet =>
    exact linkStep_of_quiet quiet (confirm?_of_unreached unreached) rfl rfl
  | @filled _ es air _ quiet =>
    have unasked : es.filterMap (Event.demand? before id) = [] :=
      demands_of_subjects (by simp [quiet])
    refine linkStep_of_none takes ?_ ?_ rfl rfl
    · simp [Turn.demands, filterMap_event, Event.demand?, unasked]
    · exact confirm?_of_onAir air
  | echoed _ air _ _ quiet => exact linkStep_of_quiet quiet (confirm?_of_onAir air) rfl rfl
  | @voiced _ es air _ quiet =>
    have unasked : es.filterMap (Event.demand? before id) = [] :=
      demands_of_subjects (by simp [quiet])
    refine linkStep_of_none takes ?_ ?_ rfl rfl
    · simp [Turn.demands, Event.demand?, unasked]
    · exact confirm?_of_onAir air
  | voiceKept _ air _ _ quiet => exact linkStep_of_quiet quiet (confirm?_of_onAir air) rfl rfl
  | voiceTaken _ air _ quiet => exact linkStep_of_quiet quiet (confirm?_of_onAir air) rfl rfl
  | lost air _ quiet =>
    obtain ⟨s, h⟩ := supervised_eq site l true
    exact linkStep_of_quiet quiet (confirm?_of_onAir air) (by rw [h]) (by rw [h])
  | shortened air _ quiet =>
    obtain ⟨s, h⟩ := supervised_eq site { l with handover := .none } false
    exact linkStep_of_quiet quiet (confirm?_of_onAir air) (by rw [h]) (by rw [h])
  | @accessed _ p _ _ _ _ quiet =>
    obtain ⟨m, h⟩ := delayStored_eq p l
    exact linkStep_of_quiet quiet rfl (by rw [h]) (by rw [h])
  -- these have events about the channel, but neither ask for an activation or a release nor confirm
  -- one
  | measured air =>
    refine linkStep_of_none takes rfl ?_ rfl rfl
    exact confirm?_of_onAir air
  | echoKept => exact linkStep_of_none takes rfl rfl rfl rfl
  | @sent _ p _ _ _ _ f =>
    obtain ⟨c, ns, h⟩ := checkDownlink_eq l p.chanNr f.octets
    exact linkStep_of_none takes (by simp [Turn.demands, filterMap_event, Event.demand?]) rfl
      (by rw [h]) (by rw [h])
  | @received _ d =>
    obtain ⟨c, h⟩ := checkUplink_eq { l with handover := .none } d.chanNr d.frame.l2
    exact linkStep_of_none takes (by simp [Turn.demands, Event.demand?]) rfl
      (by rw [h]) (by rw [h])
  | @sacchReceived _ d k _ _ _ _ _ header =>
    obtain ⟨s, hs⟩ := supervised_eq site { l with handover := .none } false
    obtain ⟨c, h⟩ := checkUplink_eq k d.chanNr (sacchMarked d).frame.l2
    exact linkStep_of_none takes (by simp [Turn.demands, Event.demand?]) rfl
      (by rw [h, header, hs]; rfl) (by rw [h, header, hs]; rfl)
  | @handover _ p _ _ _ taken =>
    obtain ⟨m, h⟩ := delayStored_eq p l
    rw [h] at takes ⊢
    cases taken <;> exact linkStep_of_none takes rfl rfl rfl rfl
  | @cipherConfirmed _ c =>
    obtain ⟨k, h⟩ := confirmCipher_eq l c
    exact linkStep_of_none takes rfl rfl (by rw [h]) (by rw [h])
  | @queued f =>
    obtain ⟨q, h⟩ := voiceReceived_eq f l
    exact linkStep_of_none takes rfl rfl (by rw [h]) (by rw [h])
  | @written x =>
    exact linkStep_of_none takes rfl rfl (x.apply_link l).1 (x.apply_link l).2
  -- the confirms: which of the two the record takes one for decides whether it is reset
  | @activated _ c es _ located quiet =>
    have unasked : es.filterMap (Event.demand? before id) = [] :=
      demands_of_subjects (by simp [quiet])
    refine .activated ?_ (if_pos located) (takes.silent ?_) rfl ?_
    · simp [Turn.demands, filterMap_event, Event.demand?, unasked]
    · intro deactivated
      cases (if_pos located).symm.trans deactivated
    · exact ite_congr (propext (beq_iff_eq.trans (opens_iff rfl located).symm)) (fun _ => rfl)
        fun _ => rfl
  | sacchDown located stopped up =>
    exact .sacchDown rfl (if_pos located) (not_releases_of_none rfl) stopped up rfl
  | @released _ c es _ located full quiet =>
    have untold : es.filterMap Event.released? = [] := releasesDone_of_subjects quiet
    have unasked : es.filterMap (Event.demand? before id) = [] :=
      demands_of_subjects (by simp [quiet])
    refine .released ?_ (if_pos located) ?_ full rfl
    · simp [Turn.demands, filterMap_event, Event.demand?, unasked]
    · simp [releasesDone, Event.released?, untold]
  -- the requests: the record is marked by each, whatever the radio answers
  | refused asked located type e =>
    refine .activation false ?_ (confirm?_of_asked (.inl asked)) (takes.silent ?_) rfl rfl
    · simp [Turn.demands, Event.demand?, located, Except.toBool]
    · rw [confirm?_of_asked (.inl asked)]
      simp
  | requested asked located type handle =>
    obtain ⟨d, h⟩ := allocated_eq site type handle (activating site type l)
    refine .activation true ?_ (confirm?_of_asked (.inl asked)) (takes.silent ?_)
      (by rw [h]; rfl) (by rw [h]; rfl)
    · simp [Turn.demands, Event.demand?, located, Except.toBool]
    · rw [confirm?_of_asked (.inl asked)]
      simp
  | releaseAsked asked located answer =>
    refine .release answer.toBool ?_ (confirm?_of_asked (.inr asked)) (takes.silent ?_) rfl rfl
    · simp [Turn.demands, Event.demand?, located]
    · rw [confirm?_of_asked (.inr asked)]
      simp
  | sacchStopped located answer =>
    refine .sacchStop answer.toBool ?_ rfl (takes.silent ?_) rfl rfl
    · simp [Turn.demands, Event.demand?, located]
    · intro deactivated
      cases deactivated

/-! ### The ledger -/

/-- The requests that the radio took and has yet to confirm, and what was asked for of late. -/
structure Ledger where
  pending : List Demand
  /-- The end of the SACCH was asked for since the last activation was. -/
  stopped : Bool
  /-- A release was asked for since the last confirm and since the last activation was. -/
  releasing : Bool
deriving DecidableEq

namespace Ledger

def empty : Ledger := ⟨[], false, false⟩

def ask (g : Ledger) : Demand × Bool → Ledger
  | (d, taken) =>
    let pending := if taken then g.pending ++ [d] else g.pending
    match d with
    | .activation => ⟨pending, false, false⟩
    | .release => ⟨pending, g.stopped, true⟩
    | .sacchStop => ⟨pending, true, g.releasing⟩

def confirmed (g : Ledger) : Ledger := ⟨g.pending.tail, g.stopped, false⟩

def after (id : LchanId) (g : Ledger) (t : Turn) : Ledger :=
  (t.demands id).foldl ask (if (t.confirm? id).isSome then g.confirmed else g)

end Ledger

/-- The turns, each with the ledger that it finds. -/
def withLedger (id : LchanId) (g : Ledger) : List Turn → List (Ledger × Turn)
  | [] => []
  | t :: ts => (g, t) :: withLedger id (g.after id t) ts

def ledgerAfter (id : LchanId) (g : Ledger) (ts : List Turn) : Ledger :=
  ts.foldl (Ledger.after id) g

/-- A confirm answers the oldest request. -/
def Turn.InOrder (id : LchanId) (g : Ledger) (t : Turn) : Prop :=
  t.confirm? id = none ∨ g.pending.head?.map Demand.confirm = t.confirm? id

instance (id : LchanId) (g : Ledger) (t : Turn) : Decidable (t.InOrder id g) := by
  unfold Turn.InOrder
  infer_instance

/-- A turn handles the confirm that answers a release. -/
def Turn.AnswersRelease (id : LchanId) (g : Ledger) (t : Turn) : Prop :=
  t.confirm? id = some .deactivation ∧ g.pending.head? = some .release

instance (id : LchanId) (g : Ledger) (t : Turn) : Decidable (t.AnswersRelease id g) := by
  unfold Turn.AnswersRelease
  infer_instance

/-- RSL is told of a release with the confirm that answers one, and then alone; so is the record
reset. -/
structure Turn.ReleasesRightly (id : LchanId) (g : Ledger) (t : Turn) : Prop where
  told : (releasesDone t.events).count id = if t.AnswersRelease id g then 1 else 0
  record : t.confirm? id = some .deactivation → t.after.lchan? id =
    if t.AnswersRelease id g then (t.before.lchan? id).map Lchan.resetAfterRelease
    else t.before.lchan? id

/-- The record of a channel agrees with the ledger. -/
structure Ledger.Agrees (g : Ledger) (l : Lchan) : Prop where
  stopped : g.stopped = l.sacchDeact
  releasing : g.releasing = true ↔ l.state = .relRequested

/-- What the ledger must show at a confirm of a deactivation: it answers a release exactly if the
SACCH was not stopped or a release was asked for since the last confirm. -/
def Turn.Discerned (id : LchanId) (g : Ledger) (t : Turn) : Prop :=
  t.confirm? id = some .deactivation →
    (g.pending.head? = some .release ↔ g.stopped = false ∨ g.releasing = true)

instance (id : LchanId) (g : Ledger) (t : Turn) : Decidable (t.Discerned id g) := by
  unfold Turn.Discerned
  infer_instance

theorem Ledger.Agrees.after {g : Ledger} (agrees : g.Agrees l) (h : t.Takes site id l l') :
    (g.after id t).Agrees l' := by
  unfold Ledger.after
  cases h.linkStep with
  | keep unasked unconfirmed _ stopped state =>
    rw [unasked, unconfirmed]
    exact ⟨agrees.stopped.trans stopped.symm, agrees.releasing.trans (by rw [state])⟩
  | activation taken asked unconfirmed _ stopped state =>
    rw [asked, unconfirmed]
    exact ⟨stopped.symm, by simp [Ledger.ask, state]⟩
  | release taken asked unconfirmed _ stopped state =>
    rw [asked, unconfirmed]
    exact ⟨agrees.stopped.trans stopped.symm, by simp [Ledger.ask, state]⟩
  | sacchStop taken asked unconfirmed _ stopped state =>
    rw [asked, unconfirmed]
    exact ⟨stopped.symm, by simpa [Ledger.ask, state] using agrees.releasing⟩
  | activated unasked confirmed _ stopped state =>
    have up : l'.state ≠ .relRequested := by
      rw [state]
      split <;> simp
    rw [unasked, confirmed]
    exact ⟨agrees.stopped.trans stopped.symm, by simp [Ledger.confirmed, up]⟩
  | sacchDown unasked confirmed _ _ up record =>
    rw [unasked, confirmed, record]
    exact ⟨agrees.stopped, by simp [Ledger.confirmed, up]⟩
  | released unasked confirmed _ _ record =>
    rw [unasked, confirmed, record]
    exact ⟨agrees.stopped, by simp [Ledger.confirmed, Lchan.resetAfterRelease]⟩

theorem count_of_not_releases (silent : ¬ t.Releases id) : (releasesDone t.events).count id = 0 :=
  List.count_eq_zero.mpr silent

/-- The access point is right about a confirm exactly if the ledger tells what it answers. -/
theorem Turn.Takes.releasesRightly_iff {g : Ledger} (h : t.Takes site id l l')
    (agrees : g.Agrees l) : t.ReleasesRightly id g ↔ t.Discerned id g := by
  -- in a turn without a confirm there is nothing to be right about
  have unheard : t.confirm? id ≠ some .deactivation → ¬ t.Releases id →
      (t.ReleasesRightly id g ↔ t.Discerned id g) := by
    intro other silent
    refine ⟨fun _ deactivated => absurd deactivated other, fun _ => ⟨?_, fun h => absurd h other⟩⟩
    rw [count_of_not_releases silent, if_neg fun answers => other answers.1]
  cases h.linkStep with
  | keep _ unconfirmed silent => exact unheard (by simp [unconfirmed]) silent
  | activation _ _ unconfirmed silent => exact unheard (by simp [unconfirmed]) silent
  | release _ _ unconfirmed silent => exact unheard (by simp [unconfirmed]) silent
  | sacchStop _ _ unconfirmed silent => exact unheard (by simp [unconfirmed]) silent
  | activated _ confirmed silent => exact unheard (by simp [confirmed]) silent
  | sacchDown _ confirmed silent stopped up record =>
    -- the record shows the stop of the SACCH, and so does the ledger: it is right to be silent
    -- exactly if the oldest request is no release
    have ledger : ¬ (g.stopped = false ∨ g.releasing = true) := by
      rw [agrees.stopped, agrees.releasing]
      simp [stopped, up]
    constructor
    · intro right _
      have none : ¬ t.AnswersRelease id g := by
        intro answers
        have := right.told
        rw [count_of_not_releases silent, if_pos answers] at this
        cases this
      exact ⟨fun head => absurd ⟨confirmed, head⟩ none, fun h => absurd h ledger⟩
    · intro told
      have none : ¬ t.AnswersRelease id g := fun answers =>
        ledger ((told confirmed).mp answers.2)
      refine ⟨by rw [count_of_not_releases silent, if_neg none], fun _ => ?_⟩
      rw [if_neg none, h.before, h.after, record]
  | released _ confirmed once full record =>
    have ledger : g.stopped = false ∨ g.releasing = true := by
      rw [agrees.stopped, agrees.releasing]
      exact full
    constructor
    · intro right _
      refine ⟨fun _ => ledger, fun _ => ?_⟩
      have := right.told
      rw [once] at this
      split at this
      · rename_i answers
        exact answers.2
      · cases this
    · intro told
      have answers : t.AnswersRelease id g := ⟨confirmed, (told confirmed).mpr ledger⟩
      refine ⟨by rw [once, if_pos answers], fun _ => ?_⟩
      rw [if_pos answers, h.before, h.after, record]
      rfl

/-! ### Counting releases -/

/-- The releases of a channel that RSL was told of. -/
def releasesTold (id : LchanId) (ts : List Turn) : Nat :=
  (ts.flatMap fun t => releasesDone t.events).count id

/-- The releases of a channel that the radio was asked for and took. -/
def releasesTaken (id : LchanId) (ts : List Turn) : Nat :=
  (ts.flatMap (Turn.demands id)).count (.release, true)

theorem pending_foldl_ask (ds : List (Demand × Bool)) (g : Ledger) :
    (ds.foldl Ledger.ask g).pending.count .release =
      g.pending.count .release + ds.count (.release, true) := by
  induction ds generalizing g with
  | nil => rfl
  | cons d ds ih =>
    have first : (g.ask d).pending.count .release =
        g.pending.count .release + [d].count (.release, true) := by
      obtain ⟨d, taken⟩ := d
      cases d <;> cases taken <;> simp [Ledger.ask]
    rw [List.foldl_cons, ih, first, List.count_cons (l := ds), List.count_singleton]
    omega

/-- A confirm in order that is handled rightly takes off the ledger what RSL is told of. -/
theorem Turn.ReleasesRightly.count {g : Ledger} (right : t.ReleasesRightly id g)
    (order : t.InOrder id g) :
    (releasesDone t.events).count id + (g.after id t).pending.count .release =
      g.pending.count .release + (t.demands id).count (.release, true) := by
  unfold Ledger.after
  rw [pending_foldl_ask, right.told]
  cases hc : t.confirm? id with
  | none =>
    rw [if_neg fun answers => absurd answers.1 (by simp [hc])]
    simp
  | some c =>
    have head := order.resolve_left (by simp [hc])
    rw [hc, Option.map_eq_some_iff] at head
    obtain ⟨d, hd, rfl⟩ := head
    obtain ⟨rest, pending⟩ := List.head?_eq_some_iff.mp hd
    have answers : t.AnswersRelease id g ↔ d = .release := by
      unfold Turn.AnswersRelease
      rw [hc, hd, Option.some.injEq, Option.some.injEq]
      constructor
      · exact fun h => h.2
      · rintro rfl
        exact ⟨rfl, rfl⟩
    simp only [Option.isSome_some, if_true, Ledger.confirmed, answers, pending, List.tail_cons,
      List.count_cons, beq_iff_eq]
    omega

/-- If all confirms come in order and are handled rightly, RSL is told of each release that the
radio took, but for those yet to be confirmed. -/
theorem releasesTold_of_rightly {g : Ledger}
    (order : ∀ x ∈ withLedger id g ts, x.2.InOrder id x.1)
    (right : ∀ x ∈ withLedger id g ts, x.2.ReleasesRightly id x.1) :
    releasesTold id ts + (ledgerAfter id g ts).pending.count .release =
      g.pending.count .release + releasesTaken id ts := by
  induction ts generalizing g with
  | nil => simp [releasesTold, releasesTaken, ledgerAfter]
  | cons t ts ih =>
    have first : (releasesDone t.events).count id + (g.after id t).pending.count .release =
        g.pending.count .release + (t.demands id).count (.release, true) :=
      (right _ List.mem_cons_self).count (order _ List.mem_cons_self)
    have rest := ih (fun x hx => order x (List.mem_cons_of_mem _ hx))
      (fun x hx => right x (List.mem_cons_of_mem _ hx))
    unfold releasesTold releasesTaken at rest ⊢
    simp only [List.flatMap_cons, List.count_append]
    rw [ledgerAfter, List.foldl_cons]
    unfold ledgerAfter at rest
    omega

/-! ### Runs -/

/-- Through all turns RSL is told of a release with the confirm that answers one and then alone,
and once for each release that the radio took, but for those yet to be confirmed. -/
structure ReleasesAcknowledged (id : LchanId) (ts : List Turn) : Prop where
  rightly : ∀ x ∈ withLedger id .empty ts, x.2.ReleasesRightly id x.1
  counted : releasesTold id ts + (ledgerAfter id .empty ts).pending.count .release =
    releasesTaken id ts

/-- Along a track the ledger agrees with the record. -/
theorem Ledger.Agrees.of_mem {g : Ledger} {x : Ledger × Turn} (agrees : g.Agrees l)
    (track : Track site id l ts l') (hx : x ∈ withLedger id g ts) :
    ∃ k k', x.2.Takes site id k k' ∧ x.1.Agrees k := by
  induction track generalizing g with
  | nil => cases hx
  | cons first _ ih =>
    rcases List.mem_cons.mp hx with rfl | hx
    · exact ⟨_, _, first, agrees⟩
    · exact ih (agrees.after first) hx

/-- In every run in which the radio confirms the requests for a channel in order, the releases are
acknowledged as they should be exactly if at each confirm of a deactivation the oldest request is a
release just when the end of the SACCH was not asked for since the last activation, or a release
was asked for since the last confirm. -/
theorem releases_acknowledged_iff (site : Site σ φ) (c : Config) (filter : Capture.Filter)
    (services : σ) (phy : φ) (ms : List Move) {id : LchanId} {l₀ : Lchan}
    (known : (Bts.ofConfig c).lchan? id = some l₀)
    (order : ∀ x ∈ withLedger id .empty (history site (.fresh c filter services phy) ms),
      x.2.InOrder id x.1) :
    ReleasesAcknowledged id (history site (.fresh c filter services phy) ms) ↔
      ∀ x ∈ withLedger id .empty (history site (.fresh c filter services phy) ms),
        x.2.Discerned id x.1 := by
  obtain ⟨l', -, track⟩ := track_history site (w := .fresh c filter services phy) ms known
  have agrees : Ledger.empty.Agrees l₀ := by
    obtain ⟨type, rfl⟩ := Bts.lchan?_ofConfig known
    exact ⟨rfl, by simp [Ledger.empty, Lchan.fresh]⟩
  constructor
  · intro acknowledged x hx
    obtain ⟨k, k', takes, agrees⟩ := agrees.of_mem track hx
    exact (takes.releasesRightly_iff agrees).mp (acknowledged.rightly x hx)
  · intro told
    have right : ∀ x ∈ withLedger id .empty (history site (.fresh c filter services phy) ms),
        x.2.ReleasesRightly id x.1 := by
      intro x hx
      obtain ⟨k, k', takes, agrees⟩ := agrees.of_mem track hx
      exact (takes.releasesRightly_iff agrees).mpr (told x hx)
    exact ⟨right, by simpa [Ledger.empty] using releasesTold_of_rightly order right⟩

/-- A release, and the end of the SACCH asked for before the release is confirmed. -/
def lateStopMoves : List Move := [
  .chanAct 0 0x09 none,
  .up 0 (.mphInfoCnf (.activateCnf ⟨0x09, 0⟩)),
  .chanRel 0 0x09,
  .chanDeactSacch 0 0x09,
  .up 0 (.mphInfoCnf (.deactivateCnf ⟨0x09, 0⟩)),
  .up 0 (.mphInfoCnf (.deactivateCnf ⟨0x09, 0⟩))]

/-- The first of two confirms acknowledges the release, as it should. -/
theorem late_stop_acknowledged :
    ReleasesAcknowledged ⟨0, 1, 0⟩ (history scriptedSite (scriptedWorld .fresh) lateStopMoves) := by
  have known : (Bts.ofConfig scriptedConfig).lchan? ⟨0, 1, 0⟩ = some (.fresh ⟨0, 1, 0⟩ .tchF) := by
    decide +kernel
  have order : ∀ x ∈ withLedger ⟨0, 1, 0⟩ .empty
      (history scriptedSite (scriptedWorld .fresh) lateStopMoves),
      x.2.InOrder ⟨0, 1, 0⟩ x.1 := by decide +kernel
  refine (releases_acknowledged_iff scriptedSite scriptedConfig .empty .fresh .accepting
    lateStopMoves known order).mpr ?_
  decide +kernel

/-- The SACCH is stopped and the channel released at once. -/
def stoppedReleaseMoves : List Move := [
  .chanAct 0 0x09 none,
  .up 0 (.mphInfoCnf (.activateCnf ⟨0x09, 0⟩)),
  .chanDeactSacch 0 0x09,
  .chanRel 0 0x09,
  .up 0 (.mphInfoCnf (.deactivateCnf ⟨0x09, 0⟩)),
  .up 0 (.mphInfoCnf (.deactivateCnf ⟨0x09, 0⟩))]

/-- The confirm of the SACCH acknowledges the release while the main channel is still up. -/
theorem release_acknowledged_early :
    (∀ x ∈ withLedger ⟨0, 1, 0⟩ .empty
      (history scriptedSite (scriptedWorld .fresh) stoppedReleaseMoves),
      x.2.InOrder ⟨0, 1, 0⟩ x.1) ∧
    ¬ ReleasesAcknowledged ⟨0, 1, 0⟩
      (history scriptedSite (scriptedWorld .fresh) stoppedReleaseMoves) := by
  have early : ∃ x ∈ withLedger ⟨0, 1, 0⟩ .empty
      (history scriptedSite (scriptedWorld .fresh) stoppedReleaseMoves),
      (releasesDone x.2.events).count ⟨0, 1, 0⟩ ≠
        if x.2.AnswersRelease ⟨0, 1, 0⟩ x.1 then 1 else 0 := by decide +kernel
  refine ⟨by decide +kernel, fun acknowledged => ?_⟩
  obtain ⟨x, hx, wrong⟩ := early
  exact wrong (acknowledged.rightly x hx).told

end BaseStation.Bridge
