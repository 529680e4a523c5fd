import BaseStation.Proofs.Release

/-!
The life of a channel. RSL may ask for a release while the confirm of the activation is on its way,
and for the next activation before that of the release. The access point takes a confirm for what
it says, whatever was asked for since, so whether a release is final and whether the states of a
channel follow one another as they should is up to the order of the requests and the confirms.
-/

namespace BaseStation

/-- The states in the life of a channel that come right after one another. -/
def LchanState.leadsTo : LchanState → LchanState → Bool
  | none, actRequested => true
  | actRequested, active | actRequested, none | actRequested, relRequested => true
  | active, relRequested => true
  | relRequested, none => true
  | _, _ => false

def Bts.state? (b : Bts) (id : LchanId) : Option LchanState := (b.lchan? id).map (·.state)

namespace Bridge

variable {σ φ : Type} {site : Site σ φ} {id : LchanId} {l l' : Lchan} {t : Turn} {ts : List Turn}

/-! ### Releases that are final -/

/-- A turn asks the radio for something for a channel, whether or not the radio takes it. -/
def Turn.Asks (id : LchanId) (d : Demand) (t : Turn) : Prop := d ∈ (t.demands id).map Prod.fst

instance (id : LchanId) (d : Demand) (t : Turn) : Decidable (t.Asks id d) := by
  unfold Turn.Asks
  infer_instance

def Turn.MakesActive (id : LchanId) (t : Turn) : Prop :=
  t.before.state? id ≠ some .active ∧ t.after.state? id = some .active

instance (id : LchanId) (t : Turn) : Decidable (t.MakesActive id) := by
  unfold Turn.MakesActive
  infer_instance

/-- No turn is such up to the one that asks for the activation of the channel. -/
def NoneUntilAsked (id : LchanId) (P : Turn → Prop) : List Turn → Prop
  | [] => True
  | t :: ts => ¬ P t ∧ (t.Asks id .activation ∨ NoneUntilAsked id P ts)

/-- Once the release of the channel was asked for no turn is such, until its activation is asked
for again. -/
def NoneOnceReleased (id : LchanId) (P : Turn → Prop) : List Turn → Prop
  | [] => True
  | t :: ts => (t.Asks id .release → NoneUntilAsked id P ts) ∧ NoneOnceReleased id P ts

section Decidable

variable (id) (P : Turn → Prop) [DecidablePred P]

instance decidableNoneUntilAsked : ∀ ts, Decidable (NoneUntilAsked id P ts)
  | [] => .isTrue trivial
  | t :: ts =>
    have := decidableNoneUntilAsked ts
    inferInstanceAs (Decidable (¬ P t ∧ (t.Asks id .activation ∨ NoneUntilAsked id P ts)))

instance decidableNoneOnceReleased : ∀ ts, Decidable (NoneOnceReleased id P ts)
  | [] => .isTrue trivial
  | t :: ts =>
    have := decidableNoneOnceReleased ts
    inferInstanceAs (Decidable
      ((t.Asks id .release → NoneUntilAsked id P ts) ∧ NoneOnceReleased id P ts))

end Decidable

/-- A channel that was released does not become active before it is activated again. -/
def ReleaseFinal (id : LchanId) (ts : List Turn) : Prop :=
  NoneOnceReleased id (Turn.MakesActive id) ts

instance (id : LchanId) (ts : List Turn) : Decidable (ReleaseFinal id ts) := by
  unfold ReleaseFinal
  infer_instance

theorem not_asks_of_unasked {d : Demand} (unasked : t.demands id = []) : ¬ t.Asks id d := by
  simp [Turn.Asks, unasked]

theorem asks_iff {d e : Demand} {taken : Bool} (asked : t.demands id = [(e, taken)]) :
    t.Asks id d ↔ d = e := by
  simp [Turn.Asks, asked]

theorem not_opens {c : Option Confirm} (confirmed : t.confirm? id = c)
    (other : c ≠ some .activation) : ¬ t.Opens id :=
  fun opens => other (confirmed ▸ opens.1)

theorem state?_of_lchan? {b : Bts} (known : b.lchan? id = some l) : b.state? id = some l.state := by
  unfold Bts.state?
  rw [known, Option.map_some]

/-- A channel that is not active becomes active with the confirm of an activation. -/
theorem Turn.Takes.makesActive_iff (h : t.Takes site id l l') (down : l.state ≠ .active) :
    t.MakesActive id ↔ t.Opens id := by
  have makes : t.MakesActive id ↔ l'.state = .active := by
    unfold Turn.MakesActive
    rw [state?_of_lchan? h.before, state?_of_lchan? h.after]
    simp [down]
  rw [makes]
  cases h.linkStep with
  | keep _ unconfirmed _ _ state => simp [state, down, not_opens unconfirmed]
  | activation _ _ unconfirmed _ _ state => simp [state, not_opens unconfirmed]
  | release _ _ unconfirmed _ _ state => simp [state, not_opens unconfirmed]
  | sacchStop _ _ unconfirmed _ _ state => simp [state, down, not_opens unconfirmed]
  | activated _ _ _ _ state =>
    rw [state]
    split <;> simp_all
  | sacchDown _ confirmed _ _ _ record => simp [record, down, not_opens confirmed]
  | released _ confirmed _ _ record =>
    simp [record, Lchan.resetAfterRelease, not_opens confirmed]

theorem Turn.Takes.releasing (h : t.Takes site id l l') (asked : t.Asks id .release) :
    l'.state = .relRequested := by
  cases h.linkStep with
  | keep unasked => exact absurd asked (not_asks_of_unasked unasked)
  | activation _ demands => cases (asks_iff demands).mp asked
  | release _ _ _ _ _ state => exact state
  | sacchStop _ demands => cases (asks_iff demands).mp asked
  | activated unasked => exact absurd asked (not_asks_of_unasked unasked)
  | sacchDown unasked => exact absurd asked (not_asks_of_unasked unasked)
  | released unasked => exact absurd asked (not_asks_of_unasked unasked)

theorem Track.noneUntilAsked_iff (track : Track site id l ts l') (down : l.state ≠ .active) :
    NoneUntilAsked id (Turn.MakesActive id) ts ↔ NoneUntilAsked id (Turn.Opens id) ts := by
  induction track with
  | nil => exact Iff.rfl
  | @cons l k _ t _ first _ ih =>
    have makes : t.MakesActive id ↔ t.Opens id := first.makesActive_iff down
    unfold NoneUntilAsked
    rw [makes, and_congr_right_iff]
    intro shut
    have still : k.state ≠ .active := by
      intro active
      refine shut (makes.mp ⟨?_, ?_⟩)
      · rw [state?_of_lchan? first.before]
        simpa using down
      · rw [state?_of_lchan? first.after, active]
    rw [ih still]

/-- Releases are final if and only if no activation is confirmed after a release of the channel was
asked for, before its activation is. -/
theorem Track.releaseFinal_iff (track : Track site id l ts l') :
    ReleaseFinal id ts ↔ NoneOnceReleased id (Turn.Opens id) ts := by
  induction track with
  | nil => exact Iff.rfl
  | cons first rest ih =>
    refine and_congr (imp_congr_right fun asked => ?_) ih
    exact rest.noneUntilAsked_iff (by simp [first.releasing asked])

/-! ### The course of a channel -/

/-- Where the requests and the confirms so far have brought a channel. -/
structure Course where
  state : LchanState
  /-- The end of the SACCH was asked for since the last activation was. -/
  stopped : Bool
deriving DecidableEq

namespace Course

def start : Course := ⟨.none, false⟩

/-- What the record of a channel shows of its course. -/
def of (l : Lchan) : Course := ⟨l.state, l.sacchDeact⟩

def ask (c : Course) : Demand → Course
  | .activation => ⟨.actRequested, false⟩
  | .release => { c with state := .relRequested }
  | .sacchStop => { c with stopped := true }

/-- A confirm of a deactivation is that of the SACCH where its end was asked for, and no release
after the last confirm. -/
def confirm (c : Course) (opens : Bool) : Confirm → Course
  | .activation => { c with state := if opens then .active else .none }
  | .deactivation =>
    if c.stopped ∧ c.state ≠ .relRequested then c else { c with state := .none }

def after (id : LchanId) (c : Course) (t : Turn) : Course :=
  ((t.demands id).map Prod.fst).foldl ask ((t.confirm? id).elim c (c.confirm (t.Opens id)))

end Course

/-- The turns, each with the course of the channel that it finds. -/
def withCourse (id : LchanId) (c : Course) : List Turn → List (Course × Turn)
  | [] => []
  | t :: ts => (c, t) :: withCourse id (c.after id t) ts

/-- The record shows the course of its channel. -/
theorem Turn.Takes.course (h : t.Takes site id l l') :
    (Course.of l).after id t = Course.of l' := by
  unfold Course.after
  cases h.linkStep with
  | keep unasked unconfirmed _ stopped state =>
    rw [unasked, unconfirmed, Course.of, Course.of, stopped, state]
    rfl
  | activation _ asked unconfirmed _ stopped state =>
    rw [asked, unconfirmed, Course.of, Course.of, stopped, state]
    rfl
  | release _ asked unconfirmed _ stopped state =>
    rw [asked, unconfirmed, Course.of, Course.of, stopped, state]
    rfl
  | sacchStop _ asked unconfirmed _ stopped state =>
    rw [asked, unconfirmed, Course.of, Course.of, stopped, state]
    rfl
  | activated unasked confirmed _ stopped state =>
    rw [unasked, confirmed, Course.of, Course.of, stopped, state]
    simp [Course.confirm]
  | sacchDown unasked confirmed _ stopped up record =>
    rw [unasked, confirmed, record]
    exact if_pos ⟨stopped, up⟩
  | released unasked confirmed _ full record =>
    -- the course tells the two confirms apart by the marks that the record has
    have whole : ¬ ((Course.of l).stopped = true ∧ (Course.of l).state ≠ .relRequested) := by
      rintro ⟨stopped, up⟩
      rcases full with running | asked
      · exact absurd (stopped.symm.trans running) (by decide)
      · exact up asked
    rw [unasked, confirmed, record]
    exact if_neg whole

/-! ### States that follow one another -/

/-- The state of a channel stays as it is, goes on as it should, or is that of a new activation. -/
def Turn.FollowsLife (id : LchanId) (t : Turn) : Prop :=
  ∃ s ∈ t.before.state? id, ∃ s' ∈ t.after.state? id,
    s' = s ∨ s.leadsTo s' = true ∨ (t.Asks id .activation ∧ s' = .actRequested)

instance (id : LchanId) (t : Turn) : Decidable (t.FollowsLife id) := by
  unfold Turn.FollowsLife
  infer_instance

/-- What a turn asks for, or confirms, is in its time: a release once an activation was asked for,
the confirm of an activation while one is awaited or the channel is up, a failed one only before it
is up, and that of a deactivation unless the channel is up with its SACCH. -/
structure Turn.Timely (id : LchanId) (c : Course) (t : Turn) : Prop where
  release : t.Asks id .release → c.state ≠ .none
  opened : t.Opens id → c.state = .actRequested ∨ c.state = .active
  failed : t.confirm? id = some .activation → ¬ t.Opens id → c.state ≠ .active
  released : t.confirm? id = some .deactivation → c.state = .active → c.stopped = true

theorem Turn.timely_iff {c : Course} : t.Timely id c ↔
    (t.Asks id .release → c.state ≠ .none) ∧
      (t.Opens id → c.state = .actRequested ∨ c.state = .active) ∧
      (t.confirm? id = some .activation → ¬ t.Opens id → c.state ≠ .active) ∧
      (t.confirm? id = some .deactivation → c.state = .active → c.stopped = true) := by
  constructor
  · rintro ⟨release, opened, failed, released⟩
    exact ⟨release, opened, failed, released⟩
  · rintro ⟨release, opened, failed, released⟩
    exact ⟨release, opened, failed, released⟩

instance (id : LchanId) (c : Course) (t : Turn) : Decidable (t.Timely id c) :=
  decidable_of_iff' _ Turn.timely_iff

theorem Turn.Takes.followsLife_iff (h : t.Takes site id l l') :
    t.FollowsLife id ↔ t.Timely id (Course.of l) := by
  have follows : t.FollowsLife id ↔ l'.state = l.state ∨ l.state.leadsTo l'.state = true ∨
      (t.Asks id .activation ∧ l'.state = .actRequested) := by
    unfold Turn.FollowsLife
    simp [state?_of_lchan? h.before, state?_of_lchan? h.after]
  rw [follows, Turn.timely_iff]
  unfold Course.of
  cases h.linkStep with
  | keep unasked unconfirmed _ _ state =>
    simp [state, unconfirmed, not_opens unconfirmed, not_asks_of_unasked unasked]
  | activation _ asked unconfirmed _ _ state =>
    simp [state, unconfirmed, not_opens unconfirmed, asks_iff asked]
  | release _ asked unconfirmed _ _ state =>
    simp only [state, unconfirmed, asks_iff asked]
    cases l.state <;> simp [LchanState.leadsTo, not_opens unconfirmed]
  | sacchStop _ asked unconfirmed _ _ state =>
    simp [state, unconfirmed, not_opens unconfirmed, asks_iff asked]
  | activated unasked confirmed _ _ state =>
    simp only [state, confirmed, not_asks_of_unasked unasked]
    by_cases opens : t.Opens id <;> cases l.state <;> simp [opens, LchanState.leadsTo]
  | sacchDown unasked confirmed _ stopped _ record =>
    simp [record, confirmed, stopped, not_opens confirmed, not_asks_of_unasked unasked]
  | released unasked confirmed _ full record =>
    have shut : ¬ t.Opens id := not_opens confirmed (by simp)
    simp only [record, confirmed, shut, not_asks_of_unasked unasked]
    rcases full with running | asked
    · cases l.state <;> simp [Lchan.resetAfterRelease, LchanState.leadsTo, running]
    · simp [Lchan.resetAfterRelease, LchanState.leadsTo, asked]

theorem Track.followsLife_iff (track : Track site id l ts l') :
    (∀ t ∈ ts, t.FollowsLife id) ↔
      ∀ x ∈ withCourse id (Course.of l) ts, x.2.Timely id x.1 := by
  induction track with
  | nil => simp [withCourse]
  | cons first _ ih =>
    rw [withCourse, first.course, List.forall_mem_cons, List.forall_mem_cons, ih,
      first.followsLife_iff]

/-! ### Runs -/

/-- In every run the releases of a channel are final exactly if no activation of it is confirmed
between the request for a release and the next one for an activation, and its states follow one
another as they should exactly if all requests and confirms are in their time. -/
theorem releases_final_iff (site : Site σ φ) (c : Config) (filter : Capture.Filter)
    (services : σ) (phy : φ) (ms : List Move) {id : LchanId} {l₀ : Lchan}
    (known : (Bts.ofConfig c).lchan? id = some l₀) :
    (ReleaseFinal id (history site (.fresh c filter services phy) ms) ↔
      NoneOnceReleased id (Turn.Opens id) (history site (.fresh c filter services phy) ms)) ∧
    ((∀ t ∈ history site (.fresh c filter services phy) ms, t.FollowsLife id) ↔
      ∀ x ∈ withCourse id .start (history site (.fresh c filter services phy) ms),
        x.2.Timely id x.1) := by
  obtain ⟨l', -, track⟩ := track_history site (w := .fresh c filter services phy) ms known
  have start : Course.of l₀ = .start := by
    obtain ⟨type, rfl⟩ := Bts.lchan?_ofConfig known
    rfl
  refine ⟨track.releaseFinal_iff, ?_⟩
  rw [← start]
  exact track.followsLife_iff

/-- A release asked for before the activation is confirmed, which then fails; the channel is
activated once more and released. -/
def failedActivationMoves : List Move := [
  .chanAct 0 0x09 none,
  .chanRel 0 0x09,
  .up 0 (.mphInfoCnf (.activateCnf ⟨0x09, 1⟩)),
  .up 0 (.mphInfoCnf (.deactivateCnf ⟨0x09, 0⟩)),
  .chanAct 0 0x09 none,
  .up 0 (.mphInfoCnf (.activateCnf ⟨0x09, 0⟩)),
  .chanRel 0 0x09,
  .up 0 (.mphInfoCnf (.deactivateCnf ⟨0x09, 0⟩))]

/-- Both releases are final, and the states follow one another as they should. -/
theorem failed_activation_final :
    ReleaseFinal ⟨0, 1, 0⟩ (history scriptedSite (scriptedWorld .fresh) failedActivationMoves) ∧
    ∀ t ∈ history scriptedSite (scriptedWorld .fresh) failedActivationMoves,
      t.FollowsLife ⟨0, 1, 0⟩ := by
  have known : (Bts.ofConfig scriptedConfig).lchan? ⟨0, 1, 0⟩ = some (.fresh ⟨0, 1, 0⟩ .tchF) := by
    decide +kernel
  obtain ⟨final, life⟩ := releases_final_iff scriptedSite scriptedConfig .empty .fresh .accepting
    failedActivationMoves known
  exact ⟨final.mpr (by decide +kernel), life.mpr (by decide +kernel)⟩

/-- A release asked for before the activation is confirmed. -/
def overtakenMoves : List Move := [
  .chanAct 0 0x09 none,
  .chanRel 0 0x09,
  .up 0 (.mphInfoCnf (.activateCnf ⟨0x09, 0⟩)),
  .up 0 (.mphInfoCnf (.deactivateCnf ⟨0x09, 0⟩))]

/-- The radio takes all requests and confirms each of them in its turn, and the confirm of the
activation makes the channel active that was released. -/
theorem release_overtaken :
    let ts := history scriptedSite (scriptedWorld .fresh) overtakenMoves
    (∀ t ∈ ts, ∀ d ∈ t.demands ⟨0, 1, 0⟩, d.2 = true) ∧
    (∀ x ∈ withLedger ⟨0, 1, 0⟩ .empty ts, x.2.InOrder ⟨0, 1, 0⟩ x.1) ∧
    (ledgerAfter ⟨0, 1, 0⟩ .empty ts).pending = [] ∧
    ¬ ReleaseFinal ⟨0, 1, 0⟩ ts ∧ ¬ ∀ t ∈ ts, t.FollowsLife ⟨0, 1, 0⟩ := by
  decide +kernel

end Bridge
end BaseStation
