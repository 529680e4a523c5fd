import BaseStation.Proofs.Bridge.Moved

/-!
The record of one logical channel through a run.
-/

namespace BaseStation.Bridge

variable {σ φ : Type} {site : Site σ φ} {w : World σ φ} {id : LchanId} {l l' : Lchan}
  {t : Turn} {ts us : List Turn}

/-- A turn takes the record of a channel from `l` to `l'`. -/
structure Turn.Takes (site : Site σ φ) (id : LchanId) (t : Turn) (l l' : Lchan) : Prop where
  before : t.before.lchan? id = some l
  after : t.after.lchan? id = some l'
  lawful : t.Lawful site
  move : ChannelMove site t.before id l t.move l' t.events

/-- Turns in a row take the record of a channel from one value to the other. -/
inductive Track (site : Site σ φ) (id : LchanId) : Lchan → List Turn → Lchan → Prop
  | nil {l : Lchan} : Track site id l [] l
  | cons {l l' l'' : Lchan} {t : Turn} {ts : List Turn} (first : t.Takes site id l l')
      (rest : Track site id l' ts l'') : Track site id l (t :: ts) l''

namespace Track

theorem nil_iff : Track site id l [] l' ↔ l = l' := by
  constructor
  · intro h
    cases h
    rfl
  · rintro rfl
    exact .nil

theorem cons_iff : Track site id l (t :: ts) l' ↔
    ∃ k, t.Takes site id l k ∧ Track site id k ts l' := by
  constructor
  · intro h
    cases h with
    | cons first rest => exact ⟨_, first, rest⟩
  · rintro ⟨k, first, rest⟩
    exact .cons first rest

theorem append_iff : Track site id l (ts ++ us) l' ↔
    ∃ k, Track site id l ts k ∧ Track site id k us l' := by
  induction ts generalizing l with
  | nil => simp [nil_iff]
  | cons t ts ih =>
    simp only [List.cons_append, cons_iff, ih]
    constructor
    · rintro ⟨k, first, k', h, h'⟩
      exact ⟨k', ⟨k, first, h⟩, h'⟩
    · rintro ⟨k', ⟨k, first, h⟩, h'⟩
      exact ⟨k, first, k', h, h'⟩

theorem singleton_iff : Track site id l [t] l' ↔ t.Takes site id l l' := by
  rw [cons_iff]
  constructor
  · rintro ⟨k, first, rest⟩
    rwa [← nil_iff.mp rest]
  · exact fun first => ⟨l', first, .nil⟩

/-- A run split at one of its turns. -/
theorem split (track : Track site id l (ts ++ t :: us) l') :
    ∃ k k', Track site id l ts k ∧ t.Takes site id k k' ∧ Track site id k' us l' := by
  obtain ⟨k, earlier, later⟩ := append_iff.mp track
  obtain ⟨k', takes, later⟩ := cons_iff.mp later
  exact ⟨k, k', earlier, takes, later⟩

/-- What the record of a channel tells of the turns so far it tells of a longer history too, if each
turn preserves this. -/
theorem history_induction {P : List Turn → Lchan → Prop} (track : Track site id l us l')
    (start : P ts l)
    (snoc : ∀ {ts t k k'}, P ts k → t.Takes site id k k' → P (ts ++ [t]) k') :
    P (ts ++ us) l' := by
  induction track generalizing ts with
  | nil => rwa [List.append_nil]
  | cons first _ ih =>
    have later := ih (snoc start first)
    rwa [List.append_assoc] at later

end Track

/-- A turn singled out of a longer history is the last one, or one of those before. -/
theorem exists_split_snoc {p : List Turn → Turn → List Turn → Prop} :
    (∃ pre u post, ts ++ [t] = pre ++ u :: post ∧ p pre u post) ↔
      p ts t [] ∨ ∃ pre u post, ts = pre ++ u :: post ∧ p pre u (post ++ [t]) := by
  constructor
  · rintro ⟨pre, u, post, split, h⟩
    rcases post.eq_nil_or_concat with rfl | ⟨post, v, rfl⟩
    · obtain ⟨rfl, last⟩ := List.append_inj' split rfl
      cases last
      exact .inl h
    · rw [List.concat_eq_append] at split h
      rw [← List.cons_append, ← List.append_assoc] at split
      obtain ⟨rfl, last⟩ := List.append_inj' split rfl
      cases last
      exact .inr ⟨pre, u, post, rfl, h⟩
  · rintro (h | ⟨pre, u, post, rfl, h⟩)
    · exact ⟨ts, t, [], rfl, h⟩
    · exact ⟨pre, u, post ++ [t], by simp, h⟩

/-- The turn of a move takes the record of a channel along. -/
theorem takes_of_lawful (lawful : t.Lawful site) (hl : t.before.lchan? id = some l) :
    ∃ l', t.Takes site id l l' := by
  obtain ⟨l', after, move⟩ := lawful.moved hl
  exact ⟨l', hl, after, lawful, move⟩

/-- A run takes the record of a channel along its history. -/
theorem track_history (site : Site σ φ) (ms : List Move) (hl : w.bts.lchan? id = some l) :
    ∃ l', (run site w ms).bts.lchan? id = some l' ∧ Track site id l (history site w ms) l' := by
  induction ms generalizing w l with
  | nil => exact ⟨l, hl, .nil⟩
  | cons m ms ih =>
    obtain ⟨k, first⟩ := takes_of_lawful (lawful_turnOf site w m) hl
    obtain ⟨l', hl', rest⟩ := ih first.after
    exact ⟨l', hl', .cons first rest⟩

/-! ### Releases -/

def Event.released? : Event → Option LchanId
  | .call (.releaseDone id) _ => some id
  | _ => none

/-- The channels whose release RSL was told of. -/
def releasesDone (es : List Event) : List LchanId := es.filterMap Event.released?

instance : Aside Event.released? := by constructor <;> intros <;> rfl

/-- RSL is told that the channel was released. -/
def Turn.Releases (id : LchanId) (t : Turn) : Prop := id ∈ releasesDone t.events

instance (id : LchanId) (t : Turn) : Decidable (t.Releases id) := by
  unfold Turn.Releases
  infer_instance

theorem Turn.releases_of_told (told : .call (.releaseDone id) () ∈ t.events) : t.Releases id :=
  List.mem_filterMap.mpr ⟨_, told, rfl⟩

theorem mem_subjects_of_releasesDone {b : Bts} {es : List Event} (h : id ∈ releasesDone es) :
    id ∈ subjects b es := by
  obtain ⟨e, he, hid⟩ := List.mem_filterMap.mp h
  refine List.mem_filterMap.mpr ⟨e, he, ?_⟩
  unfold Event.released? at hid
  split at hid
  · exact hid
  · cases hid

theorem releasesDone_of_subjects {b : Bts} {es : List Event} (quiet : subjects b es = []) :
    releasesDone es = [] := by
  rw [List.eq_nil_iff_forall_not_mem]
  intro j hj
  have := mem_subjects_of_releasesDone (b := b) hj
  rw [quiet] at this
  cases this

theorem not_releases_of_quiet (quiet : id ∉ subjects t.before t.events) : ¬ t.Releases id :=
  fun released => quiet (mem_subjects_of_releasesDone released)

theorem not_releases_of_none (none : releasesDone t.events = []) : ¬ t.Releases id := by
  intro released
  unfold Turn.Releases at released
  rw [none] at released
  cases released

/-- How a release is completed: the radio confirms a deactivation that is not taken to be that of
the SACCH alone, and RSL is told once. -/
structure Turn.Completes (id : LchanId) (t : Turn) (l l' : Lchan) : Prop where
  confirm : ∃ trx c h, t.move = .input (.up trx (.mphInfoCnf (.deactivateCnf c))) h ∧
    t.before.locate? trx c.chanNr = some id
  full : l.sacchDeact = false ∨ l.state = .relRequested
  record : l' = l.resetAfterRelease
  once : (releasesDone t.events).count id = 1

/-- A turn does not tell of the release of a channel, unless it completes it. -/
theorem Turn.Takes.completes (h : t.Takes site id l l') :
    ¬ t.Releases id ∨ t.Completes id l l' := by
  obtain ⟨-, -, -, move⟩ := h
  obtain ⟨before, m, res, events, after⟩ := t
  dsimp only at move
  cases move with
  | keep _ quiet => exact .inl (not_releases_of_quiet quiet)
  | filled _ _ quiet =>
    exact .inl (not_releases_of_none ((filterMap_event _ _ _).trans
      (releasesDone_of_subjects quiet)))
  | echoed _ _ _ _ quiet => exact .inl (not_releases_of_quiet quiet)
  | voiced _ _ quiet =>
    have untold : List.filterMap Event.released? _ = [] := releasesDone_of_subjects quiet
    exact .inl (not_releases_of_none (by simp [releasesDone, Event.released?, untold]))
  | lost _ _ quiet => exact .inl (not_releases_of_quiet quiet)
  | shortened _ _ quiet => exact .inl (not_releases_of_quiet quiet)
  | voiceKept _ _ _ _ quiet => exact .inl (not_releases_of_quiet quiet)
  | voiceTaken _ _ _ quiet => exact .inl (not_releases_of_quiet quiet)
  | accessed _ _ quiet => exact .inl (not_releases_of_quiet quiet)
  | activated _ quiet =>
    exact .inl (not_releases_of_none ((filterMap_event _ _ _).trans
      (releasesDone_of_subjects quiet)))
  | released located full quiet =>
    refine .inr ⟨⟨_, _, _, rfl, located⟩, full, rfl, ?_⟩
    have none := releasesDone_of_subjects quiet
    unfold releasesDone at none ⊢
    rw [filterMap_event, none]
    simp [Event.released?]
  | _ =>
    exact .inl (not_releases_of_none (by simp [releasesDone, filterMap_event, Event.released?]))

end BaseStation.Bridge
