import BaseStation.Proofs.Bridge.Causes
import BaseStation.Proofs.Bridge.Track

/-!
Ciphering starts state by state: the uplink is asked for with the command, confirmed by the radio,
and only then, with the first frame that acknowledges the command, the downlink is asked for. Only
the release of the channel goes back.
-/

namespace BaseStation.Bridge

variable {σ φ : Type} {site : Site σ φ} {w : World σ φ} {b b' : Bts} {trx n : UInt8}
  {id : LchanId} {l l' : Lchan} {r : Except Failure Unit} {es : List Event} {t : Turn}
  {ts us : List Turn}

/-! ### Ciphering requests -/

def Event.cipherRequest? : Event → Option (UInt8 × CipherRequest)
  | .down trx (.mphInfoReq (.cipherReq c)) _ => some (trx, c)
  | _ => none

/-- The ciphering requests to the radio, each with its carrier. -/
def cipherRequests (es : List Event) : List (UInt8 × CipherRequest) :=
  es.filterMap Event.cipherRequest?

instance : Aside Event.cipherRequest? := by constructor <;> intros <;> rfl

@[simp] theorem cipherRequests_call {c : Call} {a : c.Answer} :
    cipherRequests (.call c a :: es) = cipherRequests es := filterMap_event _ _ _

/-- The channel of a ciphering request is a subject of the events. -/
theorem mem_subjects_of_cipherRequests {q : UInt8 × CipherRequest} (h : q ∈ cipherRequests es)
    (located : b.locate? q.1 q.2.chanNr = some id) : id ∈ subjects b es := by
  obtain ⟨e, he, hq⟩ := List.mem_filterMap.mp h
  refine List.mem_filterMap.mpr ⟨e, he, ?_⟩
  unfold Event.cipherRequest? at hq
  split at hq
  · cases hq
    exact located
  · cases hq

/-- The ciphering requests of a turn that are about a channel. -/
def Turn.cipherRequestsFor (id : LchanId) (t : Turn) : List CipherRequest :=
  ((cipherRequests t.events).filter fun q => t.before.locate? q.1 q.2.chanNr = some id).map (·.2)

theorem cipherRequestsFor_of_quiet (quiet : id ∉ subjects t.before t.events) :
    t.cipherRequestsFor id = [] := by
  unfold Turn.cipherRequestsFor
  rw [List.map_eq_nil_iff, List.filter_eq_nil_iff]
  intro q hq located
  exact quiet (mem_subjects_of_cipherRequests hq (by simpa using located))

theorem cipherRequestsFor_of_none (none : cipherRequests t.events = []) :
    t.cipherRequestsFor id = [] := by
  unfold Turn.cipherRequestsFor
  rw [none]
  rfl

theorem cipherRequestsFor_of_one {c : CipherRequest}
    (one : cipherRequests t.events = [(trx, c)])
    (located : t.before.locate? trx c.chanNr = some id) : t.cipherRequestsFor id = [c] := by
  unfold Turn.cipherRequestsFor
  rw [one]
  simp [located]

/-! ### Where requests come from -/

/-- The ciphering requests of the events are about channels that exist. -/
def RequestsLocated (b : Bts) (es : List Event) : Prop :=
  ∀ q ∈ cipherRequests es, ∃ id, b.locate? q.1 q.2.chanNr = some id

theorem requestsLocated_of_none (h : cipherRequests es = []) : RequestsLocated b es := by
  intro q hq
  rw [h] at hq
  cases hq

/-- Blocks and receptions alone give rise to ciphering requests, about their own channel. -/
theorem StepOutcome.requestsLocated {i : Input} (outside : i.isDown = false)
    (h : StepOutcome site b i r b' es) : RequestsLocated b es := by
  intro q hq
  obtain ⟨e, he, read⟩ := List.mem_filterMap.mp hq
  cases h.causes e he with
  | uplinkCipher located | downlinkCipher located =>
    cases read
    exact ⟨_, located⟩
  | order => cases outside
  | _ => cases read

theorem Turn.Lawful.requestsLocated (h : t.Lawful site) :
    RequestsLocated t.before t.events := by
  obtain ⟨before, m, res, events, after⟩ := t
  cases m with
  | input i outside => exact StepOutcome.requestsLocated outside h
  | write j x => exact requestsLocated_of_none (by rw [h.2.2]; rfl)

/-! ### Steps of ciphering -/

/-- The receive number that acknowledges a command. -/
def awaitedNumber (xs : List UInt8) : UInt8 := ((xs.getD 1 0 >>> 1 &&& 0x07) + 1) % 8

/-- How a turn changes the ciphering of a channel, and what it asks of the radio for it. -/
inductive CipherStep (id : LchanId) (t : Turn) (l l' : Lchan) : Prop
  | keep (state : l'.cipher = l.cipher) (number : l'.cipherNs = l.cipherNs)
      (unasked : t.cipherRequestsFor id = [])
  /-- A CIPHERING MODE COMMAND goes out on the main link. -/
  | command {trx : UInt8} {p : PhRts} {h : (Input.up trx (.phRtsInd p)).isDown = false} {f : Frame}
      (move : t.move = .input (.up trx (.phRtsInd p)) h)
      (located : t.before.locate? trx p.chanNr = some id) (link : isSacchLink p.linkId = false)
      (active : l.isActive = true) (dequeued : .call (.dequeue id .dcch) (some f) ∈ t.events)
      (command : isCipheringModeCommand f.octets = true)
      (asked : cipherRequests t.events = [(trx, ⟨p.chanNr, false, true⟩)])
      (before : l.cipher = .none ∨ l.cipher = .rxRequested) (after : l'.cipher = .rxRequested)
      (number : l'.cipherNs = awaitedNumber f.octets)
  /-- The radio confirms the uplink. -/
  | confirm {trx : UInt8} {c : CipherConfirm}
      {h : (Input.up trx (.mphInfoCnf (.cipherCnf c))).isDown = false}
      (move : t.move = .input (.up trx (.mphInfoCnf (.cipherCnf c))) h)
      (located : t.before.locate? trx c.chanNr = some id) (uplink : c.uplink = true)
      (good : c.cause = 0) (unasked : cipherRequests t.events = [])
      (before : l.cipher = .rxRequested) (after : l'.cipher = .rxConfirmed)
      (number : l'.cipherNs = l.cipherNs)
  /-- A frame that acknowledges the command comes in. -/
  | enable {trx : UInt8} {d : PhData} {h : (Input.up trx (.phDataInd d)).isDown = false}
      (move : t.move = .input (.up trx (.phDataInd d)) h)
      (located : t.before.locate? trx d.chanNr = some id) (active : l.isActive = true)
      (asked : cipherRequests t.events = [(trx, ⟨d.chanNr, true, false⟩)])
      (before : l.cipher = .rxConfirmed) (after : l'.cipher = .txEnabled)
      (number : l'.cipherNs = l.cipherNs)
  /-- The radio confirms the release. -/
  | reset {trx : UInt8} {c : ActConfirm}
      {h : (Input.up trx (.mphInfoCnf (.deactivateCnf c))).isDown = false}
      (move : t.move = .input (.up trx (.mphInfoCnf (.deactivateCnf c))) h)
      (located : t.before.locate? trx c.chanNr = some id)
      (released : .call (.releaseDone id) () ∈ t.events) (unasked : cipherRequests t.events = [])
      (after : l'.cipher = .none) (number : l'.cipherNs = 0)

theorem cipherRequests_of_subjects (quiet : subjects b es = []) (located : RequestsLocated b es) :
    cipherRequests es = [] := by
  rw [List.eq_nil_iff_forall_not_mem]
  intro q hq
  obtain ⟨id, hid⟩ := located q hq
  have := mem_subjects_of_cipherRequests hq hid
  rw [quiet] at this
  cases this

/-- After a call the requests of the events are those of the rest. -/
theorem requestsLocated_of_cons {c : Call} {a : c.Answer}
    (h : RequestsLocated b (.call c a :: es)) : RequestsLocated b es := by
  intro q hq
  exact h q (by rwa [cipherRequests_call])

/-- Reception of a block for the link layer, by the channel as it is before the block is checked. -/
theorem cipherStep_of_checkUplink {d d' : PhData} {h : (Input.up trx (.phDataInd d)).isDown = false}
    {k : Lchan} (move : t.move = .input (.up trx (.phDataInd d)) h)
    (located : t.before.locate? trx d.chanNr = some id) (active : l.isActive = true)
    (state : k.cipher = l.cipher) (number : k.cipherNs = l.cipherNs)
    (events : cipherRequests t.events =
      ((k.checkUplink d.chanNr d'.frame.l2).2.bind fun c => some (trx, c)).toList) :
    CipherStep id t l (k.checkUplink d.chanNr d'.frame.l2).1 := by
  unfold Lchan.checkUplink at events ⊢
  split
  · rename_i first
    rw [if_pos first] at events
    exact .enable move located active events (state ▸ first.1) rfl number
  · rename_i other
    rw [if_neg other] at events
    exact .keep state number (cipherRequestsFor_of_none events)

/-- A block for the main link goes out. -/
theorem cipherStep_of_checkDownlink {p : PhRts} {h : (Input.up trx (.phRtsInd p)).isDown = false}
    {f : Frame} (move : t.move = .input (.up trx (.phRtsInd p)) h)
    (located : t.before.locate? trx p.chanNr = some id) (link : isSacchLink p.linkId = false)
    (active : l.isActive = true) (dequeued : .call (.dequeue id .dcch) (some f) ∈ t.events)
    (events : cipherRequests t.events =
      ((l.checkDownlink p.chanNr f.octets).2.bind fun c => some (trx, c)).toList) :
    CipherStep id t l (l.checkDownlink p.chanNr f.octets).1 := by
  unfold Lchan.checkDownlink at events ⊢
  split
  · rename_i first
    rw [if_pos first] at events
    exact .command move located link active dequeued first.2 events first.1 rfl rfl
  · rename_i other
    rw [if_neg other] at events
    exact .keep rfl rfl (cipherRequestsFor_of_none events)

theorem Turn.Takes.cipherStep (h : t.Takes site id l l') : CipherStep id t l l' := by
  obtain ⟨hl, -, lawful, move⟩ := h
  obtain ⟨before, m, res, events, after⟩ := t
  dsimp only at move
  cases move with
  | keep _ quiet => exact .keep rfl rfl (cipherRequestsFor_of_quiet quiet)
  -- requests are about channels that exist, so events about no channel have none
  | filled _ _ quiet =>
    have none := cipherRequests_of_subjects quiet (requestsLocated_of_cons lawful.requestsLocated)
    exact .keep rfl rfl (cipherRequestsFor_of_none (cipherRequests_call.trans none))
  | echoed _ _ _ _ quiet => exact .keep rfl rfl (cipherRequestsFor_of_quiet quiet)
  | @voiced _ es _ _ quiet =>
    have same : cipherRequests (voiceEvents id l ++ es) = cipherRequests es := by
      simp [cipherRequests, Event.cipherRequest?]
    have none := cipherRequests_of_subjects quiet fun q hq =>
      lawful.requestsLocated q (same ▸ hq)
    exact .keep rfl rfl (cipherRequestsFor_of_none (same.trans none))
  | lost _ _ quiet =>
    obtain ⟨s, h⟩ := supervised_eq site l true
    exact .keep (by rw [h]) (by rw [h]) (cipherRequestsFor_of_quiet quiet)
  | shortened _ _ quiet =>
    obtain ⟨s, h⟩ := supervised_eq site { l with handover := .none } false
    exact .keep (by rw [h]) (by rw [h]) (cipherRequestsFor_of_quiet quiet)
  | voiceKept _ _ _ _ quiet => exact .keep rfl rfl (cipherRequestsFor_of_quiet quiet)
  | voiceTaken _ _ _ quiet => exact .keep rfl rfl (cipherRequestsFor_of_quiet quiet)
  | @accessed _ p _ _ _ _ quiet =>
    obtain ⟨m, h⟩ := delayStored_eq p l
    exact .keep (by rw [h]) (by rw [h]) (cipherRequestsFor_of_quiet quiet)
  | echoKept => exact .keep rfl rfl (cipherRequestsFor_of_none rfl)
  | measured => exact .keep rfl rfl (cipherRequestsFor_of_none rfl)
  | sacchDown => exact .keep rfl rfl (cipherRequestsFor_of_none rfl)
  -- the two checks, each with the request that it makes
  | @sent trx p o located active link f answer answer' =>
    exact cipherStep_of_checkDownlink rfl located link active (List.mem_cons_self ..)
      (by simp [cipherRequests, filterMap_event, Event.cipherRequest?])
  | received located active answer =>
    exact cipherStep_of_checkUplink rfl located active rfl rfl
      (by simp [cipherRequests, Event.cipherRequest?])
  | @sacchReceived _ _ k _ located active level answer header =>
    obtain ⟨s, h⟩ := supervised_eq site { l with handover := .none } false
    have state : k.cipher = l.cipher := by
      rw [header, h]
      rfl
    have number : k.cipherNs = l.cipherNs := by
      rw [header, h]
      rfl
    exact cipherStep_of_checkUplink rfl located active state number
      (by simp [cipherRequests, Event.cipherRequest?])
  | @handover _ p _ _ _ taken =>
    obtain ⟨m, h⟩ := delayStored_eq p l
    rw [h]
    cases taken <;> exact .keep rfl rfl (cipherRequestsFor_of_none rfl)
  | activated _ quiet =>
    have none := cipherRequests_of_subjects quiet (requestsLocated_of_cons lawful.requestsLocated)
    exact .keep rfl rfl (cipherRequestsFor_of_none (cipherRequests_call.trans none))
  -- the confirms of the radio
  | released located full quiet =>
    have none := cipherRequests_of_subjects quiet (requestsLocated_of_cons lawful.requestsLocated)
    exact .reset rfl located (List.mem_cons_self ..) (cipherRequests_call.trans none) rfl rfl
  | @cipherConfirmed trx c o located =>
    unfold Lchan.confirmCipher
    split
    · rename_i confirmed
      exact .confirm rfl located confirmed.2.1 confirmed.2.2 rfl confirmed.1 rfl rfl
    · exact .keep rfl rfl (cipherRequestsFor_of_none rfl)
  -- requests of RSL touch neither the state nor the number
  | refused =>
    exact .keep rfl rfl
      (cipherRequestsFor_of_none (by simp [cipherRequests, Event.cipherRequest?]))
  | requested _ _ type handle =>
    obtain ⟨d, h⟩ := allocated_eq site type handle (activating site type l)
    exact .keep (by rw [h]; rfl) (by rw [h]; rfl)
      (cipherRequestsFor_of_none (by simp [cipherRequests, Event.cipherRequest?]))
  | releaseAsked =>
    exact .keep rfl rfl
      (cipherRequestsFor_of_none (by simp [cipherRequests, Event.cipherRequest?]))
  | sacchStopped =>
    exact .keep rfl rfl
      (cipherRequestsFor_of_none (by simp [cipherRequests, Event.cipherRequest?]))
  | @queued f =>
    obtain ⟨q, h⟩ := voiceReceived_eq f l
    exact .keep (by rw [h]) (by rw [h]) (cipherRequestsFor_of_none rfl)
  | @written x => cases x <;> exact .keep rfl rfl (cipherRequestsFor_of_none rfl)

/-! ### Runs -/

/-- The radio is asked to decipher the uplink of a channel, and no more. -/
def Turn.AsksUplink (id : LchanId) (t : Turn) : Prop :=
  ∃ c ∈ t.cipherRequestsFor id, c.uplink = true ∧ c.downlink = false

/-- The radio confirms that it deciphers the uplink of a channel. -/
def Turn.ConfirmsUplink (id : LchanId) (t : Turn) : Prop :=
  ∃ trx c h, t.move = .input (.up trx (.mphInfoCnf (.cipherCnf c))) h ∧
    t.before.locate? trx c.chanNr = some id ∧ c.uplink = true ∧ c.cause = 0

/-- The ciphering requests for the downlink of a channel. -/
def downlinkRequests (id : LchanId) (ts : List Turn) : List CipherRequest :=
  (ts.flatMap (Turn.cipherRequestsFor id)).filter (·.downlink)

/-- The uplink of the channel was asked for since its last release. -/
def UplinkAsked (id : LchanId) (ts : List Turn) : Prop :=
  ∃ ts₁ u ts₂, ts = ts₁ ++ u :: ts₂ ∧ u.AsksUplink id ∧ ∀ s ∈ u :: ts₂, ¬ s.Releases id

/-- The uplink of the channel was asked for and then confirmed, both since its last release. -/
def UplinkConfirmed (id : LchanId) (ts : List Turn) : Prop :=
  ∃ ts₁ u ts₂ c ts₃, ts = ts₁ ++ u :: (ts₂ ++ c :: ts₃) ∧ u.AsksUplink id ∧
    c.ConfirmsUplink id ∧ ∀ s ∈ u :: (ts₂ ++ c :: ts₃), ¬ s.Releases id

/-- The confirm comes after the uplink was asked for. -/
theorem uplinkConfirmed_iff : UplinkConfirmed id ts ↔ ∃ pre c post, ts = pre ++ c :: post ∧
    UplinkAsked id pre ∧ c.ConfirmsUplink id ∧ ∀ s ∈ c :: post, ¬ s.Releases id := by
  constructor
  · rintro ⟨ts₁, u, ts₂, c, ts₃, rfl, asked, confirms, up⟩
    rw [← List.cons_append, List.forall_mem_append] at up
    exact ⟨ts₁ ++ u :: ts₂, c, ts₃, by simp, ⟨ts₁, u, ts₂, rfl, asked, up.1⟩, confirms, up.2⟩
  · rintro ⟨_, c, post, rfl, ⟨ts₁, u, ts₂, rfl, asked, earlier⟩, confirms, later⟩
    refine ⟨ts₁, u, ts₂, c, post, by simp, asked, confirms, ?_⟩
    rw [← List.cons_append, List.forall_mem_append]
    exact ⟨earlier, later⟩

theorem uplinkAsked_snoc : UplinkAsked id (ts ++ [t]) ↔
    ¬ t.Releases id ∧ (t.AsksUplink id ∨ UplinkAsked id ts) := by
  unfold UplinkAsked
  rw [exists_split_snoc]
  constructor
  · rintro (⟨asks, up⟩ | ⟨pre, u, post, split, asked, up⟩)
    · exact ⟨up t (List.mem_singleton_self t), .inl asks⟩
    · obtain ⟨earlier, last⟩ := List.forall_mem_append.mp (List.cons_append ▸ up)
      exact ⟨last t (List.mem_singleton_self t), .inr ⟨pre, u, post, split, asked, earlier⟩⟩
  · rintro ⟨up, asks | ⟨pre, u, post, split, asked, earlier⟩⟩
    · exact .inl ⟨asks, List.forall_mem_singleton.mpr up⟩
    · exact .inr ⟨pre, u, post, split, asked,
        List.forall_mem_append.mpr ⟨earlier, List.forall_mem_singleton.mpr up⟩⟩

theorem uplinkConfirmed_snoc : UplinkConfirmed id (ts ++ [t]) ↔
    ¬ t.Releases id ∧ (UplinkAsked id ts ∧ t.ConfirmsUplink id ∨ UplinkConfirmed id ts) := by
  rw [uplinkConfirmed_iff, uplinkConfirmed_iff, exists_split_snoc]
  constructor
  · rintro (⟨asked, confirms, up⟩ | ⟨pre, c, post, split, asked, confirms, up⟩)
    · exact ⟨up t (List.mem_singleton_self t), .inl ⟨asked, confirms⟩⟩
    · obtain ⟨earlier, last⟩ := List.forall_mem_append.mp (List.cons_append ▸ up)
      exact ⟨last t (List.mem_singleton_self t),
        .inr ⟨pre, c, post, split, asked, confirms, earlier⟩⟩
  · rintro ⟨up, ⟨asked, confirms⟩ | ⟨pre, c, post, split, asked, confirms, earlier⟩⟩
    · exact .inl ⟨asked, confirms, List.forall_mem_singleton.mpr up⟩
    · exact .inr ⟨pre, c, post, split, asked, confirms,
        List.forall_mem_append.mpr ⟨earlier, List.forall_mem_singleton.mpr up⟩⟩

theorem Turn.Takes.cipher_of_releases (h : t.Takes site id l l') (released : t.Releases id) :
    l'.cipher = .none := by
  rcases h.completes with silent | completed
  · exact absurd released silent
  · rw [completed.record]
    rfl

theorem Turn.not_asksUplink (unasked : t.cipherRequestsFor id = []) : ¬ t.AsksUplink id := by
  rintro ⟨c, hc, -⟩
  rw [unasked] at hc
  cases hc

theorem CipherCnfOutcome.taken {c : CipherConfirm} (h : CipherCnfOutcome trx c b r b' es)
    (located : b.locate? trx c.chanNr = some id) (hl : b.lchan? id = some l) :
    b'.lchan? id = some (l.confirmCipher c).1 := by
  cases h with
  | unknownTrx unknown => exact absurd located (Bts.not_located_of_carrier unknown)
  | unknownLchan _ unknown => exact absurd located (Bts.not_located_of_find? unknown)
  | @confirmed _ j k _ found =>
    obtain rfl : j = id := Option.some.inj ((located_of_find? found).symm.trans located)
    obtain rfl : k = l := Option.some.inj ((Bts.find?_eq_some.mp found).2.symm.trans hl)
    exact Bts.lchan?_setLchan_self hl

/-- The confirm of the radio is taken by a channel whose uplink was asked for. -/
theorem Turn.Takes.cipher_of_confirmsUplink (h : t.Takes site id l l')
    (confirms : t.ConfirmsUplink id) (asked : l.cipher = .rxRequested) :
    l'.cipher = .rxConfirmed := by
  obtain ⟨hl, after, lawful, -⟩ := h
  obtain ⟨before, m, res, events, last⟩ := t
  obtain ⟨trx, c, outside, rfl, located, uplink, good⟩ := confirms
  have taken := (StepOutcome.cipherCnfOutcome lawful).taken located hl
  rw [← Option.some.inj (taken.symm.trans after), Lchan.confirmCipher,
    if_pos ⟨asked, uplink, good⟩]

/-- A turn leaves the ciphering of a channel begun if it has the uplink asked for, or finds it
begun. -/
theorem Turn.Takes.begun_iff (h : t.Takes site id l l') : l'.cipher ≠ .none ↔
    ¬ t.Releases id ∧ (t.AsksUplink id ∨ l.cipher ≠ .none) := by
  by_cases released : t.Releases id
  · simp [released, h.cipher_of_releases released]
  cases h.cipherStep with
  | keep state _ unasked => simp [released, Turn.not_asksUplink unasked, state]
  | @command _ p _ _ _ located _ _ _ _ asked _ after =>
    have asks : t.AsksUplink id := by
      refine ⟨⟨p.chanNr, false, true⟩, ?_, rfl, rfl⟩
      rw [cipherRequestsFor_of_one asked located]
      exact List.mem_singleton_self _
    simp [released, asks, after]
  | confirm _ _ _ _ _ before after | enable _ _ _ _ before after =>
    simp [released, before, after]
  | reset _ _ told => exact absurd (t.releases_of_told told) released

/-- A turn leaves the uplink of a channel confirmed if the radio confirms it once ciphering is
begun, or the turn finds it confirmed. -/
theorem Turn.Takes.confirmed_iff (h : t.Takes site id l l') :
    (l'.cipher = .rxConfirmed ∨ l'.cipher = .txEnabled) ↔ ¬ t.Releases id ∧
      (l.cipher ≠ .none ∧ t.ConfirmsUplink id ∨ l.cipher = .rxConfirmed ∨ l.cipher = .txEnabled) := by
  by_cases released : t.Releases id
  · simp [released, h.cipher_of_releases released]
  have taken := h.cipher_of_confirmsUplink
  cases h.cipherStep with
  | keep state =>
    rw [state] at taken ⊢
    cases found : l.cipher <;> simp_all
  | command _ _ _ _ _ _ _ before after =>
    -- a confirm in this turn would have been taken
    have unconfirmed : l.cipher = .rxRequested → ¬ t.ConfirmsUplink id := by
      intro asked confirms
      rw [taken confirms asked] at after
      cases after
    rcases before with before | before <;> simp_all
  | confirm move located uplink good _ before after =>
    have confirms : t.ConfirmsUplink id := ⟨_, _, _, move, located, uplink, good⟩
    simp [released, before, after, confirms]
  | enable _ _ _ _ before after => simp [released, before, after]
  | reset _ _ told => exact absurd (t.releases_of_told told) released

/-- What the ciphering state of a channel tells of the turns so far. -/
structure CipherKnown (id : LchanId) (ts : List Turn) (l : Lchan) : Prop where
  asked : UplinkAsked id ts ↔ l.cipher ≠ .none
  confirmed : UplinkConfirmed id ts ↔ l.cipher = .rxConfirmed ∨ l.cipher = .txEnabled

theorem CipherKnown.snoc (h : CipherKnown id ts l) (takes : t.Takes site id l l') :
    CipherKnown id (ts ++ [t]) l' where
  asked := by rw [uplinkAsked_snoc, h.asked, takes.begun_iff]
  confirmed := by rw [uplinkConfirmed_snoc, h.asked, h.confirmed, takes.confirmed_iff]

theorem CipherKnown.append (h : CipherKnown id ts l) (track : Track site id l us l') :
    CipherKnown id (ts ++ us) l' :=
  track.history_induction h CipherKnown.snoc

theorem cipherKnown_nil (none : l.cipher = .none) : CipherKnown id [] l :=
  ⟨by simp [UplinkAsked, none], by simp [UplinkConfirmed, none]⟩

theorem downlinkRequests_cons :
    downlinkRequests id (t :: ts) = downlinkRequests id [t] ++ downlinkRequests id ts := by
  simp [downlinkRequests]

theorem downlinkRequests_of_none (h : t.cipherRequestsFor id = []) :
    downlinkRequests id [t] = [] := by
  simp [downlinkRequests, h]

/-- While the channel is not released, one request for the downlink can come, and none once the
downlink is ciphered. -/
theorem downlinkRequests_le (h : Track site id l ts l') (up : ∀ t ∈ ts, ¬ t.Releases id) :
    (downlinkRequests id ts).length ≤ if l.cipher = .txEnabled then 0 else 1 := by
  induction h with
  | nil => exact Nat.zero_le _
  | @cons l k _ t ts first _ ih =>
    have ih := ih fun s hs => up s (List.mem_cons_of_mem _ hs)
    have up := up t List.mem_cons_self
    rw [downlinkRequests_cons, List.length_append]
    cases first.cipherStep with
    | keep state _ unasked =>
      rw [downlinkRequests_of_none unasked, ← state]
      simpa using ih
    | @command trx p _ _ _ located _ _ _ _ asked before after =>
      have none : downlinkRequests id [t] = [] := by
        simp [downlinkRequests, cipherRequestsFor_of_one asked located]
      rw [none, if_neg (by rcases before with h | h <;> simp [h])]
      simpa [after] using ih
    | confirm _ _ _ _ unasked before after =>
      rw [downlinkRequests_of_none (cipherRequestsFor_of_none unasked), if_neg (by simp [before])]
      simpa [after] using ih
    -- the one request: behind it the state is the last, and only a release goes back
    | enable _ located _ asked before after =>
      have one : (downlinkRequests id [t]).length = 1 := by
        simp [downlinkRequests, cipherRequestsFor_of_one asked located]
      rw [one, if_neg (by simp [before])]
      have : (downlinkRequests id ts).length = 0 := by simpa [after] using ih
      omega
    | reset _ _ told => exact absurd (t.releases_of_told told) up

/-- A turn with a request for the downlink of a channel finds its uplink confirmed. -/
theorem Turn.Takes.confirmed_of_downlink (h : t.Takes site id l l')
    (asked : downlinkRequests id [t] ≠ []) : l.cipher = .rxConfirmed := by
  cases h.cipherStep with
  | keep _ _ unasked => exact absurd (downlinkRequests_of_none unasked) asked
  | command _ located _ _ _ _ one =>
    exact absurd (by simp [downlinkRequests, cipherRequestsFor_of_one one located]) asked
  | confirm _ _ _ _ unasked =>
    exact absurd (downlinkRequests_of_none (cipherRequestsFor_of_none unasked)) asked
  | enable _ _ _ _ before => exact before
  | reset _ _ _ unasked =>
    exact absurd (downlinkRequests_of_none (cipherRequestsFor_of_none unasked)) asked

/-- The stored number has the three bits of a receive number. -/
theorem Turn.Takes.number_lt (h : t.Takes site id l l') (number : l.cipherNs < 8) :
    l'.cipherNs < 8 := by
  cases h.cipherStep with
  | keep _ same => rwa [same]
  | @command _ _ _ f _ _ _ _ _ _ _ _ _ new =>
    rw [new]
    exact UInt8.mod_lt _ (by decide)
  | confirm _ _ _ _ _ _ _ same => rwa [same]
  | enable _ _ _ _ _ _ same => rwa [same]
  | reset _ _ _ _ _ new => rw [new]; decide

theorem Track.number_lt (h : Track site id l ts l') (number : l.cipherNs < 8) :
    ∀ t ∈ ts, ∀ k, t.after.lchan? id = some k → k.cipherNs < 8 := by
  induction h with
  | nil => intro t ht; cases ht
  | cons first _ ih =>
    have number' := first.number_lt number
    intro t ht k hk
    rcases List.mem_cons.mp ht with rfl | ht
    · rw [first.after, Option.some.injEq] at hk
      rwa [← hk]
    · exact ih number' t ht k hk

theorem takes_of_mem_history {ms : List Move} (ht : t ∈ history site w ms)
    (hl : t.before.lchan? id = some l) : ∃ l', t.Takes site id l l' :=
  takes_of_lawful (lawful_of_mem_history ht) hl

/-- In every run ciphering of a channel goes from state to state as a ciphering step says, and no
request is made in another way. Between two releases the downlink is asked for once at most, and
never before the uplink was asked for and confirmed. The stored number stays within three bits. -/
theorem ciphering_never_skips (site : Site σ φ) (c : Config) (filter : Capture.Filter)
    (services : σ) (phy : φ) (ms : List Move) {id : LchanId} {l₀ : Lchan}
    (known : (Bts.ofConfig c).lchan? id = some l₀) :
    (∀ t ∈ history site (.fresh c filter services phy) ms, ∀ l, t.before.lchan? id = some l →
      ∃ l', t.after.lchan? id = some l' ∧ CipherStep id t l l') ∧
    (∀ t ∈ history site (.fresh c filter services phy) ms, ∀ q ∈ cipherRequests t.events,
      ∃ j, t.before.locate? q.1 q.2.chanNr = some j) ∧
    (∀ pre mid post, history site (.fresh c filter services phy) ms = pre ++ mid ++ post →
      (∀ t ∈ mid, ¬ t.Releases id) → (downlinkRequests id mid).length ≤ 1) ∧
    (∀ pre t post, history site (.fresh c filter services phy) ms = pre ++ t :: post →
      downlinkRequests id [t] ≠ [] → UplinkConfirmed id pre) ∧
    ∀ t ∈ history site (.fresh c filter services phy) ms, ∀ l, t.after.lchan? id = some l →
      l.cipherNs < 8 := by
  obtain ⟨l', -, track⟩ := track_history site (w := .fresh c filter services phy) ms known
  obtain ⟨type, fresh⟩ := Bts.lchan?_ofConfig known
  have none : l₀.cipher = .none := by rw [fresh]; rfl
  have zero : l₀.cipherNs = 0 := by rw [fresh]; rfl
  refine ⟨?_, ?_, ?_, ?_, track.number_lt (by rw [zero]; decide)⟩
  · intro t ht l hl
    obtain ⟨l', takes⟩ := takes_of_mem_history ht hl
    exact ⟨l', takes.after, takes.cipherStep⟩
  · intro t ht
    exact (lawful_of_mem_history ht).requestsLocated
  · intro pre mid post split up
    rw [split] at track
    obtain ⟨k, track, -⟩ := Track.append_iff.mp track
    obtain ⟨k', -, track⟩ := Track.append_iff.mp track
    have := downlinkRequests_le track up
    split at this <;> omega
  · intro pre t post split asked
    rw [split] at track
    obtain ⟨k, before, track⟩ := Track.append_iff.mp track
    obtain ⟨k', takes, -⟩ := Track.cons_iff.mp track
    have known := (cipherKnown_nil none).append before
    rw [List.nil_append] at known
    exact known.confirmed.mpr (.inl (takes.confirmed_of_downlink asked))

/-- A connection on a traffic channel up to the confirm of the uplink. -/
def commandedMoves : List Move := [
  .chanAct 0 0x09 none,
  .up 0 (.mphInfoCnf (.activateCnf ⟨0x09, 0⟩)),
  .up 0 (.phRtsInd ⟨0x09, 0, 0⟩),
  .up 0 (.mphInfoCnf (.cipherCnf ⟨0x09, false, true, 0⟩))]

/-- The first frame of the mobile station that acknowledges the command. -/
def acknowledgingMove : Move :=
  .up 0 (.phDataInd ⟨0x09, 0, 4, -60, 0, 0, 100, .both, .ofL2 [0x01, 0x20, 0x01]⟩)

/-- Parties with a CIPHERING MODE COMMAND for a traffic channel. -/
def commandingParties : ScriptedServices :=
  ScriptedServices.fresh.enqueue ⟨0, 1, 0⟩ .dcch (.ofL2 [0x03, 0x20, 0x0d, 0x06, 0x35, 0x11])

/-- The bootstrap of ciphering on a traffic channel, to its end. -/
theorem ciphering_bootstrapped : UplinkConfirmed ⟨0, 1, 0⟩
    (history scriptedSite (scriptedWorld commandingParties) commandedMoves) := by
  have known : (Bts.ofConfig scriptedConfig).lchan? ⟨0, 1, 0⟩ = some (.fresh ⟨0, 1, 0⟩ .tchF) := by
    decide +kernel
  have asked : downlinkRequests ⟨0, 1, 0⟩ [turnOf scriptedSite (run scriptedSite
      (scriptedWorld commandingParties) commandedMoves) acknowledgingMove] =
        [⟨0x09, true, false⟩] := by
    decide +kernel
  refine (ciphering_never_skips scriptedSite scriptedConfig .empty commandingParties .accepting
    (commandedMoves ++ [acknowledgingMove]) known).2.2.2.1 _ _ [] (history_append ..) ?_
  exact fun none => absurd (asked.symm.trans none) (by decide)

end BaseStation.Bridge
