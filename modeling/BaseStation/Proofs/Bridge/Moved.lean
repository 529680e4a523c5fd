import BaseStation.Proofs.Bridge.Channel

/-!
Every lawful turn moves a channel in one of the ways that there are: outcome by outcome, for the
channel that it is about and for all others.
-/

namespace BaseStation.Bridge

variable {σ φ : Type} {site : Site σ φ} {b b' : Bts} {trx n : UInt8} {id j : LchanId}
  {l k : Lchan} {r : Except Failure Unit} {es : List Event}

attribute [local simp] Event.subject?

/-- A move that leaves the record of a channel as it is. -/
theorem Moved.same {m : Move} (hl : b'.lchan? id = some l) (unreached : ¬ m.Reaches site b id l)
    (quiet : id ∉ subjects b es) : Moved site b b' id l m es := ⟨l, hl, .keep unreached quiet⟩

/-- A move that leaves the record of a channel as it is and has no events. -/
theorem Moved.silent {m : Move} (hl : b'.lchan? id = some l)
    (unreached : ¬ m.Reaches site b id l) : Moved site b b' id l m [] :=
  .same hl unreached (List.not_mem_nil)

/-! ### Opportunities and receptions -/

/-- The channel that a channel number finds is the one at hand, or another one. -/
theorem found_here_or_not (hl : b.lchan? id = some l) (found : b.find? trx n = some (j, k)) :
    (j = id ∧ k = l ∧ b.locate? trx n = some id ∧ ∀ x, (b.setLchan j x).lchan? id = some x) ∨
    (b.locate? trx n = some j ∧ j ≠ id ∧ ∀ x, (b.setLchan j x).lchan? id = some l) := by
  obtain ⟨located, hk⟩ := Bts.find?_eq_some.mp found
  by_cases h : j = id
  · subst h
    rw [hk] at hl
    cases hl
    exact .inl ⟨rfl, rfl, located, fun x => Bts.lchan?_setLchan_self hk⟩
  · refine .inr ⟨located, h, fun x => ?_⟩
    rw [Bts.lchan?_setLchan, if_neg h, hl]

theorem active_here_or_not (hl : b.lchan? id = some l)
    (found : b.findActive? trx n = some (j, k)) :
    (j = id ∧ k = l ∧ b.locate? trx n = some id ∧ l.isActive = true ∧
      ∀ x, (b.setLchan j x).lchan? id = some x) ∨
    (b.locate? trx n = some j ∧ j ≠ id ∧ ∀ x, (b.setLchan j x).lchan? id = some l) := by
  obtain ⟨found, active⟩ := Bts.findActive?_eq_some.mp found
  rcases found_here_or_not hl found with ⟨rfl, rfl, located, h⟩ | h
  · exact .inl ⟨rfl, rfl, located, active, h⟩
  · exact .inr h

theorem findActive?_of_located (hl : b.lchan? id = some l) (located : b.locate? trx n = some id)
    (active : l.isActive = true) : b.findActive? trx n = some (id, l) :=
  Bts.findActive?_eq_some.mpr ⟨Bts.find?_eq_some.mpr ⟨located, hl⟩, active⟩

/-- What a change of an active channel keeps, every channel keeps. -/
theorem kept_of_setLchan {α : Type} {l' x : Lchan} (part : Lchan → α) (hl : b.lchan? id = some l)
    (found : b.findActive? trx n = some (j, k)) (after : (b.setLchan j x).lchan? id = some l')
    (same : part x = part k) : part l' = part l := by
  rcases active_here_or_not hl found with ⟨rfl, rfl, -, -, h⟩ | ⟨-, -, h⟩
  · cases (h x).symm.trans after
    exact same
  · cases (h x).symm.trans after
    rfl

theorem checkDownlink_eq (l : Lchan) (n : UInt8) (xs : List UInt8) :
    ∃ c ns, (l.checkDownlink n xs).1 = { l with cipher := c, cipherNs := ns } := by
  unfold Lchan.checkDownlink
  split
  · exact ⟨_, _, rfl⟩
  · exact ⟨l.cipher, l.cipherNs, rfl⟩

theorem checkUplink_eq (l : Lchan) (n : UInt8) (xs : List UInt8) :
    ∃ c, (l.checkUplink n xs).1 = { l with cipher := c } := by
  unfold Lchan.checkUplink
  split
  · exact ⟨_, rfl⟩
  · exact ⟨l.cipher, rfl⟩

theorem confirmCipher_eq (l : Lchan) (c : CipherConfirm) :
    ∃ k, (l.confirmCipher c).1 = { l with cipher := k } := by
  unfold Lchan.confirmCipher
  split
  · exact ⟨_, rfl⟩
  · exact ⟨l.cipher, rfl⟩

theorem checkDownlink_request {xs : List UInt8} {c : CipherRequest}
    (h : (l.checkDownlink n xs).2 = some c) : c = ⟨n, false, true⟩ := by
  unfold Lchan.checkDownlink at h
  split at h
  · exact (Option.some.inj h).symm
  · cases h

theorem checkUplink_request {xs : List UInt8} {c : CipherRequest}
    (h : (l.checkUplink n xs).2 = some c) : c = ⟨n, true, false⟩ := by
  unfold Lchan.checkUplink at h
  split at h
  · exact (Option.some.inj h).symm
  · cases h

/-- A ciphering request that a block gives rise to is about the channel of the block. -/
theorem subject_of_checkDownlink (l : Lchan) (xs : List UInt8) (located : b.locate? trx n = some j)
    (h : j ≠ id) :
    id ∉ ((l.checkDownlink n xs).2.bind fun c => b.locate? trx c.chanNr).toList := by
  cases hq : (l.checkDownlink n xs).2 with
  | none => simp
  | some c =>
    rw [checkDownlink_request hq]
    simp [located, Ne.symm h]

theorem subject_of_checkUplink (l : Lchan) (xs : List UInt8) (located : b.locate? trx n = some j)
    (h : j ≠ id) :
    id ∉ ((l.checkUplink n xs).2.bind fun c => b.locate? trx c.chanNr).toList := by
  cases hq : (l.checkUplink n xs).2 with
  | none => simp
  | some c =>
    rw [checkUplink_request hq]
    simp [located, Ne.symm h]

/-- A block on a circuit timeslot is not kept for a loopback. -/
theorem unreached_of_circuit {d : PhData} {o : (Input.up trx (.phDataInd d)).isDown = false}
    {c : Carrier} (carrier : b.carrier? trx = some c)
    (circuit : (c.slotOf d.chanNr).isPdch = false) :
    ¬ Move.Reaches site b id l (.input (.up trx (.phDataInd d)) o) := by
  rintro ⟨⟨c', carrier', packet⟩, -⟩
  rw [carrier, Option.some.injEq] at carrier'
  rw [← carrier', circuit] at packet
  cases packet

/-- Without a channel in loopback nothing is kept for it. -/
theorem unreached_of_free {d : PhData} {o : (Input.up trx (.phDataInd d)).isDown = false}
    (hl : b.lchan? id = some l)
    (free : ∀ id l, b.find? trx d.chanNr = some (id, l) → l.loopback = false) :
    ¬ Move.Reaches site b id l (.input (.up trx (.phDataInd d)) o) := by
  rintro ⟨-, located, loop⟩
  rw [free id l (Bts.find?_eq_some.mpr ⟨located, hl⟩)] at loop
  cases loop

section Moved

variable (hl : b.lchan? id = some l)
include hl

theorem CircuitBlock.moved {p : PhRts} {o : (Input.up trx (.phRtsInd p)).isDown = false}
    {kind : ChanKind} {f : Frame} {q : Option CipherRequest}
    (block : CircuitBlock site trx p b kind f q b' es) (answer answer' : Except PhyError Unit) :
    Moved site b b' id l (.input (.up trx (.phRtsInd p)) o)
      (es ++ (requestEvents trx q answer ++
        downEvents trx (.phDataReq (.request p.chanNr p.linkId p.fn f)) answer')) := by
  cases block with
  | broadcast => exact .same hl (fun h => h) (by simp [subjects, filterMap_event])
  | paging => exact .same hl (fun h => h) (by simp [subjects, filterMap_event])
  | silent => exact .same hl (fun h => h) (by simp [subjects])
  | inactive => exact .same hl (fun h => h) (by simp [subjects])
  | sacch => exact .same hl (fun h => h) (by simp [subjects, filterMap_event])
  | idle => exact .same hl (fun h => h) (by simp [subjects, filterMap_event])
  | filling _ found link =>
    have quiet : ∀ f, subjects b (requestEvents trx none answer ++
        downEvents trx (.phDataReq (.request p.chanNr p.linkId p.fn f)) answer') = [] := by
      simp [subjects]
    rcases active_here_or_not hl found with ⟨rfl, rfl, -, active, h⟩ | ⟨-, other, h⟩
    · exact ⟨_, h _, .filled trivial active (quiet _)⟩
    · refine .same (h _) (fun h => h) ?_
      rw [List.singleton_append, subjects_cons, quiet]
      simp [Ne.symm other]
  | @main _ j k _ found link f =>
    rcases active_here_or_not hl found with ⟨rfl, rfl, located, active, h⟩ | ⟨located, other, h⟩
    · exact ⟨_, h _, .sent located active link f answer answer'⟩
    · refine .same (h _) (fun h => h) ?_
      have := subject_of_checkDownlink k f.octets located other
      simpa [subjects, filterMap_event] using this

theorem RtsOutcome.moved {p : PhRts} {o : (Input.up trx (.phRtsInd p)).isDown = false}
    (h : RtsOutcome site trx p b r b' es) :
    Moved site b b' id l (.input (.up trx (.phRtsInd p)) o) es := by
  cases h with
  | undecodable bad => exact .silent hl (fun h => h)
  | unknownTrx addr unknown => exact .silent hl (fun h => h)
  | packet => exact .same hl (fun h => h) (by simp [subjects, filterMap_event])
  | looped _ _ _ found loop answer =>
    have quiet : ∀ f, id ∉ subjects b
        (downEvents trx (.phDataReq (.request p.chanNr p.linkId p.fn f)) answer) := by
      simp [subjects]
    rcases active_here_or_not hl found with ⟨rfl, rfl, -, active, h⟩ | ⟨-, -, h⟩
    · exact ⟨_, h _, .echoed p.fn trivial active loop (quiet _)⟩
    · exact .same (h _) (fun h => h) (quiet _)
  | circuit _ _ _ block answer answer' => exact block.moved hl answer answer'

theorem TchRtsOutcome.moved {p : TchRts} {o : (Input.up trx (.tchRtsInd p)).isDown = false}
    (h : TchRtsOutcome trx p b r b' es) :
    Moved site b b' id l (.input (.up trx (.tchRtsInd p)) o) es := by
  have voice : ∀ (f : Option VoiceFrame) (a : Except PhyError Unit),
      Event.subject? b (.down trx (voiceRequest p f) a) = none := by
    intro f a
    obtain ⟨t, ht, -⟩ := voiceRequest_eq p f
    rw [ht]
    rfl
  cases h with
  | unknownTrx => exact .silent hl (fun h => h)
  | inactive => exact .same hl (fun h => h) (by simp [-Event.subject?, subjects, voice])
  | @active _ j k _ found answer =>
    rcases active_here_or_not hl found with ⟨rfl, rfl, -, active, h⟩ | ⟨-, other, h⟩
    · exact ⟨_, h _, .voiced trivial active (by simp [-Event.subject?, subjects, voice])⟩
    · have indicated : id ∉ (k.pendingRelInd.bind fun m =>
          Event.subject? b (.call (.releaseIndication j m) ())).toList := by
        cases k.pendingRelInd <;> simp [Ne.symm other]
      exact .same (h _) (fun h => h) (by simpa [-Event.subject?, subjects, voice] using indicated)

theorem DataOutcome.moved {d : PhData} {o : (Input.up trx (.phDataInd d)).isDown = false}
    (h : DataOutcome site trx d b r b' es) :
    Moved site b b' id l (.input (.up trx (.phDataInd d)) o) es := by
  cases h with
  | unknownTrx unknown =>
    refine .silent hl ?_
    rintro ⟨⟨c, carrier, -⟩, -⟩
    rw [unknown] at carrier
    cases carrier
  | looped carrier packet found loop =>
    rcases found_here_or_not hl found with ⟨rfl, rfl, located, h⟩ | ⟨located, other, h⟩
    · exact ⟨_, h _, .echoKept ⟨_, carrier, packet⟩ located loop⟩
    · exact .silent (h _) (fun reached => Bts.not_located_of_other located other reached.2.1)
  | packetBad _ _ free => exact .silent hl (unreached_of_free hl free)
  | packetPartial _ _ free => exact .silent hl (unreached_of_free hl free)
  | packetData _ _ free =>
    exact .same hl (unreached_of_free hl free) (by simp [subjects, filterMap_event])
  | inactive carrier circuit =>
    exact .silent hl (unreached_of_circuit carrier circuit)
  | badMain carrier circuit =>
    exact .silent hl (unreached_of_circuit carrier circuit)
  -- the channel of the block moves, and another keeps its record
  | badSacch carrier circuit found =>
    rcases active_here_or_not hl found with ⟨rfl, rfl, -, active, h⟩ | ⟨-, -, h⟩
    · exact ⟨_, h _, .lost trivial active (by simp [subjects])⟩
    · exact .same (h _) (unreached_of_circuit carrier circuit) (by simp [subjects])
  | @main c j k carrier circuit found link good answer =>
    rcases active_here_or_not hl found with ⟨rfl, rfl, located, active, h⟩ | ⟨located, other, h⟩
    · exact ⟨_, h _, .received located active answer⟩
    · refine .same (h _) (unreached_of_circuit carrier circuit) ?_
      have := subject_of_checkUplink { k with handover := .none } d.frame.l2 located other
      simpa [subjects] using this
  | shortSacch carrier circuit found =>
    rcases active_here_or_not hl found with ⟨rfl, rfl, -, active, h⟩ | ⟨-, -, h⟩
    · exact ⟨_, h _, .shortened trivial active (by simp [subjects])⟩
    · exact .same (h _) (unreached_of_circuit carrier circuit) (by simp [subjects])
  | @sacch c j k k' carrier circuit found link good long level answer header =>
    rcases active_here_or_not hl found with ⟨rfl, rfl, located, active, h⟩ | ⟨located, other, h⟩
    · exact ⟨_, h _, .sacchReceived located active level answer header⟩
    · refine .same (h _) (unreached_of_circuit carrier circuit) ?_
      have request := subject_of_checkUplink k' (sacchMarked d).frame.l2 located other
      cases hp : ((supervised site { k with handover := .none } false).meas.storeL1Header
          (sacchMarked d).frame.l1).2 with
      | none => simpa [subjects, hp] using request
      | some p => simpa [subjects, hp, Ne.symm other] using request

theorem TchOutcome.moved {t : TchData} {o : (Input.up trx (.tchInd t)).isDown = false}
    (h : TchOutcome site trx t b r b' es) :
    Moved site b b' id l (.input (.up trx (.tchInd t)) o) es := by
  cases h with
  | unknownTrx => exact .silent hl (fun h => h)
  | inactive => exact .silent hl (fun h => h)
  | looped _ found loop =>
    rcases active_here_or_not hl found with ⟨rfl, rfl, -, active, h⟩ | ⟨-, -, h⟩
    · exact ⟨_, h _, .voiceKept _ trivial active loop (by simp [subjects])⟩
    · exact .same (h _) (fun h => h) (by simp [subjects])
  | taken _ found straight =>
    rcases active_here_or_not hl found with ⟨rfl, rfl, located, active, h⟩ | ⟨-, -, h⟩
    · exact ⟨_, h _, .voiceTaken _ trivial active (by simp [subjects]) (if_pos located)⟩
    · exact .same (h _) (fun h => h) (by simp [subjects])

theorem MeasuredOutcome.moved {m : Measured}
    {o : (Input.up trx (.mphInfoInd (.measured m))).isDown = false}
    (h : MeasuredOutcome trx m b r b' es) :
    Moved site b b' id l (.input (.up trx (.mphInfoInd (.measured m))) o) es := by
  cases h with
  | unknownTrx => exact .silent hl (fun h => h)
  | inactive => exact .silent hl (fun h => h)
  | packet => exact .silent hl (fun h => h)
  | measured _ found _ answer =>
    rcases active_here_or_not hl found with ⟨rfl, rfl, -, active, h⟩ | ⟨-, other, h⟩
    · exact ⟨_, h _, .measured (by exact trivial) active answer⟩
    · exact .same (h _) (fun h => h)
        (by simp [subjects, Ne.symm other])

theorem TimeOutcome.moved {fn : UInt32} {o : (Input.up trx (.mphInfoInd (.time fn))).isDown = false}
    (h : TimeOutcome site trx fn b r b' es) :
    Moved site b b' id l (.input (.up trx (.mphInfoInd (.time fn))) o) es := by
  cases h with
  | secondary => exact .silent hl (fun h => h)
  | primary => exact .same hl (fun h => h) (by simp [subjects, filterMap_event])

omit hl in
theorem lchan?_busyCounted {p : PhRach} : (busyCounted p b).lchan? id = b.lchan? id := by
  unfold busyCounted
  split <;> rfl

/-- Where an access burst is not late, its delay is stored with its channel. -/
theorem lchan?_delayKept {p : PhRach} :
    (delayKept trx p (busyCounted p b)).lchan? id =
      some (if b.locate? trx p.chanNr = some id then delayStored p l else l) := by
  unfold delayKept
  rw [find?_busyCounted]
  have hl : (busyCounted p b).lchan? id = some l := by rw [lchan?_busyCounted, hl]
  cases found : b.find? trx p.chanNr with
  | none => rw [if_neg (by simp [Bts.find?_eq_none.mp found]), hl]
  | some q =>
    obtain ⟨j, k⟩ := q
    have located := (Bts.find?_eq_some.mp found).1
    rw [← find?_busyCounted (p := p)] at found
    rcases found_here_or_not hl found with ⟨rfl, rfl, -, h⟩ | ⟨-, other, h⟩
    · rw [if_pos located, h]
    · rw [if_neg fun here => other (Option.some.inj (located.symm.trans here)), h]

theorem RachOutcome.moved {p : PhRach} {o : (Input.up trx (.phRachInd p)).isDown = false}
    (h : RachOutcome site trx p b r b' es) :
    Moved site b b' id l (.input (.up trx (.phRachInd p)) o) es := by
  have busy : (busyCounted p b).lchan? id = some l := by rw [lchan?_busyCounted, hl]
  -- a burst that is given to the parties stores its delay with the channel that it names
  have kept : ∀ es, p.route trx site.settings.maxTa ≠ .discard → id ∉ subjects b es →
      Moved site b (accessCounted (delayKept trx p (busyCounted p b))) id l
        (.input (.up trx (.phRachInd p)) o) es := by
    intro es route quiet
    refine ⟨_, lchan?_delayKept hl, ?_⟩
    split
    · rename_i located
      exact .accessed route located quiet
    · rename_i elsewhere
      exact .keep (fun reached => elsewhere reached.2) quiet
  cases h with
  | late route => exact .silent busy (fun reached => reached.1 route)
  | unknownTrx route unknown =>
    exact .silent busy (fun reached => Bts.not_located_of_carrier unknown reached.2)
  | unknownLchan route carrier unknown =>
    exact .silent busy (fun reached => Bts.not_located_of_find? unknown reached.2)
  | handover route carrier found taken =>
    have found' : (busyCounted p b).find? trx p.chanNr = _ := find?_busyCounted.trans found
    have located := (Bts.find?_eq_some.mp found).1
    rcases found_here_or_not busy found' with ⟨rfl, rfl, -, h⟩ | ⟨-, other, h⟩
    · exact ⟨_, h _, .handover route located taken⟩
    · exact .same (h _) (fun reached => Bts.not_located_of_other located other reached.2)
        (by simp [subjects, Ne.symm other])
  | packet route =>
    exact kept _ (by simp [route]) (by simp [subjects, filterMap_event])
  | request route =>
    exact kept _ (by simp [route]) (by simp [subjects, filterMap_event])

/-! ### Channel control -/

omit hl in
theorem lchans_afterActivation {t : Timeslot} {type : LchanType} {ok : Bool} :
    (afterActivation t type ok).1.lchans = t.lchans := by
  unfold afterActivation
  split
  · dsimp only
    split <;> rfl
  · dsimp only
    split <;> rfl

omit hl in
theorem lchans_afterRelease {t : Timeslot} : (afterRelease t).1.lchans = t.lchans := by
  unfold afterRelease
  split
  · dsimp only
    split <;> rfl
  · dsimp only
    split <;> rfl

theorem CipherCnfOutcome.moved {c : CipherConfirm}
    {o : (Input.up trx (.mphInfoCnf (.cipherCnf c))).isDown = false}
    (h : CipherCnfOutcome trx c b r b' es) :
    Moved site b b' id l (.input (.up trx (.mphInfoCnf (.cipherCnf c))) o) es := by
  cases h with
  | unknownTrx unknown =>
    exact .silent hl (Bts.not_located_of_carrier unknown)
  | unknownLchan _ unknown =>
    exact .silent hl (Bts.not_located_of_find? unknown)
  | confirmed _ found =>
    rcases found_here_or_not hl found with ⟨rfl, rfl, located, h⟩ | ⟨located, other, h⟩
    · exact ⟨_, h _, .cipherConfirmed located⟩
    · exact .silent (h _) (Bts.not_located_of_other located other)

theorem ActivateCnfOutcome.moved {c : ActConfirm}
    {o : (Input.up trx (.mphInfoCnf (.activateCnf c))).isDown = false}
    (h : ActivateCnfOutcome trx c b r b' es) :
    Moved site b b' id l (.input (.up trx (.mphInfoCnf (.activateCnf c))) o) es := by
  cases h with
  | unknownTrx unknown =>
    exact .silent hl (Bts.not_located_of_carrier unknown)
  | unknownLchan _ unknown =>
    exact .silent hl (Bts.not_located_of_find? unknown)
  | @confirmed k j lj _ found =>
    have quiet : subjects b (if (afterActivation (k.slotOf c.chanNr) lj.type (c.cause == 0)).2 then
        [.call (.switchDone trx (chanTn c.chanNr) (c.cause == 0)) ()] else []) = [] := by
      split <;> rfl
    rcases found_here_or_not hl found with ⟨rfl, rfl, located, h⟩ | ⟨located, other, h⟩
    · refine ⟨_, ?_, .activated located quiet⟩
      rw [Bts.lchan?_modifySlot fun t => lchans_afterActivation]
      exact h _
    · refine ⟨l, ?_, .keep (Bts.not_located_of_other located other) ?_⟩
      · rw [Bts.lchan?_modifySlot fun t => lchans_afterActivation]
        exact h _
      · rw [subjects_cons, quiet]
        simp [Ne.symm other]

theorem DeactivateCnfOutcome.moved {c : ActConfirm}
    {o : (Input.up trx (.mphInfoCnf (.deactivateCnf c))).isDown = false}
    (h : DeactivateCnfOutcome trx c b r b' es) :
    Moved site b b' id l (.input (.up trx (.mphInfoCnf (.deactivateCnf c))) o) es := by
  have full : ∀ {j lj es'}, b.find? trx c.chanNr = some (j, lj) →
      lj.sacchDeact = false ∨ lj.state = .relRequested → subjects b es' = [] →
      Moved site b ((b.setLchan j lj.resetAfterRelease).modifySlot trx (chanTn c.chanNr)
        fun t => (afterRelease t).1) id l (.input (.up trx (.mphInfoCnf (.deactivateCnf c))) o)
        (.call (.releaseDone j) () :: es') := by
    intro j lj es' found full quiet
    rcases found_here_or_not hl found with ⟨rfl, rfl, located, h⟩ | ⟨located, other, h⟩
    · refine ⟨_, ?_, .released located full quiet⟩
      rw [Bts.lchan?_modifySlot fun t => lchans_afterRelease]
      exact h _
    · refine ⟨l, ?_, .keep (Bts.not_located_of_other located other) ?_⟩
      · rw [Bts.lchan?_modifySlot fun t => lchans_afterRelease]
        exact h _
      · rw [subjects_cons, quiet]
        simp [Ne.symm other]
  cases h with
  | unknownTrx unknown =>
    exact .silent hl (Bts.not_located_of_carrier unknown)
  | unknownLchan _ unknown =>
    exact .silent hl (Bts.not_located_of_find? unknown)
  | sacchOnly _ found stopped up =>
    rcases found_here_or_not hl found with ⟨rfl, rfl, located, -⟩ | ⟨located, other, -⟩
    · exact ⟨_, hl, .sacchDown located stopped up⟩
    · exact .silent hl (Bts.not_located_of_other located other)
  | released _ found h => exact full found h rfl
  | switched _ found h => exact full found h rfl

theorem ChanDeactSacchOutcome.moved {o : (Input.chanDeactSacch trx n).isDown = false}
    (h : ChanDeactSacchOutcome trx n b r b' es) :
    Moved site b b' id l (.input (.chanDeactSacch trx n) o) es := by
  cases h with
  | unknownTrx unknown =>
    exact .silent hl (Bts.not_located_of_carrier unknown)
  | unknownLchan _ unknown =>
    exact .silent hl (Bts.not_located_of_find? unknown)
  | requested _ found answer =>
    rcases found_here_or_not hl found with ⟨rfl, rfl, located, h⟩ | ⟨located, other, h⟩
    · exact ⟨_, h _, .sacchStopped located answer⟩
    · exact .same (h _) (Bts.not_located_of_other located other)
        (by simp [subjects, located, Ne.symm other])

theorem ChanActOutcome.moved {b₀ : Bts} {tsc : Option UInt8} {m : Move}
    (same : b.locate? = b₀.locate?) (asked : m.activates trx n)
    (unreached : ¬ m.Reaches site b₀ id l) (h : ChanActOutcome site trx n tsc b r b' es) :
    Moved site b₀ b' id l m es := by
  cases h with
  | undecodable => exact .silent hl unreached
  | wrongTsc => exact .silent hl unreached
  | unknownTrx => exact .silent hl unreached
  | unknownLchan => exact .silent hl unreached
  | radio _ _ _ found e =>
    rcases found_here_or_not hl found with ⟨rfl, rfl, located, h⟩ | ⟨located, other, h⟩
    · exact ⟨_, h _, .refused asked (same ▸ located) _ e⟩
    · rw [same] at located
      exact .same (h _) unreached (by simp [subjects, located, Ne.symm other])
  | requested _ _ _ found handle =>
    rcases found_here_or_not hl found with ⟨rfl, rfl, located, h⟩ | ⟨located, other, h⟩
    · exact ⟨_, h _, .requested asked (same ▸ located) _ handle⟩
    · rw [same] at located
      exact .same (h _) unreached (by simp [subjects, located, Ne.symm other])

theorem ChanRelOutcome.moved {b₀ : Bts} {m : Move} (same : b.locate? = b₀.locate?)
    (asked : m.releases trx n)
    (unreached : b₀.locate? trx n ≠ some id → ¬ m.Reaches site b₀ id l)
    (h : ChanRelOutcome trx n b r b' es) : Moved site b₀ b' id l m es := by
  cases h with
  | unknownTrx unknown =>
    exact .silent hl (unreached (same ▸ Bts.not_located_of_carrier unknown))
  | unknownLchan _ unknown =>
    exact .silent hl (unreached (same ▸ Bts.not_located_of_find? unknown))
  | requested _ found answer =>
    rcases found_here_or_not hl found with ⟨rfl, rfl, located, h⟩ | ⟨located, other, h⟩
    · exact ⟨_, h _, .releaseAsked asked (same ▸ located) answer⟩
    · rw [same] at located
      exact .same (h _) (unreached (Bts.not_located_of_other located other))
        (by simp [subjects, located, Ne.symm other])

omit hl in
/-- A timeslot replaced by one with the same channels leaves all channels as they are. -/
theorem lchan?_begun {tn : UInt8} {t t' : Timeslot} (slot : b.slot? trx tn = some t)
    (same : t'.lchans = t.lchans) : (b.modifySlot trx tn fun _ => t').lchan? j = b.lchan? j := by
  unfold Bts.lchan?
  rw [Bts.slot?_modifySlot]
  split
  · rename_i here
    rw [← here.1, ← here.2, slot]
    simp [same]
  · rfl

omit hl in
theorem beginPdchAct?_eq_some {t t' : Timeslot} : t.beginPdchAct? = some t' ↔
    (t.pchan = .tchFPdch ∧ t.flags.pending = false) ∧
      { t with flags := { t.flags with actPending := true } } = t' := by
  unfold Timeslot.beginPdchAct?
  rw [Option.ite_none_right_eq_some, Option.some.injEq]

omit hl in
theorem beginPdchDeact?_eq_some {t t' : Timeslot} : t.beginPdchDeact? = some t' ↔
    (t.pchan = .tchFPdch ∧ t.flags.pending = false ∧ t.flags.active = true) ∧
      { t with flags := { t.flags with deactPending := true } } = t' := by
  unfold Timeslot.beginPdchDeact?
  rw [Option.ite_none_right_eq_some, Option.some.injEq]

omit hl in
theorem lchans_beginPdchAct {t t' : Timeslot} (h : t.beginPdchAct? = some t') :
    t'.lchans = t.lchans := by
  obtain ⟨-, rfl⟩ := beginPdchAct?_eq_some.mp h
  rfl

omit hl in
theorem lchans_beginPdchDeact {t t' : Timeslot} (h : t.beginPdchDeact? = some t') :
    t'.lchans = t.lchans := by
  obtain ⟨-, rfl⟩ := beginPdchDeact?_eq_some.mp h
  rfl

omit hl in
theorem locate?_congr {b₀ : Bts} (same : ∀ j, b.lchan? j = b₀.lchan? j) :
    b.locate? = b₀.locate? := by
  funext u n
  unfold Bts.locate?
  simp only [same]

omit hl in
/-- A switch that is given up leaves the channels as they are. -/
theorem Moved.settled {m : Move} {tn : UInt8} (h : Moved site b b' id l m es) :
    Moved site b (settled trx tn b') id l m es := by
  obtain ⟨l', hl', move⟩ := h
  refine ⟨l', ?_, move⟩
  rw [← hl']
  exact Bts.lchan?_modifySlot fun _ => rfl

theorem PdchSwitchOutcome.moved {tn : UInt8} {toPdch : Bool}
    {o : (Input.pdchSwitch trx tn toPdch).isDown = false}
    (h : PdchSwitchOutcome site trx tn b toPdch r b' es) :
    Moved site b b' id l (.input (.pdchSwitch trx tn toPdch) o) es := by
  cases h with
  | unknownTrx => exact .silent hl (fun h => h)
  | refused => exact .silent hl (fun h => h)
  | begun slot begun inner =>
    have same : ∀ j, _ = b.lchan? j := fun j => lchan?_begun slot (lchans_beginPdchAct begun)
    exact inner.moved ((same id).trans hl) (locate?_congr same) ⟨rfl, rfl⟩ fun h => h
  | givenUp slot begun inner =>
    have same : ∀ j, _ = b.lchan? j := fun j => lchan?_begun slot (lchans_beginPdchAct begun)
    have moved : Moved site b _ id l (.input (.pdchSwitch trx tn true) o) es :=
      inner.moved ((same id).trans hl) (locate?_congr same) ⟨rfl, rfl⟩ fun h => h
    exact moved.settled
  | endBegun slot begun inner =>
    have same : ∀ j, _ = b.lchan? j := fun j => lchan?_begun slot (lchans_beginPdchDeact begun)
    exact inner.moved ((same id).trans hl) (locate?_congr same) ⟨rfl, rfl⟩ fun _ h => h
  | endGivenUp slot begun inner =>
    have same : ∀ j, _ = b.lchan? j := fun j => lchan?_begun slot (lchans_beginPdchDeact begun)
    have moved : Moved site b _ id l (.input (.pdchSwitch trx tn false) o) es :=
      inner.moved ((same id).trans hl) (locate?_congr same) ⟨rfl, rfl⟩ fun _ h => h
    exact moved.settled

/-! ### All moves -/

theorem StepOutcome.moved {i : Input} {o : i.isDown = false} (h : StepOutcome site b i r b' es) :
    Moved site b b' id l (.input i o) es := by
  cases h with
  | time outcome => exact outcome.moved hl
  | measured outcome => exact outcome.moved hl
  | activateCnf outcome => exact outcome.moved hl
  | deactivateCnf outcome => exact outcome.moved hl
  | cipherCnf outcome => exact outcome.moved hl
  | indicated => exact .silent hl (fun h => h)
  | @confirmed trx info other =>
    refine .silent hl (fun h => ?_)
    cases info with
    | activateCnf c => cases other
    | deactivateCnf c => cases other
    | cipherCnf c => cases other
    | _ => exact h
  | rts outcome => exact outcome.moved hl
  | tchRts outcome => exact outcome.moved hl
  | data outcome => exact outcome.moved hl
  | tch outcome => exact outcome.moved hl
  | rach outcome => exact outcome.moved hl
  | @unknown trx p request =>
    refine .same hl (fun h => ?_) (by simp [subjects, filterMap_event])
    cases p with
    | phDataReq d => exact h
    | tchReq t => exact h
    | mphInfoReq info => exact h
    | _ => cases request
  -- what the program sends down itself is no input from outside
  | down answer => cases o
  | chanAct outcome => exact outcome.moved hl rfl ⟨rfl, rfl⟩ fun h => h
  | chanRel outcome => exact outcome.moved hl rfl ⟨rfl, rfl⟩ fun elsewhere => elsewhere
  | chanDeactSacch outcome => exact outcome.moved hl
  | chanModify answer => exact .same hl (fun h => h) (by simp [subjects])
  | pdchSwitch outcome => exact outcome.moved hl
  | packetReq answer => exact .same hl (fun h => h) (by simp [subjects])
  | @voiceRx j k f known =>
    by_cases here : j = id
    · subst here
      rw [known, Option.some.injEq] at hl
      subst hl
      exact ⟨_, Bts.lchan?_setLchan_self known, .queued⟩
    · refine ⟨l, ?_, .keep here (by simp [subjects])⟩
      rw [Bts.lchan?_setLchan, if_neg here, hl]
  | @voiceDropped j f unknown =>
    refine .silent hl (fun here : j = id => ?_)
    rw [← here, unknown] at hl
    cases hl

end Moved

/-- Every lawful turn leaves a channel with a record, which it changed in one of the ways above. -/
theorem Turn.Lawful.moved {t : Turn} (h : t.Lawful site) (hl : t.before.lchan? id = some l) :
    Moved site t.before t.after id l t.move t.events := by
  obtain ⟨before, m, res, events, after⟩ := t
  cases m with
  | input i outside => exact StepOutcome.moved hl h
  | write j x =>
    obtain ⟨-, written, quiet⟩ := h
    dsimp only at written quiet hl ⊢
    subst written quiet
    unfold Moved
    rw [Bts.lchan?_modifyLchan]
    split
    · rename_i here
      subst here
      exact ⟨_, congrArg (Option.map _) hl, .written⟩
    · rename_i other
      exact ⟨l, hl, .keep other List.not_mem_nil⟩

end BaseStation.Bridge
