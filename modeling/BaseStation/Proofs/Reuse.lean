import BaseStation.Proofs.Bridge.Kept

/-!
What of one connection reaches the next one on the same channel. A release resets a part of the
record and an activation sets another; the rest is what the channel keeps, and what reaches it
while it is unused.
-/

namespace BaseStation.Bridge

variable {σ φ : Type} {site : Site σ φ} {id : LchanId} {l l' : Lchan} {t : Turn} {ts us : List Turn}

/-! ### Unused channels -/

/-- The radio confirms an activation of the channel. -/
def Turn.Activates (id : LchanId) (t : Turn) : Prop :=
  match t.move with
  | .input (.up trx (.mphInfoCnf (.activateCnf c))) _ =>
    t.before.locate? trx c.chanNr = some id ∧ c.cause = 0
  | _ => False

/-- The record of a channel that was released and not activated again. -/
structure Unused (l : Lchan) : Prop where
  inactive : l.isActive = false
  cipher : l.cipher = .none
  cipherNs : l.cipherNs = 0
  lastFn : l.lastFn = none

/-- Something reaches an unused channel: a frame that its queue takes, from the voice transport or
in the loopback of a packet channel, the delay of an access burst, or a handover. -/
def Turn.Strays (site : Site σ φ) (id : LchanId) (t : Turn) : Prop :=
  match t.move with
  | .input (.voiceRx j _) _ => j = id ∧ (t.before.lchan? id).any (!·.loopback) = true
  | .input (.up trx (.phDataInd d)) _ =>
    onPacketSlot t.before trx d.chanNr ∧ t.before.locate? trx d.chanNr = some id ∧
      (t.before.lchan? id).any (·.loopback) = true
  | .input (.up trx (.phRachInd p)) _ =>
    p.route trx site.settings.maxTa ≠ .discard ∧ t.before.locate? trx p.chanNr = some id ∧
      ((Measurements.biased? p.delay.toNat).isSome = true ∨
        .call (.handoverAccess id p.ra p.delay) true ∈ t.events)
  | _ => False

/-- Nothing has reached the record of a channel since its release. -/
structure Untouched (l : Lchan) : Prop where
  queue : l.queue.frames = []
  meas : l.meas = .empty
  handover : l.handover = .none

/-- What the parties above say of the start of a talk spurt. -/
def Turn.marker? (id : LchanId) (t : Turn) : Option Bool :=
  match t.move with
  | .write j (.txMarker on) => if j = id then some on else none
  | _ => none

theorem setAccessOffset_eq_empty {m : Measurements} {symbols : Int} :
    m.setAccessOffset symbols = .empty ↔
      m = .empty ∧ (Measurements.biased? symbols).isSome = false := by
  unfold Measurements.setAccessOffset
  cases Measurements.biased? symbols with
  | none => simp
  | some b => simp [Measurements.empty]

theorem push_ne_nil {q : VoiceQueue} {f : VoiceFrame} : (q.push f).1.frames ≠ [] := by
  simp [VoiceQueue.push]

/-- How a turn changes what reached an unused channel. -/
structure UnusedStep (site : Site σ φ) (id : LchanId) (t : Turn) (l l' : Lchan) : Prop where
  unused : Unused l'
  untouched : Untouched l' ↔ Untouched l ∧ ¬ t.Strays site id
  marker : l'.txMarker = (t.marker? id).getD l.txMarker

/-- A turn that does not reach an unused channel, but for its link. -/
theorem unusedStep_of_same (strays : ¬ t.Strays site id) (unmarked : t.marker? id = none)
    (unused : Unused l') (queue : l'.queue = l.queue) (meas : l'.meas = l.meas)
    (handover : l'.handover = l.handover) (marker : l'.txMarker = l.txMarker) :
    UnusedStep site id t l l' := by
  refine ⟨unused, ?_, by rw [unmarked, marker]; rfl⟩
  constructor
  · rintro ⟨hq, hm, hh⟩
    exact ⟨⟨queue ▸ hq, meas ▸ hm, handover ▸ hh⟩, strays⟩
  · rintro ⟨⟨hq, hm, hh⟩, -⟩
    exact ⟨queue.symm ▸ hq, meas.symm ▸ hm, handover.symm ▸ hh⟩

theorem not_strays_of_unreached (hl : t.before.lchan? id = some l)
    (unreached : ¬ t.move.Reaches site t.before id l) : ¬ t.Strays site id := by
  intro strays
  unfold Turn.Strays at strays
  split at strays
  · rename_i move
    rw [move] at unreached
    exact unreached strays.1
  · rename_i move
    rw [move] at unreached
    obtain ⟨slot, located, loop⟩ := strays
    rw [hl] at loop
    exact unreached ⟨slot, located, by simpa using loop⟩
  · rename_i move
    rw [move] at unreached
    exact unreached ⟨strays.1, strays.2.1⟩
  · exact strays

theorem marker?_of_unreached (unreached : ¬ t.move.Reaches site t.before id l) :
    t.marker? id = none := by
  unfold Turn.marker?
  split
  · rename_i move
    rw [move] at unreached
    exact if_neg unreached
  · rfl

theorem not_strays_of_asked {trx n : UInt8}
    (asked : t.move.activates trx n ∨ t.move.releases trx n) : ¬ t.Strays site id := by
  unfold Turn.Strays
  obtain ⟨_, _, move⟩ | ⟨_, move⟩ | ⟨_, _, _, move⟩ := Move.asked_cases asked <;>
    rw [move] <;> exact not_false

theorem marker?_of_asked {trx n : UInt8}
    (asked : t.move.activates trx n ∨ t.move.releases trx n) : t.marker? id = none := by
  unfold Turn.marker?
  obtain ⟨_, _, move⟩ | ⟨_, move⟩ | ⟨_, _, _, move⟩ := Move.asked_cases asked <;> rw [move]

/-- No event reports a handover on a channel that the events are not about. -/
theorem not_handover_of_quiet {b : Bts} {es : List Event} (quiet : id ∉ subjects b es) {ra delay}
    {taken : Bool} : .call (.handoverAccess id ra delay) taken ∉ es :=
  fun he => quiet (List.mem_filterMap.mpr ⟨_, he, rfl⟩)

/-- An access burst that is not late strays by its delay or by its handover. -/
theorem strays_of_access {trx : UInt8} {p : PhRach}
    {o : (Input.up trx (.phRachInd p)).isDown = false}
    (move : t.move = .input (.up trx (.phRachInd p)) o)
    (route : p.route trx site.settings.maxTa ≠ .discard)
    (located : t.before.locate? trx p.chanNr = some id) : t.Strays site id ↔
      (Measurements.biased? p.delay.toNat).isSome = true ∨
        .call (.handoverAccess id p.ra p.delay) true ∈ t.events := by
  unfold Turn.Strays
  rw [move]
  exact ⟨fun strays => strays.2.2, fun strays => ⟨route, located, strays⟩⟩

theorem unusedStep_of_push (f : VoiceFrame) (strays : t.Strays site id)
    (unmarked : t.marker? id = none) (unused : Unused l) :
    UnusedStep site id t l { l with queue := (l.queue.push f).1 } := by
  refine ⟨⟨unused.1, unused.2, unused.3, unused.4⟩, ?_, by rw [unmarked]; rfl⟩
  constructor
  · exact fun untouched => absurd untouched.queue push_ne_nil
  · exact fun untouched => absurd strays untouched.2

theorem untouched_delayStored {p : PhRach} : Untouched (delayStored p l) ↔
    Untouched l ∧ (Measurements.biased? p.delay.toNat).isSome = false := by
  have stored : l.meas.setAccessOffset p.delay.toNat = .empty ↔
      l.meas = .empty ∧ (Measurements.biased? p.delay.toNat).isSome = false :=
    setAccessOffset_eq_empty
  unfold delayStored
  generalize l.meas.setAccessOffset p.delay.toNat = m at stored ⊢
  constructor
  · rintro ⟨hq, hm, hh⟩
    exact ⟨⟨hq, (stored.mp hm).1, hh⟩, (stored.mp hm).2⟩
  · rintro ⟨⟨hq, hm, hh⟩, unstored⟩
    exact ⟨hq, stored.mpr ⟨hm, unstored⟩, hh⟩

theorem Unused.delayStored {p : PhRach} (unused : Unused l) : Unused (delayStored p l) := by
  obtain ⟨m, h⟩ := delayStored_eq p l
  rw [h]
  exact ⟨unused.1, unused.2, unused.3, unused.4⟩

theorem txMarker_delayStored {p : PhRach} : (delayStored p l).txMarker = l.txMarker := by
  obtain ⟨m, h⟩ := delayStored_eq p l
  rw [h]

/-- While a channel is neither released nor activated again, it stays unused. -/
theorem Turn.Takes.unusedStep (h : t.Takes site id l l') (unused : Unused l)
    (kept : ¬ t.Releases id) (down : ¬ t.Activates id) : UnusedStep site id t l l' := by
  obtain ⟨hl, -, lawful, move⟩ := h
  obtain ⟨before, m, res, events, after⟩ := t
  have inactive : l.isActive ≠ true := by simp [unused.inactive]
  dsimp only at move hl
  cases move with
  -- nothing goes over a channel that is not active, in either direction
  | filled _ active => exact absurd active inactive
  | sent _ active => exact absurd active inactive
  | echoed _ _ active => exact absurd active inactive
  | voiced _ active => exact absurd active inactive
  | lost _ active => exact absurd active inactive
  | shortened _ active => exact absurd active inactive
  | received _ active => exact absurd active inactive
  | sacchReceived _ active => exact absurd active inactive
  | voiceKept _ _ active => exact absurd active inactive
  | voiceTaken _ _ active => exact absurd active inactive
  | measured _ active => exact absurd active inactive
  | released => exact absurd (Turn.releases_of_told List.mem_cons_self) kept
  -- these leave what a fresh channel has
  | keep unreached =>
    exact unusedStep_of_same (not_strays_of_unreached hl unreached)
      (marker?_of_unreached unreached) unused rfl rfl rfl rfl
  | sacchDown => exact unusedStep_of_same (fun h => h) rfl unused rfl rfl rfl rfl
  | sacchStopped =>
    exact unusedStep_of_same (fun h => h) rfl ⟨unused.1, unused.2, unused.3, unused.4⟩
      rfl rfl rfl rfl
  | cipherConfirmed located =>
    have same : ∀ c, (l.confirmCipher c).1 = l := by
      intro c
      unfold Lchan.confirmCipher
      rw [if_neg (by simp [unused.cipher])]
    rw [same]
    exact unusedStep_of_same (fun h => h) rfl unused rfl rfl rfl rfl
  | @activated _ c _ _ located =>
    have refused : (c.cause == 0) = false := by
      simpa using fun good => down ⟨located, good⟩
    rw [refused]
    exact unusedStep_of_same (fun h => h) rfl ⟨rfl, unused.2, unused.3, unused.4⟩ rfl rfl rfl rfl
  | refused asked =>
    exact unusedStep_of_same (not_strays_of_asked (.inl asked)) (marker?_of_asked (.inl asked))
      ⟨rfl, unused.2, unused.3, unused.4⟩ rfl rfl rfl rfl
  | requested asked located type handle =>
    obtain ⟨d, h⟩ := allocated_eq site type handle (activating site type l)
    rw [h]
    exact unusedStep_of_same (not_strays_of_asked (.inl asked)) (marker?_of_asked (.inl asked))
      ⟨rfl, unused.2, unused.3, unused.4⟩ rfl rfl rfl rfl
  | releaseAsked asked =>
    exact unusedStep_of_same (not_strays_of_asked (.inr asked)) (marker?_of_asked (.inr asked))
      ⟨rfl, unused.2, unused.3, unused.4⟩ rfl rfl rfl rfl
  -- these reach a channel that is down: voice is queued, and access bursts leave their offset or
  -- the handover
  | @echoKept _ d _ slot located loop =>
    refine unusedStep_of_push (.looped d.frame.octets) ?_ rfl unused
    exact ⟨slot, located, by simp [hl, loop]⟩
  | @queued f =>
    unfold voiceReceived
    by_cases loop : l.loopback = true
    · rw [if_pos loop]
      refine unusedStep_of_same ?_ rfl unused rfl rfl rfl rfl
      rintro ⟨-, straight⟩
      simp [hl, loop] at straight
    · rw [if_neg loop]
      refine unusedStep_of_push f ?_ rfl unused
      exact ⟨rfl, by simp [hl, loop]⟩
  | accessed route located quiet =>
    refine ⟨unused.delayStored, ?_, txMarker_delayStored⟩
    rw [strays_of_access rfl route located, untouched_delayStored,
      or_iff_left (not_handover_of_quiet quiet), Bool.not_eq_true]
  | @handover _ p _ route located taken =>
    cases taken with
    | false =>
      refine ⟨unused.delayStored, ?_, txMarker_delayStored⟩
      rw [strays_of_access rfl (by simp [route]) located]
      simp [untouched_delayStored]
    | true =>
      obtain ⟨m, h⟩ := delayStored_eq p l
      rw [h]
      refine ⟨⟨unused.1, unused.2, unused.3, unused.4⟩, ?_, rfl⟩
      rw [strays_of_access rfl (by simp [route]) located]
      constructor
      · rintro ⟨-, -, waiting⟩
        cases waiting
      · rintro ⟨-, silent⟩
        exact absurd (.inr (List.mem_singleton_self _)) silent
  | @written x =>
    cases x with
    | txMarker on =>
      refine ⟨⟨unused.1, unused.2, unused.3, unused.4⟩, ?_, by simp [Turn.marker?, Write.apply]⟩
      constructor
      · rintro ⟨hq, hm, hh⟩
        exact ⟨⟨hq, hm, hh⟩, fun h => h⟩
      · rintro ⟨⟨hq, hm, hh⟩, -⟩
        exact ⟨hq, hm, hh⟩
    | _ =>
      exact unusedStep_of_same (fun h => h) rfl ⟨unused.1, unused.2, unused.3, unused.4⟩
        rfl rfl rfl rfl

/-! ### From release to activation -/

/-- The start of a talk spurt that the parties above leave with a channel that is unused. -/
def markerLeft (id : LchanId) (ts : List Turn) : Bool :=
  ts.foldl (fun on t => (t.marker? id).getD on) false

theorem unused_track (h : Track site id l ts l') (unused : Unused l)
    (idle : ∀ t ∈ ts, ¬ t.Releases id ∧ ¬ t.Activates id) :
    Unused l' ∧ (Untouched l' ↔ Untouched l ∧ ∀ t ∈ ts, ¬ t.Strays site id) ∧
      l'.txMarker = ts.foldl (fun on t => (t.marker? id).getD on) l.txMarker := by
  induction h with
  | nil => exact ⟨unused, by simp, rfl⟩
  | cons first _ ih =>
    have one := idle _ List.mem_cons_self
    have step := first.unusedStep unused one.1 one.2
    obtain ⟨unused', untouched, marker⟩ :=
      ih step.unused fun t ht => idle t (List.mem_cons_of_mem _ ht)
    refine ⟨unused', ?_, by rw [marker, step.marker, List.foldl_cons]⟩
    rw [untouched, step.untouched, List.forall_mem_cons, and_assoc]

theorem limit_loopedBlock {q : VoiceQueue} {fn : UInt32} :
    (loopedBlock q fn).2.limit = q.limit := by
  unfold loopedBlock
  split
  · rfl
  · split <;> rename_i h <;> exact congrArg (·.2.limit) h.symm

/-- No move changes the limit of a queue. -/
theorem Turn.Takes.limit (h : t.Takes site id l l') : l'.queue.limit = l.queue.limit := by
  obtain ⟨-, -, lawful, move⟩ := h
  obtain ⟨before, m, res, events, after⟩ := t
  dsimp only at move
  cases move with
  | echoed fn => exact limit_loopedBlock
  | lost =>
    obtain ⟨s, h⟩ := supervised_eq site l true
    rw [h]
  | shortened =>
    obtain ⟨s, h⟩ := supervised_eq site { l with handover := .none } false
    rw [h]
  | @sent _ p _ _ _ _ f =>
    obtain ⟨c, ns, h⟩ := checkDownlink_eq l p.chanNr f.octets
    rw [h]
  | @received _ d =>
    obtain ⟨c, h⟩ := checkUplink_eq { l with handover := .none } d.chanNr d.frame.l2
    rw [h]
  | @sacchReceived _ d k _ _ _ _ _ header =>
    obtain ⟨s, hs⟩ := supervised_eq site { l with handover := .none } false
    obtain ⟨c, h⟩ := checkUplink_eq k d.chanNr (sacchMarked d).frame.l2
    rw [h, header, hs]
    rfl
  | @accessed _ p =>
    obtain ⟨m, h⟩ := delayStored_eq p l
    rw [h]
  | @handover _ p _ _ _ taken =>
    obtain ⟨m, h⟩ := delayStored_eq p l
    rw [h]
    cases taken <;> rfl
  | @cipherConfirmed _ c =>
    obtain ⟨k, h⟩ := confirmCipher_eq l c
    rw [h]
  | requested _ _ type handle =>
    obtain ⟨d, h⟩ := allocated_eq site type handle (activating site type l)
    rw [h]
    rfl
  | queued =>
    unfold voiceReceived
    split <;> rfl
  | @written x => cases x <;> rfl
  | _ => rfl

theorem Track.limit (h : Track site id l ts l') : l'.queue.limit = l.queue.limit := by
  induction h with
  | nil => rfl
  | cons first _ ih => rw [ih, first.limit]

/-- What a release leaves is unused, and nothing has reached it. -/
theorem unused_resetAfterRelease : Unused l.resetAfterRelease := ⟨rfl, rfl, rfl, rfl⟩

theorem untouched_resetAfterRelease : Untouched l.resetAfterRelease := ⟨rfl, rfl, rfl⟩

/-! ### Activation -/

section Activation

variable {w : World σ φ} {trx n : UInt8} {tsc : Option UInt8} {a : ChanAddr} {k : Carrier}

theorem chanAct_outcome (site : Site σ φ) (w : World σ φ) (trx n : UInt8) (tsc : Option UInt8) :
    ∃ es, ChanActOutcome site trx n tsc w.bts
      (takeTurn site (.chanAct trx n tsc) w).1
      (takeTurn site (.chanAct trx n tsc) w).2.bts es := by
  have lawful := lawful_turnOf site w (.chanAct trx n tsc)
  cases lawful with
  | chanAct outcome => exact ⟨_, outcome⟩

/-- An activation that is accepted was asked for properly. -/
theorem proper_of_accepted
    (accepted : (takeTurn site (.chanAct trx n tsc) w).1 = .ok ()) :
    ∃ a k, ChanAddr.decode n = .ok a ∧ checkTsc tsc site.settings.tsc = .ok () ∧
      w.bts.carrier? trx = some k := by
  obtain ⟨es, outcome⟩ := chanAct_outcome site w trx n tsc
  rw [accepted] at outcome
  generalize (takeTurn site (.chanAct trx n tsc) w).2.bts = b' at outcome
  cases outcome with
  | requested addr right carrier => exact ⟨_, _, addr, right, carrier⟩

/-- What an activation makes of the record of its channel, taken by the radio or not. -/
theorem bts_chanAct (addr : ChanAddr.decode n = .ok a)
    (right : checkTsc tsc site.settings.tsc = .ok ()) (carrier : w.bts.carrier? trx = some k)
    (located : w.bts.locate? trx n = some id) (hl : w.bts.lchan? id = some l) :
    ∃ d, (takeTurn site (.chanAct trx n tsc) w).2.bts =
      w.bts.setLchan id { activating site (activationType k a n) l with dtx := d } := by
  obtain ⟨es, outcome⟩ := chanAct_outcome site w trx n tsc
  have here : w.bts.find? trx n = some (id, l) := Bts.find?_eq_some.mpr ⟨located, hl⟩
  generalize (takeTurn site (.chanAct trx n tsc) w).2.bts = b' at outcome ⊢
  generalize (takeTurn site (.chanAct trx n tsc) w).1 = r at outcome
  cases outcome with
  | undecodable bad =>
    rw [bad] at addr
    cases addr
  | wrongTsc _ wrong =>
    rw [wrong] at right
    cases right
  | unknownTrx _ _ unknown =>
    rw [unknown] at carrier
    cases carrier
  | unknownLchan _ _ _ unknown =>
    rw [unknown] at here
    cases here
  | radio addr' _ carrier' found =>
    rw [addr] at addr'
    rw [carrier] at carrier'
    rw [here] at found
    cases addr'
    cases carrier'
    cases found
    exact ⟨none, rfl⟩
  | requested addr' _ carrier' found handle =>
    rw [addr] at addr'
    rw [carrier] at carrier'
    rw [here] at found
    cases addr'
    cases carrier'
    cases found
    obtain ⟨d, h⟩ := allocated_eq site (activationType k a n) handle
      (activating site (activationType k a n) l)
    exact ⟨d, by rw [h]⟩

/-- What the confirm of an activation makes of the record of its channel. -/
theorem lchan?_activateCnf {c : ActConfirm} (good : c.cause = 0)
    (located : w.bts.locate? trx c.chanNr = some id) (hl : w.bts.lchan? id = some l) :
    (takeTurn site (.up trx (.mphInfoCnf (.activateCnf c))) w).2.bts.lchan? id =
      some { l with state := .active } := by
  have here : w.bts.find? trx c.chanNr = some (id, l) := Bts.find?_eq_some.mpr ⟨located, hl⟩
  obtain ⟨es, -, lawful⟩ := step_outcome site (.up trx (.mphInfoCnf (.activateCnf c))) w
  have outcome : ActivateCnfOutcome trx c w.bts _
      (takeTurn site (.up trx (.mphInfoCnf (.activateCnf c))) w).2.bts es :=
    lawful.activateCnfOutcome
  generalize (step site (.up trx (.mphInfoCnf (.activateCnf c))) w).1 = r at outcome
  generalize (takeTurn site (.up trx (.mphInfoCnf (.activateCnf c))) w).2.bts = b'
    at outcome ⊢
  cases outcome with
  | unknownTrx unknown => exact absurd located (Bts.not_located_of_carrier unknown)
  | unknownLchan _ unknown =>
    rw [unknown] at here
    cases here
  | confirmed _ found =>
    rw [here] at found
    cases found
    rw [Bts.lchan?_modifySlot fun t => lchans_afterActivation, Bts.lchan?_setLchan_self hl, good]
    rfl

/-- A timeslot gives its channels the same type after the replacement of a record. -/
theorem activationType_setLchan {b : Bts} (carrier : b.carrier? trx = some k) (a : ChanAddr)
    (n : UInt8) (id : LchanId) (x : Lchan) :
    ∃ k', (b.setLchan id x).carrier? trx = some k' ∧
      activationType k' a n = activationType k a n := by
  obtain ⟨k', carrier'⟩ := Bts.carrier?_setLchan carrier
  obtain ⟨ls, slot⟩ := Bts.slot?_setLchan (Bts.slot?_slotOf carrier)
  rw [Bts.slot?_slotOf carrier', Option.some.injEq] at slot
  refine ⟨k', carrier', ?_⟩
  unfold activationType
  rw [slot]
  rfl

end Activation

/-- The activation of a channel and its confirm. -/
def openingMoves (trx n : UInt8) (tsc : Option UInt8) (c : ActConfirm) : List Move :=
  [.chanAct trx n tsc, .up trx (.mphInfoCnf (.activateCnf c))]

/-- The record of a channel that was opened anew. -/
def opened (site : Site σ φ) (type : LchanType) (d : Option DtxHandle) (l : Lchan) : Lchan :=
  { activating site type l with state := .active, dtx := d }

theorem lchan?_opening {w : World σ φ} {trx n : UInt8} {tsc : Option UInt8} {a : ChanAddr}
    {k : Carrier} {c : ActConfirm} (addr : ChanAddr.decode n = .ok a)
    (right : checkTsc tsc site.settings.tsc = .ok ()) (carrier : w.bts.carrier? trx = some k)
    (located : w.bts.locate? trx n = some id) (good : c.cause = 0)
    (answered : w.bts.locate? trx c.chanNr = some id) (hl : w.bts.lchan? id = some l) :
    ∃ d, (run site w (openingMoves trx n tsc c)).bts.lchan? id =
      some (opened site (activationType k a n) d l) := by
  obtain ⟨d, after⟩ := bts_chanAct addr right carrier located hl
  refine ⟨d, ?_⟩
  show (takeTurn site _ (takeTurn site _ w).2).2.bts.lchan? id = _
  rw [lchan?_activateCnf good (by rw [after, Bts.locate?_setLchan, answered])
    (by rw [after, Bts.lchan?_setLchan_self hl])]
  rfl

/-! ### Connections one after the other -/

/-- Two records are equal, but for the channel and its controller of discontinuous transmission. -/
def SameConnection (l l' : Lchan) : Prop := { l with id := l'.id, dtx := l'.dtx } = l'

instance (l l' : Lchan) : Decidable (SameConnection l l') := by
  unfold SameConnection
  infer_instance

/-- Nothing is left for the next connection on a channel: over all turns so far it keeps what it
had at first, and since its release nothing has reached it. -/
structure NothingLeft (site : Site σ φ) (id : LchanId) (before between : List Turn) : Prop where
  kept : keptAfter id (before ++ between) = .initial
  untouched : ∀ t ∈ between, ¬ t.Strays site id
  unmarked : markerLeft id between = false

/-- A channel opened anew is like one that was never used exactly if its record is, in what an
activation does not set. -/
theorem sameConnection_opened {type type' : LchanType} {d d' : Option DtxHandle} {j : LchanId}
    (unused : Unused l) (limit : l.queue.limit = 1) :
    SameConnection (opened site type d l) (opened site type d' (.fresh j type')) ↔
      Kept.of l = .initial ∧ Untouched l ∧ l.txMarker = false := by
  obtain ⟨-, cipher, cipherNs, lastFn⟩ := unused
  have queue : l.queue = .withLimit 1 ↔ l.queue.frames = [] := by
    unfold VoiceQueue.withLimit
    rw [← limit]
    cases l.queue
    simp
  unfold SameConnection opened activating Lchan.fresh Kept.of Kept.initial
  simp only [Lchan.mk.injEq, Kept.mk.injEq, queue, true_and]
  constructor
  · rintro ⟨mode, -, -, meas, power, ta, handover, frames, -, rtp, marker, loop, pending, fill⟩
    exact ⟨⟨mode, power, ta, rtp, loop, pending, fill⟩, ⟨frames, meas, handover⟩, marker⟩
  · rintro ⟨⟨mode, power, ta, rtp, loop, pending, fill⟩, ⟨frames, meas, handover⟩, marker⟩
    exact ⟨mode, cipher, cipherNs, meas, power, ta, handover, frames, lastFn, rtp, marker, loop,
      pending, fill⟩

/-- A connection that ends with a release, moves while the channel is unused, and the activation
and its confirm that open the next connection. -/
structure Reuse (site : Site σ φ) (w : World σ φ) (id : LchanId) where
  connection : List Move
  release : Move
  between : List Move
  trx : UInt8
  n : UInt8
  tsc : Option UInt8
  confirm : ActConfirm
  released : (turnOf site (run site w connection) release).Releases id
  idle : ∀ t ∈ history site (run site w (connection ++ [release])) between,
    ¬ t.Releases id ∧ ¬ t.Activates id
  located : (run site w (connection ++ [release] ++ between)).bts.locate? trx n = some id
  accepted : (takeTurn site (.chanAct trx n tsc)
    (run site w (connection ++ [release] ++ between))).1 = .ok ()
  answered : (run site w (connection ++ [release] ++ between)).bts.locate? trx confirm.chanNr =
    some id
  good : confirm.cause = 0

namespace Reuse

variable {w : World σ φ} (r : Reuse site w id)

/-- The state in which the channel is activated again. -/
def world : World σ φ := run site w (r.connection ++ [r.release] ++ r.between)

def before : List Turn := history site w (r.connection ++ [r.release])

/-- The turns while the channel is unused. -/
def unused : List Turn := history site (run site w (r.connection ++ [r.release])) r.between

def opening : List Move := openingMoves r.trx r.n r.tsc r.confirm

theorem record {l₀ : Lchan} {type : LchanType} (known : w.bts.lchan? id = some l₀)
    (fresh : l₀ = .fresh id type) : ∃ l, r.world.bts.lchan? id = some l ∧ Unused l ∧
      l.queue.limit = 1 ∧ Kept.of l = keptAfter id (r.before ++ r.unused) ∧
      (Untouched l ↔ ∀ t ∈ r.unused, ¬ t.Strays site id) ∧
      l.txMarker = markerLeft id r.unused := by
  -- the connection, its release, and the time until the next activation
  obtain ⟨k, hk, connection⟩ := track_history site r.connection known
  obtain ⟨k', takes⟩ := takes_of_lawful (lawful_turnOf site (run site w r.connection) r.release) hk
  have reset : k' = k.resetAfterRelease := by
    rcases takes.completes with silent | completed
    · exact absurd r.released silent
    · exact completed.record
  have hk' : (run site w (r.connection ++ [r.release])).bts.lchan? id = some k' := by
    rw [run_append]
    exact takes.after
  obtain ⟨l, hl, between⟩ := track_history site r.between hk'
  have before : Track site id l₀ r.before k' := by
    unfold Reuse.before
    rw [history_append]
    exact Track.append_iff.mpr ⟨k, connection, Track.singleton_iff.mpr takes⟩
  -- what is kept is told from all the turns, the rest from those behind the release
  have all : Track site id l₀ (r.before ++ r.unused) l :=
    Track.append_iff.mpr ⟨k', before, between⟩
  obtain ⟨unused, untouched, marker⟩ :=
    unused_track between (reset ▸ unused_resetAfterRelease) r.idle
  refine ⟨l, ?_, unused, ?_, ?_, ?_, ?_⟩
  · unfold Reuse.world
    rw [run_append]
    exact hl
  · rw [all.limit, fresh]
    rfl
  · rw [all.kept, fresh]
    rfl
  · rw [untouched, reset, and_iff_right untouched_resetAfterRelease]
    rfl
  · rw [marker, reset]
    rfl

end Reuse

/-- The record of a channel that is used again is that of a channel that was never used, taken
through the same activation and confirm, exactly if nothing is left of what was before. -/
theorem reused_as_fresh_iff (site : Site σ φ) (c : Config) (filter : Capture.Filter)
    (services : σ) (phy : φ) {id : LchanId} {l₀ : Lchan}
    (known : (Bts.ofConfig c).lchan? id = some l₀)
    (r : Reuse site (.fresh c filter services phy) id) :
    ∃ l l', (run site r.world r.opening).bts.lchan? id = some l ∧
      (run site (r.world.modifyBts (·.setLchan id l₀)) r.opening).bts.lchan? id = some l' ∧
      (SameConnection l l' ↔ NothingLeft site id r.before r.unused) := by
  obtain ⟨type, fresh⟩ := Bts.lchan?_ofConfig known
  obtain ⟨k, hk, unused, limit, kept, untouched, marker⟩ := r.record known fresh
  obtain ⟨a, s, addr, right, carrier⟩ := proper_of_accepted r.accepted
  obtain ⟨d, after⟩ := lchan?_opening addr right carrier r.located r.good r.answered hk
  obtain ⟨s', carrier', same⟩ := activationType_setLchan carrier a r.n id l₀
  obtain ⟨d', after'⟩ := lchan?_opening (w := r.world.modifyBts (·.setLchan id l₀)) addr right
    carrier' (Bts.locate?_setLchan.trans r.located) r.good (Bts.locate?_setLchan.trans r.answered)
    (Bts.lchan?_setLchan_self hk)
  refine ⟨_, _, after, after', ?_⟩
  rw [same, fresh, sameConnection_opened unused limit, kept, untouched, marker]
  constructor
  · rintro ⟨kept, untouched, unmarked⟩
    exact ⟨kept, untouched, unmarked⟩
  · rintro ⟨kept, untouched, unmarked⟩
    exact ⟨kept, untouched, unmarked⟩

/-- A connection on a traffic channel up to the request for its release: a voice frame waits, and
a SACCH frame comes in that reports a power level. -/
def voiceConnection : List Move := [
  .chanAct 0 0x09 none,
  .up 0 (.mphInfoCnf (.activateCnf ⟨0x09, 0⟩)),
  .voiceRx ⟨0, 1, 0⟩ ⟨[0xd0], 1, 160, true⟩,
  .up 0 (.phDataInd ⟨0x09, 0x40, 12, -60, 0, 0, 100, .both,
    .ofL2 [0x05, 0x00, 0x03, 0x03, 0x01]⟩),
  .chanRel 0 0x09]

def releasedMove : Move := .up 0 (.mphInfoCnf (.deactivateCnf ⟨0x09, 0⟩))

/-- A voice frame comes for another channel after the release, and an access burst comes late. -/
def strangerMoves : List Move := [
  .voiceRx ⟨0, 2, 0⟩ ⟨[0xd0], 2, 320, false⟩,
  .up 0 (.phRachInd ⟨0x09, 0x03, 64, 20, false, .ts0, -60⟩)]

/-- The voice connection with parties that command no power level. -/
def quietReuse : Reuse scriptedSite (scriptedWorld .fresh) ⟨0, 1, 0⟩ where
  connection := voiceConnection
  release := releasedMove
  between := strangerMoves
  trx := 0
  n := 0x09
  tsc := none
  confirm := ⟨0x09, 0⟩
  released := by decide +kernel
  idle := by
    intro t ht
    rcases List.mem_cons.mp ht with rfl | ht
    · exact ⟨by decide +kernel, fun h => h⟩
    · rw [List.mem_singleton.mp ht]
      exact ⟨by decide +kernel, fun h => h⟩
  located := by decide +kernel
  accepted := by rfl
  answered := by decide +kernel
  good := rfl

/-- Nothing of the voice connection reaches the next one. -/
theorem quiet_reuse_as_fresh : ∃ l l',
    (run scriptedSite quietReuse.world quietReuse.opening).bts.lchan? ⟨0, 1, 0⟩ = some l ∧
    (run scriptedSite (quietReuse.world.modifyBts
      (·.setLchan ⟨0, 1, 0⟩ (.fresh ⟨0, 1, 0⟩ .tchF))) quietReuse.opening).bts.lchan? ⟨0, 1, 0⟩ =
        some l' ∧ SameConnection l l' := by
  have known : (Bts.ofConfig scriptedConfig).lchan? ⟨0, 1, 0⟩ = some (.fresh ⟨0, 1, 0⟩ .tchF) := by
    decide +kernel
  obtain ⟨l, l', after, after', same⟩ :=
    reused_as_fresh_iff scriptedSite scriptedConfig .empty .fresh .accepting known quietReuse
  refine ⟨l, l', after, after', same.mpr ⟨by decide +kernel, ?_, by decide +kernel⟩⟩
  intro t ht
  rcases List.mem_cons.mp ht with rfl | ht
  · rintro ⟨here, -⟩
    exact absurd here (by decide)
  · rw [List.mem_singleton.mp ht]
    rintro ⟨route, -⟩
    exact absurd rfl route

/-- The voice connection with parties that command a power level. -/
def commandedReuse :
    Reuse scriptedSite (scriptedWorld { ScriptedServices.fresh with msPower := some 5 })
      ⟨0, 1, 0⟩ where
  connection := voiceConnection
  release := releasedMove
  between := []
  trx := 0
  n := 0x09
  tsc := none
  confirm := ⟨0x09, 0⟩
  released := by decide +kernel
  idle := by
    intro t ht
    cases ht
  located := by decide +kernel
  accepted := by rfl
  answered := by decide +kernel
  good := rfl

/-- The power level commanded in one connection is that of the next one. -/
theorem power_level_left : ∃ l l',
    (run scriptedSite commandedReuse.world commandedReuse.opening).bts.lchan? ⟨0, 1, 0⟩ =
      some l ∧
    (run scriptedSite (commandedReuse.world.modifyBts
      (·.setLchan ⟨0, 1, 0⟩ (.fresh ⟨0, 1, 0⟩ .tchF))) commandedReuse.opening).bts.lchan?
        ⟨0, 1, 0⟩ = some l' ∧ l.msPower = 5 ∧ l'.msPower = 0 ∧ ¬ SameConnection l l' := by
  have used : ((run scriptedSite commandedReuse.world commandedReuse.opening).bts.lchan?
      ⟨0, 1, 0⟩).map (·.msPower) = some 5 := by decide +kernel
  have fresh : ((run scriptedSite (commandedReuse.world.modifyBts
      (·.setLchan ⟨0, 1, 0⟩ (.fresh ⟨0, 1, 0⟩ .tchF))) commandedReuse.opening).bts.lchan?
        ⟨0, 1, 0⟩).map (·.msPower) = some 0 := by decide +kernel
  obtain ⟨l, hl, level⟩ := Option.map_eq_some_iff.mp used
  obtain ⟨l', hl', level'⟩ := Option.map_eq_some_iff.mp fresh
  refine ⟨l, l', hl, hl', level, level', fun same => ?_⟩
  have := congrArg Lchan.msPower same
  rw [level'] at this
  exact absurd (level.symm.trans this) (by decide)

end BaseStation.Bridge
