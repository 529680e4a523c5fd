import BaseStation.Proofs.Bridge.Causes
import BaseStation.Proofs.Bridge.Track
import Mathlib.Data.List.Induction

/-!
Downlink voice and what is looped back, in order. The queue of a channel has room for one frame:
what comes in takes the place of what waits, an opportunity hands down the frame that waits and
removes it, and a release clears the queue. So a frame that is handed down is the last one that came
in since the queue was last emptied, and no frame is handed down twice or out of order.
-/

namespace BaseStation.Bridge

variable {σ φ : Type} {site : Site σ φ} {b b' : Bts} {trx n : UInt8} {id : LchanId}
  {l l' : Lchan} {r : Except Failure Unit} {es : List Event} {t u : Turn} {ts : List Turn}
  {f : VoiceFrame} {order : Option VoiceFrame → Order}

/-! ### What comes in and what is fetched -/

instance : Decidable (onPacketSlot b trx n) :=
  match h : b.carrier? trx with
  | none => isFalse (by simp [onPacketSlot, h])
  | some c => decidable_of_iff ((c.slotOf n).isPdch = true) (by simp [onPacketSlot, h])

/-- The frame that a move brings into the queue of the channel `id`, whose record is `l`: one of the
voice transport unless the channel is in loopback, and one received from the mobile station if it
is. -/
def Move.accepted? (b : Bts) (id : LchanId) (l : Lchan) : Move → Option VoiceFrame
  | .input (.voiceRx j f) _ => if j = id ∧ l.loopback = false then some f else none
  | .input (.up trx (.tchInd d)) _ =>
    if b.locate? trx d.chanNr = some id ∧ l.isActive = true ∧ l.loopback = true then
      some (.looped (voicePayload d))
    else none
  | .input (.up trx (.phDataInd d)) _ =>
    if onPacketSlot b trx d.chanNr ∧ b.locate? trx d.chanNr = some id ∧ l.loopback = true then
      some (.looped d.frame.octets)
    else none
  | _ => none

/-- The block that echoes a frame on a packet channel, zeros if there is none. -/
def echoRequest (p : PhRts) (f : Option VoiceFrame) : Prim :=
  .phDataReq (.request p.chanNr p.linkId p.fn
    (.ofL2 ((f.map (·.payload)).getD (List.replicate blockLength 0))))

/-- A move that fetches a frame from the queue of the channel `id`, whose record is `l`: the order
to the radio that the frame makes, if there is one. -/
def Move.fetch? (b : Bts) (id : LchanId) (l : Lchan) : Move → Option (Option VoiceFrame → Order)
  | .input (.up trx (.tchRtsInd p)) _ =>
    if b.locate? trx p.chanNr = some id ∧ l.isActive = true then
      some fun f => .prim trx (voiceRequest p f)
    else none
  | .input (.up trx (.phRtsInd p)) _ =>
    if onPacketSlot b trx p.chanNr ∧ b.locate? trx p.chanNr = some id ∧ l.isActive = true ∧
        l.loopback = true ∧ isPtcch p.fn.toNat = false then
      some fun f => .prim trx (echoRequest p f)
    else none
  | _ => none

namespace Turn

/-- The frame that a turn brings into the queue of a channel. -/
def accepted? (id : LchanId) (t : Turn) : Option VoiceFrame :=
  (t.before.lchan? id).bind fun l => t.move.accepted? t.before id l

/-- A turn that fetches a frame from the queue of a channel, with the order that the frame
makes. -/
def fetch? (id : LchanId) (t : Turn) : Option (Option VoiceFrame → Order) :=
  (t.before.lchan? id).bind fun l => t.move.fetch? t.before id l

/-- The frame of the queue of a channel that a turn hands down. -/
def handed? (id : LchanId) (t : Turn) : Option VoiceFrame :=
  (t.fetch? id).bind fun _ => (t.before.lchan? id).bind fun l => l.queue.frames.head?

/-- A turn removes what is in the queue of a channel: it fetches it, or the channel is
released. -/
def Removes (id : LchanId) (t : Turn) : Prop := (t.fetch? id).isSome ∨ t.Releases id

instance (id : LchanId) (t : Turn) : Decidable (t.Removes id) := by
  unfold Removes
  infer_instance

end Turn

/-- What a turn does to the queue of a channel. -/
inductive QueueTurn (id : LchanId) (t : Turn) (l l' : Lchan) : Prop
  | kept (silent : t.accepted? id = none) (unremoved : ¬ t.Removes id)
      (same : l'.queue = l.queue)
  | accepted {f : VoiceFrame} (taken : t.accepted? id = some f) (unremoved : ¬ t.Removes id)
      (push : l'.queue = (l.queue.push f).1)
  | fetched {order : Option VoiceFrame → Order} (silent : t.accepted? id = none)
      (fetch : t.fetch? id = some order) (pop : l'.queue = l.queue.pop.2)
      (sent : orders t.events = [order l.queue.pop.1])
  | cleared (silent : t.accepted? id = none) (unfetched : t.fetch? id = none)
      (released : t.Releases id) (clear : l'.queue = l.queue.clear)

/-! ### Opportunities and receptions -/

theorem not_removes (known : t.before.lchan? id = some l)
    (unfetched : t.move.fetch? t.before id l = none) (unreleased : ¬ t.Releases id) :
    ¬ t.Removes id := by
  rintro (fetches | released)
  · rw [Turn.fetch?, known, Option.bind_some, unfetched] at fetches
    cases fetches
  · exact unreleased released

/-- A turn that neither brings in nor fetches, whatever else it does. -/
theorem QueueTurn.same (known : t.before.lchan? id = some l)
    (silent : t.move.accepted? t.before id l = none)
    (unfetched : t.move.fetch? t.before id l = none) (unreleased : ¬ t.Releases id)
    (same : l'.queue = l.queue) : QueueTurn id t l l' :=
  .kept (by rw [Turn.accepted?, known, Option.bind_some, silent])
    (not_removes known unfetched unreleased) same

/-- A turn that brings in a frame. -/
theorem QueueTurn.take (known : t.before.lchan? id = some l)
    (taken : t.move.accepted? t.before id l = some f)
    (unfetched : t.move.fetch? t.before id l = none) (unreleased : ¬ t.Releases id)
    (push : l'.queue = (l.queue.push f).1) : QueueTurn id t l l' :=
  .accepted (by rw [Turn.accepted?, known, Option.bind_some, taken])
    (not_removes known unfetched unreleased) push

/-- A turn that fetches a frame. -/
theorem QueueTurn.fetch (known : t.before.lchan? id = some l)
    (silent : t.move.accepted? t.before id l = none)
    (fetch : t.move.fetch? t.before id l = some order) (pop : l'.queue = l.queue.pop.2)
    (sent : orders t.events = [order l.queue.pop.1]) : QueueTurn id t l l' :=
  .fetched (by rw [Turn.accepted?, known, Option.bind_some, silent])
    (by rw [Turn.fetch?, known, Option.bind_some, fetch]) pop sent

theorem not_located_of_undecodable {e : ChanNrError} (bad : ChanAddr.decode n = .error e) :
    b.locate? trx n ≠ some id := by
  intro located
  obtain ⟨a, good, -⟩ := Bts.locate?_eq_some.mp located
  cases bad.symm.trans good

theorem not_onPacketSlot {c : Carrier} (carrier : b.carrier? trx = some c)
    (circuit : (c.slotOf n).isPdch = false) : ¬ onPacketSlot b trx n := by
  rintro ⟨c', carrier', packet⟩
  cases carrier.symm.trans carrier'
  cases circuit.symm.trans packet

/-- The queue after a change of another channel or of other fields. -/
theorem queue_setLchan {j : LchanId} {k x : Lchan} (known : b.lchan? id = some l)
    (found : b.findActive? trx n = some (j, k)) (after : (b.setLchan j x).lchan? id = some l')
    (same : x.queue = k.queue) : l'.queue = l.queue :=
  kept_of_setLchan Lchan.queue known found after same

/-- A block of a circuit timeslot leaves every queue as it is. -/
theorem CircuitBlock.queue {p : PhRts} {kind : ChanKind} {g : Frame} {q : Option CipherRequest}
    (block : CircuitBlock site trx p b kind g q b' es) (known : b.lchan? id = some l)
    (after : b'.lchan? id = some l') : l'.queue = l.queue := by
  cases block with
  | filling _ found => exact queue_setLchan known found after rfl
  | @main _ j k _ found link g =>
    obtain ⟨c, ns, h⟩ := checkDownlink_eq k p.chanNr g.octets
    exact queue_setLchan known found after (by rw [h])
  | _ =>
    cases known.symm.trans after
    rfl

theorem loopedBlock_eq {q : VoiceQueue} {fn : UInt32} (block : isPtcch fn.toNat = false) :
    loopedBlock q fn =
      (.ofL2 ((q.pop.1.map (·.payload)).getD (List.replicate blockLength 0)), q.pop.2) := by
  unfold loopedBlock
  rw [block]
  obtain ⟨frames, limit⟩ := q
  cases frames <;> rfl

section Outcomes

variable (known : b.lchan? id = some l) (after : b'.lchan? id = some l')
include known after

theorem RtsOutcome.queueTurn {p : PhRts} {o : (Input.up trx (.phRtsInd p)).isDown = false}
    (h : RtsOutcome site trx p b r b' es)
    (unreleased : ¬ Turn.Releases id ⟨b, .input (.up trx (.phRtsInd p)) o, r, es, b'⟩) :
    QueueTurn id ⟨b, .input (.up trx (.phRtsInd p)) o, r, es, b'⟩ l l' := by
  cases h with
  | undecodable bad =>
    cases known.symm.trans after
    exact .same known rfl (if_neg fun h => not_located_of_undecodable bad h.2.1) unreleased rfl
  | unknownTrx _ unknown =>
    cases known.symm.trans after
    exact .same known rfl (if_neg fun h => Bts.not_located_of_carrier unknown h.2.1) unreleased rfl
  | looped addr carrier packet found loop answer =>
    rcases active_here_or_not known found with ⟨rfl, rfl, located, active, h⟩ | ⟨elsewhere, ne, h⟩
    · cases (h _).symm.trans after
      -- a timing block has no voice frame, so nothing is fetched for it
      cases control : isPtcch p.fn.toNat with
      | true =>
        refine .same known rfl (if_neg fun h => ?_) unreleased (by simp [loopedBlock, control])
        cases control.symm.trans h.2.2.2.2
      | false =>
        refine .fetch known rfl (if_pos ⟨⟨_, carrier, packet⟩, located, active, loop, control⟩) ?_ ?_
        · rw [loopedBlock_eq control]
        · simp [orders, loopedBlock_eq control, Event.order?, echoRequest]
    · cases (h _).symm.trans after
      exact .same known rfl (if_neg fun h => Bts.not_located_of_other elsewhere ne h.2.1)
        unreleased rfl
  | packet _ _ _ free =>
    cases known.symm.trans after
    refine .same known rfl (if_neg fun h => ?_) unreleased rfl
    have straight := free id l (findActive?_of_located known h.2.1 h.2.2.1)
    cases straight.symm.trans h.2.2.2.1
  | circuit _ carrier circuit block =>
    exact .same known rfl (if_neg fun h => not_onPacketSlot carrier circuit h.1) unreleased
      (block.queue known after)

theorem TchRtsOutcome.queueTurn {p : TchRts} {o : (Input.up trx (.tchRtsInd p)).isDown = false}
    (h : TchRtsOutcome trx p b r b' es)
    (unreleased : ¬ Turn.Releases id ⟨b, .input (.up trx (.tchRtsInd p)) o, r, es, b'⟩) :
    QueueTurn id ⟨b, .input (.up trx (.tchRtsInd p)) o, r, es, b'⟩ l l' := by
  cases h with
  | unknownTrx unknown =>
    cases known.symm.trans after
    exact .same known rfl (if_neg fun h => Bts.not_located_of_carrier unknown h.1) unreleased rfl
  | inactive _ free =>
    cases known.symm.trans after
    refine .same known rfl (if_neg fun h => ?_) unreleased rfl
    cases free.symm.trans (findActive?_of_located known h.1 h.2)
  | active _ found answer =>
    rcases active_here_or_not known found with ⟨rfl, rfl, located, active, h⟩ | ⟨elsewhere, ne, h⟩
    · cases (h _).symm.trans after
      refine .fetch known rfl (if_pos ⟨located, active⟩) rfl ?_
      simp [orders, Event.order?]
    · cases (h _).symm.trans after
      exact .same known rfl (if_neg fun h => Bts.not_located_of_other elsewhere ne h.1)
        unreleased rfl

theorem DataOutcome.queueTurn {d : PhData} {o : (Input.up trx (.phDataInd d)).isDown = false}
    (h : DataOutcome site trx d b r b' es)
    (unreleased : ¬ Turn.Releases id ⟨b, .input (.up trx (.phDataInd d)) o, r, es, b'⟩) :
    QueueTurn id ⟨b, .input (.up trx (.phDataInd d)) o, r, es, b'⟩ l l' := by
  -- only a block on a looped packet timeslot is queued; these two are no such blocks
  have circuit {c : Carrier} (carrier : b.carrier? trx = some c)
      (circuit : (c.slotOf d.chanNr).isPdch = false) (same : l'.queue = l.queue) :
      QueueTurn id ⟨b, .input (.up trx (.phDataInd d)) o, r, es, b'⟩ l l' :=
    .same known (if_neg fun h => not_onPacketSlot carrier circuit h.1) rfl unreleased same
  have packet (free : ∀ j k, b.find? trx d.chanNr = some (j, k) → k.loopback = false)
      (same : l'.queue = l.queue) :
      QueueTurn id ⟨b, .input (.up trx (.phDataInd d)) o, r, es, b'⟩ l l' := by
    refine .same known (if_neg fun h => ?_) rfl unreleased same
    have straight := free id l (Bts.find?_eq_some.mpr ⟨h.2.1, known⟩)
    cases straight.symm.trans h.2.2
  cases h with
  | unknownTrx unknown =>
    cases known.symm.trans after
    exact .same known (if_neg fun h => Bts.not_located_of_carrier unknown h.2.1) rfl unreleased rfl
  | looped carrier mode found loop =>
    rcases found_here_or_not known found with ⟨rfl, rfl, located, h⟩ | ⟨elsewhere, ne, h⟩
    · cases (h _).symm.trans after
      exact .take known (if_pos ⟨⟨_, carrier, mode⟩, located, loop⟩) rfl unreleased rfl
    · cases (h _).symm.trans after
      exact .same known (if_neg fun h => Bts.not_located_of_other elsewhere ne h.2.1) rfl
        unreleased rfl
  | packetBad _ _ free | packetPartial _ _ free | packetData _ _ free =>
    cases known.symm.trans after
    exact packet free rfl
  | inactive carrier mode | badMain carrier mode =>
    cases known.symm.trans after
    exact circuit carrier mode rfl
  | @badSacch c j k carrier mode found =>
    obtain ⟨s, h⟩ := supervised_eq site k true
    exact circuit carrier mode (queue_setLchan known found after (by rw [h]))
  | @main c j k carrier mode found =>
    obtain ⟨x, h⟩ := checkUplink_eq { k with handover := .none } d.chanNr d.frame.l2
    exact circuit carrier mode (queue_setLchan known found after (by rw [h]))
  | @shortSacch c j k carrier mode found =>
    obtain ⟨s, h⟩ := supervised_eq site { k with handover := .none } false
    exact circuit carrier mode (queue_setLchan known found after (by rw [h]))
  | @sacch c j k k' carrier mode found _ _ _ _ _ header =>
    obtain ⟨s, hs⟩ := supervised_eq site { k with handover := .none } false
    obtain ⟨x, h⟩ := checkUplink_eq k' d.chanNr (sacchMarked d).frame.l2
    refine circuit carrier mode (queue_setLchan known found after ?_)
    rw [h, header, hs]
    rfl

theorem TchOutcome.queueTurn {d : TchData} {o : (Input.up trx (.tchInd d)).isDown = false}
    (h : TchOutcome site trx d b r b' es)
    (unreleased : ¬ Turn.Releases id ⟨b, .input (.up trx (.tchInd d)) o, r, es, b'⟩) :
    QueueTurn id ⟨b, .input (.up trx (.tchInd d)) o, r, es, b'⟩ l l' := by
  cases h with
  | unknownTrx unknown =>
    cases known.symm.trans after
    exact .same known (if_neg fun h => Bts.not_located_of_carrier unknown h.1) rfl unreleased rfl
  | inactive _ free =>
    cases known.symm.trans after
    refine .same known (if_neg fun h => ?_) rfl unreleased rfl
    cases free.symm.trans (findActive?_of_located known h.1 h.2.1)
  | looped _ found loop =>
    rcases active_here_or_not known found with ⟨rfl, rfl, located, active, h⟩ | ⟨elsewhere, ne, h⟩
    · cases (h _).symm.trans after
      exact .take known (if_pos ⟨located, active, loop⟩) rfl unreleased rfl
    · cases (h _).symm.trans after
      exact .same known (if_neg fun h => Bts.not_located_of_other elsewhere ne h.1) rfl
        unreleased rfl
  | taken _ found straight =>
    rcases active_here_or_not known found with ⟨rfl, rfl, located, active, h⟩ | ⟨elsewhere, ne, h⟩
    · cases (h _).symm.trans after
      refine .same known (if_neg fun h => ?_) rfl unreleased rfl
      cases straight.symm.trans h.2.2
    · cases (h _).symm.trans after
      exact .same known (if_neg fun h => Bts.not_located_of_other elsewhere ne h.1) rfl
        unreleased rfl

theorem StepOutcome.queueTurn {i : Input} {o : i.isDown = false}
    (air : Move.OnAir (.input i o)) (h : StepOutcome site b i r b' es)
    (unreleased : ¬ Turn.Releases id ⟨b, .input i o, r, es, b'⟩) :
    QueueTurn id ⟨b, .input i o, r, es, b'⟩ l l' := by
  cases h with
  | rts outcome => exact outcome.queueTurn known after unreleased
  | tchRts outcome => exact outcome.queueTurn known after unreleased
  | data outcome => exact outcome.queueTurn known after unreleased
  | tch outcome => exact outcome.queueTurn known after unreleased
  | time outcome =>
    refine .same known rfl rfl unreleased ?_
    cases outcome <;> cases known.symm.trans after <;> rfl
  | measured outcome =>
    refine .same known rfl rfl unreleased ?_
    cases outcome with
    | measured _ found => exact queue_setLchan known found after rfl
    | _ =>
      cases known.symm.trans after
      rfl
  | indicated =>
    cases known.symm.trans after
    exact .same known rfl rfl unreleased rfl
  | @unknown _ p request =>
    cases p with
    | phDataReq | tchReq | mphInfoReq => exact air.elim
    | _ => cases request
  | _ => cases air

/-- A frame of the voice transport comes into the queue unless the channel is in loopback. -/
theorem StepOutcome.queueTurn_voiceRx {o : (Input.voiceRx id f).isDown = false}
    (h : StepOutcome site b (.voiceRx id f) r b' es)
    (unreleased : ¬ Turn.Releases id ⟨b, .input (.voiceRx id f) o, r, es, b'⟩) :
    QueueTurn id ⟨b, .input (.voiceRx id f) o, r, es, b'⟩ l l' := by
  cases h with
  | voiceDropped unknown => cases unknown.symm.trans known
  | @voiceRx _ k _ here =>
    obtain rfl : k = l := Option.some.inj (here.symm.trans known)
    obtain rfl : voiceReceived f k = l' :=
      Option.some.inj ((Bts.lchan?_setLchan_self known).symm.trans after)
    cases loop : k.loopback with
    | true =>
      refine .same known (if_neg fun h => ?_) rfl unreleased (by rw [voiceReceived, if_pos loop])
      cases loop.symm.trans h.2
    | false =>
      refine .take known (if_pos ⟨rfl, loop⟩) rfl unreleased ?_
      rw [voiceReceived, if_neg (by simp [loop])]

end Outcomes

/-! ### Turns -/

theorem Write.apply_queue (x : Write) (l : Lchan) : (x.apply l).queue = l.queue := by
  cases x <;> rfl

/-- What is not on the air leaves a queue as it is, unless the voice transport has a frame for it
or the channel is released. -/
theorem Turn.Takes.queue_kept (h : t.Takes site id l l') (off : ¬ t.move.OnAir)
    (mute : ∀ f o, t.move ≠ .input (.voiceRx id f) o) (unreleased : ¬ t.Releases id) :
    l'.queue = l.queue := by
  obtain ⟨-, -, -, move⟩ := h
  obtain ⟨before, m, res, events, after⟩ := t
  dsimp only at move off mute
  cases move with
  | filled air | echoed _ air | voiced air | lost air | shortened air | voiceKept _ air
  | voiceTaken _ air | measured air => exact absurd air off
  | echoKept | sent | received | sacchReceived => exact absurd trivial off
  | @accessed _ p =>
    obtain ⟨m, h⟩ := delayStored_eq p l
    rw [h]
  | @handover _ p _ _ _ taken =>
    obtain ⟨m, h⟩ := delayStored_eq p l
    rw [h]
    cases taken <;> rfl
  | @cipherConfirmed _ c =>
    obtain ⟨k, h⟩ := confirmCipher_eq l c
    rw [h]
  | requested _ _ type handle =>
    obtain ⟨d, h⟩ := allocated_eq site type handle (activating site type l)
    rw [h]
    rfl
  | released =>
    exact absurd (by simp [Turn.Releases, releasesDone, Event.released?]) unreleased
  | queued => exact absurd rfl (mute _ _)
  | @written x => exact x.apply_queue l
  | _ => rfl

theorem Move.accepted?_eq_none {m : Move} (off : ¬ m.OnAir)
    (mute : ∀ f o, m ≠ .input (.voiceRx id f) o) : m.accepted? b id l = none := by
  unfold Move.accepted?
  split
  · refine if_neg ?_
    rintro ⟨rfl, -⟩
    exact mute _ _ rfl
  · exact absurd trivial off
  · exact absurd trivial off
  · rfl

theorem Move.fetch?_eq_none {m : Move} (off : ¬ m.OnAir) : m.fetch? b id l = none := by
  unfold Move.fetch?
  split
  · exact absurd trivial off
  · exact absurd trivial off
  · rfl

/-- Each turn does one of these to the queue of a channel. -/
theorem Turn.Takes.queueTurn (h : t.Takes site id l l') : QueueTurn id t l l' := by
  by_cases air : t.move.OnAir
  · have unreleased : ¬ t.Releases id := by
      rcases h.completes with untold | completes
      · exact untold
      · obtain ⟨⟨trx, c, o, move, -⟩, -⟩ := completes
        rw [move] at air
        exact air.elim
    obtain ⟨known, after, lawful, -⟩ := h
    obtain ⟨before, m, res, events, last⟩ := t
    cases m with
    | input i o => exact StepOutcome.queueTurn known after air lawful unreleased
    | write => exact air.elim
  · by_cases voice : ∃ f o, t.move = .input (.voiceRx id f) o
    · obtain ⟨f, o, move⟩ := voice
      have unreleased : ¬ t.Releases id := by
        rcases h.completes with untold | completes
        · exact untold
        · obtain ⟨⟨trx, c, o, confirm, -⟩, -⟩ := completes
          cases move.symm.trans confirm
      obtain ⟨known, after, lawful, -⟩ := h
      obtain ⟨before, m, res, events, last⟩ := t
      dsimp only at move
      subst move
      exact StepOutcome.queueTurn_voiceRx known after lawful unreleased
    · simp only [not_exists] at voice
      -- what is left neither brings a frame nor fetches one; only a release empties the queue
      have silent := Move.accepted?_eq_none (b := t.before) (l := l) air voice
      by_cases released : t.Releases id
      · rcases h.completes with untold | completes
        · exact absurd released untold
        · refine .cleared ?_ ?_ released (by rw [completes.record]; rfl)
          · rw [Turn.accepted?, h.before, Option.bind_some, silent]
          · rw [Turn.fetch?, h.before, Option.bind_some, Move.fetch?_eq_none air]
      · exact .same h.before silent (Move.fetch?_eq_none air) released
          (h.queue_kept air voice released)

/-! ### What waits -/

/-- A frame is the last one that came into the queue of a channel, with nothing removed since. -/
def LastAccepted (id : LchanId) (ts : List Turn) (f : VoiceFrame) : Prop :=
  ∃ pre t post, ts = pre ++ t :: post ∧ t.accepted? id = some f ∧
    ∀ u ∈ post, u.accepted? id = none ∧ ¬ u.Removes id

/-- The frame that waits after a turn, where `x` waited before it. -/
def Turn.waiting (id : LchanId) (x : Option VoiceFrame) (t : Turn) : Option VoiceFrame :=
  (t.accepted? id).or (if t.Removes id then none else x)

/-- The frame that waits after a history, where `x` waited before it. -/
def waiting (id : LchanId) (x : Option VoiceFrame) (ts : List Turn) : Option VoiceFrame :=
  ts.foldl (Turn.waiting id) x

theorem lastAccepted_snoc : LastAccepted id (ts ++ [t]) f ↔
    t.accepted? id = some f ∨
      t.accepted? id = none ∧ ¬ t.Removes id ∧ LastAccepted id ts f := by
  unfold LastAccepted
  rw [exists_split_snoc]
  constructor
  · rintro (⟨accepted, -⟩ | ⟨pre, u, post, split, accepted, since⟩)
    · exact .inl accepted
    · obtain ⟨earlier, last⟩ := List.forall_mem_append.mp since
      obtain ⟨silent, unremoved⟩ := last t (List.mem_singleton_self t)
      exact .inr ⟨silent, unremoved, pre, u, post, split, accepted, earlier⟩
  · rintro (accepted | ⟨silent, unremoved, pre, u, post, split, accepted, since⟩)
    · exact .inl ⟨accepted, List.forall_mem_nil _⟩
    · exact .inr ⟨pre, u, post, split, accepted, List.forall_mem_append.mpr
        ⟨since, List.forall_mem_singleton.mpr ⟨silent, unremoved⟩⟩⟩

theorem waiting_eq_some : waiting id none ts = some f ↔ LastAccepted id ts f := by
  induction ts using List.reverseRecOn with
  | nil => simp [waiting, LastAccepted]
  | append_singleton ts t ih =>
    have last : waiting id none (ts ++ [t]) = t.waiting id (waiting id none ts) := by
      rw [waiting, List.foldl_append]
      rfl
    rw [lastAccepted_snoc, ← ih, last, Turn.waiting]
    cases t.accepted? id with
    | some g => simp
    | none => by_cases removes : t.Removes id <;> simp [removes]

theorem handed?_of_unremoved (unremoved : ¬ t.Removes id) : t.handed? id = none := by
  have unfetched : t.fetch? id = none := by
    rw [Option.eq_none_iff_forall_ne_some]
    intro order fetch
    exact unremoved (.inl (by rw [fetch]; rfl))
  rw [Turn.handed?, unfetched, Option.bind_none]

section Waiting

variable {x : Option VoiceFrame}

/-- A turn takes a queue in which `x` waits to one in which what waits after it does. -/
theorem Turn.Takes.waits (h : t.Takes site id l l') (waits : l.queue = ⟨x.toList, 1⟩) :
    l'.queue = ⟨(t.waiting id x).toList, 1⟩ := by
  unfold Turn.waiting
  cases h.queueTurn with
  | kept silent unremoved same => rw [same, waits, silent, if_neg unremoved, Option.none_or]
  | accepted taken _ push =>
    rw [push, waits, taken]
    cases x <;> rfl
  | fetched silent fetch pop =>
    rw [pop, waits, silent, if_pos (.inl (by rw [fetch]; rfl))]
    cases x <;> rfl
  | cleared silent _ released clear => rw [clear, waits, silent, if_pos (.inr released)]; rfl

theorem Track.waits (track : Track site id l ts l') (waits : l.queue = ⟨x.toList, 1⟩) :
    l'.queue = ⟨(waiting id x ts).toList, 1⟩ := by
  induction track generalizing x with
  | nil => exact waits
  | cons first _ ih => exact ih (first.waits waits)

/-- A turn that fetches hands down what waits. -/
theorem Turn.Takes.handed (h : t.Takes site id l l') (waits : l.queue = ⟨x.toList, 1⟩)
    (fetch : t.fetch? id = some order) :
    t.handed? id = x ∧ orders t.events = [order x] := by
  have front : l.queue.pop.1 = x := by
    rw [waits]
    cases x <;> rfl
  constructor
  · rw [Turn.handed?, fetch, h.before]
    exact front
  · cases h.queueTurn with
    | kept _ unremoved | accepted _ unremoved =>
      exact absurd (.inl (by rw [fetch]; rfl)) unremoved
    | fetched _ fetch' _ sent =>
      cases fetch.symm.trans fetch'
      rw [sent, front]
    | cleared _ unfetched => cases fetch.symm.trans unfetched

/-- A turn that removes what waits leaves nothing behind. -/
theorem Turn.Takes.emptied (h : t.Takes site id l l') (waits : l.queue = ⟨x.toList, 1⟩)
    (removes : t.Removes id) : l'.queue = ⟨[], 1⟩ := by
  cases h.queueTurn with
  | kept _ unremoved | accepted _ unremoved => exact absurd removes unremoved
  | fetched _ _ pop =>
    rw [pop, waits]
    cases x <;> rfl
  | cleared _ _ _ clear =>
    rw [clear, waits]
    rfl

/-- What is handed down is, in order, part of what waited and of what came in. -/
theorem Track.handed_sublist (track : Track site id l ts l') (waits : l.queue = ⟨x.toList, 1⟩) :
    (ts.filterMap (Turn.handed? id)).Sublist (x.toList ++ ts.filterMap (Turn.accepted? id)) := by
  induction track generalizing x with
  | nil => exact List.nil_sublist _
  | @cons l k l' t ts first rest ih =>
    have later := ih (first.waits waits)
    unfold Turn.waiting at later
    cases first.queueTurn with
    | kept silent unremoved =>
      rw [silent, if_neg unremoved, Option.none_or] at later
      rw [List.filterMap_cons_none (handed?_of_unremoved unremoved),
        List.filterMap_cons_none silent]
      exact later
    -- the frame that came in takes the place of the one that waited
    | accepted taken unremoved =>
      rw [taken] at later
      rw [List.filterMap_cons_none (handed?_of_unremoved unremoved),
        List.filterMap_cons_some taken]
      exact later.trans (List.sublist_append_right _ _)
    | fetched silent fetch =>
      rw [silent, if_pos (.inl (by rw [fetch]; rfl))] at later
      rw [List.filterMap_cons_none silent]
      have handed := (first.handed waits fetch).1
      -- what is fetched is the frame that waited, if one did
      cases x with
      | none =>
        rw [List.filterMap_cons_none handed]
        exact later
      | some f =>
        rw [List.filterMap_cons_some handed]
        exact later.cons_cons f
    | cleared silent unfetched released =>
      rw [silent, if_pos (.inr released)] at later
      have unhanded : t.handed? id = none := by rw [Turn.handed?, unfetched, Option.bind_none]
      rw [List.filterMap_cons_none unhanded, List.filterMap_cons_none silent]
      exact later.trans (List.sublist_append_right _ _)

end Waiting

/-! ### Where frames come from -/

def Event.voiceSent? : Event → Option TchData
  | .down _ (.tchReq d) _ => some d
  | _ => none

/-- What goes down for voice. -/
def voiceSent (es : List Event) : List TchData := es.filterMap Event.voiceSent?

instance : Aside Event.voiceSent? := by constructor <;> intros <;> rfl

/-- Only an opportunity for voice has voice go down. -/
theorem StepOutcome.mute {i : Input} (h : StepOutcome site b i r b' es) (inner : i.isDown = false)
    (other : ∀ trx p, i ≠ .up trx (.tchRtsInd p)) : voiceSent es = [] := by
  refine h.filterMap_eq_nil fun e cause => ?_
  cases cause with
  | voice => exact absurd rfl (other _ _)
  | order => cases inner
  | _ => rfl

/-- What a turn sends for voice, or as an echo on a packet channel, comes from a queue. -/
structure Turn.SendsFromQueue (t : Turn) : Prop where
  /-- A voice primitive has the payload and the marker of the frame of a queue, or no frame. -/
  voice : ∀ d ∈ voiceSent t.events, d.frame = none ∨
    ∃ id f, t.handed? id = some f ∧ d.frame = some (.ofL2 f.payload) ∧ d.marker = f.marker
  /-- An opportunity on a packet timeslot sends nothing, or an empty timing block, or it fetches a
  frame. -/
  echo : ∀ trx p o, t.move = .input (.up trx (.phRtsInd p)) o →
    onPacketSlot t.before trx p.chanNr →
      orders t.events = [] ∨
      isPtcch p.fn.toNat = true ∧ orders t.events =
        [.prim trx (.phDataReq (.request p.chanNr p.linkId p.fn .empty))] ∨
      ∃ id order, t.fetch? id = some order

theorem TchRtsOutcome.sendsFromQueue {p : TchRts}
    {o : (Input.up trx (.tchRtsInd p)).isDown = false} (h : TchRtsOutcome trx p b r b' es) :
    ∀ d ∈ voiceSent es, d.frame = none ∨
      ∃ id f, Turn.handed? id ⟨b, .input (.up trx (.tchRtsInd p)) o, r, es, b'⟩ = some f ∧
        d.frame = some (.ofL2 f.payload) ∧ d.marker = f.marker := by
  cases h with
  | unknownTrx => exact fun _ h => absurd h List.not_mem_nil
  | inactive =>
    intro d hd
    simp [voiceSent, voiceRequest, Event.voiceSent?] at hd
    exact .inl (by rw [hd])
  | @active c j k _ found answer =>
    obtain ⟨found, active⟩ := Bts.findActive?_eq_some.mp found
    obtain ⟨located, known⟩ := Bts.find?_eq_some.mp found
    intro d hd
    simp only [voiceSent, List.filterMap_append, filterMap_voiceEvents, filterMap_downEvents,
      List.mem_append, Option.mem_toList, Option.bind_eq_some_iff] at hd
    rcases hd with ⟨m, -, indicated⟩ | sent
    · cases indicated
    -- the frame goes down that a fetch takes from the front of the queue
    · cases front : k.queue.pop.1 with
      | none =>
        rw [front] at sent
        cases sent
        exact .inl rfl
      | some f =>
        rw [front] at sent
        cases sent
        refine .inr ⟨j, f, ?_, rfl, rfl⟩
        rw [Turn.handed?, Turn.fetch?, known, Option.bind_some, Move.fetch?,
          if_pos ⟨located, active⟩]
        exact front

theorem RtsOutcome.sendsFromQueue {p : PhRts} {o : (Input.up trx (.phRtsInd p)).isDown = false}
    (h : RtsOutcome site trx p b r b' es) (slot : onPacketSlot b trx p.chanNr) :
    orders es = [] ∨
      isPtcch p.fn.toNat = true ∧
        orders es = [.prim trx (.phDataReq (.request p.chanNr p.linkId p.fn .empty))] ∨
      ∃ id order, Turn.fetch? id ⟨b, .input (.up trx (.phRtsInd p)) o, r, es, b'⟩ = some order := by
  cases h with
  | undecodable | unknownTrx | packet => exact .inl rfl
  | @looped a c j k _ _ _ found loop =>
    obtain ⟨found, active⟩ := Bts.findActive?_eq_some.mp found
    obtain ⟨located, known⟩ := Bts.find?_eq_some.mp found
    cases control : isPtcch p.fn.toNat with
    | true => exact .inr (.inl ⟨rfl, by simp [orders, Event.order?, loopedBlock, control]⟩)
    | false =>
      refine .inr (.inr ⟨j, fun f => .prim trx (echoRequest p f), ?_⟩)
      rw [Turn.fetch?, known, Option.bind_some]
      exact if_pos ⟨slot, located, active, loop, control⟩
  | circuit _ carrier circuit => exact absurd slot (not_onPacketSlot carrier circuit)

theorem Turn.Lawful.sendsFromQueue (lawful : t.Lawful site) : t.SendsFromQueue := by
  obtain ⟨before, m, res, events, after⟩ := t
  cases m with
  | write j x =>
    obtain ⟨-, -, quiet⟩ := lawful
    dsimp only at quiet
    subst quiet
    exact ⟨fun _ h => absurd h List.not_mem_nil, fun _ _ _ move => nomatch move⟩
  | input i o =>
    change StepOutcome site before i res after events at lawful
    constructor
    · by_cases voice : ∃ trx p, i = .up trx (.tchRtsInd p)
      · obtain ⟨trx, p, rfl⟩ := voice
        exact lawful.tchRtsOutcome.sendsFromQueue
      · simp only [not_exists] at voice
        intro d hd
        rw [lawful.mute o voice] at hd
        cases hd
    · intro trx p o' move slot
      cases move
      exact lawful.rtsOutcome.sendsFromQueue slot

/-! ### Runs -/

/-- What a history does with the queue `q` of a channel. -/
structure VoiceInOrder (id : LchanId) (ts : List Turn) (q : VoiceQueue) : Prop where
  short : q.frames.length ≤ 1
  /-- What waits is the frame that came in last since the queue was emptied. -/
  waits : ∀ f, f ∈ q.frames ↔ LastAccepted id ts f
  /-- An opportunity hands down the frame that came in last since the queue was emptied. -/
  handed : ∀ pre t post order, ts = pre ++ t :: post → t.fetch? id = some order →
    orders t.events = [order (t.handed? id)] ∧
      ∀ f, t.handed? id = some f ↔ LastAccepted id pre f
  /-- A frame that is handed down came in after all that were removed before. -/
  later : ∀ pre t mid u post f, ts = pre ++ t :: (mid ++ u :: post) → t.Removes id →
    u.handed? id = some f → LastAccepted id mid f
  /-- The frames handed down are among those that came in, in the same order. -/
  once : (ts.filterMap (Turn.handed? id)).Sublist (ts.filterMap (Turn.accepted? id))
  /-- What the voice transport has for a channel in loopback is dropped. -/
  dropped : ∀ t ∈ ts, ∀ f o, t.move = .input (.voiceRx id f) o →
    (t.before.lchan? id).map (·.loopback) = some true →
      t.accepted? id = none ∧ t.after = t.before ∧ t.events = []

/-- What the voice transport has for a channel in loopback is dropped. -/
theorem Turn.Takes.dropped {o : (Input.voiceRx id f).isDown = false} (h : t.Takes site id l l')
    (move : t.move = .input (.voiceRx id f) o) (loop : l.loopback = true) :
    t.accepted? id = none ∧ t.after = t.before ∧ t.events = [] := by
  constructor
  · rw [Turn.accepted?, h.before, Option.bind_some, move]
    refine if_neg fun straight => ?_
    cases straight.2.symm.trans loop
  · obtain ⟨known, -, lawful, -⟩ := h
    obtain ⟨before, m, res, events, last⟩ := t
    dsimp only at move
    subst move
    change StepOutcome site before (.voiceRx id f) res last events at lawful
    dsimp only at known ⊢
    cases lawful with
    | voiceDropped => exact ⟨rfl, rfl⟩
    | voiceRx here =>
      cases here.symm.trans known
      rw [voiceReceived, if_pos loop, Bts.setLchan_self known]
      exact ⟨rfl, rfl⟩

theorem Track.voiceInOrder (track : Track site id l ts l') (empty : l.queue = .withLimit 1) :
    VoiceInOrder id ts l'.queue where
  short := by
    rw [track.waits (x := none) empty]
    cases waiting id none ts <;> simp
  waits f := by
    rw [track.waits (x := none) empty, ← waiting_eq_some, Option.mem_toList]
  handed pre t post order split fetch := by
    subst split
    obtain ⟨k, k', earlier, takes, -⟩ := track.split
    obtain ⟨handed, sent⟩ := takes.handed (earlier.waits (x := none) empty) fetch
    rw [handed]
    exact ⟨sent, fun f => waiting_eq_some⟩
  later pre t mid u post f split removes handed := by
    subst split
    obtain ⟨k, k', earlier, takes, later⟩ := track.split
    have emptied := takes.emptied (earlier.waits (x := none) empty) removes
    obtain ⟨j, j', between, takes', -⟩ := later.split
    obtain ⟨order, fetch, -⟩ := Option.bind_eq_some_iff.mp handed
    rw [(takes'.handed (between.waits (x := none) emptied) fetch).1] at handed
    exact waiting_eq_some.mp handed
  once := track.handed_sublist (x := none) empty
  dropped t ht f o move loop := by
    obtain ⟨pre, post, rfl⟩ := List.append_of_mem ht
    obtain ⟨k, k', -, takes, -⟩ := track.split
    rw [takes.before, Option.map_some, Option.some.injEq] at loop
    exact takes.dropped move loop

/-- Whatever the radio and the parties above do, and in whichever order: the queue of a channel
never holds more than one frame; what an opportunity hands down is the frame that came in last since
the queue was last emptied, unchanged; frames are handed down in the order in which they came in and
none twice; and nothing else goes down for voice or as an echo. -/
theorem voice_sent_once_in_order (site : Site σ φ) (c : Config) (filter : Capture.Filter)
    (services : σ) (phy : φ) (ms : List Move) :
    (∀ id l₀, (Bts.ofConfig c).lchan? id = some l₀ →
      ∃ l, (run site (.fresh c filter services phy) ms).bts.lchan? id = some l ∧
        VoiceInOrder id (history site (.fresh c filter services phy) ms) l.queue) ∧
    ∀ t ∈ history site (.fresh c filter services phy) ms, t.SendsFromQueue := by
  constructor
  · intro id l₀ known
    obtain ⟨l, after, track⟩ := track_history site (w := .fresh c filter services phy) ms known
    obtain ⟨type, rfl⟩ := Bts.lchan?_ofConfig known
    exact ⟨l, after, track.voiceInOrder rfl⟩
  · exact fun t ht => (lawful_of_mem_history ht).sendsFromQueue

/-- Two frames of the voice transport. -/
def earlyFrame : VoiceFrame := ⟨[0xd0], 7, 160, true⟩

def lateFrame : VoiceFrame := ⟨[0xd1], 8, 320, false⟩

/-- Both come in before the first opportunity; two more opportunities follow, one of them in
loopback. -/
def crowdedMoves : List Move := [
  .chanAct 0 0x09 none,
  .up 0 (.mphInfoCnf (.activateCnf ⟨0x09, 0⟩)),
  .voiceRx ⟨0, 1, 0⟩ earlyFrame,
  .voiceRx ⟨0, 1, 0⟩ lateFrame,
  .up 0 (.tchRtsInd ⟨0x09, 4⟩),
  .up 0 (.tchRtsInd ⟨0x09, 8⟩),
  .write ⟨0, 1, 0⟩ (.loopback true),
  .voiceRx ⟨0, 1, 0⟩ earlyFrame,
  .up 0 (.tchInd ⟨0x09, 9, false, some (.ofL2 [0xd2])⟩),
  .up 0 (.tchRtsInd ⟨0x09, 13⟩)]

def crowdedHistory : List Turn := history scriptedSite (scriptedWorld .fresh) crowdedMoves

/-- Of two frames that came in the later one is sent, and then what was looped back. -/
theorem newest_voice_frame_sent :
    crowdedHistory.filterMap (Turn.accepted? ⟨0, 1, 0⟩) =
      [earlyFrame, lateFrame, .looped [0xd2]] ∧
    crowdedHistory.filterMap (Turn.handed? ⟨0, 1, 0⟩) = [lateFrame, .looped [0xd2]] ∧
    [lateFrame, .looped [0xd2]].Sublist [earlyFrame, lateFrame, .looped [0xd2]] := by
  have accepted : crowdedHistory.filterMap (Turn.accepted? ⟨0, 1, 0⟩) =
      [earlyFrame, lateFrame, .looped [0xd2]] := by decide +kernel
  have handed : crowdedHistory.filterMap (Turn.handed? ⟨0, 1, 0⟩) =
      [lateFrame, .looped [0xd2]] := by decide +kernel
  obtain ⟨l, -, order⟩ := (voice_sent_once_in_order scriptedSite scriptedConfig .empty
    ScriptedServices.fresh .accepting crowdedMoves).1 ⟨0, 1, 0⟩ _ rfl
  have once : (crowdedHistory.filterMap (Turn.handed? ⟨0, 1, 0⟩)).Sublist
      (crowdedHistory.filterMap (Turn.accepted? ⟨0, 1, 0⟩)) := order.once
  rw [handed, accepted] at once
  exact ⟨accepted, handed, once⟩

end BaseStation.Bridge
