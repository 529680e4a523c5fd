import BaseStation.Proofs.Bridge.Causes
import BaseStation.Proofs.Bridge.Track
import BaseStation.Proofs.VoiceDuration

/-!
The clock of uplink voice. A channel remembers the frame in which its last voice frame came in, and
each voice frame goes up with the duration since then. Whatever else happens while the channel
relays voice, the durations sent for it are those of its voice frames, and they keep time.
-/

namespace BaseStation

/-- Voice on the channel goes up, and is not sent back. -/
def Lchan.relaysVoice (l : Lchan) : Bool := l.isActive && l.hasRtp && !l.loopback

namespace Bridge

variable {σ φ : Type} {site : Site σ φ} {b b' : Bts} {trx n : UInt8} {id : LchanId}
  {l l' : Lchan} {i : Input} {r : Except Failure Unit} {es : List Event} {t : Turn} {ts : List Turn}

/-! ### What goes up -/

def Event.voiceUp? (id : LchanId) : Event → Option UInt32
  | .call (.voiceUp j v) _ => if j = id then some v.duration else none
  | _ => none

/-- The durations sent with the voice frames of a channel. -/
def durationsSent (id : LchanId) (es : List Event) : List UInt32 :=
  es.filterMap (Event.voiceUp? id)

/-- The frame in which a turn brings in a voice frame of a channel. -/
def Turn.voice? (id : LchanId) (t : Turn) : Option UInt32 := t.move.voice? t.before id

/-- The frames in which the voice frames of a channel come in. -/
def voiceFrames (id : LchanId) (ts : List Turn) : List UInt32 := ts.filterMap (Turn.voice? id)

/-- A turn finds a channel that relays voice. -/
def Turn.Relays (id : LchanId) (t : Turn) : Prop :=
  ((t.before.lchan? id).map Lchan.relaysVoice) = some true

instance (id : LchanId) (t : Turn) : Decidable (t.Relays id) := by
  unfold Turn.Relays
  infer_instance

theorem relaysVoice_iff :
    l.relaysVoice = true ↔ (l.isActive = true ∧ l.hasRtp = true) ∧ l.loopback = false := by
  simp [Lchan.relaysVoice]

/-! ### Inputs that bring in no voice -/

/-- Nothing goes up for a channel without a voice frame of it. -/
theorem StepOutcome.voiceless {o : i.isDown = false} (h : StepOutcome site b i r b' es)
    (silent : (Move.input i o).voice? b id = none) : durationsSent id es = [] := by
  refine h.filterMap_eq_nil fun e cause => ?_
  cases cause with
  | voiceUp located =>
    refine if_neg fun here => ?_
    rw [here] at located
    cases (if_pos located).symm.trans silent
  | _ => rfl

/-! ### The frame of the last voice frame -/

theorem voice?_eq_some {fn : UInt32} (voice : t.voice? id = some fn) : ∃ trx d o,
    t.move = .input (.up trx (.tchInd d)) o ∧ t.before.locate? trx d.chanNr = some id ∧
      d.fn = fn := by
  unfold Turn.voice? Move.voice? at voice
  split at voice
  · obtain ⟨located, frame⟩ := Option.ite_none_right_eq_some.mp voice
    exact ⟨_, _, _, ‹_›, located, Option.some.inj frame⟩
  · cases voice

/-- A voice frame goes up with its duration, and its frame is remembered. -/
theorem Turn.Takes.voiced {fn : UInt32} (h : t.Takes site id l l') (on : l.relaysVoice = true)
    (voice : t.voice? id = some fn) :
    durationsSent id t.events = [voiceDuration fn l.lastFn site.settings.dtxUl] ∧
      l'.lastFn = some fn := by
  obtain ⟨⟨active, rtp⟩, straight⟩ := relaysVoice_iff.mp on
  obtain ⟨trx, d, o, move, located, rfl⟩ := voice?_eq_some voice
  obtain ⟨known, after, lawful, -⟩ := h
  have here : t.before.findActive? trx d.chanNr = some (id, l) :=
    findActive?_of_located known located active
  unfold Turn.Lawful at lawful
  rw [move] at lawful
  obtain ⟨before, m, res, events, last⟩ := t
  dsimp only at located known after lawful here ⊢
  cases lawful.tchOutcome with
  | unknownTrx unknown => exact absurd located (Bts.not_located_of_carrier unknown)
  | inactive _ free => cases free.symm.trans here
  | looped _ found loop =>
    cases found.symm.trans here
    cases loop.symm.trans straight
  | taken _ found =>
    cases found.symm.trans here
    rw [Bts.lchan?_setLchan_self known] at after
    cases after
    refine ⟨?_, rfl⟩
    unfold durationsSent
    rw [filterMap_voiceUpEvents, if_pos rtp]
    simp [Event.voiceUp?]

theorem Write.apply_lastFn (x : Write) (l : Lchan) : (x.apply l).lastFn = l.lastFn := by
  cases x <;> rfl

/-- Without a voice frame the channel remembers the last one for as long as it is active. -/
theorem Turn.Takes.lastFn_kept (h : t.Takes site id l l') (silent : t.voice? id = none) :
    l'.lastFn = l.lastFn ∨ l'.isActive = false := by
  obtain ⟨-, -, -, move⟩ := h
  obtain ⟨before, m, res, events, after⟩ := t
  dsimp only at move
  cases move with
  -- the move that writes the frame number is the one that is ruled out; a release clears it
  | voiceTaken _ _ _ _ frame => cases frame.symm.trans silent
  | released => exact .inr rfl
  | lost =>
    obtain ⟨s, h⟩ := supervised_eq site l true
    exact .inl (by rw [h])
  | shortened =>
    obtain ⟨s, h⟩ := supervised_eq site { l with handover := .none } false
    exact .inl (by rw [h])
  | @accessed _ p =>
    obtain ⟨m, h⟩ := delayStored_eq p l
    exact .inl (by rw [h])
  | @sent _ p _ _ _ _ f =>
    obtain ⟨c, ns, h⟩ := checkDownlink_eq l p.chanNr f.octets
    exact .inl (by rw [h])
  | @received _ d =>
    obtain ⟨c, h⟩ := checkUplink_eq { l with handover := .none } d.chanNr d.frame.l2
    exact .inl (by rw [h])
  | @sacchReceived _ d k _ _ _ _ _ header =>
    obtain ⟨s, hs⟩ := supervised_eq site { l with handover := .none } false
    obtain ⟨c, h⟩ := checkUplink_eq k d.chanNr (sacchMarked d).frame.l2
    refine .inl ?_
    rw [h, header, hs]
    rfl
  | @handover _ p _ _ _ taken =>
    obtain ⟨m, h⟩ := delayStored_eq p l
    rw [h]
    cases taken <;> exact .inl rfl
  | @cipherConfirmed _ c =>
    obtain ⟨k, h⟩ := confirmCipher_eq l c
    exact .inl (by rw [h])
  | @queued f =>
    obtain ⟨q, h⟩ := voiceReceived_eq f l
    exact .inl (by rw [h])
  | requested _ _ type handle =>
    obtain ⟨d, h⟩ := allocated_eq site type handle (activating site type l)
    exact .inl (by rw [h]; rfl)
  | @written x => exact .inl (x.apply_lastFn l)
  | _ => exact .inl rfl

theorem Turn.Takes.voiceless (h : t.Takes site id l l') (silent : t.voice? id = none) :
    durationsSent id t.events = [] := by
  have lawful := h.lawful
  obtain ⟨before, m, res, events, after⟩ := t
  cases m with
  | input i o => exact StepOutcome.voiceless lawful silent
  | write j x =>
    obtain ⟨-, -, quiet⟩ := lawful
    dsimp only at quiet
    rw [quiet]
    rfl

/-! ### Runs -/

theorem relaysVoice_of_relays (known : t.before.lchan? id = some l) (on : t.Relays id) :
    l.relaysVoice = true := by
  unfold Turn.Relays at on
  rw [known] at on
  exact Option.some.inj on

/-- The durations sent for a channel that goes on to relay voice are those of its voice frames. -/
theorem Track.durationsSent_eq (track : Track site id l ts l') (dtx : site.settings.dtxUl = true)
    (on : ∀ t ∈ ts, t.Relays id) :
    durationsSent id (ts.flatMap Turn.events) = durationsFrom l.lastFn (voiceFrames id ts) := by
  induction track with
  | nil => rfl
  | @cons l k l' t ts first rest ih =>
    rw [List.forall_mem_cons] at on
    have relays : l.relaysVoice = true := relaysVoice_of_relays first.before on.1
    have later := ih on.2
    unfold durationsSent voiceFrames at later ⊢
    rw [List.flatMap_cons, List.filterMap_append, later, List.filterMap_cons]
    cases voice : t.voice? id with
    | some fn =>
      obtain ⟨sent, last⟩ := first.voiced relays voice
      unfold durationsSent at sent
      rw [sent, last, dtx]
      rfl
    | none =>
      have quiet : t.events.filterMap (Event.voiceUp? id) = [] := first.voiceless voice
      rw [quiet, List.nil_append]
      rcases first.lastFn_kept voice with kept | ended
      · rw [kept]
      · -- A channel that is no longer active relays no voice, so this is the last turn.
        cases rest with
        | nil => rfl
        | cons next _ =>
          have relays := relaysVoice_of_relays next.before (List.forall_mem_cons.mp on.2).1
          cases ended.symm.trans (relaysVoice_iff.mp relays).1.1

/-- Durations are multiples of that of a voice frame and are computed without an overflow. While a
channel relays voice that the mobile station may leave out, the durations keep time. -/
theorem voice_clock_keeps_time (site : Site σ φ) (id : LchanId) :
    (∀ fn last dtx, 160 ∣ (voiceDuration fn last dtx).toNat) ∧
    (∀ fn last, ExactDuration fn last) ∧
    ∀ (w : World σ φ) (ms : List Move), site.settings.dtxUl = true →
      (∀ t ∈ history site w ms, t.Relays id) → VoiceFrames (voiceFrames id (history site w ms)) →
      KeepsTime (voiceFrames id (history site w ms))
        (durationsSent id ((history site w ms).flatMap Turn.events)) := by
  refine ⟨dvd_voiceDuration, exactDuration, fun w ms dtx on frames => ?_⟩
  cases ms with
  | nil => exact frames.keepsTime none
  | cons m ms =>
    obtain ⟨l, known, -⟩ := Option.map_eq_some_iff.mp (on _ List.mem_cons_self)
    obtain ⟨l', -, track⟩ := track_history site (m :: ms) known
    rw [track.durationsSent_eq dtx on]
    exact frames.keepsTime l.lastFn

/-- The cell where mobile stations may pause between voice frames. -/
def pausingConfig : Config :=
  { scriptedConfig with cell := { scriptedConfig.cell with dtxUl := true } }

def pausingSite : Site ScriptedServices ScriptedPhy :=
  ⟨.ofConfig pausingConfig, ScriptedServices.services, ScriptedPhy.link⟩

/-- A traffic channel with a voice transport. -/
def pausingWorld : World ScriptedServices ScriptedPhy :=
  run pausingSite (.fresh pausingConfig .empty .fresh .accepting) [
    .chanAct 0 0x09 none,
    .up 0 (.mphInfoCnf (.activateCnf ⟨0x09, 0⟩)),
    .write ⟨0, 1, 0⟩ (.hasRtp true)]

/-- Frames of voice, with others left out between them; the frame number starts again at zero. -/
def pausingFrames : List UInt32 := [2715626, 2715643, 4, 17, 1357000]

def pausingMoves : List Move :=
  pausingFrames.map fun fn => .up 0 (.tchInd ⟨0x09, fn, true, none⟩)

theorem voice_clock_keeps_time_around_zero :
    KeepsTime pausingFrames (durationsSent ⟨0, 1, 0⟩
      ((history pausingSite pausingWorld pausingMoves).flatMap Turn.events)) := by
  obtain ⟨-, -, keeps⟩ := voice_clock_keeps_time pausingSite ⟨0, 1, 0⟩
  have taken : voiceFrames ⟨0, 1, 0⟩ (history pausingSite pausingWorld pausingMoves) =
      pausingFrames := by decide +kernel
  -- Decided along the list: the quantifier alone may range over all machine integers.
  have starts : pausingFrames.all (startsBlock ∘ UInt32.toNat) = true := by decide +kernel
  have frames : VoiceFrames pausingFrames := ⟨List.all_eq_true.mp starts, by decide +kernel⟩
  rw [← taken] at frames ⊢
  exact keeps pausingWorld pausingMoves rfl (by decide +kernel) frames

end Bridge
end BaseStation
