import BaseStation.Proofs.Bridge.Track

/-!
What a channel keeps over a release: what the parties above wrote into its record, as far as it has
not gone out, and the power level that was last commanded. It can be told from the moves and the
events alone.
-/

namespace BaseStation.Bridge

variable {σ φ : Type} {site : Site σ φ} {id : LchanId} {l l' : Lchan} {t : Turn} {ts us : List Turn}

/-- The part of a record that a release does not reset and an activation does not set. -/
structure Kept where
  mode : ChannelMode
  msPower : UInt8
  rqdTa : UInt8
  hasRtp : Bool
  loopback : Bool
  pendingRelInd : Option (List UInt8)
  fill : SacchFill
deriving DecidableEq

namespace Kept

def of (l : Lchan) : Kept :=
  ⟨l.mode, l.msPower, l.rqdTa, l.hasRtp, l.loopback, l.pendingRelInd, l.fill⟩

/-- What a channel has that was never used. -/
def initial : Kept := ⟨.signalling, 0, 0, false, false, none, .empty⟩

def write : Write → Kept → Kept
  | .mode m, k => { k with mode := m }
  | .rqdTa ta, k => { k with rqdTa := ta }
  | .hasRtp on, k => { k with hasRtp := on }
  | .txMarker _, k => k
  | .loopback on, k => { k with loopback := on }
  | .pendingRelInd msg, k => { k with pendingRelInd := msg }
  | .setFill t data, k => { k with fill := k.fill.set t data }
  | .clearFill t, k => { k with fill := k.fill.clear t }

end Kept

/-- What the base station does with what a channel keeps. -/
inductive Use where
  | commanded (level : UInt8)
  | indicated
  | filled

def Event.use? (id : LchanId) : Event → Option Use
  | .call (.powerControl j _ _) level => if j = id then level.map .commanded else none
  | .call (.releaseIndication j _) _ => if j = id then some .indicated else none
  | .call (.dequeue j .acch) none => if j = id then some .filled else none
  | _ => none

instance : Aside (Event.use? id) := by constructor <;> intros <;> rfl

/-- What a turn does with what a channel keeps. -/
def Turn.uses (id : LchanId) (t : Turn) : List Use := t.events.filterMap (Event.use? id)

def Turn.written? (id : LchanId) (t : Turn) : Option Write :=
  match t.move with
  | .write j x => if j = id then some x else none
  | .input _ _ => none

namespace Kept

def use (k : Kept) : Use → Kept
  | .commanded level => { k with msPower := level }
  | .indicated => { k with pendingRelInd := none }
  | .filled => { k with fill := k.fill.next.2 }

/-- What is kept after a turn. -/
def after (id : LchanId) (k : Kept) (t : Turn) : Kept :=
  (t.uses id).foldl use ((t.written? id).elim k fun x => k.write x)

end Kept

/-- What a channel keeps of turns that found it never used. -/
def keptAfter (id : LchanId) (ts : List Turn) : Kept := ts.foldl (Kept.after id) .initial

theorem uses_of_subjects {b : Bts} {es : List Event} (quiet : id ∉ subjects b es) :
    es.filterMap (Event.use? id) = [] := by
  refine filterMap_of_quiet (fun e u hu => ?_) quiet
  unfold Event.use? at hu
  split at hu
  · exact congrArg some (Option.ite_none_right_eq_some.mp hu).1
  · exact congrArg some (Option.ite_none_right_eq_some.mp hu).1
  · exact congrArg some (Option.ite_none_right_eq_some.mp hu).1
  · cases hu

theorem written?_of_unreached (unreached : ¬ t.move.Reaches site t.before id l) :
    t.written? id = none := by
  unfold Turn.written?
  split
  · rename_i move
    rw [move] at unreached
    exact if_neg unreached
  · rfl

theorem written?_of_onAir (air : t.move.OnAir) : t.written? id = none := by
  unfold Turn.written?
  split
  · rename_i move
    rw [move] at air
    exact air.elim
  · rfl

/-- A request of RSL writes nothing. -/
theorem written?_of_asked {trx n : UInt8} (asked : t.move.activates trx n ∨ t.move.releases trx n) :
    t.written? id = none := by
  unfold Turn.written?
  obtain ⟨_, _, move⟩ | ⟨_, move⟩ | ⟨_, _, _, move⟩ := Move.asked_cases asked <;> rw [move]

/-! ### Turns -/

theorem kept_of_unused (unused : t.uses id = []) (unwritten : t.written? id = none)
    (same : Kept.of l' = Kept.of l) : Kept.of l' = (Kept.of l).after id t := by
  unfold Kept.after
  rw [unused, unwritten]
  exact same

theorem kept_of_quiet (quiet : id ∉ subjects t.before t.events)
    (unwritten : t.written? id = none) (same : Kept.of l' = Kept.of l) :
    Kept.of l' = (Kept.of l).after id t :=
  kept_of_unused (uses_of_subjects quiet) unwritten same

theorem kept_apply (x : Write) (l : Lchan) : Kept.of (x.apply l) = (Kept.of l).write x := by
  cases x <;> rfl

/-- What a channel keeps can be told from the turn alone. -/
theorem Turn.Takes.kept (h : t.Takes site id l l') : Kept.of l' = (Kept.of l).after id t := by
  obtain ⟨-, -, lawful, move⟩ := h
  obtain ⟨before, m, res, events, after⟩ := t
  dsimp only at move
  cases move with
  -- no event is about the channel, and what changes is not kept
  | keep unreached quiet => exact kept_of_quiet quiet (written?_of_unreached unreached) rfl
  | echoed _ air _ _ quiet => exact kept_of_quiet quiet (written?_of_onAir air) rfl
  | voiceKept _ air _ _ quiet => exact kept_of_quiet quiet (written?_of_onAir air) rfl
  | voiceTaken _ air _ quiet => exact kept_of_quiet quiet (written?_of_onAir air) rfl
  | lost air _ quiet =>
    obtain ⟨s, h⟩ := supervised_eq site l true
    exact kept_of_quiet quiet (written?_of_onAir air) (by rw [h]; rfl)
  | shortened air _ quiet =>
    obtain ⟨s, h⟩ := supervised_eq site { l with handover := .none } false
    exact kept_of_quiet quiet (written?_of_onAir air) (by rw [h]; rfl)
  | @accessed _ p _ _ _ _ quiet =>
    obtain ⟨m, h⟩ := delayStored_eq p l
    exact kept_of_quiet quiet rfl (by rw [h]; rfl)
  -- the block is taken from the rotation
  | @filled _ es air _ quiet =>
    have unused : es.filterMap (Event.use? id) = [] :=
      uses_of_subjects (b := before) (by simp [quiet])
    have uses : Turn.uses id ⟨before, m, res, .call (.dequeue id .acch) none :: es, after⟩ =
        [.filled] := by simp [Turn.uses, Event.use?, unused]
    unfold Kept.after
    rw [uses, written?_of_onAir air]
    rfl
  -- a release indication that waits is sent off with the voice frame
  | @voiced _ es air _ quiet =>
    have unused : es.filterMap (Event.use? id) = [] :=
      uses_of_subjects (b := before) (by simp [quiet])
    unfold Kept.after
    rw [written?_of_onAir air]
    cases hp : l.pendingRelInd with
    | none =>
      have uses : Turn.uses id ⟨before, m, res, voiceEvents id l ++ es, after⟩ = [] := by
        simp [Turn.uses, Event.use?, unused, hp]
      rw [uses]
      simp [Kept.of, hp]
    | some msg =>
      have uses : Turn.uses id ⟨before, m, res, voiceEvents id l ++ es, after⟩ =
          [.indicated] := by
        simp [Turn.uses, Event.use?, unused, hp]
      rw [uses]
      rfl
  | measured air =>
    refine kept_of_unused rfl ?_ rfl
    exact written?_of_onAir air
  | echoKept => exact kept_of_unused rfl rfl rfl
  | @sent _ p _ _ _ _ f =>
    obtain ⟨c, ns, h⟩ := checkDownlink_eq l p.chanNr f.octets
    exact kept_of_unused (by simp [Turn.uses, filterMap_event, Event.use?]) rfl (by rw [h]; rfl)
  | @received _ d =>
    obtain ⟨c, h⟩ := checkUplink_eq { l with handover := .none } d.chanNr d.frame.l2
    exact kept_of_unused (by simp [Turn.uses, Event.use?]) rfl (by rw [h]; rfl)
  -- the header is judged first, and only where it is stored can a level be commanded
  | @sacchReceived _ d k _ _ _ level _ header =>
    obtain ⟨s, hs⟩ := supervised_eq site { l with handover := .none } false
    obtain ⟨c, h⟩ := checkUplink_eq k d.chanNr (sacchMarked d).frame.l2
    unfold Kept.after Turn.uses
    rw [h, header, hs]
    cases hp : (l.meas.storeL1Header (sacchMarked d).frame.l1).2 with
    | none => simp [Event.use?, hp, headerTaken, Turn.written?, Kept.of]
    | some p =>
      cases level <;> simp [Event.use?, hp, headerTaken, Turn.written?, Kept.of, Kept.use]
  | @handover _ p _ _ _ taken =>
    obtain ⟨m, h⟩ := delayStored_eq p l
    rw [h]
    cases taken <;> exact kept_of_unused rfl rfl rfl
  | @activated _ c es _ located quiet =>
    have unused : es.filterMap (Event.use? id) = [] :=
      uses_of_subjects (b := before) (by simp [quiet])
    exact kept_of_unused (by simp [Turn.uses, filterMap_event, Event.use?, unused]) rfl rfl
  | sacchDown => exact kept_of_unused rfl rfl rfl
  | @released _ c es _ located full quiet =>
    have unused : es.filterMap (Event.use? id) = [] :=
      uses_of_subjects (b := before) (by simp [quiet])
    exact kept_of_unused ((filterMap_event _ _ _).trans unused) rfl rfl
  | @cipherConfirmed _ c =>
    obtain ⟨k, h⟩ := confirmCipher_eq l c
    exact kept_of_unused rfl rfl (by rw [h]; rfl)
  | refused asked =>
    exact kept_of_unused (by simp [Turn.uses, Event.use?]) (written?_of_asked (.inl asked)) rfl
  | requested asked located type handle =>
    obtain ⟨d, h⟩ := allocated_eq site type handle (activating site type l)
    exact kept_of_unused (by simp [Turn.uses, Event.use?]) (written?_of_asked (.inl asked))
      (by rw [h]; rfl)
  | releaseAsked asked =>
    exact kept_of_unused (by simp [Turn.uses, Event.use?]) (written?_of_asked (.inr asked)) rfl
  | sacchStopped => exact kept_of_unused (by simp [Turn.uses, Event.use?]) rfl rfl
  | @queued f =>
    obtain ⟨q, h⟩ := voiceReceived_eq f l
    exact kept_of_unused rfl rfl (by rw [h]; rfl)
  | @written x =>
    have written : Turn.written? id ⟨before, .write id x, res, [], after⟩ = some x := if_pos rfl
    unfold Kept.after
    rw [written]
    exact kept_apply x l

/-- What a channel keeps of a run can be told from its turns. -/
theorem Track.kept (h : Track site id l ts l') :
    Kept.of l' = ts.foldl (Kept.after id) (Kept.of l) := by
  induction h with
  | nil => rfl
  | cons first _ ih => rw [ih, first.kept, List.foldl_cons]

end BaseStation.Bridge
