import BaseStation.Proofs.Bridge.Causes
import BaseStation.Proofs.PacketMode
import Mathlib.Data.List.Induction

/-!
The account of the switches of a timeslot into and out of packet mode. A switch that was accepted
is under way until the radio confirms the activation or the release that it began with, and is then
reported once. All that is kept of it until then is one flag of the timeslot.
-/

namespace BaseStation

/-! ### The standing of a timeslot -/

namespace Bts

variable {b : Bts} {trx tn u m : UInt8} {id : LchanId} {l : Lchan} {k : Timeslot}

/-- The configuration of a timeslot and its flags. -/
def standing (b : Bts) (trx tn : UInt8) : Option (Pchan × SlotFlags) :=
  (b.slot? trx tn).map fun k => (k.pchan, k.flags)

theorem standing_of_slot? (slot : b.slot? trx tn = some k) :
    b.standing trx tn = some (k.pchan, k.flags) := by
  unfold standing
  rw [slot, Option.map_some]

theorem standing_modifySlot {f : Timeslot → Timeslot} : (b.modifySlot u m f).standing trx tn =
    if u = trx ∧ m = tn then (b.slot? trx tn).map fun k => ((f k).pchan, (f k).flags)
    else b.standing trx tn := by
  unfold standing
  rw [slot?_modifySlot]
  split
  · rw [Option.map_map]
    rfl
  · rfl

/-- The channels have no part in the standing of their timeslot. -/
@[simp] theorem standing_setLchan : (b.setLchan id l).standing = b.standing := by
  funext trx tn
  unfold setLchan modifyLchan
  rw [standing_modifySlot, ite_eq_right_iff]
  exact fun _ => rfl

/-- Nor have the counters and the time. -/
theorem standing_congr {b' : Bts} (same : b'.carriers = b.carriers) : b'.standing = b.standing := by
  funext trx tn
  unfold standing slot? carrier?
  rw [same]

end Bts

namespace Bridge

variable {σ φ : Type} {site : Site σ φ} {b b' : Bts} {trx tn u m n : UInt8} {id : LchanId}
  {l : Lchan} {k k' : Timeslot} {r : Except Failure Unit} {es : List Event} {t : Turn}
  {ts : List Turn} {p : Pchan} {f f' : SlotFlags}

@[simp] theorem standing_busyCounted {q : PhRach} : (busyCounted q b).standing = b.standing := by
  obtain ⟨load, counted⟩ := busyCounted_eq (b := b) q
  rw [counted]
  exact Bts.standing_congr rfl

@[simp] theorem standing_accessCounted : (accessCounted b).standing = b.standing :=
  Bts.standing_congr rfl

@[simp] theorem standing_delayKept {q : PhRach} : (delayKept trx q b).standing = b.standing := by
  unfold delayKept
  split
  · exact Bts.standing_setLchan
  · rfl

@[simp] theorem standing_timed {fn : UInt32} : (timed site fn b).standing = b.standing :=
  Bts.standing_congr rfl

/-! ### The ends of switches -/

/-- What ends a switch: RSL is told of it and, before that, the radio tears the timeslot down at a
switch out of packet mode. -/
inductive SwitchEnd where
  | reported (ok : Bool)
  | tornDown (answer : Except PhyError Unit)

def SwitchEnd.isReport : SwitchEnd → Bool
  | reported _ => true
  | tornDown _ => false

def Event.switchEnd? (trx tn : UInt8) : Event → Option SwitchEnd
  | .call (.switchDone u m ok) _ => if u = trx ∧ m = tn then some (.reported ok) else none
  | .disconnect u m a => if u = trx ∧ m = tn then some (.tornDown a) else none
  | _ => none

/-- The reports on switches of a timeslot and its teardowns, in the order they were made. -/
def switchEnds (trx tn : UInt8) (es : List Event) : List SwitchEnd :=
  es.filterMap (Event.switchEnd? trx tn)

/-! ### What a turn does to a switch -/

/-- The direction of a switch of the timeslot that the turn has accepted. -/
def Turn.acceptedSwitch? (trx tn : UInt8) (t : Turn) : Option Bool :=
  match t.move, t.result with
  | .input (.pdchSwitch u m toPdch) _, .ok () => if u = trx ∧ m = tn then some toPdch else none
  | _, _ => none

/-- What a turn does to the flags of a timeslot: at most a switch begins or ends. -/
inductive SwitchTurn (trx tn : UInt8) (t : Turn) (f : SlotFlags) : SlotFlags → Prop
  | keep (unasked : t.acceptedSwitch? trx tn = none) (quiet : switchEnds trx tn t.events = []) :
    SwitchTurn trx tn t f f
  | begun (asked : t.acceptedSwitch? trx tn = some true)
      (quiet : switchEnds trx tn t.events = []) (idle : f.pending = false) :
    SwitchTurn trx tn t f { f with actPending := true }
  | endBegun (asked : t.acceptedSwitch? trx tn = some false)
      (quiet : switchEnds trx tn t.events = []) (idle : f.pending = false) :
    SwitchTurn trx tn t f { f with deactPending := true }
  /-- The switch into packet mode ends. -/
  | entered (ok : Bool) (unasked : t.acceptedSwitch? trx tn = none)
      (told : switchEnds trx tn t.events = [.reported ok]) (pending : f.actPending = true) :
    SwitchTurn trx tn t f { f with actPending := false, active := f.active || ok }
  /-- The switch out of packet mode ends. -/
  | left (answer : Except PhyError Unit) (unasked : t.acceptedSwitch? trx tn = none)
      (told : switchEnds trx tn t.events = [.tornDown answer, .reported answer.toBool])
      (pending : f.deactPending = true) :
    SwitchTurn trx tn t f { f.settle with active := false }

/-! ### Confirms -/

section Confirms

variable {type : LchanType} {ok : Bool}

theorem switched_afterActivation : (afterActivation k type ok).2 =
    (k.pchan == .tchFPdch && k.flags.actPending) := by
  unfold afterActivation
  dsimp only
  split <;> split <;> simp_all

theorem pchan_afterActivation : (afterActivation k type ok).1.pchan = k.pchan := by
  unfold afterActivation
  dsimp only
  split <;> split <;> rfl

theorem flags_afterActivation : (afterActivation k type ok).1.flags =
    if (afterActivation k type ok).2 then
      { k.flags with actPending := false, active := k.flags.active || ok }
    else k.flags := by
  unfold afterActivation
  dsimp only
  split <;> split <;> rfl

theorem switched_afterRelease : (afterRelease k).2 =
    (k.pchan == .tchFPdch && k.flags.deactPending) := by
  unfold afterRelease
  dsimp only
  split <;> split <;> simp_all

theorem pchan_afterRelease : (afterRelease k).1.pchan = k.pchan := by
  unfold afterRelease
  dsimp only
  split <;> split <;> rfl

theorem flags_afterRelease : (afterRelease k).1.flags =
    if (afterRelease k).2 then { k.flags.settle with active := false } else k.flags := by
  unfold afterRelease
  dsimp only
  split <;> split <;> rfl

end Confirms

section Slots

variable {c : Carrier} (carrier : b.carrier? trx = some c)
  (before : b.standing trx (chanTn n) = some (p, f))
include carrier before

theorem standing_slotOf : (c.slotOf n).pchan = p ∧ (c.slotOf n).flags = f := by
  rwa [Bts.standing_of_slot? (Bts.slot?_slotOf carrier), Option.some.injEq,
    Prod.mk.injEq] at before

theorem standing_activated {type : LchanType} {ok : Bool} :
    ((b.setLchan id l).modifySlot trx (chanTn n) fun t => (afterActivation t type ok).1).standing
      trx (chanTn n) = some (p, if (afterActivation (c.slotOf n) type ok).2 then
        { f with actPending := false, active := f.active || ok } else f) := by
  obtain ⟨rfl, rfl⟩ := standing_slotOf carrier before
  obtain ⟨ls, slot⟩ : ∃ ls, (b.setLchan id l).slot? trx (chanTn n) =
      some { c.slotOf n with lchans := ls } := Bts.slot?_setLchan (Bts.slot?_slotOf carrier)
  rw [Bts.standing_modifySlot, if_pos ⟨rfl, rfl⟩, slot, Option.map_some, pchan_afterActivation,
    flags_afterActivation, switched_afterActivation, switched_afterActivation]

theorem standing_released :
    ((b.setLchan id l).modifySlot trx (chanTn n) fun t => (afterRelease t).1).standing
      trx (chanTn n) = some (p, if (afterRelease (c.slotOf n)).2 then
        { f.settle with active := false } else f) := by
  obtain ⟨rfl, rfl⟩ := standing_slotOf carrier before
  obtain ⟨ls, slot⟩ : ∃ ls, (b.setLchan id l).slot? trx (chanTn n) =
      some { c.slotOf n with lchans := ls } := Bts.slot?_setLchan (Bts.slot?_slotOf carrier)
  rw [Bts.standing_modifySlot, if_pos ⟨rfl, rfl⟩, slot, Option.map_some, pchan_afterRelease,
    flags_afterRelease, switched_afterRelease, switched_afterRelease]

end Slots

theorem standing_elsewhere {g : Timeslot → Timeslot} (elsewhere : ¬ (u = trx ∧ m = tn)) :
    ((b.setLchan id l).modifySlot u m g).standing trx tn = b.standing trx tn := by
  rw [Bts.standing_modifySlot, if_neg elsewhere, Bts.standing_setLchan]

theorem ActivateCnfOutcome.switchEnd {c : ActConfirm} (h : ActivateCnfOutcome u c b r b' es)
    (before : b.standing trx tn = some (p, f)) :
    (b'.standing trx tn = some (p, f) ∧ switchEnds trx tn es = []) ∨
      ∃ ok, f.actPending = true ∧ switchEnds trx tn es = [.reported ok] ∧
        b'.standing trx tn =
          some (p, { f with actPending := false, active := f.active || ok }) := by
  cases h with
  | unknownTrx => exact .inl ⟨before, rfl⟩
  | unknownLchan => exact .inl ⟨before, rfl⟩
  | @confirmed k id l carrier found =>
    by_cases here : u = trx ∧ chanTn c.chanNr = tn
    · obtain ⟨rfl, rfl⟩ := here
      rw [standing_activated carrier before]
      cases switched : (afterActivation (k.slotOf c.chanNr) l.type (c.cause == 0)).2 with
      | false => exact .inl ⟨rfl, rfl⟩
      | true =>
        rw [switched_afterActivation, (standing_slotOf carrier before).2,
          Bool.and_eq_true] at switched
        refine .inr ⟨c.cause == 0, switched.2, ?_, rfl⟩
        simp [switchEnds, filterMap_event, Event.switchEnd?]
    · refine .inl ⟨(standing_elsewhere here).trans before, ?_⟩
      split <;> simp [switchEnds, filterMap_event, Event.switchEnd?, here]

theorem DeactivateCnfOutcome.switchEnd {c : ActConfirm} (h : DeactivateCnfOutcome u c b r b' es)
    (before : b.standing trx tn = some (p, f)) :
    (b'.standing trx tn = some (p, f) ∧ switchEnds trx tn es = []) ∨
      ∃ a, f.deactPending = true ∧ switchEnds trx tn es = [.tornDown a, .reported a.toBool] ∧
        b'.standing trx tn = some (p, { f.settle with active := false }) := by
  cases h with
  | unknownTrx => exact .inl ⟨before, rfl⟩
  | unknownLchan => exact .inl ⟨before, rfl⟩
  | sacchOnly => exact .inl ⟨before, rfl⟩
  | released carrier _ _ same =>
    refine .inl ⟨?_, by simp [switchEnds, filterMap_event, Event.switchEnd?]⟩
    by_cases here : u = trx ∧ chanTn c.chanNr = tn
    · obtain ⟨rfl, rfl⟩ := here
      rw [standing_released carrier before, same, if_neg Bool.false_ne_true]
    · exact (standing_elsewhere here).trans before
  | switched carrier _ _ switched answer =>
    by_cases here : u = trx ∧ chanTn c.chanNr = tn
    · obtain ⟨rfl, rfl⟩ := here
      rw [standing_released carrier before, if_pos switched]
      rw [switched_afterRelease, (standing_slotOf carrier before).2,
        Bool.and_eq_true] at switched
      refine .inr ⟨answer, switched.2, ?_, rfl⟩
      simp [switchEnds, filterMap_event, Event.switchEnd?]
    · refine .inl ⟨(standing_elsewhere here).trans before, ?_⟩
      simp [switchEnds, filterMap_event, Event.switchEnd?, here]

/-! ### Other inputs -/

/-- The radio confirms an activation or a deactivation. -/
def Input.isConfirm : Input → Bool
  | up _ (.mphInfoCnf (.activateCnf _)) | up _ (.mphInfoCnf (.deactivateCnf _)) => true
  | _ => false

/-- The input begins a switch, or may end one. -/
def Input.movesSwitch : Input → Bool
  | pdchSwitch .. => true
  | i => i.isConfirm

theorem Input.movesSwitch_eq_true {i : Input} : i.movesSwitch = true ↔
    (∃ u m toPdch, i = .pdchSwitch u m toPdch) ∨
      (∃ u c, i = .up u (.mphInfoCnf (.activateCnf c))) ∨
      ∃ u c, i = .up u (.mphInfoCnf (.deactivateCnf c)) := by
  constructor
  · intro moves
    unfold movesSwitch isConfirm at moves
    split at moves
    · exact .inl ⟨_, _, _, rfl⟩
    · split at moves
      · exact .inr (.inl ⟨_, _, rfl⟩)
      · exact .inr (.inr ⟨_, _, rfl⟩)
      · cases moves
  · rintro (⟨_, _, _, rfl⟩ | ⟨_, _, rfl⟩ | ⟨_, _, rfl⟩) <;> rfl

/-- Only a confirm ends a switch. -/
theorem StepOutcome.switchEnds_eq {i : Input} (h : StepOutcome site b i r b' es)
    (other : i.isConfirm = false) : switchEnds trx tn es = [] := by
  refine h.filterMap_eq_nil fun e cause => ?_
  cases cause with
  | entered | left | tornDown => cases other
  | _ => rfl

theorem ChanActOutcome.standing_eq {tsc : Option UInt8}
    (h : ChanActOutcome site trx n tsc b r b' es) : b'.standing = b.standing := by
  obtain ⟨rfl, -⟩ | ⟨_, _, _, _, -, -, -, rfl⟩ := h.left
  · rfl
  · exact Bts.standing_setLchan

theorem ChanRelOutcome.standing_eq (h : ChanRelOutcome trx n b r b' es) :
    b'.standing = b.standing := by
  obtain ⟨rfl, -⟩ | ⟨_, _, -, rfl⟩ := h.left
  · rfl
  · exact Bts.standing_setLchan

theorem CircuitBlock.standing_eq {q : PhRts} {kind : ChanKind} {frame : Frame}
    {request : Option CipherRequest} (block : CircuitBlock site trx q b kind frame request b' es) :
    b'.standing = b.standing := by
  cases block <;> simp

/-- The configuration and the flags of the timeslots are touched by switches and confirms alone. -/
theorem StepOutcome.standing_eq {i : Input} (h : StepOutcome site b i r b' es)
    (other : i.movesSwitch = false) : b'.standing = b.standing := by
  cases h with
  | activateCnf | deactivateCnf | pdchSwitch => cases other
  | chanAct outcome => exact outcome.standing_eq
  | chanRel outcome => exact outcome.standing_eq
  | rts outcome =>
    cases outcome with
    | circuit _ _ _ block => exact block.standing_eq
    | _ => simp
  | time outcome | measured outcome | cipherCnf outcome | tchRts outcome | data outcome
  | tch outcome | rach outcome | chanDeactSacch outcome => cases outcome <;> simp
  | _ => simp

/-! ### The begin of a switch -/

theorem standing_begun (slot : b.slot? u m = some k) :
    (b.modifySlot u m fun _ => k').standing trx tn =
      if u = trx ∧ m = tn then some (k'.pchan, k'.flags) else b.standing trx tn := by
  rw [Bts.standing_modifySlot]
  split
  · rename_i here
    rw [← here.1, ← here.2, slot, Option.map_some]
  · rfl

theorem standing_settled : (settled u m b).standing trx tn =
    if u = trx ∧ m = tn then (b.standing trx tn).map fun q => (q.1, q.2.settle)
    else b.standing trx tn := by
  unfold settled
  rw [Bts.standing_modifySlot]
  unfold Bts.standing
  rw [Option.map_map]
  rfl

/-- A switch that is given up leaves the standing of all timeslots as it was. -/
theorem standing_givenUp (slot : b.slot? u m = some k)
    (restored : { k' with flags := k'.flags.settle } = k)
    (same : b'.standing = (b.modifySlot u m fun _ => k').standing) :
    (settled u m b').standing = b.standing := by
  funext trx tn
  rw [standing_settled, same, standing_begun slot]
  split
  · rename_i here
    rw [Option.map_some, ← here.1, ← here.2, Bts.standing_of_slot? slot, ← restored]
  · rfl

/-- A switch that ends with an error leaves no mark on the timeslots. -/
theorem PdchSwitchOutcome.failed {toPdch : Bool}
    (h : PdchSwitchOutcome site u m b toPdch r b' es) (failed : r ≠ .ok ()) :
    b'.standing = b.standing := by
  cases h with
  | unknownTrx | refused => rfl
  | givenUp slot begun inner =>
    exact standing_givenUp slot (settle_beginPdchAct begun) inner.standing_eq
  | endGivenUp slot begun inner =>
    exact standing_givenUp slot (settle_beginPdchDeact begun) inner.standing_eq
  | _ => exact absurd rfl failed

/-- A switch that is accepted begins: none is under way, and then the one. -/
theorem PdchSwitchOutcome.accepted {toPdch : Bool}
    (h : PdchSwitchOutcome site u m b toPdch (.ok ()) b' es) :
    ∃ k, b.slot? u m = some k ∧ k.flags.pending = false ∧
      (∀ trx tn, switchEnds trx tn es = []) ∧
      ∀ trx tn, b'.standing trx tn = if u = trx ∧ m = tn then
        some (k.pchan, if toPdch then { k.flags with actPending := true }
          else { k.flags with deactPending := true })
        else b.standing trx tn := by
  have quiet : ∀ trx tn, switchEnds trx tn es = [] :=
    fun _ _ => (StepOutcome.pdchSwitch h).switchEnds_eq rfl
  cases h with
  | begun slot begun inner =>
    obtain ⟨⟨-, idle⟩, rfl⟩ := beginPdchAct?_eq_some.mp begun
    refine ⟨_, slot, idle, quiet, fun trx tn => ?_⟩
    rw [inner.standing_eq, standing_begun slot]
    rfl
  | endBegun slot begun inner =>
    obtain ⟨⟨-, idle, -⟩, rfl⟩ := beginPdchDeact?_eq_some.mp begun
    refine ⟨_, slot, idle, quiet, fun trx tn => ?_⟩
    rw [inner.standing_eq, standing_begun slot]
    rfl

/-! ### Refusals -/

theorem beginSwitch?_eq_none {toPdch : Bool} : k.beginSwitch? toPdch = none ↔
    k.flags.pending = true ∨ k.pchan ≠ .tchFPdch ∨ toPdch = false ∧ k.flags.active = false := by
  unfold Timeslot.beginSwitch? Timeslot.beginPdchAct? Timeslot.beginPdchDeact?
  cases toPdch <;> cases k.flags.pending <;> cases k.flags.active <;> simp

/-- An activation fails for reasons of its own. -/
theorem ChanActOutcome.not_switchRefused {tsc : Option UInt8}
    (h : ChanActOutcome site trx n tsc b r b' es) :
    r ≠ .error (.refused (.pdchSwitchRefused u m)) := by
  cases h <;> simp

theorem ChanRelOutcome.not_switchRefused (h : ChanRelOutcome trx n b r b' es) :
    r ≠ .error (.refused (.pdchSwitchRefused u m)) := by
  cases h with
  | requested _ _ answer => cases answer <;> simp [downResult, Except.mapError]
  | _ => simp

theorem PdchSwitchOutcome.refused_iff {toPdch : Bool}
    (h : PdchSwitchOutcome site u m b toPdch r b' es) (slot : b.slot? u m = some k) :
    r = .error (.refused (.pdchSwitchRefused u m)) ↔
      k.flags.pending = true ∨ k.pchan ≠ .tchFPdch ∨ toPdch = false ∧ k.flags.active = false := by
  rw [← beginSwitch?_eq_none]
  -- a switch that was begun is not refused, however it goes on
  have free {k₁ k₂ : Timeslot} (slot' : b.slot? u m = some k₁)
      (begun : k₁.beginSwitch? toPdch = some k₂) : k.beginSwitch? toPdch ≠ none := by
    rw [slot, Option.some.injEq] at slot'
    rw [slot', begun]
    exact Option.some_ne_none _
  cases h with
  | unknownTrx unknown => simp [Bts.slot?, unknown] at slot
  | refused _ busy =>
    rw [slot, Option.bind_some] at busy
    exact iff_of_true rfl busy
  | begun slot' begun inner => exact iff_of_false inner.not_switchRefused (free slot' begun)
  | givenUp slot' begun inner => exact iff_of_false inner.not_switchRefused (free slot' begun)
  | endBegun slot' begun inner => exact iff_of_false inner.not_switchRefused (free slot' begun)
  | endGivenUp slot' begun inner => exact iff_of_false inner.not_switchRefused (free slot' begun)

/-! ### All turns -/

theorem PdchSwitchOutcome.switchTurn {toPdch : Bool}
    {o : (Input.pdchSwitch u m toPdch).isDown = false}
    (h : PdchSwitchOutcome site u m b toPdch r b' es) (before : b.standing trx tn = some (p, f)) :
    ∃ f', b'.standing trx tn = some (p, f') ∧
      SwitchTurn trx tn ⟨b, .input (.pdchSwitch u m toPdch) o, r, es, b'⟩ f f' := by
  rcases r with e | ⟨⟩
  · have quiet : switchEnds trx tn es = [] := (StepOutcome.pdchSwitch h).switchEnds_eq rfl
    exact ⟨f, by rw [h.failed (by simp), before], .keep rfl quiet⟩
  · obtain ⟨k, slot, idle, quiet, after⟩ := h.accepted
    have after := after trx tn
    by_cases here : u = trx ∧ m = tn
    · rw [if_pos here] at after
      obtain ⟨rfl, rfl⟩ := here
      rw [Bts.standing_of_slot? slot, Option.some.injEq, Prod.mk.injEq] at before
      obtain ⟨rfl, rfl⟩ := before
      have asked : Turn.acceptedSwitch? u m
          ⟨b, .input (.pdchSwitch u m toPdch) o, .ok (), es, b'⟩ = some toPdch :=
        if_pos ⟨rfl, rfl⟩
      refine ⟨_, after, ?_⟩
      cases toPdch with
      | true => exact .begun asked (quiet u m) idle
      | false => exact .endBegun asked (quiet u m) idle
    · rw [if_neg here, before] at after
      exact ⟨f, after, .keep (if_neg here) (quiet trx tn)⟩

theorem acceptedSwitch?_of_other
    (other : ∀ u m toPdch o, t.move ≠ .input (.pdchSwitch u m toPdch) o) :
    t.acceptedSwitch? trx tn = none := by
  unfold Turn.acceptedSwitch?
  split
  · exact absurd ‹_› (other _ _ _ _)
  · rfl

theorem StepOutcome.switchTurn {i : Input} {o : i.isDown = false}
    (h : StepOutcome site b i r b' es) (before : b.standing trx tn = some (p, f)) :
    ∃ f', b'.standing trx tn = some (p, f') ∧
      SwitchTurn trx tn ⟨b, .input i o, r, es, b'⟩ f f' := by
  by_cases moves : i.movesSwitch = true
  · obtain ⟨u, m, toPdch, rfl⟩ | ⟨u, c, rfl⟩ | ⟨u, c, rfl⟩ := Input.movesSwitch_eq_true.mp moves
    · cases h with
      | pdchSwitch outcome => exact outcome.switchTurn before
    · obtain ⟨after, quiet⟩ | ⟨ok, pending, told, after⟩ := h.activateCnfOutcome.switchEnd before
      · exact ⟨f, after, .keep rfl quiet⟩
      · exact ⟨_, after, .entered ok rfl told pending⟩
    · obtain ⟨after, quiet⟩ | ⟨answer, pending, told, after⟩ :=
        h.deactivateCnfOutcome.switchEnd before
      · exact ⟨f, after, .keep rfl quiet⟩
      · exact ⟨_, after, .left answer rfl told pending⟩
  · -- nothing else begins a switch or ends one, nor writes the flags of a timeslot
    rw [Bool.not_eq_true] at moves
    have unconfirmed : i.isConfirm = false := by
      unfold Input.movesSwitch at moves
      split at moves
      · cases moves
      · exact moves
    have unasked : Turn.acceptedSwitch? trx tn ⟨b, .input i o, r, es, b'⟩ = none := by
      refine acceptedSwitch?_of_other fun u m toPdch o same => ?_
      cases same
      cases moves
    exact ⟨f, by rw [h.standing_eq moves, before], .keep unasked (h.switchEnds_eq unconfirmed)⟩

theorem Turn.Lawful.switchTurn (lawful : t.Lawful site)
    (before : t.before.standing trx tn = some (p, f)) :
    ∃ f', t.after.standing trx tn = some (p, f') ∧ SwitchTurn trx tn t f f' := by
  obtain ⟨start, move, r, es, after⟩ := t
  cases move with
  | input i o => exact StepOutcome.switchTurn lawful before
  | write id x =>
    obtain ⟨-, written, quiet⟩ := lawful
    dsimp only at written quiet before ⊢
    subst written quiet
    refine ⟨f, ?_, .keep rfl rfl⟩
    unfold Bts.modifyLchan
    rw [Bts.standing_modifySlot]
    split
    · exact before
    · exact before

/-! ### Runs -/

/-- The directions of the switches of a timeslot that were accepted. -/
def switchesAccepted (trx tn : UInt8) (ts : List Turn) : List Bool :=
  ts.filterMap (Turn.acceptedSwitch? trx tn)

/-- The number of reports on switches of a timeslot that RSL got. -/
def switchesReported (trx tn : UInt8) (ts : List Turn) : Nat :=
  (ts.flatMap fun t => switchEnds trx tn t.events).countP (·.isReport)

/-- The number of times that the radio was asked to tear a timeslot down. -/
def teardowns (trx tn : UInt8) (ts : List Turn) : Nat :=
  (ts.flatMap fun t => switchEnds trx tn t.events).countP (!·.isReport)

theorem switchesAccepted_snoc : switchesAccepted trx tn (ts ++ [t]) =
    switchesAccepted trx tn ts ++ (t.acceptedSwitch? trx tn).toList := by
  unfold switchesAccepted
  rw [List.filterMap_append, List.filterMap_cons]
  cases t.acceptedSwitch? trx tn <;> rfl

theorem switchesReported_snoc : switchesReported trx tn (ts ++ [t]) =
    switchesReported trx tn ts + (switchEnds trx tn t.events).countP (·.isReport) := by
  unfold switchesReported
  rw [List.flatMap_append, List.countP_append, List.flatMap_singleton]

theorem teardowns_snoc : teardowns trx tn (ts ++ [t]) =
    teardowns trx tn ts + (switchEnds trx tn t.events).countP (!·.isReport) := by
  unfold teardowns
  rw [List.flatMap_append, List.countP_append, List.flatMap_singleton]

/-- The switches of a timeslot that were accepted and what came of them, where `f` are the flags of
the timeslot now. -/
structure SwitchAccount (trx tn : UInt8) (ts : List Turn) (f : SlotFlags) : Prop where
  /-- At most one switch is under way. -/
  apart : ¬ (f.actPending = true ∧ f.deactPending = true)
  /-- All switches were reported but the one under way. -/
  reported : (switchesAccepted trx tn ts).length = switchesReported trx tn ts + f.pending.toNat
  /-- With each switch out of packet mode but the one under way the timeslot was torn down. -/
  tornDown : (switchesAccepted trx tn ts).count false = teardowns trx tn ts + f.deactPending.toNat

theorem switchAccount_nil : SwitchAccount trx tn [] .none :=
  ⟨by simp [SlotFlags.none], rfl, rfl⟩

theorem SwitchAccount.snoc (h : SwitchAccount trx tn ts f) (turn : SwitchTurn trx tn t f f') :
    SwitchAccount trx tn (ts ++ [t]) f' := by
  obtain ⟨apart, reported, tornDown⟩ := h
  cases turn with
  | keep unasked quiet =>
    refine ⟨apart, ?_, ?_⟩
    · rw [switchesAccepted_snoc, switchesReported_snoc, unasked, quiet]
      simpa using reported
    · rw [switchesAccepted_snoc, teardowns_snoc, unasked, quiet]
      simpa using tornDown
  | begun asked quiet idle =>
    rw [idle] at reported
    simp only [SlotFlags.pending, Bool.or_eq_false_iff] at idle
    refine ⟨by simp [idle.2], ?_, ?_⟩
    · rw [switchesAccepted_snoc, switchesReported_snoc, asked, quiet]
      simpa [SlotFlags.pending] using reported
    · rw [switchesAccepted_snoc, teardowns_snoc, asked, quiet]
      simpa using tornDown
  | endBegun asked quiet idle =>
    rw [idle] at reported
    simp only [SlotFlags.pending, Bool.or_eq_false_iff] at idle
    rw [idle.2] at tornDown
    refine ⟨by simp [idle.1], ?_, ?_⟩
    · rw [switchesAccepted_snoc, switchesReported_snoc, asked, quiet]
      simpa [SlotFlags.pending] using reported
    · rw [switchesAccepted_snoc, teardowns_snoc, asked, quiet]
      simpa using tornDown
  | entered ok unasked told pending =>
    -- the switch under way is the one into packet mode, as there is only one
    have idle : f.deactPending = false := by simpa [pending] using apart
    refine ⟨by simp, ?_, ?_⟩
    · rw [switchesAccepted_snoc, switchesReported_snoc, unasked, told]
      simpa [SlotFlags.pending, pending, idle, SwitchEnd.isReport] using reported
    · rw [switchesAccepted_snoc, teardowns_snoc, unasked, told]
      simpa [SwitchEnd.isReport] using tornDown
  | left answer unasked told pending =>
    refine ⟨by simp [SlotFlags.settle], ?_, ?_⟩
    · rw [switchesAccepted_snoc, switchesReported_snoc, unasked, told]
      simpa [SlotFlags.pending, SlotFlags.settle, pending, SwitchEnd.isReport,
        List.countP_cons] using reported
    · rw [switchesAccepted_snoc, teardowns_snoc, unasked, told]
      simpa [SlotFlags.settle, pending, SwitchEnd.isReport, List.countP_cons] using tornDown

/-- A turn at a timeslot that is `k` before and `k'` after it. -/
structure SwitchedRightly (trx tn : UInt8) (t : Turn) (k k' : Timeslot) : Prop where
  /-- When a switch is refused. -/
  refused : ∀ toPdch o, t.move = .input (.pdchSwitch trx tn toPdch) o →
    (t.result = .error (.refused (.pdchSwitchRefused trx tn)) ↔
      k.flags.pending = true ∨ k.pchan ≠ .tchFPdch ∨ toPdch = false ∧ k.flags.active = false)
  /-- A switch that ends with an error leaves the flags as they were. -/
  failed : ∀ toPdch o, t.move = .input (.pdchSwitch trx tn toPdch) o → t.result ≠ .ok () →
    k'.flags = k.flags
  /-- At most the switch under way ends, and it ends once: the one out of packet mode is reported
  with the answer to the teardown. -/
  ends : switchEnds trx tn t.events = [] ∨
    (k.flags.actPending = true ∧ ∃ ok, switchEnds trx tn t.events = [.reported ok]) ∨
    (k.flags.deactPending = true ∧ ∃ answer,
      switchEnds trx tn t.events = [.tornDown answer, .reported answer.toBool])

theorem SwitchTurn.ends (turn : SwitchTurn trx tn t f f') : switchEnds trx tn t.events = [] ∨
    (f.actPending = true ∧ ∃ ok, switchEnds trx tn t.events = [.reported ok]) ∨
    (f.deactPending = true ∧ ∃ answer,
      switchEnds trx tn t.events = [.tornDown answer, .reported answer.toBool]) := by
  cases turn with
  | keep _ quiet => exact .inl quiet
  | begun _ quiet => exact .inl quiet
  | endBegun _ quiet => exact .inl quiet
  | entered ok _ told pending => exact .inr (.inl ⟨pending, ok, told⟩)
  | left answer _ told pending => exact .inr (.inr ⟨pending, answer, told⟩)

theorem slot?_of_standing (h : b.standing trx tn = some (p, f)) :
    ∃ k, b.slot? trx tn = some k ∧ k.pchan = p ∧ k.flags = f := by
  obtain ⟨k, slot, standing⟩ := Option.map_eq_some_iff.mp h
  rw [Prod.mk.injEq] at standing
  exact ⟨k, slot, standing⟩

theorem Turn.Lawful.switchedRightly (lawful : t.Lawful site)
    (slot : t.before.slot? trx tn = some k) :
    ∃ k', t.after.slot? trx tn = some k' ∧ SwitchTurn trx tn t k.flags k'.flags ∧
      SwitchedRightly trx tn t k k' := by
  obtain ⟨f', after, turn⟩ := lawful.switchTurn (Bts.standing_of_slot? slot)
  obtain ⟨k', slot', -, rfl⟩ := slot?_of_standing after
  have asked {toPdch o} (move : t.move = .input (.pdchSwitch trx tn toPdch) o) :
      PdchSwitchOutcome site trx tn t.before toPdch t.result t.after t.events := by
    unfold Turn.Lawful at lawful
    rw [move] at lawful
    cases lawful with
    | pdchSwitch outcome => exact outcome
  refine ⟨k', slot', turn, fun toPdch o move => (asked move).refused_iff slot,
    fun toPdch o move error => ?_, turn.ends⟩
  rw [(asked move).failed error, Bts.standing_of_slot? slot, Option.some.injEq, Prod.mk.injEq] at after
  exact after.2.symm

theorem flags_ofConfig {c : Config} (slot : (Bts.ofConfig c).slot? trx tn = some k) :
    k.flags = .none := by
  obtain ⟨carrier, known, place⟩ := Option.bind_eq_some_iff.mp slot
  simp only [Bts.carrier?, Bts.ofConfig, List.getElem?_mapIdx, Option.map_eq_some_iff] at known
  obtain ⟨cc, -, rfl⟩ := known
  obtain ⟨range, rfl⟩ := Vector.getElem?_eq_some_iff.mp place
  simp [Carrier.fresh, Timeslot.fresh]

/-- **Every switch ends once**: in every run, whatever the radio confirms and refuses and in
whatever order, the switches of a timeslot into and out of packet mode that were accepted are those
reported and the one under way, a timeslot is torn down once for each switch out of packet mode
that ends, and a switch is refused exactly when the timeslot cannot begin one. -/
theorem packet_switches_end_once (site : Site σ φ) (c : Config) (filter : Capture.Filter)
    (services : σ) (phy : φ) (ms : List Move) {k₀ : Timeslot}
    (slot : (Bts.ofConfig c).slot? trx tn = some k₀) :
    ∃ k, (run site (.fresh c filter services phy) ms).bts.slot? trx tn = some k ∧
      SwitchAccount trx tn (history site (.fresh c filter services phy) ms) k.flags ∧
      ∀ t ∈ history site (.fresh c filter services phy) ms, ∃ k₁ k₂,
        t.before.slot? trx tn = some k₁ ∧ t.after.slot? trx tn = some k₂ ∧
          SwitchedRightly trx tn t k₁ k₂ := by
  induction ms using List.reverseRecOn with
  | nil =>
    refine ⟨k₀, slot, ?_, fun t ht => absurd ht List.not_mem_nil⟩
    rw [flags_ofConfig slot]
    exact switchAccount_nil
  | append_singleton ms m ih =>
    obtain ⟨k, here, account, rightly⟩ := ih
    rw [run_append, history_append]
    generalize run site (.fresh c filter services phy) ms = w at here ⊢
    obtain ⟨k', there, turn, right⟩ := (lawful_turnOf site w m).switchedRightly here
    refine ⟨k', there, account.snoc turn, fun t ht => ?_⟩
    rcases List.mem_append.mp ht with earlier | last
    · exact rightly t earlier
    · obtain rfl := List.mem_singleton.mp last
      exact ⟨k, k', here, there, right⟩

/-- The timeslot is switched into packet mode and out of it again, each time with a second request
before the confirm. -/
def backAndForthMoves : List Move := [
  .pdchSwitch 0 1 true,
  .pdchSwitch 0 1 false,
  .up 0 (.mphInfoCnf (.activateCnf ⟨0x09, 0⟩)),
  .pdchSwitch 0 1 false,
  .pdchSwitch 0 1 true,
  .up 0 (.mphInfoCnf (.deactivateCnf ⟨0x09, 0⟩)),
  .up 0 (.mphInfoCnf (.deactivateCnf ⟨0x09, 0⟩))]

/-- The two requests without a switch under way are accepted and reported, and the one out of
packet mode has the timeslot torn down. -/
theorem back_and_forth_reported :
    let ts := history scriptedSite (.fresh switchableConfig .empty .fresh .accepting)
      backAndForthMoves
    switchesAccepted 0 1 ts = [true, false] ∧ switchesReported 0 1 ts = 2 ∧
      teardowns 0 1 ts = 1 := by
  intro ts
  have accepted : switchesAccepted 0 1 ts = [true, false] := by decide +kernel
  have known : ((Bts.ofConfig switchableConfig).slot? 0 1).isSome := by decide +kernel
  obtain ⟨k₀, slot⟩ := Option.isSome_iff_exists.mp known
  obtain ⟨k, now, account, -⟩ := packet_switches_end_once scriptedSite switchableConfig .empty
    .fresh .accepting backAndForthMoves slot
  have settled : ((run scriptedSite (.fresh switchableConfig .empty .fresh .accepting)
      backAndForthMoves).bts.slot? 0 1).map (·.flags) = some .none := by decide +kernel
  rw [now, Option.map_some, Option.some.injEq] at settled
  have reported := account.reported
  have tornDown := account.tornDown
  rw [settled, accepted] at reported tornDown
  exact ⟨accepted, reported.symm, tornDown.symm⟩

end Bridge
end BaseStation
