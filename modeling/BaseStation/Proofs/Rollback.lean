import BaseStation.Proofs.Bridge.Run
import BaseStation.Proofs.Bridge.Slot

/-!
Requests for channel control that the radio refuses. Each of them writes to the record of its
channel before it is handed down. A refused switch of a timeslot is taken back on the timeslot; what
was written to the channel stays, with every request.
-/

namespace BaseStation

/-- What channel control keeps of a channel. -/
structure ChannelStatus where
  state : LchanState
  type : LchanType
  sacchDeact : Bool
deriving DecidableEq

def Lchan.status (l : Lchan) : ChannelStatus := ⟨l.state, l.type, l.sacchDeact⟩

namespace Bts

def status? (b : Bts) (id : LchanId) : Option ChannelStatus := (b.lchan? id).map Lchan.status

/-- The flags and the mode in use of the timeslot of a channel. -/
def slotMode? (b : Bts) (id : LchanId) : Option (SlotFlags × Pchan) :=
  (b.slot? id.trx id.tn).map fun k => (k.flags, k.dynPchan)

variable {b : Bts} {id : LchanId} {l : Lchan}

theorem status?_setLchan (known : b.lchan? id = some l) (l' : Lchan) :
    (b.setLchan id l').status? id = some l'.status := by
  unfold status?
  rw [lchan?_setLchan_self known, Option.map_some]

/-- The records of the channels have no part in the mode of a timeslot. -/
theorem slotMode?_setLchan : (b.setLchan id l).slotMode? id = b.slotMode? id := by
  unfold slotMode?
  cases slot : b.slot? id.trx id.tn with
  | none =>
    unfold setLchan modifyLchan
    rw [slot?_modifySlot, if_pos ⟨rfl, rfl⟩, slot]
    rfl
  | some k =>
    obtain ⟨ls, slot'⟩ : ∃ ls, (b.setLchan id l).slot? id.trx id.tn =
        some { k with lchans := ls } := slot?_setLchan slot
    rw [slot']
    rfl

end Bts

namespace Bridge

variable {σ φ : Type} {site : Site σ φ} {b b' : Bts} {trx tn n : UInt8} {id : LchanId}
  {l : Lchan} {k k' : Timeslot} {i : Input} {r : Except Failure Unit} {es : List Event}

/-! ### Refused requests -/

def Event.refusal? : Event → Option PhyError
  | .down _ _ (.error e) => some e
  | _ => none

/-- The reasons for which the radio refused what it was handed. -/
def refusals (es : List Event) : List PhyError := es.filterMap Event.refusal?

instance : Aside Event.refusal? := by constructor <;> intros <;> rfl

/-- A primitive handed down is refused only with an error. -/
theorem downResult_of_refused {p : Prim} {a : Except PhyError Unit}
    (refused : refusals (downEvents trx p a) ≠ []) : downResult a ≠ .ok () := by
  cases a with
  | error e => exact fun done => by cases done
  | ok => exact absurd rfl refused

/-- What a refused activation leaves. -/
theorem ChanActOutcome.of_refused {tsc : Option UInt8}
    (h : ChanActOutcome site trx n tsc b r b' es) (refused : refusals es ≠ []) :
    r ≠ .ok () ∧ ∃ a id k l l', ChanAddr.decode n = .ok a ∧ b.find? trx n = some (id, l) ∧
      b.slot? trx (chanTn n) = some k ∧ b' = b.setLchan id l' ∧ l'.status =
        ⟨.actRequested, .forActivation a.kind (k.isPdch || k.flags.actPending), false⟩ := by
  cases h with
  | radio addr _ carrier found =>
    exact ⟨by simp, _, _, _, _, _, addr, found, Bts.slot?_slotOf carrier, rfl, rfl⟩
  | requested =>
    refine absurd ?_ refused
    simp [refusals, Event.refusal?]
  | _ => exact absurd rfl refused

/-- What a refused release leaves. -/
theorem ChanRelOutcome.of_refused (h : ChanRelOutcome trx n b r b' es)
    (refused : refusals es ≠ []) :
    r ≠ .ok () ∧ ∃ id l, b.find? trx n = some (id, l) ∧ b' = b.setLchan id (releasing l) := by
  cases h with
  | unknownTrx => exact absurd rfl refused
  | unknownLchan => exact absurd rfl refused
  | requested _ found answer =>
    rw [refusals, List.filterMap_append, filterMap_freeEvents] at refused
    exact ⟨downResult_of_refused refused, _, _, found, rfl⟩

theorem ChanDeactSacchOutcome.of_refused (h : ChanDeactSacchOutcome trx n b r b' es)
    (refused : refusals es ≠ []) :
    r ≠ .ok () ∧ ∃ id l, b.find? trx n = some (id, l) ∧
      b' = b.setLchan id { l with sacchDeact := true } := by
  cases h with
  | unknownTrx => exact absurd rfl refused
  | unknownLchan => exact absurd rfl refused
  | requested _ found => exact ⟨downResult_of_refused refused, _, _, found, rfl⟩

/-! ### Refused switches -/

section Switch

variable (slot : b.slot? trx tn = some k)
include slot

theorem find?_begun (same : k'.lchans = k.lchans) :
    (b.modifySlot trx tn fun _ => k').find? trx n = b.find? trx n := by
  have channels : ∀ j, (b.modifySlot trx tn fun _ => k').lchan? j = b.lchan? j :=
    fun j => lchan?_begun slot same
  unfold Bts.find?
  rw [locate?_congr channels]
  simp only [channels]

/-- A switch that is given up leaves no more than the record that was written on the way. -/
theorem settled_setLchan_begun (restored : { k' with flags := k'.flags.settle } = k)
    (place : id.trx = trx ∧ id.tn = tn) :
    settled trx tn ((b.modifySlot trx tn fun _ => k').setLchan id l) = b.setLchan id l := by
  obtain ⟨rfl, rfl⟩ := place
  have begun : (b.modifySlot id.trx id.tn fun _ => k').slot? id.trx id.tn = some k' := by
    rw [Bts.slot?_modifySlot, if_pos ⟨rfl, rfl⟩, slot, Option.map_some]
  unfold settled
  rw [Bts.setLchan_eq_modifySlot begun, Bts.setLchan_eq_modifySlot slot, Bts.modifySlot_modifySlot,
    Bts.modifySlot_modifySlot]
  exact Bts.modifySlot_congr fun _ _ => settled_setLchan restored

end Switch

/-- What a refused switch leaves. -/
theorem PdchSwitchOutcome.of_refused {toPdch : Bool}
    (h : PdchSwitchOutcome site trx tn b toPdch r b' es) (refused : refusals es ≠ []) :
    r ≠ .ok () ∧ ∃ id l l', (b.slot? trx tn).isSome = true ∧
      b.find? trx (ChanKind.base .tchF ||| tn) = some (id, l) ∧ b' = b.setLchan id l' ∧
      l'.status = if toPdch then ⟨.actRequested, .pdtch, false⟩ else (releasing l).status := by
  cases h with
  | unknownTrx => exact absurd rfl refused
  | refused => exact absurd rfl refused
  | begun _ _ inner => exact absurd rfl (inner.of_refused refused).1
  | endBegun _ _ inner => exact absurd rfl (inner.of_refused refused).1
  | givenUp slot begun inner =>
    obtain ⟨failed, a, id, k, l, l', addr, found, on, rfl, status⟩ := inner.of_refused refused
    rw [find?_begun slot (lchans_beginPdchAct begun)] at found
    rw [slot?_begun slot, Option.some.injEq] at on
    obtain ⟨carrier, place⟩ := Bts.place_of_locate? (Bts.find?_eq_some.mp found).1
    rw [chanTn_fullRate (tn_lt_of_slot? slot)] at place
    refine ⟨failed, id, l, l', Option.isSome_of_eq_some slot, found,
      settled_setLchan_begun slot (settle_beginPdchAct begun) ⟨carrier, place⟩, ?_⟩
    obtain ⟨-, pending⟩ := beginPdchAct?_eq_some.mp begun
    rw [status, if_pos rfl, ← on, ← pending]
    simp [LchanType.forActivation]
  | endGivenUp slot begun inner =>
    obtain ⟨failed, id, l, found, rfl⟩ := inner.of_refused refused
    rw [find?_begun slot (lchans_beginPdchDeact begun)] at found
    obtain ⟨carrier, place⟩ := Bts.place_of_locate? (Bts.find?_eq_some.mp found).1
    rw [chanTn_fullRate (tn_lt_of_slot? slot)] at place
    exact ⟨failed, id, l, _, Option.isSome_of_eq_some slot, found,
      settled_setLchan_begun slot (settle_beginPdchDeact begun) ⟨carrier, place⟩, rfl⟩

/-! ### What is left of a refused request -/

/-- The input is a request for channel control. -/
def Input.isControl : Input → Bool
  | chanAct .. | chanRel .. | chanDeactSacch .. | pdchSwitch .. => true
  | _ => false

/-- The status that a request for channel control gives to its channel `l` on the timeslot `k`. -/
def Input.aim (k : Timeslot) (l : Lchan) : Input → ChannelStatus
  | chanAct _ n _ =>
    match ChanAddr.decode n with
    | .ok a => ⟨.actRequested, .forActivation a.kind (k.isPdch || k.flags.actPending), false⟩
    | .error _ => l.status
  | pdchSwitch _ _ true => ⟨.actRequested, .pdtch, false⟩
  | chanRel .. | pdchSwitch _ _ false => { l.status with state := .relRequested }
  | chanDeactSacch .. => { l.status with sacchDeact := true }
  | _ => l.status

/-- A request names a channel, whose record is left with the aim of the request. -/
structure LeavesAim (i : Input) (b b' : Bts) (id : LchanId) (k : Timeslot) (l : Lchan) : Prop where
  target : i.address?.bind (Address.resolve b) = some id
  slot : b.slot? id.trx id.tn = some k
  channel : b.lchan? id = some l
  left : ∃ l', b' = b.setLchan id l' ∧ l'.status = i.aim k l

theorem slot?_of_find? (found : b.find? trx n = some (id, l)) :
    b.locate? trx n = some id ∧ b.lchan? id = some l ∧ ∃ k, b.slot? id.trx id.tn = some k := by
  obtain ⟨located, known⟩ := Bts.find?_eq_some.mp found
  obtain ⟨k, slot, -⟩ := Bts.lchan?_eq_some.mp known
  exact ⟨located, known, k, slot⟩

theorem StepOutcome.leavesAim (h : StepOutcome site b i r b' es) (control : i.isControl = true)
    (refused : refusals es ≠ []) : r ≠ .ok () ∧ ∃ id k l, LeavesAim i b b' id k l := by
  cases h with
  | chanAct outcome =>
    obtain ⟨failed, a, id, k, l, l', addr, found, slot, left, status⟩ := outcome.of_refused refused
    obtain ⟨located, known⟩ := Bts.find?_eq_some.mp found
    obtain ⟨carrier, place⟩ := Bts.place_of_locate? located
    rw [← carrier, ← place] at slot
    refine ⟨failed, id, k, l, located, slot, known, l', left, ?_⟩
    simp only [Input.aim, addr, status]
  | chanRel outcome =>
    obtain ⟨failed, id, l, found, left⟩ := outcome.of_refused refused
    obtain ⟨located, known, k, slot⟩ := slot?_of_find? found
    exact ⟨failed, id, k, l, located, slot, known, _, left, rfl⟩
  | chanDeactSacch outcome =>
    obtain ⟨failed, id, l, found, left⟩ := outcome.of_refused refused
    obtain ⟨located, known, k, slot⟩ := slot?_of_find? found
    exact ⟨failed, id, k, l, located, slot, known, _, left, rfl⟩
  | @pdchSwitch trx tn toPdch _ _ _ outcome =>
    obtain ⟨failed, id, l, l', there, found, left, status⟩ := outcome.of_refused refused
    obtain ⟨located, known, k, slot⟩ := slot?_of_find? found
    obtain ⟨t, here⟩ := Option.isSome_iff_exists.mp there
    have target : (Address.timeslot trx tn).resolve b = some id :=
      (congrArg (Option.bind · _) here).trans located
    refine ⟨failed, id, k, l, target, slot, known, l', left, ?_⟩
    cases toPdch <;> exact status
  | _ => cases control

/-- The turn leaves the status of a channel and the mode of its timeslot as they were. -/
structure Turn.RollsBack (id : LchanId) (t : Turn) : Prop where
  channel : t.after.status? id = t.before.status? id
  slot : t.after.slotMode? id = t.before.slotMode? id

/-- In every state a request for channel control that the radio refuses ends with an error and
leaves the mode of the timeslot as it was, and of the channel the status that the request aims at.
So it is rolled back exactly if the channel had this status before. -/
theorem refused_control_rolled_back_iff (site : Site σ φ) (w : World σ φ) {i : Input}
    (outside : i.isDown = false) (control : i.isControl = true)
    (refused : refusals (turnOf site w (.input i outside)).events ≠ []) :
    (turnOf site w (.input i outside)).result ≠ .ok () ∧
    ∃ id k l, i.address?.bind (Address.resolve w.bts) = some id ∧
      w.bts.slot? id.trx id.tn = some k ∧ w.bts.lchan? id = some l ∧
      (turnOf site w (.input i outside)).after.slotMode? id = w.bts.slotMode? id ∧
      (turnOf site w (.input i outside)).after.status? id = some (i.aim k l) ∧
      ((turnOf site w (.input i outside)).RollsBack id ↔ l.status = i.aim k l) := by
  have outcome : StepOutcome site w.bts i _ _ _ := lawful_turnOf site w (.input i outside)
  obtain ⟨failed, id, k, l, target, slot, known, l', left, status⟩ :=
    outcome.leavesAim control refused
  have mode : (turnOf site w (.input i outside)).after.slotMode? id = w.bts.slotMode? id := by
    rw [left, Bts.slotMode?_setLchan]
  have aim : (turnOf site w (.input i outside)).after.status? id = some (i.aim k l) := by
    rw [left, Bts.status?_setLchan known, status]
  have before : w.bts.status? id = some l.status := by
    unfold Bts.status?
    rw [known, Option.map_some]
  refine ⟨failed, id, k, l, target, slot, known, mode, aim, ?_, ?_⟩
  · rintro ⟨channel, -⟩
    have same : some (i.aim k l) = some l.status := aim.symm.trans (channel.trans before)
    exact (Option.some.inj same).symm
  · intro same
    exact ⟨aim.trans ((congrArg some same.symm).trans before.symm), mode⟩

/-- The cell with a radio that takes nothing. -/
def refusingWorld : World ScriptedServices ScriptedPhy :=
  .fresh scriptedConfig .empty .fresh ⟨.io, false⟩

/-- A release that is refused for the second time is rolled back. -/
theorem second_release_rolled_back :
    let w := run scriptedSite refusingWorld [.chanRel 0 0x09]
    (turnOf scriptedSite w (.chanRel 0 0x09)).RollsBack ⟨0, 1, 0⟩ := by
  intro w
  have refused : refusals (turnOf scriptedSite w (.chanRel 0 0x09)).events ≠ [] := by
    decide +kernel
  obtain ⟨-, id, k, l, target, -, known, -, -, rolledBack⟩ :=
    refused_control_rolled_back_iff scriptedSite w rfl rfl refused
  have here : id = ⟨0, 1, 0⟩ := by
    have named : w.bts.locate? 0 0x09 = some ⟨0, 1, 0⟩ := by decide +kernel
    exact Option.some.inj (target.symm.trans named)
  have status : w.bts.status? ⟨0, 1, 0⟩ = some ⟨.relRequested, .tchF, false⟩ := by decide +kernel
  subst here
  refine rolledBack.mpr ?_
  unfold Bts.status? at status
  rw [known, Option.map_some, Option.some.injEq] at status
  rw [Input.aim, status]

/-- An activation that is refused leaves the channel waiting for its confirm. -/
theorem refused_activation_left_waiting :
    let t := turnOf scriptedSite refusingWorld (.chanAct 0 0x09 none)
    refusals t.events ≠ [] ∧ t.result.toBool = false ∧
      t.before.status? ⟨0, 1, 0⟩ = some ⟨.none, .tchF, false⟩ ∧
      t.after.status? ⟨0, 1, 0⟩ = some ⟨.actRequested, .tchF, false⟩ ∧
      ¬ t.RollsBack ⟨0, 1, 0⟩ := by
  intro t
  have refused : refusals t.events ≠ [] ∧ t.result.toBool = false := by decide +kernel
  have before : t.before.status? ⟨0, 1, 0⟩ = some ⟨.none, .tchF, false⟩ := by decide +kernel
  have after : t.after.status? ⟨0, 1, 0⟩ = some ⟨.actRequested, .tchF, false⟩ := by
    decide +kernel
  refine ⟨refused.1, refused.2, before, after, fun back => ?_⟩
  have same := back.channel
  rw [before, after] at same
  cases same

end Bridge
end BaseStation
