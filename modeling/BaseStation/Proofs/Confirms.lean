import BaseStation.Proofs.Bridge.Track
import BaseStation.Proofs.Switching
import BaseStation.Proofs.VirtualRadio

/-!
Requests and their confirms: which confirm waits in the radio within the program once a request of
RSL was accepted, and what this confirm completes.
-/

namespace BaseStation.Bridge

/-! ### Readings -/

def Event.activated? : Event → Option (LchanId × UInt8)
  | .call (.activationDone id cause) _ => some (id, cause)
  | _ => none

/-- The channels whose activation RSL was told of, with the cause. -/
def activationsDone (es : List Event) : List (LchanId × UInt8) := es.filterMap Event.activated?

instance : Aside Event.activated? := by constructor <;> intros <;> rfl

def Event.switched? : Event → Option (UInt8 × UInt8 × Bool)
  | .call (.switchDone trx tn ok) _ => some (trx, tn, ok)
  | _ => none

/-- The timeslots of which RSL was told that a switch ended, and how. -/
def switchesDone (es : List Event) : List (UInt8 × UInt8 × Bool) := es.filterMap Event.switched?

instance : Aside Event.switched? := by constructor <;> intros <;> rfl

/-- Where the first events have none of what is read, it is read off the others. -/
theorem filterMap_after {α : Type} {f : Event → Option α} {es fs : List Event}
    (quiet : es.filterMap f = []) : (es ++ fs).filterMap f = fs.filterMap f := by
  rw [List.filterMap_append, quiet, List.nil_append]

variable {σ φ : Type} {site : Site σ φ} {b b' : Bts} {trx n tn : UInt8} {id : LchanId}
  {l l' : Lchan} {f : SlotFlags} {r : Except Failure Unit} {es : List Event}

/-! ### What is confirmed -/

theorem find?_setLchan_actRequest {sacchOnly : Bool} (found : b.find? trx n = some (id, l)) :
    (b.setLchan id l').find? trx (actRequest n sacchOnly).chanNr = some (id, l') := by
  rw [Bts.find?_eq_some] at found ⊢
  rw [Bts.locate?_setLchan, locate?_actRequest]
  exact ⟨found.1, Bts.lchan?_setLchan_self found.2⟩

theorem chanTn_actRequest {sacchOnly : Bool} :
    chanTn (actRequest n sacchOnly).chanNr = chanTn n := by
  have every : ∀ i : Fin 256, chanTn (pdchAsTchF (.ofFin i)) = chanTn (.ofFin i) := by
    decide +kernel
  exact every n.toFin

/-- An activation that is accepted waits for its confirm. -/
theorem ChanActOutcome.asks {tsc : Option UInt8}
    (h : ChanActOutcome site trx n tsc b (.ok ()) b' es) :
    ∃ id l l', b.find? trx n = some (id, l) ∧
      b'.find? trx (actRequest n false).chanNr = some (id, l') ∧
      confirms es = [(trx, .mphInfoCnf (.activateCnf ⟨(actRequest n false).chanNr, 0⟩))] ∧
      orders es = [.prim trx (.mphInfoReq (.activateReq (actRequest n false)))] ∧
      activationsDone es = [] ∧ switchesDone es = [] := by
  cases h with
  | requested addr right carrier found d =>
    refine ⟨_, _, _, found, find?_setLchan_actRequest found, ?_, ?_, ?_, ?_⟩
    · simp [confirms, Event.confirm?, VirtualPhy.confirm?]
    · simp [orders, Event.order?]
    · simp [activationsDone, Event.activated?]
    · simp [switchesDone, Event.switched?]

theorem downResult_eq_ok {a : Except PhyError Unit} : downResult a = .ok () ↔ a = .ok () := by
  rcases a with e | ⟨⟩ <;> simp [downResult, Except.mapError]

/-- A release that is accepted waits for its confirm. -/
theorem ChanRelOutcome.asks (h : ChanRelOutcome trx n b r b' es) (ok : r = .ok ()) :
    ∃ id l l', b.find? trx n = some (id, l) ∧ l'.state = .relRequested ∧
      b'.find? trx (actRequest n false).chanNr = some (id, l') ∧
      confirms es = [(trx, .mphInfoCnf (.deactivateCnf ⟨(actRequest n false).chanNr, 0⟩))] ∧
      releasesDone es = [] ∧ switchesDone es = [] := by
  cases h with
  | requested carrier found answer =>
    rw [downResult_eq_ok] at ok
    subst ok
    refine ⟨_, _, _, found, rfl, find?_setLchan_actRequest found, ?_, ?_, ?_⟩
    · simp [confirms, Event.confirm?, VirtualPhy.confirm?]
    · simp [releasesDone, Event.released?]
    · simp [switchesDone, Event.switched?]
  | _ => cases ok

/-- A SACCH that is to be stopped waits for its confirm, and is marked. -/
theorem ChanDeactSacchOutcome.asks (h : ChanDeactSacchOutcome trx n b r b' es) (ok : r = .ok ()) :
    ∃ id l, b.find? trx n = some (id, l) ∧
      b'.find? trx (actRequest n true).chanNr = some (id, { l with sacchDeact := true }) ∧
      confirms es = [(trx, .mphInfoCnf (.deactivateCnf ⟨(actRequest n true).chanNr, 0⟩))] := by
  cases h with
  | requested carrier found answer =>
    rw [downResult_eq_ok] at ok
    subst ok
    refine ⟨_, _, found, find?_setLchan_actRequest found, ?_⟩
    simp [confirms, Event.confirm?, VirtualPhy.confirm?]
  | _ => cases ok

/-! ### What a confirm completes -/

theorem carrier?_of_find? (found : b.find? trx n = some (id, l)) :
    ∃ k, b.carrier? trx = some k := Bts.carrier?_of_locate? (Bts.find?_eq_some.mp found).1

/-- The confirm of an activation finds the channel. -/
theorem ActivateCnfOutcome.of_found (h : ActivateCnfOutcome trx ⟨n, 0⟩ b r b' es)
    (found : b.find? trx n = some (id, l)) :
    ∃ k, b.carrier? trx = some k ∧
      b' = (b.setLchan id { l with state := .active }).modifySlot trx (chanTn n)
        (fun t => (afterActivation t l.type true).1) ∧
      es = .call (.activationDone id 0) () ::
        if (afterActivation (k.slotOf n) l.type true).2 then
          [.call (.switchDone trx (chanTn n) true) ()]
        else [] := by
  obtain ⟨k, carrier⟩ := carrier?_of_find? found
  cases h with
  | unknownTrx unknown =>
    rw [unknown] at carrier
    cases carrier
  | unknownLchan _ unknown =>
    rw [found] at unknown
    cases unknown
  | confirmed carrier' found' =>
    cases found.symm.trans found'
    exact ⟨_, carrier', rfl, rfl⟩

/-- The confirm of an activation makes the channel active, and RSL is told once. -/
theorem ActivateCnfOutcome.activates (h : ActivateCnfOutcome trx ⟨n, 0⟩ b r b' es)
    (found : b.find? trx n = some (id, l)) :
    b'.lchan? id = some { l with state := .active } ∧ activationsDone es = [(id, 0)] := by
  obtain ⟨k, -, rfl, rfl⟩ := h.of_found found
  constructor
  · rw [Bts.lchan?_modifySlot fun t => lchans_afterActivation]
    exact Bts.lchan?_setLchan_self (Bts.find?_eq_some.mp found).2
  · unfold activationsDone
    rw [filterMap_event]
    split <;> rfl

/-- The confirm of the activation that a switch began with puts the timeslot into packet mode. -/
theorem ActivateCnfOutcome.enters (h : ActivateCnfOutcome trx ⟨n, 0⟩ b r b' es)
    (found : b.find? trx n = some (id, l)) (place : chanTn n = tn)
    (before : b.standing trx tn = some (.tchFPdch, f)) (pending : f.actPending = true) :
    b'.standing trx tn = some (.tchFPdch, { f with actPending := false, active := true }) ∧
      switchesDone es = [(trx, tn, true)] := by
  subst place
  obtain ⟨k, carrier, rfl, rfl⟩ := h.of_found found
  have ends : (afterActivation (k.slotOf n) l.type true).2 = true := by
    rw [switched_afterActivation, (standing_slotOf carrier before).1,
      (standing_slotOf carrier before).2, pending]
    rfl
  rw [standing_activated carrier before, ends, if_pos rfl, if_pos rfl, Bool.or_true]
  exact ⟨rfl, rfl⟩

/-- The confirm of a release finds the channel. -/
theorem DeactivateCnfOutcome.of_releasing (h : DeactivateCnfOutcome trx ⟨n, 0⟩ b r b' es)
    (found : b.find? trx n = some (id, l)) (releasing : l.state = .relRequested) :
    ∃ k, b.carrier? trx = some k ∧
      b' = (b.setLchan id l.resetAfterRelease).modifySlot trx (chanTn n)
        (fun t => (afterRelease t).1) ∧
      ∃ answer, es = .call (.releaseDone id) () ::
        if (afterRelease (k.slotOf n)).2 then
          [.disconnect trx (chanTn n) answer, .call (.switchDone trx (chanTn n) answer.toBool) ()]
        else [] := by
  obtain ⟨k, carrier⟩ := carrier?_of_find? found
  cases h with
  | unknownTrx unknown =>
    rw [unknown] at carrier
    cases carrier
  | unknownLchan _ unknown =>
    rw [found] at unknown
    cases unknown
  | sacchOnly _ found' _ up =>
    cases found.symm.trans found'
    exact absurd releasing up
  | released carrier' found' _ same =>
    cases found.symm.trans found'
    exact ⟨_, carrier', rfl, .ok (), by rw [same]; rfl⟩
  | switched carrier' found' _ switched answer =>
    cases found.symm.trans found'
    exact ⟨_, carrier', rfl, answer, by rw [switched]; rfl⟩

/-- The confirm of a release frees the channel, and RSL is told once. -/
theorem DeactivateCnfOutcome.releases (h : DeactivateCnfOutcome trx ⟨n, 0⟩ b r b' es)
    (found : b.find? trx n = some (id, l)) (releasing : l.state = .relRequested) :
    b'.lchan? id = some l.resetAfterRelease ∧ releasesDone es = [id] := by
  obtain ⟨k, -, rfl, answer, rfl⟩ := h.of_releasing found releasing
  constructor
  · rw [Bts.lchan?_modifySlot fun t => lchans_afterRelease]
    exact Bts.lchan?_setLchan_self (Bts.find?_eq_some.mp found).2
  · unfold releasesDone
    rw [filterMap_event]
    split <;> rfl

/-- The confirm of the release that a switch began with takes the timeslot out of packet mode. -/
theorem DeactivateCnfOutcome.leaves (h : DeactivateCnfOutcome trx ⟨n, 0⟩ b r b' es)
    (found : b.find? trx n = some (id, l)) (releasing : l.state = .relRequested)
    (place : chanTn n = tn) (before : b.standing trx tn = some (.tchFPdch, f))
    (pending : f.deactPending = true) (tornDown : ∀ u m a, .disconnect u m a ∈ es → a = .ok ()) :
    b'.standing trx tn = some (.tchFPdch, { f.settle with active := false }) ∧
      switchesDone es = [(trx, tn, true)] := by
  subst place
  obtain ⟨k, carrier, rfl, answer, rfl⟩ := h.of_releasing found releasing
  have ends : (afterRelease (k.slotOf n)).2 = true := by
    rw [switched_afterRelease, (standing_slotOf carrier before).1,
      (standing_slotOf carrier before).2, pending]
    rfl
  rw [ends, if_pos rfl] at tornDown ⊢
  obtain rfl : answer = .ok () := tornDown trx (chanTn n) answer (by simp)
  rw [standing_released carrier before, if_pos ends]
  exact ⟨rfl, rfl⟩

/-- The confirm that only the SACCH was stopped leaves everything as it is. -/
theorem DeactivateCnfOutcome.keeps (h : DeactivateCnfOutcome trx ⟨n, 0⟩ b r b' es)
    (found : b.find? trx n = some (id, l)) (stopped : l.sacchDeact = true)
    (up : l.state ≠ .relRequested) : b' = b := by
  have other (full : l.sacchDeact = false ∨ l.state = .relRequested) : False := by
    rcases full with full | full
    · rw [stopped] at full
      cases full
    · exact up full
  cases h with
  | released _ found' full =>
    cases found.symm.trans found'
    exact (other full).elim
  | switched _ found' full =>
    cases found.symm.trans found'
    exact (other full).elim
  | _ => rfl

/-- A confirm gives rise to no further one. -/
theorem StepOutcome.confirms_of_isConfirm {p : Prim} (h : StepOutcome site b (.up trx p) r b' es)
    (confirm : p.IsConfirm) : confirms es = [] := by
  obtain ⟨i, rfl⟩ := confirm
  refine h.filterMap_eq_nil fun e cause => ?_
  cases cause with
  | activateReq request | deactivateReq request | modifyReq request => cases request
  | _ => rfl

/-- The confirm of an activation has the radio do nothing. -/
theorem StepOutcome.orders_of_activateCnf {a : ActConfirm}
    (h : StepOutcome site b (.up trx (.mphInfoCnf (.activateCnf a))) r b' es) : orders es = [] := by
  refine h.filterMap_eq_nil fun e cause => ?_
  cases cause with
  | activateReq request | deactivateReq request | modifyReq request => cases request
  | _ => rfl

end BaseStation.Bridge
