import BaseStation.Bridge.Control
import BaseStation.Proofs.Bridge.Effect

/-!
What channel control comes to: for each confirm of the radio and each request of RSL the result,
the data left and the events, in terms of the answers of the parties and of the radio.
-/

namespace BaseStation.Bridge

variable {σ φ : Type} {site : Site σ φ} {b : Bts} {trx n : UInt8} {id : LchanId} {l : Lchan}

/-! ### Confirms -/

/-- An activation that the radio confirmed. -/
inductive ActivateCnfOutcome (trx : UInt8) (c : ActConfirm) (b : Bts) :
    Except Failure Unit → Bts → List Event → Prop
  | unknownTrx (unknown : b.carrier? trx = none) :
    ActivateCnfOutcome trx c b (.error (.refused (.noSuchTrx trx))) b []
  | unknownLchan {k : Carrier} (carrier : b.carrier? trx = some k)
      (unknown : b.find? trx c.chanNr = none) :
    ActivateCnfOutcome trx c b (.error (.refused (.noLchan c.chanNr))) b []
  | confirmed {k : Carrier} {id : LchanId} {l : Lchan} (carrier : b.carrier? trx = some k)
      (found : b.find? trx c.chanNr = some (id, l)) :
    ActivateCnfOutcome trx c b (.ok ())
      ((b.setLchan id { l with state := if c.cause == 0 then .active else .none }).modifySlot trx
        (chanTn c.chanNr) fun t => (afterActivation t l.type (c.cause == 0)).1)
      (.call (.activationDone id c.cause) () ::
        if (afterActivation (k.slotOf c.chanNr) l.type (c.cause == 0)).2 then
          [.call (.switchDone trx (chanTn c.chanNr) (c.cause == 0)) ()]
        else [])

theorem activateCnf_ensures (c : ActConfirm) :
    Ensures b (activateCnf site trx c) (ActivateCnfOutcome trx c b) := by
  unfold activateCnf
  refine .needCarrier .unknownTrx fun k carrier =>
    .needLchan (.unknownLchan carrier) fun ⟨id, l⟩ found => ?_
  have confirmed := ActivateCnfOutcome.confirmed carrier found
  dsimp only
  refine .actWriteLchan (.actWriteSlot (.actTold fun _ => ?_))
  rw [Bts.modifyLchan_eq_setLchan (Bts.find?_eq_some.mp found).2]
  cases hs : (afterActivation (k.slotOf c.chanNr) l.type (c.cause == 0)).2 with
  | false =>
    rw [hs] at confirmed
    exact .succeed confirmed
  | true =>
    rw [hs] at confirmed
    exact .actLast (.actTold fun _ => .succeed confirmed)

/-- A deactivation that the radio confirmed. -/
inductive DeactivateCnfOutcome (trx : UInt8) (c : ActConfirm) (b : Bts) :
    Except Failure Unit → Bts → List Event → Prop
  | unknownTrx (unknown : b.carrier? trx = none) :
    DeactivateCnfOutcome trx c b (.error (.refused (.noSuchTrx trx))) b []
  | unknownLchan {k : Carrier} (carrier : b.carrier? trx = some k)
      (unknown : b.find? trx c.chanNr = none) :
    DeactivateCnfOutcome trx c b (.error (.refused (.noLchan c.chanNr))) b []
  /-- Only the SACCH is taken to be down. -/
  | sacchOnly {k : Carrier} {id : LchanId} {l : Lchan} (carrier : b.carrier? trx = some k)
      (found : b.find? trx c.chanNr = some (id, l)) (stopped : l.sacchDeact = true)
      (up : l.state ≠ .relRequested) : DeactivateCnfOutcome trx c b (.ok ()) b []
  | released {k : Carrier} {id : LchanId} {l : Lchan} (carrier : b.carrier? trx = some k)
      (found : b.find? trx c.chanNr = some (id, l))
      (full : l.sacchDeact = false ∨ l.state = .relRequested)
      (same : (afterRelease (k.slotOf c.chanNr)).2 = false) :
    DeactivateCnfOutcome trx c b (.ok ())
      ((b.setLchan id l.resetAfterRelease).modifySlot trx (chanTn c.chanNr)
        fun t => (afterRelease t).1)
      [.call (.releaseDone id) ()]
  | switched {k : Carrier} {id : LchanId} {l : Lchan} (carrier : b.carrier? trx = some k)
      (found : b.find? trx c.chanNr = some (id, l))
      (full : l.sacchDeact = false ∨ l.state = .relRequested)
      (switched : (afterRelease (k.slotOf c.chanNr)).2 = true) (answer : Except PhyError Unit) :
    DeactivateCnfOutcome trx c b (.ok ())
      ((b.setLchan id l.resetAfterRelease).modifySlot trx (chanTn c.chanNr)
        fun t => (afterRelease t).1)
      [.call (.releaseDone id) (), .disconnect trx (chanTn c.chanNr) answer,
        .call (.switchDone trx (chanTn c.chanNr) answer.toBool) ()]

theorem disconnect_ensures (tn : UInt8) :
    Ensures b (disconnect site trx tn) fun a b' es => b' = b ∧ es = [.disconnect trx tn a] := by
  rintro w rfl
  exact ⟨_, rfl, rfl, rfl⟩

theorem deactivateCnf_ensures (c : ActConfirm) :
    Ensures b (deactivateCnf site trx c) (DeactivateCnfOutcome trx c b) := by
  unfold deactivateCnf
  refine .needCarrier .unknownTrx fun k carrier =>
    .needLchan (.unknownLchan carrier) fun ⟨id, l⟩ found => ?_
  dsimp only
  split
  · rename_i stopped
    simp only [Bool.and_eq_true, bne_iff_ne] at stopped
    exact .succeed (.sacchOnly carrier found stopped.1 stopped.2)
  · rename_i full
    have full : l.sacchDeact = false ∨ l.state = .relRequested := by
      cases h : l.sacchDeact with
      | false => exact .inl rfl
      | true => exact .inr (by simpa [h] using full)
    refine .actWriteLchan (.actWriteSlot (.actTold fun _ => ?_))
    rw [Bts.modifyLchan_eq_setLchan (Bts.find?_eq_some.mp found).2]
    split
    · rename_i switched
      refine .lift (disconnect_ensures (chanTn c.chanNr)) ?_
      rintro answer _ _ ⟨rfl, rfl⟩
      exact .actLast (.actTold fun _ => .succeed (.switched carrier found full switched answer))
    · rename_i same
      exact .succeed (.released carrier found full (by simpa using same))

/-- A ciphering request that the radio confirmed. -/
inductive CipherCnfOutcome (trx : UInt8) (c : CipherConfirm) (b : Bts) :
    Except Failure Unit → Bts → List Event → Prop
  | unknownTrx (unknown : b.carrier? trx = none) :
    CipherCnfOutcome trx c b (.error (.refused (.noSuchTrx trx))) b []
  | unknownLchan {k : Carrier} (carrier : b.carrier? trx = some k)
      (unknown : b.find? trx c.chanNr = none) :
    CipherCnfOutcome trx c b (.error (.refused (.noLchan c.chanNr))) b []
  | confirmed {k : Carrier} {id : LchanId} {l : Lchan} (carrier : b.carrier? trx = some k)
      (found : b.find? trx c.chanNr = some (id, l)) :
    CipherCnfOutcome trx c b (.ok ()) (b.setLchan id (l.confirmCipher c).1) []

theorem cipherCnf_ensures (c : CipherConfirm) :
    Ensures b (cipherCnf trx c : Act σ φ Unit) (CipherCnfOutcome trx c b) := by
  unfold cipherCnf
  refine .needCarrier .unknownTrx fun k carrier =>
    .needLchan (.unknownLchan carrier) fun ⟨id, l⟩ found => ?_
  refine .actLast (.actWriteLchan (.succeed ?_))
  rw [Bts.modifyLchan_eq_setLchan (Bts.find?_eq_some.mp found).2]
  exact .confirmed carrier found

/-! ### Requests -/

/-- The controller of discontinuous transmission that a channel gives back. -/
def freeEvents (l : Lchan) : List Event :=
  match l.dtx with
  | some h => [.call (.dtxFree h) ()]
  | none => []

theorem freeDtx_ensures {l' : Lchan} (hl : b.lchan? id = some l) :
    Ensures b (freeDtx site id l') fun _ b' es =>
      b' = b.setLchan id { l with dtx := none } ∧ es = freeEvents l' := by
  unfold freeDtx freeEvents
  refine .writeLchan ?_
  rw [Bts.modifyLchan_eq_setLchan hl]
  cases l'.dtx with
  | none => exact .done ⟨rfl, rfl⟩
  | some h => exact .last (.told fun _ => .done ⟨rfl, rfl⟩)

/-- The type that a channel is activated with. -/
def activationType (k : Carrier) (a : ChanAddr) (n : UInt8) : LchanType :=
  .forActivation a.kind ((k.slotOf n).isPdch || (k.slotOf n).flags.actPending)

/-- The channel once its activation was asked for. -/
def activating (site : Site σ φ) (type : LchanType) (l : Lchan) : Lchan :=
  { l with
    sacchDeact := false
    s := site.settings.radioLinkTimeout
    state := .actRequested
    type := type
    dtx := none }

/-- The timers of a channel that has a link entity. -/
def timerEvents (site : Site σ φ) (id : LchanId) (kind : ChanKind) (type : LchanType) :
    List Event :=
  match site.settings.t200.forKind? kind with
  | some t => if type ≠ .pdtch then [.call (.setT200 id t) ()] else []
  | none => []

/-- The channel of the given type takes part in discontinuous transmission. -/
def usesDtx (site : Site σ φ) (type : LchanType) : Bool := site.settings.dtxDl && type != .sdcch

/-- The channel with a new controller of discontinuous transmission, if it takes part. -/
def allocated (site : Site σ φ) (type : LchanType) (h : DtxHandle) (l : Lchan) : Lchan :=
  if usesDtx site type then { l with dtx := some h } else l

theorem allocated_eq (site : Site σ φ) (type : LchanType) (h : DtxHandle) (l : Lchan) :
    ∃ d, allocated site type h l = { l with dtx := d } := by
  unfold allocated
  split
  · exact ⟨_, rfl⟩
  · exact ⟨l.dtx, rfl⟩

/-- A controller of discontinuous transmission is asked for. -/
def allocEvents (site : Site σ φ) (id : LchanId) (type : LchanType) (h : DtxHandle) : List Event :=
  if usesDtx site type then [.call (.dtxAlloc id) h] else []

/-- An activation that RSL asks for. -/
inductive ChanActOutcome (site : Site σ φ) (trx n : UInt8) (tsc : Option UInt8) (b : Bts) :
    Except Failure Unit → Bts → List Event → Prop
  | undecodable {e : ChanNrError} (bad : ChanAddr.decode n = .error e) :
    ChanActOutcome site trx n tsc b (.error (.refused (.chanNr e))) b []
  | wrongTsc {a : ChanAddr} {cause : RslCause} (addr : ChanAddr.decode n = .ok a)
      (wrong : checkTsc tsc site.settings.tsc = .error cause) :
    ChanActOutcome site trx n tsc b (.error (.refused (.chanAct cause))) b []
  | unknownTrx {a : ChanAddr} (addr : ChanAddr.decode n = .ok a)
      (right : checkTsc tsc site.settings.tsc = .ok ()) (unknown : b.carrier? trx = none) :
    ChanActOutcome site trx n tsc b (.error (.refused (.noSuchTrx trx))) b []
  | unknownLchan {a : ChanAddr} {k : Carrier} (addr : ChanAddr.decode n = .ok a)
      (right : checkTsc tsc site.settings.tsc = .ok ()) (carrier : b.carrier? trx = some k)
      (unknown : b.find? trx n = none) :
    ChanActOutcome site trx n tsc b (.error (.refused (.noLchan n))) b []
  /-- The radio does not take the request. -/
  | radio {a : ChanAddr} {k : Carrier} {id : LchanId} {l : Lchan}
      (addr : ChanAddr.decode n = .ok a) (right : checkTsc tsc site.settings.tsc = .ok ())
      (carrier : b.carrier? trx = some k) (found : b.find? trx n = some (id, l)) (e : PhyError) :
    ChanActOutcome site trx n tsc b (.error (.refused (.chanAct .equipmentFailure)))
      (b.setLchan id (activating site (activationType k a n) l))
      (freeEvents l ++ (timerEvents site id a.kind (activationType k a n) ++
        downEvents trx (.mphInfoReq (.activateReq (actRequest n false))) (.error e)))
  | requested {a : ChanAddr} {k : Carrier} {id : LchanId} {l : Lchan}
      (addr : ChanAddr.decode n = .ok a) (right : checkTsc tsc site.settings.tsc = .ok ())
      (carrier : b.carrier? trx = some k) (found : b.find? trx n = some (id, l)) (h : DtxHandle) :
    ChanActOutcome site trx n tsc b (.ok ())
      (b.setLchan id (allocated site (activationType k a n) h
        (activating site (activationType k a n) l)))
      (freeEvents l ++ (timerEvents site id a.kind (activationType k a n) ++
        (downEvents trx (.mphInfoReq (.activateReq (actRequest n false))) (.ok ()) ++
          allocEvents site id (activationType k a n) h)))

/-- Goes on after the timers of a channel were set. -/
theorem Ensures.timersSet {β : Type} {kind : ChanKind} {type : LchanType} {k : Act σ φ β}
    {Q : Except Failure β → Bts → List Event → Prop}
    (h : Ensures b k fun r b' es => Q r b' (timerEvents site id kind type ++ es)) :
    Ensures b (do
      match site.settings.t200.forKind? kind with
      | some t => if type ≠ .pdtch then tell site (.setT200 id t) else pure ()
      | none => pure ()
      k : Act σ φ β) Q := by
  unfold timerEvents at h
  cases ht : site.settings.t200.forKind? kind with
  | none =>
    rw [ht] at h
    exact h
  | some t =>
    rw [ht] at h
    dsimp only at h ⊢
    split
    · rw [if_pos ‹_›] at h
      exact .actTold fun _ => h
    · rw [if_neg ‹_›] at h
      exact h

theorem chanAct_ensures (tsc : Option UInt8) :
    Ensures b (chanAct site trx n tsc) (ChanActOutcome site trx n tsc b) := by
  unfold chanAct
  cases addr : ChanAddr.decode n with
  | error e => exact .refused (.undecodable addr)
  | ok a =>
    dsimp only
    cases right : checkTsc tsc site.settings.tsc with
    | error cause => exact .refused (.wrongTsc addr right)
    | ok u =>
      refine .needCarrier (.unknownTrx addr right) fun k carrier =>
        .needLchan (.unknownLchan addr right carrier) fun ⟨id, l⟩ found => ?_
      have hl := (Bts.find?_eq_some.mp found).2
      dsimp only
      -- the record is reset and marked before the radio is asked, so that a refusal leaves the mark
      refine .actWriteLchan ?_
      rw [Bts.modifyLchan_eq_setLchan hl]
      refine .lift (freeDtx_ensures (Bts.lchan?_setLchan_self hl)) ?_
      rintro _ _ _ ⟨rfl, rfl⟩
      rw [Bts.setLchan_setLchan]
      refine .timersSet (.lift (handDown_ensures trx _) ?_)
      rintro (e | ⟨⟩) _ _ ⟨rfl, rfl⟩
      · refine .refused ?_
        rw [List.append_nil]
        exact .radio addr right carrier found e
      · have requested : ∀ h, ChanActOutcome site trx n tsc b _ _ _ :=
          .requested addr right carrier found
        unfold allocated allocEvents at requested
        change Ensures _ (if usesDtx site (activationType k a n) then _ else _) _
        -- a controller is taken only once the radio took the request
        cases hd : usesDtx site (activationType k a n) with
        | false =>
          have requested := requested ⟨0⟩
          rw [hd] at requested
          exact .succeed requested
        | true =>
          refine .lift (.ask _) ?_
          rintro h _ _ ⟨rfl, rfl⟩
          have requested := requested h
          rw [hd] at requested
          refine .actLast (.actWriteLchan (.succeed ?_))
          rw [Bts.modifyLchan_eq_setLchan (Bts.lchan?_setLchan_self hl), Bts.setLchan_setLchan]
          exact requested

/-- The channel once its release was asked for. -/
def releasing (l : Lchan) : Lchan := { l with state := .relRequested, dtx := none }

/-- A release that RSL asks for. -/
inductive ChanRelOutcome (trx n : UInt8) (b : Bts) :
    Except Failure Unit → Bts → List Event → Prop
  | unknownTrx (unknown : b.carrier? trx = none) :
    ChanRelOutcome trx n b (.error (.refused (.noSuchTrx trx))) b []
  | unknownLchan {k : Carrier} (carrier : b.carrier? trx = some k)
      (unknown : b.find? trx n = none) :
    ChanRelOutcome trx n b (.error (.refused (.noLchan n))) b []
  | requested {k : Carrier} {id : LchanId} {l : Lchan} (carrier : b.carrier? trx = some k)
      (found : b.find? trx n = some (id, l)) (answer : Except PhyError Unit) :
    ChanRelOutcome trx n b (downResult answer) (b.setLchan id (releasing l))
      (freeEvents l ++
        downEvents trx (.mphInfoReq (.deactivateReq (actRequest n false))) answer)

theorem chanRel_ensures : Ensures b (chanRel site trx n) (ChanRelOutcome trx n b) := by
  unfold chanRel
  refine .needCarrier .unknownTrx fun k carrier =>
    .needLchan (.unknownLchan carrier) fun ⟨id, l⟩ found => ?_
  have hl := (Bts.find?_eq_some.mp found).2
  refine .actWriteLchan ?_
  rw [Bts.modifyLchan_eq_setLchan hl]
  refine .lift (freeDtx_ensures (Bts.lchan?_setLchan_self hl)) ?_
  rintro _ _ _ ⟨rfl, rfl⟩
  rw [Bts.setLchan_setLchan]
  refine (down_ensures trx _).mono ?_
  rintro _ _ _ ⟨answer, rfl, rfl, rfl⟩
  exact .requested carrier found answer

/-- The end of the SACCH of a channel that RSL asks for. -/
inductive ChanDeactSacchOutcome (trx n : UInt8) (b : Bts) :
    Except Failure Unit → Bts → List Event → Prop
  | unknownTrx (unknown : b.carrier? trx = none) :
    ChanDeactSacchOutcome trx n b (.error (.refused (.noSuchTrx trx))) b []
  | unknownLchan {k : Carrier} (carrier : b.carrier? trx = some k)
      (unknown : b.find? trx n = none) :
    ChanDeactSacchOutcome trx n b (.error (.refused (.noLchan n))) b []
  | requested {k : Carrier} {id : LchanId} {l : Lchan} (carrier : b.carrier? trx = some k)
      (found : b.find? trx n = some (id, l)) (answer : Except PhyError Unit) :
    ChanDeactSacchOutcome trx n b (downResult answer)
      (b.setLchan id { l with sacchDeact := true })
      (downEvents trx (.mphInfoReq (.deactivateReq (actRequest n true))) answer)

theorem chanDeactSacch_ensures :
    Ensures b (chanDeactSacch site trx n) (ChanDeactSacchOutcome trx n b) := by
  unfold chanDeactSacch
  refine .needCarrier .unknownTrx fun k carrier =>
    .needLchan (.unknownLchan carrier) fun ⟨id, l⟩ found => ?_
  refine .actWriteLchan ?_
  rw [Bts.modifyLchan_eq_setLchan (Bts.find?_eq_some.mp found).2]
  refine (down_ensures trx _).mono ?_
  rintro _ _ _ ⟨answer, rfl, rfl, rfl⟩
  exact .requested carrier found answer

/-- The base station after a switch of a timeslot was given up. -/
def settled (trx tn : UInt8) (b : Bts) : Bts :=
  b.modifySlot trx tn fun t => { t with flags := t.flags.settle }

/-- A switch of a timeslot into or out of packet mode that RSL asks for: it is begun with the
activation or the release of the channel of the timeslot. -/
inductive PdchSwitchOutcome (site : Site σ φ) (trx tn : UInt8) (b : Bts) :
    Bool → Except Failure Unit → Bts → List Event → Prop
  | unknownTrx {toPdch : Bool} (unknown : b.carrier? trx = none) :
    PdchSwitchOutcome site trx tn b toPdch (.error (.refused (.noSuchTrx trx))) b []
  | refused {k : Carrier} {toPdch : Bool} (carrier : b.carrier? trx = some k)
      (busy : ((b.slot? trx tn).bind (·.beginSwitch? toPdch)) = none) :
    PdchSwitchOutcome site trx tn b toPdch (.error (.refused (.pdchSwitchRefused trx tn))) b []
  | begun {t t' : Timeslot} {b' : Bts} {es : List Event} (slot : b.slot? trx tn = some t)
      (begun : t.beginPdchAct? = some t')
      (inner : ChanActOutcome site trx (ChanKind.base .tchF ||| tn) none
        (b.modifySlot trx tn fun _ => t') (.ok ()) b' es) :
    PdchSwitchOutcome site trx tn b true (.ok ()) b' es
  | givenUp {t t' : Timeslot} {b' : Bts} {e : Failure} {es : List Event}
      (slot : b.slot? trx tn = some t) (begun : t.beginPdchAct? = some t')
      (inner : ChanActOutcome site trx (ChanKind.base .tchF ||| tn) none
        (b.modifySlot trx tn fun _ => t') (.error e) b' es) :
    PdchSwitchOutcome site trx tn b true (.error e) (settled trx tn b') es
  | endBegun {t t' : Timeslot} {b' : Bts} {es : List Event} (slot : b.slot? trx tn = some t)
      (begun : t.beginPdchDeact? = some t')
      (inner : ChanRelOutcome trx (ChanKind.base .tchF ||| tn)
        (b.modifySlot trx tn fun _ => t') (.ok ()) b' es) :
    PdchSwitchOutcome site trx tn b false (.ok ()) b' es
  | endGivenUp {t t' : Timeslot} {b' : Bts} {e : Failure} {es : List Event}
      (slot : b.slot? trx tn = some t) (begun : t.beginPdchDeact? = some t')
      (inner : ChanRelOutcome trx (ChanKind.base .tchF ||| tn)
        (b.modifySlot trx tn fun _ => t') (.error e) b' es) :
    PdchSwitchOutcome site trx tn b false (.error e) (settled trx tn b') es

theorem pdchSwitch_ensures (tn : UInt8) (toPdch : Bool) :
    Ensures b (pdchSwitch site trx tn toPdch) (PdchSwitchOutcome site trx tn b toPdch) := by
  unfold pdchSwitch
  refine .needCarrier .unknownTrx fun k carrier => .actRead fun w hw => ?_
  subst hw
  cases begun : (w.bts.slot? trx tn).bind (·.beginSwitch? toPdch) with
  | none => exact .refused (.refused carrier begun)
  | some t' =>
    obtain ⟨t, slot, begun⟩ := Option.bind_eq_some_iff.mp begun
    refine .actWriteSlot ?_
    cases toPdch with
    | true =>
      refine .caught (chanAct_ensures none) (fun a b' es inner => .begun slot begun inner) ?_
      intro e b' es inner
      refine .actWriteSlot (.done ?_)
      rw [List.append_nil]
      exact .givenUp slot begun inner
    | false =>
      refine .caught chanRel_ensures (fun a b' es inner => .endBegun slot begun inner) ?_
      intro e b' es inner
      refine .actWriteSlot (.done ?_)
      rw [List.append_nil]
      exact .endGivenUp slot begun inner

end BaseStation.Bridge
