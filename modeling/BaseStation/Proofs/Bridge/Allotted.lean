import BaseStation.Proofs.Bridge.Moved
import Mathlib.Logic.Function.Basic

/-!
What a move does to the type, the radio link counter and the controller of discontinuous
transmission of the channels. They change together with an activation, and else the counter only
with a frame on the SACCH, and the controller only with a release. The reports on failed links, the
calls on the party that keeps the controllers and the activations asked of the radio go with these
changes.
-/

namespace BaseStation

/-! ### Allotments -/

/-- What an activation allots to a channel. -/
structure Allotment where
  type : LchanType
  /-- The radio link counter S. -/
  s : Int
  dtx : Option DtxHandle
deriving DecidableEq

def Lchan.allotment (l : Lchan) : Allotment := ⟨l.type, l.s, l.dtx⟩

namespace Bts

variable {b b' : Bts} {trx tn : UInt8} {id : LchanId} {l l' : Lchan} {f : Timeslot → Timeslot}

/-- The allotments of the channels that exist. -/
def allotted (b : Bts) (id : LchanId) : Option Allotment := (b.lchan? id).map Lchan.allotment

theorem allotted_of_lchan? (known : b.lchan? id = some l) : b.allotted id = some l.allotment := by
  unfold allotted
  rw [known, Option.map_some]

theorem allotted_congr (same : ∀ id, b'.lchan? id = b.lchan? id) : b'.allotted = b.allotted := by
  funext id
  unfold allotted
  rw [same]

/-- The counters and the time have no part in the allotments. -/
theorem allotted_of_carriers (same : b'.carriers = b.carriers) : b'.allotted = b.allotted := by
  funext id
  unfold allotted lchan? slot? carrier?
  rw [same]

theorem allotted_modifySlot (same : ∀ t, (f t).lchans = t.lchans) :
    (b.modifySlot trx tn f).allotted = b.allotted :=
  allotted_congr fun _ => lchan?_modifySlot same

theorem allotted_setLchan (known : b.lchan? id = some l) :
    (b.setLchan id l').allotted = Function.update b.allotted id (some l'.allotment) := by
  funext j
  unfold allotted
  rw [lchan?_setLchan]
  by_cases here : id = j
  · subst here
    rw [if_pos rfl, known, Function.update_self]
    rfl
  · rw [if_neg here, Function.update_of_ne (Ne.symm here)]

/-- A new record with the same allotment changes none. -/
theorem allotted_setLchan_same (known : b.lchan? id = some l) (same : l'.allotment = l.allotment) :
    (b.setLchan id l').allotted = b.allotted := by
  rw [allotted_setLchan known, same, ← allotted_of_lchan? known, Function.update_eq_self]

end Bts

namespace Bridge

variable {σ φ : Type} {site : Site σ φ} {b b' : Bts} {trx tn n : UInt8} {id : LchanId}
  {l l' : Lchan} {r : Except Failure Unit} {es : List Event} {m : Move}

/-! ### Events that go with allotments -/

def Event.isAllotment : Event → Bool
  | .call (.connectionFailure ..) _ | .call (.dtxAlloc _) _ | .call (.dtxFree _) _
  | .call (.dtxFacch _) _ | .down _ (.mphInfoReq (.activateReq _)) _ => true
  | _ => false

/-- The reports on failed links, the calls on the controllers of discontinuous transmission and the
activations asked of the radio. -/
def allotments (es : List Event) : List Event := es.filter Event.isAllotment

theorem allotments_append (es fs : List Event) :
    allotments (es ++ fs) = allotments es ++ allotments fs := List.filter_append es fs

@[simp] theorem allotments_downEvents {p : Prim} {a : Except PhyError Unit} :
    allotments (downEvents trx p a) = if (Event.down trx p a).isAllotment then [.down trx p a]
      else [] := by
  unfold downEvents allotments
  rw [List.filter_cons]
  rcases a with e | ⟨⟩
  · cases e <;> rfl
  · rfl

@[simp] theorem allotments_requestEvents {q : Option CipherRequest} {a : Except PhyError Unit} :
    allotments (requestEvents trx q a) = [] := by
  cases q with
  | none => rfl
  | some c => exact allotments_downEvents

@[simp] theorem allotments_facchEvents :
    allotments (facchEvents site l) = facchEvents site l := by
  unfold facchEvents
  split
  · split <;> rfl
  · rfl

@[simp] theorem allotments_voiceEvents : allotments (voiceEvents id l) = [] := by
  unfold voiceEvents
  rw [allotments_append]
  have first : allotments (if !l.loopback && l.hasRtp then
      [.call (.voicePoll id) (), .call (.voiceAdvance id voiceSamples) ()] else []) = [] := by
    split <;> rfl
  rw [first]
  cases l.pendingRelInd <;> rfl

@[simp] theorem allotments_voiceUpEvents {t : TchData} :
    allotments (voiceUpEvents site id l t) = [] := by
  unfold voiceUpEvents
  split <;> rfl

@[simp] theorem allotments_handoverEvents : allotments (handoverEvents id l) = [] := by
  unfold handoverEvents
  split <;> rfl

@[simp] theorem allotments_headerEvents {rssi : Int8} {header : List UInt8}
    {level : Option UInt8} : allotments (headerEvents id l rssi header level) = [] := by
  unfold headerEvents
  split <;> rfl

@[simp] theorem allotments_deliverEvents {d : PhData} {a : Except PhyError Unit} :
    allotments (deliverEvents trx id l d a) = [] := by
  unfold deliverEvents
  rw [allotments_append, allotments_requestEvents]
  rfl

@[simp] theorem allotments_timerEvents {kind : ChanKind} {type : LchanType} :
    allotments (timerEvents site id kind type) = [] := by
  unfold timerEvents
  split
  · split <;> rfl
  · rfl

@[simp] theorem allotments_superviseEvents {bad : Bool} :
    allotments (superviseEvents site id l bad) = superviseEvents site id l bad := by
  unfold superviseEvents
  split <;> rfl

@[simp] theorem allotments_freeEvents : allotments (freeEvents l) = freeEvents l := by
  unfold freeEvents
  split <;> rfl

@[simp] theorem allotments_allocEvents {type : LchanType} {h : DtxHandle} :
    allotments (allocEvents site id type h) = allocEvents site id type h := by
  unfold allocEvents
  split <;> rfl

/-! ### What a move does -/

/-- The move brings a frame on the SACCH of the active channel `id`, outside packet mode; the
answer is whether it could not be decoded. -/
def Move.sacchFrame? (b : Bts) (id : LchanId) : Move → Option Bool
  | .input (.up trx (.phDataInd d)) _ =>
    if isSacchLink d.linkId = true ∧ (b.findActive? trx d.chanNr).map (·.1) = some id ∧
        (b.slot? trx (chanTn d.chanNr)).map (·.isPdch) = some false then
      some d.frame.isEmpty
    else none
  | _ => none

/-- The controller that was asked for, if one was. -/
def grantEvents (id : LchanId) (grant : Option DtxHandle) : List Event :=
  match grant with
  | some h => [.call (.dtxAlloc id) h]
  | none => []

/-- What a move does to the allotments, with the events that go with it. -/
inductive Allotting (site : Site σ φ) (b : Bts) (m : Move) (b' : Bts) (es : List Event) : Prop
  | steady (same : b'.allotted = b.allotted) (quiet : allotments es = [])
  /-- A block goes out on the main channel. -/
  | sent {trx : UInt8} {p : PhRts} {o : (Input.up trx (.phRtsInd p)).isDown = false}
      {id : LchanId} {l : Lchan} (move : m = .input (.up trx (.phRtsInd p)) o)
      (found : b.findActive? trx p.chanNr = some (id, l)) (f : Frame)
      (answer : Except PhyError Unit)
      (taken : .call (.dequeue id .dcch) (some f) ∈ es)
      (handed : .down trx (.phDataReq (.request p.chanNr p.linkId p.fn
        (.ofL2 (padTo blockLength f.octets)))) answer ∈ es)
      (same : b'.allotted = b.allotted) (told : allotments es = facchEvents site l)
  /-- A frame on the SACCH is counted. -/
  | supervised {id : LchanId} {l : Lchan} (known : b.lchan? id = some l) (bad : Bool)
      (frame : m.sacchFrame? b id = some bad)
      (after : b'.allotted =
        Function.update b.allotted id (some (supervised site l bad).allotment))
      (told : allotments es = superviseEvents site id l bad)
  /-- An activation is asked for. -/
  | activated {trx n : UInt8} {id : LchanId} {l : Lchan} (located : b.locate? trx n = some id)
      (known : b.lchan? id = some l) (type : LchanType) (answer : Except PhyError Unit)
      (grant : Option DtxHandle) (granted : grant.isSome = true → usesDtx site type = true)
      (after : b'.allotted =
        Function.update b.allotted id (some ⟨type, site.settings.radioLinkTimeout, grant⟩))
      (told : allotments es = freeEvents l ++
        .down trx (.mphInfoReq (.activateReq (actRequest n false))) answer ::
          grantEvents id grant)
  /-- A release is asked for. -/
  | released {id : LchanId} {l : Lchan} (known : b.lchan? id = some l)
      (after : b'.allotted = Function.update b.allotted id (some ⟨l.type, l.s, none⟩))
      (told : allotments es = freeEvents l)

namespace Allotting

theorem idle (quiet : allotments es = []) : Allotting site b m b es := .steady rfl quiet

/-- A record changes apart from its allotment. -/
theorem record (known : b.lchan? id = some l) (same : l'.allotment = l.allotment)
    (quiet : allotments es = []) : Allotting site b m (b.setLchan id l') es :=
  .steady (Bts.allotted_setLchan_same known same) quiet

theorem active (found : b.findActive? trx n = some (id, l)) (same : l'.allotment = l.allotment)
    (quiet : allotments es = []) : Allotting site b m (b.setLchan id l') es :=
  .record (lchan?_of_findActive? found) same quiet

/-- What is done afterwards may leave the allotments alone. -/
theorem andThen {b'' : Bts} (h : Allotting site b m b' es) (same : b''.allotted = b'.allotted) :
    Allotting site b m b'' es := by
  cases h with
  | steady after quiet => exact .steady (same.trans after) quiet
  | sent move found f answer taken handed after told =>
    exact .sent move found f answer taken handed (same.trans after) told
  | supervised known bad frame after told =>
    exact .supervised known bad frame (same.trans after) told
  | activated located known type answer grant granted after told =>
    exact .activated located known type answer grant granted (same.trans after) told
  | released known after told => exact .released known (same.trans after) told

end Allotting

/-! ### Parts of records -/

theorem allotment_checkDownlink (xs : List UInt8) :
    (l.checkDownlink n xs).1.allotment = l.allotment := by
  obtain ⟨c, ns, h⟩ := checkDownlink_eq l n xs
  rw [h]
  rfl

theorem allotment_checkUplink (xs : List UInt8) :
    (l.checkUplink n xs).1.allotment = l.allotment := by
  obtain ⟨c, h⟩ := checkUplink_eq l n xs
  rw [h]
  rfl

theorem allotment_confirmCipher (c : CipherConfirm) :
    (l.confirmCipher c).1.allotment = l.allotment := by
  obtain ⟨k, h⟩ := confirmCipher_eq l c
  rw [h]
  rfl

theorem allotment_voiceReceived (f : VoiceFrame) :
    (voiceReceived f l).allotment = l.allotment := by
  obtain ⟨q, h⟩ := voiceReceived_eq f l
  rw [h]
  rfl

theorem allotment_delayStored (p : PhRach) : (delayStored p l).allotment = l.allotment := by
  obtain ⟨m, h⟩ := delayStored_eq p l
  rw [h]
  rfl

/-- Supervision has no part in a handover. -/
theorem supervised_handover (h : HandoverState) (bad : Bool) :
    (supervised site { l with handover := h } bad).allotment =
      (supervised site l bad).allotment := by
  unfold supervised Lchan.onSacchFrame
  split
  · rfl
  · split
    · rfl
    · split <;> rfl

theorem superviseEvents_handover (h : HandoverState) (bad : Bool) :
    superviseEvents site id { l with handover := h } bad = superviseEvents site id l bad := by
  unfold superviseEvents Lchan.onSacchFrame
  congr 1
  dsimp only
  split
  · rfl
  · split
    · rfl
    · split <;> rfl

/-! ### Opportunities and receptions -/

theorem CircuitBlock.allotting {p : PhRts} {o : (Input.up trx (.phRtsInd p)).isDown = false}
    {kind : ChanKind} {f : Frame} {q : Option CipherRequest} {fs : List Event}
    {answer : Except PhyError Unit} (block : CircuitBlock site trx p b kind f q b' es)
    (rest : allotments fs = [])
    (handed : .down trx (.phDataReq (.request p.chanNr p.linkId p.fn f)) answer ∈ fs) :
    Allotting site b (.input (.up trx (.phRtsInd p)) o) b' (es ++ fs) := by
  have quiet {es : List Event} (none : allotments es = []) : allotments (es ++ fs) = [] := by
    rw [allotments_append, none, rest]
    rfl
  cases block with
  | broadcast => exact .idle (quiet rfl)
  | paging => exact .idle (quiet rfl)
  | silent => exact .idle (quiet rfl)
  | inactive => exact .idle (quiet rfl)
  | sacch => exact .idle (quiet rfl)
  | idle => exact .idle (quiet rfl)
  | filling _ found => exact .active found rfl (quiet rfl)
  | main _ found _ f =>
    refine .sent rfl found f answer (by simp) (List.mem_append_right _ handed)
      (Bts.allotted_setLchan_same (lchan?_of_findActive? found) (allotment_checkDownlink _)) ?_
    rw [allotments_append, rest, List.append_nil]
    exact allotments_facchEvents

theorem RtsOutcome.allotting {p : PhRts} {o : (Input.up trx (.phRtsInd p)).isDown = false}
    (h : RtsOutcome site trx p b r b' es) :
    Allotting site b (.input (.up trx (.phRtsInd p)) o) b' es := by
  cases h with
  | undecodable => exact .idle rfl
  | unknownTrx => exact .idle rfl
  | packet => exact .idle rfl
  | looped _ _ _ found => exact .active found rfl allotments_downEvents
  | circuit _ _ _ block answer answer' =>
    refine block.allotting ?_ (List.mem_append_right _ List.mem_cons_self)
    rw [allotments_append, allotments_requestEvents, List.nil_append]
    exact allotments_downEvents

theorem TchRtsOutcome.allotting {p : TchRts} (h : TchRtsOutcome trx p b r b' es) :
    Allotting site b m b' es := by
  have voiceless {f : Option VoiceFrame} {a : Except PhyError Unit} :
      allotments (downEvents trx (voiceRequest p f) a) = [] := by
    obtain ⟨t, request, -, -⟩ := voiceRequest_eq p f
    rw [request]
    exact allotments_downEvents
  cases h with
  | unknownTrx => exact .idle rfl
  | inactive => exact .idle voiceless
  | active _ found =>
    refine .active found rfl ?_
    rw [allotments_append, allotments_voiceEvents, voiceless]
    rfl

/-- A frame on the SACCH of an active channel, outside packet mode. -/
theorem sacchFrame?_eq {d : PhData} {o : (Input.up trx (.phDataInd d)).isDown = false}
    {c : Carrier} (carrier : b.carrier? trx = some c)
    (circuit : (c.slotOf d.chanNr).isPdch = false)
    (found : b.findActive? trx d.chanNr = some (id, l)) (link : isSacchLink d.linkId = true) :
    (Move.input (.up trx (.phDataInd d)) o).sacchFrame? b id = some d.frame.isEmpty := by
  refine if_pos ⟨link, by rw [found, Option.map_some], ?_⟩
  rw [Bts.slot?_slotOf carrier, Option.map_some, circuit]

theorem DataOutcome.allotting {d : PhData} {o : (Input.up trx (.phDataInd d)).isDown = false}
    (h : DataOutcome site trx d b r b' es) :
    Allotting site b (.input (.up trx (.phDataInd d)) o) b' es := by
  cases h with
  | unknownTrx => exact .idle rfl
  | packetBad => exact .idle rfl
  | packetPartial => exact .idle rfl
  | packetData => exact .idle rfl
  | inactive => exact .idle rfl
  | badMain => exact .idle rfl
  | looped _ _ found => exact .record (Bts.find?_eq_some.mp found).2 rfl rfl
  -- only a frame on the SACCH is counted
  | badSacch carrier circuit found link bad =>
    have known := lchan?_of_findActive? found
    refine .supervised known true ?_ (Bts.allotted_setLchan known) allotments_superviseEvents
    rw [sacchFrame?_eq carrier circuit found link, bad]
  | main _ _ found =>
    refine .active found (allotment_checkUplink _) ?_
    rw [allotments_append, allotments_handoverEvents, allotments_deliverEvents]
    rfl
  | shortSacch carrier circuit found link good =>
    have known := lchan?_of_findActive? found
    refine .supervised known false ?_ ?_ ?_
    · rw [sacchFrame?_eq carrier circuit found link, good]
    · rw [Bts.allotted_setLchan known, supervised_handover]
    · rw [allotments_append, allotments_handoverEvents, allotments_superviseEvents,
        superviseEvents_handover]
      rfl
  | sacch carrier circuit found link good _ level _ header =>
    have known := lchan?_of_findActive? found
    refine .supervised known false ?_ ?_ ?_
    · rw [sacchFrame?_eq carrier circuit found link, good]
    · rw [Bts.allotted_setLchan known, allotment_checkUplink, header, ← supervised_handover]
      rfl
    · simp only [allotments_append, allotments_handoverEvents, allotments_superviseEvents,
        allotments_headerEvents, allotments_deliverEvents, superviseEvents_handover,
        List.append_nil, List.nil_append]

theorem TchOutcome.allotting {t : TchData} (h : TchOutcome site trx t b r b' es) :
    Allotting site b m b' es := by
  cases h with
  | unknownTrx => exact .idle rfl
  | inactive => exact .idle rfl
  | looped _ found => exact .active found rfl allotments_voiceUpEvents
  | taken _ found => exact .active found rfl allotments_voiceUpEvents

theorem MeasuredOutcome.allotting {x : Measured} (h : MeasuredOutcome trx x b r b' es) :
    Allotting site b m b' es := by
  cases h with
  | measured _ found => exact .active found rfl rfl
  | _ => exact .idle rfl

theorem TimeOutcome.allotting {fn : UInt32} (h : TimeOutcome site trx fn b r b' es) :
    Allotting site b m b' es := by
  cases h with
  | secondary => exact .idle rfl
  | primary => exact .steady (Bts.allotted_of_carriers rfl) rfl

theorem allotted_busyCounted {p : PhRach} : (busyCounted p b).allotted = b.allotted :=
  Bts.allotted_congr fun _ => lchan?_busyCounted

theorem allotted_delayKept {p : PhRach} : (delayKept trx p b).allotted = b.allotted := by
  unfold delayKept
  split
  · rename_i id l found
    exact Bts.allotted_setLchan_same (Bts.find?_eq_some.mp found).2 (allotment_delayStored p)
  · rfl

theorem allotted_accessCounted : (accessCounted b).allotted = b.allotted :=
  Bts.allotted_of_carriers rfl

theorem RachOutcome.allotting {p : PhRach} (h : RachOutcome site trx p b r b' es) :
    Allotting site b m b' es := by
  cases h with
  | @handover _ id l _ _ found taken =>
    have known : (busyCounted p b).lchan? id = some l :=
      lchan?_busyCounted.trans (Bts.find?_eq_some.mp found).2
    refine .steady ((Bts.allotted_setLchan_same known ?_).trans allotted_busyCounted) rfl
    have same := allotment_delayStored (l := l) p
    generalize delayStored p l = stored at same ⊢
    rw [← same]
    split <;> rfl
  | packet =>
    exact .steady (by rw [allotted_accessCounted, allotted_delayKept, allotted_busyCounted]) rfl
  | request =>
    exact .steady (by rw [allotted_accessCounted, allotted_delayKept, allotted_busyCounted]) rfl
  | _ => exact .steady allotted_busyCounted rfl

/-! ### Channel control -/

theorem ActivateCnfOutcome.allotting {c : ActConfirm} (h : ActivateCnfOutcome trx c b r b' es) :
    Allotting site b m b' es := by
  cases h with
  | unknownTrx => exact .idle rfl
  | unknownLchan => exact .idle rfl
  | confirmed _ found =>
    refine .steady ?_ (by split <;> rfl)
    rw [Bts.allotted_modifySlot fun _ => lchans_afterActivation]
    exact Bts.allotted_setLchan_same (Bts.find?_eq_some.mp found).2 rfl

theorem DeactivateCnfOutcome.allotting {c : ActConfirm}
    (h : DeactivateCnfOutcome trx c b r b' es) : Allotting site b m b' es := by
  have reset {id : LchanId} {l : Lchan} (found : b.find? trx c.chanNr = some (id, l)) :
      ((b.setLchan id l.resetAfterRelease).modifySlot trx (chanTn c.chanNr)
        fun t => (afterRelease t).1).allotted = b.allotted := by
    rw [Bts.allotted_modifySlot fun _ => lchans_afterRelease]
    exact Bts.allotted_setLchan_same (Bts.find?_eq_some.mp found).2 rfl
  cases h with
  | unknownTrx => exact .idle rfl
  | unknownLchan => exact .idle rfl
  | sacchOnly => exact .idle rfl
  | released _ found => exact .steady (reset found) rfl
  | switched _ found => exact .steady (reset found) rfl

theorem CipherCnfOutcome.allotting {c : CipherConfirm} (h : CipherCnfOutcome trx c b r b' es) :
    Allotting site b m b' es := by
  cases h with
  | unknownTrx => exact .idle rfl
  | unknownLchan => exact .idle rfl
  | confirmed _ found =>
    exact .record (Bts.find?_eq_some.mp found).2 (allotment_confirmCipher c) rfl

theorem ChanDeactSacchOutcome.allotting (h : ChanDeactSacchOutcome trx n b r b' es) :
    Allotting site b m b' es := by
  cases h with
  | unknownTrx => exact .idle rfl
  | unknownLchan => exact .idle rfl
  | requested _ found =>
    exact .record (Bts.find?_eq_some.mp found).2 rfl allotments_downEvents

section Requests

variable {b₀ : Bts} (same : ∀ j, b.lchan? j = b₀.lchan? j)
include same

theorem ChanActOutcome.allotting {tsc : Option UInt8}
    (h : ChanActOutcome site trx n tsc b r b' es) : Allotting site b₀ m b' es := by
  have unchanged : b.allotted = b₀.allotted := Bts.allotted_congr same
  have located {id : LchanId} {l : Lchan} (found : b.find? trx n = some (id, l)) :
      b₀.locate? trx n = some id := by
    rw [← locate?_congr same]
    exact (Bts.find?_eq_some.mp found).1
  cases h with
  -- refused, the channel holds no handle, but its counter starts again
  | @radio a k id l _ _ _ found e =>
    have known := (Bts.find?_eq_some.mp found).2
    refine .activated (located found) ((same id).symm.trans known) (activationType k a n) (.error e)
      none (fun granted => absurd granted Bool.false_ne_true) ?_ ?_
    · rw [Bts.allotted_setLchan known, unchanged]
      rfl
    · rw [allotments_append, allotments_append, allotments_freeEvents, allotments_timerEvents,
        allotments_downEvents]
      rfl
  | @requested a k id l _ _ _ found handle =>
    have known := (Bts.find?_eq_some.mp found).2
    refine .activated (located found) ((same id).symm.trans known) (activationType k a n) (.ok ())
      (if usesDtx site (activationType k a n) then some handle else none) ?_ ?_ ?_
    · intro granted
      by_contra unused
      simp [unused] at granted
    · rw [Bts.allotted_setLchan known, unchanged]
      unfold allocated
      split <;> rfl
    · rw [allotments_append, allotments_append, allotments_append, allotments_freeEvents,
        allotments_timerEvents, allotments_downEvents, allotments_allocEvents]
      unfold allocEvents
      cases usesDtx site (activationType k a n) <;> rfl
  | _ => exact .steady unchanged rfl

theorem ChanRelOutcome.allotting (h : ChanRelOutcome trx n b r b' es) :
    Allotting site b₀ m b' es := by
  have unchanged : b.allotted = b₀.allotted := Bts.allotted_congr same
  cases h with
  | unknownTrx => exact .steady unchanged rfl
  | unknownLchan => exact .steady unchanged rfl
  | requested _ found answer =>
    have known := (Bts.find?_eq_some.mp found).2
    refine .released ((same _).symm.trans known) ?_ ?_
    · rw [Bts.allotted_setLchan known, unchanged]
      rfl
    · rw [allotments_append, allotments_freeEvents, allotments_downEvents]
      exact List.append_nil _

end Requests

theorem PdchSwitchOutcome.allotting {toPdch : Bool}
    (h : PdchSwitchOutcome site trx tn b toPdch r b' es) : Allotting site b m b' es := by
  have given {b' : Bts} : (settled trx tn b').allotted = b'.allotted :=
    Bts.allotted_modifySlot fun _ => rfl
  cases h with
  | unknownTrx => exact .idle rfl
  | refused => exact .idle rfl
  | begun slot begun inner =>
    exact inner.allotting fun _ => lchan?_begun slot (lchans_beginPdchAct begun)
  | givenUp slot begun inner =>
    exact (inner.allotting fun _ => lchan?_begun slot (lchans_beginPdchAct begun)).andThen given
  | endBegun slot begun inner =>
    exact inner.allotting fun _ => lchan?_begun slot (lchans_beginPdchDeact begun)
  | endGivenUp slot begun inner =>
    exact (inner.allotting fun _ => lchan?_begun slot (lchans_beginPdchDeact begun)).andThen given

/-! ### All moves -/

theorem StepOutcome.allotting {i : Input} {o : i.isDown = false}
    (h : StepOutcome site b i r b' es) : Allotting site b (.input i o) b' es := by
  cases h with
  | time outcome => exact outcome.allotting
  | measured outcome => exact outcome.allotting
  | activateCnf outcome => exact outcome.allotting
  | deactivateCnf outcome => exact outcome.allotting
  | cipherCnf outcome => exact outcome.allotting
  | indicated => exact .idle rfl
  | confirmed => exact .idle rfl
  | rts outcome => exact outcome.allotting
  | tchRts outcome => exact outcome.allotting
  | data outcome => exact outcome.allotting
  | tch outcome => exact outcome.allotting
  | rach outcome => exact outcome.allotting
  | unknown => exact .idle rfl
  | down => cases o
  | chanAct outcome => exact outcome.allotting fun _ => rfl
  | chanRel outcome => exact outcome.allotting fun _ => rfl
  | chanDeactSacch outcome => exact outcome.allotting
  | chanModify => exact .idle allotments_downEvents
  | pdchSwitch outcome => exact outcome.allotting
  | packetReq => exact .idle allotments_downEvents
  | voiceRx known => exact .record known (allotment_voiceReceived _) rfl
  | voiceDropped => exact .idle rfl

/-- What a lawful turn does to the allotments. -/
theorem Turn.Lawful.allotting {t : Turn} (lawful : t.Lawful site) :
    Allotting site t.before t.move t.after t.events := by
  obtain ⟨before, m, r, events, after⟩ := t
  cases m with
  | input i o => exact StepOutcome.allotting lawful
  | write id x =>
    obtain ⟨-, written, quiet⟩ := lawful
    dsimp only at written quiet ⊢
    subst written quiet
    cases known : before.lchan? id with
    | none => exact .steady (by rw [Bts.modifyLchan_of_none known]) rfl
    | some l =>
      rw [Bts.modifyLchan_eq_setLchan known]
      exact .record known (by cases x <;> rfl) rfl

end Bridge
end BaseStation
