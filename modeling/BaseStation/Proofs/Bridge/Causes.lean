import BaseStation.Proofs.Bridge.Slot

/-!
Where events come from. Each event of a step is one that its input can cause, and if it is about a
channel, this is the one that the input names. What a kind of input never does is read off here,
whatever way the handling of it goes.
-/

namespace BaseStation.Bridge

variable {σ φ α : Type} {site : Site σ φ} {b b' b₁ : Bts} {trx tn n : UInt8} {id : LchanId}
  {l : Lchan} {i : Input} {r : Except Failure Unit} {e : Event} {es : List Event}

/-! ### Causes -/

/-- The channel that an input is about, if it exists. -/
def Input.target? (b : Bts) (i : Input) : Option LchanId := i.address?.bind (·.resolve b)

/-- The input asks for the activation, the release or the modification of a channel. -/
def Input.isRequest : Input → Bool
  | chanAct .. | chanRel .. | chanDeactSacch .. | chanModify .. | pdchSwitch .. => true
  | _ => false

/-- The events that an input can cause. -/
inductive Causes (site : Site σ φ) (b : Bts) : Input → Event → Prop
  /-- Any input may be reported on; the report is on no channel. -/
  | alarm {i : Input} {report : Alarm} (nowhere : report.lchan = none) :
    Causes site b i (.call (.alarm report) ())
  | order {trx : UInt8} {p : Prim} {a : Except PhyError Unit} :
    Causes site b (.down trx p) (.down trx p a)
  | packetTime {trx : UInt8} {fn : UInt32} :
    Causes site b (.up trx (.mphInfoInd (.time fn))) (.call (.packetTime fn) ())
  | measure {trx : UInt8} {m : Measured} {id : LchanId} {meas a : Measurements}
      (located : b.locate? trx m.chanNr = some id) :
    Causes site b (.up trx (.mphInfoInd (.measured m))) (.call (.measure id meas m.fn) a)
  | activationDone {trx : UInt8} {c : ActConfirm} {id : LchanId}
      (located : b.locate? trx c.chanNr = some id) :
    Causes site b (.up trx (.mphInfoCnf (.activateCnf c))) (.call (.activationDone id c.cause) ())
  | entered {trx : UInt8} {c : ActConfirm} {ok : Bool} :
    Causes site b (.up trx (.mphInfoCnf (.activateCnf c)))
      (.call (.switchDone trx (chanTn c.chanNr) ok) ())
  | releaseDone {trx : UInt8} {c : ActConfirm} {id : LchanId}
      (located : b.locate? trx c.chanNr = some id) :
    Causes site b (.up trx (.mphInfoCnf (.deactivateCnf c))) (.call (.releaseDone id) ())
  | tornDown {trx : UInt8} {c : ActConfirm} {a : Except PhyError Unit} :
    Causes site b (.up trx (.mphInfoCnf (.deactivateCnf c))) (.disconnect trx (chanTn c.chanNr) a)
  | left {trx : UInt8} {c : ActConfirm} {ok : Bool} :
    Causes site b (.up trx (.mphInfoCnf (.deactivateCnf c)))
      (.call (.switchDone trx (chanTn c.chanNr) ok) ())
  | bcchBlock {trx : UInt8} {p : PhRts} {t : GsmTime} {a : Option MacBlock} :
    Causes site b (.up trx (.phRtsInd p)) (.call (.bcchBlock t) a)
  | ccchBlock {trx : UInt8} {p : PhRts} {t : GsmTime} {agch : Bool} {a : Option MacBlock} :
    Causes site b (.up trx (.phRtsInd p)) (.call (.ccchBlock t agch) a)
  | dequeue {trx : UInt8} {p : PhRts} {id : LchanId} {link : Link} {a : Option Frame}
      (located : b.locate? trx p.chanNr = some id) :
    Causes site b (.up trx (.phRtsInd p)) (.call (.dequeue id link) a)
  | dtxFacch {trx : UInt8} {p : PhRts} {h : DtxHandle} :
    Causes site b (.up trx (.phRtsInd p)) (.call (.dtxFacch h) ())
  | packetRts {trx : UInt8} {p : PhRts} {x : PacketRts} :
    Causes site b (.up trx (.phRtsInd p)) (.call (.packetRts x) ())
  | uplinkCipher {trx : UInt8} {p : PhRts} {id : LchanId} {a : Except PhyError Unit}
      (located : b.locate? trx p.chanNr = some id) :
    Causes site b (.up trx (.phRtsInd p))
      (.down trx (.mphInfoReq (.cipherReq ⟨p.chanNr, false, true⟩)) a)
  | block {trx : UInt8} {p : PhRts} {f : Frame} {a : Except PhyError Unit} :
    Causes site b (.up trx (.phRtsInd p))
      (.down trx (.phDataReq (.request p.chanNr p.linkId p.fn f)) a)
  | voicePoll {trx : UInt8} {p : TchRts} {id : LchanId}
      (located : b.locate? trx p.chanNr = some id) :
    Causes site b (.up trx (.tchRtsInd p)) (.call (.voicePoll id) ())
  | voiceAdvance {trx : UInt8} {p : TchRts} {id : LchanId} {samples : UInt32}
      (located : b.locate? trx p.chanNr = some id) :
    Causes site b (.up trx (.tchRtsInd p)) (.call (.voiceAdvance id samples) ())
  | releaseIndication {trx : UInt8} {p : TchRts} {id : LchanId} {msg : List UInt8}
      (located : b.locate? trx p.chanNr = some id) :
    Causes site b (.up trx (.tchRtsInd p)) (.call (.releaseIndication id msg) ())
  | voice {trx : UInt8} {p : TchRts} {d : TchData} {a : Except PhyError Unit} :
    Causes site b (.up trx (.tchRtsInd p)) (.down trx (.tchReq d) a)
  | packetData {trx : UInt8} {d : PhData} {x : PacketData} :
    Causes site b (.up trx (.phDataInd d)) (.call (.packetData x) ())
  | connectionFailure {trx : UInt8} {d : PhData} {id : LchanId} {cause : RslCause}
      (located : b.locate? trx d.chanNr = some id) :
    Causes site b (.up trx (.phDataInd d)) (.call (.connectionFailure id cause) ())
  | handoverFrame {trx : UInt8} {d : PhData} {id : LchanId}
      (located : b.locate? trx d.chanNr = some id) :
    Causes site b (.up trx (.phDataInd d)) (.call (.handoverFrame id) ())
  | powerControl {trx : UInt8} {d : PhData} {id : LchanId} {power : UInt8} {rssi : Int8}
      {a : Option UInt8} (located : b.locate? trx d.chanNr = some id) :
    Causes site b (.up trx (.phDataInd d)) (.call (.powerControl id power rssi) a)
  | downlinkCipher {trx : UInt8} {d : PhData} {id : LchanId} {a : Except PhyError Unit}
      (located : b.locate? trx d.chanNr = some id) :
    Causes site b (.up trx (.phDataInd d))
      (.down trx (.mphInfoReq (.cipherReq ⟨d.chanNr, true, false⟩)) a)
  | dataUp {trx : UInt8} {d d' : PhData} {id : LchanId} {link : Link}
      (located : b.locate? trx d.chanNr = some id) :
    Causes site b (.up trx (.phDataInd d)) (.call (.dataUp id link d') ())
  | voiceUp {trx : UInt8} {d : TchData} {id : LchanId} {v : VoiceUplink}
      (located : b.locate? trx d.chanNr = some id) :
    Causes site b (.up trx (.tchInd d)) (.call (.voiceUp id v) ())
  | handoverAccess {trx : UInt8} {p : PhRach} {id : LchanId} {a : Bool}
      (located : b.locate? trx p.chanNr = some id) :
    Causes site b (.up trx (.phRachInd p)) (.call (.handoverAccess id p.ra p.delay) a)
  | packetAccess {trx : UInt8} {p : PhRach} :
    Causes site b (.up trx (.phRachInd p)) (.call (.packetAccess p.packetAccess) ())
  /-- An ordinary channel request is not for the channel of the burst. -/
  | accessUp {trx : UInt8} {p : PhRach} {q : ChannelRequest}
      (route : p.route trx site.settings.maxTa = .linkLayer)
      (carrier : ∃ c, b.carrier? trx = some c) :
    Causes site b (.up trx (.phRachInd p)) (.call (.accessUp (commonLchan trx) q) ())
  | dtxFree {i : Input} {h : DtxHandle} (request : i.isRequest = true) :
    Causes site b i (.call (.dtxFree h) ())
  | setT200 {i : Input} {id : LchanId} {t : T200Set} (request : i.isRequest = true)
      (target : i.target? b = some id) : Causes site b i (.call (.setT200 id t) ())
  | dtxAlloc {i : Input} {id : LchanId} {h : DtxHandle} (request : i.isRequest = true)
      (target : i.target? b = some id) : Causes site b i (.call (.dtxAlloc id) h)
  | activateReq {i : Input} {trx : UInt8} {q : ActRequest} {a : Except PhyError Unit}
      (request : i.isRequest = true) :
    Causes site b i (.down trx (.mphInfoReq (.activateReq q)) a)
  | deactivateReq {i : Input} {trx : UInt8} {q : ActRequest} {a : Except PhyError Unit}
      (request : i.isRequest = true) :
    Causes site b i (.down trx (.mphInfoReq (.deactivateReq q)) a)
  | modifyReq {i : Input} {trx : UInt8} {q : ActRequest} {a : Except PhyError Unit}
      (request : i.isRequest = true) :
    Causes site b i (.down trx (.mphInfoReq (.modifyReq q)) a)
  | packetBlock {q : PacketRequest} {a : Except PhyError Unit} :
    Causes site b (.packetReq q) (.down q.trx (.phDataReq (.request
      (ChanKind.base .tchF ||| q.tn) 0 q.fn (.ofL2 q.data))) a)

/-! ### Parts of handlers -/

theorem causes_downEvents {p : Prim} {a : Except PhyError Unit}
    (order : Causes site b i (.down trx p a)) :
    ∀ e ∈ downEvents trx p a, Causes site b i e := by
  have report : ∀ what, Causes site b i (.call (.alarm (unsupportedAlarm trx p what)) ()) :=
    fun _ => .alarm rfl
  unfold downEvents
  rcases a with e | ⟨⟩
  · cases e <;> simp [order, report]
  · simp [order]

theorem causes_requestEvents {q : Option CipherRequest} {a : Except PhyError Unit}
    (order : ∀ c, q = some c → Causes site b i (.down trx (.mphInfoReq (.cipherReq c)) a)) :
    ∀ e ∈ requestEvents trx q a, Causes site b i e := by
  cases q with
  | none => exact List.forall_mem_nil _
  | some c => exact causes_downEvents (order c rfl)

theorem located_of_find? (found : b.find? trx n = some (id, l)) : b.locate? trx n = some id :=
  (Bts.find?_eq_some.mp found).1

theorem located_of_findActive? (h : b.findActive? trx n = some (id, l)) :
    b.locate? trx n = some id :=
  located_of_find? (Bts.findActive?_eq_some.mp h).1

/-! ### Opportunities -/

theorem CircuitBlock.causes {p : PhRts} {kind : ChanKind} {f : Frame} {q : Option CipherRequest}
    (h : CircuitBlock site trx p b kind f q b' es) :
    ∀ e ∈ es, Causes site b (.up trx (.phRtsInd p)) e := by
  cases h with
  | broadcast => exact List.forall_mem_singleton.mpr .bcchBlock
  | paging => exact List.forall_mem_singleton.mpr .ccchBlock
  | silent | inactive => exact List.forall_mem_nil _
  | sacch _ found | filling _ found | idle _ found =>
    exact List.forall_mem_singleton.mpr (.dequeue (located_of_findActive? found))
  | main _ found =>
    refine List.forall_mem_cons.mpr ⟨.dequeue (located_of_findActive? found), ?_⟩
    unfold facchEvents
    split
    · split <;> simp [Causes.dtxFacch]
    · simp

/-- The ciphering request that comes with a block is about the channel of the block. -/
theorem CircuitBlock.causes_request {p : PhRts} {kind : ChanKind} {f : Frame}
    {q : Option CipherRequest} (h : CircuitBlock site trx p b kind f q b' es) (c : CipherRequest)
    (request : q = some c) (a : Except PhyError Unit) :
    Causes site b (.up trx (.phRtsInd p)) (.down trx (.mphInfoReq (.cipherReq c)) a) := by
  cases h with
  | main _ found =>
    rw [checkDownlink_request request]
    exact .uplinkCipher (located_of_findActive? found)
  | _ => cases request

theorem RtsOutcome.causes {p : PhRts} (h : RtsOutcome site trx p b r b' es) :
    ∀ e ∈ es, Causes site b (.up trx (.phRtsInd p)) e := by
  cases h with
  | looped => exact causes_downEvents .block
  | packet => exact List.forall_mem_singleton.mpr .packetRts
  | circuit _ _ _ block answer =>
    exact List.forall_mem_append.mpr ⟨block.causes, List.forall_mem_append.mpr
      ⟨causes_requestEvents fun c request => block.causes_request c request answer,
        causes_downEvents .block⟩⟩
  | _ => exact List.forall_mem_nil _

theorem TchRtsOutcome.causes {p : TchRts} (h : TchRtsOutcome trx p b r b' es) :
    ∀ e ∈ es, Causes site b (.up trx (.tchRtsInd p)) e := by
  have voice (f : Option VoiceFrame) (a : Except PhyError Unit) :
      ∀ e ∈ downEvents trx (voiceRequest p f) a, Causes site b (.up trx (.tchRtsInd p)) e := by
    obtain ⟨d, request, -⟩ := voiceRequest_eq p f
    exact causes_downEvents (request ▸ .voice)
  cases h with
  | unknownTrx => exact List.forall_mem_nil _
  | inactive => exact voice _ _
  | active _ found =>
    have located := located_of_findActive? found
    refine List.forall_mem_append.mpr ⟨?_, voice _ _⟩
    unfold voiceEvents
    refine List.forall_mem_append.mpr ⟨?_, ?_⟩
    · split <;> simp [Causes.voicePoll, Causes.voiceAdvance, located]
    · split <;> simp [Causes.releaseIndication, located]

/-! ### Receptions -/

section Reception

variable {d : PhData} (located : b.locate? trx d.chanNr = some id)
include located

theorem causes_superviseEvents {bad : Bool} :
    ∀ e ∈ superviseEvents site id l bad, Causes site b (.up trx (.phDataInd d)) e := by
  unfold superviseEvents
  split <;> simp [Causes.connectionFailure, located]

theorem causes_handoverEvents :
    ∀ e ∈ handoverEvents id l, Causes site b (.up trx (.phDataInd d)) e := by
  unfold handoverEvents
  split <;> simp [Causes.handoverFrame, located]

theorem causes_headerEvents {rssi : Int8} {header : List UInt8} {level : Option UInt8} :
    ∀ e ∈ headerEvents id l rssi header level, Causes site b (.up trx (.phDataInd d)) e := by
  unfold headerEvents
  split <;> simp [Causes.powerControl, located]

theorem causes_deliverEvents {d' : PhData} {a : Except PhyError Unit}
    (same : d'.chanNr = d.chanNr) :
    ∀ e ∈ deliverEvents trx id l d' a, Causes site b (.up trx (.phDataInd d)) e := by
  refine List.forall_mem_append.mpr ⟨causes_requestEvents fun c request => ?_,
    List.forall_mem_singleton.mpr (.dataUp located)⟩
  rw [checkUplink_request request, same]
  exact .downlinkCipher located

end Reception

theorem DataOutcome.causes {d : PhData} (h : DataOutcome site trx d b r b' es) :
    ∀ e ∈ es, Causes site b (.up trx (.phDataInd d)) e := by
  cases h with
  | packetData => exact List.forall_mem_singleton.mpr .packetData
  | badSacch _ _ found => exact causes_superviseEvents (located_of_findActive? found)
  | main _ _ found =>
    have located := located_of_findActive? found
    exact List.forall_mem_append.mpr
      ⟨causes_handoverEvents located, causes_deliverEvents located rfl⟩
  | shortSacch _ _ found =>
    have located := located_of_findActive? found
    exact List.forall_mem_append.mpr
      ⟨causes_handoverEvents located, causes_superviseEvents located⟩
  | sacch _ _ found =>
    have located := located_of_findActive? found
    exact List.forall_mem_append.mpr ⟨causes_handoverEvents located,
      List.forall_mem_append.mpr ⟨causes_superviseEvents located,
        List.forall_mem_append.mpr ⟨causes_headerEvents located,
          causes_deliverEvents located rfl⟩⟩⟩
  | _ => exact List.forall_mem_nil _

theorem TchOutcome.causes {d : TchData} (h : TchOutcome site trx d b r b' es) :
    ∀ e ∈ es, Causes site b (.up trx (.tchInd d)) e := by
  have voice {j : LchanId} {k : Lchan} (found : b.findActive? trx d.chanNr = some (j, k)) :
      ∀ e ∈ voiceUpEvents site j k d, Causes site b (.up trx (.tchInd d)) e := by
    unfold voiceUpEvents
    split <;> simp [Causes.voiceUp, located_of_findActive? found]
  cases h with
  | unknownTrx | inactive => exact List.forall_mem_nil _
  | looped _ found | taken _ found => exact voice found

theorem MeasuredOutcome.causes {m : Measured} (h : MeasuredOutcome trx m b r b' es) :
    ∀ e ∈ es, Causes site b (.up trx (.mphInfoInd (.measured m))) e := by
  cases h with
  | measured _ found =>
    exact List.forall_mem_singleton.mpr (.measure (located_of_findActive? found))
  | _ => exact List.forall_mem_nil _

theorem TimeOutcome.causes {fn : UInt32} (h : TimeOutcome site trx fn b r b' es) :
    ∀ e ∈ es, Causes site b (.up trx (.mphInfoInd (.time fn))) e := by
  cases h with
  | secondary => exact List.forall_mem_nil _
  | primary => exact List.forall_mem_singleton.mpr .packetTime

theorem RachOutcome.causes {p : PhRach} (h : RachOutcome site trx p b r b' es) :
    ∀ e ∈ es, Causes site b (.up trx (.phRachInd p)) e := by
  cases h with
  | handover _ _ found =>
    exact List.forall_mem_singleton.mpr (.handoverAccess (located_of_find? found))
  | packet => exact List.forall_mem_singleton.mpr .packetAccess
  | request route carrier => exact List.forall_mem_singleton.mpr (.accessUp route ⟨_, carrier⟩)
  | _ => exact List.forall_mem_nil _

/-! ### Channel control -/

theorem ActivateCnfOutcome.causes {c : ActConfirm} (h : ActivateCnfOutcome trx c b r b' es) :
    ∀ e ∈ es, Causes site b (.up trx (.mphInfoCnf (.activateCnf c))) e := by
  cases h with
  | unknownTrx | unknownLchan => exact List.forall_mem_nil _
  | confirmed _ found =>
    refine List.forall_mem_cons.mpr ⟨.activationDone (located_of_find? found), ?_⟩
    split <;> simp [Causes.entered]

theorem DeactivateCnfOutcome.causes {c : ActConfirm} (h : DeactivateCnfOutcome trx c b r b' es) :
    ∀ e ∈ es, Causes site b (.up trx (.mphInfoCnf (.deactivateCnf c))) e := by
  cases h with
  | released _ found =>
    exact List.forall_mem_singleton.mpr (.releaseDone (located_of_find? found))
  | switched _ found =>
    exact List.forall_mem_cons.mpr ⟨.releaseDone (located_of_find? found),
      List.forall_mem_cons.mpr ⟨.tornDown, List.forall_mem_singleton.mpr .left⟩⟩
  | _ => exact List.forall_mem_nil _

section Requests

variable (request : i.isRequest = true)
include request

theorem causes_freeEvents : ∀ e ∈ freeEvents l, Causes site b i e := by
  unfold freeEvents
  split <;> simp [Causes.dtxFree, request]

/-- An activation that was begun by the input, on the data `b₁` that it left until then. -/
theorem ChanActOutcome.causes {tsc : Option UInt8} (h : ChanActOutcome site trx n tsc b₁ r b' es)
    (target : ∀ id, b₁.locate? trx n = some id → i.target? b = some id) :
    ∀ e ∈ es, Causes site b i e := by
  have timers {id : LchanId} {kind : ChanKind} {type : LchanType} (here : i.target? b = some id) :
      ∀ e ∈ timerEvents site id kind type, Causes site b i e := by
    unfold timerEvents
    split
    · split <;> simp [Causes.setT200, request, here]
    · simp
  have alloc {id : LchanId} {type : LchanType} {h : DtxHandle} (here : i.target? b = some id) :
      ∀ e ∈ allocEvents site id type h, Causes site b i e := by
    unfold allocEvents
    split <;> simp [Causes.dtxAlloc, request, here]
  cases h with
  | radio _ _ _ found =>
    have here := target _ (located_of_find? found)
    exact List.forall_mem_append.mpr ⟨causes_freeEvents request,
      List.forall_mem_append.mpr ⟨timers here, causes_downEvents (.activateReq request)⟩⟩
  | requested _ _ _ found =>
    have here := target _ (located_of_find? found)
    exact List.forall_mem_append.mpr ⟨causes_freeEvents request,
      List.forall_mem_append.mpr ⟨timers here, List.forall_mem_append.mpr
        ⟨causes_downEvents (.activateReq request), alloc here⟩⟩⟩
  | _ => exact List.forall_mem_nil _

theorem ChanRelOutcome.causes (h : ChanRelOutcome trx n b₁ r b' es) :
    ∀ e ∈ es, Causes site b i e := by
  cases h with
  | requested =>
    exact List.forall_mem_append.mpr
      ⟨causes_freeEvents request, causes_downEvents (.deactivateReq request)⟩
  | _ => exact List.forall_mem_nil _

end Requests

theorem ChanDeactSacchOutcome.causes (h : ChanDeactSacchOutcome trx n b r b' es) :
    ∀ e ∈ es, Causes site b (.chanDeactSacch trx n) e := by
  cases h with
  | requested => exact causes_downEvents (.deactivateReq rfl)
  | _ => exact List.forall_mem_nil _

theorem PdchSwitchOutcome.causes {toPdch : Bool}
    (h : PdchSwitchOutcome site trx tn b toPdch r b' es) :
    ∀ e ∈ es, Causes site b (.pdchSwitch trx tn toPdch) e := by
  -- the switch that is under way leaves the channels where they are
  have named {t t' : Timeslot} (slot : b.slot? trx tn = some t)
      (begun : t.beginPdchAct? = some t') : ∀ id,
      (b.modifySlot trx tn fun _ => t').locate? trx (ChanKind.base .tchF ||| tn) = some id →
        (Input.pdchSwitch trx tn toPdch).target? b = some id := by
    intro id located
    rw [locate?_congr fun _ => lchan?_begun slot (lchans_beginPdchAct begun)] at located
    exact (congrArg (Option.bind · _) slot).trans located
  cases h with
  | unknownTrx | refused => exact List.forall_mem_nil _
  | begun slot begun inner | givenUp slot begun inner => exact inner.causes rfl (named slot begun)
  | endBegun _ _ inner | endGivenUp _ _ inner => exact inner.causes rfl

/-! ### Steps -/

/-- Each event of a step is one that its input can cause. -/
theorem StepOutcome.causes (h : StepOutcome site b i r b' es) : ∀ e ∈ es, Causes site b i e := by
  cases h with
  | time outcome => exact outcome.causes
  | measured outcome => exact outcome.causes
  | activateCnf outcome => exact outcome.causes
  | deactivateCnf outcome => exact outcome.causes
  | cipherCnf outcome => cases outcome <;> exact List.forall_mem_nil _
  | rts outcome => exact outcome.causes
  | tchRts outcome => exact outcome.causes
  | data outcome => exact outcome.causes
  | tch outcome => exact outcome.causes
  | rach outcome => exact outcome.causes
  | unknown => exact List.forall_mem_singleton.mpr (.alarm rfl)
  | down => exact causes_downEvents .order
  | chanAct outcome => exact outcome.causes rfl fun _ located => located
  | chanRel outcome => exact outcome.causes rfl
  | chanDeactSacch outcome => exact outcome.causes
  | chanModify => exact causes_downEvents (.modifyReq rfl)
  | pdchSwitch outcome => exact outcome.causes
  | packetReq => exact causes_downEvents .packetBlock
  | _ => exact List.forall_mem_nil _

/-- A reading finds nothing in a step if it finds nothing in the events that the input can cause. -/
theorem StepOutcome.filterMap_eq_nil {f : Event → Option α} (h : StepOutcome site b i r b' es)
    (unread : ∀ e, Causes site b i e → f e = none) : es.filterMap f = [] :=
  List.filterMap_eq_nil_iff.mpr fun e he => unread e (h.causes e he)

end BaseStation.Bridge
