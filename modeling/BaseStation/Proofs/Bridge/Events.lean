import BaseStation.Proofs.Bridge.Control
import BaseStation.Proofs.Bridge.Uplink

/-!
What can be read off the events of a step: the orders to the radio, the ciphering requests among
them and the calls on the parties. The lemmas say what a part of a handler adds to a reading to
which its calls on the parties do not belong.
-/

namespace BaseStation.Bridge

variable {σ φ α : Type} {site : Site σ φ} {trx : UInt8} {id : LchanId} {l : Lchan}

/-! ### Readings -/

/-- An order to the radio. -/
inductive Order where
  | prim (trx : UInt8) (p : Prim)
  | disconnect (trx tn : UInt8)
deriving DecidableEq

def Event.order? : Event → Option Order
  | .down trx p _ => some (.prim trx p)
  | .disconnect trx tn _ => some (.disconnect trx tn)
  | .call .. => none

/-- The orders to the radio, in the order they were made. -/
def orders (es : List Event) : List Order := es.filterMap Event.order?

def Event.packetRts? : Event → Option PacketRts
  | .call (.packetRts r) _ => some r
  | _ => none

/-- The transmit opportunities that the packet control unit was told of. -/
def packetOpportunities (es : List Event) : List PacketRts := es.filterMap Event.packetRts?

/-- The call asks for a block to transmit. -/
def Event.blockAsked? : Event → Option Call
  | .call (.dequeue id link) _ => some (.dequeue id link)
  | .call (.bcchBlock t) _ => some (.bcchBlock t)
  | .call (.ccchBlock t agch) _ => some (.ccchBlock t agch)
  | _ => none

/-- The calls on the link layer and on the broadcast party for a block. -/
def blocksAsked (es : List Event) : List Call := es.filterMap Event.blockAsked?

/-! ### Parts of handlers -/

/-- A reading leaves aside the calls that accompany the work of a handler: those that give away a
block or a report, and those that keep timers, the voice transport and discontinuous
transmission. -/
class Aside (f : Event → Option α) : Prop where
  alarm : ∀ r a, f (.call (.alarm r) a) = none
  dataUp : ∀ id link d a, f (.call (.dataUp id link d) a) = none
  setT200 : ∀ id t a, f (.call (.setT200 id t) a) = none
  connectionFailure : ∀ id c a, f (.call (.connectionFailure id c) a) = none
  handoverFrame : ∀ id a, f (.call (.handoverFrame id) a) = none
  voicePoll : ∀ id a, f (.call (.voicePoll id) a) = none
  voiceAdvance : ∀ id n a, f (.call (.voiceAdvance id n) a) = none
  dtxAlloc : ∀ id a, f (.call (.dtxAlloc id) a) = none
  dtxFree : ∀ h a, f (.call (.dtxFree h) a) = none
  dtxFacch : ∀ h a, f (.call (.dtxFacch h) a) = none

instance : Aside Event.order? := by constructor <;> intros <;> rfl

instance : Aside Event.packetRts? := by constructor <;> intros <;> rfl

theorem filterMap_event (f : Event → Option α) (e : Event) (es : List Event) :
    (e :: es).filterMap f = (f e).toList ++ es.filterMap f := by
  rw [List.filterMap_cons]
  cases f e <;> rfl

section Parts

variable {f : Event → Option α} [Aside f]

@[simp] theorem filterMap_downEvents {p : Prim} {a : Except PhyError Unit} :
    (downEvents trx p a).filterMap f = (f (.down trx p a)).toList := by
  unfold downEvents
  rw [filterMap_event]
  rcases a with e | ⟨⟩
  · cases e <;> simp [Aside.alarm]
  · simp

@[simp] theorem filterMap_requestEvents {q : Option CipherRequest} {a : Except PhyError Unit} :
    (requestEvents trx q a).filterMap f =
      (q.bind fun c => f (.down trx (.mphInfoReq (.cipherReq c)) a)).toList := by
  cases q with
  | none => rfl
  | some c => exact filterMap_downEvents

@[simp] theorem filterMap_facchEvents : (facchEvents site l).filterMap f = [] := by
  unfold facchEvents
  split
  · split <;> simp [Aside.dtxFacch]
  · rfl

@[simp] theorem filterMap_voiceEvents : (voiceEvents id l).filterMap f =
    (l.pendingRelInd.bind fun m => f (.call (.releaseIndication id m) ())).toList := by
  unfold voiceEvents
  rw [List.filterMap_append]
  have first : List.filterMap f (if !l.loopback && l.hasRtp then
      [.call (.voicePoll id) (), .call (.voiceAdvance id voiceSamples) ()] else []) = [] := by
    split <;> simp [Aside.voicePoll, Aside.voiceAdvance]
  rw [first]
  cases l.pendingRelInd with
  | none => rfl
  | some m => simp [filterMap_event]

@[simp] theorem filterMap_superviseEvents {bad : Bool} :
    (superviseEvents site id l bad).filterMap f = [] := by
  unfold superviseEvents
  split <;> simp [Aside.connectionFailure]

@[simp] theorem filterMap_handoverEvents : (handoverEvents id l).filterMap f = [] := by
  unfold handoverEvents
  split <;> simp [Aside.handoverFrame]

omit [Aside f] in
@[simp] theorem filterMap_headerEvents {rssi : Int8} {header : List UInt8}
    {level : Option UInt8} : (headerEvents id l rssi header level).filterMap f =
      ((l.meas.storeL1Header header).2.bind
        fun p => f (.call (.powerControl id p rssi) level)).toList := by
  unfold headerEvents
  cases (l.meas.storeL1Header header).2 with
  | none => rfl
  | some p => simp [filterMap_event]

@[simp] theorem filterMap_deliverEvents {d : PhData} {a : Except PhyError Unit} :
    (deliverEvents trx id l d a).filterMap f = ((l.checkUplink d.chanNr d.frame.l2).2.bind
      fun c => f (.down trx (.mphInfoReq (.cipherReq c)) a)).toList := by
  unfold deliverEvents
  rw [List.filterMap_append, filterMap_requestEvents]
  simp [Aside.dataUp]

omit [Aside f] in
@[simp] theorem filterMap_voiceUpEvents {t : TchData} :
    (voiceUpEvents site id l t).filterMap f = if l.hasRtp then
      (f (.call (.voiceUp id ⟨voicePayload t, voiceDuration t.fn l.lastFn site.settings.dtxUl,
        l.txMarker⟩) ())).toList else [] := by
  unfold voiceUpEvents
  split <;> simp [filterMap_event]

@[simp] theorem filterMap_freeEvents : (freeEvents l).filterMap f = [] := by
  unfold freeEvents
  split <;> simp [Aside.dtxFree]

@[simp] theorem filterMap_timerEvents {kind : ChanKind} {type : LchanType} :
    (timerEvents site id kind type).filterMap f = [] := by
  unfold timerEvents
  split
  · split <;> simp [Aside.setT200]
  · rfl

@[simp] theorem filterMap_allocEvents {type : LchanType} {h : DtxHandle} :
    (allocEvents site id type h).filterMap f = [] := by
  unfold allocEvents
  split <;> simp [Aside.dtxAlloc]

end Parts

/-- The answer to a voice opportunity is a voice primitive for its channel and frame. -/
theorem voiceRequest_eq (p : TchRts) (f : Option VoiceFrame) :
    ∃ t : TchData, voiceRequest p f = .tchReq t ∧ t.chanNr = p.chanNr ∧ t.fn = p.fn := by
  cases f <;> exact ⟨_, rfl, rfl, rfl⟩

end BaseStation.Bridge
