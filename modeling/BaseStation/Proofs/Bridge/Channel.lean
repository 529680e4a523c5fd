import BaseStation.Proofs.Bridge.Events
import BaseStation.Proofs.Bridge.Run

/-!
What a move does to one logical channel: each way in which its record changes, with what has to
hold for it and with the events that go with it. A channel that a move does not change is not the
subject of any of its events.
-/

namespace BaseStation.Bridge

variable {σ φ : Type} {site : Site σ φ} {b b' : Bts} {trx n : UInt8} {id j : LchanId}
  {l k : Lchan} {r : Except Failure Unit} {es : List Event}

/-! ### Events about a channel -/

/-- The channel whose record an event goes with: that of an activation, a release or a ciphering
request, of their reports, of the answers that are kept in the record, and of what goes out from
it, a release indication or filling in place of a block. -/
def Event.subject? (b : Bts) : Event → Option LchanId
  | .down trx (.mphInfoReq (.activateReq r)) _ => b.locate? trx r.chanNr
  | .down trx (.mphInfoReq (.deactivateReq r)) _ => b.locate? trx r.chanNr
  | .down trx (.mphInfoReq (.cipherReq c)) _ => b.locate? trx c.chanNr
  | .call (.activationDone id _) _ => some id
  | .call (.releaseDone id) _ => some id
  | .call (.powerControl id _ _) _ => some id
  | .call (.measure id _ _) _ => some id
  | .call (.handoverAccess id _ _) _ => some id
  | .call (.releaseIndication id _) _ => some id
  | .call (.dequeue id .acch) none => some id
  | _ => none

/-- The channels whose records the events go with. -/
def subjects (b : Bts) (es : List Event) : List LchanId := es.filterMap (Event.subject? b)

theorem subjects_cons (e : Event) (es : List Event) :
    subjects b (e :: es) = (e.subject? b).toList ++ subjects b es := filterMap_event _ _ _

instance : Aside (Event.subject? b) := by constructor <;> intros <;> rfl

/-- What is only read off events about a channel is not read off events that are about others. -/
theorem filterMap_of_quiet {α : Type} {f : Event → Option α}
    (about : ∀ e x, f e = some x → e.subject? b = some id) (quiet : id ∉ subjects b es) :
    es.filterMap f = [] := by
  rw [List.filterMap_eq_nil_iff]
  intro e he
  rw [Option.eq_none_iff_forall_ne_some]
  intro x hx
  exact quiet (List.mem_filterMap.mpr ⟨e, he, about e x hx⟩)

/-- A timeslot and the place of a channel on it. -/
def place? (n : UInt8) : Option (UInt8 × Nat) :=
  match ChanAddr.decode n with
  | .ok a => some (a.tn, a.lchanIndex)
  | .error _ => none

theorem locate?_eq_place? : b.locate? trx n = (place? n).bind fun p =>
    if (b.lchan? ⟨trx, p.1, p.2.toUInt8⟩).isSome then some ⟨trx, p.1, p.2.toUInt8⟩ else none := by
  unfold Bts.locate? place?
  cases ChanAddr.decode n <;> rfl

/-- A packet data number and the traffic channel number it is written as name one place. -/
theorem place?_pdchAsTchF : place? (pdchAsTchF n) = place? n := by
  have every : ∀ i : Fin 256, place? (pdchAsTchF (.ofFin i)) = place? (.ofFin i) := by
    decide +kernel
  exact every n.toFin

@[simp] theorem locate?_actRequest {sacchOnly : Bool} :
    b.locate? trx (actRequest n sacchOnly).chanNr = b.locate? trx n := by
  rw [locate?_eq_place?, locate?_eq_place? (n := n)]
  exact congrArg (Option.bind · _) place?_pdchAsTchF

@[simp] theorem sacchOnly_actRequest {sacchOnly : Bool} :
    (actRequest n sacchOnly).sacchOnly = sacchOnly := rfl

/-! ### Moves of a channel -/

/-- The timeslot of a channel number is in packet mode. -/
def onPacketSlot (b : Bts) (trx n : UInt8) : Prop :=
  ∃ c, b.carrier? trx = some c ∧ (c.slotOf n).isPdch = true

/-- The move reaches the record of a channel whether or not the channel is active. -/
def Move.Reaches (site : Site σ φ) (b : Bts) (id : LchanId) (l : Lchan) : Move → Prop
  | .input (.up trx (.mphInfoCnf (.activateCnf c))) _ => b.locate? trx c.chanNr = some id
  | .input (.up trx (.mphInfoCnf (.deactivateCnf c))) _ => b.locate? trx c.chanNr = some id
  | .input (.up trx (.mphInfoCnf (.cipherCnf c))) _ => b.locate? trx c.chanNr = some id
  | .input (.up trx (.phRachInd p)) _ =>
    p.route trx site.settings.maxTa ≠ .discard ∧ b.locate? trx p.chanNr = some id
  | .input (.up trx (.phDataInd d)) _ =>
    onPacketSlot b trx d.chanNr ∧ b.locate? trx d.chanNr = some id ∧ l.loopback = true
  | .input (.chanRel trx n) _ => b.locate? trx n = some id
  | .input (.chanDeactSacch trx n) _ => b.locate? trx n = some id
  | .input (.voiceRx j _) _ => j = id
  | .write j _ => j = id
  | _ => False

/-- The move has a channel activated under a channel number. -/
def Move.activates : Move → UInt8 → UInt8 → Prop
  | .input (.chanAct trx n _) _, u, m => u = trx ∧ m = n
  | .input (.pdchSwitch trx tn true) _, u, m => u = trx ∧ m = ChanKind.base .tchF ||| tn
  | _, _, _ => False

/-- The move has a channel released under a channel number. -/
def Move.releases : Move → UInt8 → UInt8 → Prop
  | .input (.chanRel trx n) _, u, m => u = trx ∧ m = n
  | .input (.pdchSwitch trx tn false) _, u, m => u = trx ∧ m = ChanKind.base .tchF ||| tn
  | _, _, _ => False

/-- What RSL asks for a channel is its activation, its release or a switch of its timeslot. -/
theorem Move.asked_cases {m : Move} (asked : m.activates trx n ∨ m.releases trx n) :
    (∃ tsc h, m = .input (.chanAct trx n tsc) h) ∨ (∃ h, m = .input (.chanRel trx n) h) ∨
      ∃ tn toPdch h, m = .input (.pdchSwitch trx tn toPdch) h := by
  rcases asked with asked | asked
  · unfold Move.activates at asked
    split at asked
    · rw [asked.1, asked.2]
      exact .inl ⟨_, _, rfl⟩
    · rw [asked.1]
      exact .inr (.inr ⟨_, _, _, rfl⟩)
    · exact asked.elim
  · unfold Move.releases at asked
    split at asked
    · rw [asked.1, asked.2]
      exact .inr (.inl ⟨_, rfl⟩)
    · rw [asked.1]
      exact .inr (.inr ⟨_, _, _, rfl⟩)
    · exact asked.elim

/-- What was or can be sent or received in a frame, and its measurement. -/
def Move.OnAir : Move → Prop
  | .input (.up _ (.phRtsInd _)) _ | .input (.up _ (.tchRtsInd _)) _
  | .input (.up _ (.phDataInd _)) _ | .input (.up _ (.tchInd _)) _
  | .input (.up _ (.mphInfoInd _)) _ => True
  | _ => False

/-- The frame in which a move brings in a voice frame of a channel. -/
def Move.voice? (b : Bts) (id : LchanId) : Move → Option UInt32
  | .input (.up trx (.tchInd t)) _ => if b.locate? trx t.chanNr = some id then some t.fn else none
  | _ => none

/-- What a move does to the record `l` of the channel `id`. -/
inductive ChannelMove (site : Site σ φ) (b : Bts) (id : LchanId) (l : Lchan) :
    Move → Lchan → List Event → Prop
  | keep {m : Move} {es : List Event} (unreached : ¬ m.Reaches site b id l)
      (quiet : id ∉ subjects b es) : ChannelMove site b id l m l es
  /-- Filling goes out on the SACCH. -/
  | filled {m : Move} {es : List Event} (air : m.OnAir) (active : l.isActive = true)
      (quiet : subjects b es = []) :
    ChannelMove site b id l m { l with fill := l.fill.next.2 }
      (.call (.dequeue id .acch) none :: es)
  /-- A block of the link layer goes out on the main channel. -/
  | sent {trx : UInt8} {p : PhRts} {h : (Input.up trx (.phRtsInd p)).isDown = false}
      (located : b.locate? trx p.chanNr = some id) (active : l.isActive = true)
      (link : isSacchLink p.linkId = false) (f : Frame) (answer answer' : Except PhyError Unit) :
    ChannelMove site b id l (.input (.up trx (.phRtsInd p)) h)
      (l.checkDownlink p.chanNr f.octets).1
      (.call (.dequeue id .dcch) (some f) :: (facchEvents site l ++
        (requestEvents trx (l.checkDownlink p.chanNr f.octets).2 answer ++
          downEvents trx (.phDataReq (.request p.chanNr p.linkId p.fn
            (.ofL2 (padTo blockLength f.octets)))) answer')))
  /-- A block of the loopback goes out on a packet channel. -/
  | echoed {m : Move} {es : List Event} (fn : UInt32) (air : m.OnAir) (active : l.isActive = true)
      (loop : l.loopback = true) (quiet : id ∉ subjects b es) :
    ChannelMove site b id l m { l with queue := (loopedBlock l.queue fn).2 } es
  /-- A voice frame goes out, and with it a release indication held back. -/
  | voiced {m : Move} {es : List Event} (air : m.OnAir) (active : l.isActive = true)
      (quiet : subjects b es = []) :
    ChannelMove site b id l m { l with queue := l.queue.pop.2, pendingRelInd := none }
      (voiceEvents id l ++ es)
  /-- A block is kept for the loopback of a packet channel. -/
  | echoKept {trx : UInt8} {d : PhData} {h : (Input.up trx (.phDataInd d)).isDown = false}
      (slot : onPacketSlot b trx d.chanNr) (located : b.locate? trx d.chanNr = some id)
      (loop : l.loopback = true) :
    ChannelMove site b id l (.input (.up trx (.phDataInd d)) h)
      { l with queue := (l.queue.push (.looped d.frame.octets)).1 } []
  /-- An undecodable SACCH frame is counted. -/
  | lost {m : Move} {es : List Event} (air : m.OnAir) (active : l.isActive = true)
      (quiet : id ∉ subjects b es) :
    ChannelMove site b id l m (supervised site l true) es
  /-- A SACCH frame without room for its header is counted. -/
  | shortened {m : Move} {es : List Event} (air : m.OnAir) (active : l.isActive = true)
      (quiet : id ∉ subjects b es) :
    ChannelMove site b id l m (supervised site { l with handover := .none } false) es
  | received {trx : UInt8} {d : PhData} {h : (Input.up trx (.phDataInd d)).isDown = false}
      (located : b.locate? trx d.chanNr = some id) (active : l.isActive = true)
      (answer : Except PhyError Unit) :
    ChannelMove site b id l (.input (.up trx (.phDataInd d)) h)
      ({ l with handover := .none }.checkUplink d.chanNr d.frame.l2).1
      (handoverEvents id l ++ deliverEvents trx id { l with handover := .none } d answer)
  | sacchReceived {trx : UInt8} {d : PhData} {l' : Lchan}
      {h : (Input.up trx (.phDataInd d)).isDown = false}
      (located : b.locate? trx d.chanNr = some id) (active : l.isActive = true)
      (level : Option UInt8) (answer : Except PhyError Unit)
      (header : l' = headerTaken (supervised site { l with handover := .none } false)
        (sacchMarked d).frame.l1 level) :
    ChannelMove site b id l (.input (.up trx (.phDataInd d)) h)
      (l'.checkUplink d.chanNr (sacchMarked d).frame.l2).1
      (handoverEvents id l ++ (superviseEvents site id { l with handover := .none } false ++
        (headerEvents id (supervised site { l with handover := .none } false) d.rssi
          (sacchMarked d).frame.l1 level ++ deliverEvents trx id l' (sacchMarked d) answer)))
  /-- A voice frame is kept for the loopback. -/
  | voiceKept {m : Move} {es : List Event} (payload : List UInt8) (air : m.OnAir)
      (active : l.isActive = true) (loop : l.loopback = true) (quiet : id ∉ subjects b es) :
    ChannelMove site b id l m { l with queue := (l.queue.push (.looped payload)).1 } es
  | voiceTaken {m : Move} {es : List Event} (fn : UInt32) (air : m.OnAir)
      (active : l.isActive = true) (quiet : id ∉ subjects b es) (frame : m.voice? b id = some fn) :
    ChannelMove site b id l m { l with txMarker := false, lastFn := some fn } es
  | measured {m : Move} {x : Measured} (air : m.OnAir) (active : l.isActive = true)
      (answer : Measurements) :
    ChannelMove site b id l m { l with meas := answer }
      [.call (.measure id (l.meas.add x) x.fn) answer]
  /-- The delay of an access burst is stored. -/
  | accessed {trx : UInt8} {p : PhRach} {es : List Event}
      {h : (Input.up trx (.phRachInd p)).isDown = false}
      (route : p.route trx site.settings.maxTa ≠ .discard)
      (located : b.locate? trx p.chanNr = some id) (quiet : id ∉ subjects b es) :
    ChannelMove site b id l (.input (.up trx (.phRachInd p)) h) (delayStored p l) es
  /-- A handover access burst is reported. -/
  | handover {trx : UInt8} {p : PhRach} {h : (Input.up trx (.phRachInd p)).isDown = false}
      (route : p.route trx site.settings.maxTa = .handover)
      (located : b.locate? trx p.chanNr = some id) (taken : Bool) :
    ChannelMove site b id l (.input (.up trx (.phRachInd p)) h)
      (if taken then { delayStored p l with handover := .waitFrame } else delayStored p l)
      [.call (.handoverAccess id p.ra p.delay) taken]
  | activated {trx : UInt8} {c : ActConfirm} {es : List Event}
      {h : (Input.up trx (.mphInfoCnf (.activateCnf c))).isDown = false}
      (located : b.locate? trx c.chanNr = some id) (quiet : subjects b es = []) :
    ChannelMove site b id l (.input (.up trx (.mphInfoCnf (.activateCnf c))) h)
      { l with state := if c.cause == 0 then .active else .none }
      (.call (.activationDone id c.cause) () :: es)
  /-- A deactivation of the SACCH alone is confirmed. -/
  | sacchDown {trx : UInt8} {c : ActConfirm}
      {h : (Input.up trx (.mphInfoCnf (.deactivateCnf c))).isDown = false}
      (located : b.locate? trx c.chanNr = some id) (stopped : l.sacchDeact = true)
      (up : l.state ≠ .relRequested) :
    ChannelMove site b id l (.input (.up trx (.mphInfoCnf (.deactivateCnf c))) h) l []
  | released {trx : UInt8} {c : ActConfirm} {es : List Event}
      {h : (Input.up trx (.mphInfoCnf (.deactivateCnf c))).isDown = false}
      (located : b.locate? trx c.chanNr = some id)
      (full : l.sacchDeact = false ∨ l.state = .relRequested) (quiet : subjects b es = []) :
    ChannelMove site b id l (.input (.up trx (.mphInfoCnf (.deactivateCnf c))) h)
      l.resetAfterRelease (.call (.releaseDone id) () :: es)
  | cipherConfirmed {trx : UInt8} {c : CipherConfirm}
      {h : (Input.up trx (.mphInfoCnf (.cipherCnf c))).isDown = false}
      (located : b.locate? trx c.chanNr = some id) :
    ChannelMove site b id l (.input (.up trx (.mphInfoCnf (.cipherCnf c))) h)
      (l.confirmCipher c).1 []
  /-- An activation is asked for that the radio does not take. -/
  | refused {m : Move} {trx n : UInt8} {kind : ChanKind} (asked : m.activates trx n)
      (located : b.locate? trx n = some id) (type : LchanType) (e : PhyError) :
    ChannelMove site b id l m (activating site type l)
      (freeEvents l ++ (timerEvents site id kind type ++
        downEvents trx (.mphInfoReq (.activateReq (actRequest n false))) (.error e)))
  | requested {m : Move} {trx n : UInt8} {kind : ChanKind} (asked : m.activates trx n)
      (located : b.locate? trx n = some id) (type : LchanType) (h : DtxHandle) :
    ChannelMove site b id l m (allocated site type h (activating site type l))
      (freeEvents l ++ (timerEvents site id kind type ++
        (downEvents trx (.mphInfoReq (.activateReq (actRequest n false))) (.ok ()) ++
          allocEvents site id type h)))
  | releaseAsked {m : Move} {trx n : UInt8} (asked : m.releases trx n)
      (located : b.locate? trx n = some id) (answer : Except PhyError Unit) :
    ChannelMove site b id l m (releasing l)
      (freeEvents l ++
        downEvents trx (.mphInfoReq (.deactivateReq (actRequest n false))) answer)
  | sacchStopped {trx n : UInt8} {h : (Input.chanDeactSacch trx n).isDown = false}
      (located : b.locate? trx n = some id) (answer : Except PhyError Unit) :
    ChannelMove site b id l (.input (.chanDeactSacch trx n) h) { l with sacchDeact := true }
      (downEvents trx (.mphInfoReq (.deactivateReq (actRequest n true))) answer)
  | queued {f : VoiceFrame} {h : (Input.voiceRx id f).isDown = false} :
    ChannelMove site b id l (.input (.voiceRx id f) h) (voiceReceived f l) []
  | written {x : Write} : ChannelMove site b id l (.write id x) (x.apply l) []

/-- A move leaves a channel with a record, which it changed in one of the ways above. -/
def Moved (site : Site σ φ) (b b' : Bts) (id : LchanId) (l : Lchan) (m : Move)
    (es : List Event) : Prop :=
  ∃ l', b'.lchan? id = some l' ∧ ChannelMove site b id l m l' es

end BaseStation.Bridge
