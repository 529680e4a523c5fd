import BaseStation.Bridge.Basic
import BaseStation.Proofs.Bridge.Control
import BaseStation.Proofs.Bridge.Uplink

/-!
What an input comes to, whatever it is.
-/

namespace BaseStation.Bridge

variable {σ φ : Type} {site : Site σ φ} {b : Bts}

/-- The channel after the voice transport had a frame for it. -/
def voiceReceived (f : VoiceFrame) (l : Lchan) : Lchan :=
  if l.loopback then l else { l with queue := (l.queue.push f).1 }

theorem voiceReceived_eq (f : VoiceFrame) (l : Lchan) :
    ∃ q, voiceReceived f l = { l with queue := q } := by
  unfold voiceReceived
  split
  · exact ⟨l.queue, rfl⟩
  · exact ⟨_, rfl⟩

/-- The report on a primitive that came up though it only goes down. -/
def unknownUpAlarm (trx : UInt8) (p : Prim) : Alarm :=
  ⟨.unknownUp, some trx, none, some ("unknown L1SAP up primitive " ++
    toString p.type.code.toNat ++ " op " ++ toString p.op.code.toNat)⟩

/-- The management payloads for which an indication has no handler. -/
def handledIndication : MphInfo → Bool
  | .time _ | .measured _ => true
  | _ => false

/-- The management payloads for which a confirm has a handler. -/
def handledConfirm : MphInfo → Bool
  | .activateCnf _ | .deactivateCnf _ | .cipherCnf _ => true
  | _ => false

/-- An input: the result, the data left and the events. -/
inductive StepOutcome (site : Site σ φ) (b : Bts) :
    Input → Except Failure Unit → Bts → List Event → Prop
  | time {trx : UInt8} {fn : UInt32} {r : Except Failure Unit} {b' : Bts} {es : List Event}
      (outcome : TimeOutcome site trx fn b r b' es) :
    StepOutcome site b (.up trx (.mphInfoInd (.time fn))) r b' es
  | measured {trx : UInt8} {m : Measured} {r : Except Failure Unit} {b' : Bts} {es : List Event}
      (outcome : MeasuredOutcome trx m b r b' es) :
    StepOutcome site b (.up trx (.mphInfoInd (.measured m))) r b' es
  | activateCnf {trx : UInt8} {c : ActConfirm} {r : Except Failure Unit} {b' : Bts}
      {es : List Event} (outcome : ActivateCnfOutcome trx c b r b' es) :
    StepOutcome site b (.up trx (.mphInfoCnf (.activateCnf c))) r b' es
  | deactivateCnf {trx : UInt8} {c : ActConfirm} {r : Except Failure Unit} {b' : Bts}
      {es : List Event} (outcome : DeactivateCnfOutcome trx c b r b' es) :
    StepOutcome site b (.up trx (.mphInfoCnf (.deactivateCnf c))) r b' es
  | cipherCnf {trx : UInt8} {c : CipherConfirm} {r : Except Failure Unit} {b' : Bts}
      {es : List Event} (outcome : CipherCnfOutcome trx c b r b' es) :
    StepOutcome site b (.up trx (.mphInfoCnf (.cipherCnf c))) r b' es
  /-- A management payload without a handler is left out. -/
  | indicated {trx : UInt8} {i : MphInfo} (other : handledIndication i = false) :
    StepOutcome site b (.up trx (.mphInfoInd i)) (.ok ()) b []
  | confirmed {trx : UInt8} {i : MphInfo} (other : handledConfirm i = false) :
    StepOutcome site b (.up trx (.mphInfoCnf i)) (.ok ()) b []
  | rts {trx : UInt8} {p : PhRts} {r : Except Failure Unit} {b' : Bts} {es : List Event}
      (outcome : RtsOutcome site trx p b r b' es) :
    StepOutcome site b (.up trx (.phRtsInd p)) r b' es
  | tchRts {trx : UInt8} {p : TchRts} {r : Except Failure Unit} {b' : Bts} {es : List Event}
      (outcome : TchRtsOutcome trx p b r b' es) :
    StepOutcome site b (.up trx (.tchRtsInd p)) r b' es
  | data {trx : UInt8} {d : PhData} {r : Except Failure Unit} {b' : Bts} {es : List Event}
      (outcome : DataOutcome site trx d b r b' es) :
    StepOutcome site b (.up trx (.phDataInd d)) r b' es
  | tch {trx : UInt8} {t : TchData} {r : Except Failure Unit} {b' : Bts} {es : List Event}
      (outcome : TchOutcome site trx t b r b' es) :
    StepOutcome site b (.up trx (.tchInd t)) r b' es
  | rach {trx : UInt8} {p : PhRach} {r : Except Failure Unit} {b' : Bts} {es : List Event}
      (outcome : RachOutcome site trx p b r b' es) :
    StepOutcome site b (.up trx (.phRachInd p)) r b' es
  /-- A primitive that only goes down came up. -/
  | unknown {trx : UInt8} {p : Prim} (request : p.op = .request) :
    StepOutcome site b (.up trx p) (.error (.refused (.unknownPrimitive p.type.code p.op.code))) b
      [.call (.alarm (unknownUpAlarm trx p)) ()]
  | down {trx : UInt8} {p : Prim} (answer : Except PhyError Unit) :
    StepOutcome site b (.down trx p) (downResult answer) b (downEvents trx p answer)
  | chanAct {trx n : UInt8} {tsc : Option UInt8} {r : Except Failure Unit} {b' : Bts}
      {es : List Event} (outcome : ChanActOutcome site trx n tsc b r b' es) :
    StepOutcome site b (.chanAct trx n tsc) r b' es
  | chanRel {trx n : UInt8} {r : Except Failure Unit} {b' : Bts} {es : List Event}
      (outcome : ChanRelOutcome trx n b r b' es) : StepOutcome site b (.chanRel trx n) r b' es
  | chanDeactSacch {trx n : UInt8} {r : Except Failure Unit} {b' : Bts} {es : List Event}
      (outcome : ChanDeactSacchOutcome trx n b r b' es) :
    StepOutcome site b (.chanDeactSacch trx n) r b' es
  | chanModify {trx n : UInt8} (answer : Except PhyError Unit) :
    StepOutcome site b (.chanModify trx n) (downResult answer) b
      (downEvents trx (.mphInfoReq (.modifyReq (actRequest n false))) answer)
  | pdchSwitch {trx tn : UInt8} {toPdch : Bool} {r : Except Failure Unit} {b' : Bts}
      {es : List Event} (outcome : PdchSwitchOutcome site trx tn b toPdch r b' es) :
    StepOutcome site b (.pdchSwitch trx tn toPdch) r b' es
  | packetReq {q : PacketRequest} (answer : Except PhyError Unit) :
    StepOutcome site b (.packetReq q) (downResult answer) b
      (downEvents q.trx (.phDataReq (.request (ChanKind.base .tchF ||| q.tn) 0 q.fn
        (.ofL2 q.data))) answer)
  | voiceRx {id : LchanId} {l : Lchan} {f : VoiceFrame} (known : b.lchan? id = some l) :
    StepOutcome site b (.voiceRx id f) (.ok ()) (b.setLchan id (voiceReceived f l)) []
  | voiceDropped {id : LchanId} {f : VoiceFrame} (unknown : b.lchan? id = none) :
    StepOutcome site b (.voiceRx id f) (.ok ()) b []

theorem up_ensures (trx : UInt8) (p : Prim) :
    Ensures b (up site trx p) (StepOutcome site b (.up trx p)) := by
  unfold up
  cases p with
  | mphInfoInd i =>
    cases i with
    | time fn => exact (timeInd_ensures fn).mono fun _ _ _ h => .time h
    | measured m => exact (measInd_ensures m).mono fun _ _ _ h => .measured h
    | _ => exact .succeed (.indicated rfl)
  | mphInfoCnf i =>
    cases i with
    | activateCnf c => exact (activateCnf_ensures c).mono fun _ _ _ h => .activateCnf h
    | deactivateCnf c => exact (deactivateCnf_ensures c).mono fun _ _ _ h => .deactivateCnf h
    | cipherCnf c => exact (cipherCnf_ensures c).mono fun _ _ _ h => .cipherCnf h
    | _ => exact .succeed (.confirmed rfl)
  | phRtsInd r => exact (rtsInd_ensures r).mono fun _ _ _ h => .rts h
  | tchRtsInd r => exact (tchRtsInd_ensures r).mono fun _ _ _ h => .tchRts h
  | phDataInd d =>
    refine .actWrite (fun w hw => ⟨(captureData_same w site trx d true).1.trans hw,
      (captureData_same w site trx d true).2⟩) ?_
    exact (dataInd_ensures d).mono fun _ _ _ h => .data h
  | tchInd t => exact (tchInd_ensures t).mono fun _ _ _ h => .tch h
  | phRachInd r =>
    refine .actWrite (fun w hw => ⟨(captureRach_same w trx r).1.trans hw,
      (captureRach_same w trx r).2⟩) ?_
    exact (rachInd_ensures r).mono fun _ _ _ h => .rach h
  | phDataReq d => exact .actTold fun _ => .refused (.unknown rfl)
  | tchReq t => exact .actTold fun _ => .refused (.unknown rfl)
  | mphInfoReq i => exact .actTold fun _ => .refused (.unknown rfl)

theorem perform_ensures (input : Input) :
    Ensures b (perform site input) (StepOutcome site b input) := by
  unfold perform
  cases input with
  | up trx p => exact up_ensures trx p
  | down trx p =>
    refine (down_ensures trx p).mono ?_
    rintro _ _ _ ⟨answer, rfl, rfl, rfl⟩
    exact .down answer
  | chanAct trx n tsc => exact (chanAct_ensures tsc).mono fun _ _ _ h => .chanAct h
  | chanRel trx n => exact chanRel_ensures.mono fun _ _ _ h => .chanRel h
  | chanDeactSacch trx n => exact chanDeactSacch_ensures.mono fun _ _ _ h => .chanDeactSacch h
  | chanModify trx n =>
    refine (down_ensures trx _).mono ?_
    rintro _ _ _ ⟨answer, rfl, rfl, rfl⟩
    exact .chanModify answer
  | pdchSwitch trx tn toPdch =>
    exact (pdchSwitch_ensures tn toPdch).mono fun _ _ _ h => .pdchSwitch h
  | packetReq q =>
    refine (down_ensures q.trx _).mono ?_
    rintro _ _ _ ⟨answer, rfl, rfl, rfl⟩
    exact .packetReq answer
  | voiceRx id f =>
    refine .actLast (.actWriteLchan (.succeed ?_))
    cases hl : b.lchan? id with
    | none =>
      rw [Bts.modifyLchan_of_none hl]
      exact .voiceDropped hl
    | some l =>
      rw [Bts.modifyLchan_eq_setLchan hl]
      exact .voiceRx hl

/-- Every input comes to one of its outcomes, whose events follow the trace so far. -/
theorem step_outcome (site : Site σ φ) (input : Input) (w : World σ φ) :
    ∃ es, (step site input w).2.trace = w.trace ++ es ∧
      StepOutcome site w.bts input (step site input w).1 (step site input w).2.bts es :=
  perform_ensures input w rfl

/-! ### The handler of a primitive -/

namespace StepOutcome

variable {r : Except Failure Unit} {b' : Bts} {es : List Event}

theorem timeOutcome {fn : UInt32}
    (h : StepOutcome site b (.up trx (.mphInfoInd (.time fn))) r b' es) :
    TimeOutcome site trx fn b r b' es := by
  cases h with
  | time outcome => exact outcome
  | indicated other => cases other
  | unknown request => cases request

theorem measuredOutcome {m : Measured}
    (h : StepOutcome site b (.up trx (.mphInfoInd (.measured m))) r b' es) :
    MeasuredOutcome trx m b r b' es := by
  cases h with
  | measured outcome => exact outcome
  | indicated other => cases other
  | unknown request => cases request

theorem activateCnfOutcome {c : ActConfirm}
    (h : StepOutcome site b (.up trx (.mphInfoCnf (.activateCnf c))) r b' es) :
    ActivateCnfOutcome trx c b r b' es := by
  cases h with
  | activateCnf outcome => exact outcome
  | confirmed other => cases other
  | unknown request => cases request

theorem deactivateCnfOutcome {c : ActConfirm}
    (h : StepOutcome site b (.up trx (.mphInfoCnf (.deactivateCnf c))) r b' es) :
    DeactivateCnfOutcome trx c b r b' es := by
  cases h with
  | deactivateCnf outcome => exact outcome
  | confirmed other => cases other
  | unknown request => cases request

theorem cipherCnfOutcome {c : CipherConfirm}
    (h : StepOutcome site b (.up trx (.mphInfoCnf (.cipherCnf c))) r b' es) :
    CipherCnfOutcome trx c b r b' es := by
  cases h with
  | cipherCnf outcome => exact outcome
  | confirmed other => cases other
  | unknown request => cases request

theorem rtsOutcome {p : PhRts} (h : StepOutcome site b (.up trx (.phRtsInd p)) r b' es) :
    RtsOutcome site trx p b r b' es := by
  cases h with
  | rts outcome => exact outcome
  | unknown request => cases request

theorem tchRtsOutcome {p : TchRts} (h : StepOutcome site b (.up trx (.tchRtsInd p)) r b' es) :
    TchRtsOutcome trx p b r b' es := by
  cases h with
  | tchRts outcome => exact outcome
  | unknown request => cases request

theorem dataOutcome {d : PhData} (h : StepOutcome site b (.up trx (.phDataInd d)) r b' es) :
    DataOutcome site trx d b r b' es := by
  cases h with
  | data outcome => exact outcome
  | unknown request => cases request

theorem tchOutcome {d : TchData} (h : StepOutcome site b (.up trx (.tchInd d)) r b' es) :
    TchOutcome site trx d b r b' es := by
  cases h with
  | tch outcome => exact outcome
  | unknown request => cases request

theorem rachOutcome {p : PhRach} (h : StepOutcome site b (.up trx (.phRachInd p)) r b' es) :
    RachOutcome site trx p b r b' es := by
  cases h with
  | rach outcome => exact outcome
  | unknown request => cases request

end StepOutcome

end BaseStation.Bridge
