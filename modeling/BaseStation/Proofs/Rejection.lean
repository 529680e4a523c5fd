import BaseStation.Proofs.Bridge.Answers
import BaseStation.Proofs.Bridge.Slot

/-!
Inputs that leave no trace. An input is rejected when it names something that does not exist, or
asks for something that cannot be done now, and it is ignored when there is no one to take it. The
data then stays as it was, the radio hears nothing, and of the parties at most alarms are told.
-/

namespace BaseStation.Bridge

variable {σ φ : Type} {site : Site σ φ} {w : World σ φ} {b b' : Bts} {trx n : UInt8}
  {i : Input} {r : Except Failure Unit} {es : List Event}

/-! ### Rejections -/

/-- An input is refused for what it is, before anything is done about it. The radio has no part in
it, nor has the contents of a frame. -/
def Refusal.isRejection : Refusal → Bool
  | noSuchTrx _ | noLchan _ | chanNr _ | timeFromSecondaryTrx _ | unknownPrimitive .. => true
  | pdchSwitchRefused .. => true
  | chanAct cause => cause == .serviceUnimplemented
  | badFrame | sacchTooShort _ | phy _ => false

def isRejected : Except Failure Unit → Bool
  | .error (.refused r) => r.isRejection
  | _ => false

/-- The energy of an access burst is counted even if the burst is not taken. -/
def Input.countedIn (b : Bts) : Input → Bts
  | .up _ (.phRachInd p) => busyCounted p b
  | _ => b

def isUnknownPrimitive : Except Failure Unit → Bool
  | .error (.refused (.unknownPrimitive ..)) => true
  | _ => false

/-- What the parties are told of an input with the given result that leaves no trace: there is a
report on a primitive that only goes down. -/
def Input.reportedWith (r : Except Failure Unit) : Input → List Event
  | .up trx p => if isUnknownPrimitive r then [.call (.alarm (unknownUpAlarm trx p)) ()] else []
  | _ => []

/-- If the result is a rejection, then of a known primitive, and nothing comes of it. -/
def Rejects (r : Except Failure Unit) (b b' : Bts) (es : List Event) : Prop :=
  isRejected r = true → b' = b ∧ es = [] ∧ isUnknownPrimitive r = false

theorem Rejects.untouched (known : isUnknownPrimitive r = false) : Rejects r b b [] :=
  fun _ => ⟨rfl, rfl, known⟩

theorem Rejects.done : Rejects (.ok ()) b b' es := fun rejected => absurd rejected (by decide)

/-- The radio refuses a primitive for its own reasons. -/
theorem Rejects.answered {a : Except PhyError Unit} : Rejects (downResult a) b b' es := by
  intro rejected
  cases a with
  | ok => cases rejected
  | error e => cases rejected

theorem ActivateCnfOutcome.rejects {c : ActConfirm} (h : ActivateCnfOutcome trx c b r b' es) :
    Rejects r b b' es := by
  cases h with
  | unknownTrx => exact .untouched rfl
  | unknownLchan => exact .untouched rfl
  | confirmed => exact .done

theorem DeactivateCnfOutcome.rejects {c : ActConfirm} (h : DeactivateCnfOutcome trx c b r b' es) :
    Rejects r b b' es := by
  cases h with
  | unknownTrx => exact .untouched rfl
  | unknownLchan => exact .untouched rfl
  | sacchOnly => exact .untouched rfl
  | released => exact .done
  | switched => exact .done

theorem CipherCnfOutcome.rejects {c : CipherConfirm} (h : CipherCnfOutcome trx c b r b' es) :
    Rejects r b b' es := by
  cases h with
  | unknownTrx => exact .untouched rfl
  | unknownLchan => exact .untouched rfl
  | confirmed => exact .done

theorem TimeOutcome.rejects {fn : UInt32} (h : TimeOutcome site trx fn b r b' es) :
    Rejects r b b' es := by
  cases h with
  | secondary => exact .untouched rfl
  | primary => exact .done

theorem MeasuredOutcome.rejects {m : Measured} (h : MeasuredOutcome trx m b r b' es) :
    Rejects r b b' es := by
  cases h with
  | measured => exact .done
  | _ => exact .untouched rfl

theorem RtsOutcome.rejects {p : PhRts} (h : RtsOutcome site trx p b r b' es) :
    Rejects r b b' es := by
  cases h with
  | undecodable => exact .untouched rfl
  | unknownTrx => exact .untouched rfl
  | packet => exact .done
  | looped => exact .answered
  | circuit => exact .answered

theorem TchRtsOutcome.rejects {p : TchRts} (h : TchRtsOutcome trx p b r b' es) :
    Rejects r b b' es := by
  cases h with
  | unknownTrx => exact .untouched rfl
  | inactive => exact .answered
  | active => exact .answered

theorem DataOutcome.rejects {d : PhData} (h : DataOutcome site trx d b r b' es) :
    Rejects r b b' es := by
  cases h with
  | unknownTrx => exact .untouched rfl
  | packetBad => exact .untouched rfl
  | badMain => exact .untouched rfl
  | badSacch => exact fun rejected => absurd rejected (by simp [isRejected, Refusal.isRejection])
  | shortSacch => exact fun rejected => absurd rejected (by simp [isRejected, Refusal.isRejection])
  | _ => exact .done

theorem TchOutcome.rejects {d : TchData} (h : TchOutcome site trx d b r b' es) :
    Rejects r b b' es := by
  cases h with
  | unknownTrx => exact .untouched rfl
  | _ => exact .done

/-- The energy of an access burst is counted before anything else. -/
theorem RachOutcome.rejects {p : PhRach} (h : RachOutcome site trx p b r b' es) :
    Rejects r (busyCounted p b) b' es := by
  cases h with
  | late => exact .untouched rfl
  | unknownTrx => exact .untouched rfl
  | unknownLchan => exact .untouched rfl
  | _ => exact .done

theorem ChanActOutcome.rejects {tsc : Option UInt8} (h : ChanActOutcome site trx n tsc b r b' es) :
    Rejects r b b' es := by
  cases h with
  | radio => exact fun rejected => absurd rejected (by decide)
  | requested => exact .done
  | _ => exact .untouched rfl

theorem ChanRelOutcome.rejects (h : ChanRelOutcome trx n b r b' es) : Rejects r b b' es := by
  cases h with
  | unknownTrx => exact .untouched rfl
  | unknownLchan => exact .untouched rfl
  | requested => exact .answered

theorem ChanDeactSacchOutcome.rejects (h : ChanDeactSacchOutcome trx n b r b' es) :
    Rejects r b b' es := by
  cases h with
  | unknownTrx => exact .untouched rfl
  | unknownLchan => exact .untouched rfl
  | requested => exact .answered

/-- A switch whose activation or release is rejected is taken back. -/
theorem PdchSwitchOutcome.rejects {tn : UInt8} {toPdch : Bool}
    (h : PdchSwitchOutcome site trx tn b toPdch r b' es) : Rejects r b b' es := by
  cases h with
  | unknownTrx => exact .untouched rfl
  | refused => exact .untouched rfl
  | begun => exact .done
  | endBegun => exact .done
  | givenUp slot begun inner =>
    intro rejected
    obtain ⟨rfl, rfl, known⟩ := inner.rejects rejected
    exact ⟨settled_begun slot (settle_beginPdchAct begun), rfl, known⟩
  | endGivenUp slot begun inner =>
    intro rejected
    obtain ⟨rfl, rfl, known⟩ := inner.rejects rejected
    exact ⟨settled_begun slot (settle_beginPdchDeact begun), rfl, known⟩

/-- A rejection that is not of an unknown primitive goes without a report. -/
theorem Rejects.unreported (h : Rejects r (i.countedIn b) b' es) (rejected : isRejected r = true) :
    b' = i.countedIn b ∧ es = i.reportedWith r := by
  obtain ⟨same, quiet, known⟩ := h rejected
  refine ⟨same, quiet.trans ?_⟩
  cases i with
  | up => exact (if_neg (by simp [known])).symm
  | _ => rfl

theorem countedIn_of_request {p : Prim} (request : p.op = .request) :
    (Input.up trx p).countedIn b = b := by
  cases p with
  | phRachInd => cases request
  | _ => rfl

theorem StepOutcome.rejected (h : StepOutcome site b i r b' es) (rejected : isRejected r = true) :
    b' = i.countedIn b ∧ es = i.reportedWith r := by
  cases h with
  | unknown request => exact ⟨(countedIn_of_request request).symm, rfl⟩
  | time outcome => exact outcome.rejects.unreported rejected
  | measured outcome => exact outcome.rejects.unreported rejected
  | activateCnf outcome => exact outcome.rejects.unreported rejected
  | deactivateCnf outcome => exact outcome.rejects.unreported rejected
  | cipherCnf outcome => exact outcome.rejects.unreported rejected
  | rts outcome => exact outcome.rejects.unreported rejected
  | tchRts outcome => exact outcome.rejects.unreported rejected
  | data outcome => exact outcome.rejects.unreported rejected
  | tch outcome => exact outcome.rejects.unreported rejected
  | rach outcome => exact outcome.rejects.unreported rejected
  | chanAct outcome => exact outcome.rejects.unreported rejected
  | chanRel outcome => exact outcome.rejects.unreported rejected
  | chanDeactSacch outcome => exact outcome.rejects.unreported rejected
  | pdchSwitch outcome => exact outcome.rejects.unreported rejected
  | down => exact Rejects.answered.unreported rejected
  | chanModify => exact Rejects.answered.unreported rejected
  | packetReq => exact Rejects.answered.unreported rejected
  | _ => cases rejected

/-! ### Inputs without a taker -/

/-- There is no one to take the input: the management payload has no handler, the channel of a
measurement, a voice frame or a block of data is not active, or an access burst is late. On a
timeslot in packet mode the blocks are for the packet control unit. -/
inductive Input.Ignored (site : Site σ φ) (b : Bts) : Input → Prop
  | indicated {trx : UInt8} {m : MphInfo} (other : handledIndication m = false) :
    Ignored site b (.up trx (.mphInfoInd m))
  | confirmed {trx : UInt8} {m : MphInfo} (other : handledConfirm m = false) :
    Ignored site b (.up trx (.mphInfoCnf m))
  | measured {trx : UInt8} {m : Measured} {c : Carrier} (carrier : b.carrier? trx = some c)
      (inactive : b.findActive? trx m.chanNr = none) :
    Ignored site b (.up trx (.mphInfoInd (.measured m)))
  | tch {trx : UInt8} {t : TchData} {c : Carrier} (carrier : b.carrier? trx = some c)
      (inactive : b.findActive? trx t.chanNr = none) : Ignored site b (.up trx (.tchInd t))
  | data {trx : UInt8} {d : PhData} {c : Carrier} (carrier : b.carrier? trx = some c)
      (circuit : (c.slotOf d.chanNr).isPdch = false)
      (inactive : b.findActive? trx d.chanNr = none) : Ignored site b (.up trx (.phDataInd d))
  | late {trx : UInt8} {p : PhRach} (late : site.settings.maxTa < p.delay) :
    Ignored site b (.up trx (.phRachInd p))

theorem MeasuredOutcome.ignored {m : Measured} {c : Carrier}
    (h : MeasuredOutcome trx m b r b' es) (carrier : b.carrier? trx = some c)
    (inactive : b.findActive? trx m.chanNr = none) : r = .ok () ∧ b' = b ∧ es = [] := by
  cases h with
  | unknownTrx unknown => cases unknown.symm.trans carrier
  | inactive => exact ⟨rfl, rfl, rfl⟩
  | packet _ found => cases found.symm.trans inactive
  | measured _ found => cases found.symm.trans inactive

theorem TchOutcome.ignored {t : TchData} {c : Carrier} (h : TchOutcome site trx t b r b' es)
    (carrier : b.carrier? trx = some c) (inactive : b.findActive? trx t.chanNr = none) :
    r = .ok () ∧ b' = b ∧ es = [] := by
  cases h with
  | unknownTrx unknown => cases unknown.symm.trans carrier
  | inactive => exact ⟨rfl, rfl, rfl⟩
  | looped _ found => cases found.symm.trans inactive
  | taken _ found => cases found.symm.trans inactive

theorem DataOutcome.ignored {d : PhData} {c : Carrier} (h : DataOutcome site trx d b r b' es)
    (carrier : b.carrier? trx = some c) (circuit : (c.slotOf d.chanNr).isPdch = false)
    (inactive : b.findActive? trx d.chanNr = none) : r = .ok () ∧ b' = b ∧ es = [] := by
  have packetless : ∀ {k : Carrier}, b.carrier? trx = some k →
      (k.slotOf d.chanNr).isPdch ≠ true := by
    intro k known packet
    rw [carrier, Option.some.injEq] at known
    rw [← known, circuit] at packet
    cases packet
  cases h with
  | unknownTrx unknown => cases unknown.symm.trans carrier
  | looped known packet => exact absurd packet (packetless known)
  | packetBad known packet => exact absurd packet (packetless known)
  | packetPartial known packet => exact absurd packet (packetless known)
  | packetData known packet => exact absurd packet (packetless known)
  | inactive => exact ⟨rfl, rfl, rfl⟩
  | badMain _ _ found => cases found.symm.trans inactive
  | badSacch _ _ found => cases found.symm.trans inactive
  | main _ _ found => cases found.symm.trans inactive
  | shortSacch _ _ found => cases found.symm.trans inactive
  | sacch _ _ found => cases found.symm.trans inactive

theorem RachOutcome.ignored {p : PhRach} (h : RachOutcome site trx p b r b' es)
    (late : site.settings.maxTa < p.delay) : r = .ok () ∧ b' = busyCounted p b ∧ es = [] := by
  have discarded : p.route trx site.settings.maxTa = .discard := if_pos late
  cases h with
  | late => exact ⟨rfl, rfl, rfl⟩
  | unknownTrx route => exact absurd discarded route
  | unknownLchan route => cases route.symm.trans discarded
  | handover route => cases route.symm.trans discarded
  | packet route => cases route.symm.trans discarded
  | request route => cases route.symm.trans discarded

theorem StepOutcome.ignored (h : StepOutcome site b i r b' es) (ignored : i.Ignored site b) :
    r = .ok () ∧ b' = i.countedIn b ∧ es = [] := by
  cases ignored with
  | indicated other =>
    cases h with
    | time => cases other
    | measured => cases other
    | indicated => exact ⟨rfl, rfl, rfl⟩
    | unknown request => cases request
  | confirmed other =>
    cases h with
    | activateCnf => cases other
    | deactivateCnf => cases other
    | cipherCnf => cases other
    | confirmed => exact ⟨rfl, rfl, rfl⟩
    | unknown request => cases request
  | measured carrier inactive => exact h.measuredOutcome.ignored carrier inactive
  | tch carrier inactive => exact h.tchOutcome.ignored carrier inactive
  | data carrier circuit inactive => exact h.dataOutcome.ignored carrier circuit inactive
  | late late => exact h.rachOutcome.ignored late

/-! ### No trace -/

/-- An input leaves no trace: at most the energy of an access burst is counted, and the parties
are only told that a primitive is unknown. What was captured of it is not part of the data. -/
structure LeavesNoTrace (site : Site σ φ) (i : Input) (w : World σ φ) : Prop where
  data : (step site i w).2.bts = i.countedIn w.bts
  events : (step site i w).2.trace = w.trace ++ i.reportedWith (step site i w).1
  radio : (step site i w).2.phy = w.phy
  parties : i.reportedWith (step site i w).1 = [] → (step site i w).2.services = w.services

/-- Without orders the radio stays as it is. -/
theorem Answers.radio_of_orders {s s' : σ} {p p' : φ} (h : Answers site s p es s' p')
    (unasked : orders es = []) : p' = p := by
  induction h with
  | nil => rfl
  | call _ _ ih => exact ih unasked
  | down => cases unasked
  | disconnect => cases unasked

theorem Answers.parties_of_nil {s s' : σ} {p p' : φ} (h : Answers site s p es s' p')
    (quiet : es = []) : s' = s := by
  subst quiet
  cases h
  rfl

theorem orders_reportedWith : orders (i.reportedWith r) = [] := by
  unfold Input.reportedWith
  split
  · split <;> rfl
  · rfl

/-- In every state an input that is rejected leaves no trace, and one that there is no one to take
is answered well and leaves no trace either. -/
theorem rejected_inputs_leave_no_trace (site : Site σ φ) (i : Input) (w : World σ φ) :
    (isRejected (step site i w).1 = true → LeavesNoTrace site i w) ∧
    (i.Ignored site w.bts → (step site i w).1 = .ok () ∧ LeavesNoTrace site i w) := by
  obtain ⟨es, trace, outcome, answers⟩ := step_answered site i w
  have traceless : (step site i w).2.bts = i.countedIn w.bts →
      es = i.reportedWith (step site i w).1 → LeavesNoTrace site i w := by
    intro data told
    rw [told] at trace answers
    exact ⟨data, trace, answers.radio_of_orders orders_reportedWith, answers.parties_of_nil⟩
  constructor
  · intro rejected
    obtain ⟨data, told⟩ := outcome.rejected rejected
    exact traceless data told
  · intro ignored
    obtain ⟨done, data, quiet⟩ := outcome.ignored ignored
    refine ⟨done, traceless data ?_⟩
    have untold : i.reportedWith (.ok ()) = [] := by cases i <;> rfl
    rw [done, quiet, untold]

/-- While the activation of a channel is under way, another one with a foreign training sequence
leaves no trace, nor does a voice frame on the channel, which is not active yet. -/
theorem opening_channel_untouched :
    let w := run scriptedSite (scriptedWorld .fresh) [.chanAct 0 0x09 none]
    LeavesNoTrace scriptedSite (.chanAct 0 0x09 (some 5)) w ∧
    LeavesNoTrace scriptedSite (.up 0 (.tchInd ⟨0x09, 4, true, none⟩)) w := by
  intro w
  have rejected : isRejected (step scriptedSite (.chanAct 0 0x09 (some 5)) w).1 = true := by
    decide +kernel
  have known : (w.bts.carrier? 0).isSome := by decide +kernel
  have inactive : w.bts.findActive? 0 0x09 = none := by decide +kernel
  obtain ⟨c, carrier⟩ := Option.isSome_iff_exists.mp known
  exact ⟨(rejected_inputs_leave_no_trace scriptedSite _ w).1 rejected,
    ((rejected_inputs_leave_no_trace scriptedSite _ w).2 (.tch carrier inactive)).2⟩

end BaseStation.Bridge
