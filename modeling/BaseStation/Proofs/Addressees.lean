import BaseStation.Proofs.Bridge.Causes
import BaseStation.Proofs.Configured

/-!
Which channels the parties above are told about. A call is on a channel that exists and that the
input names, and an ordinary channel request is on the common control channel of the carrier it came
in on. Of the carriers only the primary one has such a channel.
-/

namespace BaseStation

/-! ### Calls on channels -/

/-- The channel is a common control channel: it lies in the place of one, on a timeslot that
carries it. -/
structure Bts.IsCommonControl (b : Bts) (id : LchanId) : Prop where
  place : id.ss.toNat = ChanAddr.commonIndex
  slot : ∃ t, b.slot? id.trx id.tn = some t ∧ t.pchan.hasCcch = true

/-- The channel that a call is on. -/
def Call.lchan? : Call → Option LchanId
  | dequeue id _ | dataUp id _ _ | accessUp id _ | setT200 id _ | activationDone id _
  | releaseDone id | connectionFailure id _ | releaseIndication id _ | handoverAccess id _ _
  | handoverFrame id | voicePoll id | voiceAdvance id _ | voiceUp id _ | measure id _ _
  | powerControl id _ _ | dtxAlloc id => some id
  | alarm report => report.lchan
  | packetRts _ | packetData _ | packetAccess _ | packetTime _ | switchDone .. | dtxFree _
  | dtxFacch _ | bcchBlock _ | ccchBlock .. => none

/-- The call passes an ordinary channel request on. -/
def Call.isChannelRequest : Call → Bool
  | accessUp .. => true
  | _ => false

namespace Bridge

variable {σ φ : Type} {site : Site σ φ} {b b' : Bts} {trx tn n : UInt8} {id j : LchanId}
  {l : Lchan} {i : Input} {r : Except Failure Unit} {es : List Event} {target : Option LchanId}

/-- A call that is on a channel is on the given one, and is no channel request. -/
def Event.On (target : Option LchanId) : Event → Prop
  | .call c _ => ∀ id, c.lchan? = some id → target = some id ∧ c.isChannelRequest = false
  | _ => True

/-- The access burst is an ordinary channel request on a carrier that exists. -/
def PassesRequest (site : Site σ φ) (b : Bts) (trx : UInt8) (p : PhRach) : Prop :=
  p.route trx site.settings.maxTa = .linkLayer ∧ ∃ c, b.carrier? trx = some c

/-! ### Inputs -/

theorem Event.on_of_lchan? {c : Call} {a : c.Answer} (on : c.lchan? = some id)
    (here : target = some id) (other : c.isChannelRequest = false) :
    Event.On target (.call c a) := by
  intro j hj
  rw [on, Option.some.injEq] at hj
  exact ⟨hj ▸ here, other⟩

theorem Event.on_of_nowhere {c : Call} {a : c.Answer} (nowhere : c.lchan? = none) :
    Event.On target (.call c a) := by
  intro j hj
  rw [nowhere] at hj
  cases hj

/-- What an input causes is on the channel that it names, unless it is an ordinary channel
request. -/
theorem Causes.on {e : Event} (h : Causes site b i e)
    (other : ∀ trx p, i = .up trx (.phRachInd p) → ¬ PassesRequest site b trx p) :
    e.On (i.target? b) := by
  cases h with
  | measure here | activationDone here | releaseDone here | dequeue here | voicePoll here
  | voiceAdvance here | releaseIndication here | connectionFailure here | handoverFrame here
  | powerControl here | dataUp here | voiceUp here | handoverAccess here | setT200 _ here
  | dtxAlloc _ here => exact Event.on_of_lchan? rfl here rfl
  | accessUp route carrier => exact absurd ⟨route, carrier⟩ (other _ _ rfl)
  | alarm nowhere => exact Event.on_of_nowhere nowhere
  | packetTime | entered | left | bcchBlock | ccchBlock | dtxFacch | packetRts | packetData
  | packetAccess | dtxFree => exact Event.on_of_nowhere rfl
  | _ => trivial

/-- The calls of an input are on the channel that it names, unless it is an ordinary channel
request. -/
theorem StepOutcome.on (h : StepOutcome site b i r b' es)
    (other : ∀ trx p, i = .up trx (.phRachInd p) → ¬ PassesRequest site b trx p) :
    ∀ e ∈ es, e.On (i.target? b) := fun e he => (h.causes e he).on other

theorem RachOutcome.passed {p : PhRach} (h : RachOutcome site trx p b r b' es)
    (passes : PassesRequest site b trx p) :
    ∃ request, es = [.call (.accessUp (commonLchan trx) request) ()] := by
  obtain ⟨route, c, carrier⟩ := passes
  cases h with
  | request => exact ⟨_, rfl⟩
  | unknownTrx _ unknown => cases unknown.symm.trans carrier
  | late other => cases other.symm.trans route
  | unknownLchan other => cases other.symm.trans route
  | handover other => cases other.symm.trans route
  | packet other => cases other.symm.trans route

/-- An ordinary channel request is passed on for the channel at the common place of its carrier. -/
theorem StepOutcome.passed {p : PhRach}
    (h : StepOutcome site b (.up trx (.phRachInd p)) r b' es)
    (passes : PassesRequest site b trx p) :
    ∃ request, es = [.call (.accessUp (commonLchan trx) request) ()] :=
  h.rachOutcome.passed passes

/-! ### Common control channels -/

/-- The channel of an address exists. -/
theorem Address.isSome_of_resolve {a : Address} (target : a.resolve b = some id) :
    (b.lchan? id).isSome := by
  have of_locate : ∀ {trx n}, b.locate? trx n = some id → (b.lchan? id).isSome := by
    intro trx n located
    obtain ⟨-, -, -, known⟩ := Bts.locate?_eq_some.mp located
    exact known
  cases a with
  | number trx n => exact of_locate target
  | timeslot trx tn =>
    obtain ⟨-, -, located⟩ := Option.bind_eq_some_iff.mp target
    exact of_locate located
  | channel j =>
    obtain ⟨known, same⟩ := Option.ite_none_right_eq_some.mp target
    cases same
    exact known

section Reached

variable {c : Config} (valid : c.validate = .ok ()) (plan : b.plan = (Bts.ofConfig c).plan)
include valid plan

/-- The primary carrier has a channel at the common place, and it is a common control channel. -/
theorem commonLchan_primary :
    (b.lchan? (commonLchan 0)).isSome ∧ b.IsCommonControl (commonLchan 0) := by
  obtain ⟨p, config, control⟩ := c.primary_hasCcch valid
  refine ⟨?_, rfl, ?_⟩
  · rw [Bts.isSome_lchan?_of_plan plan]
    unfold Bts.lchan?
    rw [show (commonLchan 0).trx = 0 from rfl, show (commonLchan 0).tn = 0 from rfl,
      Bts.slot?_ofConfig_eq, config]
    cases p with
    | ccch => rfl
    | ccchSdcch4 => rfl
    | _ => cases control
  · have slot : (b.slot? 0 0).map (·.pchan) = some p := by rw [Bts.pchan_of_plan plan, config]
    obtain ⟨t, there, rfl⟩ := Option.map_eq_some_iff.mp slot
    exact ⟨t, there, control⟩

/-- No other carrier has a common control channel. -/
theorem not_common_secondary (secondary : trx ≠ 0) : ¬ b.IsCommonControl (commonLchan trx) := by
  rintro ⟨-, t, slot, control⟩
  have config : c.pchan? trx 0 = some t.pchan := Bts.pchan?_of_slot? plan slot
  cases (c.secondary_hasCcch valid secondary config).symm.trans control

end Reached

/-! ### Runs -/

/-- The channel is the right one for a call of the turn: it exists, and it is the one that the input
names, or a common control channel if the call passes an ordinary channel request on. -/
structure Turn.RightChannel (t : Turn) (c : Call) (id : LchanId) : Prop where
  known : (t.before.lchan? id).isSome ∧ (t.after.lchan? id).isSome
  named : c.isChannelRequest = false → ∃ i o a, t.move = .input i o ∧ i.address? = some a ∧
    a.resolve t.before = some id
  common : c.isChannelRequest = true → t.before.IsCommonControl id

/-- The calls of the turn are on the right channels. -/
def Turn.AddressesRightly (t : Turn) : Prop :=
  ∀ c a, .call c a ∈ t.events → ∀ id, c.lchan? = some id → t.RightChannel c id

/-- The turn is an ordinary channel request that came in on a carrier other than the primary
one. -/
def Turn.RequestedElsewhere (site : Site σ φ) (t : Turn) : Prop :=
  ∃ trx p, t.move = .up trx (.phRachInd p) ∧ PassesRequest site t.before trx p ∧ trx ≠ 0

theorem Turn.Lawful.isSome_after {t : Turn} (lawful : t.Lawful site)
    (known : (t.before.lchan? id).isSome) : (t.after.lchan? id).isSome := by
  rwa [Bts.isSome_lchan?_of_plan lawful.plan]

theorem Turn.Lawful.passed {t : Turn} {p : PhRach} (lawful : t.Lawful site)
    (move : t.move = .up trx (.phRachInd p)) (passes : PassesRequest site t.before trx p) :
    ∃ request, t.events = [.call (.accessUp (commonLchan trx) request) ()] := by
  obtain ⟨before, m, r, es, after⟩ := t
  cases move
  exact StepOutcome.passed lawful passes

/-- A turn without an ordinary channel request calls on the channel that it names. -/
theorem Turn.Lawful.addressesRightly {t : Turn} (lawful : t.Lawful site)
    (other : ∀ trx p, t.move = .up trx (.phRachInd p) → ¬ PassesRequest site t.before trx p) :
    t.AddressesRightly := by
  intro c a told id on
  obtain ⟨before, m, r, es, after⟩ := t
  cases m with
  | input i o =>
    have outcome : StepOutcome site before i r after es := lawful
    obtain ⟨target, named⟩ : i.target? before = some id ∧ c.isChannelRequest = false := by
      refine outcome.on (fun trx p same => ?_) _ told id on
      subst same
      exact other trx p rfl
    obtain ⟨x, address, target⟩ := Option.bind_eq_some_iff.mp target
    have known : (before.lchan? id).isSome := Address.isSome_of_resolve target
    refine ⟨⟨known, lawful.isSome_after known⟩, fun _ => ⟨i, o, x, rfl, address, target⟩, ?_⟩
    intro request
    cases named.symm.trans request
  | write j x =>
    obtain ⟨-, -, quiet⟩ := lawful
    dsimp only at quiet told
    rw [quiet] at told
    cases told

theorem Turn.Lawful.addressesRightly_iff {t : Turn} {c : Config} (lawful : t.Lawful site)
    (valid : c.validate = .ok ()) (plan : t.before.plan = (Bts.ofConfig c).plan) :
    t.AddressesRightly ↔ ¬ t.RequestedElsewhere site := by
  constructor
  · rintro rightly ⟨trx, p, move, passes, secondary⟩
    obtain ⟨request, events⟩ := lawful.passed move passes
    have told : Event.call (.accessUp (commonLchan trx) request) () ∈ t.events := by simp [events]
    exact not_common_secondary valid plan secondary ((rightly _ _ told _ rfl).common rfl)
  · intro here
    by_cases request : ∃ trx p, t.move = .up trx (.phRachInd p) ∧ PassesRequest site t.before trx p
    · obtain ⟨trx, p, move, passes⟩ := request
      obtain rfl : trx = 0 := Decidable.byContradiction fun secondary =>
        here ⟨trx, p, move, passes, secondary⟩
      obtain ⟨request, events⟩ := lawful.passed move passes
      obtain ⟨known, common⟩ := commonLchan_primary valid plan
      intro call answer told id on
      rw [events] at told
      cases List.mem_singleton.mp told
      cases on
      exact ⟨⟨known, lawful.isSome_after known⟩, nofun, fun _ => common⟩
    · refine lawful.addressesRightly fun trx p move passes => ?_
      exact request ⟨trx, p, move, passes⟩

/-- In every run of a valid configuration the calls of a turn are on the right channels, unless the
turn is an ordinary channel request that came in on a carrier other than the primary one: it is
passed on for a channel of that carrier, which has no common control channel. -/
theorem addressees_right_iff (site : Site σ φ) {c : Config} (valid : c.validate = .ok ())
    (filter : Capture.Filter) (services : σ) (phy : φ) (ms : List Move) :
    ∀ t ∈ history site (.fresh c filter services phy) ms,
      t.AddressesRightly ↔ ¬ t.RequestedElsewhere site := by
  intro t ht
  exact (lawful_of_mem_history ht).addressesRightly_iff valid (plan_before ht)

/-- The cell with a second carrier, on which all timeslots carry traffic. -/
def twoCarrierConfig : Config :=
  { scriptedConfig with
    carriers := [.default, ⟨0, Vector.replicate numSlots .tchF⟩] }

/-- An ordinary channel request. -/
def ordinaryRequest : PhRach := ⟨0x88, 0xe3, 3, 136, false, .ts0, -60⟩

/-- The base station of two carriers, just set up. -/
def twoCarrierWorld : World ScriptedServices ScriptedPhy :=
  .fresh twoCarrierConfig .empty .fresh .accepting

/-- A channel request on the primary carrier reaches the common control channel. -/
theorem primary_request_passed_on : twoCarrierConfig.validate = .ok () ∧
    ∀ t ∈ history scriptedSite twoCarrierWorld [.up 0 (.phRachInd ordinaryRequest)],
      t.AddressesRightly := by
  refine ⟨rfl, fun t ht => ?_⟩
  refine (addressees_right_iff scriptedSite rfl .empty .fresh .accepting _ t ht).mpr ?_
  obtain rfl := List.mem_singleton.mp ht
  rintro ⟨trx, p, move, -, secondary⟩
  cases move
  exact secondary rfl

/-- The same request on the other carrier is passed on for a channel that does not exist. -/
theorem secondary_request_astray : twoCarrierConfig.validate = .ok () ∧
    ∃ t ∈ history scriptedSite twoCarrierWorld [.up 1 (.phRachInd ordinaryRequest)],
      ∃ request a, .call (.accessUp ⟨1, 0, 4⟩ request) a ∈ t.events ∧
        t.before.lchan? ⟨1, 0, 4⟩ = none ∧ ¬ t.AddressesRightly := by
  have lawful := lawful_turnOf scriptedSite twoCarrierWorld (.up 1 (.phRachInd ordinaryRequest))
  obtain ⟨request, events⟩ :=
    lawful.passed rfl ⟨by decide, .fresh 1 ⟨0, Vector.replicate numSlots .tchF⟩, rfl⟩
  have told := List.mem_singleton_self (Event.call (.accessUp (commonLchan 1) request) ())
  rw [← events] at told
  have missing : twoCarrierWorld.bts.lchan? ⟨1, 0, 4⟩ = none := by decide +kernel
  refine ⟨rfl, _, List.mem_singleton_self _, request, (), told, missing, fun rightly => ?_⟩
  have known : (twoCarrierWorld.bts.lchan? ⟨1, 0, 4⟩).isSome := (rightly _ _ told _ rfl).known.1
  rw [missing] at known
  cases known

end Bridge
end BaseStation
