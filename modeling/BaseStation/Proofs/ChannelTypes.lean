import BaseStation.Proofs.Bridge.Track
import BaseStation.Proofs.Configured
import BaseStation.Proofs.PacketMode

/-!
The types that channels take. A channel number finds a channel by its place on the timeslot, and its
kind gives the channel the type, so that the types are those that the timeslots can carry as long as
the activations are.
-/

namespace BaseStation

/-! ### Types and timeslots -/

/-- A timeslot of the configuration can have a channel of the type at the place. -/
def Pchan.carries (p : Pchan) (ss : Nat) : LchanType → Bool
  | .none => true
  | .sdcch => p == .ccchSdcch4 && ss < p.numLchans || p == .sdcch8
  | .tchF => p == .tchF || p.isDynamic
  | .tchH => p == .tchH || p == .tchFTchHPdch
  | .pdtch => p == .pdch || p.isDynamic
  | .ccch => p.hasCcch && ss == ChanAddr.commonIndex
  | .cbch => false

/-- The types of the channels that were never used are those of the layout. -/
theorem Pchan.carries_layout {p : Pchan} {ss : Nat} {type : LchanType}
    (there : p.layout[ss]? = some type) : p.carries ss type = true := by
  have every : ∀ i : Fin p.layout.length, p.carries i p.layout[i] = true := by
    cases p <;> decide
  obtain ⟨range, rfl⟩ := List.getElem?_eq_some_iff.mp there
  exact every ⟨ss, range⟩

/-- The channels have types that their timeslots are configured to carry. -/
def Config.TypesFit (c : Config) (b : Bts) : Prop :=
  ∀ id l, b.lchan? id = some l →
    ∃ p, c.pchan? id.trx id.tn = some p ∧ p.carries id.ss.toNat l.type = true

theorem Config.typesFit_ofConfig (c : Config) : c.TypesFit (.ofConfig c) := by
  intro id l known
  obtain ⟨t, slot, known⟩ := Bts.lchan?_eq_some.mp known
  rw [Bts.slot?_ofConfig_eq] at slot
  obtain ⟨p, config, rfl⟩ := Option.map_eq_some_iff.mp slot
  simp only [Timeslot.fresh, List.getElem?_mapIdx, Option.map_eq_some_iff] at known
  obtain ⟨type, there, rfl⟩ := known
  exact ⟨p, config, p.carries_layout there⟩

namespace Timeslot

/-- Packet mode is in use on the timeslot, or a switch into it is under way. -/
def forPacketData (t : Timeslot) : Bool := t.isPdch || t.flags.actPending

/-- The type that an activation under a number of the kind gives a channel of the timeslot. -/
def typeFor (t : Timeslot) (kind : ChanKind) : LchanType := .forActivation kind t.forPacketData

/-- The timeslot can have a channel of the kind at the place: it is for packet data at this time,
or it is configured to carry the kind there. -/
def admits (t : Timeslot) (ss : Nat) (kind : ChanKind) : Bool :=
  t.forPacketData || t.pchan.carries ss (.forActivation kind false)

end Timeslot

namespace Bridge

variable {σ φ : Type} {site : Site σ φ} {b b' : Bts} {trx tn n : UInt8} {id : LchanId}
  {l l' : Lchan} {k : Timeslot} {a : ChanAddr} {t : Turn} {r : Except Failure Unit}
  {es : List Event}

/-- A timeslot that is for packet data is configured for it. -/
theorem carries_pdtch (sound : SoundSlot k) (packet : k.forPacketData = true) (ss : Nat) :
    k.pchan.carries ss .pdtch = true := by
  cases sound with
  | fixed h =>
    have inUse : k.isPdch = true := by
      simpa [Timeslot.forPacketData, h.flags, SlotFlags.none] using packet
    unfold Timeslot.isPdch at inUse
    split at inUse
    · rename_i config
      rw [config]
      rfl
    · exact absurd ‹_› h.unswitched
    · exact absurd ‹_› h.modeless
    · cases inUse
  | switched h =>
    rw [h.config]
    rfl
  | dynamic h =>
    rw [h.config]
    rfl

/-- The timeslot can carry a channel with the type of an activation exactly if it admits its
kind. -/
theorem carries_typeFor (sound : SoundSlot k) {ss : Nat} {kind : ChanKind} :
    k.pchan.carries ss (k.typeFor kind) = k.admits ss kind := by
  unfold Timeslot.typeFor Timeslot.admits
  cases packet : k.forPacketData with
  | true => exact carries_pdtch sound packet ss
  | false => rfl

/-! ### Activations -/

/-- The request for an activation under a channel number finds the channel `id` on the timeslot `k`;
the number names the address `a`. -/
structure FindsChannel (site : Site σ φ) (b : Bts) (trx n : UInt8) (tsc : Option UInt8)
    (id : LchanId) (k : Timeslot) (a : ChanAddr) : Prop where
  addr : ChanAddr.decode n = .ok a
  right : checkTsc tsc site.settings.tsc = .ok ()
  located : b.locate? trx n = some id
  slot : b.slot? id.trx id.tn = some k

theorem FindsChannel.unique {tsc : Option UInt8} {j : LchanId} {k' : Timeslot} {a' : ChanAddr}
    (h : FindsChannel site b trx n tsc id k a) (h' : FindsChannel site b trx n tsc j k' a') :
    j = id ∧ k' = k ∧ a' = a := by
  obtain rfl : j = id := Option.some.inj (h'.located.symm.trans h.located)
  exact ⟨rfl, Option.some.inj (h'.slot.symm.trans h.slot),
    Except.ok.inj (h'.addr.symm.trans h.addr)⟩

def Event.taken? : Event → Option (UInt8 × Prim)
  | .down trx p (.ok _) => some (trx, p)
  | _ => none

instance : Aside Event.taken? := by constructor <;> intros <;> rfl

/-- The radio takes the request for an activation. -/
def TakenByRadio (trx n : UInt8) (es : List Event) : Prop :=
  (trx, .mphInfoReq (.activateReq (actRequest n false))) ∈ es.filterMap Event.taken?

/-- What a request for an activation does to the type of the channel that it finds. -/
theorem ChanActOutcome.activation {tsc : Option UInt8}
    (h : ChanActOutcome site trx n tsc b r b' es) :
    (b' = b ∧ r ≠ .ok () ∧ ∀ id k a, ¬ FindsChannel site b trx n tsc id k a) ∨
      ∃ id k a l', FindsChannel site b trx n tsc id k a ∧ b' = b.setLchan id l' ∧
        l'.type = k.typeFor a.kind ∧ (r = .ok () ↔ TakenByRadio trx n es) := by
  have finds : ∀ {a c id l}, ChanAddr.decode n = .ok a → checkTsc tsc site.settings.tsc = .ok () →
      b.carrier? trx = some c → b.find? trx n = some (id, l) →
      FindsChannel site b trx n tsc id (c.slotOf n) a := by
    intro a c id l addr right carrier found
    have located := (Bts.find?_eq_some.mp found).1
    obtain ⟨ofCarrier, place⟩ := Bts.place_of_locate? located
    refine ⟨addr, right, located, ?_⟩
    rw [ofCarrier, place, Bts.slot?_slotOf carrier]
  cases h with
  | undecodable bad => exact .inl ⟨rfl, nofun, fun _ _ _ h => by cases bad.symm.trans h.addr⟩
  | wrongTsc _ wrong => exact .inl ⟨rfl, nofun, fun _ _ _ h => by cases wrong.symm.trans h.right⟩
  | unknownTrx _ _ unknown =>
    exact .inl ⟨rfl, nofun, fun _ _ _ h => Bts.not_located_of_carrier unknown h.located⟩
  | unknownLchan _ _ _ unknown =>
    exact .inl ⟨rfl, nofun, fun _ _ _ h => Bts.not_located_of_find? unknown h.located⟩
  | radio addr right carrier found e =>
    refine .inr ⟨_, _, _, _, finds addr right carrier found, rfl, rfl, nofun, fun taken => ?_⟩
    simp [TakenByRadio, Event.taken?] at taken
  | @requested a c id l addr right carrier found handle =>
    refine .inr ⟨_, _, _, _, finds addr right carrier found, rfl, ?_, fun _ => ?_, fun _ => rfl⟩
    · obtain ⟨d, stored⟩ := allocated_eq site (activationType c a n) handle
        (activating site (activationType c a n) l)
      rw [stored]
      rfl
    · simp [TakenByRadio, Event.taken?]

/-- The turn is an activation of the channel `id`, which RSL asks for under the address `a` while
its timeslot is `k`. -/
def Turn.AsksFor (site : Site σ φ) (t : Turn) (id : LchanId) (k : Timeslot) (a : ChanAddr) :
    Prop :=
  ∃ trx n tsc, t.move = .chanAct trx n tsc ∧ FindsChannel site t.before trx n tsc id k a

theorem Turn.AsksFor.slot (h : t.AsksFor site id k a) :
    t.before.slot? id.trx id.tn = some k := by
  obtain ⟨_, _, _, _, finds⟩ := h
  exact finds.slot

theorem Turn.AsksFor.known (h : t.AsksFor site id k a) :
    ∃ l, t.before.lchan? id = some l := by
  obtain ⟨_, _, _, _, finds⟩ := h
  obtain ⟨_, _, _, known⟩ := Bts.locate?_eq_some.mp finds.located
  exact Option.isSome_iff_exists.mp known

/-- A turn activates one channel at the most. -/
theorem Turn.AsksFor.unique {j : LchanId} {k' : Timeslot} {a' : ChanAddr}
    (h : t.AsksFor site id k a) (h' : t.AsksFor site j k' a') :
    j = id ∧ k' = k ∧ a' = a := by
  obtain ⟨_, _, _, move, finds⟩ := h
  obtain ⟨_, _, _, move', finds'⟩ := h'
  cases move.symm.trans move'
  exact finds.unique finds'

/-! ### Types after a turn -/

/-- A channel that is not asked for goes on with its type. -/
theorem ChannelMove.type {m : Move} (h : ChannelMove site b id l m l' es)
    (unasked : ∀ trx n, ¬ m.activates trx n) : l'.type = l.type := by
  cases h with
  | refused asked => exact absurd asked (unasked _ _)
  | requested asked => exact absurd asked (unasked _ _)
  | @sent _ p _ _ _ _ f => exact (goesOn_checkDownlink f.octets).type
  | lost => exact (goesOn_supervised true).type
  | shortened => exact (goesOn_handoverDone.trans (goesOn_supervised false)).type
  | @received _ d => exact (goesOn_handoverDone.trans (goesOn_checkUplink d.frame.l2)).type
  | @sacchReceived _ d _ _ _ _ level _ header =>
    refine (Lchan.GoesOn.trans ?_ (goesOn_checkUplink _)).type
    rw [header]
    exact goesOn_handoverDone.trans ((goesOn_supervised false).trans (goesOn_headerTaken _ level))
  | @accessed _ p => exact (goesOn_delayStored p).type
  | @handover _ p _ _ _ taken =>
    cases taken with
    | false => exact (goesOn_delayStored p).type
    | true => exact ((goesOn_delayStored p).trans goesOn_handoverAwaited).type
  | @cipherConfirmed _ c => exact (goesOn_confirmCipher c).type
  | @queued f => exact (goesOn_voiceReceived f).type
  | @written x => exact (Write.goesOn x).type
  | _ => rfl

/-- An activation gives the channel that it finds the type that its timeslot has for the kind, and
leaves the others. -/
theorem ChanActOutcome.type {tsc : Option UInt8} (h : ChanActOutcome site trx n tsc b r b' es)
    (known : b.lchan? id = some l) (known' : b'.lchan? id = some l') :
    (∃ k a, FindsChannel site b trx n tsc id k a ∧ l'.type = k.typeFor a.kind) ∨
      (∀ k a, ¬ FindsChannel site b trx n tsc id k a) ∧ l'.type = l.type := by
  rcases h.activation with ⟨rfl, -, lost⟩ | ⟨j, k, a, x, finds, rfl, type, -⟩
  · rw [known, Option.some.injEq] at known'
    exact .inr ⟨lost id, congrArg _ known'.symm⟩
  · rw [Bts.lchan?_setLchan, known] at known'
    split at known'
    · rename_i here
      subst here
      cases known'
      exact .inl ⟨k, a, finds, type⟩
    · rename_i other
      cases known'
      exact .inr ⟨fun _ _ here => other (here.unique finds).1, rfl⟩

/-- A switch into packet mode makes the channel of the timeslot one for packet data. -/
theorem PdchSwitchOutcome.type (h : PdchSwitchOutcome site trx tn b true r b' es)
    (known : b.lchan? id = some l) (known' : b'.lchan? id = some l') :
    l'.type = l.type ∨ l'.type = .pdtch ∧
      ∃ k, b.slot? id.trx id.tn = some k ∧ k.pchan = .tchFPdch := by
  -- the activation finds the switch under way
  have activated : ∀ {k k' : Timeslot} {b₁ : Bts} {r : Except Failure Unit},
      b.slot? trx tn = some k → k.beginPdchAct? = some k' →
      ChanActOutcome site trx (ChanKind.base .tchF ||| tn) none
        (b.modifySlot trx tn fun _ => k') r b₁ es →
      b₁.lchan? id = some l' → l'.type = l.type ∨ l'.type = .pdtch ∧
        ∃ k, b.slot? id.trx id.tn = some k ∧ k.pchan = .tchFPdch := by
    intro k k' b₁ r slot begun inner there
    have channels : (b.modifySlot trx tn fun _ => k').lchan? id = some l := by
      rw [lchan?_begun slot (lchans_beginPdchAct begun), known]
    rcases inner.type channels there with ⟨k₁, a, finds, type⟩ | ⟨-, same⟩
    · obtain ⟨carrier, place⟩ := Bts.place_of_locate? finds.located
      have slot₁ := finds.slot
      rw [carrier, place, slot?_begun slot, Option.some.injEq] at slot₁
      obtain ⟨⟨config, -⟩, rfl⟩ := beginPdchAct?_eq_some.mp begun
      have packet : k₁.forPacketData = true := by simp [Timeslot.forPacketData, ← slot₁]
      refine .inr ⟨?_, k, ?_, config⟩
      · rw [type, Timeslot.typeFor, packet]
        rfl
      · rw [carrier, place, chanTn_fullRate (tn_lt_of_slot? slot), slot]
    · exact .inl same
  cases h with
  | unknownTrx | refused =>
    rw [known, Option.some.injEq] at known'
    exact .inl (congrArg _ known'.symm)
  | begun slot begun inner => exact activated slot begun inner known'
  | givenUp slot begun inner =>
    refine activated slot begun inner (.trans ?_ known')
    exact (Bts.lchan?_modifySlot (f := fun t => { t with flags := t.flags.settle })
      fun _ => rfl).symm

/-- The type that a turn leaves a channel with is that which its timeslot has for the kind of an
activation, else the old one, or that of a packet channel after a switch. -/
theorem Turn.Takes.type (h : t.Takes site id l l') :
    (∃ k a, t.AsksFor site id k a ∧ l'.type = k.typeFor a.kind) ∨
      (∀ k a, ¬ t.AsksFor site id k a) ∧ (l'.type = l.type ∨
        l'.type = .pdtch ∧ ∃ k, t.before.slot? id.trx id.tn = some k ∧ k.pchan = .tchFPdch) := by
  obtain ⟨known, known', lawful, move⟩ := h
  by_cases asked : ∃ trx n, t.move.activates trx n
  · obtain ⟨before, m, r, es, after⟩ := t
    obtain ⟨trx, n, asked⟩ := asked
    dsimp only at known known' asked
    obtain ⟨tsc, o, rfl⟩ | ⟨o, rfl⟩ | ⟨tn, toPdch, o, rfl⟩ := Move.asked_cases (.inl asked)
    · have outcome : StepOutcome site before (.chanAct trx n tsc) r after es := lawful
      cases outcome with
      | chanAct outcome =>
        rcases outcome.type known known' with ⟨k, a, finds, type⟩ | ⟨lost, same⟩
        · exact .inl ⟨k, a, ⟨trx, n, tsc, rfl, finds⟩, type⟩
        · refine .inr ⟨?_, .inl same⟩
          rintro k a ⟨_, _, _, move, finds⟩
          cases move
          exact lost k a finds
    · cases asked
    · have outcome : StepOutcome site before (.pdchSwitch trx tn toPdch) r after es := lawful
      cases toPdch with
      | false => cases asked
      | true =>
        cases outcome with
        | pdchSwitch outcome =>
          refine .inr ⟨?_, outcome.type known known'⟩
          rintro _ _ ⟨_, _, _, move, -⟩
          cases move
  -- no other move sets a type
  · refine .inr ⟨?_, .inl (move.type fun trx n here => asked ⟨trx, n, here⟩)⟩
    rintro k a ⟨trx, n, tsc, move, -⟩
    exact asked ⟨trx, n, by rw [move]; exact ⟨rfl, rfl⟩⟩

/-! ### Runs -/

section Turn

variable {c : Config} (lawful : t.Lawful site) (sound : SoundBts t.before)
  (plan : t.before.plan = (Bts.ofConfig c).plan)
include lawful sound plan

/-- The types go on to fit over a turn whose activations are of kinds that the timeslots admit. -/
theorem Turn.Lawful.typesFit (fit : c.TypesFit t.before)
    (admitted : ∀ id k a, t.AsksFor site id k a → k.admits id.ss.toNat a.kind = true) :
    c.TypesFit t.after := by
  intro id l' known'
  have known : (t.before.lchan? id).isSome := by
    rw [← Bts.isSome_lchan?_of_plan lawful.plan, known']
    rfl
  obtain ⟨l, known⟩ := Option.isSome_iff_exists.mp known
  obtain ⟨k', takes⟩ := takes_of_lawful lawful known
  obtain rfl : k' = l' := Option.some.inj (takes.after.symm.trans known')
  rcases takes.type with ⟨k, a, activates, type⟩ | ⟨-, same | ⟨type, k, slot, config⟩⟩
  · refine ⟨k.pchan, Bts.pchan?_of_slot? plan activates.slot, ?_⟩
    rw [type, carries_typeFor (sound.slot activates.slot)]
    exact admitted id k a activates
  · rw [same]
    exact fit id l known
  · refine ⟨k.pchan, Bts.pchan?_of_slot? plan slot, ?_⟩
    rw [type, config]
    rfl

/-- A turn after which the types fit had no activation of a kind that the timeslot does not
admit. -/
theorem Turn.Lawful.admits_of_typesFit (fit : c.TypesFit t.after)
    (activates : t.AsksFor site id k a) : k.admits id.ss.toNat a.kind = true := by
  obtain ⟨l, known⟩ := activates.known
  obtain ⟨l', takes⟩ := takes_of_lawful lawful known
  obtain ⟨p, config, carried⟩ := fit id l' takes.after
  rw [Bts.pchan?_of_slot? plan activates.slot, Option.some.injEq] at config
  subst config
  rcases takes.type with ⟨k', a', same, type⟩ | ⟨none, -⟩
  · obtain ⟨-, rfl, rfl⟩ := activates.unique same
    rwa [type, carries_typeFor (sound.slot activates.slot)] at carried
  · exact absurd activates (none k a)

end Turn

/-- An activation succeeds if it finds a channel and the radio takes it. -/
theorem Turn.Lawful.activation_succeeds_iff {tsc : Option UInt8} (lawful : t.Lawful site)
    (move : t.move = .chanAct trx n tsc) : t.result = .ok () ↔
      (∃ id k a, t.AsksFor site id k a) ∧ TakenByRadio trx n t.events := by
  obtain ⟨before, m, r, es, after⟩ := t
  cases move
  have outcome : StepOutcome site before (.chanAct trx n tsc) r after es := lawful
  cases outcome with
  | chanAct outcome =>
    rcases outcome.activation with ⟨-, failed, lost⟩ | ⟨id, k, a, -, finds, -, -, succeeds⟩
    · refine ⟨fun done => absurd done failed, ?_⟩
      rintro ⟨⟨id, k, a, _, _, _, move, finds⟩, -⟩
      cases move
      exact absurd finds (lost id k a)
    · refine ⟨fun done => ⟨⟨id, k, a, trx, n, tsc, rfl, finds⟩, succeeds.mp done⟩, ?_⟩
      exact fun taken => succeeds.mpr taken.2

/-- The activation of a turn is of a kind that the timeslot admits. -/
def Turn.AdmittedOnly (site : Site σ φ) (t : Turn) : Prop :=
  ∀ id k a, t.AsksFor site id k a → k.admits id.ss.toNat a.kind = true

/-- The types fit after every turn of a run exactly if its activations are admitted. -/
theorem typesFit_history_iff {c : Config} {w : World σ φ} {ms : List Move} (sound : SoundBts w.bts)
    (plan : w.bts.plan = (Bts.ofConfig c).plan) (fit : c.TypesFit w.bts) :
    (∀ t ∈ history site w ms, c.TypesFit t.after) ↔
      ∀ t ∈ history site w ms, t.AdmittedOnly site := by
  induction ms generalizing w with
  | nil => simp [history]
  | cons m ms ih =>
    have lawful := lawful_turnOf site w m
    have rest := ih (w := (takeTurn site m w).2) (lawful.sound sound) (lawful.plan.trans plan)
    rw [history, List.forall_mem_cons, List.forall_mem_cons]
    constructor
    · rintro ⟨first, others⟩
      exact ⟨fun id k a => lawful.admits_of_typesFit sound plan first, (rest first).mp others⟩
    · rintro ⟨first, others⟩
      have fit' := lawful.typesFit sound plan fit first
      exact ⟨fit', (rest fit').mpr others⟩

/-- A base station that was just set up has channels of types that their timeslots can carry, and
in a run it goes on to have them exactly if RSL asks for activations of admitted kinds alone: an
activation succeeds if its number finds a channel and the radio takes it, whatever the kind is. -/
theorem channel_types_fit_iff (site : Site σ φ) (c : Config) (filter : Capture.Filter)
    (services : σ) (phy : φ) (ms : List Move) :
    c.TypesFit (.ofConfig c) ∧
    ((∀ t ∈ history site (.fresh c filter services phy) ms, c.TypesFit t.after) ↔
      ∀ t ∈ history site (.fresh c filter services phy) ms, t.AdmittedOnly site) ∧
    ∀ t ∈ history site (.fresh c filter services phy) ms,
      ∀ trx n tsc, t.move = .chanAct trx n tsc →
        (t.result = .ok () ↔
          (∃ id k a, t.AsksFor site id k a) ∧ TakenByRadio trx n t.events) := by
  refine ⟨c.typesFit_ofConfig,
    typesFit_history_iff (soundBts_ofConfig c) rfl c.typesFit_ofConfig, ?_⟩
  intro t ht trx n tsc move
  exact (lawful_of_mem_history ht).activation_succeeds_iff move

/-- A traffic channel number on a timeslot that is configured for it. -/
theorem traffic_activation_fits :
    ∀ t ∈ history scriptedSite (scriptedWorld .fresh) [.chanAct 0 0x09 none],
      scriptedConfig.TypesFit t.after := by
  refine (channel_types_fit_iff scriptedSite scriptedConfig .empty .fresh .accepting _).2.1.mpr ?_
  intro t ht id k a activates
  obtain rfl := List.mem_singleton.mp ht
  have admitted : ∀ id k a,
      FindsChannel scriptedSite (scriptedWorld .fresh).bts 0 0x09 none id k a →
        k.admits id.ss.toNat a.kind = true := by
    intro id k a finds
    have addr : ChanAddr.decode 0x09 = .ok ⟨.tchF, 1, none⟩ := rfl
    cases addr.symm.trans finds.addr
    have located : (scriptedWorld .fresh).bts.locate? 0 0x09 = some ⟨0, 1, 0⟩ := by decide +kernel
    cases located.symm.trans finds.located
    have config : scriptedConfig.pchan? 0 1 = some k.pchan := Bts.pchan?_of_slot? rfl finds.slot
    unfold Timeslot.admits
    rw [← Option.some.inj config, Bool.or_eq_true]
    exact .inr rfl
  obtain ⟨_, _, _, move, finds⟩ := activates
  cases move
  exact admitted id k a finds

/-- The cell with a timeslot for SDCCHs. -/
def signallingConfig : Config :=
  { scriptedConfig with
    carriers :=
      [⟨0, #v[.ccchSdcch4, .sdcch8, .tchF, .tchF, .tchF, .tchF, .tchF, .tchF]⟩] }

/-- Under the number of a broadcast channel one of the SDCCHs becomes a common control channel. -/
theorem broadcast_number_on_sdcch : signallingConfig.validate = .ok () ∧
    ∃ t ∈ history scriptedSite (.fresh signallingConfig .empty .fresh .accepting)
      [.chanAct 0 0x81 none],
      t.result = .ok () ∧ ¬ signallingConfig.TypesFit t.after := by
  refine ⟨rfl, _, List.mem_singleton_self _, rfl, fun fit => ?_⟩
  have type : ((turnOf scriptedSite (.fresh signallingConfig .empty .fresh .accepting)
      (.chanAct 0 0x81 none)).after.lchan? ⟨0, 1, 4⟩).map Lchan.type = some .ccch := by
    decide +kernel
  obtain ⟨l, known, common⟩ := Option.map_eq_some_iff.mp type
  obtain ⟨p, config, carried⟩ := fit _ l known
  cases (Option.some.inj config : Pchan.sdcch8 = p)
  rw [common] at carried
  cases carried

end Bridge
end BaseStation
