import BaseStation.Bridge.FrameTurn
import BaseStation.Proofs.Configured
import BaseStation.Proofs.Confirms
import BaseStation.Proofs.Isolation

/-!
The access point over the radio within the program. The radio confirms each request that it takes,
and the confirm is the one that completes it: a request that was accepted is complete once what
waits in the radio was sent up. A confirm gives rise to no further request, and what the radio asks
for in a frame is always answered.
-/

namespace BaseStation.Bridge

/-! ### Sending up what waits -/

section Feeding

variable {σ φ : Type} (site : Site σ φ)

/-- Sends up what waits in the radio, once. -/
def feed : Step σ φ (List Delivery) := do
  let ps ← takePending site
  deliverAll site ps

/-- The state after a request and what was sent up for it. -/
def fed (i : Input) (w : World σ φ) : World σ φ := (feed site (step site i w).2).2

/-- What can become of a base station: moves are made, what waits in the radio is taken from it, and
capture is turned on and off. -/
inductive Reachable (w₀ : World σ φ) : World σ φ → Prop
  | start : Reachable w₀ w₀
  | moved {w : World σ φ} (m : Move) (before : Reachable w₀ w) :
    Reachable w₀ (takeTurn site m w).2
  | taken {w : World σ φ} (before : Reachable w₀ w) : Reachable w₀ (takePending site w).2
  | tapped {w : World σ φ} (tap : Tap) (before : Reachable w₀ w) :
    Reachable w₀ { w with tap := tap }

variable {site} {w : World σ φ} {trx : UInt8} {p : Prim} {rest : List (UInt8 × Prim)}

theorem deliverAll_nil : deliverAll site [] w = ([], w) := rfl

theorem deliverAll_cons : deliverAll site ((trx, p) :: rest) w =
    (⟨trx, p, (step site (.up trx p) w).1⟩ ::
        (deliverAll site rest (step site (.up trx p) w).2).1,
      (deliverAll site rest (step site (.up trx p) w).2).2) := rfl

theorem feed_eq : feed site w = deliverAll site (takePending site w).1 (takePending site w).2 :=
  rfl

theorem drain_succ {m : Nat} : drain site (m + 1) w =
    if (takePending site w).1.isEmpty then ([], (takePending site w).2)
    else
      ((feed site w).1 ++ (drain site m (feed site w).2).1, (drain site m (feed site w).2).2) := by
  have batch : drain site (m + 1) w = (if (takePending site w).1.isEmpty then pure [] else do
      let ds ← deliverAll site (takePending site w).1
      let es ← drain site m
      pure (ds ++ es) : Step σ φ (List Delivery)) (takePending site w).2 := rfl
  rw [batch]
  split <;> rfl

end Feeding

/-! ### The radio within the program -/

variable {σ : Type} {site : Site σ Phy} {c : Config} {w : World σ Phy} {v : VirtualPhy}
  {trx n : UInt8} {i : Input}

/-- The base station of a configuration over the radio within the program: the two have the same
carriers, and only confirms wait. -/
structure Virtual (c : Config) (v : VirtualPhy) (w : World σ Phy) : Prop where
  phy : w.phy = .virtual v
  slots : v.slots = c.carriers.map (·.slots)
  waiting : ∀ q ∈ v.pending, q.2.IsConfirm
  plan : w.bts.plan = (Bts.ofConfig c).plan

/-- The radio has as many carriers as the base station. -/
theorem Virtual.carrier? (h : Virtual c v w) (range : trx.toNat < v.slots.length) :
    ∃ k, w.bts.carrier? trx = some k := by
  have carriers := congrArg List.length h.plan
  have number : (Bts.ofConfig c).carriers.length = c.carriers.length := List.length_mapIdx
  unfold Bts.plan at carriers
  rw [List.length_map, List.length_map, number] at carriers
  rw [h.slots, List.length_map, ← carriers] at range
  exact ⟨_, List.getElem?_eq_getElem range⟩

theorem virtual_taken (radio : site.phy = Phy.link) (h : Virtual c v w) :
    takePending site w = (v.pending, { w with phy := .virtual { v with pending := [] } }) := by
  unfold takePending
  rw [radio, h.phy]
  rfl

theorem Virtual.taken (h : Virtual c v w) :
    Virtual c { v with pending := [] } { w with phy := .virtual { v with pending := [] } } :=
  ⟨rfl, h.slots, by simp, h.plan⟩

section Radio

variable (radio : site.phy = Phy.link)
include radio

theorem Virtual.step (h : Virtual c v w) (i : Input) :
    ∃ es v', (Bridge.step site i w).2.trace = w.trace ++ es ∧
      StepOutcome site w.bts i (Bridge.step site i w).1 (Bridge.step site i w).2.bts es ∧
      v.Serves es v' ∧ Virtual c v' (Bridge.step site i w).2 := by
  obtain ⟨es, v', ht, outcome, phy, serves⟩ := step_served radio h.phy i
  refine ⟨es, v', ht, outcome, serves, phy, serves.slots.trans h.slots, fun q hq => ?_,
    outcome.change.plan.trans h.plan⟩
  rw [serves.pending, List.mem_append] at hq
  exact hq.elim (h.waiting q) isConfirm_of_mem_confirms

/-- In every reachable state only confirms wait. -/
theorem virtual_of_reachable {filter : Capture.Filter} {services : σ}
    (virtual : c.backend = .virtual) {phy : Phy} (below : Phy.ofConfig c = .ok phy)
    (reachable : Reachable site (.fresh c filter services phy) w) : ∃ v, Virtual c v w := by
  induction reachable with
  | start =>
    unfold Phy.ofConfig at below
    rw [virtual, Except.ok.injEq] at below
    exact ⟨.ofConfig c, below.symm, rfl, by simp [VirtualPhy.ofConfig], rfl⟩
  | @moved w m _ ih =>
    obtain ⟨v, h⟩ := ih
    have plan : (takeTurn site m w).2.bts.plan = (Bts.ofConfig c).plan :=
      (lawful_turnOf site w m).plan.trans h.plan
    cases m with
    | input i o =>
      obtain ⟨-, v', -, -, -, h'⟩ := h.step radio i
      exact ⟨v', h'⟩
    | write id x => exact ⟨v, h.phy, h.slots, h.waiting, plan⟩
  | taken _ ih =>
    obtain ⟨v, h⟩ := ih
    rw [virtual_taken radio h]
    exact ⟨_, h.taken⟩
  | tapped tap _ ih =>
    obtain ⟨v, h⟩ := ih
    exact ⟨v, h.phy, h.slots, h.waiting, h.plan⟩

theorem Virtual.deliverAll (h : Virtual c v w) (ps : List (UInt8 × Prim)) :
    ∃ v', Virtual c v' (Bridge.deliverAll site ps w).2 := by
  induction ps generalizing w v with
  | nil => exact ⟨v, h⟩
  | cons q rest ih =>
    obtain ⟨-, v', -, -, -, h'⟩ := h.step radio (.up q.1 q.2)
    exact ih h'

/-- Confirms that are sent up leave what waits as it is. -/
theorem Virtual.deliverAll_confirms (h : Virtual c v w) {ps : List (UInt8 × Prim)}
    (confirm : ∀ q ∈ ps, q.2.IsConfirm) :
    ∃ v', v'.pending = v.pending ∧ Virtual c v' (Bridge.deliverAll site ps w).2 := by
  induction ps generalizing w v with
  | nil => exact ⟨v, rfl, h⟩
  | cons q rest ih =>
    obtain ⟨es, v₁, -, outcome, serves, h₁⟩ := h.step radio (.up q.1 q.2)
    have none := outcome.confirms_of_isConfirm (confirm q List.mem_cons_self)
    obtain ⟨v', same, h'⟩ := ih h₁ fun q' hq' => confirm q' (List.mem_cons_of_mem _ hq')
    refine ⟨v', ?_, h'⟩
    rw [same, serves.pending, none, List.append_nil]

/-- Once what waits was sent up, nothing waits. -/
theorem Virtual.feed (h : Virtual c v w) :
    ∃ v', v'.pending = [] ∧ Virtual c v' (Bridge.feed site w).2 := by
  rw [feed_eq, virtual_taken radio h]
  exact h.taken.deliverAll_confirms radio h.waiting

theorem Virtual.drain_idle (h : Virtual c v w) (idle : v.pending = []) (m : Nat) :
    drain site m w = ([], w) := by
  cases m with
  | zero => rfl
  | succ m =>
    have kept : ({ v with pending := [] } : VirtualPhy) = v := by rw [← idle]
    rw [drain_succ, virtual_taken radio h, idle, kept, ← h.phy]
    rfl

/-- However often the radio is asked for what waits, one batch is all there is. -/
theorem Virtual.drain_succ (h : Virtual c v w) (m : Nat) :
    drain site (m + 1) w = Bridge.feed site w := by
  obtain ⟨v', idle, h'⟩ := h.feed radio
  rw [Bridge.drain_succ]
  split
  · rename_i empty
    rw [feed_eq, List.isEmpty_iff.mp empty]
    rfl
  · rw [h'.drain_idle radio idle, List.append_nil]
    rfl

/-! ### Requests -/

/-- A request for which one confirm waits is followed by the confirm, and by nothing else. -/
theorem Virtual.fed_of_single {es : List Event} {v₁ : VirtualPhy} {p : Prim} (idle : v.pending = [])
    (ht : (Bridge.step site i w).2.trace = w.trace ++ es)
    (serves : v.Serves es v₁) (h₁ : Virtual c v₁ (Bridge.step site i w).2)
    (confirm : confirms es = [(trx, p)]) :
    ∃ r fs, StepOutcome site (Bridge.step site i w).2.bts (.up trx p) r (fed site i w).bts fs ∧
      (fed site i w).trace = w.trace ++ (es ++ fs) ∧
      ∀ u m a, .disconnect u m a ∈ fs → a = .ok () := by
  have waiting : v₁.pending = [(trx, p)] := by
    rw [serves.pending, idle, List.nil_append, confirm]
  unfold fed
  rw [feed_eq, virtual_taken radio h₁, waiting, deliverAll_cons, deliverAll_nil]
  obtain ⟨fs, v₂, hs, outcome, serves', -⟩ := h₁.taken.step radio (.up trx p)
  refine ⟨_, fs, outcome, ?_, serves'.disconnect⟩
  rw [hs]
  change (Bridge.step site i w).2.trace ++ fs = _
  rw [ht, List.append_assoc]

theorem Virtual.activation {tsc : Option UInt8} (h : Virtual c v w) (idle : v.pending = [])
    (ok : (Bridge.step site (.chanAct trx n tsc) w).1 = .ok ()) :
    ∃ id l es, w.bts.locate? trx n = some id ∧
      (fed site (.chanAct trx n tsc) w).bts.lchan? id = some l ∧ l.state = .active ∧
      (fed site (.chanAct trx n tsc) w).trace = w.trace ++ es ∧ activationsDone es = [(id, 0)] ∧
      orders es = [.prim trx (.mphInfoReq (.activateReq (actRequest n false)))] := by
  obtain ⟨es, v₁, ht, outcome, serves, h₁⟩ := h.step radio (.chanAct trx n tsc)
  rw [ok] at outcome
  cases outcome with
  | chanAct outcome =>
    obtain ⟨id, l, l', found, found', confirm, order, quiet, -⟩ := outcome.asks
    obtain ⟨r, fs, answered, hs, -⟩ := h₁.fed_of_single radio idle ht serves confirm
    obtain ⟨known, told⟩ := answered.activateCnfOutcome.activates found'
    refine ⟨id, _, es ++ fs, (Bts.find?_eq_some.mp found).1, known, rfl, hs, ?_, ?_⟩
    · exact (filterMap_after quiet).trans told
    · rw [orders_append, order, answered.orders_of_activateCnf, List.append_nil]

theorem Virtual.release (h : Virtual c v w) (idle : v.pending = [])
    (ok : (Bridge.step site (.chanRel trx n) w).1 = .ok ()) :
    ∃ id l es, w.bts.locate? trx n = some id ∧
      (fed site (.chanRel trx n) w).bts.lchan? id = some l ∧ l.state = .none ∧
      (fed site (.chanRel trx n) w).trace = w.trace ++ es ∧ releasesDone es = [id] := by
  obtain ⟨es, v₁, ht, outcome, serves, h₁⟩ := h.step radio (.chanRel trx n)
  cases outcome with
  | chanRel outcome =>
    obtain ⟨id, l, l', found, releasing, found', confirm, quiet, -⟩ := outcome.asks ok
    obtain ⟨r, fs, answered, hs, -⟩ := h₁.fed_of_single radio idle ht serves confirm
    obtain ⟨known, told⟩ := answered.deactivateCnfOutcome.releases found' releasing
    refine ⟨id, _, es ++ fs, (Bts.find?_eq_some.mp found).1, known, rfl, hs, ?_⟩
    exact (filterMap_after quiet).trans told

theorem Virtual.sacchStop {id : LchanId} {l : Lchan} (h : Virtual c v w) (idle : v.pending = [])
    (active : w.bts.findActive? trx n = some (id, l))
    (ok : (Bridge.step site (.chanDeactSacch trx n) w).1 = .ok ()) :
    (fed site (.chanDeactSacch trx n) w).bts.findActive? trx n =
      some (id, { l with sacchDeact := true }) := by
  obtain ⟨es, v₁, ht, outcome, serves, h₁⟩ := h.step radio (.chanDeactSacch trx n)
  cases outcome with
  | chanDeactSacch outcome =>
    obtain ⟨id', l', found, found', confirm⟩ := outcome.asks ok
    rw [Bts.findActive?_eq_some, found, Option.some.injEq, Prod.mk.injEq] at active
    obtain ⟨⟨rfl, rfl⟩, up⟩ := active
    have kept : l'.state ≠ .relRequested := by
      intro releasing
      unfold Lchan.isActive at up
      rw [releasing] at up
      cases up
    obtain ⟨r, fs, answered, -⟩ := h₁.fed_of_single radio idle ht serves confirm
    rw [answered.deactivateCnfOutcome.keeps found' rfl kept]
    rw [Bts.find?_eq_some, locate?_actRequest, ← Bts.find?_eq_some] at found'
    exact Bts.findActive?_eq_some.mpr ⟨found', up⟩

theorem Virtual.switch {tn : UInt8} {toPdch : Bool} (h : Virtual c v w) (idle : v.pending = [])
    (ok : (Bridge.step site (.pdchSwitch trx tn toPdch) w).1 = .ok ()) :
    ∃ k es, (fed site (.pdchSwitch trx tn toPdch) w).bts.slot? trx tn = some k ∧
      k.isPdch = toPdch ∧ (fed site (.pdchSwitch trx tn toPdch) w).trace = w.trace ++ es ∧
      switchesDone es = [(trx, tn, true)] := by
  obtain ⟨es, v₁, ht, outcome, serves, h₁⟩ := h.step radio (.pdchSwitch trx tn toPdch)
  rw [ok] at outcome
  cases outcome with
  | pdchSwitch outcome =>
    obtain ⟨k, slot, idleSlot, -, standing⟩ := outcome.accepted
    have standing := standing trx tn
    rw [if_pos ⟨rfl, rfl⟩] at standing
    have number : chanTn (actRequest (ChanKind.base .tchF ||| tn) false).chanNr = tn := by
      rw [chanTn_actRequest, chanTn_fullRate (tn_lt_of_slot? slot)]
    have settled : k.flags.actPending = false ∧ k.flags.deactPending = false := by
      simpa [SlotFlags.pending] using idleSlot
    cases outcome with
    | begun slot' begun inner =>
      obtain ⟨⟨pchan, -⟩, rfl⟩ := beginPdchAct?_eq_some.mp begun
      rw [slot, Option.some.injEq] at slot'
      subst slot'
      obtain ⟨id, l, l', -, found, confirm, -, -, quiet⟩ := inner.asks
      obtain ⟨r, fs, answered, hs, -⟩ := h₁.fed_of_single radio idle ht serves confirm
      rw [pchan, if_pos rfl] at standing
      obtain ⟨after, told⟩ := answered.activateCnfOutcome.enters found number standing rfl
      obtain ⟨k', there, pchan', flags⟩ := slot?_of_standing after
      refine ⟨k', es ++ fs, there, ?_, hs, ?_⟩
      · simp [Timeslot.isPdch, pchan', flags, settled.2]
      · exact (filterMap_after quiet).trans told
    | endBegun slot' begun inner =>
      obtain ⟨⟨pchan, -, -⟩, rfl⟩ := beginPdchDeact?_eq_some.mp begun
      rw [slot, Option.some.injEq] at slot'
      subst slot'
      obtain ⟨id, l, l', -, releasing, found, confirm, -, quiet⟩ := inner.asks rfl
      obtain ⟨r, fs, answered, hs, tornDown⟩ := h₁.fed_of_single radio idle ht serves confirm
      rw [pchan, if_neg Bool.false_ne_true] at standing
      obtain ⟨after, told⟩ :=
        answered.deactivateCnfOutcome.leaves found releasing number standing rfl tornDown
      obtain ⟨k', there, pchan', flags⟩ := slot?_of_standing after
      refine ⟨k', es ++ fs, there, ?_, hs, ?_⟩
      · simp [Timeslot.isPdch, pchan', flags]
      · exact (filterMap_after quiet).trans told

/-! ### Opportunities -/

/-- What the radio asks for a channel of one of its carriers is answered. -/
theorem Virtual.asked {fn : UInt32} {p : Prim} (h : Virtual c v w)
    (range : trx.toNat < v.slots.length) (place : (place? n).isSome)
    (asks : VirtualPhy.Asks fn n p) : (Bridge.step site (.up trx p) w).1 = .ok () := by
  obtain ⟨es, v₁, -, outcome, serves, -⟩ := h.step radio (.up trx p)
  obtain ⟨k, carrier⟩ := h.carrier? range
  -- the radio takes a block or a voice frame
  have taken {q : Prim} {a : Except PhyError Unit} (mem : .down trx q a ∈ es)
      (block : (∃ d, q = .phDataReq d) ∨ ∃ t, q = .tchReq t) : downResult a = .ok () := by
    rw [serves.down trx q a mem, VirtualPhy.answer_block range block]
    rfl
  generalize (Bridge.step site (.up trx p) w).1 = r at outcome ⊢
  generalize (Bridge.step site (.up trx p) w).2.bts = b at outcome
  cases asks with
  | block link =>
    cases outcome.rtsOutcome with
    | undecodable bad =>
      unfold place? at place
      rw [bad] at place
      cases place
    | unknownTrx _ unknown =>
      rw [unknown] at carrier
      cases carrier
    | looped => exact taken List.mem_cons_self (.inl ⟨_, rfl⟩)
    | packet => rfl
    | circuit =>
      exact taken (List.mem_append_right _ (List.mem_append_right _ List.mem_cons_self))
        (.inl ⟨_, rfl⟩)
  | voice =>
    have voice (f : Option VoiceFrame) : ∃ t, voiceRequest ⟨n, fn⟩ f = .tchReq t := by
      obtain ⟨t, request, -⟩ := voiceRequest_eq ⟨n, fn⟩ f
      exact ⟨t, request⟩
    cases outcome.tchRtsOutcome with
    | unknownTrx unknown =>
      rw [unknown] at carrier
      cases carrier
    | inactive => exact taken List.mem_cons_self (.inr (voice _))
    | active => exact taken (List.mem_append_right _ List.mem_cons_self) (.inr (voice _))

/-- Everything that the radio sends up by its own clock is handled. -/
theorem Virtual.indications_handled (h : Virtual c v w) (fn : UInt32) :
    ∀ d ∈ (Bridge.deliverAll site (site.phy.indications fn w.phy) w).1, d.result = .ok () := by
  have own : site.phy.indications fn w.phy = v.frameIndications fn := by
    rw [radio, h.phy]
    rfl
  rw [own]
  have handled : ∀ q ∈ v.frameIndications fn, ∀ (w : World σ Phy) (u : VirtualPhy),
      Virtual c u w → (Bridge.step site (.up q.1 q.2) w).1 = .ok () := by
    intro q hq w u h'
    obtain rfl | ⟨range, slots, -, inside⟩ := VirtualPhy.mem_frameIndications hq
    · rfl
    · obtain ⟨-, tn, p, slot, kind, ss, polled, asks⟩ := VirtualPhy.mem_carrierSchedule inside
      obtain ⟨i, place, -⟩ := p.place?_polled polled (Vector.getElem?_eq_some_iff.mp slot).1
      rw [h.slots, ← h'.slots] at range
      exact h'.asked radio range (by rw [place]; rfl) asks
  generalize v.frameIndications fn = qs at handled
  induction qs generalizing w v with
  | nil => simp [deliverAll_nil]
  | cons q rest ih =>
    obtain ⟨-, v', -, -, -, h'⟩ := h.step radio (.up q.1 q.2)
    have here := handled q List.mem_cons_self w v h
    have later := ih h' (by rw [radio, h'.phy]; rfl) fun q' hq' =>
      handled q' (List.mem_cons_of_mem _ hq')
    intro d hd
    rw [deliverAll_cons] at hd
    rcases List.mem_cons.mp hd with rfl | hd
    · exact here
    · exact later d hd

end Radio

theorem chanNr?_of_asks {fn : UInt32} {p : Prim} (asks : VirtualPhy.Asks fn n p) :
    p.chanNr? = some n := by
  cases asks <;> rfl

/-- The channels of a timeslot are those that its configuration has. -/
theorem slot?_ofConfig {k : CarrierConfig} {p : Pchan} {tn : UInt8}
    (carrier : c.carriers[trx.toNat]? = some k) (slot : k.slots[tn.toNat]? = some p) :
    ∃ t, (Bts.ofConfig c).slot? trx tn = some t ∧ t.lchans.length = p.layout.length := by
  refine ⟨.fresh trx tn p, ?_, List.length_mapIdx⟩
  rw [Bts.slot?_ofConfig_eq, Config.pchan?, carrier, Option.bind_some, slot, Option.map_some]

/-- A base station has the channels that the radio asks about, on each timeslot it was set up
with. -/
theorem isSome_locate?_polled {b : Bts} {p : Pchan} {kind : ChanKind} {ss tn : UInt8}
    (plan : b.plan = (Bts.ofConfig c).plan) (slot : c.pchan? trx tn = some p)
    (polled : (kind, ss) ∈ p.polled) :
    (b.locate? trx (VirtualPhy.number kind ss tn)).isSome := by
  obtain ⟨k, carrier, slot⟩ := Option.bind_eq_some_iff.mp slot
  obtain ⟨i, place, range⟩ := p.place?_polled polled (Vector.getElem?_eq_some_iff.mp slot).1
  have small : i.toUInt8.toNat = i := by
    have few : p.layout.length ≤ 8 := by cases p <;> decide
    rw [Nat.toUInt8_eq, UInt8.toNat_ofNat']
    omega
  have known : ((Bts.ofConfig c).lchan? ⟨trx, tn, i.toUInt8⟩).isSome := by
    obtain ⟨t, there, channels⟩ := slot?_ofConfig carrier slot
    unfold Bts.lchan?
    rw [there, Option.bind_some, small]
    simpa [channels] using range
  -- the plan has the channel in every reachable state
  rw [← Bts.isSome_lchan?_of_plan plan] at known
  rw [locate?_eq_place?, place, Option.bind_some, if_pos known]
  rfl

/-- What the radio asks for a carrier names channels that the base station has. -/
theorem Virtual.located (h : Virtual c v w) {k : CarrierConfig} {fn : UInt32} {q : UInt8 × Prim}
    (carrier : c.carriers[trx.toNat]? = some k)
    (inside : q ∈ VirtualPhy.carrierSchedule trx k.slots fn) :
    ∃ n, q.2.chanNr? = some n ∧ (w.bts.locate? trx n).isSome := by
  obtain ⟨-, tn, p, slot, kind, ss, polled, asks⟩ := VirtualPhy.mem_carrierSchedule inside
  have config : c.pchan? trx tn = some p := by
    unfold Config.pchan?
    rw [carrier, Option.bind_some, slot]
  exact ⟨VirtualPhy.number kind ss tn, chanNr?_of_asks asks,
    isSome_locate?_polled h.plan config polled⟩

/-! ### Completion -/

/-- The number under which the radio is asked for a channel: an Osmocom packet data number goes
down as that of a full rate traffic channel. -/
def radioNumber (n : UInt8) : UInt8 := if n &&& 0xf8 = 0xc0 then 0x08 ||| (n &&& 0x07) else n

/-- What the requests of RSL come to that are accepted while nothing waits in the radio, once what
waits then was sent up. -/
structure Completes (site : Site σ Phy) (w : World σ Phy) : Prop where
  activation : ∀ trx n tsc, (step site (.chanAct trx n tsc) w).1 = .ok () →
    ∃ id l es, w.bts.locate? trx n = some id ∧
      (fed site (.chanAct trx n tsc) w).bts.lchan? id = some l ∧ l.state = .active ∧
      (fed site (.chanAct trx n tsc) w).trace = w.trace ++ es ∧ activationsDone es = [(id, 0)] ∧
      orders es = [.prim trx (.mphInfoReq (.activateReq ⟨radioNumber n, false⟩))]
  release : ∀ trx n, (step site (.chanRel trx n) w).1 = .ok () →
    ∃ id l es, w.bts.locate? trx n = some id ∧
      (fed site (.chanRel trx n) w).bts.lchan? id = some l ∧ l.state = .none ∧
      (fed site (.chanRel trx n) w).trace = w.trace ++ es ∧ releasesDone es = [id]
  /-- A channel whose SACCH is stopped goes on. -/
  sacchStop : ∀ trx n id l, w.bts.findActive? trx n = some (id, l) →
    (step site (.chanDeactSacch trx n) w).1 = .ok () →
    (fed site (.chanDeactSacch trx n) w).bts.findActive? trx n =
      some (id, { l with sacchDeact := true })
  switch : ∀ trx tn toPdch, (step site (.pdchSwitch trx tn toPdch) w).1 = .ok () →
    ∃ k es, (fed site (.pdchSwitch trx tn toPdch) w).bts.slot? trx tn = some k ∧
      k.isPdch = toPdch ∧ (fed site (.pdchSwitch trx tn toPdch) w).trace = w.trace ++ es ∧
      switchesDone es = [(trx, tn, true)]

/-- What becomes of that which waits in the radio. -/
structure Drains (site : Site σ Phy) (w : World σ Phy) : Prop where
  /-- However many batches there may be, there is one. -/
  once : ∀ m, drain site (m + 1) w = feed site w
  idle : (takePending site (feed site w).2).1 = []
  /-- A turn of the frame clock sends up what the frame brings, and then one batch. -/
  turn : ∀ fn, ∃ x, deliverAll site (site.phy.indications fn w.phy) w = x ∧
    frameTurn site fn w = (x.1 ++ (feed site x.2).1, (feed site x.2).2) ∧
    (takePending site (feed site x.2).2).1 = []

/-- What becomes of that which the radio sends up by its own clock. -/
structure KeepsUp (site : Site σ Phy) (c : Config) (w : World σ Phy) : Prop where
  handled : ∀ fn, ∀ d ∈ (deliverAll site (site.phy.indications fn w.phy) w).1, d.result = .ok ()
  /-- The radio asks for channels that the base station has. -/
  located : ∀ fn trx k, c.carriers[trx.toNat]? = some k →
    ∀ q ∈ VirtualPhy.carrierSchedule trx k.slots fn,
      ∃ n, q.2.chanNr? = some n ∧ (w.bts.locate? trx n).isSome

theorem Virtual.drains (radio : site.phy = Phy.link) (h : Virtual c v w) : Drains site w := by
  have idle {w : World σ Phy} {v : VirtualPhy} (h : Virtual c v w) :
      (takePending site (Bridge.feed site w).2).1 = [] := by
    obtain ⟨v', none, h'⟩ := h.feed radio
    rw [virtual_taken radio h', none]
  refine ⟨h.drain_succ radio, idle h, fun fn => ⟨_, rfl, ?_, ?_⟩⟩
  · obtain ⟨v', h'⟩ := h.deliverAll radio (site.phy.indications fn w.phy)
    rw [← h'.drain_succ radio 1]
    rfl
  · obtain ⟨v', h'⟩ := h.deliverAll radio (site.phy.indications fn w.phy)
    exact idle h'

/-- **Completion over the radio within the program**: in every reachable state, a request of RSL
that is accepted while nothing waits is completed, and acknowledged once, by what is sent up for
it; a confirm gives rise to no other one, so that one batch of a turn is all there is; and what the
radio sends up by its own clock is handled, and names channels that there are. -/
theorem virtual_radio_completes (site : Site σ Phy) (radio : site.phy = Phy.link) (c : Config)
    (virtual : c.backend = .virtual) (filter : Capture.Filter) (services : σ) {phy : Phy}
    (below : Phy.ofConfig c = .ok phy) {w : World σ Phy}
    (reachable : Reachable site (.fresh c filter services phy) w) :
    ((takePending site w).1 = [] → Completes site w) ∧ Drains site w ∧ KeepsUp site c w := by
  obtain ⟨v, h⟩ := virtual_of_reachable radio virtual below reachable
  refine ⟨fun idle => ?_, h.drains radio, h.indications_handled radio, fun fn trx k known q hq =>
    h.located known hq⟩
  rw [virtual_taken radio h] at idle
  exact ⟨fun _ _ _ => h.activation radio idle, fun _ _ => h.release radio idle,
    fun _ _ _ _ => h.sacchStop radio idle, fun _ _ _ => h.switch radio idle⟩

/-- The cell with a timeslot that switches, over the radio within the program. -/
def virtualConfig : Config := { switchableConfig with backend := .virtual }

example : virtualConfig.validate = .ok () := rfl

def virtualSite : Site ScriptedServices Phy :=
  ⟨.ofConfig virtualConfig, ScriptedServices.services, Phy.link⟩

/-- The timeslot was switched into packet mode, and the confirm sent up. -/
def packetWorld : World ScriptedServices Phy :=
  (takeTurn virtualSite (.up 0 (.mphInfoCnf (.activateCnf ⟨0x09, 0⟩)))
    (takePending virtualSite (takeTurn virtualSite (.pdchSwitch 0 1 true)
      (.fresh virtualConfig .empty .fresh (.virtual (.ofConfig virtualConfig)))).2).2).2

/-- The channel is then activated under its packet data number, and the radio asked for it under
that of the traffic channel. -/
theorem packet_number_completed :
    (step virtualSite (.chanAct 0 0xc1 none) packetWorld).1 = .ok () ∧
      ∃ id l es, packetWorld.bts.locate? 0 0xc1 = some id ∧
        (fed virtualSite (.chanAct 0 0xc1 none) packetWorld).bts.lchan? id = some l ∧
        l.state = .active ∧
        (fed virtualSite (.chanAct 0 0xc1 none) packetWorld).trace = packetWorld.trace ++ es ∧
        activationsDone es = [(id, 0)] ∧
        orders es = [.prim 0 (.mphInfoReq (.activateReq ⟨0x09, false⟩))] := by
  have reachable : Reachable virtualSite
      (.fresh virtualConfig .empty .fresh (.virtual (.ofConfig virtualConfig))) packetWorld :=
    .moved _ (.taken (.moved _ .start))
  have accepted : (step virtualSite (.chanAct 0 0xc1 none) packetWorld).1 = .ok () := by
    decide +kernel
  have idle : (takePending virtualSite packetWorld).1 = [] := by decide +kernel
  obtain ⟨completes, -, -⟩ :=
    virtual_radio_completes virtualSite rfl virtualConfig rfl .empty .fresh rfl reachable
  exact ⟨accepted, (completes idle).activation 0 0xc1 none accepted⟩

end BaseStation.Bridge
