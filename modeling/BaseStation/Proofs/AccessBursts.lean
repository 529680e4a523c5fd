import BaseStation.Proofs.Bridge.Allotted
import BaseStation.Proofs.Bridge.Causes
import BaseStation.Proofs.Rejection
import BaseStation.Proofs.Validity
import Mathlib.Algebra.BigOperators.Group.List.Basic

/-!
Access bursts: to whom each of them goes, and what the counters of the random access channel make
of them. A burst that is not late goes to one party at most, chosen by its channel number, its
carrier and its code; the counters agree with what was given away and with what came in.
-/

namespace BaseStation

/-! ### Codes and delays -/

/-- The code of a burst asks for packet access: it has eleven bits, or it is `0111xxxx` apart from
`01111111`. -/
def PhRach.AsksPackets (p : PhRach) : Prop := p.elevenBit = true ∨ 0x70 ≤ p.ra ∧ p.ra ≤ 0x7e

instance (p : PhRach) : Decidable p.AsksPackets := by
  unfold PhRach.AsksPackets
  infer_instance

theorem isPacketCode8_iff {ra : UInt8} :
    isPacketCode8 ra = true ↔ 0x70 ≤ ra.toNat ∧ ra.toNat ≤ 0x7e := by
  have every : ∀ i : Fin 256, isPacketCode8 (.ofFin i) = true ↔ 0x70 ≤ i.val ∧ i.val ≤ 0x7e := by
    decide +kernel
  exact every ra.toFin

theorem PhRach.accessClass_eq_packet {p : PhRach} :
    accessClass p.ra p.elevenBit = .packet ↔ p.AsksPackets := by
  have short : p.ra ≤ 0xff ∧ isPacketCode8 p.ra.toUInt8 = true ↔ 0x70 ≤ p.ra ∧ p.ra ≤ 0x7e := by
    rw [isPacketCode8_iff]
    simp only [UInt16.le_iff_toNat_le, UInt16.toNat_toUInt8, UInt16.reduceToNat]
    omega
  unfold accessClass AsksPackets
  rw [← short]
  cases p.elevenBit <;> simp

/-- The route of a burst that is not late. -/
theorem PhRach.route_eq {p : PhRach} {trx maxTa : UInt8} (inTime : p.delay ≤ maxTa) :
    p.route trx maxTa = if isRachNumber p.chanNr = true then
      if trx = 0 ∧ p.AsksPackets then .pcu else .linkLayer
    else .handover := by
  unfold route
  rw [if_neg (UInt8.not_lt.mpr inTime)]
  cases isRachNumber p.chanNr with
  | false => rfl
  | true => simp [accessClass_eq_packet]

/-- The record of a channel with the delay of an access burst as its offset. -/
def Lchan.withAccessOffset (l : Lchan) (delay : UInt8) : Lchan :=
  { l with meas := { l.meas with
      accessOffset := some (delay + Measurements.offsetBias.toNat.toUInt8)
      msTimingOffset := none } }

/-- A delay that a valid cell takes has room for its bias. -/
theorem toNat_biased {delay : UInt8} (small : delay ≤ maxTimingAdvance) :
    (delay + Measurements.offsetBias.toNat.toUInt8).toNat = delay.toNat + 63 := by
  have low : delay.toNat ≤ 63 := small
  have bias : Measurements.offsetBias.toNat.toUInt8.toNat = 63 := rfl
  rw [UInt8.toNat_add, bias]
  omega

namespace Bridge

variable {σ φ : Type} {site : Site σ φ} {w : World σ φ} {b b' : Bts} {trx : UInt8} {p : PhRach}
  {i : Input} {id : LchanId} {l : Lchan} {r : Except Failure Unit} {es : List Event} {m : Move}
  {t : Turn}

theorem delayStored_eq_withAccessOffset (small : p.delay ≤ maxTimingAdvance) :
    delayStored p l = l.withAccessOffset p.delay := by
  have every : ∀ i : Fin 256, i.val ≤ 63 → Measurements.biased? i.val =
      some (UInt8.ofFin i + Measurements.offsetBias.toNat.toUInt8) := by
    decide +kernel
  have stored : Measurements.biased? p.delay.toNat =
      some (p.delay + Measurements.offsetBias.toNat.toUInt8) := every p.delay.toFin small
  unfold delayStored Measurements.setAccessOffset
  rw [stored]
  rfl

/-! ### Delivery -/

/-- What an access burst comes to: its result, the data left and the events. The cases exclude one
another, and each names all that the parties hear. -/
structure Delivered (maxTa trx : UInt8) (p : PhRach) (b : Bts) (r : Except Failure Unit) (b' : Bts)
    (es : List Event) : Prop where
  late : maxTa < p.delay → r = .ok () ∧ es = []
  stray : p.delay ≤ maxTa → b.carrier? trx = none →
    r = .error (.refused (.noSuchTrx trx)) ∧ es = []
  /-- Handover is told of a burst on a dedicated channel, and says whether it takes it. -/
  handover : ∀ id l, p.delay ≤ maxTa → isRachNumber p.chanNr = false →
    b.find? trx p.chanNr = some (id, l) →
    ∃ taken, r = .ok () ∧ es = [.call (.handoverAccess id p.ra p.delay) taken] ∧
      b'.lchan? id = some { l.withAccessOffset p.delay with
        handover := if taken then .waitFrame else l.handover }
  nobody : p.delay ≤ maxTa → (b.carrier? trx).isSome = true → isRachNumber p.chanNr = false →
    b.find? trx p.chanNr = none → r = .error (.refused (.noLchan p.chanNr)) ∧ es = []
  /-- Packet control gets the delay in quarter bits. -/
  packets : p.delay ≤ maxTa → (b.carrier? trx).isSome = true → isRachNumber p.chanNr = true →
    trx = 0 ∧ p.AsksPackets → r = .ok () ∧ ∃ q : Int16, q.toInt = 4 * p.delay.toNat ∧
      es = [.call (.packetAccess ⟨q, p.ra, p.fn, p.elevenBit, p.burst⟩) ()]
  linkLayer : p.delay ≤ maxTa → (b.carrier? trx).isSome = true → isRachNumber p.chanNr = true →
    ¬ (trx = 0 ∧ p.AsksPackets) → r = .ok () ∧
      es = [.call (.accessUp (commonLchan trx)
        ⟨p.chanNr, p.ra, p.delay, p.fn, p.elevenBit, p.burst⟩) ()]
  /-- A random access number may also find a channel, which keeps the offset. -/
  kept : ∀ id l, p.delay ≤ maxTa → isRachNumber p.chanNr = true →
    b.find? trx p.chanNr = some (id, l) → b'.lchan? id = some (l.withAccessOffset p.delay)
  bias : p.delay ≤ maxTa →
    (p.delay + Measurements.offsetBias.toNat.toUInt8).toNat = p.delay.toNat + 63

/-- The channel that a burst finds keeps its delay. -/
theorem lchan?_delayKept_found (found : b.find? trx p.chanNr = some (id, l)) :
    (delayKept trx p (busyCounted p b)).lchan? id = some (delayStored p l) := by
  obtain ⟨located, known⟩ := Bts.find?_eq_some.mp found
  rw [lchan?_delayKept known, if_pos located]

theorem toInt_packetAccess_delay : p.packetAccess.delay.toInt = 4 * p.delay.toNat := by
  have every : ∀ i : Fin 256, (4 * i.val).toInt16.toInt = 4 * i.val := by decide +kernel
  exact every p.delay.toFin

section Outcomes

variable {c : Carrier} (h : RachOutcome site trx p b r b' es)
include h

theorem RachOutcome.of_handover (route : p.route trx site.settings.maxTa = .handover)
    (found : b.find? trx p.chanNr = some (id, l)) :
    ∃ taken, r = .ok () ∧ es = [.call (.handoverAccess id p.ra p.delay) taken] ∧
      b'.lchan? id = some { delayStored p l with
        handover := if taken then .waitFrame else l.handover } := by
  obtain ⟨located, known⟩ := Bts.find?_eq_some.mp found
  cases h with
  | late late => cases late.symm.trans route
  | unknownTrx _ unknown => exact absurd located (Bts.not_located_of_carrier unknown)
  | unknownLchan _ _ unknown => cases unknown.symm.trans found
  | handover _ _ here taken =>
    cases here.symm.trans found
    refine ⟨taken, rfl, rfl, ?_⟩
    rw [Bts.lchan?_setLchan_self (lchan?_busyCounted.trans known)]
    obtain ⟨m, stored⟩ := delayStored_eq p l
    rw [stored]
    cases taken <;> rfl
  | packet other => cases other.symm.trans route
  | request other => cases other.symm.trans route

theorem RachOutcome.of_nobody (route : p.route trx site.settings.maxTa = .handover)
    (carrier : b.carrier? trx = some c) (unknown : b.find? trx p.chanNr = none) :
    r = .error (.refused (.noLchan p.chanNr)) ∧ es = [] := by
  cases h with
  | late late => cases late.symm.trans route
  | unknownTrx _ unknown => cases unknown.symm.trans carrier
  | unknownLchan => exact ⟨rfl, rfl⟩
  | handover _ _ found => cases found.symm.trans unknown
  | packet other => cases other.symm.trans route
  | request other => cases other.symm.trans route

theorem RachOutcome.of_pcu (route : p.route trx site.settings.maxTa = .pcu)
    (carrier : b.carrier? trx = some c) :
    r = .ok () ∧ b' = accessCounted (delayKept trx p (busyCounted p b)) ∧
      es = [.call (.packetAccess p.packetAccess) ()] := by
  cases h with
  | late late => cases late.symm.trans route
  | unknownTrx _ unknown => cases unknown.symm.trans carrier
  | unknownLchan other => cases other.symm.trans route
  | handover other => cases other.symm.trans route
  | packet => exact ⟨rfl, rfl, rfl⟩
  | request other => cases other.symm.trans route

theorem RachOutcome.of_linkLayer (route : p.route trx site.settings.maxTa = .linkLayer)
    (carrier : b.carrier? trx = some c) :
    r = .ok () ∧ b' = accessCounted (delayKept trx p (busyCounted p b)) ∧
      es = [.call (.accessUp (commonLchan trx)
        ⟨p.chanNr, p.ra, p.delay, p.fn, p.elevenBit, p.burst⟩) ()] := by
  cases h with
  | late late => cases late.symm.trans route
  | unknownTrx _ unknown => cases unknown.symm.trans carrier
  | unknownLchan other => cases other.symm.trans route
  | handover other => cases other.symm.trans route
  | packet other => cases other.symm.trans route
  | request => exact ⟨rfl, rfl, rfl⟩

theorem RachOutcome.of_stray (route : p.route trx site.settings.maxTa ≠ .discard)
    (unknown : b.carrier? trx = none) :
    r = .error (.refused (.noSuchTrx trx)) ∧ es = [] := by
  cases h with
  | late late => exact absurd late route
  | unknownTrx => exact ⟨rfl, rfl⟩
  | unknownLchan _ carrier => cases carrier.symm.trans unknown
  | handover _ carrier => cases carrier.symm.trans unknown
  | packet _ carrier => cases carrier.symm.trans unknown
  | request _ carrier => cases carrier.symm.trans unknown

theorem RachOutcome.delivered (small : site.settings.maxTa ≤ maxTimingAdvance) :
    Delivered site.settings.maxTa trx p b r b' es := by
  -- the route within the time limit, and the offset that is stored then
  have route : p.delay ≤ site.settings.maxTa → p.route trx site.settings.maxTa =
      if isRachNumber p.chanNr = true then
        if trx = 0 ∧ p.AsksPackets then .pcu else .linkLayer
      else .handover := PhRach.route_eq
  have stored : p.delay ≤ site.settings.maxTa → ∀ l, delayStored p l = l.withAccessOffset p.delay :=
    fun inTime _ => delayStored_eq_withAccessOffset (UInt8.le_trans inTime small)
  refine ⟨fun late => ?_, fun inTime unknown => ?_, fun id l inTime dedicated found => ?_,
    fun inTime carrier dedicated unknown => ?_, fun inTime carrier common asks => ?_,
    fun inTime carrier common other => ?_, fun id l inTime common found => ?_,
    fun inTime => toNat_biased (UInt8.le_trans inTime small)⟩
  · obtain ⟨result, -, quiet⟩ := h.ignored late
    exact ⟨result, quiet⟩
  · refine h.of_stray ?_ unknown
    rw [route inTime]
    split
    · split <;> exact nofun
    · exact nofun
  · rw [dedicated, if_neg Bool.false_ne_true] at route
    have done := h.of_handover (route inTime) found
    rwa [stored inTime] at done
  · rw [dedicated, if_neg Bool.false_ne_true] at route
    obtain ⟨c, carrier⟩ := Option.isSome_iff_exists.mp carrier
    exact h.of_nobody (route inTime) carrier unknown
  · rw [if_pos common, if_pos asks] at route
    obtain ⟨c, carrier⟩ := Option.isSome_iff_exists.mp carrier
    obtain ⟨result, -, told⟩ := h.of_pcu (route inTime) carrier
    exact ⟨result, _, toInt_packetAccess_delay, told⟩
  · rw [if_pos common, if_neg other] at route
    obtain ⟨c, carrier⟩ := Option.isSome_iff_exists.mp carrier
    obtain ⟨result, -, told⟩ := h.of_linkLayer (route inTime) carrier
    exact ⟨result, told⟩
  · obtain ⟨c, carrier⟩ := Bts.carrier?_of_locate? (Bts.find?_eq_some.mp found).1
    -- both routes to the parties count and store alike
    have kept : b' = accessCounted (delayKept trx p (busyCounted p b)) := by
      rw [if_pos common] at route
      by_cases asks : trx = 0 ∧ p.AsksPackets
      · rw [if_pos asks] at route
        exact (h.of_pcu (route inTime) carrier).2.1
      · rw [if_neg asks] at route
        exact (h.of_linkLayer (route inTime) carrier).2.1
    rw [kept, ← stored inTime]
    exact lchan?_delayKept_found found

end Outcomes

/-! ### Counters -/

def Event.accessGiven? : Event → Option Call
  | .call (.packetAccess a) _ => some (.packetAccess a)
  | .call (.accessUp id q) _ => some (.accessUp id q)
  | _ => none

/-- The access bursts given to packet control and to the link layer. -/
def accessesGiven (es : List Event) : List Call := es.filterMap Event.accessGiven?

/-- The move brings a burst with a random access number whose level is -90 dBm or more. -/
def Move.isBusyBurst : Move → Bool
  | .input (.up _ (.phRachInd p)) _ => isRachNumber p.chanNr && decide (-90 ≤ p.rssi.toInt)
  | _ => false

/-- What a turn adds to the counters that access bursts move. -/
structure BurstsCounted (m : Move) (b b' : Bts) (es : List Event) : Prop where
  access : b'.rach.access = b.rach.access + (accessesGiven es).length
  busy : b'.rach.busy = b.rach.busy + if m.isBusyBurst then 1 else 0

theorem rach_delayKept : (delayKept trx p b).rach = b.rach := by
  unfold delayKept
  split <;> rfl

theorem rach_busyCounted : (busyCounted p b).rach = { b.rach with
    busy := b.rach.busy + if isRachNumber p.chanNr && isBusy p.rssi then 1 else 0 } := by
  unfold busyCounted
  split
  · rfl
  · rfl

theorem RachOutcome.counted (h : RachOutcome site trx p b r b' es) :
    BurstsCounted (.up trx (.phRachInd p)) b b' es := by
  have kept : ∀ {b₁ es}, accessesGiven es = [] → b₁.rach = (busyCounted p b).rach →
      BurstsCounted (.up trx (.phRachInd p)) b b₁ es := by
    intro b₁ es none same
    rw [rach_busyCounted] at same
    constructor
    · rw [none, same]
      rfl
    · rw [same]
      rfl
  have given : ∀ {es}, (accessesGiven es).length = 1 →
      BurstsCounted (.up trx (.phRachInd p)) b
        (accessCounted (delayKept trx p (busyCounted p b))) es := by
    intro es one
    have same : (accessCounted (delayKept trx p (busyCounted p b))).rach = _ :=
      congrArg (fun x : RachLoad => { x with access := x.access + 1 })
        (rach_delayKept.trans rach_busyCounted)
    constructor
    · rw [one, same]
    · rw [same]
      rfl
  cases h with
  | packet => exact given rfl
  | request => exact given rfl
  | _ => exact kept rfl rfl

/-- Access bursts are given away when they come in only. -/
theorem StepOutcome.accessless (h : StepOutcome site b i r b' es) (other : i.isBurst = false) :
    accessesGiven es = [] := by
  refine h.filterMap_eq_nil fun e cause => ?_
  cases cause with
  | packetAccess | accessUp => cases other
  | _ => rfl

theorem Change.burstsKept (h : Change site b i b') (other : i.isBurst = false) :
    b'.rach.access = b.rach.access ∧ b'.rach.busy = b.rach.busy := by
  cases h with
  | counted same => simp [same other]
  | moved _ _ _ _ same => simp [same other]
  | time => exact ⟨rfl, rfl⟩

theorem Input.isBurst_eq_true : i.isBurst = true ↔ ∃ trx p, i = .up trx (.phRachInd p) := by
  unfold isBurst
  split
  · exact iff_of_true rfl ⟨_, _, rfl⟩
  · rename_i other
    exact iff_of_false Bool.false_ne_true fun ⟨trx, p, same⟩ => other trx p same

theorem Move.isBusyBurst_of_other {o : i.isDown = false} (other : i.isBurst = false) :
    (Move.input i o).isBusyBurst = false := by
  unfold isBusyBurst
  split
  · rename_i same
    cases same
    cases other
  · rfl

/-- A turn moves the counters by the bursts given away and by those with energy. -/
theorem Turn.Lawful.burstsCounted (lawful : t.Lawful site) :
    BurstsCounted t.move t.before t.after t.events := by
  obtain ⟨b, m, r, es, b'⟩ := t
  cases m with
  | input i o =>
    have h : StepOutcome site b i r b' es := lawful
    cases burst : i.isBurst with
    | false =>
      obtain ⟨access, busy⟩ := h.change.burstsKept burst
      constructor
      · rw [h.accessless burst]
        exact access
      · rw [Move.isBusyBurst_of_other burst]
        exact busy
    | true =>
      obtain ⟨trx, p, rfl⟩ := Input.isBurst_eq_true.mp burst
      exact h.rachOutcome.counted
  | write id x =>
    obtain ⟨-, after, events⟩ : r = .ok () ∧ b' = b.modifyLchan id x.apply ∧ es = [] := lawful
    subst after events
    exact ⟨rfl, rfl⟩

/-! ### Runs -/

theorem access_run (ms : List Move) : (run site w ms).bts.rach.access = w.bts.rach.access +
    (accessesGiven ((history site w ms).flatMap Turn.events)).length := by
  rw [sum_run (q := fun b => b.rach.access) fun _ lawful => lawful.burstsCounted.access]
  unfold accessesGiven
  rw [List.filterMap_flatMap, List.length_flatMap]

theorem busy_run (ms : List Move) :
    (run site w ms).bts.rach.busy = w.bts.rach.busy + ms.countP Move.isBusyBurst := by
  rw [sum_run (q := fun b => b.rach.busy) fun _ lawful => lawful.burstsCounted.busy]
  have moves : ((history site w ms).map Turn.move).countP Move.isBusyBurst =
      ms.countP Move.isBusyBurst := by rw [moves_history]
  rw [← moves, List.countP_map]
  simp [List.sum_map_ite, List.countP_eq_length_filter, Function.comp_def]

/-- In every state that a run of a valid configuration reaches an access burst goes where its delay,
its channel number, its carrier and its code say, and to no one else. Over the run the access
counter is the number of bursts given to packet control and to the link layer, and the busy counter
is the number of bursts with a random access number and enough energy, those among them that came
late included. -/
theorem access_bursts_delivered_and_counted (c : Config) (valid : c.validate = .ok ())
    (site : Site σ φ) (settings : site.settings = .ofConfig c) (filter : Capture.Filter)
    (services : σ) (phy : φ) (ms : List Move) :
    let w := run site (.fresh c filter services phy) ms
    (∀ trx p, ∃ es, (step site (.up trx (.phRachInd p)) w).2.trace = w.trace ++ es ∧
      Delivered c.cell.maxTa trx p w.bts (step site (.up trx (.phRachInd p)) w).1
        (step site (.up trx (.phRachInd p)) w).2.bts es) ∧
    w.bts.rach.access = (accessesGiven w.trace).length ∧
    w.bts.rach.busy = ms.countP Move.isBusyBurst := by
  intro w
  refine ⟨fun trx p => ?_, ?_, ?_⟩
  · obtain ⟨es, ht, h⟩ := step_outcome site (.up trx (.phRachInd p)) w
    have maxTa : c.cell.maxTa = site.settings.maxTa := by rw [settings]; rfl
    have small : site.settings.maxTa ≤ maxTimingAdvance := maxTa ▸ Config.maxTa_le valid
    refine ⟨es, ht, ?_⟩
    rw [maxTa]
    exact h.rachOutcome.delivered small
  · rw [access_run, trace_run]
    exact Nat.zero_add _
  · rw [busy_run]
    exact Nat.zero_add _

/-- An access burst with the given channel number, code, delay and level. -/
def burstOf (chanNr : UInt8) (ra : UInt16) (delay : UInt8) (rssi : Int8) : PhRach :=
  ⟨chanNr, ra, delay, 4, false, .ts0, rssi⟩

/-- A packet access, a channel request, one that comes late, one without energy, and a burst on a
traffic channel. -/
def burstMoves : List Move := [
  .up 0 (.phRachInd (burstOf 0x88 0x71 5 (-60))),
  .up 0 (.phRachInd (burstOf 0x88 0xe3 5 (-90))),
  .up 0 (.phRachInd (burstOf 0x88 0xe3 64 (-60))),
  .up 0 (.phRachInd (burstOf 0x88 0xe3 5 (-91))),
  .up 0 (.phRachInd (burstOf 0x0a 0x71 5 (-60)))]

/-- Three of the bursts are given to packet control and the link layer, and three have energy on the
random access channel. -/
theorem bursts_counted_in_cell :
    (accessesGiven (run scriptedSite (scriptedWorld .fresh) burstMoves).trace).length = 3 ∧
      burstMoves.countP Move.isBusyBurst = 3 := by
  obtain ⟨-, access, busy⟩ := access_bursts_delivered_and_counted scriptedConfig rfl scriptedSite
    rfl .empty .fresh .accepting burstMoves
  exact ⟨access.symm.trans (by decide +kernel), busy.symm.trans (by decide +kernel)⟩

end Bridge
end BaseStation
