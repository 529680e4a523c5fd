import BaseStation.Bridge.Uplink
import BaseStation.Proofs.Bridge.Downlink

/-!
What comes in from mobile stations, and what each of it comes to: the result, the data left and the
events, in terms of the answers of the parties and of the radio.
-/

namespace BaseStation.Bridge

variable {σ φ : Type} {site : Site σ φ} {b : Bts} {trx : UInt8}

/-! ### Blocks of data -/

/-- The channel after a SACCH frame was counted. -/
def supervised (site : Site σ φ) (l : Lchan) (bad : Bool) : Lchan :=
  (l.onSacchFrame site.settings.radioLinkTimeout bad).1

/-- Supervision writes the radio link counter alone. -/
theorem supervised_eq (site : Site σ φ) (l : Lchan) (bad : Bool) :
    ∃ s, supervised site l bad = { l with s := s } := by
  unfold supervised Lchan.onSacchFrame
  split
  · exact ⟨l.s, rfl⟩
  · split
    · exact ⟨_, rfl⟩
    · split
      · exact ⟨_, rfl⟩
      · exact ⟨l.s, rfl⟩

/-- The report on a radio link that fails with a SACCH frame. -/
def superviseEvents (site : Site σ φ) (id : LchanId) (l : Lchan) (bad : Bool) : List Event :=
  match (l.onSacchFrame site.settings.radioLinkTimeout bad).2 with
  | some c => [.call (.connectionFailure id c) ()]
  | none => []

/-- The report on the first frame after a handover. -/
def handoverEvents (id : LchanId) (l : Lchan) : List Event :=
  if l.handover = .waitFrame then [.call (.handoverFrame id) ()] else []

/-- The channel after the layer 1 header of a SACCH frame was taken; `level` is the answer of power
control. -/
def headerTaken (l : Lchan) (header : List UInt8) (level : Option UInt8) : Lchan :=
  { l with
    meas := (l.meas.storeL1Header header).1
    msPower :=
      match (l.meas.storeL1Header header).2 with
      | some _ => level.getD l.msPower
      | none => l.msPower }

/-- Power control hears of the level that a header reports. -/
def headerEvents (id : LchanId) (l : Lchan) (rssi : Int8) (header : List UInt8)
    (level : Option UInt8) : List Event :=
  match (l.meas.storeL1Header header).2 with
  | some p => [.call (.powerControl id p rssi) level]
  | none => []

/-- A frame goes to the link layer, after the ciphering request it gives rise to. -/
def deliverEvents (trx : UInt8) (id : LchanId) (l : Lchan) (d : PhData)
    (answer : Except PhyError Unit) : List Event :=
  requestEvents trx (l.checkUplink d.chanNr d.frame.l2).2 answer ++
    [.call (.dataUp id (.ofId d.linkId) { d with frame := d.frame.dropL1 }) ()]

/-- A block with its layer 1 header marked as on a SACCH. -/
def sacchMarked (d : PhData) : PhData := { d with frame := d.frame.setL1Length sacchHeaderLength }

@[simp] theorem chanNr_sacchMarked (d : PhData) : (sacchMarked d).chanNr = d.chanNr := rfl

/-- A block of data that was received. -/
inductive DataOutcome (site : Site σ φ) (trx : UInt8) (d : PhData) (b : Bts) :
    Except Failure Unit → Bts → List Event → Prop
  | unknownTrx (unknown : b.carrier? trx = none) :
    DataOutcome site trx d b (.error (.refused (.noSuchTrx trx))) b []
  | looped {c : Carrier} {id : LchanId} {l : Lchan} (carrier : b.carrier? trx = some c)
      (packet : (c.slotOf d.chanNr).isPdch = true) (found : b.find? trx d.chanNr = some (id, l))
      (loop : l.loopback = true) :
    DataOutcome site trx d b (.ok ())
      (b.setLchan id { l with queue := (l.queue.push (.looped d.frame.octets)).1 }) []
  | packetBad {c : Carrier} (carrier : b.carrier? trx = some c)
      (packet : (c.slotOf d.chanNr).isPdch = true)
      (free : ∀ id l, b.find? trx d.chanNr = some (id, l) → l.loopback = false)
      (bad : d.frame.isEmpty = true) :
    DataOutcome site trx d b (.error (.refused .badFrame)) b []
  | packetPartial {c : Carrier} (carrier : b.carrier? trx = some c)
      (packet : (c.slotOf d.chanNr).isPdch = true)
      (free : ∀ id l, b.find? trx d.chanNr = some (id, l) → l.loopback = false)
      (good : d.frame.isEmpty = false) (control : (packetBlock d.fn.toNat).1 = false)
      (part : d.presence ≠ .both) :
    DataOutcome site trx d b (.ok ()) b []
  | packetData {c : Carrier} (carrier : b.carrier? trx = some c)
      (packet : (c.slotOf d.chanNr).isPdch = true)
      (free : ∀ id l, b.find? trx d.chanNr = some (id, l) → l.loopback = false)
      (good : d.frame.isEmpty = false)
      (whole : (packetBlock d.fn.toNat).1 = true ∨ d.presence = .both) :
    DataOutcome site trx d b (.ok ()) b
      [.call (.packetData ⟨trx, chanTn d.chanNr, (packetBlock d.fn.toNat).1, d.fn, c.arfcn,
        (packetBlock d.fn.toNat).2, d.frame.octets, d.rssi, d.ber10k, d.taOffset,
        d.linkQuality⟩) ()]
  | inactive {c : Carrier} (carrier : b.carrier? trx = some c)
      (circuit : (c.slotOf d.chanNr).isPdch = false)
      (free : b.findActive? trx d.chanNr = none) : DataOutcome site trx d b (.ok ()) b []
  | badMain {c : Carrier} {id : LchanId} {l : Lchan} (carrier : b.carrier? trx = some c)
      (circuit : (c.slotOf d.chanNr).isPdch = false)
      (found : b.findActive? trx d.chanNr = some (id, l)) (link : isSacchLink d.linkId = false)
      (bad : d.frame.isEmpty = true) :
    DataOutcome site trx d b (.error (.refused .badFrame)) b []
  | badSacch {c : Carrier} {id : LchanId} {l : Lchan} (carrier : b.carrier? trx = some c)
      (circuit : (c.slotOf d.chanNr).isPdch = false)
      (found : b.findActive? trx d.chanNr = some (id, l)) (link : isSacchLink d.linkId = true)
      (bad : d.frame.isEmpty = true) :
    DataOutcome site trx d b (.error (.refused .badFrame)) (b.setLchan id (supervised site l true))
      (superviseEvents site id l true)
  | main {c : Carrier} {id : LchanId} {l : Lchan} (carrier : b.carrier? trx = some c)
      (circuit : (c.slotOf d.chanNr).isPdch = false)
      (found : b.findActive? trx d.chanNr = some (id, l)) (link : isSacchLink d.linkId = false)
      (good : d.frame.isEmpty = false) (answer : Except PhyError Unit) :
    DataOutcome site trx d b (.ok ())
      (b.setLchan id ({ l with handover := .none }.checkUplink d.chanNr d.frame.l2).1)
      (handoverEvents id l ++ deliverEvents trx id { l with handover := .none } d answer)
  | shortSacch {c : Carrier} {id : LchanId} {l : Lchan} (carrier : b.carrier? trx = some c)
      (circuit : (c.slotOf d.chanNr).isPdch = false)
      (found : b.findActive? trx d.chanNr = some (id, l)) (link : isSacchLink d.linkId = true)
      (good : d.frame.isEmpty = false) (short : d.frame.l2Length < sacchHeaderLength) :
    DataOutcome site trx d b (.error (.refused (.sacchTooShort d.frame.l2Length)))
      (b.setLchan id (supervised site { l with handover := .none } false))
      (handoverEvents id l ++ superviseEvents site id { l with handover := .none } false)
  | sacch {c : Carrier} {id : LchanId} {l l' : Lchan} (carrier : b.carrier? trx = some c)
      (circuit : (c.slotOf d.chanNr).isPdch = false)
      (found : b.findActive? trx d.chanNr = some (id, l)) (link : isSacchLink d.linkId = true)
      (good : d.frame.isEmpty = false) (long : sacchHeaderLength ≤ d.frame.l2Length)
      (level : Option UInt8) (answer : Except PhyError Unit)
      (header : l' = headerTaken (supervised site { l with handover := .none } false)
        (sacchMarked d).frame.l1 level) :
    DataOutcome site trx d b (.ok ())
      (b.setLchan id (l'.checkUplink d.chanNr (sacchMarked d).frame.l2).1)
      (handoverEvents id l ++ (superviseEvents site id { l with handover := .none } false ++
        (headerEvents id (supervised site { l with handover := .none } false) d.rssi
          (sacchMarked d).frame.l1 level ++ deliverEvents trx id l' (sacchMarked d) answer)))

section Parts

variable {id : LchanId} {l : Lchan}

theorem superviseLink_ensures (hl : b.lchan? id = some l) (bad : Bool) :
    Ensures b (superviseLink site id bad) fun _ b' es =>
      b' = b.setLchan id (supervised site l bad) ∧ es = superviseEvents site id l bad := by
  unfold superviseLink supervised superviseEvents
  refine .read fun w hw => ?_
  rw [hw, hl]
  dsimp only
  generalize l.onSacchFrame site.settings.radioLinkTimeout bad = x
  obtain ⟨l', cause⟩ := x
  refine .writeLchan ?_
  rw [Bts.modifyLchan_eq_setLchan hl]
  cases cause with
  | none => exact .done ⟨rfl, rfl⟩
  | some c => exact .last (.told fun _ => .done ⟨rfl, rfl⟩)

theorem completeHandover_ensures (hl : b.lchan? id = some l) :
    Ensures b (completeHandover site id l) fun _ b' es =>
      b' = b.setLchan id { l with handover := .none } ∧ es = handoverEvents id l := by
  unfold completeHandover handoverEvents
  split
  · refine .told fun _ => .last (.writeLchan ?_)
    rw [Bts.modifyLchan_eq_setLchan hl]
    exact .done ⟨rfl, rfl⟩
  · rename_i waiting
    have none : l.handover = .none := by
      cases h : l.handover with
      | none => rfl
      | waitFrame => exact absurd h waiting
    refine .done ⟨?_, rfl⟩
    rw [← none, Bts.setLchan_self hl]

theorem takeL1Header_ensures (hl : b.lchan? id = some l) (rssi : Int8) (header : List UInt8) :
    Ensures b (takeL1Header site id rssi header) fun _ b' es => ∃ level,
      b' = b.setLchan id (headerTaken l header level) ∧
      es = headerEvents id l rssi header level := by
  unfold takeL1Header headerTaken headerEvents
  refine .read fun w hw => ?_
  rw [hw, hl]
  dsimp only
  generalize l.meas.storeL1Header header = x
  obtain ⟨meas, power⟩ := x
  refine .writeLchan ?_
  rw [Bts.modifyLchan_eq_setLchan hl]
  cases power with
  | none => exact .done ⟨none, rfl, rfl⟩
  | some p =>
    refine .asked fun level => ?_
    cases level with
    | none => exact .done ⟨none, rfl, rfl⟩
    | some x =>
      refine .last (.writeLchan ?_)
      rw [Bts.modifyLchan_eq_setLchan (Bts.lchan?_setLchan_self hl), Bts.setLchan_setLchan]
      exact .done ⟨some x, rfl, rfl⟩

theorem deliver_ensures (hl : b.lchan? id = some l) (d : PhData) :
    Ensures b (deliver site trx id d) fun _ b' es => ∃ answer,
      b' = b.setLchan id (l.checkUplink d.chanNr d.frame.l2).1 ∧
      es = deliverEvents trx id l d answer := by
  unfold deliver deliverEvents
  refine .read fun w hw => ?_
  rw [hw, hl]
  dsimp only
  generalize l.checkUplink d.chanNr d.frame.l2 = x
  obtain ⟨l', request⟩ := x
  refine .writeLchan ?_
  rw [Bts.modifyLchan_eq_setLchan hl]
  cases request with
  | none => exact .last (.told fun _ => .done ⟨.ok (), rfl, rfl⟩)
  | some c =>
    refine .bind (handDown_ensures trx _) ?_
    rintro answer _ _ ⟨rfl, rfl⟩
    exact .last (.told fun _ => .done ⟨answer, rfl, rfl⟩)

theorem sacchDataInd_ensures {c : Carrier} {d : PhData} (carrier : b.carrier? trx = some c)
    (circuit : (c.slotOf d.chanNr).isPdch = false)
    (found : b.findActive? trx d.chanNr = some (id, l)) (link : isSacchLink d.linkId = true)
    (good : d.frame.isEmpty = false) :
    Ensures (b.setLchan id { l with handover := .none }) (sacchDataInd site trx id d)
      fun r b' es => DataOutcome site trx d b r b' (handoverEvents id l ++ es) := by
  have hl := lchan?_of_findActive? found
  unfold sacchDataInd
  refine .lift (superviseLink_ensures (Bts.lchan?_setLchan_self hl) false) ?_
  rintro _ _ _ ⟨rfl, rfl⟩
  rw [Bts.setLchan_setLchan]
  split
  · rename_i short
    refine .refused ?_
    rw [List.append_nil]
    exact .shortSacch carrier circuit found link good short
  · rename_i long
    refine .lift (takeL1Header_ensures (Bts.lchan?_setLchan_self hl) d.rssi _) ?_
    rintro _ _ _ ⟨level, rfl, rfl⟩
    rw [Bts.setLchan_setLchan]
    refine .lastLift ((deliver_ensures (Bts.lchan?_setLchan_self hl) _).mono ?_)
    rintro _ _ _ ⟨answer, rfl, rfl⟩
    rw [Bts.setLchan_setLchan]
    exact .sacch carrier circuit found link good (Nat.le_of_not_lt long) level answer rfl

theorem circuitDataInd_ensures {c : Carrier} {d : PhData} (carrier : b.carrier? trx = some c)
    (circuit : (c.slotOf d.chanNr).isPdch = false) :
    Ensures b (circuitDataInd site trx d) (DataOutcome site trx d b) := by
  unfold circuitDataInd
  refine .actRead fun w hw => ?_
  subst hw
  cases found : w.bts.findActive? trx d.chanNr with
  | none => exact .succeed (.inactive carrier circuit found)
  | some p =>
    obtain ⟨id, l⟩ := p
    have hl := lchan?_of_findActive? found
    dsimp only
    split
    · rename_i bad
      split
      · rename_i link
        refine .lift (superviseLink_ensures hl true) ?_
        rintro _ _ _ ⟨rfl, rfl⟩
        refine .refused ?_
        rw [List.append_nil]
        exact .badSacch carrier circuit found link bad
      · rename_i link
        exact .refused (.badMain carrier circuit found (by simpa using link) bad)
    · rename_i good
      rw [Bool.not_eq_true] at good
      -- the first good frame ends a handover, before the link is looked at
      refine .lift (completeHandover_ensures hl) ?_
      rintro _ _ _ ⟨rfl, rfl⟩
      split
      · rename_i link
        exact sacchDataInd_ensures carrier circuit found link good
      · rename_i link
        refine .lastLift ((deliver_ensures (Bts.lchan?_setLchan_self hl) d).mono ?_)
        rintro _ _ _ ⟨answer, rfl, rfl⟩
        rw [Bts.setLchan_setLchan]
        exact .main carrier circuit found (by simpa using link) good answer

end Parts

theorem packetDataInd_ensures {c : Carrier} {d : PhData} (carrier : b.carrier? trx = some c)
    (packet : (c.slotOf d.chanNr).isPdch = true) :
    Ensures b (packetDataInd site trx c.arfcn d) (DataOutcome site trx d b) := by
  unfold packetDataInd
  refine .actRead fun w hw => ?_
  subst hw
  cases found : (w.bts.find? trx d.chanNr).filter (·.2.loopback) with
  | some p =>
    obtain ⟨id, l⟩ := p
    rw [Option.filter_eq_some_iff] at found
    refine .actLast (.actWriteLchan (.succeed ?_))
    rw [Bts.modifyLchan_eq_setLchan (Bts.find?_eq_some.mp found.1).2]
    exact .looped carrier packet found.1 found.2
  | none =>
    -- the loopback is that of a channel that need not be active
    have free : ∀ id l, w.bts.find? trx d.chanNr = some (id, l) → l.loopback = false := by
      intro id l hl
      simpa [hl] using found
    dsimp only
    split
    · rename_i bad
      exact .refused (.packetBad carrier packet free bad)
    · rename_i good
      rw [Bool.not_eq_true] at good
      split
      · rename_i part
        simp only [Bool.and_eq_true, Bool.not_eq_true', bne_iff_ne] at part
        exact .succeed (.packetPartial carrier packet free good part.1 part.2)
      · rename_i whole
        refine .actLast (.actTold fun _ => .succeed (.packetData carrier packet free good ?_))
        cases control : (packetBlock d.fn.toNat).1 with
        | true => exact .inl rfl
        | false => exact .inr (by simpa [control] using whole)

theorem dataInd_ensures (d : PhData) :
    Ensures b (dataInd site trx d) (DataOutcome site trx d b) := by
  unfold dataInd
  refine .needCarrier .unknownTrx fun c carrier => ?_
  split
  · rename_i packet
    exact packetDataInd_ensures carrier packet
  · rename_i circuit
    exact circuitDataInd_ensures carrier (by simpa using circuit)

/-! ### Voice -/

/-- The octets of a voice frame. -/
def voicePayload (t : TchData) : List UInt8 := (t.frame.map Frame.l2).getD []

/-- A voice frame goes to the transport of a channel that has one. -/
def voiceUpEvents (site : Site σ φ) (id : LchanId) (l : Lchan) (t : TchData) : List Event :=
  if l.hasRtp then
    [.call (.voiceUp id ⟨voicePayload t, voiceDuration t.fn l.lastFn site.settings.dtxUl,
      l.txMarker⟩) ()]
  else []

/-- A voice frame that was received. -/
inductive TchOutcome (site : Site σ φ) (trx : UInt8) (t : TchData) (b : Bts) :
    Except Failure Unit → Bts → List Event → Prop
  | unknownTrx (unknown : b.carrier? trx = none) :
    TchOutcome site trx t b (.error (.refused (.noSuchTrx trx))) b []
  | inactive {c : Carrier} (carrier : b.carrier? trx = some c)
      (free : b.findActive? trx t.chanNr = none) : TchOutcome site trx t b (.ok ()) b []
  | looped {c : Carrier} {id : LchanId} {l : Lchan} (carrier : b.carrier? trx = some c)
      (found : b.findActive? trx t.chanNr = some (id, l)) (loop : l.loopback = true) :
    TchOutcome site trx t b (.ok ())
      (b.setLchan id { l with queue := (l.queue.push (.looped (voicePayload t))).1 })
      (voiceUpEvents site id l t)
  | taken {c : Carrier} {id : LchanId} {l : Lchan} (carrier : b.carrier? trx = some c)
      (found : b.findActive? trx t.chanNr = some (id, l)) (straight : l.loopback = false) :
    TchOutcome site trx t b (.ok ())
      (b.setLchan id { l with txMarker := false, lastFn := some t.fn }) (voiceUpEvents site id l t)

theorem tchInd_ensures (t : TchData) : Ensures b (tchInd site trx t) (TchOutcome site trx t b) := by
  unfold tchInd
  refine .needCarrier .unknownTrx fun c carrier => .actRead fun w hw => ?_
  subst hw
  cases found : w.bts.findActive? trx t.chanNr with
  | none => exact .succeed (.inactive carrier found)
  | some p =>
    obtain ⟨id, l⟩ := p
    have hl := lchan?_of_findActive? found
    -- the parties are told first, and the record is written in both cases
    have kept : Ensures w.bts (do
        if l.loopback then
          modify (·.modifyLchan id
            ({ · with queue := (l.queue.push (.looped (voicePayload t))).1 }))
        else modify (·.modifyLchan id ({ · with txMarker := false, lastFn := some t.fn })) :
          Act σ φ Unit)
        fun r b' es => TchOutcome site trx t w.bts r b' (voiceUpEvents site id l t ++ es) := by
      split
      · rename_i loop
        refine .actLast (.actWriteLchan (.succeed ?_))
        rw [Bts.modifyLchan_eq_setLchan hl, List.append_nil]
        exact .looped carrier found loop
      · rename_i straight
        refine .actLast (.actWriteLchan (.succeed ?_))
        rw [Bts.modifyLchan_eq_setLchan hl, List.append_nil]
        exact .taken carrier found (by simpa using straight)
    unfold voiceUpEvents at kept
    dsimp only
    cases hr : l.hasRtp with
    | false =>
      rw [hr] at kept
      exact kept
    | true =>
      rw [hr] at kept
      exact .actTold fun _ => kept

/-! ### Measurements and time -/

/-- A measurement of a channel. -/
inductive MeasuredOutcome (trx : UInt8) (m : Measured) (b : Bts) :
    Except Failure Unit → Bts → List Event → Prop
  | unknownTrx (unknown : b.carrier? trx = none) :
    MeasuredOutcome trx m b (.error (.refused (.noSuchTrx trx))) b []
  | inactive {c : Carrier} (carrier : b.carrier? trx = some c)
      (free : b.findActive? trx m.chanNr = none) : MeasuredOutcome trx m b (.ok ()) b []
  | packet {c : Carrier} {id : LchanId} {l : Lchan} (carrier : b.carrier? trx = some c)
      (found : b.findActive? trx m.chanNr = some (id, l)) (packet : l.type = .pdtch) :
    MeasuredOutcome trx m b (.ok ()) b []
  | measured {c : Carrier} {id : LchanId} {l : Lchan} (carrier : b.carrier? trx = some c)
      (found : b.findActive? trx m.chanNr = some (id, l)) (circuit : l.type ≠ .pdtch)
      (answer : Measurements) :
    MeasuredOutcome trx m b (.ok ()) (b.setLchan id { l with meas := answer })
      [.call (.measure id (l.meas.add m) m.fn) answer]

theorem measInd_ensures (m : Measured) :
    Ensures b (measInd site trx m) (MeasuredOutcome trx m b) := by
  unfold measInd
  refine .needCarrier .unknownTrx fun c carrier => .actRead fun w hw => ?_
  subst hw
  cases found : w.bts.findActive? trx m.chanNr with
  | none => exact .succeed (.inactive carrier found)
  | some p =>
    obtain ⟨id, l⟩ := p
    dsimp only
    split
    · rename_i packet
      exact .succeed (.packet carrier found packet)
    · rename_i circuit
      refine .lift (.ask _) ?_
      rintro answer _ _ ⟨rfl, rfl⟩
      refine .actLast (.actWriteLchan (.succeed ?_))
      rw [Bts.modifyLchan_eq_setLchan (lchan?_of_findActive? found)]
      exact .measured carrier found circuit answer

/-- The base station at a new time, with the slots for access bursts that passed until then. -/
def timed (site : Site σ φ) (fn : UInt32) (b : Bts) : Bts :=
  { b with
    time := .ofFrame fn.toNat
    rach := { b.rach with
      total := b.rach.total + expiredSlots site.settings.ccchConf fn.toNat *
        (frameDiff fn.toNat b.time.frame).toNat } }

/-- An indication of the time. -/
inductive TimeOutcome (site : Site σ φ) (trx : UInt8) (fn : UInt32) (b : Bts) :
    Except Failure Unit → Bts → List Event → Prop
  | secondary (other : trx ≠ 0) :
    TimeOutcome site trx fn b (.error (.refused (.timeFromSecondaryTrx trx))) b []
  | primary (first : trx = 0) :
    TimeOutcome site trx fn b (.ok ()) (timed site fn b) [.call (.packetTime fn) ()]

theorem timeInd_ensures (fn : UInt32) :
    Ensures b (timeInd site trx fn) (TimeOutcome site trx fn b) := by
  unfold timeInd
  split
  · rename_i other
    exact .refused (.secondary other)
  · rename_i first
    refine .actRead fun w hw => ?_
    subst hw
    exact .actWriteBts (.actTold fun _ => .actLast (.actWriteBts (.succeed
      (.primary (Decidable.not_not.mp first)))))

/-! ### Access bursts -/

/-- The base station after the energy of an access burst was counted. -/
def busyCounted (p : PhRach) (b : Bts) : Bts :=
  if isRachNumber p.chanNr && isBusy p.rssi then
    { b with rach := { b.rach with busy := b.rach.busy + 1 } }
  else b

/-- The base station after an access burst was counted. -/
def accessCounted (b : Bts) : Bts :=
  { b with rach := { b.rach with access := b.rach.access + 1 } }

/-- The channel after the delay of an access burst was stored with it. -/
def delayStored (p : PhRach) (l : Lchan) : Lchan :=
  { l with meas := l.meas.setAccessOffset p.delay.toNat }

theorem delayStored_eq (p : PhRach) (l : Lchan) :
    ∃ m, delayStored p l = { l with meas := m } := ⟨l.meas.setAccessOffset p.delay.toNat, rfl⟩

/-- The base station after the delay of an access burst was stored with its channel, if there is
one. -/
def delayKept (trx : UInt8) (p : PhRach) (b : Bts) : Bts :=
  match b.find? trx p.chanNr with
  | some (id, l) => b.setLchan id (delayStored p l)
  | none => b

/-- An access burst that was received. -/
inductive RachOutcome (site : Site σ φ) (trx : UInt8) (p : PhRach) (b : Bts) :
    Except Failure Unit → Bts → List Event → Prop
  | late (route : p.route trx site.settings.maxTa = .discard) :
    RachOutcome site trx p b (.ok ()) (busyCounted p b) []
  | unknownTrx (route : p.route trx site.settings.maxTa ≠ .discard)
      (unknown : b.carrier? trx = none) :
    RachOutcome site trx p b (.error (.refused (.noSuchTrx trx))) (busyCounted p b) []
  | unknownLchan {c : Carrier} (route : p.route trx site.settings.maxTa = .handover)
      (carrier : b.carrier? trx = some c) (unknown : b.find? trx p.chanNr = none) :
    RachOutcome site trx p b (.error (.refused (.noLchan p.chanNr))) (busyCounted p b) []
  | handover {c : Carrier} {id : LchanId} {l : Lchan}
      (route : p.route trx site.settings.maxTa = .handover) (carrier : b.carrier? trx = some c)
      (found : b.find? trx p.chanNr = some (id, l)) (taken : Bool) :
    RachOutcome site trx p b (.ok ())
      ((busyCounted p b).setLchan id
        (if taken then { delayStored p l with handover := .waitFrame } else delayStored p l))
      [.call (.handoverAccess id p.ra p.delay) taken]
  | packet {c : Carrier} (route : p.route trx site.settings.maxTa = .pcu)
      (carrier : b.carrier? trx = some c) :
    RachOutcome site trx p b (.ok ()) (accessCounted (delayKept trx p (busyCounted p b)))
      [.call (.packetAccess p.packetAccess) ()]
  | request {c : Carrier} (route : p.route trx site.settings.maxTa = .linkLayer)
      (carrier : b.carrier? trx = some c) :
    RachOutcome site trx p b (.ok ()) (accessCounted (delayKept trx p (busyCounted p b)))
      [.call (.accessUp (commonLchan trx)
        ⟨p.chanNr, p.ra, p.delay, p.fn, p.elevenBit, p.burst⟩) ()]

section Access

variable {p : PhRach}

@[simp] theorem carrier?_busyCounted : (busyCounted p b).carrier? trx = b.carrier? trx := by
  unfold busyCounted
  split <;> rfl

@[simp] theorem find?_busyCounted {n : UInt8} : (busyCounted p b).find? trx n = b.find? trx n := by
  unfold busyCounted
  split <;> rfl

/-- Goes on after the delay of an access burst was stored with its channel, if there is one. -/
theorem Ensures.storedDelay {β : Type} {k : Act σ φ β}
    {Q : Except Failure β → Bts → List Event → Prop} (h : Ensures (delayKept trx p b) k Q) :
    Ensures b (do
      match b.locate? trx p.chanNr with
      | some id => modify (·.storeDelay id p)
      | none => pure ()
      k : Act σ φ β) Q := by
  unfold delayKept at h
  cases located : b.locate? trx p.chanNr with
  | none =>
    rw [Bts.find?_eq_none.mpr located] at h
    exact h
  | some id =>
    obtain ⟨a, -, -, hl⟩ := Bts.locate?_eq_some.mp located
    obtain ⟨l, hl⟩ := Option.isSome_iff_exists.mp hl
    rw [Bts.find?_eq_some.mpr ⟨located, hl⟩] at h
    refine .actWriteLchan ?_
    rw [Bts.modifyLchan_eq_setLchan hl]
    exact h

theorem rachInd_ensures (p : PhRach) :
    Ensures b (rachInd site trx p) (RachOutcome site trx p b) := by
  -- a burst is counted before anything is looked up, and the count hides no channel
  have counted : ∀ w : World σ φ, w.bts = b →
      (w.countBusy p).bts = busyCounted p b ∧ (w.countBusy p).trace = w.trace := by
    rintro w rfl
    unfold World.countBusy busyCounted
    split <;> exact ⟨rfl, rfl⟩
  unfold rachInd
  refine .actWrite counted ?_
  cases route : p.route trx site.settings.maxTa with
  | discard => exact .succeed (.late route)
  | handover =>
    refine .needCarrier (fun unknown => .unknownTrx (by simp [route]) (by simpa using unknown))
      fun c carrier => .actRead fun w hw => ?_
    rw [carrier?_busyCounted] at carrier
    rw [hw]
    refine .storedDelay ?_
    unfold delayKept
    cases found : b.find? trx p.chanNr with
    | none =>
      have unknown : (busyCounted p b).find? trx p.chanNr = none := by rw [find?_busyCounted, found]
      rw [unknown, Bts.find?_eq_none.mp unknown]
      exact .refused (.unknownLchan route carrier found)
    | some q =>
      obtain ⟨id, l⟩ := q
      have known : (busyCounted p b).find? trx p.chanNr = some (id, l) := by
        rw [find?_busyCounted, found]
      obtain ⟨located, hl⟩ := Bts.find?_eq_some.mp known
      rw [known, located]
      refine .lift (.ask _) ?_
      rintro taken _ _ ⟨rfl, rfl⟩
      -- what the parties above say of the handover decides what is written
      have done : RachOutcome site trx p b _ _ _ := .handover route carrier found taken
      cases taken with
      | false =>
        rw [if_neg Bool.false_ne_true] at done
        exact .succeed done
      | true =>
        refine .actLast (.actWriteLchan (.succeed ?_))
        rw [Bts.modifyLchan_eq_setLchan (Bts.lchan?_setLchan_self hl), Bts.setLchan_setLchan]
        exact done
  | pcu =>
    refine .needCarrier (fun unknown => .unknownTrx (by simp [route]) (by simpa using unknown))
      fun c carrier => .actRead fun w hw => ?_
    rw [carrier?_busyCounted] at carrier
    rw [hw]
    exact .storedDelay (.actWriteBts (.actLast (.actTold fun _ =>
      .succeed (.packet route carrier))))
  | linkLayer =>
    refine .needCarrier (fun unknown => .unknownTrx (by simp [route]) (by simpa using unknown))
      fun c carrier => .actRead fun w hw => ?_
    rw [carrier?_busyCounted] at carrier
    rw [hw]
    exact .storedDelay (.actWriteBts (.actLast (.actTold fun _ =>
      .succeed (.request route carrier))))

end Access

end BaseStation.Bridge
