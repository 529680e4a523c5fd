import BaseStation.Proofs.Bridge.Answers
import BaseStation.Proofs.Reception
import BaseStation.Proofs.VoiceOrder
import Mathlib.Data.List.DropRight

/-!
# The measurement record of a channel

What the record holds is told by the updates that reached it since the last release of the channel:
measurements, delays of access bursts and headers of SACCH frames. A single update keeps
`Recorded`, which says of a record what a list of updates makes of it, and a turn makes one update
or none (`MeasTurn`).
-/

namespace BaseStation

/-! ### Updates -/

/-- What reaches the measurement record of a channel: a measurement, the delay of an access burst in
symbols, and the first two octets of a SACCH frame. -/
inductive MeasUpdate where
  | sample (x : Measured)
  | delay (symbols : UInt8)
  | header (x y : UInt8)
deriving DecidableEq

/-- A timing offset in symbols, as measured or as the delay of an access burst. -/
inductive TimingOffset where
  | measured (symbols : Int)
  | burst (symbols : Int)
deriving DecidableEq

namespace TimingOffset

def symbols : TimingOffset → Int
  | measured x => x
  | burst x => x

/-- One octet can carry the offset with its bias of 63. -/
def Fits (o : TimingOffset) : Prop := 0 ≤ 63 + o.symbols ∧ 63 + o.symbols ≤ 255

instance : DecidablePred Fits := fun o => by
  unfold Fits
  infer_instance

/-- The record with the offset, if it fits. -/
def store (m : Measurements) : TimingOffset → Measurements
  | measured x => m.setMsTiming x
  | burst x => m.setAccessOffset x

end TimingOffset

namespace MeasUpdate

/-- The record behind an update. -/
def apply (m : Measurements) : MeasUpdate → Measurements
  | sample x => m.add x
  | delay d => m.setAccessOffset d.toNat
  | header x y => (m.storeL1Header [x, y]).1

def sample? : MeasUpdate → Option UlSample
  | sample x => some ⟨x.taOffset, x.ber10k, x.invRssi⟩
  | _ => none

/-- The offset of an update. Quarter bits are made symbols by rounding towards zero. -/
def offset? : MeasUpdate → Option TimingOffset
  | sample x => some (.measured (x.taOffset.toInt.tdiv 4))
  | delay d => some (.burst d.toNat)
  | header .. => none

def header? : MeasUpdate → Option (UInt8 × UInt8)
  | header x y => some (x, y)
  | _ => none

end MeasUpdate

/-! ### What updates make of a record -/

/-- The latest offset that fits. -/
def latestOffset (us : List MeasUpdate) : Option TimingOffset :=
  ((us.filterMap MeasUpdate.offset?).filter (·.Fits)).getLast?

/-- The header of the latest SACCH frame. -/
def latestHeader (us : List MeasUpdate) : Option (UInt8 × UInt8) :=
  (us.filterMap MeasUpdate.header?).getLast?

namespace Measurements

/-- Of the two fields for an offset the record has the one that `o` names, with its bias of 63, and
not the other. -/
def HoldsOffset (m : Measurements) : Option TimingOffset → Prop
  | none => m.msTimingOffset = none ∧ m.accessOffset = none
  | some (.measured x) =>
    (∃ v, m.msTimingOffset = some v ∧ (v.toNat : Int) = 63 + x) ∧ m.accessOffset = none
  | some (.burst x) =>
    m.msTimingOffset = none ∧ ∃ v, m.accessOffset = some v ∧ (v.toNat : Int) = 63 + x

/-- The record has the header that starts with the octets of a frame. The first octet is the power
level in five bits with the bit of fast power control above it; the record has the level on top. -/
def HoldsHeader (m : Measurements) : Option (UInt8 × UInt8) → Prop
  | none => m.l1Header = none
  | some (x, y) => ∃ u, m.l1Header = some (u, y) ∧
    u.toNat = x.toNat % 32 * 8 + x.toNat / 32 % 2 * 4

/-- The samples of the record are the last ones of `xs`, in order, and all of them up to 104. -/
structure HoldsSamples (m : Measurements) (xs : List UlSample) : Prop where
  suffix : m.samples <:+ xs
  count : m.samples.length = min xs.length 104

/-- The record is what the updates `us` make of an empty one. -/
structure Recorded (us : List MeasUpdate) (m : Measurements) : Prop where
  samples : m.HoldsSamples (us.filterMap MeasUpdate.sample?)
  exclusive : m.msTimingOffset = none ∨ m.accessOffset = none
  offset : m.HoldsOffset (latestOffset us)
  valid : m.l1Header.isSome = true ↔ ∃ x y, .header x y ∈ us
  header : m.HoldsHeader (latestHeader us)

variable {us : List MeasUpdate} {m : Measurements} {u : MeasUpdate} {o : TimingOffset}

/-! ### One update -/

theorem biased?_of_fits (fits : o.Fits) :
    ∃ v, biased? o.symbols = some v ∧ (v.toNat : Int) = 63 + o.symbols := by
  obtain ⟨low, high⟩ := fits
  refine ⟨(o.symbols + 63).toNat.toUInt8, ?_, ?_⟩
  · rw [biased?, offsetBias]
    exact if_pos ⟨by omega, by omega⟩
  · have small : (o.symbols + 63).toNat < 256 := by omega
    rw [UInt8.toNat_ofNat_of_lt' small]
    omega

theorem biased?_of_not_fits (unfit : ¬ o.Fits) : biased? o.symbols = none := by
  rw [biased?, offsetBias]
  refine if_neg fun fits => unfit ?_
  unfold TimingOffset.Fits
  omega

theorem store_of_not_fits (unfit : ¬ o.Fits) : o.store m = m := by
  have none := biased?_of_not_fits unfit
  cases o with
  | measured x =>
    rw [TimingOffset.store, setMsTiming]
    change biased? x = _ at none
    rw [none]
  | burst x =>
    rw [TimingOffset.store, setAccessOffset]
    change biased? x = _ at none
    rw [none]

theorem holdsOffset_store (fits : o.Fits) : (o.store m).HoldsOffset (some o) := by
  obtain ⟨v, stored, value⟩ := biased?_of_fits fits
  cases o with
  | measured x =>
    change biased? x = _ at stored
    rw [TimingOffset.store, setMsTiming, stored]
    exact ⟨⟨v, rfl, value⟩, rfl⟩
  | burst x =>
    change biased? x = _ at stored
    rw [TimingOffset.store, setAccessOffset, stored]
    exact ⟨rfl, v, rfl, value⟩

/-- An offset is stored in the fields for it alone. -/
theorem store_kept (o : TimingOffset) (m : Measurements) :
    (o.store m).samples = m.samples ∧ (o.store m).l1Header = m.l1Header := by
  cases o with
  | measured x =>
    rw [TimingOffset.store, setMsTiming]
    split <;> exact ⟨rfl, rfl⟩
  | burst x =>
    rw [TimingOffset.store, setAccessOffset]
    split <;> exact ⟨rfl, rfl⟩

theorem HoldsOffset.exclusive {o : Option TimingOffset} (h : m.HoldsOffset o) :
    m.msTimingOffset = none ∨ m.accessOffset = none := by
  match o, h with
  | none, h => exact .inl h.1
  | some (.measured _), h => exact .inr h.2
  | some (.burst _), h => exact .inl h.1

/-- After an offset is told, the record holds it if it fits, and what it held if not. -/
theorem HoldsOffset.store (h : m.HoldsOffset (latestOffset us)) (told : u.offset? = some o) :
    (o.store m).HoldsOffset (latestOffset (us ++ [u])) := by
  rw [latestOffset, List.filterMap_append, List.filter_append]
  simp only [List.filterMap_cons, told, List.filterMap_nil]
  by_cases fits : o.Fits
  · rw [List.filter_cons_of_pos (by simpa using fits), List.filter_nil, List.getLast?_concat]
    exact holdsOffset_store fits
  · rw [List.filter_cons_of_neg (by simpa using fits), List.filter_nil, List.append_nil,
      store_of_not_fits fits]
    exact h

theorem latestOffset_snoc_of_none (untold : u.offset? = none) :
    latestOffset (us ++ [u]) = latestOffset us := by
  rw [latestOffset, List.filterMap_append]
  simp [untold, latestOffset]

theorem toNat_rslPower (x : UInt8) :
    (rslPower x).toNat = x.toNat % 32 * 8 + x.toNat / 32 % 2 * 4 := by
  have every : ∀ i : Fin 256, (rslPower (.ofFin i)).toNat = i.val % 32 * 8 + i.val / 32 % 2 * 4 := by
    decide +kernel
  exact every x.toFin

theorem HoldsOffset.apply (h : m.HoldsOffset (latestOffset us)) (u : MeasUpdate) :
    (u.apply m).HoldsOffset (latestOffset (us ++ [u])) := by
  cases u with
  | sample x =>
    have pushed : (m.push ⟨x.taOffset, x.ber10k, x.invRssi⟩).HoldsOffset (latestOffset us) := h
    have told : (MeasUpdate.sample x).offset? = some (.measured (x.taOffset.toInt.tdiv 4)) := rfl
    exact pushed.store told
  | delay d =>
    have told : (MeasUpdate.delay d).offset? = some (.burst d.toNat) := rfl
    have applied : (MeasUpdate.delay d).apply m = TimingOffset.store m (.burst d.toNat) := rfl
    rw [applied]
    exact h.store told
  | header x y =>
    rw [latestOffset_snoc_of_none rfl]
    exact h

/-- One more sample: the oldest one makes room for it when there are 104. -/
theorem HoldsSamples.push {xs : List UlSample} (h : m.HoldsSamples xs) (s : UlSample) :
    (m.push s).HoldsSamples (xs ++ [s]) := by
  have count := h.count
  by_cases full : maxSamples ≤ m.samples.length
  · have pushed : (m.push s).samples = m.samples.tail ++ [s] := by rw [Measurements.push, if_pos full]
    obtain ⟨early, whole⟩ := (List.tail_suffix m.samples).trans h.suffix
    refine ⟨⟨early, by rw [pushed, ← List.append_assoc, whole]⟩, ?_⟩
    rw [pushed, List.length_append, List.length_append, List.length_tail, List.length_singleton]
    unfold maxSamples at full
    omega
  · have pushed : (m.push s).samples = m.samples ++ [s] := by rw [Measurements.push, if_neg full]
    obtain ⟨early, whole⟩ := h.suffix
    refine ⟨⟨early, by rw [pushed, ← List.append_assoc, whole]⟩, ?_⟩
    rw [pushed, List.length_append, List.length_append, List.length_singleton]
    unfold maxSamples at full
    omega

theorem HoldsSamples.congr {m' : Measurements} {xs : List UlSample} (h : m.HoldsSamples xs)
    (same : m'.samples = m.samples) : m'.HoldsSamples xs :=
  ⟨same ▸ h.suffix, same ▸ h.count⟩

theorem HoldsSamples.apply (h : m.HoldsSamples (us.filterMap MeasUpdate.sample?)) (u : MeasUpdate) :
    (u.apply m).HoldsSamples ((us ++ [u]).filterMap MeasUpdate.sample?) := by
  rw [List.filterMap_append]
  cases u with
  | sample x => exact (h.push _).congr (store_kept (.measured _) _).1
  | delay d =>
    rw [show [MeasUpdate.delay d].filterMap MeasUpdate.sample? = [] from rfl, List.append_nil]
    exact h.congr (store_kept (.burst _) _).1
  | header x y =>
    rw [show [MeasUpdate.header x y].filterMap MeasUpdate.sample? = [] from rfl, List.append_nil]
    exact h.congr rfl

theorem HoldsHeader.congr {m' : Measurements} {d : Option (UInt8 × UInt8)} (h : m.HoldsHeader d)
    (same : m'.l1Header = m.l1Header) : m'.HoldsHeader d := by
  match d, h with
  | none, h => exact same.trans h
  | some (x, y), ⟨u, held, value⟩ => exact ⟨u, same.trans held, value⟩

theorem latestHeader_snoc_of_none (untold : u.header? = none) :
    latestHeader (us ++ [u]) = latestHeader us := by
  rw [latestHeader, List.filterMap_append]
  simp [untold, latestHeader]

theorem HoldsHeader.apply (h : m.HoldsHeader (latestHeader us)) (u : MeasUpdate) :
    (u.apply m).HoldsHeader (latestHeader (us ++ [u])) := by
  cases u with
  | sample x =>
    rw [latestHeader_snoc_of_none rfl]
    have pushed : (m.push ⟨x.taOffset, x.ber10k, x.invRssi⟩).HoldsHeader (latestHeader us) := h
    exact pushed.congr (store_kept (.measured _) _).2
  | delay d =>
    rw [latestHeader_snoc_of_none rfl]
    exact h.congr (store_kept (.burst _) _).2
  | header x y =>
    have latest : latestHeader (us ++ [.header x y]) = some (x, y) := by
      rw [latestHeader, List.filterMap_append]
      exact List.getLast?_concat
    rw [latest]
    exact ⟨rslPower x, rfl, toNat_rslPower x⟩

theorem HoldsHeader.isSome_iff {d : Option (UInt8 × UInt8)} (h : m.HoldsHeader d) :
    m.l1Header.isSome = d.isSome := by
  match d, h with
  | none, h => exact congrArg Option.isSome h
  | some (x, y), ⟨u, held, _⟩ => rw [held, Option.isSome_some, Option.isSome_some]

theorem isSome_latestHeader :
    (latestHeader us).isSome = true ↔ ∃ x y, .header x y ∈ us := by
  rw [latestHeader, Option.isSome_iff_ne_none, ne_eq, List.getLast?_eq_none_iff,
    List.filterMap_eq_nil_iff]
  constructor
  · intro some
    by_contra none
    refine some fun u hu => ?_
    cases u with
    | header x y => exact absurd ⟨x, y, hu⟩ none
    | sample | delay => rfl
  · rintro ⟨x, y, mem⟩ none
    exact nomatch none _ mem

/-- The record behind the updates `us` of an empty one. -/
def after (us : List MeasUpdate) : Measurements := us.foldl MeasUpdate.apply .empty

theorem after_snoc (us : List MeasUpdate) (u : MeasUpdate) : after (us ++ [u]) = u.apply (after us) :=
  List.foldl_concat _ _ _ _

theorem recorded_after (us : List MeasUpdate) : Recorded us (after us) := by
  have held : (after us).HoldsSamples (us.filterMap MeasUpdate.sample?) ∧
      (after us).HoldsOffset (latestOffset us) ∧ (after us).HoldsHeader (latestHeader us) := by
    induction us using List.reverseRecOn with
    | nil => exact ⟨⟨List.suffix_rfl, rfl⟩, ⟨rfl, rfl⟩, rfl⟩
    | append_singleton us u ih =>
      rw [after_snoc]
      exact ⟨ih.1.apply u, ih.2.1.apply u, ih.2.2.apply u⟩
  obtain ⟨samples, offset, header⟩ := held
  exact ⟨samples, offset.exclusive, offset, by rw [header.isSome_iff, isSome_latestHeader], header⟩

end Measurements

namespace Bridge

variable {σ φ : Type} {site : Site σ φ} {w : World σ φ} {b b' : Bts} {trx n : UInt8} {id : LchanId}
  {l l' : Lchan} {r : Except Failure Unit} {es : List Event} {t : Turn} {ts : List Turn}
  {u : MeasUpdate}

/-! ### The update of a turn -/

/-- The update that a move makes to the record of the channel `id`, whose record is `l`: a
measurement or a SACCH frame of the active channel, outside packet mode, or an access burst that is
not late. -/
def Move.measUpdate? (site : Site σ φ) (b : Bts) (id : LchanId) (l : Lchan) :
    Move → Option MeasUpdate
  | .input (.up trx (.mphInfoInd (.measured x))) _ =>
    if b.locate? trx x.chanNr = some id ∧ l.isActive = true ∧ l.type ≠ .pdtch then
      some (.sample x)
    else none
  | .input (.up trx (.phRachInd p)) _ =>
    if p.route trx site.settings.maxTa ≠ .discard ∧ b.locate? trx p.chanNr = some id then
      some (.delay p.delay)
    else none
  | .input (.up trx (.phDataInd d)) _ =>
    if ¬ onPacketSlot b trx d.chanNr ∧ b.locate? trx d.chanNr = some id ∧ l.isActive = true ∧
        isSacchLink d.linkId = true ∧ 2 ≤ d.frame.l2Length then
      match d.frame.octets with
      | x :: y :: _ => some (.header x y)
      | _ => none
    else none
  | _ => none

/-- The update that a turn makes to the measurement record of a channel. -/
def Turn.measUpdate? (site : Site σ φ) (id : LchanId) (t : Turn) : Option MeasUpdate :=
  (t.before.lchan? id).bind fun l => t.move.measUpdate? site t.before id l

/-- The updates since the last release of the channel. -/
def measUpdates (site : Site σ φ) (id : LchanId) (ts : List Turn) : List MeasUpdate :=
  (ts.rtakeWhile fun t => ¬ t.Releases id).filterMap (Turn.measUpdate? site id)

/-- What a turn does to the measurement record of a channel. -/
inductive MeasTurn (site : Site σ φ) (id : LchanId) (t : Turn) (l l' : Lchan) : Prop
  | kept (silent : t.measUpdate? site id = none) (unreleased : ¬ t.Releases id)
      (same : l'.meas = l.meas)
  | updated {u : MeasUpdate} (told : t.measUpdate? site id = some u)
      (unreleased : ¬ t.Releases id) (update : l'.meas = u.apply l.meas)
  | cleared (silent : t.measUpdate? site id = none) (released : t.Releases id)
      (empty : l'.meas = .empty)

/-- The party that ends measurement periods answers with the record it is given. -/
def MeasAnswered (es : List Event) : Prop :=
  ∀ j m fn a, .call (.measure j m fn) a ∈ es → a = m

theorem MeasTurn.same (known : t.before.lchan? id = some l)
    (silent : t.move.measUpdate? site t.before id l = none) (unreleased : ¬ t.Releases id)
    (same : l'.meas = l.meas) : MeasTurn site id t l l' :=
  .kept (by rw [Turn.measUpdate?, known, Option.bind_some, silent]) unreleased same

theorem MeasTurn.update (known : t.before.lchan? id = some l)
    (told : t.move.measUpdate? site t.before id l = some u) (unreleased : ¬ t.Releases id)
    (update : l'.meas = u.apply l.meas) : MeasTurn site id t l l' :=
  .updated (by rw [Turn.measUpdate?, known, Option.bind_some, told]) unreleased update

/-! ### On the air -/

section Outcomes

variable (known : b.lchan? id = some l) (after : b'.lchan? id = some l')

/-- The measurement record after a change of another channel or of other fields. -/
theorem meas_setLchan {j : LchanId} {k x : Lchan} (known : b.lchan? id = some l)
    (found : b.findActive? trx n = some (j, k)) (after : (b.setLchan j x).lchan? id = some l')
    (same : x.meas = k.meas) : l'.meas = l.meas :=
  kept_of_setLchan Lchan.meas known found after same

include known after

theorem CircuitBlock.meas {p : PhRts} {kind : ChanKind} {g : Frame} {q : Option CipherRequest}
    (block : CircuitBlock site trx p b kind g q b' es) : l'.meas = l.meas := by
  cases block with
  | filling _ found => exact meas_setLchan known found after rfl
  | @main _ j k _ found link g =>
    obtain ⟨c, ns, h⟩ := checkDownlink_eq k p.chanNr g.octets
    exact meas_setLchan known found after (by rw [h])
  | _ =>
    cases known.symm.trans after
    rfl

theorem RtsOutcome.meas {p : PhRts} (h : RtsOutcome site trx p b r b' es) : l'.meas = l.meas := by
  cases h with
  | looped _ _ _ found => exact meas_setLchan known found after rfl
  | circuit _ _ _ block => exact block.meas known after
  | _ =>
    cases known.symm.trans after
    rfl

theorem TchRtsOutcome.meas {p : TchRts} (h : TchRtsOutcome trx p b r b' es) :
    l'.meas = l.meas := by
  cases h with
  | active _ found => exact meas_setLchan known found after rfl
  | _ =>
    cases known.symm.trans after
    rfl

theorem TchOutcome.meas {d : TchData} (h : TchOutcome site trx d b r b' es) :
    l'.meas = l.meas := by
  cases h with
  | looped _ found => exact meas_setLchan known found after rfl
  | taken _ found => exact meas_setLchan known found after rfl
  | _ =>
    cases known.symm.trans after
    rfl

theorem TimeOutcome.meas {fn : UInt32} (h : TimeOutcome site trx fn b r b' es) :
    l'.meas = l.meas := by
  cases h <;> cases known.symm.trans after <;> rfl

theorem MeasuredOutcome.measTurn {x : Measured}
    {o : (Input.up trx (.mphInfoInd (.measured x))).isDown = false}
    (h : MeasuredOutcome trx x b r b' es) (answered : MeasAnswered es)
    (unreleased : ¬ Turn.Releases id ⟨b, .input (.up trx (.mphInfoInd (.measured x))) o, r, es, b'⟩) :
    MeasTurn site id ⟨b, .input (.up trx (.mphInfoInd (.measured x))) o, r, es, b'⟩ l l' := by
  cases h with
  | unknownTrx unknown =>
    cases known.symm.trans after
    exact .same known (if_neg fun h => Bts.not_located_of_carrier unknown h.1) unreleased rfl
  | inactive _ free =>
    cases known.symm.trans after
    refine .same known (if_neg fun h => ?_) unreleased rfl
    cases free.symm.trans (findActive?_of_located known h.1 h.2.1)
  | packet _ found packet =>
    cases known.symm.trans after
    refine .same known (if_neg fun h => ?_) unreleased rfl
    cases found.symm.trans (findActive?_of_located known h.1 h.2.1)
    exact h.2.2 packet
  | measured _ found circuit answer =>
    rcases active_here_or_not known found with ⟨rfl, rfl, located, active, h⟩ | ⟨elsewhere, ne, h⟩
    · cases (h _).symm.trans after
      exact .update known (if_pos ⟨located, active, circuit⟩) unreleased
        (answered _ _ _ _ (List.mem_singleton_self _))
    · cases (h _).symm.trans after
      exact .same known (if_neg fun h => Bts.not_located_of_other elsewhere ne h.1) unreleased rfl

theorem DataOutcome.measTurn {d : PhData} {o : (Input.up trx (.phDataInd d)).isDown = false}
    (h : DataOutcome site trx d b r b' es)
    (unreleased : ¬ Turn.Releases id ⟨b, .input (.up trx (.phDataInd d)) o, r, es, b'⟩) :
    MeasTurn site id ⟨b, .input (.up trx (.phDataInd d)) o, r, es, b'⟩ l l' := by
  -- three reasons for which the block updates nothing
  have packet {c : Carrier} (carrier : b.carrier? trx = some c)
      (packet : (c.slotOf d.chanNr).isPdch = true) (same : l'.meas = l.meas) :
      MeasTurn site id ⟨b, .input (.up trx (.phDataInd d)) o, r, es, b'⟩ l l' :=
    .same known (if_neg fun h => h.1 ⟨c, carrier, packet⟩) unreleased same
  have mainLink (link : isSacchLink d.linkId = false) (same : l'.meas = l.meas) :
      MeasTurn site id ⟨b, .input (.up trx (.phDataInd d)) o, r, es, b'⟩ l l' :=
    .same known (if_neg fun h => by rw [link] at h; exact nomatch h.2.2.2.1) unreleased same
  have short (short : d.frame.l2Length < 2) (same : l'.meas = l.meas) :
      MeasTurn site id ⟨b, .input (.up trx (.phDataInd d)) o, r, es, b'⟩ l l' :=
    .same known (if_neg fun h => Nat.not_le_of_lt short h.2.2.2.2) unreleased same
  cases h with
  | unknownTrx unknown =>
    cases known.symm.trans after
    exact .same known (if_neg fun h => Bts.not_located_of_carrier unknown h.2.1) unreleased rfl
  | looped carrier mode found =>
    refine packet carrier mode ?_
    rcases found_here_or_not known found with ⟨rfl, rfl, -, h⟩ | ⟨-, -, h⟩ <;>
      cases (h _).symm.trans after <;> rfl
  | packetBad carrier mode | packetPartial carrier mode | packetData carrier mode =>
    cases known.symm.trans after
    exact packet carrier mode rfl
  | inactive _ _ free =>
    cases known.symm.trans after
    refine .same known (if_neg fun h => ?_) unreleased rfl
    cases free.symm.trans (findActive?_of_located known h.2.1 h.2.2.1)
  | badMain _ _ _ link =>
    cases known.symm.trans after
    exact mainLink link rfl
  | @badSacch c j k _ _ found _ bad =>
    obtain ⟨s, h⟩ := supervised_eq site k true
    refine short ?_ (meas_setLchan known found after (by rw [h]))
    have none : d.frame.octets.length = 0 := by
      rw [List.length_eq_zero_iff, ← List.isEmpty_iff]
      exact bad
    rw [Frame.l2Length]
    omega
  | @main c j k _ _ found link =>
    obtain ⟨x, h⟩ := checkUplink_eq { k with handover := .none } d.chanNr d.frame.l2
    exact mainLink link (meas_setLchan known found after (by rw [h]))
  | @shortSacch c j k _ _ found _ _ few =>
    obtain ⟨s, h⟩ := supervised_eq site { k with handover := .none } false
    exact short few (meas_setLchan known found after (by rw [h]))
  -- a whole SACCH block: its header is stored if the channel is the one that is followed
  | @sacch c j k k' carrier mode found link _ long level answer header =>
    obtain ⟨s, hs⟩ := supervised_eq site { k with handover := .none } false
    obtain ⟨z, h⟩ := checkUplink_eq k' d.chanNr (sacchMarked d).frame.l2
    obtain ⟨x, y, body, octets, l1, -⟩ := sacchMarked_parts long
    rcases active_here_or_not known found with ⟨rfl, rfl, located, active, now⟩ | ⟨elsewhere, ne, now⟩
    · cases (now _).symm.trans after
      have told : Move.measUpdate? site b j k (.input (.up trx (.phDataInd d)) o) =
          some (.header x y) := by
        rw [Move.measUpdate?, if_pos ⟨not_onPacketSlot carrier mode, located, active, link, long⟩,
          octets]
      refine .update known told unreleased ?_
      rw [h, header, hs, l1]
      rfl
    · cases (now _).symm.trans after
      exact .same known (if_neg fun h => Bts.not_located_of_other elsewhere ne h.2.1) unreleased rfl

theorem StepOutcome.measTurn {i : Input} {o : i.isDown = false}
    (air : Move.OnAir (.input i o)) (h : StepOutcome site b i r b' es) (answered : MeasAnswered es)
    (unreleased : ¬ Turn.Releases id ⟨b, .input i o, r, es, b'⟩) :
    MeasTurn site id ⟨b, .input i o, r, es, b'⟩ l l' := by
  cases h with
  | rts outcome => exact .same known rfl unreleased (outcome.meas known after)
  | tchRts outcome => exact .same known rfl unreleased (outcome.meas known after)
  | data outcome => exact outcome.measTurn known after unreleased
  | tch outcome => exact .same known rfl unreleased (outcome.meas known after)
  | time outcome => exact .same known rfl unreleased (outcome.meas known after)
  | measured outcome => exact outcome.measTurn known after answered unreleased
  | @indicated _ i other =>
    cases known.symm.trans after
    cases i with
    | measured => exact nomatch other
    | _ => exact .same known rfl unreleased rfl
  | @unknown _ p request =>
    cases p with
    | phDataReq | tchReq | mphInfoReq => exact air.elim
    | _ => cases request
  | _ => cases air

end Outcomes

/-! ### Turns -/

theorem Move.measUpdate?_of_unreached {m : Move} (off : ¬ m.OnAir)
    (unreached : ¬ m.Reaches site b id l) : m.measUpdate? site b id l = none := by
  unfold Move.measUpdate?
  split
  · exact absurd trivial off
  · exact if_neg unreached
  · exact absurd trivial off
  · rfl

theorem Move.measUpdate?_of_asked {m : Move} (asked : m.activates trx n ∨ m.releases trx n) :
    m.measUpdate? site b id l = none := by
  obtain ⟨_, _, rfl⟩ | ⟨_, rfl⟩ | ⟨_, _, _, rfl⟩ := Move.asked_cases asked <;> rfl

theorem meas_delayStored (p : PhRach) (l : Lchan) :
    (delayStored p l).meas = (MeasUpdate.delay p.delay).apply l.meas := by
  rw [delayStored, MeasUpdate.apply]

/-- What is not on the air updates a record by the delay of an access burst alone. -/
theorem Turn.Takes.measTurn_off (h : t.Takes site id l l') (off : ¬ t.move.OnAir)
    (unreleased : ¬ t.Releases id) : MeasTurn site id t l l' := by
  obtain ⟨known, -, -, move⟩ := h
  obtain ⟨before, m, res, events, after⟩ := t
  dsimp only at move off known
  cases move with
  | filled air | echoed _ air | voiced air | lost air | shortened air | voiceKept _ air
  | voiceTaken _ air | measured air => exact absurd air off
  | echoKept | sent | received | sacchReceived => exact absurd trivial off
  | keep unreached => exact .same known (Move.measUpdate?_of_unreached off unreached) unreleased rfl
  -- bursts bring their delay, whether or not they come with a handover
  | @accessed _ p _ _ route located =>
    exact .update known (if_pos ⟨route, located⟩) unreleased (meas_delayStored p l)
  | @handover trx p _ route located taken =>
    have inTime : p.route trx site.settings.maxTa ≠ .discard := by rw [route]; exact nofun
    refine .update known (if_pos ⟨inTime, located⟩) unreleased (Eq.trans ?_ (meas_delayStored p l))
    split <;> simp only
  | released => exact absurd (by simp [Turn.Releases, releasesDone, Event.released?]) unreleased
  | @cipherConfirmed _ c =>
    obtain ⟨k, h⟩ := confirmCipher_eq l c
    exact .same known rfl unreleased (by rw [h])
  | refused asked => exact .same known (Move.measUpdate?_of_asked (.inl asked)) unreleased rfl
  | requested asked _ type handle =>
    obtain ⟨d, h⟩ := allocated_eq site type handle (activating site type l)
    exact .same known (Move.measUpdate?_of_asked (.inl asked)) unreleased (by rw [h]; rfl)
  | releaseAsked asked => exact .same known (Move.measUpdate?_of_asked (.inr asked)) unreleased rfl
  | @queued f =>
    obtain ⟨q, h⟩ := voiceReceived_eq f l
    exact .same known rfl unreleased (by rw [h])
  | @written x => exact .same known rfl unreleased (by cases x <;> rfl)
  | activated | sacchDown | sacchStopped => exact .same known rfl unreleased rfl

/-- Each turn does one of these to the measurement record of a channel. -/
theorem Turn.Takes.measTurn (h : t.Takes site id l l') (answered : MeasAnswered t.events) :
    MeasTurn site id t l l' := by
  rcases h.completes with unreleased | completes
  · by_cases air : t.move.OnAir
    · obtain ⟨known, after, lawful, -⟩ := h
      obtain ⟨before, m, res, events, last⟩ := t
      cases m with
      | input i o => exact StepOutcome.measTurn known after air lawful answered unreleased
      | write => exact air.elim
    · exact h.measTurn_off air unreleased
  · obtain ⟨⟨trx, c, o, move, -⟩, -, record, -⟩ := completes
    by_cases released : t.Releases id
    · refine .cleared ?_ released (by rw [record]; rfl)
      rw [Turn.measUpdate?, h.before, Option.bind_some, move]
      rfl
    · exact h.measTurn_off (by rw [move]; exact not_false) released

/-! ### Runs -/

theorem measUpdates_snoc_of_releases (released : t.Releases id) :
    measUpdates site id (ts ++ [t]) = [] := by
  rw [measUpdates, List.rtakeWhile_concat_neg _ _ _ (by simpa using released)]
  rfl

theorem measUpdates_snoc (unreleased : ¬ t.Releases id) : measUpdates site id (ts ++ [t]) =
    measUpdates site id ts ++ (t.measUpdate? site id).toList := by
  rw [measUpdates, List.rtakeWhile_concat_pos _ _ _ (by simpa using unreleased),
    List.filterMap_append, measUpdates]
  cases h : t.measUpdate? site id <;> simp [h]

/-- In a run the record of a channel is what the updates since its last release make of an empty
one. -/
theorem Track.meas (track : Track site id l ts l') (empty : l.meas = .empty)
    (answered : ∀ t ∈ ts, MeasAnswered t.events) :
    l'.meas = Measurements.after (measUpdates site id ts) := by
  induction ts using List.reverseRecOn generalizing l' with
  | nil =>
    rw [← Track.nil_iff.mp track, empty]
    rfl
  | append_singleton ts t ih =>
    obtain ⟨k, before, last⟩ := Track.append_iff.mp track
    have held := ih before fun s hs => answered s (List.mem_append_left _ hs)
    cases (Track.singleton_iff.mp last).measTurn (answered t (by simp)) with
    | kept silent unreleased same =>
      rw [measUpdates_snoc unreleased, silent, same, held]
      simp
    | updated told unreleased update =>
      rw [measUpdates_snoc unreleased, told, update, held]
      exact (Measurements.after_snoc _ _).symm
    | cleared _ released clear =>
      rw [measUpdates_snoc_of_releases released, clear]
      rfl

/-- A party answers each call from some state of its own. -/
theorem Answers.of_mem {s s' : σ} {p p' : φ} {c : Call} {a : c.Answer}
    (h : Answers site s p es s' p') (mem : .call c a ∈ es) :
    ∃ s, a = (site.services.answer c s).1 := by
  induction h with
  | nil => exact nomatch mem
  | @call s _ _ _ _ c' _ ih =>
    rcases List.mem_cons.mp mem with first | later
    · cases first
      exact ⟨s, rfl⟩
    · exact ih later
  | down _ _ _ ih =>
    rcases List.mem_cons.mp mem with first | later
    · exact nomatch first
    · exact ih later
  | disconnect _ _ _ ih =>
    rcases List.mem_cons.mp mem with first | later
    · exact nomatch first
    · exact ih later

theorem measAnswered_of_mem_history {ms : List Move}
    (keeps : ∀ j m fn s, (site.services.answer (.measure j m fn) s).1 = m)
    (ht : t ∈ history site w ms) : MeasAnswered t.events := by
  induction ms generalizing w with
  | nil => exact nomatch ht
  | cons m ms ih =>
    rcases List.mem_cons.mp ht with rfl | later
    · intro j x fn a mem
      cases m with
      | write j x =>
        rw [(lawful_turnOf site w (.write j x)).2.2] at mem
        exact nomatch mem
      | input i o =>
        obtain ⟨es, trace, -, answers⟩ := step_answered site i w
        have events : (turnOf site w (.input i o)).events = es := by
          simp [turnOf, takeTurn, trace]
        rw [events] at mem
        obtain ⟨s, answer⟩ := answers.of_mem mem
        rw [answer]
        exact keeps j x fn s
    · exact ih later

/-- A record that is told an offset that does not fit keeps what it held, and takes the sample. -/
theorem Measurements.apply_of_not_fits {m : Measurements} {o : TimingOffset}
    (told : u.offset? = some o) (unfit : ¬ o.Fits) :
    (u.apply m).msTimingOffset = m.msTimingOffset ∧ (u.apply m).accessOffset = m.accessOffset ∧
      ∀ s, u.sample? = some s → (u.apply m).samples.getLast? = some s := by
  cases u with
  | sample x =>
    cases told
    have left := Measurements.store_of_not_fits (m := m.push ⟨x.taOffset, x.ber10k, x.invRssi⟩) unfit
    have pushed : (MeasUpdate.sample x).apply m = m.push ⟨x.taOffset, x.ber10k, x.invRssi⟩ := left
    rw [pushed]
    refine ⟨rfl, rfl, fun s hs => ?_⟩
    cases hs
    exact List.getLast?_concat
  | delay d =>
    cases told
    have applied : (MeasUpdate.delay d).apply m = TimingOffset.store m (.burst d.toNat) := rfl
    rw [applied, Measurements.store_of_not_fits unfit]
    exact ⟨rfl, rfl, nofun⟩
  | header => exact nomatch told

/-- The measurement record of every channel, behind every run: where the party that ends
measurement periods leaves the record as it is, the record holds the last 104 samples, the latest
offset that fits and the latest header since the last release of the channel. An offset that does
not fit leaves both fields as they are, and its sample is recorded all the same. -/
theorem measurements_recorded (site : Site σ φ) (c : Config) (filter : Capture.Filter)
    (services : σ) (phy : φ) (ms : List Move) {id : LchanId} {l₀ : Lchan}
    (known : (Bts.ofConfig c).lchan? id = some l₀)
    (keeps : ∀ j m fn s, (site.services.answer (.measure j m fn) s).1 = m) :
    (∃ l, (run site (.fresh c filter services phy) ms).bts.lchan? id = some l ∧
      l.meas.Recorded (measUpdates site id (history site (.fresh c filter services phy) ms))) ∧
    ∀ t ∈ history site (.fresh c filter services phy) ms, ∀ l u o,
      t.before.lchan? id = some l → t.measUpdate? site id = some u → u.offset? = some o →
      ¬ o.Fits → ∃ l', t.after.lchan? id = some l' ∧
        l'.meas.msTimingOffset = l.meas.msTimingOffset ∧
        l'.meas.accessOffset = l.meas.accessOffset ∧
        ∀ s, u.sample? = some s → l'.meas.samples.getLast? = some s := by
  have answered : ∀ t ∈ history site (.fresh c filter services phy) ms, MeasAnswered t.events :=
    fun t ht => measAnswered_of_mem_history keeps ht
  constructor
  · obtain ⟨l, now, track⟩ := track_history site (w := .fresh c filter services phy) ms known
    obtain ⟨type, fresh⟩ := Bts.lchan?_ofConfig known
    -- a new record is what no updates make
    have empty : l₀.meas = .empty := by rw [fresh]; rfl
    refine ⟨l, now, ?_⟩
    rw [track.meas empty answered]
    exact Measurements.recorded_after _
  · intro t ht l u o before told offset unfit
    obtain ⟨l', takes⟩ := takes_of_lawful (lawful_of_mem_history ht) before
    refine ⟨l', takes.after, ?_⟩
    cases takes.measTurn (answered t ht) with
    | kept silent | cleared silent => exact nomatch silent.symm.trans told
    | updated told' _ update =>
      cases told'.symm.trans told
      rw [update]
      exact Measurements.apply_of_not_fits offset unfit

/-- A measurement of a traffic channel with the given offset in quarter bits. -/
def trafficMeasured (taOffset : Int16) : Measured := ⟨0x09, 0, taOffset, 0, 60⟩

/-- A connection on a traffic channel with two measurements, the second of them out of range. -/
def measuredMoves : List Move := [
  .chanAct 0 0x09 none,
  .up 0 (.mphInfoCnf (.activateCnf ⟨0x09, 0⟩)),
  .up 0 (.mphInfoInd (.measured (trafficMeasured (-7)))),
  .up 0 (.mphInfoInd (.measured (trafficMeasured 800)))]

/-- Seven quarter bits early are one symbol; 200 symbols late are too many, but the sample of that
measurement is there. -/
theorem measurements_of_connection :
    ∃ l, (run scriptedSite (scriptedWorld .fresh) measuredMoves).bts.lchan? ⟨0, 1, 0⟩ = some l ∧
      l.meas.samples = [⟨-7, 0, 60⟩, ⟨800, 0, 60⟩] ∧ l.meas.msTimingOffset = some 62 := by
  have known : (Bts.ofConfig scriptedConfig).lchan? ⟨0, 1, 0⟩ = some (.fresh ⟨0, 1, 0⟩ .tchF) := by
    decide +kernel
  have updates : measUpdates scriptedSite ⟨0, 1, 0⟩
      (history scriptedSite (scriptedWorld .fresh) measuredMoves) =
        [.sample (trafficMeasured (-7)), .sample (trafficMeasured 800)] := by
    decide +kernel
  obtain ⟨l, now, recorded⟩ := (measurements_recorded scriptedSite scriptedConfig .empty .fresh
    .accepting measuredMoves known fun _ _ _ _ => rfl).1
  have recorded : l.meas.Recorded [.sample (trafficMeasured (-7)), .sample (trafficMeasured 800)] :=
    updates ▸ recorded
  refine ⟨l, now, recorded.samples.suffix.eq_of_length recorded.samples.count, ?_⟩
  have latest : latestOffset [.sample (trafficMeasured (-7)), .sample (trafficMeasured 800)] =
      some (.measured (-1)) := by decide +kernel
  have offset := recorded.offset
  rw [latest] at offset
  obtain ⟨⟨v, held, value⟩, -⟩ := offset
  rw [held, UInt8.toNat_inj.mp (show v.toNat = (62 : UInt8).toNat by simp; omega)]

end Bridge
end BaseStation
