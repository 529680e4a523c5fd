import BaseStation.Proofs.Bridge.Run

/-!
What a capture datagram tells of the air. The header of a datagram is read back octet by octet:
timeslot, frame number, category and subslot of what was heard, with its octets behind the header.
Direction and carrier number share one word, and what becomes of them depends on the bit that a
carrier number has at the place of the uplink flag; no rule of validity looks at that bit.
-/

namespace BaseStation

/-! ### Words and headers in octets -/

namespace Gsmtap

theorem word16_octets (x : UInt16) : word16 (x >>> 8).toUInt8 x.toUInt8 = x := by
  apply UInt16.toBitVec_inj.mp
  apply BitVec.eq_of_getLsbD_eq
  intro i hi
  simp only [word16, UInt16.toBitVec_or, UInt16.toBitVec_shiftLeft, UInt8.toBitVec_toUInt16,
    UInt16.toBitVec_toUInt8, UInt16.toBitVec_shiftRight, BitVec.getLsbD_or]
  simp
  grind

theorem word32_octets (x : UInt32) :
    word32 (x >>> 24).toUInt8 (x >>> 16).toUInt8 (x >>> 8).toUInt8 x.toUInt8 = x := by
  apply UInt32.toBitVec_inj.mp
  apply BitVec.eq_of_getLsbD_eq
  intro i hi
  simp only [word32, UInt32.toBitVec_or, UInt32.toBitVec_shiftLeft, UInt8.toBitVec_toUInt32,
    UInt32.toBitVec_toUInt8, UInt32.toBitVec_shiftRight, BitVec.getLsbD_or]
  simp
  grind

namespace Header

/-- A header is read back from the datagram that it leads. -/
theorem parse_encapsulate (h : Header) (payload : List UInt8) :
    parse (h.encapsulate payload) = .ok h := by
  simp only [encapsulate, toOctets, octets16, octets32, List.cons_append, List.nil_append, parse,
    ne_eq, not_true_eq_false, if_false, word16_octets, word32_octets, Int8.toInt8_toUInt8]

theorem length_toOctets (h : Header) : h.toOctets.length = headerLength := rfl

theorem drop_encapsulate (h : Header) (payload : List UInt8) :
    (h.encapsulate payload).drop headerLength = payload :=
  List.drop_left' h.length_toOctets

/-- The direction that a header tells: the frame came from a mobile station. -/
def fromMobile (h : Header) : Bool := h.arfcn &&& uplinkFlag != 0

/-- The carrier number that a header tells. -/
def carrier (h : Header) : UInt16 := h.arfcn &&& ~~~uplinkFlag

end Header

/-! ### The flag in the carrier word -/

theorem or_flag (x : UInt16) : (x ||| uplinkFlag) &&& uplinkFlag = uplinkFlag := by
  apply UInt16.toBitVec_inj.mp
  ext i
  simp
  grind

theorem clear_or_flag (x : UInt16) :
    (x ||| uplinkFlag) &&& ~~~uplinkFlag = x &&& ~~~uplinkFlag := by
  apply UInt16.toBitVec_inj.mp
  ext i
  simp
  grind

theorem clear_eq_self_iff (x : UInt16) : x &&& ~~~uplinkFlag = x ↔ x &&& uplinkFlag = 0 := by
  simp only [← UInt16.toBitVec_inj, BitVec.eq_of_getLsbD_eq_iff]
  simp
  grind

end Gsmtap

/-! ### Carrier numbers and validity -/

/-- The configuration with other numbers for its carriers. -/
def Config.renumber (c : Config) (number : UInt16 → UInt16) : Config :=
  { c with carriers := c.carriers.map fun k => { k with arfcn := number k.arfcn } }

/-- No rule of validity looks at the numbers of the carriers. -/
theorem Config.validate_renumber (c : Config) (number : UInt16 → UInt16) :
    (c.renumber number).validate = c.validate := by
  have carriers : validateCarriers c.cell.ccchConf (c.renumber number).carriers =
      validateCarriers c.cell.ccchConf c.carriers := by
    unfold renumber
    cases c.carriers with
    | nil => rfl
    | cons k ks => simp [validateCarriers, List.all_map, Function.comp_def]
  exact congrArg (fun r => c.backend.validate >>= fun _ => c.cell.validate >>= fun _ => r) carriers

namespace Capture

open Gsmtap
open Bridge (scriptedConfig)

/-! ### Sightings -/

/-- What capture gets to see on a carrier: a block received or sent, with the mode of its timeslot
and the number of blocks for access grants, or an access burst. -/
inductive Sighting where
  | received (d : PhData) (pdch : Bool) (numAgch : Nat)
  | sent (d : PhData) (pdch : Bool) (numAgch : Nat)
  | burst (p : PhRach)

/-- Category and subslot of a block. -/
def blockCategory (d : PhData) (pdch : Bool) (numAgch : Nat) : UInt8 × UInt8 :=
  if pdch then
    if isPtcch d.fn.toNat then (Channel.code .ptcch, (ptcchBlock d.fn.toNat).toUInt8)
    else (Channel.code .pacch, 0)
  else classify d.chanNr d.linkId d.fn.toNat numAgch

namespace Sighting

def record? (arfcn : UInt16) : Sighting → Option Record
  | received d pdch numAgch => dataRecord? d arfcn pdch numAgch true
  | sent d pdch numAgch => dataRecord? d arfcn pdch numAgch false
  | burst p => some (rachRecord p arfcn)

/-- It came from a mobile station. -/
def uplink : Sighting → Bool
  | received .. | burst _ => true
  | sent .. => false

def tn : Sighting → UInt8
  | received d .. | sent d .. => chanTn d.chanNr
  | burst p => chanTn p.chanNr

def fn : Sighting → UInt32
  | received d .. | sent d .. => d.fn
  | burst p => p.fn

/-- Category and subslot. -/
def category : Sighting → UInt8 × UInt8
  | received d pdch numAgch | sent d pdch numAgch => blockCategory d pdch numAgch
  | burst p => (Channel.code .rach, subslotOf p.chanNr)

/-- What was on the air. An uplink timing block goes without its first octet. -/
def octets : Sighting → List UInt8
  | received d pdch _ => if pdch && isPtcch d.fn.toNat then d.frame.octets.tail else d.frame.octets
  | sent d .. => d.frame.octets
  | burst p => [p.ra.toUInt8]

end Sighting

/-- The record of a block is made of what there is to record, if there is anything. -/
theorem dataRecord?_eq (d : PhData) (arfcn : UInt16) (pdch uplink : Bool) (numAgch : Nat) :
    dataRecord? d arfcn pdch numAgch uplink =
      match (packetPayload? uplink (pdch && isPtcch d.fn.toNat) d.frame.octets).getD [] with
      | [] => none
      | xs => some ⟨recordArfcn arfcn uplink, chanTn d.chanNr, (blockCategory d pdch numAgch).1,
          (blockCategory d pdch numAgch).2, d.fn, xs⟩ := by
  unfold dataRecord?
  dsimp only
  cases packetPayload? uplink (pdch && isPtcch d.fn.toNat) d.frame.octets with
  | none => rfl
  | some xs => cases xs <;> rfl

/-- The record of a block, whole. -/
theorem dataRecord?_eq_some {d : PhData} {arfcn : UInt16} {pdch uplink : Bool} {numAgch : Nat}
    {r : Record} (made : dataRecord? d arfcn pdch numAgch uplink = some r) :
    r = ⟨recordArfcn arfcn uplink, chanTn d.chanNr, (blockCategory d pdch numAgch).1,
      (blockCategory d pdch numAgch).2, d.fn,
      if uplink && (pdch && isPtcch d.fn.toNat) then d.frame.octets.tail else d.frame.octets⟩ := by
  rw [dataRecord?_eq] at made
  split at made
  · cases made
  · rename_i something
    cases made
    have payload : (packetPayload? uplink (pdch && isPtcch d.fn.toNat) d.frame.octets).getD [] =
        if uplink && (pdch && isPtcch d.fn.toNat) then d.frame.octets.tail
        else d.frame.octets := by
      unfold packetPayload? at something ⊢
      grind
    rw [payload]

/-- A record tells the sighting as it was, its carrier word apart from what the flag makes of
it. -/
theorem Sighting.record?_eq_some {s : Sighting} {arfcn : UInt16} {r : Record}
    (made : s.record? arfcn = some r) :
    r = ⟨recordArfcn arfcn s.uplink, s.tn, s.category.1, s.category.2, s.fn, s.octets⟩ := by
  cases s with
  | received d pdch numAgch => exact dataRecord?_eq_some made
  | sent d pdch numAgch => exact dataRecord?_eq_some made
  | burst p => exact (Option.some.inj made).symm

/-! ### Datagrams -/

/-- A carrier word tells direction and carrier iff the carrier number leaves the flag alone. -/
theorem carrier_word_iff (h : Header) (arfcn : UInt16) (uplink : Bool)
    (word : h.arfcn = recordArfcn arfcn uplink) :
    (h.fromMobile = uplink ∧ h.carrier = arfcn) ↔ arfcn &&& uplinkFlag = 0 := by
  unfold Header.fromMobile Header.carrier
  rw [word]
  cases uplink with
  | true =>
    simp only [recordArfcn, if_true, or_flag, clear_or_flag, clear_eq_self_iff]
    exact and_iff_right rfl
  | false => simp [recordArfcn, clear_eq_self_iff]

/-- For every valid configuration and whatever is sighted on one of its carriers: the datagram of
the record is read back with its octets, timeslot, frame number, category and subslot, and tells
the direction and the configured carrier number iff that number leaves the place of the uplink
flag free. Validity does not see to that: it holds under any other numbers as well. -/
theorem captures_faithful_iff (c : Config) (valid : c.validate = .ok ()) :
    (∀ k ∈ c.carriers, ∀ (s : Sighting) (r : Record), s.record? k.arfcn = some r →
      ∃ h, Header.parse r.datagram = .ok h ∧ r.datagram.drop headerLength = r.payload ∧
        r.payload = s.octets ∧ h.timeslot = s.tn ∧ h.frame = s.fn ∧
        (h.category, h.subslot) = s.category ∧
        ((h.fromMobile = s.uplink ∧ h.carrier = k.arfcn) ↔ k.arfcn &&& uplinkFlag = 0)) ∧
    ∀ number, (c.renumber number).validate = .ok () := by
  constructor
  · intro k _ s r made
    refine ⟨r.header, Header.parse_encapsulate .., Header.drop_encapsulate .., ?_⟩
    rw [Sighting.record?_eq_some made]
    exact ⟨rfl, rfl, rfl, rfl, carrier_word_iff _ _ _ rfl⟩
  · intro number
    rw [c.validate_renumber, valid]

/-- An access burst on the primary carrier of the cell, whose number is below the flag. -/
theorem burst_told_faithfully :
    scriptedConfig.validate = .ok () ∧
      ∃ r, (Sighting.burst ⟨0x88, 0x23, 0, 42, false, .ts0, -60⟩).record? 0 = some r ∧
        ∃ h, Header.parse r.datagram = .ok h ∧ h.fromMobile = true ∧ h.carrier = 0 ∧
          r.datagram.drop headerLength = [0x23] := by
  refine ⟨rfl, _, rfl, ?_⟩
  obtain ⟨h, parsed, payload, octets, -, -, -, word⟩ :=
    (captures_faithful_iff scriptedConfig rfl).1 .default (by decide) (.burst _) _ rfl
  obtain ⟨direction, carrier⟩ := word.mpr (by decide)
  exact ⟨h, parsed, direction, carrier, payload.trans octets⟩

/-- The cell under a carrier number that takes the place of the flag. -/
def flaggedConfig : Config := scriptedConfig.renumber fun _ => 871 ||| uplinkFlag

/-- A block sent on a valid carrier whose number takes the place of the flag is told as received,
and on another carrier. -/
theorem sent_block_told_as_received :
    ¬ ∀ c : Config, c.validate = .ok () →
      ∀ k ∈ c.carriers, ∀ (s : Sighting) (r : Record), s.record? k.arfcn = some r →
        ∃ h, Header.parse r.datagram = .ok h ∧ r.datagram.drop headerLength = r.payload ∧
          h.timeslot = s.tn ∧ h.frame = s.fn ∧ (h.category, h.subslot) = s.category ∧
          h.fromMobile = s.uplink ∧ h.carrier = k.arfcn := by
  intro told
  obtain ⟨h, parsed, -, -, -, -, direction, -⟩ :=
    told flaggedConfig rfl (flaggedConfig.carriers.head (by decide)) (by decide)
      (.sent (.request 0x80 0 2 (.ofL2 [0x15])) false 1) _ rfl
  have flagged : h.fromMobile = true := by
    cases parsed
    decide
  rw [flagged] at direction
  cases direction

end Capture
end BaseStation
