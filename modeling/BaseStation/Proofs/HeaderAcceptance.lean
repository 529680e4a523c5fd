import BaseStation.Proofs.CaptureFidelity

/-!
Which octets are taken for a capture header. A header has sixteen octets, and four of them are the
same in every header: version, length in words, type, and the reserved octet at the end. Version and
type are checked, the other two are passed over. So the octets of a header are taken for it whatever
stands at these two places, and what was taken is what the header and its payload are written as iff
both places are right.
-/

namespace BaseStation.Gsmtap

/-! ### Octets from words -/

theorem octets16_word (a b : UInt8) : octets16 (word16 a b) = [a, b] := by
  have octets : (word16 a b >>> 8).toUInt8 = a ∧ (word16 a b).toUInt8 = b := by
    constructor <;> apply UInt8.toBitVec_inj.mp <;> apply BitVec.eq_of_getLsbD_eq <;> intro i hi <;>
      simp only [word16, UInt16.toBitVec_toUInt8, UInt16.toBitVec_shiftRight, UInt16.toBitVec_or,
        UInt16.toBitVec_shiftLeft, UInt8.toBitVec_toUInt16]
    · simp
      grind
    · simp
  rw [octets16, octets.1, octets.2]

theorem octets32_word (a b c d : UInt8) : octets32 (word32 a b c d) = [a, b, c, d] := by
  have octets : ((word32 a b c d >>> 24).toUInt8 = a ∧ (word32 a b c d >>> 16).toUInt8 = b) ∧
      (word32 a b c d >>> 8).toUInt8 = c ∧ (word32 a b c d).toUInt8 = d := by
    refine ⟨⟨?_, ?_⟩, ?_, ?_⟩ <;> apply UInt8.toBitVec_inj.mp <;> apply BitVec.eq_of_getLsbD_eq <;>
      intro i hi <;>
      simp only [word32, UInt32.toBitVec_toUInt8, UInt32.toBitVec_shiftRight, UInt32.toBitVec_or,
        UInt32.toBitVec_shiftLeft, UInt8.toBitVec_toUInt32] <;> simp <;> grind
  rw [octets32, octets.1.1, octets.1.2, octets.2.1, octets.2.2]

namespace Header

/-! ### What is accepted -/

/-- The length of a header in words of four octets. -/
def lengthInWords : UInt8 := 4

/-- The octets of a header but for two places: the length in words, and the reserved octet. -/
def octetsWith (h : Header) (words reserved : UInt8) : List UInt8 :=
  [version, words, umType, h.timeslot] ++ octets16 h.arfcn ++ [h.signal.toUInt8, h.snr.toUInt8] ++
    octets32 h.frame ++ [h.category, h.antenna, h.subslot, reserved]

theorem toOctets_eq (h : Header) : h.toOctets = h.octetsWith lengthInWords 0 := rfl

theorem length_octetsWith (h : Header) (words reserved : UInt8) :
    (h.octetsWith words reserved).length = headerLength := rfl

/-- The two places are all in which the octets of one header can differ. -/
theorem octetsWith_inj {h : Header} {words reserved words' reserved' : UInt8} :
    h.octetsWith words reserved = h.octetsWith words' reserved' ↔
      words = words' ∧ reserved = reserved' := by
  simp [octetsWith, octets16, octets32]

/-- A header is read from its octets, whatever stands at the two places and behind them. -/
theorem parse_octetsWith (h : Header) (words reserved : UInt8) (payload : List UInt8) :
    parse (h.octetsWith words reserved ++ payload) = .ok h := by
  simp only [octetsWith, octets16, octets32, List.cons_append, List.nil_append, parse, ne_eq,
    not_true_eq_false, if_false, word16_octets, word32_octets, Int8.toInt8_toUInt8]

/-- A header is read from nothing else. -/
theorem eq_octetsWith_of_parse {xs : List UInt8} {h : Header} (parsed : parse xs = .ok h) :
    ∃ words reserved payload, xs = h.octetsWith words reserved ++ payload := by
  unfold parse at parsed
  split at parsed
  · rename_i v words t ts a₁ a₀ sig snr f₃ f₂ f₁ f₀ cat ant sub reserved payload
    split at parsed
    · cases parsed
    · rename_i same
      obtain rfl : v = version := not_not.mp same
      split at parsed
      · cases parsed
      · rename_i um
        obtain rfl : t = umType := not_not.mp um
        cases parsed
        refine ⟨words, reserved, payload, ?_⟩
        simp [octetsWith, octets16_word, octets32_word]
  · cases parsed

/-! ### What is written -/

/-- What is taken for a header is what the header is written as iff the two places are right. -/
theorem take_octetsWith_iff (h : Header) (words reserved : UInt8) (payload : List UInt8) :
    (h.octetsWith words reserved ++ payload).take headerLength = h.toOctets ↔
      words = lengthInWords ∧ reserved = 0 := by
  rw [List.take_left' (h.length_octetsWith words reserved), toOctets_eq, octetsWith_inj]

/-- Octets are the encapsulation of what follows a header iff they lead with the header as it is
written. -/
theorem eq_encapsulate_iff (xs : List UInt8) (h : Header) :
    xs = h.encapsulate (xs.drop headerLength) ↔ xs.take headerLength = h.toOctets := by
  constructor
  · intro whole
    rw [whole, encapsulate, List.take_left' h.length_toOctets]
  · intro front
    rw [encapsulate, ← front, List.take_append_drop]

/-- Octets of any length are taken for a header iff they lead with its octets, the length in words
and the reserved octet apart. What was taken leads with the header as it is written, and is the
encapsulation of what follows, iff the header announces its own length and the reserved octet is
zero; every encapsulation is taken and gives back its header and payload. -/
theorem accepted_as_written_iff (xs : List UInt8) (h : Header) :
    (parse xs = .ok h ↔ ∃ words reserved payload, xs = h.octetsWith words reserved ++ payload) ∧
      (parse xs = .ok h →
        (xs.take headerLength = h.toOctets ↔ xs[1]? = some lengthInWords ∧ xs[15]? = some 0) ∧
        (xs = h.encapsulate (xs.drop headerLength) ↔
          xs[1]? = some lengthInWords ∧ xs[15]? = some 0)) ∧
      ∀ payload, parse (h.encapsulate payload) = .ok h ∧
        (h.encapsulate payload).drop headerLength = payload := by
  refine ⟨⟨eq_octetsWith_of_parse, ?_⟩, fun parsed => ?_, fun payload =>
    ⟨parse_encapsulate h payload, drop_encapsulate h payload⟩⟩
  · rintro ⟨words, reserved, payload, rfl⟩
    exact parse_octetsWith h words reserved payload
  · obtain ⟨words, reserved, payload, rfl⟩ := eq_octetsWith_of_parse parsed
    have places : (h.octetsWith words reserved ++ payload)[1]? = some words ∧
        (h.octetsWith words reserved ++ payload)[15]? = some reserved := ⟨rfl, rfl⟩
    rw [eq_encapsulate_iff, take_octetsWith_iff, places.1, places.2, Option.some.injEq,
      Option.some.injEq]
    exact ⟨Iff.rfl, Iff.rfl⟩

/-- A SACCH frame of subslot 3, received on carrier 871. -/
def sacchHeader : Header := ⟨2, 871 ||| uplinkFlag, -60, 0, 0x00010203, 0x86, 0, 3⟩

/-- A datagram with the header is taken for it, and is written so. -/
theorem sacch_datagram_as_written :
    parse (sacchHeader.encapsulate [0xaa, 0xbb]) = .ok sacchHeader ∧
      (sacchHeader.encapsulate [0xaa, 0xbb]).take headerLength = sacchHeader.toOctets := by
  have parsed : parse (sacchHeader.encapsulate [0xaa, 0xbb]) = .ok sacchHeader := rfl
  obtain ⟨-, written, -⟩ :=
    accepted_as_written_iff (sacchHeader.encapsulate [0xaa, 0xbb]) sacchHeader
  exact ⟨parsed, (written parsed).1.mpr (by decide)⟩

/-- A datagram that announces a header of five words, with its payload behind them. -/
def longerDatagram : List UInt8 := sacchHeader.octetsWith 5 0 ++ [0, 0, 0, 0] ++ [0xaa, 0xbb]

/-- A datagram that announces a longer header is accepted all the same, though it does not lead with
the header as it is written and the payload starts elsewhere. -/
theorem longer_header_accepted :
    ¬ ∀ (xs : List UInt8) (h : Header), parse xs = .ok h →
      xs.take headerLength = h.toOctets ∧ xs = h.encapsulate (xs.drop headerLength) := by
  intro written
  have parsed : parse longerDatagram = .ok sacchHeader := rfl
  exact absurd (written longerDatagram sacchHeader parsed).1 (by decide)

end Header
end BaseStation.Gsmtap
