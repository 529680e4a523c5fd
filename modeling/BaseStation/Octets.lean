import BaseStation.Text.Digits

/-!
Octet strings: the room that they may take, padding to a fixed length, and the block of 23 octets
that one radio block carries on a control channel.
-/

namespace BaseStation

/-! ### Room -/

/-- The most octets there can be room for: as many as a signed word of 64 bits can count. -/
def maxRoom : Nat := 0x7fffffffffffffff

inductive RoomError where
  | tooLarge
deriving DecidableEq, Repr

def RoomError.message : RoomError → String
  | tooLarge => "capacity overflow"

/-- Refuses room for more octets than there can be. -/
def checkRoom (n : Nat) : Except RoomError Unit :=
  if n ≤ maxRoom then .ok () else .error .tooLarge

theorem checkRoom_of_le {n : Nat} (fits : n ≤ maxRoom) : checkRoom n = .ok () := if_pos fits

/-- What is made where there is room for it is made as it should be, or not at all. -/
theorem eq_of_checkRoom_map {α : Type} {n : Nat} {a b : α}
    (made : (checkRoom n).map (fun _ => a) = .ok b) : b = a := by
  unfold checkRoom at made
  split at made
  · exact (Except.ok.inj made).symm
  · cases made

/-! ### Padding and blocks -/

/-- The octet that fills the unused end of a block. -/
def padding : UInt8 := 0x2b

/-- The first `n` octets of `xs`, filled up with the padding octet where `xs` is shorter. -/
def padTo (n : Nat) (xs : List UInt8) : List UInt8 :=
  xs.take n ++ List.replicate (n - xs.length) padding

theorem length_padTo (n : Nat) (xs : List UInt8) : (padTo n xs).length = n := by
  simp only [padTo, List.length_append, List.length_take, List.length_replicate]
  omega

def blockLength : Nat := 23

structure MacBlock where
  octets : List UInt8
  length_octets : octets.length = blockLength
deriving DecidableEq

namespace MacBlock

/-- The block that starts with `xs`, cut or padded. -/
def ofOctets (xs : List UInt8) : MacBlock := ⟨padTo blockLength xs, length_padTo _ _⟩

@[simp] theorem length_ofOctets (xs : List UInt8) : (ofOctets xs).octets.length = blockLength :=
  (ofOctets xs).length_octets

/-- The fill frame: an unnumbered information frame without contents. -/
def fill : MacBlock := ofOctets [0x03, 0x03, 0x01]

end MacBlock

/-- Octets as pairs of hexadecimal digits with blanks between them. -/
def hexdump (xs : List UInt8) : String := " ".intercalate (xs.map Text.octet)

/-- The octets that pairs of hexadecimal digits stand for. -/
def ofHexPairs? : List Char → Option (List UInt8)
  | [] => some []
  | [_] => none
  | a :: b :: rest => do
    let hi ← Text.digitValue? a
    let lo ← Text.digitValue? b
    let xs ← ofHexPairs? rest
    return (16 * hi + lo).toUInt8 :: xs

end BaseStation
