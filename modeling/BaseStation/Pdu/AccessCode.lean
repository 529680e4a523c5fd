/-!
Random access codes (3GPP TS 44.018, 9.1.8 and TS 44.060, 11.2.5) and the training sequences of
access bursts.
-/

namespace BaseStation

/-- Training sequences of an access burst (3GPP TS 45.002, 5.2.7). -/
inductive BurstType where
  | ts0
  | ts1
  | ts2
deriving DecidableEq, Repr, Inhabited

namespace BurstType

def code : BurstType → UInt8
  | ts0 => 0
  | ts1 => 1
  | ts2 => 2

def ofCode? : UInt8 → Option BurstType
  | 0 => some ts0
  | 1 => some ts1
  | 2 => some ts2
  | _ => none

end BurstType

inductive AccessClass where
  /-- Circuit switched access, answered on the common control channel. -/
  | circuit
  /-- Packet access, answered by the packet control unit. -/
  | packet
deriving DecidableEq, Repr

/-- An 8 bit code asks for packet access: `0111xxxx` apart from `01111111`. -/
def isPacketCode8 (ra : UInt8) : Bool := ra &&& 0xf0 == 0x70 && ra &&& 0x0f != 0x0f

/-- The class of an access code; 11 bit codes are sent for packet access alone. -/
def accessClass (ra : UInt16) (elevenBit : Bool) : AccessClass :=
  if elevenBit || (ra ≤ 0xff && isPacketCode8 ra.toUInt8) then .packet else .circuit

end BaseStation
