import BaseStation.Channel.Number
import BaseStation.Pdu.AccessCode

/-!
What the LAPDm link layer is told: the link of a block, the retransmission timers T200 and the
channel requests.
-/

namespace BaseStation

inductive Link where
  | dcch
  | acch
deriving DecidableEq, Repr

namespace Link

def ofId (linkId : UInt8) : Link := if isSacchLink linkId then acch else dcch

def text : Link → String
  | dcch => "DCCH"
  | acch => "ACCH"

end Link

/-- A channel request for the link entity of the common control channel. -/
structure ChannelRequest where
  chanNr : UInt8
  ra : UInt16
  delay : UInt8
  fn : UInt32
  elevenBit : Bool
  burst : BurstType
deriving DecidableEq

/-- T200 by channel in milliseconds (3GPP TS 12.21, 9.4.53). -/
structure T200Table where
  sdcch : UInt32
  facchF : UInt32
  facchH : UInt32
  sacchTchSapi0 : UInt32
  sacchSdcch : UInt32
  sdcchSapi3 : UInt32
  sacchTchSapi3 : UInt32
deriving DecidableEq

namespace T200Table

def default : T200Table := ⟨1000, 1000, 1000, 2000, 2000, 1000, 2000⟩

def toList (t : T200Table) : List UInt32 :=
  [t.sdcch, t.facchF, t.facchH, t.sacchTchSapi0, t.sacchSdcch, t.sdcchSapi3, t.sacchTchSapi3]

def size : Nat := 7

/-- The table of a list with one value for each channel. -/
def ofList? : List UInt32 → Option T200Table
  | [a, b, c, d, e, f, g] => some ⟨a, b, c, d, e, f, g⟩
  | _ => none

end T200Table

/-- T200 for both link entities of a logical channel, by SAPI. -/
structure T200Set where
  dcchSapi0 : UInt32
  dcchSapi3 : UInt32
  acchSapi0 : UInt32
  acchSapi3 : UInt32
deriving DecidableEq

/-- The values for a kind of channel; kinds without a link entity have none. -/
def T200Table.forKind? (t : T200Table) : ChanKind → Option T200Set
  | .sdcch4 | .sdcch8 => some ⟨t.sdcch, t.sdcchSapi3, t.sacchSdcch, t.sacchSdcch⟩
  | .tchF => some ⟨t.facchF, t.facchF, t.sacchTchSapi0, t.sacchTchSapi3⟩
  | .tchH => some ⟨t.facchH, t.facchH, t.sacchTchSapi0, t.sacchTchSapi3⟩
  | _ => none

end BaseStation
