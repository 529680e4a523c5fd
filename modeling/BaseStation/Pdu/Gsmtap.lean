import BaseStation.Pdu.Error

/-!
The GSMTAP header, version 2, that leads a captured frame in a datagram: 16 octets with the
timeslot, the carrier, the frame number and the category of the channel.
-/

namespace BaseStation.Gsmtap

/-! ### Channel categories -/

inductive Channel where
  | unknown
  | bcch
  | ccch
  | rach
  | agch
  | pch
  | sdcch
  | sdcch4
  | sdcch8
  | tchF
  | tchH
  | pacch
  | cbch52
  | pdtch
  | ptcch
  | cbch51
deriving DecidableEq, Repr

namespace Channel

def code : Channel → UInt8
  | unknown => 0x00
  | bcch => 0x01
  | ccch => 0x02
  | rach => 0x03
  | agch => 0x04
  | pch => 0x05
  | sdcch => 0x06
  | sdcch4 => 0x07
  | sdcch8 => 0x08
  | tchF => 0x09
  | tchH => 0x0a
  | pacch => 0x0b
  | cbch52 => 0x0c
  | pdtch => 0x0d
  | ptcch => 0x0e
  | cbch51 => 0x0f

def all : List Channel :=
  [unknown, bcch, ccch, rach, agch, pch, sdcch, sdcch4, sdcch8, tchF, tchH, pacch, cbch52, pdtch,
    ptcch, cbch51]

def ofCode? (x : UInt8) : Option Channel := all.find? (·.code == x)

def name : Channel → String
  | unknown => "UNKNOWN"
  | bcch => "BCCH"
  | ccch => "CCCH"
  | rach => "RACH"
  | agch => "AGCH"
  | pch => "PCH"
  | sdcch | sdcch4 | sdcch8 => "SDCCH"
  | tchF => "TCH/F"
  | tchH => "TCH/H"
  | pacch => "PACCH"
  | pdtch => "PDTCH"
  | ptcch => "PTCCH"
  | cbch51 | cbch52 => "CBCH"

/-- Categories that can be selected by name. -/
def selectable : List Channel :=
  [bcch, ccch, rach, agch, pch, sdcch, tchF, tchH, pacch, pdtch, ptcch, cbch51]

end Channel

/-- Equality of names up to the case of ASCII letters. -/
def sameName (a b : String) : Bool := a.toList.map Char.toLower == b.toList.map Char.toLower

/-- The selectable category of a name. -/
def Channel.ofName? (s : String) : Option Channel := selectable.find? (sameName ·.name s)

/-- The name that selects the associated control channels. -/
def acchName : String := "SACCH"

/-- Marks a category as that of the associated control channel. -/
def acchFlag : UInt8 := 0x80

/-- Marks a carrier number as that of a frame received from a mobile station. -/
def uplinkFlag : UInt16 := 0x4000

/-- The bit of a category in the capture mask. -/
def maskBit (category : UInt8) : UInt32 := 1 <<< (category &&& 31).toUInt32

/-! ### Header -/

structure Header where
  timeslot : UInt8
  /-- The carrier number, with the uplink flag. -/
  arfcn : UInt16
  signal : Int8
  snr : Int8
  frame : UInt32
  /-- The category, with the flag of the associated control channel. -/
  category : UInt8
  antenna : UInt8
  subslot : UInt8
deriving DecidableEq

def version : UInt8 := 2

def umType : UInt8 := 1

/-- The length of the header in octets; the header itself gives it in words of four octets. -/
def headerLength : Nat := 16

/-- The two octets of a word, most significant first. -/
def octets16 (x : UInt16) : List UInt8 := [(x >>> 8).toUInt8, x.toUInt8]

/-- The four octets of a word, most significant first. -/
def octets32 (x : UInt32) : List UInt8 :=
  [(x >>> 24).toUInt8, (x >>> 16).toUInt8, (x >>> 8).toUInt8, x.toUInt8]

/-- The word of two octets, most significant first. -/
def word16 (a b : UInt8) : UInt16 := a.toUInt16 <<< 8 ||| b.toUInt16

/-- The word of four octets, most significant first. -/
def word32 (a b c d : UInt8) : UInt32 :=
  a.toUInt32 <<< 24 ||| b.toUInt32 <<< 16 ||| c.toUInt32 <<< 8 ||| d.toUInt32

namespace Header

def toOctets (h : Header) : List UInt8 :=
  [version, 4, umType, h.timeslot] ++ octets16 h.arfcn ++ [h.signal.toUInt8, h.snr.toUInt8] ++
    octets32 h.frame ++ [h.category, h.antenna, h.subslot, 0]

/-- The header that leads an octet string. The length octet and the reserved octet are not
looked at. -/
def parse (xs : List UInt8) : Except PduError Header :=
  match xs with
  | v :: _ :: t :: ts :: a₁ :: a₀ :: sig :: snr :: f₃ :: f₂ :: f₁ :: f₀ :: cat :: ant :: sub ::
      _ :: _ =>
    if v ≠ version then .error (.invalidValue "version" v.toNat)
    else if t ≠ umType then .error (.invalidValue "type" t.toNat)
    else .ok ⟨ts, word16 a₁ a₀, sig.toInt8, snr.toInt8, word32 f₃ f₂ f₁ f₀, cat, ant, sub⟩
  | _ => .error (.inconsistentLength headerLength xs.length)

def encapsulate (h : Header) (payload : List UInt8) : List UInt8 := h.toOctets ++ payload

end Header
end BaseStation.Gsmtap
