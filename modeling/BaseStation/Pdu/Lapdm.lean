import BaseStation.Pdu.Error
import BaseStation.Text.Digits

/-!
The address and control octets of a LAPDm frame (3GPP TS 44.006, clauses 3.2 and 3.4).
-/

namespace BaseStation.Lapdm

/-! ### Address -/

/-- The address field: link protocol discriminator, service access point identifier, command or
response, and the extension bit. -/
structure Address where
  lpd : UInt8
  sapi : UInt8
  cr : Bool
  ea : Bool
deriving DecidableEq

namespace Address

def ofOctet (x : UInt8) : Address where
  lpd := (x >>> 5) &&& 0x03
  sapi := (x >>> 2) &&& 0x07
  cr := x &&& 0x02 != 0
  ea := x &&& 0x01 != 0

/-- The octet of an address; bits beyond the width of a field are dropped. -/
def toOctet (a : Address) : UInt8 :=
  (a.lpd &&& 0x03) <<< 5 ||| (a.sapi &&& 0x07) <<< 2 ||| a.cr.toUInt8 <<< 1 ||| a.ea.toUInt8

/-- SAPI 0, a command of the network. -/
def networkCommand : UInt8 := 0x03

/-- SAPI 0, a response of the mobile station. -/
def mobileResponse : UInt8 := 0x01

end Address

/-! ### Control -/

inductive Control where
  /-- Numbered information: send number, poll, receive number. -/
  | info (ns : UInt8) (p : Bool) (nr : UInt8)
  /-- Supervisory: function, poll or final, receive number. -/
  | supervisory (s : UInt8) (pf : Bool) (nr : UInt8)
  /-- Unnumbered, the octet as it stands. -/
  | unnumbered (raw : UInt8)
deriving DecidableEq

namespace Control

def ofOctet (x : UInt8) : Control :=
  if x &&& 0x01 = 0 then info ((x >>> 1) &&& 0x07) (x &&& 0x10 != 0) (x >>> 5)
  else if x &&& 0x03 = 0x01 then supervisory ((x >>> 2) &&& 0x03) (x &&& 0x10 != 0) (x >>> 5)
  else unnumbered x

def isInfo : Control → Bool
  | info .. => true
  | _ => false

end Control

/-! ### Header -/

structure Header where
  addressOctet : UInt8
  address : Address
  control : Control
deriving DecidableEq

namespace Header

def parse (xs : List UInt8) : Except PduError Header := do
  let a ← octetAt xs 0 "address"
  let c ← octetAt xs 1 "control"
  return ⟨a, .ofOctet a, .ofOctet c⟩

def text (h : Header) : String :=
  let sapi := "sapi=" ++ toString h.address.sapi.toNat
  match h.control with
  | .info ns p nr =>
    "I " ++ sapi ++ " cr=" ++ Text.bit h.address.cr ++ " N(S)=" ++ toString ns.toNat ++
      " N(R)=" ++ toString nr.toNat ++ " P=" ++ Text.bit p
  | .supervisory s pf nr =>
    "S" ++ toString s.toNat ++ " " ++ sapi ++ " N(R)=" ++ toString nr.toNat ++ " PF=" ++ Text.bit pf
  | .unnumbered raw => "U 0x" ++ Text.octet raw ++ " " ++ sapi

end Header

/-- Octets in front of the layer 3 message: address, control and length. -/
def l3Offset : Nat := 3

end BaseStation.Lapdm
