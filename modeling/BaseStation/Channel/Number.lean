import BaseStation.Text.Digits

/-!
Channel numbers (3GPP TS 48.058, 9.3.1): one octet that names a timeslot in its three low bits
and a channel of it in the five high bits, the C-bits. The link identifier (9.3.2) tells the
slow associated control channel from the main one.
-/

namespace BaseStation

inductive ChanKind where
  | tchF
  | tchH
  | sdcch4
  | sdcch8
  | bcch
  | rach
  | pchAgch
  /-- Packet data on a dynamic timeslot, a vendor extension. -/
  | pdch
deriving DecidableEq, Repr

namespace ChanKind

/-- Subslots multiplexed on one timeslot, 0 for a kind that has the timeslot to itself. -/
def numSubslots : ChanKind → UInt8
  | tchH => 2
  | sdcch4 => 4
  | sdcch8 => 8
  | _ => 0

/-- The C-bits of subslot 0, in their place. -/
def base : ChanKind → UInt8
  | tchF => 0x08
  | tchH => 0x10
  | sdcch4 => 0x20
  | sdcch8 => 0x40
  | bcch => 0x80
  | rach => 0x88
  | pchAgch => 0x90
  | pdch => 0xc0

/-- The channel is not dedicated to one mobile station: the highest C-bit is set. -/
def isCommon (k : ChanKind) : Bool := k.base &&& 0x80 != 0

def isTraffic : ChanKind → Bool
  | tchF | tchH => true
  | _ => false

def name : ChanKind → String
  | tchF => "TCH/F"
  | tchH => "TCH/H"
  | sdcch4 => "SDCCH/4"
  | sdcch8 => "SDCCH/8"
  | bcch => "BCCH"
  | rach => "RACH"
  | pchAgch => "PCH/AGCH"
  | pdch => "PDCH"

end ChanKind

/-- Why an octet names no channel, or a channel has no number. -/
inductive ChanNrError where
  | malformed (number : UInt8)
  | timeslot (tn : UInt8)
  | subslot (kind : ChanKind) (ss : Option UInt8)
deriving DecidableEq

def ChanNrError.message : ChanNrError → String
  | malformed n => "malformed chan_nr 0x" ++ Text.octet n
  | timeslot tn => "timeslot " ++ toString tn.toNat ++ " out of range"
  | subslot kind ss =>
    "subslot " ++ Text.optional (ss.map fun s => toString s.toNat) ++ " not valid for " ++ kind.name

/-- A channel of a carrier: its kind, timeslot and, for a multiplexed kind, subslot. -/
structure ChanAddr where
  kind : ChanKind
  tn : UInt8
  ss : Option UInt8
deriving DecidableEq

/-- The timeslot in the low bits of a channel number. -/
def chanTn (number : UInt8) : UInt8 := number &&& 7

theorem chanTn_lt (number : UInt8) : (chanTn number).toNat < 8 := by
  have : number.toNat &&& 7 ≤ 7 := Nat.and_le_right
  simp only [chanTn, UInt8.toNat_and, UInt8.reduceToNat]
  omega

/-- The kind and subslot that the five C-bits name. -/
def ofCBits? (c : UInt8) : Option (ChanKind × Option UInt8) :=
  if c = 0b00001 then some (.tchF, none)
  else if 0b00010 ≤ c ∧ c ≤ 0b00011 then some (.tchH, some (c &&& 1))
  else if 0b00100 ≤ c ∧ c ≤ 0b00111 then some (.sdcch4, some (c &&& 3))
  else if 0b01000 ≤ c ∧ c ≤ 0b01111 then some (.sdcch8, some (c &&& 7))
  else if c = 0b10000 then some (.bcch, none)
  else if c = 0b10001 then some (.rach, none)
  else if c = 0b10010 then some (.pchAgch, none)
  else if c = 0b11000 then some (.pdch, none)
  else none

namespace ChanAddr

/-- The channel that an octet names. -/
def decode (number : UInt8) : Except ChanNrError ChanAddr :=
  match ofCBits? (number >>> 3) with
  | some (kind, ss) => .ok ⟨kind, chanTn number, ss⟩
  | none => .error (.malformed number)

/-- The C-bits of the subslot, in their place, where the kind has that subslot. -/
def subslotBits? (a : ChanAddr) : Option UInt8 :=
  match a.ss with
  | none => if a.kind.numSubslots = 0 then some 0 else none
  | some ss => if ss < a.kind.numSubslots then some (ss <<< 3) else none

/-- The octet that names a channel. -/
def encode (a : ChanAddr) : Except ChanNrError UInt8 :=
  if a.tn > 7 then .error (.timeslot a.tn)
  else match a.subslotBits? with
    | some bits => .ok (a.kind.base ||| bits ||| a.tn)
    | none => .error (.subslot a.kind a.ss)

/-- The index of the subslot, 0 for a kind without subslots. -/
def subslotIndex (a : ChanAddr) : Nat := (a.ss.getD 0).toNat

/-- The common channels share one place on their timeslot, behind the dedicated channels. -/
def commonIndex : Nat := 4

/-- The place among the logical channels of the timeslot. -/
def lchanIndex (a : ChanAddr) : Nat :=
  match a.kind with
  | .bcch | .rach | .pchAgch => commonIndex
  | _ => a.subslotIndex

def text (a : ChanAddr) : String :=
  a.kind.name ++ " ts=" ++ toString a.tn.toNat ++
    match a.ss with
    | some ss => " ss=" ++ toString ss.toNat
    | none => ""

end ChanAddr

/-- The link identifier of the slow associated control channel. -/
def sacchLink : UInt8 := 0x40

def isSacchLink (link : UInt8) : Bool := link &&& 0xc0 == sacchLink

/-- The packet data extension written as a full rate traffic channel, other numbers as they are. -/
def pdchAsTchF (number : UInt8) : UInt8 :=
  if number &&& 0xf8 = ChanKind.base .pdch then ChanKind.base .tchF ||| (number &&& 0x07)
  else number

def isRachNumber (number : UInt8) : Bool :=
  match ChanAddr.decode number with
  | .ok a => a.kind == .rach
  | .error _ => false

structure LchanId where
  trx : UInt8
  tn : UInt8
  ss : UInt8
deriving DecidableEq

def LchanId.text (id : LchanId) : String :=
  "(trx=" ++ toString id.trx.toNat ++ ",ts=" ++ toString id.tn.toNat ++
    ",ss=" ++ toString id.ss.toNat ++ ")"

end BaseStation
