import BaseStation.Channel.Pchan
import BaseStation.Lchan.Basic

/-!
Timeslots: the configuration, the progress of a switch into or out of packet mode, and the
logical channels.
-/

namespace BaseStation

/-! ### Packet mode flags -/

/-- The flag word of a timeslot: packet mode in use, a switch into it under way, a switch out of
it under way, and the bits that have no meaning. -/
structure SlotFlags where
  active : Bool
  actPending : Bool
  deactPending : Bool
  rest : UInt32
deriving DecidableEq

namespace SlotFlags

def none : SlotFlags := ⟨false, false, false, 0⟩

def activeBit : UInt32 := 0x1000

def actPendingBit : UInt32 := 0x2000

def deactPendingBit : UInt32 := 0x4000

def ofWord (w : UInt32) : SlotFlags where
  active := w &&& activeBit != 0
  actPending := w &&& actPendingBit != 0
  deactPending := w &&& deactPendingBit != 0
  rest := w &&& ~~~(activeBit ||| actPendingBit ||| deactPendingBit)

def toWord (f : SlotFlags) : UInt32 :=
  f.rest ||| (if f.active then activeBit else 0) ||| (if f.actPending then actPendingBit else 0) |||
    (if f.deactPending then deactPendingBit else 0)

/-- A switch is under way. -/
def pending (f : SlotFlags) : Bool := f.actPending || f.deactPending

def settle (f : SlotFlags) : SlotFlags := { f with actPending := false, deactPending := false }

end SlotFlags

/-! ### Timeslots -/

structure Timeslot where
  nr : UInt8
  pchan : Pchan
  flags : SlotFlags
  /-- The mode in use on a timeslot that takes the mode of its channels. -/
  dynPchan : Pchan
  lchans : List Lchan
deriving DecidableEq

/-- The type of the dedicated channels of a configuration. -/
def Pchan.lchanType : Pchan → LchanType
  | ccchSdcch4 | sdcch8 => .sdcch
  | tchF | tchFPdch | tchFTchHPdch => .tchF
  | tchH => .tchH
  | pdch => .pdtch
  | ccch | none => .none

/-- The types of the channels of a configuration by place: the dedicated ones, and the common
control channel at its fixed place behind them. -/
def Pchan.layout (p : Pchan) : List LchanType :=
  let dedicated := List.replicate p.numLchans p.lchanType
  if p.hasCcch then
    dedicated ++ List.replicate (ChanAddr.commonIndex - p.numLchans) .none ++ [.ccch]
  else dedicated

namespace Timeslot

def fresh (trx nr : UInt8) (p : Pchan) : Timeslot where
  nr := nr
  pchan := p
  flags := .none
  dynPchan := .none
  lchans := p.layout.mapIdx fun ss type => .fresh ⟨trx, nr, ss.toUInt8⟩ type

/-- The timeslot carries packet data now. -/
def isPdch (t : Timeslot) : Bool :=
  match t.pchan with
  | .pdch => true
  | .tchFPdch => t.flags.active && !t.flags.deactPending
  | .tchFTchHPdch => t.dynPchan == .pdch
  | _ => false

/-- Starts the switch into packet mode, where one can be started. -/
def beginPdchAct? (t : Timeslot) : Option Timeslot :=
  if t.pchan = .tchFPdch ∧ t.flags.pending = false then
    some { t with flags := { t.flags with actPending := true } }
  else none

/-- Starts the switch out of packet mode, where one can be started. -/
def beginPdchDeact? (t : Timeslot) : Option Timeslot :=
  if t.pchan = .tchFPdch ∧ t.flags.pending = false ∧ t.flags.active = true then
    some { t with flags := { t.flags with deactPending := true } }
  else none

/-- Starts the switch into or out of packet mode, where one can be started. -/
def beginSwitch? (t : Timeslot) (toPdch : Bool) : Option Timeslot :=
  if toPdch then t.beginPdchAct? else t.beginPdchDeact?

end Timeslot
end BaseStation
