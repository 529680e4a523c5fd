import BaseStation.Channel.Number
import BaseStation.Channel.Pchan
import BaseStation.Primitive
import BaseStation.Time

/-!
Access bursts: who is told about them, and the load they put on the random access channel.
-/

namespace BaseStation

/-! ### Routes -/

inductive AccessRoute where
  /-- It is too late to be taken. -/
  | discard
  /-- It came in on a dedicated channel. -/
  | handover
  /-- It asks for packet access on the primary carrier. -/
  | pcu
  /-- It is an ordinary channel request. -/
  | linkLayer
deriving DecidableEq, Repr

/-- The route of a burst received on carrier `trx`. -/
def PhRach.route (p : PhRach) (trx maxTa : UInt8) : AccessRoute :=
  if p.delay > maxTa then .discard
  else if !isRachNumber p.chanNr then .handover
  else if trx = 0 ∧ accessClass p.ra p.elevenBit = .packet then .pcu
  else .linkLayer

/-- A packet access for the packet control unit, with the delay in quarter bits. -/
structure PacketAccess where
  delay : Int16
  ra : UInt16
  fn : UInt32
  elevenBit : Bool
  burst : BurstType
deriving DecidableEq

def PhRach.packetAccess (p : PhRach) : PacketAccess :=
  ⟨(4 * p.delay.toNat).toInt16, p.ra, p.fn, p.elevenBit, p.burst⟩

/-! ### Load -/

/-- The level in dBm at which a slot counts as busy. -/
def busyThreshold : Int := -90

def isBusy (rssi : Int8) : Bool := busyThreshold ≤ rssi.toInt

/-- Slots of one frame that can take an access burst. -/
def slotsPerFrame : Nat := 4

/-- Frames of the control multiframe that carry access bursts beside SDCCH/4. -/
def combinedRachFrame (r : Nat) : Bool :=
  r == 4 || r == 5 || (15 ≤ r && r ≤ 36) || r == 45 || r == 46

/-- Slots for access bursts that pass with a frame (3GPP TS 44.018, table 10.5.2.11.1). -/
def expiredSlots (conf : CcchConf) (fn : Nat) : Nat :=
  slotsPerFrame * match conf with
    | .oneCombined => if combinedRachFrame (fn % controlMultiframe) then 1 else 0
    | .one => 1
    | .two => 2
    | .three => 3
    | .four => 4

end BaseStation
