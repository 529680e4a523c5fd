import BaseStation.Primitive

/-!
The uplink measurements of a logical channel: the samples of the current period, the layer 1
header of the SACCH and the timing offset.
-/

namespace BaseStation

/-- One uplink sample: timing offset in quarter bits, bit error rate, level below 0 dBm. -/
structure UlSample where
  taOffset : Int16
  ber10k : UInt16
  invRssi : UInt8
deriving DecidableEq

/-- The samples oldest first, the layer 1 header as reported by RSL, and the timing offset from
measurements or from the last access burst, each with its bias. -/
structure Measurements where
  samples : List UlSample
  l1Header : Option (UInt8 × UInt8)
  msTimingOffset : Option UInt8
  accessOffset : Option UInt8
deriving DecidableEq

namespace Measurements

def empty : Measurements := ⟨[], none, none, none⟩

def maxSamples : Nat := 104

/-- Adds a sample; the oldest one goes when there are as many as are kept. -/
def push (m : Measurements) (s : UlSample) : Measurements :=
  { m with samples := (if maxSamples ≤ m.samples.length then m.samples.tail else m.samples) ++ [s] }

/-- The bias of a timing offset in RSL (3GPP TS 48.058, 9.3.37). -/
def offsetBias : Int := 63

/-- A timing offset in symbols as RSL carries it, if one octet can. -/
def biased? (symbols : Int) : Option UInt8 :=
  let b := symbols + offsetBias
  if 0 ≤ b ∧ b ≤ 255 then some b.toNat.toUInt8 else none

/-- Stores a measured timing offset, which takes the place of that of an access burst. An offset
that RSL cannot carry is left out. -/
def setMsTiming (m : Measurements) (symbols : Int) : Measurements :=
  match biased? symbols with
  | some b => { m with msTimingOffset := some b, accessOffset := none }
  | none => m

/-- Stores the timing offset of an access burst, which takes the place of a measured one. An
offset that RSL cannot carry is left out. -/
def setAccessOffset (m : Measurements) (symbols : Int) : Measurements :=
  match biased? symbols with
  | some b => { m with accessOffset := some b, msTimingOffset := none }
  | none => m

/-- Adds the measurement of a burst: its sample, and its timing offset in whole symbols. -/
def add (m : Measurements) (x : Measured) : Measurements :=
  (m.push ⟨x.taOffset, x.ber10k, x.invRssi⟩).setMsTiming (Int.tdiv x.taOffset.toInt 4)

/-- The first octet of the SACCH header in the order of RSL: power level, then fast power
control. -/
def rslPower (x : UInt8) : UInt8 := x <<< 3 ||| ((x >>> 5) &&& 1) <<< 2

/-- Stores the layer 1 header of an uplink SACCH frame and gives the power level it reports. -/
def storeL1Header (m : Measurements) : List UInt8 → Measurements × Option UInt8
  | a :: b :: _ => ({ m with l1Header := some (rslPower a, b) }, some (a &&& 0x1f))
  | _ => (m, none)

end Measurements
end BaseStation
