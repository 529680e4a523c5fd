import BaseStation.Text.Digits

/-!
Frame numbers. A frame number counts modulo the hyperframe; the time of a frame is its number
with the counters T1, T2 and T3 of 3GPP TS 45.002, and the multiframes give each frame its place
in a radio block.
-/

namespace BaseStation

abbrev trafficMultiframe : Nat := 26

abbrev controlMultiframe : Nat := 51

abbrev packetMultiframe : Nat := 52

/-- Frames after which the frame number starts again. -/
abbrev hyperframe : Nat := 2048 * 26 * 51

/-- The representative of `a - b` modulo the hyperframe that lies nearest to zero; half a
hyperframe counts as negative. -/
def frameDiff (a b : Nat) : Int := Int.bmod (a - b) hyperframe

/-- A point in time: a frame number within the hyperframe. -/
structure GsmTime where
  frame : Nat
  frame_lt : frame < hyperframe
deriving DecidableEq

namespace GsmTime

def ofFrame (fn : Nat) : GsmTime := ⟨fn % hyperframe, Nat.mod_lt _ (by decide)⟩

@[simp] theorem frame_ofFrame (fn : Nat) : (ofFrame fn).frame = fn % hyperframe := rfl

@[simp] theorem ofFrame_frame (t : GsmTime) : ofFrame t.frame = t := by
  simp [ofFrame, Nat.mod_eq_of_lt t.frame_lt]

instance : Inhabited GsmTime := ⟨ofFrame 0⟩

/-- T1, the superframe. -/
def t1 (t : GsmTime) : Nat := t.frame / (trafficMultiframe * controlMultiframe)

/-- T2, the frame of the traffic multiframe. -/
def t2 (t : GsmTime) : Nat := t.frame % trafficMultiframe

/-- T3, the frame of the control multiframe. -/
def t3 (t : GsmTime) : Nat := t.frame % controlMultiframe

/-- TC, the control multiframe modulo 8, which selects the system information to broadcast. -/
def tc (t : GsmTime) : Nat := t.frame / controlMultiframe % 8

/-- The time with the given counters, if they are in range: 51 is -1 modulo 26, so `T3 - T2`
counts the control multiframes of the superframe. -/
def ofCounters? (t1 t2 t3 : Nat) : Option GsmTime :=
  if t1 < 2048 ∧ t2 < trafficMultiframe ∧ t3 < controlMultiframe then
    some (ofFrame (51 * ((t3 + 26 - t2) % 26) + t3 + 51 * 26 * t1))
  else none

/-- The time `n` frames later, or earlier if `n` is negative. -/
def addFrames (t : GsmTime) (n : Int) : GsmTime := ofFrame ((t.frame + n) % hyperframe).toNat

/-- Frames from `b` to `a`. -/
def diff (a b : GsmTime) : Int := frameDiff a.frame b.frame

def text (t : GsmTime) : String :=
  "/".intercalate [Text.dec 6 t.frame, Text.dec 2 t.t1, Text.dec 2 t.t2, Text.dec 2 t.t3,
    Text.dec 2 (t.frame % packetMultiframe)]

end GsmTime

/-! ### Places in the multiframes -/

/-- The frame is an opportunity for the packet timing control channel. -/
def isPtcch (fn : Nat) : Bool := fn % packetMultiframe == 12 || fn % packetMultiframe == 38

def macBlock (fn : Nat) : Nat := fn % packetMultiframe / 4

/-- The block of the packet timing control channel, over eight packet multiframes. -/
def ptcchBlock (fn : Nat) : Nat := fn / packetMultiframe % 8

/-- The number of the radio block a frame belongs to, and whether it is one of the packet timing
control channel. -/
def packetBlock (fn : Nat) : Bool × UInt8 :=
  if isPtcch fn then (true, (ptcchBlock fn).toUInt8) else (false, (macBlock fn).toUInt8)

/-- First frames of the common control blocks in the control multiframe (3GPP TS 45.002, clause 7,
table 5). -/
def ccchBlockStarts : List Nat := [6, 12, 16, 22, 26, 32, 36, 42, 46]

/-- The common control block a frame belongs to. -/
def ccchBlock? (fn : Nat) : Option Nat :=
  let r := fn % controlMultiframe
  ccchBlockStarts.findIdx? fun start => start ≤ r && r < start + 4

end BaseStation
