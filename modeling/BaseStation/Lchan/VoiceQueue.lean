import BaseStation.Octets

/-!
The downlink queue of voice frames. It has a limit, and a frame that comes into a full queue
drives out the oldest ones.
-/

namespace BaseStation

/-- A downlink voice frame with the transport fields it arrived with. -/
structure VoiceFrame where
  payload : List UInt8
  seq : UInt16
  timestamp : UInt32
  marker : Bool
deriving DecidableEq

/-- A frame looped back from the uplink, which has no transport fields. -/
def VoiceFrame.looped (payload : List UInt8) : VoiceFrame := ⟨payload, 0, 0, false⟩

/-- Frames that wait for a transmit opportunity, oldest first. -/
structure VoiceQueue where
  frames : List VoiceFrame
  limit : Nat
deriving DecidableEq

namespace VoiceQueue

def withLimit (limit : Nat) : VoiceQueue := ⟨[], limit⟩

/-- Octets that a place in the queue takes, the payload apart. -/
def placeLength : Nat := 32

/-- The empty queue with a limit, with room for one frame more; the count of places is a word. -/
def withRoom (limit : UInt64) : Except RoomError VoiceQueue :=
  (checkRoom (placeLength * (limit + 1).toNat)).map fun _ => withLimit limit.toNat

/-- The frames that a push drives out: as many of the oldest as leave room for one more, all of
them if there is no room at all. -/
def excess (q : VoiceQueue) : Nat := min q.frames.length (q.frames.length + 1 - q.limit)

/-- The queue with a frame added at the end, and the number of frames driven out. -/
def push (q : VoiceQueue) (f : VoiceFrame) : VoiceQueue × Nat :=
  (⟨q.frames.drop q.excess ++ [f], q.limit⟩, q.excess)

/-- The oldest frame, and the queue without it. -/
def pop (q : VoiceQueue) : Option VoiceFrame × VoiceQueue :=
  (q.frames.head?, ⟨q.frames.tail, q.limit⟩)

def clear (q : VoiceQueue) : VoiceQueue := ⟨[], q.limit⟩

def length (q : VoiceQueue) : Nat := q.frames.length

def isEmpty (q : VoiceQueue) : Bool := q.frames.isEmpty

/-- A push adds one frame and drives out `excess` of them. -/
theorem length_push (q : VoiceQueue) (f : VoiceFrame) :
    (q.push f).1.length + (q.push f).2 = q.length + 1 := by
  simp only [push, length, excess, List.length_append, List.length_drop, List.length_singleton]
  omega

/-- After a push the queue is within its limit, or holds the pushed frame alone. -/
theorem length_push_le (q : VoiceQueue) (f : VoiceFrame) :
    (q.push f).1.length ≤ max 1 q.limit := by
  simp only [push, length, excess, List.length_append, List.length_drop, List.length_singleton]
  omega

end VoiceQueue
end BaseStation
