import BaseStation.Octets

/-!
Frame buffers: octets of which a leading part is the layer 1 header and the rest belongs to
layer 2. The split never lies behind the last octet.
-/

namespace BaseStation

/-- Octets with the place where layer 2 starts. -/
structure Frame where
  octets : List UInt8
  split : Nat
  split_le : split ≤ octets.length
deriving DecidableEq

namespace Frame

def empty : Frame := ⟨[], 0, Nat.le_refl 0⟩

/-- A buffer without octets, but with room for `n` of them. -/
def withRoom (n : Nat) : Except RoomError Frame := (checkRoom n).map fun _ => empty

def ofL2 (l2 : List UInt8) : Frame := ⟨l2, 0, Nat.zero_le _⟩

/-- A layer 1 header followed by layer 2 octets. -/
def ofParts (l1 l2 : List UInt8) : Frame := ⟨l1 ++ l2, l1.length, by simp⟩

def ofBlock (b : MacBlock) : Frame := ofL2 b.octets

def l1 (f : Frame) : List UInt8 := f.octets.take f.split

def l2 (f : Frame) : List UInt8 := f.octets.drop f.split

def length (f : Frame) : Nat := f.octets.length

def l2Length (f : Frame) : Nat := f.octets.length - f.split

def isEmpty (f : Frame) : Bool := f.octets.isEmpty

def append (f : Frame) (xs : List UInt8) : Frame :=
  ⟨f.octets ++ xs, f.split, by
    have := f.split_le
    simp only [List.length_append]
    omega⟩

/-- Zero octets added at the end, where there is room for them. -/
def appendZeros (f : Frame) (n : Nat) : Except RoomError Frame :=
  (checkRoom (f.length + n)).map fun _ => f.append (List.replicate n 0)

def mapOctets (f : Frame) (g : UInt8 → UInt8) : Frame :=
  ⟨f.octets.map g, f.split, by simpa using f.split_le⟩

/-- The octet at place `i` replaced, if there is one. -/
def setOctet (f : Frame) (i : Nat) (x : UInt8) : Frame :=
  ⟨f.octets.set i x, f.split, by simpa using f.split_le⟩

/-- The first `n` octets marked as the layer 1 header, or all of them if there are fewer. -/
def setL1Length (f : Frame) (n : Nat) : Frame :=
  ⟨f.octets, min n f.octets.length, Nat.min_le_right _ _⟩

def dropL1 (f : Frame) : Frame := ofL2 f.l2

/-- The octets in hexadecimal, a layer 1 header in brackets. -/
def text (f : Frame) : String :=
  if f.split = 0 then hexdump f.octets else "[" ++ hexdump f.l1 ++ "] " ++ hexdump f.l2

/-! ### The two parts under each operation -/

theorem l1_append_l2 (f : Frame) : f.l1 ++ f.l2 = f.octets := List.take_append_drop _ _

theorem length_l2 (f : Frame) : f.l2.length = f.l2Length := List.length_drop

theorem length_l1 (f : Frame) : f.l1.length = f.split := by simp [l1, f.split_le]

@[simp] theorem l1_ofL2 (xs : List UInt8) : (ofL2 xs).l1 = [] := rfl

@[simp] theorem l2_ofL2 (xs : List UInt8) : (ofL2 xs).l2 = xs := rfl

@[simp] theorem l1_ofParts (xs ys : List UInt8) : (ofParts xs ys).l1 = xs := by simp [ofParts, l1]

@[simp] theorem l2_ofParts (xs ys : List UInt8) : (ofParts xs ys).l2 = ys := by simp [ofParts, l2]

@[simp] theorem l1_append (f : Frame) (xs : List UInt8) : (f.append xs).l1 = f.l1 :=
  List.take_append_of_le_length f.split_le

@[simp] theorem l2_append (f : Frame) (xs : List UInt8) : (f.append xs).l2 = f.l2 ++ xs :=
  List.drop_append_of_le_length f.split_le

@[simp] theorem l1_dropL1 (f : Frame) : f.dropL1.l1 = [] := rfl

@[simp] theorem l2_dropL1 (f : Frame) : f.dropL1.l2 = f.l2 := rfl

@[simp] theorem octets_dropL1 (f : Frame) : f.dropL1.octets = f.l2 := rfl

end Frame
end BaseStation
