import BaseStation.Proofs.Machine.Frame

/-!
# The split of a frame buffer on the machine

On the machine a frame buffer is its octets and the place where layer 2 starts, and nothing but the
operations keeps that place within the octets. From any source and through any run of operations
they do (`reach_agrees`): the machine does with the buffer what is done with the frame, and stops
for want of room only. So both parts can be read at all times, and no octet of either is lost but
those of a header that is pulled.
-/

namespace BaseStation

/-- What a frame buffer is made of. -/
inductive FrameSource where
  | empty
  /-- No octets, but room for some. -/
  | room (n : Nat)
  | l2 (xs : List UInt8)
  | parts (header body : List UInt8)

/-- An operation on a frame buffer. -/
inductive FrameOp where
  | append (xs : List UInt8)
  | appendZeros (n : Nat)
  /-- Other octets in the places of those that are there. -/
  | rewrite (g : List UInt8 → List UInt8) (same : ∀ xs, (g xs).length = xs.length)
  | setL1Length (n : Nat)
  | dropL1

/-- The octets that a source brings or takes room for. -/
def FrameSource.size : FrameSource → Nat
  | .empty => 0
  | .room n => n
  | .l2 xs => xs.length
  | .parts xs ys => xs.length + ys.length

/-- The octets that an operation adds. -/
def FrameOp.size : FrameOp → Nat
  | .append xs => xs.length
  | .appendZeros n => n
  | .rewrite .. => 0
  | .setL1Length _ => 0
  | .dropL1 => 0

/-! ### Frames -/

namespace Frame

/-- Other octets in the places of those that are there. -/
def rewrite (f : Frame) (g : List UInt8 → List UInt8)
    (same : ∀ xs, (g xs).length = xs.length) : Frame :=
  ⟨g f.octets, f.split, by rw [same]; exact f.split_le⟩

theorem length_append (f : Frame) (xs : List UInt8) :
    (f.append xs).length = f.length + xs.length :=
  List.length_append

theorem eq_append_of_appendZeros {f g : Frame} {n : Nat} (grown : f.appendZeros n = .ok g) :
    g = f.append (List.replicate n 0) :=
  eq_of_checkRoom_map grown

/-- The frame that is made of a source. -/
def ofSource : FrameSource → Except RoomError Frame
  | .empty => .ok .empty
  | .room n => withRoom n
  | .l2 xs => .ok (.ofL2 xs)
  | .parts xs ys => .ok (.ofParts xs ys)

/-- The frame behind an operation. -/
def apply (f : Frame) : FrameOp → Except RoomError Frame
  | .append xs => .ok (f.append xs)
  | .appendZeros n => f.appendZeros n
  | .rewrite g same => .ok (f.rewrite g same)
  | .setL1Length n => .ok (f.setL1Length n)
  | .dropL1 => .ok f.dropL1

/-- The frame behind a run of operations. -/
def reach (s : FrameSource) (ops : List FrameOp) : Except RoomError Frame :=
  ofSource s >>= ops.foldlM apply

end Frame

namespace Machine

/-- The machine stops because there is no room for more octets, or no word for their number. -/
inductive NoRoom : Panic → Prop
  | count {n : Nat} (wide : 2 ^ 64 ≤ n) : NoRoom (.overflow n)
  | room (e : RoomError) : NoRoom (.raised e.message)

/-- A frame buffer as the machine has it. -/
structure Buffer where
  octets : List UInt8
  /-- The place where layer 2 starts. -/
  split : Nat
deriving DecidableEq

namespace Buffer

/-! ### Buffers -/

section Operations

variable (b : Buffer)

def l1 : Checked (List UInt8) := slice b.octets 0 b.split

def l2 : Checked (List UInt8) := slice b.octets b.split b.octets.length

def l2Length : Checked Nat := minus b.octets.length b.split

/-- The sum of two numbers of octets, if there can be room for as many. -/
def roomFor (m n : Nat) : Checked Nat := do
  let count ← unsigned 64 (m + n)
  match checkRoom count with
  | .ok _ => pure count
  | .error e => .error (.raised e.message)

def append (xs : List UInt8) : Checked Buffer := do
  let _ ← roomFor b.octets.length xs.length
  pure { b with octets := b.octets ++ xs }

/-- Octets cut to a number of them, or filled up to it with zeros. -/
def resize (n : Nat) (xs : List UInt8) : List UInt8 :=
  xs.take n ++ List.replicate (n - xs.length) 0

/-- Adds zeros at the end and hands them out. -/
def appendZeros (n : Nat) : Checked Buffer := do
  let start := b.octets.length
  let count ← roomFor start n
  let octets := resize count b.octets
  let _ ← slice octets start octets.length
  pure { b with octets := octets }

def rewrite (g : List UInt8 → List UInt8) : Buffer := { b with octets := g b.octets }

def setL1Length (n : Nat) : Buffer := { b with split := min n b.octets.length }

/-- Drains the header and keeps what is behind it. -/
def pullL1 : Checked Buffer := do
  let _ ← slice b.octets 0 b.split
  let rest ← slice b.octets b.split b.octets.length
  pure ⟨rest, 0⟩

/-- The buffer behind an operation. -/
def apply : FrameOp → Checked Buffer
  | .append xs => b.append xs
  | .appendZeros n => b.appendZeros n
  | .rewrite g _ => pure (b.rewrite g)
  | .setL1Length n => pure (b.setL1Length n)
  | .dropL1 => b.pullL1

end Operations

/-- The buffer that is made of a source. -/
def ofSource : FrameSource → Checked Buffer
  | .empty => pure ⟨[], 0⟩
  | .room n => do
    let _ ← roomFor 0 n
    pure ⟨[], 0⟩
  | .l2 xs => pure ⟨xs, 0⟩
  | .parts xs ys => do
    let _ ← roomFor xs.length ys.length
    pure ⟨xs ++ ys, xs.length⟩

/-- The buffer behind a run of operations. -/
def reach (s : FrameSource) (ops : List FrameOp) : Checked Buffer := ofSource s >>= ops.foldlM apply

/-- The buffer that stands for a frame. -/
def ofFrame (f : Frame) : Buffer := ⟨f.octets, f.split⟩

/-! ### Room -/

theorem roomFor_eq {m n : Nat} (fits : m + n ≤ maxRoom) : roomFor m n = .ok (m + n) := by
  have word : m + n < 2 ^ 64 := by
    unfold maxRoom at fits
    omega
  unfold roomFor
  rw [unsigned_eq word, ok_bind, checkRoom_of_le fits]
  rfl

theorem roomFor_cases (m n : Nat) :
    m + n ≤ maxRoom ∨ ∃ e, roomFor m n = .error e ∧ NoRoom e := by
  by_cases fits : m + n ≤ maxRoom
  · exact .inl fits
  · right
    unfold roomFor unsigned
    split
    · rw [ok_bind, checkRoom, if_neg fits]
      exact ⟨_, rfl, .room _⟩
    · rename_i narrow
      exact ⟨_, rfl, .count (Nat.not_lt.mp narrow)⟩

theorem append_of_room {b : Buffer} {xs : List UInt8}
    (fits : b.octets.length + xs.length ≤ maxRoom) :
    b.append xs = .ok { b with octets := b.octets ++ xs } := by
  unfold append
  rw [roomFor_eq fits]
  rfl

theorem resize_add (n : Nat) (xs : List UInt8) :
    resize (xs.length + n) xs = xs ++ List.replicate n 0 := by
  rw [resize, List.take_of_length_le (Nat.le_add_right ..), Nat.add_sub_cancel_left]

theorem appendZeros_of_room {b : Buffer} {n : Nat} (fits : b.octets.length + n ≤ maxRoom) :
    b.appendZeros n = .ok { b with octets := b.octets ++ List.replicate n 0 } := by
  have inside : b.octets.length ≤ (b.octets ++ List.replicate n 0).length := by simp
  unfold appendZeros
  dsimp only
  rw [roomFor_eq fits, ok_bind]
  simp only [resize_add]
  rw [slice_length inside, ok_bind, pure_eq_ok]

/-! ### Side by side -/

/-- The machine does with a buffer what is done with a frame, or stops for want of room. -/
inductive Agrees : Checked Buffer → Except RoomError Frame → Prop
  | done (f : Frame) : Agrees (.ok (ofFrame f)) (.ok f)
  | stopped {e : Panic} (full : NoRoom e) (r : Except RoomError Frame) : Agrees (.error e) r

namespace Agrees

variable {x : Checked Buffer} {y : Except RoomError Frame}

theorem bind {k : Buffer → Checked Buffer} {j : Frame → Except RoomError Frame} (h : Agrees x y)
    (hk : ∀ f, Agrees (k (ofFrame f)) (j f)) : Agrees (x >>= k) (y >>= j) := by
  cases h with
  | done f => exact hk f
  | stopped full r => exact .stopped full _

/-- What asks for room first may be taken to have it. -/
theorem ofRoom {m n : Nat} {k : Nat → Checked Buffer}
    (h : m + n ≤ maxRoom → Agrees (roomFor m n >>= k) y) : Agrees (roomFor m n >>= k) y := by
  rcases roomFor_cases m n with fits | ⟨e, eq, full⟩
  · exact h fits
  · rw [eq]
    exact .stopped full y

end Agrees

theorem ofSource_agrees (s : FrameSource) : Agrees (ofSource s) (Frame.ofSource s) := by
  cases s with
  | empty => exact .done .empty
  | room n =>
    refine .ofRoom fun fits => ?_
    rw [roomFor_eq fits, Frame.ofSource, Frame.withRoom, checkRoom_of_le (by omega)]
    exact .done .empty
  | l2 xs => exact .done (.ofL2 xs)
  | parts xs ys =>
    refine .ofRoom fun fits => ?_
    rw [roomFor_eq fits]
    exact .done (.ofParts xs ys)

theorem appendZeros_agrees (f : Frame) (n : Nat) :
    Agrees ((ofFrame f).appendZeros n) (f.appendZeros n) := by
  refine .ofRoom fun (fits : f.length + n ≤ maxRoom) => ?_
  change Agrees ((ofFrame f).appendZeros n) _
  rw [appendZeros_of_room (b := ofFrame f) fits, Frame.appendZeros, checkRoom_of_le fits]
  exact .done (f.append (List.replicate n 0))

theorem pullL1_ofFrame (f : Frame) : (ofFrame f).pullL1 = .ok (ofFrame f.dropL1) := by
  unfold pullL1 ofFrame
  rw [slice_zero f.split_le, ok_bind, slice_length f.split_le, ok_bind]
  rfl

theorem apply_agrees (f : Frame) (op : FrameOp) : Agrees ((ofFrame f).apply op) (f.apply op) := by
  cases op with
  | append xs =>
    refine .ofRoom fun fits => ?_
    rw [roomFor_eq fits]
    exact .done (f.append xs)
  | appendZeros n => exact appendZeros_agrees f n
  | rewrite g same => exact .done (f.rewrite g same)
  | setL1Length n => exact .done (f.setL1Length n)
  | dropL1 =>
    rw [apply, pullL1_ofFrame]
    exact .done f.dropL1

theorem run_agrees (f : Frame) (ops : List FrameOp) :
    Agrees (ops.foldlM apply (ofFrame f)) (ops.foldlM Frame.apply f) := by
  induction ops generalizing f with
  | nil => exact .done f
  | cons op ops ih => exact (apply_agrees f op).bind ih

theorem reach_agrees (s : FrameSource) (ops : List FrameOp) :
    Agrees (reach s ops) (Frame.reach s ops) :=
  (ofSource_agrees s).bind fun f => run_agrees f ops

/-! ### Enough room -/

/-- An operation that adds no more octets than there is room for does not stop the machine. -/
theorem apply_of_room (f : Frame) {op : FrameOp} (fits : f.length + op.size ≤ maxRoom) :
    ∃ g, (ofFrame f).apply op = .ok (ofFrame g) ∧ g.length ≤ f.length + op.size := by
  cases op with
  | append xs => exact ⟨f.append xs, append_of_room fits, (f.length_append xs).le⟩
  | appendZeros n =>
    refine ⟨f.append (List.replicate n 0), appendZeros_of_room fits, ?_⟩
    rw [f.length_append, List.length_replicate, FrameOp.size]
  | rewrite g same => exact ⟨f.rewrite g same, rfl, (same f.octets).le⟩
  | setL1Length n => exact ⟨f.setL1Length n, rfl, Nat.le_refl _⟩
  | dropL1 =>
    refine ⟨f.dropL1, pullL1_ofFrame f, ?_⟩
    rw [Frame.length, f.octets_dropL1, f.length_l2]
    exact Nat.sub_le ..

theorem run_of_room (f : Frame) (ops : List FrameOp)
    (fits : f.length + (ops.map FrameOp.size).sum ≤ maxRoom) :
    ∃ g, ops.foldlM apply (ofFrame f) = .ok (ofFrame g) := by
  induction ops generalizing f with
  | nil => exact ⟨f, rfl⟩
  | cons op ops ih =>
    rw [List.map_cons, List.sum_cons] at fits
    have first : f.length + op.size ≤ maxRoom := by omega
    obtain ⟨g, done, le⟩ := apply_of_room f first
    obtain ⟨h, rest⟩ := ih g (by omega)
    refine ⟨h, ?_⟩
    rw [List.foldlM_cons, done, ok_bind, rest]

theorem ofSource_of_room {s : FrameSource} (fits : s.size ≤ maxRoom) :
    ∃ f : Frame, ofSource s = .ok (ofFrame f) ∧ f.length ≤ s.size := by
  cases s with
  | empty => exact ⟨.empty, rfl, Nat.le_refl _⟩
  | room n =>
    have room : 0 + n ≤ maxRoom := by rwa [Nat.zero_add]
    refine ⟨.empty, ?_, Nat.zero_le _⟩
    rw [ofSource, roomFor_eq room]
    rfl
  | l2 xs => exact ⟨.ofL2 xs, rfl, Nat.le_refl _⟩
  | parts xs ys =>
    refine ⟨.ofParts xs ys, ?_, ?_⟩
    · rw [ofSource, roomFor_eq fits]
      rfl
    · simp [Frame.ofParts, Frame.length, FrameSource.size]

theorem reach_of_room {s : FrameSource} {ops : List FrameOp}
    (fits : s.size + (ops.map FrameOp.size).sum ≤ maxRoom) : ∃ b, reach s ops = .ok b := by
  have first : s.size ≤ maxRoom := by omega
  obtain ⟨f, made, le⟩ := ofSource_of_room first
  obtain ⟨g, done⟩ := run_of_room f ops (by omega)
  exact ⟨ofFrame g, by rw [reach, made, ok_bind, done]⟩

/-! ### The parts -/

/-- The buffer stands for the frame: its split lies within its octets, and what is read of it are
the parts of the frame. -/
structure Reads (b : Buffer) (f : Frame) : Prop where
  same : b = ofFrame f
  range : b.split ≤ b.octets.length
  l1 : b.l1 = .ok f.l1
  l2 : b.l2 = .ok f.l2
  l2Length : b.l2Length = .ok f.l2.length

theorem reads_ofFrame (f : Frame) : Reads (ofFrame f) f where
  same := rfl
  range := f.split_le
  l1 := l1_eq f
  l2 := l2_eq f
  l2Length := by rw [f.length_l2]; exact l2Length_eq f

/-- What the operations make of the parts of the frame `f` and of the buffer `b` that stands for
it. -/
structure Parts (b : Buffer) (f : Frame) : Prop where
  reads : Reads b f
  whole : f.l1 ++ f.l2 = b.octets
  /-- Octets are added to layer 2, at its end. -/
  append : ∀ xs c, b.append xs = .ok c →
    Reads c (f.append xs) ∧ (f.append xs).l1 = f.l1 ∧ (f.append xs).l2 = f.l2 ++ xs
  appendZeros : ∀ n c, b.appendZeros n = .ok c → ∃ g, f.appendZeros n = .ok g ∧
    Reads c g ∧ g.l1 = f.l1 ∧ g.l2 = f.l2 ++ List.replicate n 0
  /-- Octets that are changed in their places stay in their part. -/
  rewrite : ∀ g same, Reads (b.rewrite g) (f.rewrite g same) ∧
    (f.rewrite g same).octets = g f.octets ∧ (f.rewrite g same).l1.length = f.l1.length
  /-- Only the split is set, and not behind the last octet. -/
  setL1Length : ∀ n, Reads (b.setL1Length n) (f.setL1Length n) ∧
    (f.setL1Length n).octets = f.octets ∧ (f.setL1Length n).split = min n f.length
  /-- The header is lost and nothing else, and there is none to be lost once more. -/
  dropL1 : ∃ c, b.pullL1 = .ok c ∧ Reads c f.dropL1 ∧ f.dropL1.octets = f.l2 ∧
    f.dropL1.l1 = [] ∧ f.dropL1.dropL1 = f.dropL1 ∧ c.pullL1 = .ok c

theorem reads_of_agrees {x : Checked Buffer} {y : Except RoomError Frame} (h : Agrees x y)
    {b : Buffer} (done : x = .ok b) : ∃ f, y = .ok f ∧ Reads b f := by
  cases h with
  | done f =>
    cases done
    exact ⟨f, rfl, reads_ofFrame f⟩
  | stopped => cases done

theorem noRoom_of_agrees {x : Checked Buffer} {y : Except RoomError Frame} (h : Agrees x y)
    {e : Panic} (stopped : x = .error e) : NoRoom e := by
  cases h with
  | done => cases stopped
  | stopped full =>
    cases stopped
    exact full

theorem parts_ofFrame (f : Frame) : Parts (ofFrame f) f where
  reads := reads_ofFrame f
  whole := f.l1_append_l2
  append xs c done := by
    obtain ⟨g, grown, reads⟩ := reads_of_agrees (apply_agrees f (.append xs)) done
    cases grown
    exact ⟨reads, f.l1_append xs, f.l2_append xs⟩
  appendZeros n c done := by
    obtain ⟨g, grown, reads⟩ := reads_of_agrees (apply_agrees f (.appendZeros n)) done
    obtain rfl := Frame.eq_append_of_appendZeros grown
    exact ⟨_, grown, reads, f.l1_append _, f.l2_append _⟩
  rewrite g same := by
    refine ⟨reads_ofFrame (f.rewrite g same), rfl, ?_⟩
    rw [Frame.length_l1, Frame.length_l1]
    rfl
  setL1Length n := ⟨reads_ofFrame (f.setL1Length n), rfl, rfl⟩
  dropL1 := ⟨ofFrame f.dropL1, pullL1_ofFrame f, reads_ofFrame f.dropL1, rfl, rfl, rfl,
    pullL1_ofFrame f.dropL1⟩

/-- From every source and through every run of operations a buffer can be read in two parts, and
the operations make of the parts what they should. The machine stops for want of room only, and not
at all where there is room for all the octets that are asked for on the way. -/
theorem split_stays_in_range (s : FrameSource) (ops : List FrameOp) :
    (∀ b, reach s ops = .ok b → ∃ f, Frame.reach s ops = .ok f ∧ Parts b f) ∧
      (∀ e, reach s ops = .error e → NoRoom e) ∧
      (s.size + (ops.map FrameOp.size).sum ≤ maxRoom → ∃ b, reach s ops = .ok b) := by
  have agrees := reach_agrees s ops
  refine ⟨fun b done => ?_, fun e stopped => noRoom_of_agrees agrees stopped, reach_of_room⟩
  obtain ⟨f, framed, reads⟩ := reads_of_agrees agrees done
  exact ⟨f, framed, reads.same ▸ parts_ofFrame f⟩

/-- A header that is said to be longer than the buffer takes all of it, what is added then belongs
to layer 2, and that alone is left behind the header. -/
theorem header_clamped_then_pulled :
    let s : FrameSource := .room 23
    let ops : List FrameOp := [.append [0x05, 0x3f, 0x01], .setL1Length 9, .append [0xaa],
      .appendZeros 1, .rewrite (·.map (· ^^^ 0xff)) (fun _ => List.length_map _)]
    s.size + (ops.map FrameOp.size).sum ≤ maxRoom ∧ ∃ b, reach s ops = .ok b ∧
      b.l1 = .ok [0xfa, 0xc0, 0xfe] ∧ b.l2 = .ok [0x55, 0xff] ∧
      ∃ c, b.pullL1 = .ok c ∧ c.l2 = .ok [0x55, 0xff] := by
  intro s ops
  have room : s.size + (ops.map FrameOp.size).sum ≤ maxRoom := by decide
  have made : Frame.reach s ops = .ok ⟨[0xfa, 0xc0, 0xfe, 0x55, 0xff], 3, by decide⟩ := rfl
  obtain ⟨readable, -, reached⟩ := split_stays_in_range s ops
  obtain ⟨b, done⟩ := reached room
  obtain ⟨f, framed, parts⟩ := readable b done
  obtain rfl := Except.ok.inj (framed.symm.trans made)
  obtain ⟨c, pulled, reads, -⟩ := parts.dropL1
  exact ⟨room, b, done, parts.reads.l1, parts.reads.l2, c, pulled, reads.l2⟩

end Buffer
end Machine
end BaseStation
