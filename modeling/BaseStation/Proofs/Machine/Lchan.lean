import BaseStation.Proofs.Machine.Word
import BaseStation.Proofs.Supervision

/-!
The record of a logical channel on the machine: timing offsets, the counter of the radio link, the
look at blocks for ciphering, the rotation of the filling, the downlink queue and the timers. The
counter and the queue of a channel stay in bounds, and with these every step fits in its word and
every index in its list.
-/

namespace BaseStation.Machine

/-! ### Bounds -/

/-- A queue with one place, which holds one frame at the most. -/
structure Short (q : VoiceQueue) : Prop where
  waiting : q.frames.length ≤ 1
  limit : q.limit = 1

/-- What the record of a channel keeps to: the counter of the radio link does not leave its range,
and one voice frame waits at the most. -/
structure LchanBounds (ceiling : Int) (l : Lchan) : Prop where
  counter : WithinCeiling ceiling l.s
  queue : Short l.queue

/-! ### Timing offsets -/

/-- A timing offset in symbols as RSL carries it, if one octet can. -/
def biased? (symbols : Int) : Checked (Option UInt8) := do
  let b ← signed 32 (symbols + Measurements.offsetBias)
  pure (if 0 ≤ b ∧ b ≤ 255 then some b.toNat.toUInt8 else none)

/-- Stores a timing offset, as a measured one or as that of an access burst. -/
def setOffset (m : Measurements) (symbols : Int) (measured : Bool) : Checked Measurements := do
  match ← biased? symbols with
  | some b =>
    pure (if measured then { m with msTimingOffset := some b, accessOffset := none }
      else { m with accessOffset := some b, msTimingOffset := none })
  | none => pure m

def addMeasured (m : Measurements) (x : Measured) : Checked Measurements :=
  setOffset (m.push ⟨x.taOffset, x.ber10k, x.invRssi⟩) (Int.tdiv x.taOffset.toInt 4) true

theorem biased?_eq {symbols : Int} (low : -2 ^ 31 ≤ symbols) (high : symbols < 2 ^ 31 - 63) :
    biased? symbols = .ok (Measurements.biased? symbols) := by
  have bias : Measurements.offsetBias = 63 := rfl
  unfold biased?
  rw [signed_eq (by omega) (by omega)]
  rfl

section Offsets

variable (m : Measurements)

theorem setOffset_measured {symbols : Int} (low : -2 ^ 31 ≤ symbols)
    (high : symbols < 2 ^ 31 - 63) : setOffset m symbols true = .ok (m.setMsTiming symbols) := by
  unfold setOffset Measurements.setMsTiming
  rw [biased?_eq low high, ok_bind]
  cases Measurements.biased? symbols <;> rfl

/-- The delay of an access burst is an octet. -/
theorem setOffset_delay (delay : UInt8) :
    setOffset m delay.toNat false = .ok (m.setAccessOffset delay.toNat) := by
  have octet := delay.toNat_lt
  unfold setOffset Measurements.setAccessOffset
  rw [biased?_eq (by omega) (by omega), ok_bind]
  cases Measurements.biased? delay.toNat <;> rfl

theorem addMeasured_eq (x : Measured) : addMeasured m x = .ok (m.add x) := by
  have low := Int16.le_toInt x.taOffset
  have high := Int16.toInt_lt x.taOffset
  have size : (x.taOffset.toInt.tdiv 4).natAbs = x.taOffset.toInt.natAbs / 4 :=
    Int.natAbs_tdiv _ _
  exact setOffset_measured _ (by omega) (by omega)

end Offsets

/-! ### The radio link -/

def onSacchFrame (l : Lchan) (ceiling : Int) (bad : Bool) : Checked (Lchan × Option RslCause) :=
  if ceiling < 0 then pure (l, none)
  else if l.s = 0 then pure (l, none)
  else if bad then do
    let s ← signed 32 (l.s - 1)
    pure ({ l with s := s }, if s = 0 then some .radioLinkFailure else none)
  else if l.s < ceiling then do
    let s ← signed 32 (l.s + 2)
    pure ({ l with s := min s ceiling }, none)
  else pure (l, none)

theorem onSacchFrame_eq {l : Lchan} {ceiling : Int} (range : WithinCeiling ceiling l.s)
    (highest : ceiling ≤ 64) (bad : Bool) :
    onSacchFrame l ceiling bad = .ok (l.onSacchFrame ceiling bad) := by
  obtain ⟨low, high⟩ := range
  unfold onSacchFrame Lchan.onSacchFrame
  by_cases off : ceiling < 0
  · simp [off]
  · have low := low (by omega)
    rw [signed_eq (by omega) (by omega), signed_eq (by omega) (by omega)]
    by_cases zero : l.s = 0
    · simp [zero]
    · cases bad with
      | true => simp [off, zero]
      | false =>
        by_cases below : l.s < ceiling
        · simp [off, zero, below]
        · simp [off, zero, below]

/-! ### Ciphering -/

def isCipheringModeCommand (xs : List UInt8) : Checked Bool :=
  if xs.length < cipherCommandLength then pure false
  else do
    let address ← index xs 0
    if address = Lapdm.Address.networkCommand then
      let l3 ← slice xs Lapdm.l3Offset xs.length
      match Layer3.Header.parse l3 with
      | .ok h => pure (h.expectRr .cipheringModeCommand).toBool
      | .error _ => pure false
    else pure false

def checkDownlink (l : Lchan) (chanNr : UInt8) (xs : List UInt8) :
    Checked (Lchan × Option CipherRequest) :=
  if l.cipher = .none ∨ l.cipher = .rxRequested then do
    if ← isCipheringModeCommand xs then
      let control ← index xs 1
      let ns := (control >>> 1) &&& 0x07
      let next ← unsigned 8 (ns.toNat + 1)
      pure ({ l with cipherNs := (next % 8).toUInt8, cipher := .rxRequested },
        some ⟨chanNr, false, true⟩)
    else pure (l, none)
  else pure (l, none)

def acknowledges (nr : UInt8) (xs : List UInt8) : Checked Bool :=
  if xs.length < 2 then pure false
  else do
    let address ← index xs 0
    let control ← index xs 1
    pure (address == Lapdm.Address.mobileResponse && control &&& 0x01 == 0 && control >>> 5 == nr)

def checkUplink (l : Lchan) (chanNr : UInt8) (xs : List UInt8) :
    Checked (Lchan × Option CipherRequest) :=
  if l.cipher = .rxConfirmed then do
    if ← acknowledges l.cipherNs xs then
      pure ({ l with cipher := .txEnabled }, some ⟨chanNr, true, false⟩)
    else pure (l, none)
  else pure (l, none)

theorem isCipheringModeCommand_eq (xs : List UInt8) :
    isCipheringModeCommand xs = .ok (BaseStation.isCipheringModeCommand xs) := by
  unfold isCipheringModeCommand BaseStation.isCipheringModeCommand
  by_cases short : xs.length < cipherCommandLength
  · simp [short]
  · cases xs with
    | nil => simp [cipherCommandLength] at short
    | cons a xs =>
      have long : Lapdm.l3Offset ≤ (a :: xs).length := by
        unfold cipherCommandLength at short
        omega
      rw [if_neg short, index_eq (x := a) rfl, ok_bind, slice_length long, ok_bind]
      by_cases network : a = Lapdm.Address.networkCommand
      · have passed : ¬ ((a :: xs).length < cipherCommandLength ||
            (a :: xs).head? != some Lapdm.Address.networkCommand) = true := by
          rw [Bool.or_eq_true, decide_eq_true_eq, not_or]
          exact ⟨short, by simp [network]⟩
        rw [if_pos network, if_neg passed]
        cases Layer3.Header.parse ((a :: xs).drop Lapdm.l3Offset) <;> rfl
      · simp [network]

/-- A command has an octet with its send number. -/
theorem long_of_isCipheringModeCommand {xs : List UInt8}
    (command : BaseStation.isCipheringModeCommand xs = true) : 5 ≤ xs.length := by
  unfold BaseStation.isCipheringModeCommand at command
  split at command
  · cases command
  · rename_i long
    simp only [Bool.or_eq_true, decide_eq_true_eq, not_or] at long
    exact Nat.le_of_not_lt long.1

section Ciphering

variable (l : Lchan) (chanNr : UInt8) (xs : List UInt8)

theorem checkDownlink_eq : checkDownlink l chanNr xs = .ok (l.checkDownlink chanNr xs) := by
  unfold checkDownlink Lchan.checkDownlink
  by_cases awaited : l.cipher = .none ∨ l.cipher = .rxRequested
  · rw [if_pos awaited, isCipheringModeCommand_eq, ok_bind]
    cases command : BaseStation.isCipheringModeCommand xs with
    | false => simp
    | true =>
      have long := long_of_isCipheringModeCommand command
      match xs, long with
      | a :: c :: xs, _ =>
        have small : ((c >>> 1) &&& 7).toNat ≤ 7 := by
          rw [UInt8.toNat_and]
          exact Nat.and_le_right
        rw [if_pos rfl, index_eq (x := c) rfl, ok_bind]
        dsimp only
        rw [unsigned_eq (by omega), ok_bind, if_pos ⟨awaited, rfl⟩, pure_eq_ok]
        have number : ((((c >>> 1) &&& 7).toNat + 1) % 8).toUInt8 =
            (((c >>> 1) &&& 7) + 1) % 8 := by
          have eight : (8 : UInt8).toNat = 8 := rfl
          have one : (1 : UInt8).toNat = 1 := rfl
          rw [← UInt8.toNat_inj, UInt8.toNat_mod, UInt8.toNat_add, UInt8.toNat_ofNat', eight, one]
          omega
        rw [number]
        rfl
  · rw [if_neg awaited, if_neg fun h => awaited h.1, pure_eq_ok]

theorem acknowledges_eq (nr : UInt8) : acknowledges nr xs = .ok (Lchan.acknowledges nr xs) := by
  match xs with
  | [] => rfl
  | [_] => rfl
  | a :: c :: xs =>
    unfold acknowledges Lchan.acknowledges
    rw [if_neg (by simp), index_eq (x := a) rfl, ok_bind, index_eq (x := c) rfl]
    rfl

theorem checkUplink_eq : checkUplink l chanNr xs = .ok (l.checkUplink chanNr xs) := by
  unfold checkUplink Lchan.checkUplink
  rw [acknowledges_eq, ok_bind]
  by_cases confirmed : l.cipher = .rxConfirmed
  · cases Lchan.acknowledges l.cipherNs xs <;> simp [confirmed]
  · simp [confirmed]

end Ciphering

/-! ### The filling -/

/-- Looks for an installed block at the places that follow the last one in the given distances,
and moves the rotation on to the first one found. -/
def search (f : SacchFill) : List Nat → Checked (Option MacBlock × SacchFill)
  | [] => pure (none, f)
  | i :: is => do
    let after ← unsigned 64 (f.last.index + 1)
    let place ← unsigned 64 (after + i)
    checkShift 32 (place % 23)
    match ← index f.blocks.toList (place % 23) with
    | some b => do
      let type ← index SysinfoType.all (place % 23)
      pure (some b, { f with last := type })
    | none => search f is

def nextFill (f : SacchFill) : Checked (Option MacBlock × SacchFill) := search f (List.range 23)

/-- The type at a distance behind another one in the rotation. -/
def typeAfter (t : SysinfoType) (i : Nat) : SysinfoType :=
  SysinfoType.all.get ⟨(t.index + 1 + i) % 23, Nat.mod_lt _ (by decide)⟩

theorem index_typeAfter (t : SysinfoType) (i : Nat) :
    (typeAfter t i).index.val = (t.index + 1 + i) % 23 := by
  have every : ∀ k : Fin 23, (SysinfoType.all.get k).index = k := by decide
  exact congrArg Fin.val (every ⟨_, Nat.mod_lt _ (by decide)⟩)

theorem after_eq (t : SysinfoType) : SysinfoType.after t = (List.range 23).map (typeAfter t) := by
  cases t <;> decide

theorem search_eq (f : SacchFill) {is : List Nat} (low : ∀ i ∈ is, i < 23) :
    search f is = .ok (match (is.map (typeAfter f.last)).find? f.isValid with
      | some t => (f.block? t, { f with last := t })
      | none => (none, f)) := by
  induction is with
  | nil => rfl
  | cons i is ih =>
    have first := low i List.mem_cons_self
    have rest := ih fun j hj => low j (List.mem_cons_of_mem _ hj)
    have last := f.last.index.isLt
    have place : (f.last.index.val + 1 + i) % 23 < 23 := Nat.mod_lt _ (by decide)
    have type : SysinfoType.all[(f.last.index.val + 1 + i) % 23]? = some (typeAfter f.last i) :=
      List.getElem?_eq_getElem place
    have block : f.blocks.toList[(f.last.index.val + 1 + i) % 23]? =
        some (f.block? (typeAfter f.last i)) := by
      simp [SacchFill.block?, index_typeAfter, place]
    rw [search, unsigned_eq (by omega), ok_bind, unsigned_eq (by omega), ok_bind,
      checkShift_eq (by omega), ok_bind, index_eq block, ok_bind, List.map_cons, List.find?_cons]
    cases here : f.block? (typeAfter f.last i) with
    | none => simp [SacchFill.isValid, here, rest]
    | some b =>
      have valid : f.isValid (typeAfter f.last i) = true := by simp [SacchFill.isValid, here]
      simp only [index_eq type, ok_bind, pure_eq_ok, valid, here]

theorem nextFill_eq (f : SacchFill) : nextFill f = .ok f.next := by
  unfold nextFill SacchFill.next
  rw [after_eq]
  exact search_eq f fun i hi => List.mem_range.mp hi

/-! ### The queue -/

/-- Drives frames out while the queue is full, and counts them. -/
def driveOut (limit : Nat) : List VoiceFrame → Nat → Checked (List VoiceFrame × Nat)
  | [], dropped => pure ([], dropped)
  | f :: fs, dropped =>
    if limit ≤ (f :: fs).length then do
      let dropped ← unsigned 64 (dropped + 1)
      driveOut limit fs dropped
    else pure (f :: fs, dropped)

def push (q : VoiceQueue) (f : VoiceFrame) : Checked (VoiceQueue × Nat) := do
  let (kept, dropped) ← driveOut q.limit q.frames 0
  pure (⟨kept ++ [f], q.limit⟩, dropped)

theorem driveOut_eq {limit dropped : Nat} {fs : List VoiceFrame}
    (room : dropped + fs.length < 2 ^ 64) :
    driveOut limit fs dropped = .ok (fs.drop (min fs.length (fs.length + 1 - limit)),
      dropped + min fs.length (fs.length + 1 - limit)) := by
  induction fs generalizing dropped with
  | nil => simp [driveOut]
  | cons f fs ih =>
    rw [List.length_cons] at room
    rw [driveOut, List.length_cons]
    split
    · rename_i full
      rw [unsigned_eq (by omega), ok_bind, ih (by omega)]
      have one : min (fs.length + 1) (fs.length + 1 + 1 - limit) =
          min fs.length (fs.length + 1 - limit) + 1 := by omega
      rw [one, List.drop_succ_cons]
      congr 2
      omega
    · rename_i free
      have none : min (fs.length + 1) (fs.length + 1 + 1 - limit) = 0 := by omega
      rw [none]
      rfl

/-- With as many frames as a word can count, the frames that are driven out are counted right. -/
theorem push_eq_of_lt {q : VoiceQueue} (few : q.frames.length < 2 ^ 64) (f : VoiceFrame) :
    push q f = .ok (q.push f) := by
  unfold push
  rw [driveOut_eq (by omega), ok_bind, Nat.zero_add]
  rfl

theorem push_eq {q : VoiceQueue} (short : Short q) (f : VoiceFrame) :
    push q f = .ok (q.push f) :=
  push_eq_of_lt (Nat.lt_of_le_of_lt short.waiting (by decide)) f

theorem Short.push {q : VoiceQueue} (short : Short q) (f : VoiceFrame) : Short (q.push f).1 := by
  have le := q.length_push_le f
  rw [short.limit] at le
  exact ⟨le, short.limit⟩

theorem Short.pop {q : VoiceQueue} (short : Short q) : Short q.pop.2 := by
  have waiting := short.waiting
  refine ⟨?_, short.limit⟩
  simp only [VoiceQueue.pop, List.length_tail]
  omega

theorem Short.clear {q : VoiceQueue} (short : Short q) : Short q.clear :=
  ⟨Nat.zero_le 1, short.limit⟩

/-! ### Timers -/

/-- The timers for a kind of channel, by their places in the table. -/
def timers? (t : T200Table) (kind : ChanKind) : Checked (Option T200Set) :=
  let set (places : List Nat) : Checked (Option T200Set) := do
    match ← places.mapM (index t.toList) with
    | [a, b, c, d] => pure (some ⟨a, b, c, d⟩)
    | _ => pure none
  match kind with
  | .sdcch4 | .sdcch8 => set [0, 5, 4, 4]
  | .tchF => set [1, 1, 3, 6]
  | .tchH => set [2, 2, 3, 6]
  | _ => pure none

theorem timers?_eq (t : T200Table) (kind : ChanKind) : timers? t kind = .ok (t.forKind? kind) := by
  cases kind <;> rfl

end BaseStation.Machine
