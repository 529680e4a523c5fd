import BaseStation.Proofs.Bridge.Effect
import BaseStation.Proofs.Machine.Time

/-!
Frame buffers and capture on the machine. The split of a buffer lies within its octets, so both
parts can be sliced off, and a block of any length is cut or padded to the one that is sent.
-/

namespace BaseStation.Machine

/-! ### Frame buffers -/

section Frames

variable (f : Frame)

def l1 : Checked (List UInt8) := slice f.octets 0 f.split

def l2 : Checked (List UInt8) := slice f.octets f.split f.octets.length

def l2Length : Checked Nat := minus f.octets.length f.split

/-- The buffer without its layer 1 header, which is drained. -/
def pullL1 : Checked Frame := do
  let _ ← slice f.octets 0 f.split
  let rest ← slice f.octets f.split f.octets.length
  pure (.ofL2 rest)

/-- The octets in hexadecimal, as they are logged. -/
def text : Checked String :=
  if f.split = 0 then pure (hexdump f.octets)
  else do
    let header ← l1 f
    let body ← l2 f
    pure ("[" ++ hexdump header ++ "] " ++ hexdump body)

/-- Adds up to `n` octets and the padding behind them. -/
def putPadded (src : List UInt8) (n : Nat) : Checked Frame := do
  let m := min src.length n
  let head ← slice src 0 m
  let missing ← minus n m
  pure ((f.append head).append (List.replicate missing padding))

theorem l1_eq : l1 f = .ok f.l1 := slice_zero f.split_le

theorem l2_eq : l2 f = .ok f.l2 := slice_length f.split_le

theorem l2Length_eq : l2Length f = .ok f.l2Length := minus_eq f.split_le

theorem pullL1_eq : pullL1 f = .ok f.dropL1 := by
  unfold pullL1
  rw [slice_zero f.split_le, ok_bind, slice_length f.split_le, ok_bind]
  rfl

theorem text_eq : text f = .ok f.text := by
  unfold text Frame.text
  split
  · rfl
  · rw [l1_eq, ok_bind, l2_eq, ok_bind, pure_eq_ok]

theorem putPadded_eq (src : List UInt8) (n : Nat) :
    putPadded f src n = .ok (f.append (padTo n src)) := by
  have head : src.take (min src.length n) = src.take n := by
    rw [Nat.min_comm, ← List.take_take, List.take_length]
  have missing : n - min src.length n = n - src.length := by omega
  unfold putPadded padTo
  dsimp only
  rw [slice_zero (Nat.min_le_left _ _), ok_bind, minus_eq (Nat.min_le_right _ _), ok_bind, head,
    missing, pure_eq_ok]
  simp [Frame.append]

end Frames

/-! ### Categories -/

def pagingCategory (fn numAgch : Nat) : Checked Gsmtap.Channel := do
  match ← ccchBlock? fn with
  | some b => pure (if b < numAgch then .agch else .pch)
  | none => pure .pch

def channelCategory (chanNr : UInt8) (fn numAgch : Nat) : Checked (Gsmtap.Channel × UInt8) :=
  match ChanAddr.decode chanNr with
  | .ok a =>
    match a.kind with
    | .tchF => pure (.tchF, 0)
    | .tchH => pure (.tchH, a.ss.getD 0)
    | .sdcch4 | .sdcch8 => pure (.sdcch, a.ss.getD 0)
    | .bcch => pure (.bcch, 0)
    | .pchAgch => do
      let c ← pagingCategory fn numAgch
      pure (c, 0)
    | .rach | .pdch => pure (.unknown, 0)
  | .error _ => pure (.unknown, 0)

def classify (chanNr linkId : UInt8) (fn numAgch : Nat) : Checked (UInt8 × UInt8) := do
  let (c, ss) ← channelCategory chanNr fn numAgch
  pure (if isSacchLink linkId then c.code ||| Gsmtap.acchFlag else c.code, ss)

theorem channelCategory_eq (chanNr : UInt8) (fn numAgch : Nat) :
    channelCategory chanNr fn numAgch = .ok (Capture.channelCategory chanNr fn numAgch) := by
  unfold channelCategory Capture.channelCategory
  cases ChanAddr.decode chanNr with
  | error e => rfl
  | ok a =>
    obtain ⟨kind, tn, ss⟩ := a
    cases kind with
    | pchAgch =>
      dsimp only
      unfold pagingCategory Capture.pagingCategory
      rw [ccchBlock?_eq, ok_bind]
      cases BaseStation.ccchBlock? fn with
      | none => rfl
      | some b => rfl
    | _ => rfl

theorem classify_eq (chanNr linkId : UInt8) (fn numAgch : Nat) :
    classify chanNr linkId fn numAgch = .ok (Capture.classify chanNr linkId fn numAgch) := by
  unfold classify
  rw [channelCategory_eq]
  rfl

/-! ### Records -/

/-- Category and subslot of a block, by the mode of its timeslot. -/
def blockCategory (d : PhData) (pdch : Bool) (numAgch : Nat) : Checked (UInt8 × UInt8) :=
  if pdch then
    pure (if isPtcch d.fn.toNat then
      (Gsmtap.Channel.code .ptcch, (ptcchBlock d.fn.toNat).toUInt8)
      else (Gsmtap.Channel.code .pacch, 0))
  else classify d.chanNr d.linkId d.fn.toNat numAgch

/-- The record of a block, if it has one. -/
def dataRecord? (d : PhData) (arfcn : UInt16) (pdch : Bool) (numAgch : Nat) (uplink : Bool) :
    Checked (Option Capture.Record) := do
  let (category, ss) ← blockCategory d pdch numAgch
  match Capture.packetPayload? uplink (pdch && isPtcch d.fn.toNat) d.frame.octets with
  | none | some [] => pure none
  | some payload =>
    pure (some ⟨Capture.recordArfcn arfcn uplink, chanTn d.chanNr, category, ss, d.fn, payload⟩)

theorem dataRecord?_eq (d : PhData) (arfcn : UInt16) (pdch : Bool) (numAgch : Nat)
    (uplink : Bool) : dataRecord? d arfcn pdch numAgch uplink =
      .ok (Capture.dataRecord? d arfcn pdch numAgch uplink) := by
  have category : blockCategory d pdch numAgch = .ok (if pdch then
      if isPtcch d.fn.toNat then (Gsmtap.Channel.code .ptcch, (ptcchBlock d.fn.toNat).toUInt8)
      else (Gsmtap.Channel.code .pacch, 0)
      else Capture.classify d.chanNr d.linkId d.fn.toNat numAgch) := by
    unfold blockCategory
    rw [classify_eq]
    split <;> rfl
  unfold dataRecord? Capture.dataRecord?
  rw [category, ok_bind]
  dsimp only
  rcases Capture.packetPayload? uplink (pdch && isPtcch d.fn.toNat) d.frame.octets with
    _ | _ | ⟨x, xs⟩
  · rfl
  · rfl
  · rfl

/-- The filter selects the category; its bit of the mask is shifted into place. -/
def passes (f : Capture.Filter) (category : UInt8) : Checked Bool :=
  if category &&& Gsmtap.acchFlag != 0 then pure f.acch
  else do
    checkShift 32 (category &&& 31).toNat
    pure (f.mask &&& Gsmtap.maskBit category != 0)

theorem passes_eq (f : Capture.Filter) (category : UInt8) :
    passes f category = .ok (f.passes category) := by
  have low : (category &&& 31).toNat < 32 := by
    have : category.toNat &&& 31 ≤ 31 := Nat.and_le_right
    simp only [UInt8.toNat_and, UInt8.reduceToNat]
    omega
  unfold passes Capture.Filter.passes
  rw [checkShift_eq low, ok_bind, pure_eq_ok, pure_eq_ok]
  split <;> rfl

/-! ### The tap -/

section Tap

variable {σ φ : Type} (w : Bridge.World σ φ)

/-- A record for the tap: it is selected or not, and then lost if the receiver is gone. -/
def tapSend (r : Capture.Record) : Checked (Bridge.World σ φ) := do
  if ← passes w.filter r.category then
    pure (if w.tap = .received then { w with records := w.records ++ [r] } else w)
  else pure w

/-- The timeslot at a place of a carrier. -/
def slotAt (c : Carrier) (tn : UInt8) : Checked Timeslot := index c.slots.toList tn.toNat

def captureData (site : Bridge.Site σ φ) (trx : UInt8) (d : PhData) (uplink : Bool) :
    Checked (Bridge.World σ φ) :=
  if w.tap = .off then pure w
  else
    match w.bts.carrier? trx with
    | some c => do
      let slot ← slotAt c (chanTn d.chanNr)
      match ← dataRecord? d c.arfcn slot.isPdch site.settings.numAgch.toNat uplink with
      | some r => tapSend w r
      | none => pure w
    | none => pure w

def captureRach (trx : UInt8) (p : PhRach) : Checked (Bridge.World σ φ) :=
  if w.tap = .off then pure w
  else
    match w.bts.carrier? trx with
    | some c => tapSend w (Capture.rachRecord p c.arfcn)
    | none => pure w

theorem slotAt_eq (c : Carrier) (n : UInt8) : slotAt c (chanTn n) = .ok (c.slotOf n) := by
  have := chanTn_lt n
  refine index_eq ?_
  simp [Carrier.slotOf, this]

theorem tapSend_eq (r : Capture.Record) : tapSend w r = .ok (w.capture r) := by
  unfold tapSend Bridge.World.capture Bridge.World.keeps
  rw [passes_eq, ok_bind]
  cases w.filter.passes r.category with
  | false => simp
  | true => simp

theorem captureData_eq (site : Bridge.Site σ φ) (trx : UInt8) (d : PhData) (uplink : Bool) :
    captureData w site trx d uplink = .ok (w.captureData site trx d uplink) := by
  unfold captureData
  split
  · rename_i off
    rw [Bridge.captureData_of_closed (by simp [off]), pure_eq_ok]
  · unfold Bridge.World.captureData
    cases w.bts.carrier? trx with
    | none => rfl
    | some c =>
      dsimp only
      rw [slotAt_eq, ok_bind, dataRecord?_eq, ok_bind]
      cases Capture.dataRecord? d c.arfcn (c.slotOf d.chanNr).isPdch site.settings.numAgch.toNat
        uplink with
      | none => rfl
      | some r => exact tapSend_eq w r

theorem captureRach_eq (trx : UInt8) (p : PhRach) :
    captureRach w trx p = .ok (w.captureRach trx p) := by
  unfold captureRach
  split
  · rename_i off
    rw [Bridge.captureRach_of_closed (by simp [off]), pure_eq_ok]
  · unfold Bridge.World.captureRach
    cases w.bts.carrier? trx with
    | none => rfl
    | some c => exact tapSend_eq w _

end Tap
end BaseStation.Machine
