import BaseStation.Access
import BaseStation.Capture
import BaseStation.Lchan.Voice
import Mathlib.Data.Int.ModEq

/-!
Frame numbers that name the same frame, whole hyperframes apart. All periods of the multiframes
divide the hyperframe, so what is read off a frame number is read off the frame that it names.
-/

namespace BaseStation

/-- The two numbers name the same frame of the hyperframe. -/
def SameFrame (f f' : UInt32) : Prop := f.toNat ≡ f'.toNat [MOD hyperframe]

instance (f f' : UInt32) : Decidable (SameFrame f f') :=
  inferInstanceAs (Decidable (f.toNat ≡ f'.toNat [MOD hyperframe]))

/-- The number of a frame within the hyperframe. -/
def reducedFrame (f : UInt32) : UInt32 := (f.toNat % hyperframe).toUInt32

theorem toNat_toUInt32 {n : Nat} (small : n < hyperframe) : n.toUInt32.toNat = n := by
  unfold hyperframe at small
  rw [Nat.toUInt32_eq, UInt32.toNat_ofNat', Nat.mod_eq_of_lt (by omega)]

theorem toNat_reducedFrame (f : UInt32) : (reducedFrame f).toNat = f.toNat % hyperframe :=
  toNat_toUInt32 (Nat.mod_lt _ (by decide))

theorem sameFrame_iff {f f' : UInt32} : SameFrame f f' ↔ reducedFrame f = reducedFrame f' := by
  rw [← UInt32.toNat_inj, toNat_reducedFrame, toNat_reducedFrame]
  rfl

theorem sameFrame_reducedFrame (f : UInt32) : SameFrame f (reducedFrame f) := by
  unfold SameFrame
  rw [toNat_reducedFrame]
  exact (Nat.mod_modEq f.toNat hyperframe).symm

theorem frameDiff_congr {a a' b b' : Nat} (first : a ≡ a' [MOD hyperframe])
    (second : b ≡ b' [MOD hyperframe]) : frameDiff a b = frameDiff a' b' := by
  have same : (a - b : Int) ≡ a' - b' [ZMOD hyperframe] :=
    (Int.natCast_modEq_iff.mpr first).sub (Int.natCast_modEq_iff.mpr second)
  unfold frameDiff
  rw [Int.bmod_def, Int.bmod_def, same]

/-- The numbers name the same frame, if there are numbers. -/
def SameLast (last last' : Option UInt32) : Prop := last.map reducedFrame = last'.map reducedFrame

namespace SameFrame

variable {f f' : UInt32} (same : SameFrame f f')
include same

theorem symm : SameFrame f' f := Nat.ModEq.symm same

/-! ### Places in the multiframes -/

theorem mod_eq {period : Nat} (whole : period ∣ hyperframe) :
    f.toNat % period = f'.toNat % period := Nat.ModEq.of_dvd whole same

theorem isPtcch : isPtcch f.toNat = isPtcch f'.toNat := by
  unfold BaseStation.isPtcch
  rw [same.mod_eq (by decide)]

theorem macBlock : macBlock f.toNat = macBlock f'.toNat := by
  unfold BaseStation.macBlock
  rw [same.mod_eq (by decide)]

theorem ptcchBlock : ptcchBlock f.toNat = ptcchBlock f'.toNat := by
  unfold BaseStation.ptcchBlock
  rw [← Nat.mod_mul_right_div_self, ← Nat.mod_mul_right_div_self, same.mod_eq (by decide)]

theorem packetBlock : packetBlock f.toNat = packetBlock f'.toNat := by
  unfold BaseStation.packetBlock
  rw [same.isPtcch, same.ptcchBlock, same.macBlock]

theorem ccchBlock? : ccchBlock? f.toNat = ccchBlock? f'.toNat := by
  unfold BaseStation.ccchBlock?
  rw [same.mod_eq (by decide)]

theorem expiredSlots (conf : CcchConf) :
    expiredSlots conf f.toNat = expiredSlots conf f'.toNat := by
  unfold BaseStation.expiredSlots
  rw [same.mod_eq (by decide)]

/-! ### Times and differences -/

theorem ofFrame : GsmTime.ofFrame f.toNat = GsmTime.ofFrame f'.toNat := by
  unfold GsmTime.ofFrame
  congr 1

theorem framesElapsed {last last' : UInt32} (earlier : SameFrame last last') :
    framesElapsed f last = framesElapsed f' last' := by
  unfold BaseStation.framesElapsed
  rw [frameDiff_congr same earlier]

theorem voiceDuration {last last' : Option UInt32} (earlier : SameLast last last') (dtx : Bool) :
    voiceDuration f last dtx = voiceDuration f' last' dtx := by
  cases last with
  | none =>
    rw [Option.map_eq_none_iff.mp earlier.symm]
    rfl
  | some g =>
    obtain ⟨g', last', frames⟩ := Option.map_eq_some_iff.mp earlier.symm
    subst last'
    unfold BaseStation.voiceDuration
    dsimp only
    rw [same.framesElapsed (sameFrame_iff.mpr frames.symm)]

end SameFrame

/-! ### One frame, two numbers -/

/-- Two numbers of one frame. -/
structure TwoNumbers where
  left : UInt32
  right : UInt32
  same : SameFrame left right

/-- A frame number and its remainder within the hyperframe. -/
def TwoNumbers.ofRaw (f : UInt32) : TwoNumbers := ⟨f, reducedFrame f, sameFrame_reducedFrame f⟩

/-- The two are the same but for the number of their frame, if they have one: it is the left number
in the first, and the right one in the second. `put` puts a frame number in. -/
structure Echo {α : Type} (put : UInt32 → α → α) (g : TwoNumbers) (x x' : α) : Prop where
  left : put g.left x' = x
  right : put g.right x = x'

/-- The first list grows from `xs` to `ys` and the second one from `xs'` to `ys'`, by entries that
are the same but for the number of the frame. -/
def Echoed {α : Type} (put : UInt32 → α → α) (g : TwoNumbers) (xs xs' ys ys' : List α) : Prop :=
  ∃ zs zs', ys = xs ++ zs ∧ ys' = xs' ++ zs' ∧ Echo (fun f => List.map (put f)) g zs zs'

namespace Echoed

variable {α : Type} {put : UInt32 → α → α} {g : TwoNumbers} {x x' : α}
  {xs xs' ys ys' zs zs' : List α}

theorem refl : Echoed put g xs xs' xs xs' :=
  ⟨[], [], (List.append_nil xs).symm, (List.append_nil xs').symm, rfl, rfl⟩

theorem trans (first : Echoed put g xs xs' ys ys') (second : Echoed put g ys ys' zs zs') :
    Echoed put g xs xs' zs zs' := by
  obtain ⟨as, as', rfl, rfl, left, right⟩ := first
  obtain ⟨bs, bs', rfl, rfl, left', right'⟩ := second
  refine ⟨as ++ bs, as' ++ bs', List.append_assoc xs as bs, List.append_assoc xs' as' bs', ?_, ?_⟩
  · rw [List.map_append, left, left']
  · rw [List.map_append, right, right']

theorem singleton (echo : Echo put g x x') : Echoed put g xs xs' (xs ++ [x]) (xs' ++ [x']) :=
  ⟨[x], [x'], rfl, rfl, congrArg (fun x => [x]) echo.left, congrArg (fun x => [x]) echo.right⟩

end Echoed

/-! ### Primitives and records -/

def MphInfo.atFrame (f : UInt32) : MphInfo → MphInfo
  | time _ => .time f
  | measured m => .measured { m with fn := f }
  | i => i

/-- The primitive in frame `f`, if it is one of a frame. -/
def Prim.atFrame (f : UInt32) : Prim → Prim
  | phRtsInd p => .phRtsInd { p with fn := f }
  | phDataInd p => .phDataInd { p with fn := f }
  | phRachInd p => .phRachInd { p with fn := f }
  | tchRtsInd p => .tchRtsInd { p with fn := f }
  | tchInd p => .tchInd { p with fn := f }
  | mphInfoInd i => .mphInfoInd (i.atFrame f)
  | mphInfoCnf i => .mphInfoCnf (i.atFrame f)
  | phDataReq p => .phDataReq { p with fn := f }
  | tchReq p => .tchReq { p with fn := f }
  | mphInfoReq i => .mphInfoReq (i.atFrame f)

theorem MphInfo.kind_atFrame (i : MphInfo) (f : UInt32) : (i.atFrame f).kind = i.kind := by
  cases i <;> rfl

namespace Prim

variable (p : Prim) (f : UInt32)

@[simp] theorem type_atFrame : (p.atFrame f).type = p.type := by cases p <;> rfl

@[simp] theorem op_atFrame : (p.atFrame f).op = p.op := by cases p <;> rfl

@[simp] theorem text_atFrame : (p.atFrame f).text = p.text := by
  cases p with
  | mphInfoInd i | mphInfoCnf i | mphInfoReq i =>
    unfold atFrame text
    dsimp only
    rw [i.kind_atFrame]
  | _ => rfl

theorem atFrame_atFrame (f' : UInt32) : (p.atFrame f).atFrame f' = p.atFrame f' := by
  have info : ∀ i : MphInfo, (i.atFrame f).atFrame f' = i.atFrame f' := fun i => by cases i <;> rfl
  cases p <;> simp [atFrame, info]

end Prim

namespace Capture

def Record.atFrame (f : UInt32) (r : Record) : Record := { r with fn := f }

variable {f f' : UInt32}

theorem classify_congr (same : SameFrame f f') (chanNr linkId : UInt8) (numAgch : Nat) :
    classify chanNr linkId f.toNat numAgch = classify chanNr linkId f'.toNat numAgch := by
  unfold classify channelCategory pagingCategory
  rw [same.ccchBlock?]

theorem dataRecord?_atFrame (same : SameFrame f f') (d : PhData) (arfcn : UInt16) (pdch : Bool)
    (numAgch : Nat) (uplink : Bool) : dataRecord? { d with fn := f' } arfcn pdch numAgch uplink =
      (dataRecord? { d with fn := f } arfcn pdch numAgch uplink).map (Record.atFrame f') := by
  unfold dataRecord?
  dsimp only
  rw [same.isPtcch, same.ptcchBlock, classify_congr same]
  split <;> rfl

/-- A block is recorded with both numbers or with none. -/
theorem dataRecord?_echo (g : TwoNumbers) (d : PhData) (arfcn : UInt16) (pdch : Bool)
    (numAgch : Nat) (uplink : Bool) :
    let r? := dataRecord? { d with fn := g.left } arfcn pdch numAgch uplink
    let r'? := dataRecord? { d with fn := g.right } arfcn pdch numAgch uplink
    (r? = none ∧ r'? = none) ∨
      ∃ r r', r? = some r ∧ r'? = some r' ∧ Echo Record.atFrame g r r' := by
  intro r? r'?
  have right : r'? = r?.map (Record.atFrame g.right) :=
    dataRecord?_atFrame g.same d arfcn pdch numAgch uplink
  have left : r? = r'?.map (Record.atFrame g.left) :=
    dataRecord?_atFrame g.same.symm d arfcn pdch numAgch uplink
  cases recorded : r? with
  | none =>
    rw [recorded] at right
    exact .inl ⟨rfl, right⟩
  | some r =>
    rw [recorded] at right left
    rw [right] at left
    exact .inr ⟨r, r.atFrame g.right, rfl, right, Option.some.inj left.symm, rfl⟩

theorem rachRecord_echo (g : TwoNumbers) (p : PhRach) (arfcn : UInt16) :
    Echo Record.atFrame g (rachRecord { p with fn := g.left } arfcn)
      (rachRecord { p with fn := g.right } arfcn) := ⟨rfl, rfl⟩

end Capture
end BaseStation
