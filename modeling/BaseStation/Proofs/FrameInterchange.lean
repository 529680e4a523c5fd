import BaseStation.Proofs.Bridge.Echoed
import BaseStation.Proofs.Schedule
import BaseStation.Proofs.VoiceClock
import BaseStation.Services.Quiet

/-!
Frame numbers that are whole hyperframes apart are interchangeable. Whatever happens with the one or
with the other number does the same but for the number that is passed on; the numbers that stay in
the records of channels still name the same frames, so it goes on like that. The radio within the
program makes the same schedule of both.
-/

namespace BaseStation

/-! ### Parties and radios that do not look at frame numbers -/

theorem ScriptedServices.congruent (s : ScriptedServices) :
    ScriptedServices.services.Congruent s s := by
  refine ⟨Eq, rfl, ?_⟩
  rintro c g x _ rfl
  cases c <;> exact ⟨HEq.rfl, rfl⟩

theorem QuietServices.congruent (s : QuietServices) : QuietServices.services.Congruent s s := by
  refine ⟨Eq, rfl, ?_⟩
  rintro c g x _ rfl
  cases c <;> exact ⟨HEq.rfl, rfl⟩

/-- A radio that does the same in every frame is congruent to itself. -/
theorem PhyLink.congruent_self {φ : Type} {v : PhyLink φ}
    (blind : ∀ trx p f s, v.down trx (p.atFrame f) s = v.down trx p s) (s : φ) :
    v.Congruent s s := by
  refine ⟨Eq, rfl, ?_⟩
  rintro x _ rfl
  refine ⟨fun trx p g => ?_, fun _ _ => ⟨rfl, rfl⟩⟩
  rw [blind, blind]
  exact ⟨rfl, rfl⟩

theorem ScriptedPhy.down_atFrame (trx : UInt8) (p : Prim) (f : UInt32) (r : ScriptedPhy) :
    ScriptedPhy.link.down trx (p.atFrame f) r = ScriptedPhy.link.down trx p r := by
  change (r.mode.answer (p.atFrame f), r) = (r.mode.answer p, r)
  unfold PhyMode.answer
  rw [Prim.text_atFrame]

theorem VirtualPhy.down_atFrame (trx : UInt8) (p : Prim) (f : UInt32) (v : VirtualPhy) :
    VirtualPhy.link.down trx (p.atFrame f) v = VirtualPhy.link.down trx p v := by
  have text : (p.atFrame f).text = p.text := p.text_atFrame f
  change down trx (p.atFrame f) v = down trx p v
  unfold down
  rw [text]
  cases p with
  | mphInfoReq i => cases i <;> rfl
  | mphInfoInd i | mphInfoCnf i =>
    simp only [Prim.atFrame] at text ⊢
    rw [text]
  | _ => rfl

/-- The radios of this library do the same in every frame. -/
theorem Phy.congruent (r : Phy) : Phy.link.Congruent r r := by
  refine PhyLink.congruent_self (fun trx p f r => ?_) r
  cases r with
  | silent r => rfl
  | virtual r => exact congrArg (Prod.map id Phy.virtual) (VirtualPhy.down_atFrame trx p f r)
  | scripted r => exact congrArg (Prod.map id Phy.scripted) (ScriptedPhy.down_atFrame trx p f r)

/-! ### The schedule of the radio -/

namespace VirtualPhy

variable {g : TwoNumbers} {f f' : UInt32}

theorem map_flatten_mapIdx {α β γ : Type} {xs : List α} {h : Nat → α → List β} {k : β → γ} :
    (xs.mapIdx h).flatten.map k = (xs.mapIdx fun i x => (h i x).map k).flatten := by
  rw [← List.filterMap_eq_map, filterMap_flatten_mapIdx]

theorem carrierSchedule_atFrame (same : SameFrame f f') (trx : UInt8)
    (slots : Vector Pchan numSlots) : carrierSchedule trx slots f' =
      (carrierSchedule trx slots f).map fun q => (q.1, q.2.atFrame f') := by
  have slot : (fun (tn : Nat) p => slotSchedule p tn.toUInt8 f') =
      fun tn p => (slotSchedule p tn.toUInt8 f).map (Prim.atFrame f') :=
    funext fun tn => funext fun p => slotSchedule_atFrame (same.mod_eq (period_dvd p))
  unfold carrierSchedule
  rw [slot, ← map_flatten_mapIdx, List.map_map, List.map_map]
  rfl

theorem frameIndications_atFrame (same : SameFrame f f') (v : VirtualPhy) :
    v.frameIndications f' =
      (v.frameIndications f).map fun q => (q.1, q.2.atFrame f') := by
  have carrier : (fun (trx : Nat) slots => carrierSchedule trx.toUInt8 slots f') =
      fun trx slots => (carrierSchedule trx.toUInt8 slots f).map fun q => (q.1, q.2.atFrame f') :=
    funext fun trx => funext fun slots => carrierSchedule_atFrame same trx.toUInt8 slots
  unfold frameIndications
  rw [List.map_cons, map_flatten_mapIdx, carrier]
  rfl

/-- The radio sends up the same in both frames but for the number of the frame. -/
theorem frameIndications_echo (v : VirtualPhy) (g : TwoNumbers) :
    Echo (fun f => List.map fun q => (q.1, q.2.atFrame f)) g (v.frameIndications g.left)
      (v.frameIndications g.right) :=
  ⟨(frameIndications_atFrame g.same.symm v).symm, (frameIndications_atFrame g.same v).symm⟩

end VirtualPhy

namespace Bridge

variable {σ φ : Type} {site : Site σ φ} {w w' : World σ φ}

/-! ### All that can happen -/

/-- All that can happen to the access point: an input, what the parties above write into the record
of a channel, and another tap and filter for what is captured. -/
inductive Happening where
  | input (i : Input)
  | write (id : LchanId) (x : Write)
  | listen (filter : Capture.Filter) (tap : Tap)

def Happening.atFrame (f : UInt32) : Happening → Happening
  | input i => .input (i.atFrame f)
  | h => h

/-- The result and the state after something happened. -/
def happen (site : Site σ φ) : Happening → Act σ φ Unit
  | .input i => perform site i
  | .write id x => modify (·.modifyLchan id x.apply)
  | .listen filter tap => modify fun w => { w with filter := filter, tap := tap }

theorem happen_echo (h : Happening) (g : TwoNumbers) :
    Echoes site g (happen site (h.atFrame g.left)) (happen site (h.atFrame g.right)) := by
  cases h with
  | input i => exact perform_echo i
  | write id x => exact .actLast (.actWrite (keeps_others fun _ => by cases x <;> rfl) .succeed)
  | listen filter tap =>
    exact .actLast (.actWrite (fun _ _ same => ⟨⟨same.bts, same.services, same.phy, rfl, rfl⟩,
      .refl, .refl⟩) .succeed)

/-- The state after a list of happenings. -/
def happenAll (site : Site σ φ) (w : World σ φ) (hs : List Happening) : World σ φ :=
  hs.foldl (fun w h => (happen site h w).2) w

/-- States that are congruent stay so, whichever numbers of their frames later happenings have. -/
theorem congruent_happenAll (same : Congruent site w w') (hs : List (Happening × TwoNumbers)) :
    Congruent site (happenAll site w (hs.map fun q => q.1.atFrame q.2.left))
      (happenAll site w' (hs.map fun q => q.1.atFrame q.2.right)) := by
  induction hs generalizing w w' with
  | nil => exact same
  | cons q hs ih => exact ih (happen_echo q.1 q.2 w w' same).2.1

/-- From the two states what happens with the one and the other number of a frame comes to the same
result, to congruent states, and on the way the same is done and captured but for the number. -/
structure Interchanged (site : Site σ φ) (h : Happening) (g : TwoNumbers) (w w' : World σ φ) :
    Prop where
  result : (happen site (h.atFrame g.left) w).1 = (happen site (h.atFrame g.right) w').1
  after : Congruent site (happen site (h.atFrame g.left) w).2 (happen site (h.atFrame g.right) w').2
  events : Echoed Event.atFrame g w.trace w'.trace (happen site (h.atFrame g.left) w).2.trace
    (happen site (h.atFrame g.right) w').2.trace
  records : Echoed Capture.Record.atFrame g w.records w'.records
    (happen site (h.atFrame g.left) w).2.records (happen site (h.atFrame g.right) w').2.records

/-- A frame number and its remainder within the hyperframe, and more generally any two numbers of
one frame, are interchangeable in all that happens from congruent states, one step after the other.
The virtual radio sends up the same in both frames but for the number. -/
theorem frame_numbers_interchangeable (site : Site σ φ) (same : Congruent site w w') :
    (∀ f, SameFrame f (reducedFrame f)) ∧
    (∀ (hs : List (Happening × TwoNumbers)) (h : Happening) (g : TwoNumbers),
      Interchanged site h g (happenAll site w (hs.map fun q => q.1.atFrame q.2.left))
        (happenAll site w' (hs.map fun q => q.1.atFrame q.2.right))) ∧
    ∀ (v : VirtualPhy) (g : TwoNumbers), Echo (fun f => List.map fun q => (q.1, q.2.atFrame f)) g
      (v.frameIndications g.left) (v.frameIndications g.right) := by
  refine ⟨sameFrame_reducedFrame, fun hs h g => ?_, VirtualPhy.frameIndications_echo⟩
  obtain ⟨result, after, events, records⟩ := happen_echo h g _ _ (congruent_happenAll same hs)
  exact ⟨result, after, events, records⟩

/-- A voice frame comes up on the traffic channel. -/
def voiceHappening : Happening := .input (.up 0 (.tchInd ⟨0x09, 0, true, none⟩))

/-- One voice frame comes in the second hyperframe, or at the reduced number. The channel keeps the
one or the other number, and the next voice frame lasts equally long on both sides. -/
theorem frame_numbers_interchangeable_in_call :
    let here := happenAll pausingSite pausingWorld [voiceHappening.atFrame 2715661]
    let there := happenAll pausingSite pausingWorld [voiceHappening.atFrame 13]
    Interchanged pausingSite voiceHappening (TwoNumbers.ofRaw 2715678) here there ∧
      (here.bts.lchan? ⟨0, 1, 0⟩).bind Lchan.lastFn = some 2715661 ∧
      (there.bts.lchan? ⟨0, 1, 0⟩).bind Lchan.lastFn = some 13 := by
  have same : Congruent pausingSite pausingWorld pausingWorld :=
    ⟨rfl, ScriptedServices.congruent _, PhyLink.congruent_self ScriptedPhy.down_atFrame _, rfl, rfl⟩
  obtain ⟨-, interchanged, -⟩ := frame_numbers_interchangeable pausingSite same
  exact ⟨interchanged [(voiceHappening, ⟨2715661, 13, by decide⟩)] voiceHappening (.ofRaw 2715678),
    by decide +kernel, by decide +kernel⟩

end Bridge
end BaseStation
