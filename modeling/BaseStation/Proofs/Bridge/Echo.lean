import BaseStation.Proofs.Bridge.SideBySide
import BaseStation.Proofs.Bridge.Step
import BaseStation.Proofs.ReducedFrames

/-!
Steps side by side on two numbers of one frame. Each side calls the parties and the radio with its
own number, and these do not tell the numbers apart; the data are the same but for last frame
numbers.
-/

namespace BaseStation

/-! ### Calls -/

namespace Call

/-- The call in frame `f`, if it is one of a frame. -/
def atFrame (f : UInt32) : Call → Call
  | dataUp lchan link data => .dataUp lchan link { data with fn := f }
  | accessUp lchan request => .accessUp lchan { request with fn := f }
  | packetRts rts => .packetRts { rts with fn := f }
  | packetData data => .packetData { data with fn := f }
  | packetAccess access => .packetAccess { access with fn := f }
  | packetTime _ => .packetTime f
  | measure lchan meas _ => .measure lchan meas f
  | c => c

variable (c : Call) (f f' : UInt32)

theorem answer_atFrame : (c.atFrame f).Answer = c.Answer := by cases c <;> rfl

theorem atFrame_atFrame : (c.atFrame f).atFrame f' = c.atFrame f' := by cases c <;> rfl

end Call

/-- From the two states the parties answer all calls in the same way, one after the other, whichever
numbers of their frames the calls carry. -/
def Services.Congruent {σ : Type} (v : Services σ) (s s' : σ) : Prop :=
  ∃ R : σ → σ → Prop, R s s' ∧ ∀ (c : Call) (g : TwoNumbers) (x x' : σ), R x x' →
    HEq (v.answer (c.atFrame g.left) x).1 (v.answer (c.atFrame g.right) x').1 ∧
      R (v.answer (c.atFrame g.left) x).2 (v.answer (c.atFrame g.right) x').2

theorem Services.Congruent.answer {σ : Type} {v : Services σ} {s s' : σ} {g : TwoNumbers}
    {c c' : Call} (h : v.Congruent s s') (echo : Echo Call.atFrame g c c') :
    HEq (v.answer c s).1 (v.answer c' s').1 ∧
      v.Congruent (v.answer c s).2 (v.answer c' s').2 := by
  obtain ⟨R, here, keep⟩ := h
  have right : c'.atFrame g.right = c' := by rw [← echo.right, Call.atFrame_atFrame]
  have answers := keep c' g s s' here
  rw [echo.left, right] at answers
  exact ⟨answers.1, R, answers.2, keep⟩

/-- From the two states the radio answers all orders in the same way, one after the other, whichever
numbers of their frames the primitives carry. -/
def PhyLink.Congruent {φ : Type} (v : PhyLink φ) (s s' : φ) : Prop :=
  ∃ R : φ → φ → Prop, R s s' ∧ ∀ x x', R x x' →
    (∀ trx (p : Prim) (g : TwoNumbers),
      (v.down trx (p.atFrame g.left) x).1 = (v.down trx (p.atFrame g.right) x').1 ∧
        R (v.down trx (p.atFrame g.left) x).2 (v.down trx (p.atFrame g.right) x').2) ∧
    ∀ trx tn, (v.disconnect trx tn x).1 = (v.disconnect trx tn x').1 ∧
      R (v.disconnect trx tn x).2 (v.disconnect trx tn x').2

namespace PhyLink.Congruent

variable {φ : Type} {v : PhyLink φ} {s s' : φ} {g : TwoNumbers} (h : v.Congruent s s')
include h

theorem down (trx : UInt8) (p : Prim) :
    (v.down trx (p.atFrame g.left) s).1 = (v.down trx (p.atFrame g.right) s').1 ∧
      v.Congruent (v.down trx (p.atFrame g.left) s).2 (v.down trx (p.atFrame g.right) s').2 := by
  obtain ⟨R, here, keep⟩ := h
  obtain ⟨same, next⟩ := (keep s s' here).1 trx p g
  exact ⟨same, R, next, keep⟩

theorem disconnect (trx tn : UInt8) : (v.disconnect trx tn s).1 = (v.disconnect trx tn s').1 ∧
    v.Congruent (v.disconnect trx tn s).2 (v.disconnect trx tn s').2 := by
  obtain ⟨R, here, keep⟩ := h
  obtain ⟨same, next⟩ := (keep s s' here).2 trx tn
  exact ⟨same, R, next, keep⟩

end PhyLink.Congruent

namespace Bridge

variable {σ φ α β : Type} {site : Site σ φ} {g : TwoNumbers} {trx tn n : UInt8} {id : LchanId}

/-- What was done, with another number of its frame. -/
def Event.atFrame (f : UInt32) : Event → Event
  | call c answer => .call (c.atFrame f) (cast (c.answer_atFrame f).symm answer)
  | down trx prim result => .down trx (prim.atFrame f) result
  | disconnect trx tn result => .disconnect trx tn result

theorem Event.echo_call {c c' : Call} {a : c.Answer} {a' : c'.Answer}
    (echo : Echo Call.atFrame g c c') (same : HEq a a') :
    Echo Event.atFrame g (.call c a) (.call c' a') := by
  have put : ∀ (f : UInt32) (c c' : Call) (a : c.Answer) (a' : c'.Answer), c.atFrame f = c' →
      HEq a a' → Event.atFrame f (.call c a) = .call c' a' := by
    rintro f c _ a a' rfl same
    exact congrArg _ (eq_of_heq ((cast_heq _ a).trans same))
  exact ⟨put g.left c' c a' a echo.left same.symm, put g.right c c' a a' echo.right same⟩

theorem Event.echo_down {p p' : Prim} {r r' : Except PhyError Unit}
    (echo : Echo Prim.atFrame g p p') (same : r = r') :
    Echo Event.atFrame g (.down trx p r) (.down trx p' r') := by
  subst same
  exact ⟨congrArg (Event.down trx · r) echo.left, congrArg (Event.down trx · r) echo.right⟩

/-- Two states that are the same but for last frame numbers, with parties and a radio that will not
tell numbers of one frame apart. -/
structure Congruent (site : Site σ φ) (w w' : World σ φ) : Prop where
  bts : w.bts.Congruent w'.bts
  services : site.services.Congruent w.services w'.services
  phy : site.phy.Congruent w.phy w'.phy
  filter : w.filter = w'.filter
  tap : w.tap = w'.tap

/-- Congruent states correspond, and what is done and captured with the one and the other number of
a frame. -/
def echoes (site : Site σ φ) (g : TwoNumbers) : Comparison σ φ where
  states := Congruent site
  doings w w' v v' := Echoed Event.atFrame g w.trace w'.trace v.trace v'.trace ∧
    Echoed Capture.Record.atFrame g w.records w'.records v.records v'.records
  idle _ _ := ⟨.refl, .refl⟩
  join first second := ⟨first.1.trans second.1, first.2.trans second.2⟩

/-- Side by side the steps do the same but for the number of the frame. -/
abbrev Echoes (site : Site σ φ) (g : TwoNumbers) (m s : Step σ φ α) : Prop :=
  (echoes site g).Matches m s

/-! ### Changes and calls -/

theorem keeps_bts {f h : Bts → Bts} (keep : ∀ b b' : Bts, b.Congruent b' → (f b).Congruent (h b')) :
    (echoes site g).Keeps (·.modifyBts f) (·.modifyBts h) :=
  fun w w' same => ⟨⟨keep w.bts w'.bts same.bts, same.services, same.phy, same.filter, same.tap⟩,
    .refl, .refl⟩

theorem keeps_load (f : RachLoad → RachLoad) :
    (echoes site g).Keeps (·.modifyBts fun b => { b with rach := f b.rach })
      (·.modifyBts fun b => { b with rach := f b.rach }) :=
  keeps_bts fun _ _ same => same.withLoad f

theorem keeps_slot {f h : Timeslot → Timeslot}
    (keep : ∀ t t', t.reduced = t'.reduced → (f t).reduced = (h t').reduced) :
    (echoes site g).Keeps (·.modifySlot trx tn f) (·.modifySlot trx tn h) :=
  keeps_bts fun _ _ same => same.modifySlot trx tn keep

theorem keeps_lchan {f h : Lchan → Lchan}
    (keep : ∀ l l', l.reduced = l'.reduced → (f l).reduced = (h l').reduced) :
    (echoes site g).Keeps (·.modifyLchan id f) (·.modifyLchan id h) :=
  keeps_bts fun _ _ same => same.modifyLchan id keep

/-- The channel is changed apart from its last frame number. -/
theorem keeps_others {f : Lchan → Lchan} (apart : ∀ l, (f l).reduced = f l.reduced) :
    (echoes site g).Keeps (·.modifyLchan id f) (·.modifyLchan id f) :=
  keeps_lchan fun l l' same => by rw [apart, same, apart]

/-- Calls that are the same but for the number of the frame have the same answer. -/
theorem answers_echo {c c' : Call} (echo : Echo Call.atFrame g c c') :
    (echoes site g).Answers site c c' := by
  intro w w' same
  obtain ⟨answers, after⟩ := same.services.answer echo
  exact ⟨answers, ⟨same.bts, after, same.phy, same.filter, same.tap⟩,
    .singleton (Event.echo_call echo answers), .refl⟩

/-! ### Look-up -/

namespace Echoes

/-- Both sides go on with the carrier, the same but for last frame numbers. -/
theorem needCarrier {k j : Carrier → Act σ φ β}
    (known : ∀ c c' : Carrier, c.reduced = c'.reduced → Echoes site g (k c) (j c')) :
    Echoes site g (Bridge.needCarrier trx >>= k : Act σ φ β)
      (Bridge.needCarrier trx >>= j : Act σ φ β) := by
  unfold Bridge.needCarrier
  rw [bind_assoc, bind_assoc]
  refine .actRead fun w w' same => ?_
  obtain ⟨left, right⟩ | ⟨c, c', left, right, carriers⟩ := same.bts.carrier? trx
  · rw [left, right]
    exact .failed
  · rw [left, right]
    exact known c c' carriers

/-- Both sides go on with the channel, the same but for the last frame number. -/
theorem needLchan {k j : LchanId × Lchan → Act σ φ β}
    (known : ∀ id l last, SameLast l.lastFn last →
      Echoes site g (k (id, l)) (j (id, { l with lastFn := last }))) :
    Echoes site g (Bridge.needLchan trx n >>= k : Act σ φ β)
      (Bridge.needLchan trx n >>= j : Act σ φ β) := by
  unfold Bridge.needLchan
  rw [bind_assoc, bind_assoc]
  refine .actRead fun w w' same => ?_
  obtain ⟨left, right⟩ | ⟨id, l, last, left, right, frames⟩ := same.bts.find? trx n
  · rw [left, right]
    exact .failed
  · rw [left, right]
    exact known id l last frames

end Echoes

/-! ### Capture -/

section Capture

variable {w w' : World σ φ} (same : Congruent site w w')
include same

theorem Congruent.capture {r r' : Capture.Record} (echo : Echo Capture.Record.atFrame g r r') :
    Congruent site (w.capture r) (w'.capture r') ∧
      (echoes site g).doings w w' (w.capture r) (w'.capture r') := by
  have keeps : w.keeps r = w'.keeps r' := by
    unfold World.keeps
    rw [same.tap, same.filter, ← echo.right]
    rfl
  unfold World.capture
  rw [keeps]
  split
  · exact ⟨⟨same.bts, same.services, same.phy, same.filter, same.tap⟩, .refl, .singleton echo⟩
  · exact ⟨same, .refl, .refl⟩

/-- A block that goes by is captured on both sides or on none. -/
theorem Congruent.captureData (trx : UInt8) (d : PhData) (uplink : Bool) :
    let v := w.captureData site trx { d with fn := g.left } uplink
    let v' := w'.captureData site trx { d with fn := g.right } uplink
    Congruent site v v' ∧ (echoes site g).doings w w' v v' := by
  intro v v'
  unfold v v' World.captureData
  obtain ⟨left, right⟩ | ⟨c, c', left, right, carriers⟩ := same.bts.carrier? trx
  · rw [left, right]
    exact ⟨same, .refl, .refl⟩
  · have mode : (c.slotOf d.chanNr).isPdch = (c'.slotOf d.chanNr).isPdch :=
      Timeslot.isPdch_congr (Carrier.slotOf_congr carriers d.chanNr)
    rw [left, right]
    dsimp only
    rw [Carrier.arfcn_congr carriers, mode]
    obtain ⟨left, right⟩ | ⟨r, r', left, right, echo⟩ := Capture.dataRecord?_echo g d c'.arfcn
      (c'.slotOf d.chanNr).isPdch site.settings.numAgch.toNat uplink
    · rw [left, right]
      exact ⟨same, .refl, .refl⟩
    · rw [left, right]
      exact same.capture echo

theorem Congruent.captureRach (trx : UInt8) (p : PhRach) :
    let v := w.captureRach trx { p with fn := g.left }
    let v' := w'.captureRach trx { p with fn := g.right }
    Congruent site v v' ∧ (echoes site g).doings w w' v v' := by
  intro v v'
  unfold v v' World.captureRach
  obtain ⟨left, right⟩ | ⟨c, c', left, right, carriers⟩ := same.bts.carrier? trx
  · rw [left, right]
    exact ⟨same, .refl, .refl⟩
  · rw [left, right]
    dsimp only
    rw [Carrier.arfcn_congr carriers]
    exact same.capture (Capture.rachRecord_echo g p c'.arfcn)

end Capture

/-! ### Towards the radio -/

theorem transmit_echo (trx : UInt8) (p : Prim) :
    Echoes site g (transmit site trx (p.atFrame g.left))
      (transmit site trx (p.atFrame g.right)) := by
  intro w w' same
  obtain ⟨answers, after⟩ := same.phy.down (g := g) trx p
  exact ⟨answers, ⟨same.bts, same.services, after, same.filter, same.tap⟩,
    .singleton (Event.echo_down ⟨Prim.atFrame_atFrame .., Prim.atFrame_atFrame ..⟩ answers), .refl⟩

theorem disconnect_echo : Echoes site g (disconnect site trx tn) (disconnect site trx tn) := by
  intro w w' same
  obtain ⟨answers, after⟩ := same.phy.disconnect trx tn
  exact ⟨answers, ⟨same.bts, same.services, after, same.filter, same.tap⟩,
    .singleton ⟨congrArg _ answers.symm, congrArg _ answers⟩, .refl⟩

theorem handDown_atFrame (trx : UInt8) (p : Prim) :
    Echoes site g (handDown site trx (p.atFrame g.left))
      (handDown site trx (p.atFrame g.right)) := by
  have alarm : ∀ what, unsupportedAlarm trx (p.atFrame g.left) what =
      unsupportedAlarm trx (p.atFrame g.right) what := by
    intro what
    simp [unsupportedAlarm]
  have alarms : ∀ what, (echoes site g).Answers site
      (.alarm (unsupportedAlarm trx (p.atFrame g.left) what))
      (.alarm (unsupportedAlarm trx (p.atFrame g.right) what)) := by
    intro what
    rw [alarm]
    exact answers_echo ⟨rfl, rfl⟩
  have reported := Comparison.Matches.reported (transmit_echo trx p) alarms
  cases p with
  | phDataReq d => exact .write (fun _ _ same => same.captureData trx d false) reported
  | _ => exact reported

theorem handDown_echo {p p' : Prim} (echo : Echo Prim.atFrame g p p') :
    Echoes site g (handDown site trx p) (handDown site trx p') := by
  have handed : Echoes site g (handDown site trx (p'.atFrame g.left))
      (handDown site trx (p'.atFrame g.right)) := handDown_atFrame trx p'
  rwa [echo.left, ← echo.right, Prim.atFrame_atFrame, echo.right] at handed

theorem down_echo {p p' : Prim} (echo : Echo Prim.atFrame g p p') :
    Echoes site g (down site trx p) (down site trx p') := .down (handDown_echo echo)

end Bridge
end BaseStation
