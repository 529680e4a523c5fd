import BaseStation.Proofs.Bridge.Run
import BaseStation.Proofs.Bridge.Tapped

/-!
The trace as a record of answers. A step of the access point is composed of a few elementary ones,
and of these only calls and orders reach the parties and the radio: what a step notes are the
answers that the parties and the radio give one after the other, and the notes account for the
states that it leaves them in.
-/

namespace BaseStation.Bridge

variable {σ φ α β : Type} {site : Site σ φ} {trx n : UInt8} {id : LchanId}

/-! ### Composed steps -/

/-- A change of the base station, of its own accord, and of what was captured if somebody receives
records, and of nothing else. -/
def DataOnly (f : World σ φ → World σ φ) : Prop :=
  ∃ g : Bts → Bts, ∀ w, ∃ rs, f w = { w with bts := g w.bts, records := rs } ∧
    (w.tap ≠ .received → rs = w.records)

theorem DataOnly.modifyBts (f : Bts → Bts) : DataOnly fun w : World σ φ => w.modifyBts f :=
  ⟨f, fun w => ⟨w.records, rfl, fun _ => rfl⟩⟩

/-- What only captures is such a change. -/
theorem DataOnly.capture {f : World σ φ → World σ φ}
    (captures : ∀ w, ∃ rs, f w = { w with records := rs })
    (closed : ∀ w, w.tap ≠ .received → f w = w) : DataOnly f := by
  refine ⟨id, fun w => ?_⟩
  obtain ⟨rs, captured⟩ := captures w
  refine ⟨rs, captured, fun shut => ?_⟩
  have same := closed w shut
  rw [captured] at same
  exact congrArg World.records same

/-- The step is composed of elementary ones. Of the state it looks at the base station alone. -/
inductive Composed (site : Site σ φ) : {α : Type} → Step σ φ α → Prop
  | done {α : Type} (a : α) : Composed site (pure a)
  | bind {α β : Type} {m : Step σ φ α} {k : α → Step σ φ β} (hm : Composed site m)
      (hk : ∀ a, Composed site (k a)) : Composed site (m >>= k)
  | look {α : Type} {k : World σ φ → Step σ φ α} (hk : ∀ w, Composed site (k w))
      (seen : ∀ w w', w.bts = w'.bts → k w = k w') : Composed site (get >>= k)
  | write {f : World σ φ → World σ φ} (data : DataOnly f) :
    Composed site (modify f : Step σ φ PUnit)
  | ask (c : Call) : Composed site (Bridge.ask site c)
  | transmit (trx : UInt8) (p : Prim) : Composed site (Bridge.transmit site trx p)
  | disconnect (trx tn : UInt8) : Composed site (Bridge.disconnect site trx tn)

theorem DataOnly.captureData (d : PhData) (uplink : Bool) :
    DataOnly (World.captureData · site trx d uplink) :=
  .capture (fun w => captureData_eq w site trx d uplink)
    fun _ closed => captureData_of_closed closed site trx d uplink

theorem DataOnly.captureRach (p : PhRach) :
    DataOnly fun w : World σ φ => w.captureRach trx p :=
  .capture (fun w => captureRach_eq w trx p) fun _ closed => captureRach_of_closed closed trx p

theorem Composed.actWrite {f : World σ φ → World σ φ} {k : PUnit → Act σ φ β} (data : DataOnly f)
    (h : Composed site (k ⟨⟩)) : Composed site (modify f >>= k : Act σ φ β) :=
  bind (k := k) (write data) fun _ => h

theorem Tapped.composed {sends : Bool} {m : Step σ φ α} (h : Tapped site sends m) :
    Composed site m := by
  induction h with
  | done a => exact .done a
  | bind _ _ ihm ihk => exact .bind ihm ihk
  | look _ seen ih => exact .look ih seen
  | write _ => exact .write (.modifyBts _)
  | ask c => exact .ask c
  | transmit trx _ => exact .transmit trx _
  | send _ trx d => exact .bind (.write (.captureData d false)) fun _ => .transmit trx _
  | disconnect trx tn => exact .disconnect trx tn

theorem perform_composed (i : Input) : Composed site (perform site i) := by
  cases heard : i.isHeard with
  | false =>
    obtain ⟨_, tapped⟩ := perform_tapped site i heard
    exact tapped.composed
  | true =>
    obtain ⟨trx, d, rfl⟩ | ⟨trx, p, rfl⟩ := Input.isHeard_iff.mp heard
    · have rest : Tapped site false (dataInd site trx d) := dataInd_tapped d
      exact .actWrite (.captureData d true) rest.composed
    · exact .actWrite (.captureRach p) (rachInd_tapped p).composed

/-! ### Answers -/

/-- From the states `s` and `p` the parties and the radio give the answers that the events have,
one after the other, and end in the states `s'` and `p'`. -/
inductive Answers (site : Site σ φ) : σ → φ → List Event → σ → φ → Prop
  | nil {s : σ} {p : φ} : Answers site s p [] s p
  | call {s s' : σ} {p p' : φ} {es : List Event} (c : Call)
      (rest : Answers site (site.services.answer c s).2 p es s' p') :
    Answers site s p (.call c (site.services.answer c s).1 :: es) s' p'
  | down {s s' : σ} {p p' : φ} {es : List Event} (trx : UInt8) (prim : Prim)
      (rest : Answers site s (site.phy.down trx prim p).2 es s' p') :
    Answers site s p (.down trx prim (site.phy.down trx prim p).1 :: es) s' p'
  | disconnect {s s' : σ} {p p' : φ} {es : List Event} (trx tn : UInt8)
      (rest : Answers site s (site.phy.disconnect trx tn p).2 es s' p') :
    Answers site s p (.disconnect trx tn (site.phy.disconnect trx tn p).1 :: es) s' p'

theorem Answers.append {s s' s'' : σ} {p p' p'' : φ} {es fs : List Event}
    (first : Answers site s p es s' p') (then' : Answers site s' p' fs s'' p'') :
    Answers site s p (es ++ fs) s'' p'' := by
  induction first with
  | nil => exact then'
  | call c _ ih => exact .call c (ih then')
  | down trx prim _ ih => exact .down trx prim (ih then')
  | disconnect trx tn _ ih => exact .disconnect trx tn (ih then')

/-- The notes of a composed step account for the states in which it leaves the parties and the
radio. -/
theorem Composed.answers {m : Step σ φ α} (h : Composed site m) (w : World σ φ) :
    ∃ es, (m w).2.trace = w.trace ++ es ∧
      Answers site w.services w.phy es (m w).2.services (m w).2.phy := by
  induction h generalizing w with
  | done => exact ⟨[], (List.append_nil _).symm, .nil⟩
  | look hk seen ih => exact ih w w
  | @bind α β m k hm hk ihm ihk =>
    obtain ⟨es, ht, first⟩ := ihm w
    obtain ⟨fs, hs, rest⟩ := ihk (m w).1 (m w).2
    refine ⟨es ++ fs, ?_, first.append rest⟩
    rw [← List.append_assoc, ← ht]
    exact hs
  | @write f data =>
    obtain ⟨g, data⟩ := data
    obtain ⟨rs, changed, -⟩ := data w
    change ∃ es, (f w).trace = w.trace ++ es ∧
      Answers site w.services w.phy es (f w).services (f w).phy
    rw [changed]
    exact ⟨[], (List.append_nil _).symm, .nil⟩
  | ask c => exact ⟨_, rfl, .call c .nil⟩
  | transmit trx p => exact ⟨_, rfl, .down trx p .nil⟩
  | disconnect trx tn => exact ⟨_, rfl, .disconnect trx tn .nil⟩

/-- What a step comes to, together with the answers given on the way. -/
theorem step_answered (site : Site σ φ) (i : Input) (w : World σ φ) :
    ∃ es, (step site i w).2.trace = w.trace ++ es ∧
      StepOutcome site w.bts i (step site i w).1 (step site i w).2.bts es ∧
      Answers site w.services w.phy es (step site i w).2.services (step site i w).2.phy := by
  obtain ⟨es, ht, outcome⟩ := step_outcome site i w
  have composed : Composed site (perform site i) := perform_composed i
  obtain ⟨fs, hs, answers⟩ := composed.answers w
  have same : es = fs := List.append_cancel_left (ht.symm.trans hs)
  exact ⟨es, ht, outcome, same ▸ answers⟩

end BaseStation.Bridge
