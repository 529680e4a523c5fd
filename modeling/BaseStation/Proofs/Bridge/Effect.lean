import BaseStation.Bridge.Basic
import BaseStation.Proofs.Bts

/-!
What a step of the access point comes to in terms of the data alone: its result, the data it
leaves and the events it notes, whatever the parties and the radio answer. There is one rule for
each way in which steps are put together, so that the effect of a handler is derived along its
text.
-/

namespace BaseStation.Bridge

variable {σ φ α β : Type} {site : Site σ φ} {b b' : Bts}

/-- Started on the data `b`, the step ends so that `Q` holds of its result, of the data it leaves
and of the events it notes. -/
def Ensures (b : Bts) (m : Step σ φ α) (Q : α → Bts → List Event → Prop) : Prop :=
  ∀ w : World σ φ, w.bts = b →
    ∃ es, (m w).2.trace = w.trace ++ es ∧ Q (m w).1 (m w).2.bts es

namespace Ensures

/-! ### Steps that always end well -/

section Steps

variable {Q : β → Bts → List Event → Prop}

theorem mono {m : Step σ φ α} {P Q : α → Bts → List Event → Prop} (hm : Ensures b m P)
    (h : ∀ a b' es, P a b' es → Q a b' es) : Ensures b m Q := by
  intro w hw
  obtain ⟨es, ht, hp⟩ := hm w hw
  exact ⟨es, ht, h _ _ _ hp⟩

theorem done {a : β} (h : Q a b []) : Ensures b (pure a : Step σ φ β) Q := by
  rintro w rfl
  exact ⟨[], (List.append_nil _).symm, h⟩

/-- The events of two steps in a row follow each other. -/
theorem bind {m : Step σ φ α} {k : α → Step σ φ β} {P : α → Bts → List Event → Prop}
    (hm : Ensures b m P)
    (hk : ∀ a b' es, P a b' es → Ensures b' (k a) fun r b'' es' => Q r b'' (es ++ es')) :
    Ensures b (m >>= k) Q := by
  intro w hw
  obtain ⟨es, ht, hp⟩ := hm w hw
  obtain ⟨es', ht', hq⟩ := hk _ _ _ hp (m w).2 rfl
  refine ⟨es ++ es', ?_, hq⟩
  rw [← List.append_assoc, ← ht]
  exact ht'

theorem read {k : World σ φ → Step σ φ β} (h : ∀ w, w.bts = b → Ensures b (k w) Q) :
    Ensures b (get >>= k) Q := fun w hw => h w hw w hw

theorem write {f : World σ φ → World σ φ} {k : PUnit → Step σ φ β}
    (hf : ∀ w, w.bts = b → (f w).bts = b' ∧ (f w).trace = w.trace) (h : Ensures b' (k ⟨⟩) Q) :
    Ensures b (modify f >>= k) Q := by
  intro w hw
  obtain ⟨hb, ht⟩ := hf w hw
  rw [← ht]
  exact h (f w) hb

theorem writeLchan {id : LchanId} {f : Lchan → Lchan} {k : PUnit → Step σ φ β}
    (h : Ensures (b.modifyLchan id f) (k ⟨⟩) Q) :
    Ensures b (modify (·.modifyLchan id f) >>= k) Q :=
  write (fun _ hw => ⟨congrArg (·.modifyLchan id f) hw, rfl⟩) h

theorem ask (c : Call) :
    Ensures b (Bridge.ask site c) fun a b' es => b' = b ∧ es = [.call c a] := by
  rintro w rfl
  exact ⟨_, rfl, rfl, rfl⟩

theorem asked {c : Call} {k : c.Answer → Step σ φ β}
    (h : ∀ a, Ensures b (k a) fun r b' es => Q r b' (.call c a :: es)) :
    Ensures b (Bridge.ask site c >>= k) Q := by
  refine bind (ask c) ?_
  rintro a _ _ ⟨rfl, rfl⟩
  exact h a

theorem told {c : Call} {k : Unit → Step σ φ β}
    (h : ∀ a, Ensures b (k ()) fun r b' es => Q r b' (.call c a :: es)) :
    Ensures b (tell site c >>= k) Q := asked h

theorem last {m : Step σ φ β} (h : Ensures b (m >>= pure) Q) : Ensures b m Q := h

end Steps

/-! ### Steps that can fail -/

section Acts

variable {Q : Except Failure β → Bts → List Event → Prop}

theorem succeed {a : β} (h : Q (.ok a) b []) : Ensures b (pure a : Act σ φ β) Q := done h

theorem refused {r : Refusal} (h : Q (.error (.refused r)) b []) :
    Ensures b (refuse r : Act σ φ β) Q := done h

/-- What follows a step is done only if the step ends well. -/
theorem andThen {m : Act σ φ α} {k : α → Act σ φ β} {P : Except Failure α → Bts → List Event → Prop}
    (hm : Ensures b m P)
    (ok : ∀ a b' es, P (.ok a) b' es → Ensures b' (k a) fun r b'' es' => Q r b'' (es ++ es'))
    (error : ∀ e b' es, P (.error e) b' es → Q (.error e) b' es) :
    Ensures b (m >>= k : Act σ φ β) Q := by
  refine bind (m := m) (k := ExceptT.bindCont k) hm ?_
  rintro (e | a) b' es hp
  · exact done (by simpa using error e b' es hp)
  · exact ok a b' es hp

/-- A step that always ends well is followed by the rest. -/
theorem lift {m : Step σ φ α} {k : α → Act σ φ β} {P : α → Bts → List Event → Prop}
    (hm : Ensures b m P)
    (hk : ∀ a b' es, P a b' es → Ensures b' (k a) fun r b'' es' => Q r b'' (es ++ es')) :
    Ensures b (liftM m >>= k : Act σ φ β) Q := bind (k := k) hm hk

theorem lastLift {m : Step σ φ β} (h : Ensures b m fun a => Q (.ok a)) :
    Ensures b (liftM m : Act σ φ β) Q := h

theorem actRead {k : World σ φ → Act σ φ β} (h : ∀ w, w.bts = b → Ensures b (k w) Q) :
    Ensures b (get >>= k : Act σ φ β) Q := fun w hw => h w hw w hw

theorem actWrite {f : World σ φ → World σ φ} {k : PUnit → Act σ φ β}
    (hf : ∀ w, w.bts = b → (f w).bts = b' ∧ (f w).trace = w.trace) (h : Ensures b' (k ⟨⟩) Q) :
    Ensures b (modify f >>= k : Act σ φ β) Q := write (k := k) hf h

theorem actWriteBts {f : Bts → Bts} {k : PUnit → Act σ φ β} (h : Ensures (f b) (k ⟨⟩) Q) :
    Ensures b (modify (·.modifyBts f) >>= k : Act σ φ β) Q :=
  actWrite (fun _ hw => ⟨congrArg f hw, rfl⟩) h

theorem actWriteLchan {id : LchanId} {f : Lchan → Lchan} {k : PUnit → Act σ φ β}
    (h : Ensures (b.modifyLchan id f) (k ⟨⟩) Q) :
    Ensures b (modify (·.modifyLchan id f) >>= k : Act σ φ β) Q := writeLchan (k := k) h

theorem actWriteSlot {trx tn : UInt8} {f : Timeslot → Timeslot} {k : PUnit → Act σ φ β}
    (h : Ensures (b.modifySlot trx tn f) (k ⟨⟩) Q) :
    Ensures b (modify (·.modifySlot trx tn f) >>= k : Act σ φ β) Q := actWriteBts h

theorem actTold {c : Call} {k : Unit → Act σ φ β}
    (h : ∀ a, Ensures b (k ()) fun r b' es => Q r b' (.call c a :: es)) :
    Ensures b (liftM (tell site c) >>= k : Act σ φ β) Q := told (k := k) h

theorem actLast {m : Act σ φ β} (h : Ensures b (m >>= pure : Act σ φ β) Q) : Ensures b m Q := by
  rwa [bind_pure] at h

/-- A step that fails is followed by the handling of the failure. -/
theorem caught {m : Act σ φ β} {h : Failure → Act σ φ β}
    {P : Except Failure β → Bts → List Event → Prop} (hm : Ensures b m P)
    (ok : ∀ a b' es, P (.ok a) b' es → Q (.ok a) b' es)
    (error : ∀ e b' es, P (.error e) b' es →
      Ensures b' (h e) fun r b'' es' => Q r b'' (es ++ es')) :
    Ensures b (tryCatch m h : Act σ φ β) Q := by
  change Ensures b (ExceptT.tryCatch m h) Q
  unfold ExceptT.tryCatch
  refine bind (m := m) hm ?_
  rintro (e | a) b' es hp
  · exact error e b' es hp
  · exact done (by simpa using ok a b' es hp)

/-! ### Parts of handlers -/

/-- Goes on with the carrier, which has to exist. -/
theorem needCarrier {trx : UInt8} {k : Carrier → Act σ φ β}
    (unknown : b.carrier? trx = none → Q (.error (.refused (.noSuchTrx trx))) b [])
    (known : ∀ c, b.carrier? trx = some c → Ensures b (k c) Q) :
    Ensures b (Bridge.needCarrier trx >>= k : Act σ φ β) Q := by
  refine andThen (P := fun r b' es => b' = b ∧ es = [] ∧
    match r with
    | .ok c => b.carrier? trx = some c
    | .error e => e = .refused (.noSuchTrx trx) ∧ b.carrier? trx = none) ?_ ?_ ?_
  · refine actRead fun w hw => ?_
    subst hw
    cases hc : w.bts.carrier? trx with
    | none => exact refused ⟨rfl, rfl, rfl, rfl⟩
    | some c => exact succeed ⟨rfl, rfl, rfl⟩
  · rintro c _ _ ⟨rfl, rfl, hc⟩
    exact known c hc
  · rintro e _ _ ⟨rfl, rfl, rfl, hc⟩
    exact unknown hc

/-- Goes on with the channel of a channel number, which has to exist. -/
theorem needLchan {trx n : UInt8} {k : LchanId × Lchan → Act σ φ β}
    (unknown : b.find? trx n = none → Q (.error (.refused (.noLchan n))) b [])
    (known : ∀ p, b.find? trx n = some p → Ensures b (k p) Q) :
    Ensures b (Bridge.needLchan trx n >>= k : Act σ φ β) Q := by
  refine andThen (P := fun r b' es => b' = b ∧ es = [] ∧
    match r with
    | .ok p => b.find? trx n = some p
    | .error e => e = .refused (.noLchan n) ∧ b.find? trx n = none) ?_ ?_ ?_
  · refine actRead fun w hw => ?_
    subst hw
    cases hp : w.bts.find? trx n with
    | none => exact refused ⟨rfl, rfl, rfl, rfl⟩
    | some p => exact succeed ⟨rfl, rfl, rfl⟩
  · rintro p _ _ ⟨rfl, rfl, hp⟩
    exact known p hp
  · rintro e _ _ ⟨rfl, rfl, rfl, hp⟩
    exact unknown hp

end Acts
end Ensures

/-! ### Towards the radio -/

/-- The events of a primitive handed down: the answer of the radio and, if it does not handle the
primitive, the report. -/
def downEvents (trx : UInt8) (p : Prim) (a : Except PhyError Unit) : List Event :=
  .down trx p a :: match a with
    | .error (.unsupported what) => [.call (.alarm (unsupportedAlarm trx p what)) ()]
    | _ => []

/-- The result of a handler that ends with the answer of the radio. -/
def downResult (a : Except PhyError Unit) : Except Failure Unit :=
  a.mapError fun e => .refused (.phy e)

/-- Capture changes the records only. -/
theorem capture_eq (w : World σ φ) (r : Capture.Record) :
    ∃ rs, w.capture r = { w with records := rs } := by
  unfold World.capture
  split <;> exact ⟨_, rfl⟩

theorem captureData_eq (w : World σ φ) (site : Site σ φ) (trx : UInt8) (d : PhData)
    (uplink : Bool) : ∃ rs, w.captureData site trx d uplink = { w with records := rs } := by
  unfold World.captureData
  split
  · split
    · exact capture_eq _ _
    · exact ⟨_, rfl⟩
  · exact ⟨_, rfl⟩

theorem captureRach_eq (w : World σ φ) (trx : UInt8) (p : PhRach) :
    ∃ rs, w.captureRach trx p = { w with records := rs } := by
  unfold World.captureRach
  split
  · exact capture_eq _ _
  · exact ⟨_, rfl⟩

/-- Nothing is kept while nobody receives records. -/
theorem capture_of_closed {w : World σ φ} (closed : w.tap ≠ .received) (r : Capture.Record) :
    w.capture r = w := by
  unfold World.capture World.keeps
  exact if_neg (by simp [closed])

theorem captureData_of_closed {w : World σ φ} (closed : w.tap ≠ .received) (site : Site σ φ)
    (trx : UInt8) (d : PhData) (uplink : Bool) : w.captureData site trx d uplink = w := by
  unfold World.captureData
  split
  · split
    · exact capture_of_closed closed _
    · rfl
  · rfl

theorem captureRach_of_closed {w : World σ φ} (closed : w.tap ≠ .received) (trx : UInt8)
    (p : PhRach) : w.captureRach trx p = w := by
  unfold World.captureRach
  split
  · exact capture_of_closed closed _
  · rfl

/-- Capture of a block leaves data and trace as they are. -/
theorem captureData_same (w : World σ φ) (site : Site σ φ) (trx : UInt8) (d : PhData)
    (uplink : Bool) : (w.captureData site trx d uplink).bts = w.bts ∧
      (w.captureData site trx d uplink).trace = w.trace := by
  obtain ⟨rs, captured⟩ := captureData_eq w site trx d uplink
  rw [captured]
  exact ⟨rfl, rfl⟩

/-- Capture of an access burst leaves data and trace as they are. -/
theorem captureRach_same (w : World σ φ) (trx : UInt8) (p : PhRach) :
    (w.captureRach trx p).bts = w.bts ∧ (w.captureRach trx p).trace = w.trace := by
  obtain ⟨rs, captured⟩ := captureRach_eq w trx p
  rw [captured]
  exact ⟨rfl, rfl⟩

theorem transmit_ensures (trx : UInt8) (p : Prim) :
    Ensures b (transmit site trx p) fun a b' es => b' = b ∧ es = [.down trx p a] := by
  rintro w rfl
  exact ⟨_, rfl, rfl, rfl⟩

theorem handDown_ensures (trx : UInt8) (p : Prim) :
    Ensures b (handDown site trx p) fun a b' es => b' = b ∧ es = downEvents trx p a := by
  have sent : Ensures b (do
      let r ← transmit site trx p
      match r with
      | .error (.unsupported what) => tell site (.alarm (unsupportedAlarm trx p what))
      | _ => pure ()
      pure r) fun a b' es => b' = b ∧ es = downEvents trx p a := by
    refine .bind (transmit_ensures trx p) ?_
    rintro (e | ⟨⟩) _ _ ⟨rfl, rfl⟩
    · cases e with
      | unsupported what => exact .told fun _ => .done ⟨rfl, rfl⟩
      | notConnected => exact .done ⟨rfl, rfl⟩
      | io what => exact .done ⟨rfl, rfl⟩
    · exact .done ⟨rfl, rfl⟩
  unfold handDown
  cases p with
  | phDataReq d =>
    exact .write (fun w hw => ⟨(captureData_same w site trx d false).1.trans hw,
      (captureData_same w site trx d false).2⟩) sent
  | _ => exact sent

theorem down_ensures (trx : UInt8) (p : Prim) :
    Ensures b (down site trx p) fun r b' es =>
      ∃ a, r = downResult a ∧ b' = b ∧ es = downEvents trx p a := by
  refine .lift (handDown_ensures trx p) ?_
  rintro (e | ⟨⟩) _ _ ⟨rfl, rfl⟩
  · exact .refused ⟨_, rfl, rfl, List.append_nil _⟩
  · exact .succeed ⟨_, rfl, rfl, List.append_nil _⟩

end BaseStation.Bridge
