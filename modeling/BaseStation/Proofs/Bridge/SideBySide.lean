import BaseStation.Bridge.State

/-!
Steps side by side, from two states that correspond. They match if they come to the same result and
to corresponding states again, with corresponding doings on the way. There is one rule for each way
in which steps are put together, so that two steps are compared along their text. Which states and
which doings correspond is up to the comparison.
-/

namespace BaseStation.Bridge

variable {σ φ α β : Type}

/-- Which states correspond, and whether what is done from the first two states to the last two
does. -/
structure Comparison (σ φ : Type) where
  states : World σ φ → World σ φ → Prop
  doings : World σ φ → World σ φ → World σ φ → World σ φ → Prop
  idle : ∀ w w', doings w w' w w'
  join : ∀ {w w' v v' u u'}, doings w w' v v' → doings v v' u u' → doings w w' u u'

namespace Comparison

/-- From corresponding states the two changes lead to corresponding ones. -/
def Keeps (c : Comparison σ φ) (f h : World σ φ → World σ φ) : Prop :=
  ∀ w w' : World σ φ, c.states w w' → c.states (f w) (h w') ∧ c.doings w w' (f w) (h w')

/-- Side by side from corresponding states the two steps do the same, as far as the comparison
goes. -/
def Matches (c : Comparison σ φ) (m s : Step σ φ α) : Prop :=
  ∀ w w' : World σ φ, c.states w w' →
    (m w).1 = (s w').1 ∧ c.states (m w).2 (s w').2 ∧ c.doings w w' (m w).2 (s w').2

/-- Side by side from corresponding states the parties answer the two calls in the same way. -/
def Answers (c : Comparison σ φ) (site : Site σ φ) (q q' : Call) : Prop :=
  ∀ w w' : World σ φ, c.states w w' →
    HEq (ask site q w).1 (ask site q' w').1 ∧ c.states (ask site q w).2 (ask site q' w').2 ∧
      c.doings w w' (ask site q w).2 (ask site q' w').2

namespace Matches

variable {c : Comparison σ φ} {site : Site σ φ} {q q' : Call} {trx : UInt8} {id : LchanId}

/-! ### Steps that always end well -/

theorem done {a : α} : c.Matches (pure a : Step σ φ α) (pure a) :=
  fun w w' states => ⟨rfl, states, c.idle w w'⟩

theorem bind {m s : Step σ φ α} {k j : α → Step σ φ β} (hm : c.Matches m s)
    (hk : ∀ a, c.Matches (k a) (j a)) : c.Matches (m >>= k) (s >>= j) := by
  intro w w' states
  obtain ⟨same, between, first⟩ := hm w w' states
  obtain ⟨result, after, second⟩ := hk (m w).1 _ _ between
  have started : (s >>= j) w' = j (m w).1 (s w').2 := congrArg (j · (s w').2) same.symm
  rw [started]
  exact ⟨result, after, c.join first second⟩

theorem read {k j : World σ φ → Step σ φ β}
    (h : ∀ w w', c.states w w' → c.Matches (k w) (j w')) : c.Matches (get >>= k) (get >>= j) :=
  fun w w' states => h w w' states w w' states

theorem write {f h : World σ φ → World σ φ} {k j : PUnit → Step σ φ β} (keeps : c.Keeps f h)
    (hk : c.Matches (k ⟨⟩) (j ⟨⟩)) : c.Matches (modify f >>= k) (modify h >>= j) :=
  bind (m := modify f) (s := modify h) (fun w w' states => ⟨rfl, keeps w w' states⟩) fun _ => hk

theorem askedAt {k : q.Answer → Step σ φ β} {j : q'.Answer → Step σ φ β}
    (answers : c.Answers site q q') (hk : ∀ a a', HEq a a' → c.Matches (k a) (j a')) :
    c.Matches (ask site q >>= k) (ask site q' >>= j) := by
  intro w w' states
  obtain ⟨same, between, first⟩ := answers w w' states
  obtain ⟨result, after, second⟩ := hk _ _ same _ _ between
  exact ⟨result, after, c.join first second⟩

theorem asked {k j : q.Answer → Step σ φ β} (answers : c.Answers site q q)
    (hk : ∀ a, c.Matches (k a) (j a)) : c.Matches (ask site q >>= k) (ask site q >>= j) :=
  askedAt answers fun a _ same => eq_of_heq same ▸ hk a

theorem told {k j : Unit → Step σ φ β} (answers : c.Answers site q q')
    (hk : c.Matches (k ()) (j ())) : c.Matches (tell site q >>= k) (tell site q' >>= j) :=
  askedAt (k := fun _ => k ()) (j := fun _ => j ()) answers fun _ _ _ => hk

theorem last {m s : Step σ φ β} (h : c.Matches (m >>= pure) (s >>= pure)) : c.Matches m s := h

/-! ### Steps that can fail -/

theorem succeed {a : β} : c.Matches (pure a : Act σ φ β) (pure a : Act σ φ β) :=
  fun w w' states => ⟨rfl, states, c.idle w w'⟩

theorem failed {e : Failure} : c.Matches (throw e : Act σ φ β) (throw e : Act σ φ β) :=
  fun w w' states => ⟨rfl, states, c.idle w w'⟩

theorem lift {m s : Step σ φ α} {k j : α → Act σ φ β} (hm : c.Matches m s)
    (hk : ∀ a, c.Matches (k a) (j a)) :
    c.Matches (liftM m >>= k : Act σ φ β) (liftM s >>= j : Act σ φ β) :=
  bind (k := k) (j := j) hm hk

theorem lastLift {m s : Step σ φ β} (h : c.Matches m s) :
    c.Matches (liftM m : Act σ φ β) (liftM s : Act σ φ β) := by
  intro w w' states
  obtain ⟨same, after⟩ := h w w' states
  exact ⟨congrArg Except.ok same, after⟩

theorem actRead {k j : World σ φ → Act σ φ β}
    (h : ∀ w w', c.states w w' → c.Matches (k w) (j w')) :
    c.Matches (get >>= k : Act σ φ β) (get >>= j : Act σ φ β) :=
  fun w w' states => h w w' states w w' states

theorem actWrite {f h : World σ φ → World σ φ} {k j : PUnit → Act σ φ β} (keeps : c.Keeps f h)
    (hk : c.Matches (k ⟨⟩) (j ⟨⟩)) :
    c.Matches (modify f >>= k : Act σ φ β) (modify h >>= j : Act σ φ β) :=
  write (k := k) (j := j) keeps hk

theorem actAskedAt {k : q.Answer → Act σ φ β} {j : q'.Answer → Act σ φ β}
    (answers : c.Answers site q q') (hk : ∀ a a', HEq a a' → c.Matches (k a) (j a')) :
    c.Matches (liftM (ask site q) >>= k : Act σ φ β) (liftM (ask site q') >>= j : Act σ φ β) :=
  askedAt (k := k) (j := j) answers hk

theorem actAsked {k j : q.Answer → Act σ φ β} (answers : c.Answers site q q)
    (hk : ∀ a, c.Matches (k a) (j a)) :
    c.Matches (liftM (ask site q) >>= k : Act σ φ β) (liftM (ask site q) >>= j : Act σ φ β) :=
  asked (k := k) (j := j) answers hk

theorem actTold {k j : Unit → Act σ φ β} (answers : c.Answers site q q')
    (hk : c.Matches (k ()) (j ())) :
    c.Matches (liftM (tell site q) >>= k : Act σ φ β) (liftM (tell site q') >>= j : Act σ φ β) :=
  told (k := k) (j := j) answers hk

theorem actLast {m s : Act σ φ β}
    (h : c.Matches (m >>= pure : Act σ φ β) (s >>= pure : Act σ φ β)) : c.Matches m s := by
  rwa [bind_pure, bind_pure] at h

theorem caught {m s : Act σ φ β} {h h' : Failure → Act σ φ β} (hm : c.Matches m s)
    (handled : ∀ e, c.Matches (h e) (h' e)) :
    c.Matches (tryCatch m h : Act σ φ β) (tryCatch s h' : Act σ φ β) := by
  change c.Matches (ExceptT.tryCatch m h) (ExceptT.tryCatch s h')
  unfold ExceptT.tryCatch
  refine bind (m := m) (s := s) hm ?_
  rintro (e | a)
  · exact handled e
  · exact done

/-! ### Parts of handlers -/

/-- What `handDown` does once the data is captured. -/
theorem reported {p p' : Prim} (sent : c.Matches (transmit site trx p) (transmit site trx p'))
    (alarms : ∀ what, c.Answers site (.alarm (unsupportedAlarm trx p what))
      (.alarm (unsupportedAlarm trx p' what))) :
    let reported (p : Prim) : Step σ φ (Except PhyError Unit) := do
      let r ← transmit site trx p
      match r with
      | .error (.unsupported what) => tell site (.alarm (unsupportedAlarm trx p what))
      | _ => pure ()
      pure r
    c.Matches (reported p) (reported p') := by
  refine .bind sent ?_
  rintro (e | _)
  · cases e with
    | unsupported what => exact .told (alarms what) .done
    | _ => exact .done
  · exact .done

theorem down {p p' : Prim} (handed : c.Matches (handDown site trx p) (handDown site trx p')) :
    c.Matches (Bridge.down site trx p) (Bridge.down site trx p') := by
  refine .lift handed ?_
  rintro (e | _)
  · exact .failed
  · exact .succeed

/-- The timers of a channel are set, if its kind has any, before the sides go on. -/
theorem timersSet {kind : ChanKind} {type : LchanType} {k j : Act σ φ β}
    (answers : ∀ t, c.Answers site (.setT200 id t) (.setT200 id t)) (h : c.Matches k j) :
    c.Matches (do
      match site.settings.t200.forKind? kind with
      | some t => if type ≠ .pdtch then tell site (.setT200 id t) else pure ()
      | none => pure ()
      k : Act σ φ β) (do
      match site.settings.t200.forKind? kind with
      | some t => if type ≠ .pdtch then tell site (.setT200 id t) else pure ()
      | none => pure ()
      j : Act σ φ β) := by
  split
  · split
    · exact .actTold (answers _) h
    · exact h
  · exact h

end Matches
end Comparison
end BaseStation.Bridge
