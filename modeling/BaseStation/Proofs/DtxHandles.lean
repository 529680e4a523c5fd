import BaseStation.Proofs.Bridge.Allotted
import BaseStation.Proofs.Bridge.Run
import Mathlib.Data.List.Induction

/-!
The controllers of discontinuous transmission. A channel takes one with its activation and holds it
until it gives it back, with the release or with the next activation: what was taken and not given
back is what the channels hold, as long as the party that keeps the controllers does not give one
out twice.
-/

namespace BaseStation.Bridge

variable {σ φ : Type} {site : Site σ φ} {b b' : Bts} {id j : LchanId} {l : Lchan}
  {hs : List DtxHandle} {h : DtxHandle} {e : Event} {es fs : List Event} {t : Turn}

/-! ### The account of the handles -/

/-- The handles that are outstanding after an event. -/
def Event.settleDtx (hs : List DtxHandle) : Event → List DtxHandle
  | .call (.dtxAlloc _) h => h :: hs
  | .call (.dtxFree h) _ => hs.erase h
  | _ => hs

/-- The handles that were taken and not given back, `hs` outstanding at first. -/
def outstandingAfter (hs : List DtxHandle) (es : List Event) : List DtxHandle :=
  es.foldl Event.settleDtx hs

/-- The handles that were taken and not given back. -/
def outstanding (es : List Event) : List DtxHandle := outstandingAfter [] es

theorem outstandingAfter_append :
    outstandingAfter hs (es ++ fs) = outstandingAfter (outstandingAfter hs es) fs :=
  List.foldl_append

/-- Of each event `P` holds, together with the handles outstanding before it. -/
def AtEach (P : List DtxHandle → Event → Prop) (hs : List DtxHandle) (es : List Event) : Prop :=
  ∀ pre e post, es = pre ++ e :: post → P (outstandingAfter hs pre) e

section AtEach

variable {P : List DtxHandle → Event → Prop}

theorem atEach_nil : AtEach P hs [] := by
  intro pre e post split
  simp at split

theorem atEach_cons : AtEach P hs (e :: es) ↔ P hs e ∧ AtEach P (e.settleDtx hs) es := by
  constructor
  · intro each
    exact ⟨each [] e es rfl, fun pre f post split => each (e :: pre) f post (by rw [split]; rfl)⟩
  · rintro ⟨first, rest⟩ pre f post split
    rcases List.cons_eq_append_iff.mp split with ⟨rfl, here⟩ | ⟨pre, rfl, later⟩
    · obtain ⟨rfl, -⟩ := List.cons.inj here
      exact first
    · exact rest pre f post later

instance decidableAtEach [∀ hs e, Decidable (P hs e)] :
    (hs : List DtxHandle) → (es : List Event) → Decidable (AtEach P hs es)
  | _, [] => .isTrue atEach_nil
  | hs, e :: es =>
    have := decidableAtEach (e.settleDtx hs) es
    decidable_of_iff _ atEach_cons.symm

theorem atEach_append :
    AtEach P hs (es ++ fs) ↔ AtEach P hs es ∧ AtEach P (outstandingAfter hs es) fs := by
  induction es generalizing hs with
  | nil => exact (and_iff_right atEach_nil).symm
  | cons e es ih =>
    rw [List.cons_append, atEach_cons, atEach_cons, ih, and_assoc]
    rfl

end AtEach

/-- A handle that is given out is not outstanding. -/
def TakesFresh (hs : List DtxHandle) : Event → Prop
  | .call (.dtxAlloc _) h => h ∉ hs
  | _ => True

instance : Decidable (TakesFresh hs e) := by
  unfold TakesFresh
  split <;> infer_instance

/-- A handle that is given back or used is outstanding. -/
def UsesOutstanding (hs : List DtxHandle) : Event → Prop
  | .call (.dtxFree h) _ | .call (.dtxFacch h) _ => h ∈ hs
  | _ => True

/-! ### Events without handles -/

theorem settleDtx_of_not (none : e.isAllotment = false) : e.settleDtx hs = hs := by
  unfold Event.settleDtx
  split <;> first | cases none | rfl

theorem outstandingAfter_allotments :
    outstandingAfter hs (allotments es) = outstandingAfter hs es := by
  induction es generalizing hs with
  | nil => rfl
  | cons e es ih =>
    unfold allotments outstandingAfter at ih ⊢
    rw [List.filter_cons, List.foldl_cons]
    split
    · rw [List.foldl_cons, ih]
    · rename_i other
      rw [settleDtx_of_not (by simpa using other), ih]

/-- What holds of other events anyway is read off those with handles. -/
theorem atEach_allotments {P : List DtxHandle → Event → Prop}
    (other : ∀ hs e, e.isAllotment = false → P hs e) :
    AtEach P hs (allotments es) ↔ AtEach P hs es := by
  induction es generalizing hs with
  | nil => rfl
  | cons e es ih =>
    unfold allotments at ih ⊢
    rw [List.filter_cons, atEach_cons]
    split
    · rw [atEach_cons, ih]
    · rename_i none
      have none : e.isAllotment = false := by simpa using none
      rw [settleDtx_of_not none, ih, and_iff_right (other _ _ none)]

theorem takesFresh_of_not (none : e.isAllotment = false) : TakesFresh hs e := by
  unfold TakesFresh
  split <;> first | cases none | trivial

theorem usesOutstanding_of_not (none : e.isAllotment = false) : UsesOutstanding hs e := by
  unfold UsesOutstanding
  split <;> first | cases none | trivial

/-! ### Holders -/

/-- The handle that a channel holds. -/
def heldDtx (b : Bts) (id : LchanId) : Option DtxHandle := (b.allotted id).bind (·.dtx)

theorem heldDtx_eq_some :
    heldDtx b id = some h ↔ ∃ l, b.lchan? id = some l ∧ l.dtx = some h := by
  unfold heldDtx Bts.allotted
  cases b.lchan? id with
  | none => simp
  | some l => simp [Lchan.allotment]

theorem heldDtx_of_lchan? (known : b.lchan? id = some l) : heldDtx b id = l.dtx := by
  unfold heldDtx
  rw [Bts.allotted_of_lchan? known]
  rfl

theorem heldDtx_congr (same : b'.allotted = b.allotted) : heldDtx b' = heldDtx b := by
  unfold heldDtx
  rw [same]

theorem heldDtx_update {x : Allotment}
    (changed : b'.allotted = Function.update b.allotted id (some x)) :
    heldDtx b' = Function.update (heldDtx b) id x.dtx := by
  funext j
  unfold heldDtx
  rw [changed]
  by_cases here : j = id
  · subst here
    rw [Function.update_self, Function.update_self]
    rfl
  · rw [Function.update_of_ne here, Function.update_of_ne here]

/-- The handles `hs` are those that the channels hold, each held by one of them. -/
structure Holds (held : LchanId → Option DtxHandle) (hs : List DtxHandle) : Prop where
  nodup : hs.Nodup
  mem : ∀ h, h ∈ hs ↔ ∃ id, held id = some h
  alone : ∀ id j h, held id = some h → held j = some h → id = j

namespace Holds

variable {held : LchanId → Option DtxHandle}

theorem empty : Holds (fun _ => none) [] := ⟨List.nodup_nil, by simp, by simp⟩

/-- A channel gives back what it holds. -/
theorem free (holds : Holds held hs) (here : held id = some h) :
    Holds (Function.update held id none) (hs.erase h) where
  nodup := holds.nodup.erase h
  mem k := by
    rw [holds.nodup.mem_erase_iff, holds.mem]
    constructor
    · rintro ⟨other, j, there⟩
      refine ⟨j, ?_⟩
      rw [Function.update_of_ne, there]
      rintro rfl
      rw [here, Option.some.injEq] at there
      exact other there.symm
    · rintro ⟨j, there⟩
      by_cases same : j = id
      · subst same
        rw [Function.update_self] at there
        cases there
      · rw [Function.update_of_ne same] at there
        refine ⟨fun equal => same ?_, j, there⟩
        subst equal
        exact holds.alone j id k there here
  alone i j k hi hj := by
    have there {i : LchanId} (hi : Function.update held id none i = some k) : held i = some k := by
      by_cases same : i = id
      · subst same
        rw [Function.update_self] at hi
        cases hi
      · rwa [Function.update_of_ne same] at hi
    exact holds.alone i j k (there hi) (there hj)

/-- A channel that holds none takes one that is not outstanding. -/
theorem take (holds : Holds held hs) (free : held id = none) (fresh : h ∉ hs) :
    Holds (Function.update held id (some h)) (h :: hs) where
  nodup := List.nodup_cons.mpr ⟨fresh, holds.nodup⟩
  mem k := by
    rw [List.mem_cons, holds.mem]
    constructor
    · rintro (rfl | ⟨j, there⟩)
      · exact ⟨id, Function.update_self ..⟩
      · refine ⟨j, ?_⟩
        rw [Function.update_of_ne, there]
        rintro rfl
        rw [free] at there
        cases there
    · rintro ⟨j, there⟩
      by_cases same : j = id
      · subst same
        rw [Function.update_self, Option.some.injEq] at there
        exact .inl there.symm
      · rw [Function.update_of_ne same] at there
        exact .inr ⟨j, there⟩
  alone i j k hi hj := by
    -- what another channel holds was outstanding before
    have there {i : LchanId} (hi : Function.update held id (some h) i = some k) :
        (i = id ∧ k = h) ∨ (held i = some k ∧ k ≠ h) := by
      by_cases same : i = id
      · subst same
        rw [Function.update_self, Option.some.injEq] at hi
        exact .inl ⟨rfl, hi.symm⟩
      · rw [Function.update_of_ne same] at hi
        exact .inr ⟨hi, fun new => fresh ((holds.mem h).mpr ⟨i, new ▸ hi⟩)⟩
    rcases there hi with ⟨rfl, rfl⟩ | ⟨hi, other⟩ <;>
      rcases there hj with ⟨rfl, same⟩ | ⟨hj, other'⟩
    · rfl
    · exact absurd rfl other'
    · exact absurd same other
    · exact holds.alone i j k hi hj

end Holds

/-! ### What a turn does -/

/-- What a channel gives back is what it holds. -/
theorem holds_freeEvents (holds : Holds (heldDtx b) hs) (known : b.lchan? id = some l) :
    Holds (Function.update (heldDtx b) id none) (outstandingAfter hs (freeEvents l)) ∧
      AtEach UsesOutstanding hs (freeEvents l) := by
  unfold freeEvents
  cases here : l.dtx with
  | none =>
    have free : heldDtx b id = none := (heldDtx_of_lchan? known).trans here
    have same : Function.update (heldDtx b) id none = heldDtx b := by
      conv_lhs => rw [← free]
      exact Function.update_eq_self ..
    rw [same]
    exact ⟨holds, atEach_nil⟩
  | some h =>
    have held : heldDtx b id = some h := (heldDtx_of_lchan? known).trans here
    exact ⟨holds.free held, atEach_cons.mpr ⟨(holds.mem h).mpr ⟨id, held⟩, atEach_nil⟩⟩

/-- What a channel takes with its activation it holds from then on. -/
theorem holds_grantEvents {held : LchanId → Option DtxHandle} {grant : Option DtxHandle}
    (holds : Holds (Function.update held id none) hs)
    (fresh : AtEach TakesFresh hs (grantEvents id grant)) :
    Holds (Function.update held id grant) (outstandingAfter hs (grantEvents id grant)) ∧
      AtEach UsesOutstanding hs (grantEvents id grant) := by
  cases grant with
  | none => exact ⟨holds, atEach_nil⟩
  | some h =>
    have taken := holds.take (Function.update_self ..) (atEach_cons.mp fresh).1
    rw [Function.update_idem] at taken
    exact ⟨taken, atEach_cons.mpr ⟨trivial, atEach_nil⟩⟩

/-- Supervision leaves type and handle of a channel as they are. -/
theorem supervised_allotment {bad : Bool} : (supervised site l bad).allotment.type = l.type ∧
    (supervised site l bad).allotment.dtx = l.dtx := by
  obtain ⟨s, counted⟩ := supervised_eq site l bad
  rw [counted]
  exact ⟨rfl, rfl⟩

theorem superviseEvents_handleless {bad : Bool} :
    outstandingAfter hs (superviseEvents site id l bad) = hs ∧
      AtEach UsesOutstanding hs (superviseEvents site id l bad) := by
  unfold superviseEvents
  split
  · exact ⟨rfl, atEach_cons.mpr ⟨trivial, atEach_nil⟩⟩
  · exact ⟨rfl, atEach_nil⟩

/-- A block on the main channel uses the handle of its channel. -/
theorem facchEvents_outstanding (holds : Holds (heldDtx b) hs) (known : b.lchan? id = some l) :
    outstandingAfter hs (facchEvents site l) = hs ∧
      AtEach UsesOutstanding hs (facchEvents site l) := by
  unfold facchEvents
  cases here : l.dtx with
  | none => exact ⟨rfl, atEach_nil⟩
  | some h =>
    have held : h ∈ hs := (holds.mem h).mpr ⟨id, (heldDtx_of_lchan? known).trans here⟩
    dsimp only
    split
    · exact ⟨rfl, atEach_cons.mpr ⟨held, atEach_nil⟩⟩
    · exact ⟨rfl, atEach_nil⟩

/-- The handles add up after a turn, and it uses and gives back outstanding ones alone. -/
theorem Turn.Lawful.holds (lawful : t.Lawful site) (holds : Holds (heldDtx t.before) hs)
    (fresh : AtEach TakesFresh hs t.events) :
    Holds (heldDtx t.after) (outstandingAfter hs t.events) ∧
      AtEach UsesOutstanding hs t.events := by
  rw [← atEach_allotments fun _ _ => takesFresh_of_not] at fresh
  rw [← outstandingAfter_allotments, ← atEach_allotments fun _ _ => usesOutstanding_of_not]
  cases lawful.allotting with
  | steady same quiet =>
    rw [heldDtx_congr same, quiet]
    exact ⟨holds, atEach_nil⟩
  | sent move found f answer taken handed same told =>
    obtain ⟨settled, used⟩ : outstandingAfter hs (facchEvents site _) = hs ∧
        AtEach UsesOutstanding hs (facchEvents site _) :=
      facchEvents_outstanding holds (lchan?_of_findActive? found)
    rw [heldDtx_congr same, told, settled]
    exact ⟨holds, used⟩
  -- a frame that is counted changes the counter of an allotment, and not its handle
  | @supervised id l known bad frame changed told =>
    obtain ⟨settled, used⟩ : outstandingAfter hs (superviseEvents site id l bad) = hs ∧
        AtEach UsesOutstanding hs (superviseEvents site id l bad) := superviseEvents_handleless
    have held : heldDtx t.after = heldDtx t.before := by
      rw [heldDtx_update changed, supervised_allotment.2, ← heldDtx_of_lchan? known]
      exact Function.update_eq_self ..
    rw [held, told, settled]
    exact ⟨holds, used⟩
  -- the handle from before is given back, then one is taken
  | activated located known type answer grant granted changed told =>
    rw [told, atEach_append, atEach_cons] at fresh
    have freed := holds_freeEvents holds known
    have taken := holds_grantEvents freed.1 fresh.2.2
    rw [told, outstandingAfter_append, heldDtx_update changed, atEach_append, atEach_cons]
    exact ⟨taken.1, freed.2, trivial, taken.2⟩
  | released known changed told =>
    have freed := holds_freeEvents holds known
    rw [told, heldDtx_update changed]
    exact freed

/-! ### Who takes part -/

/-- No channel for signalling alone holds a handle. -/
def SignallingFree (b : Bts) : Prop :=
  ∀ id a, b.allotted id = some a → a.type = .sdcch → a.dtx = none

theorem SignallingFree.update {x : Allotment} (clear : SignallingFree b)
    (changed : b'.allotted = Function.update b.allotted id (some x))
    (new : x.type = .sdcch → x.dtx = none) : SignallingFree b' := by
  intro j a known type
  rw [changed] at known
  by_cases here : j = id
  · subst here
    rw [Function.update_self, Option.some.injEq] at known
    subst known
    exact new type
  · rw [Function.update_of_ne here] at known
    exact clear j a known type

theorem Turn.Lawful.signallingFree (lawful : t.Lawful site) (clear : SignallingFree t.before) :
    SignallingFree t.after := by
  cases lawful.allotting with
  | steady same => rwa [SignallingFree, same]
  | sent _ _ _ _ _ _ same => rwa [SignallingFree, same]
  | supervised known bad _ changed =>
    refine clear.update changed fun signalling => ?_
    rw [supervised_allotment.1] at signalling
    rw [supervised_allotment.2]
    exact clear _ _ (Bts.allotted_of_lchan? known) signalling
  | activated _ _ type _ grant granted changed =>
    refine clear.update changed fun signalling => ?_
    rw [← Option.not_isSome_iff_eq_none]
    intro some
    have uses := granted some
    unfold usesDtx at uses
    simp [show type = .sdcch from signalling] at uses
  | released _ changed => exact clear.update changed fun _ => rfl

section Members

theorem mem_superviseEvents {bad : Bool} (mem : e ∈ superviseEvents site id l bad) :
    ∃ c, e = .call (.connectionFailure id c) () := by
  unfold superviseEvents at mem
  split at mem
  · exact ⟨_, List.mem_singleton.mp mem⟩
  · cases mem

theorem mem_facchEvents (mem : e ∈ facchEvents site l) :
    ∃ h, l.dtx = some h ∧ e = .call (.dtxFacch h) () := by
  unfold facchEvents at mem
  split at mem
  · rename_i h held
    split at mem
    · exact ⟨h, held, List.mem_singleton.mp mem⟩
    · cases mem
  · cases mem

theorem mem_freeEvents (mem : e ∈ freeEvents l) : ∃ h, e = .call (.dtxFree h) () := by
  unfold freeEvents at mem
  split at mem
  · exact ⟨_, List.mem_singleton.mp mem⟩
  · cases mem

theorem mem_grantEvents {grant : Option DtxHandle} (mem : e ∈ grantEvents id grant) :
    ∃ h, grant = some h ∧ e = .call (.dtxAlloc id) h := by
  unfold grantEvents at mem
  split at mem
  · exact ⟨_, rfl, List.mem_singleton.mp mem⟩
  · cases mem

end Members

/-- Without discontinuous transmission on the downlink no handle is taken. -/
theorem Turn.Lawful.takes_none (lawful : t.Lawful site) (off : site.settings.dtxDl = false) :
    .call (.dtxAlloc id) h ∉ t.events := by
  intro taken
  have taken : Event.call (.dtxAlloc id) h ∈ allotments t.events :=
    List.mem_filter.mpr ⟨taken, rfl⟩
  cases lawful.allotting with
  | steady _ quiet =>
    rw [quiet] at taken
    cases taken
  | sent _ _ _ _ _ _ _ told =>
    rw [told] at taken
    obtain ⟨_, _, none⟩ := mem_facchEvents taken
    cases none
  | supervised _ _ _ _ told =>
    rw [told] at taken
    obtain ⟨_, none⟩ := mem_superviseEvents taken
    cases none
  | activated _ _ type _ grant granted _ told =>
    rw [told, List.mem_append, List.mem_cons] at taken
    rcases taken with taken | taken | taken
    · obtain ⟨_, none⟩ := mem_freeEvents taken
      cases none
    · cases taken
    · obtain ⟨_, some, -⟩ := mem_grantEvents taken
      -- a handle was granted, so discontinuous transmission is used
      have uses := granted (by rw [some]; rfl)
      unfold usesDtx at uses
      rw [off] at uses
      cases uses
  | released _ _ told =>
    rw [told] at taken
    obtain ⟨_, none⟩ := mem_freeEvents taken
    cases none

/-- A handle is used with a block of the channel that holds it. -/
theorem Turn.Lawful.uses (lawful : t.Lawful site) (used : .call (.dtxFacch h) () ∈ t.events) :
    ∃ trx p o id l f answer, t.move = .input (.up trx (.phRtsInd p)) o ∧
      t.before.findActive? trx p.chanNr = some (id, l) ∧ l.dtx = some h ∧
      .call (.dequeue id .dcch) (some f) ∈ t.events ∧
      .down trx (.phDataReq (.request p.chanNr p.linkId p.fn
        (.ofL2 (padTo blockLength f.octets)))) answer ∈ t.events := by
  have used : Event.call (.dtxFacch h) () ∈ allotments t.events :=
    List.mem_filter.mpr ⟨used, rfl⟩
  cases lawful.allotting with
  | steady _ quiet =>
    rw [quiet] at used
    cases used
  | @sent trx p o id l move found f answer taken handed _ told =>
    rw [told] at used
    obtain ⟨k, held, same⟩ := mem_facchEvents used
    cases same
    exact ⟨trx, p, o, id, l, f, answer, move, found, held, taken, handed⟩
  | supervised _ _ _ _ told =>
    rw [told] at used
    obtain ⟨_, none⟩ := mem_superviseEvents used
    cases none
  | activated _ _ _ _ _ _ _ told =>
    rw [told, List.mem_append, List.mem_cons] at used
    rcases used with used | used | used
    · obtain ⟨_, none⟩ := mem_freeEvents used
      cases none
    · cases used
    · obtain ⟨_, _, none⟩ := mem_grantEvents used
      cases none
  | released _ _ told =>
    rw [told] at used
    obtain ⟨_, none⟩ := mem_freeEvents used
    cases none

/-! ### Runs -/

/-- What the channels of a base station hold, and what was done with the handles: the trace is
`es`. -/
structure DtxAccount (b : Bts) (es : List Event) : Prop where
  nodup : (outstanding es).Nodup
  /-- The outstanding handles are those that the channels hold. -/
  held : ∀ h, h ∈ outstanding es ↔ ∃ id l, b.lchan? id = some l ∧ l.dtx = some h
  /-- A handle is held by one channel. -/
  alone : ∀ id j l k h, b.lchan? id = some l → b.lchan? j = some k → l.dtx = some h →
    k.dtx = some h → id = j
  signalling : ∀ id l, b.lchan? id = some l → l.type = .sdcch → l.dtx = none
  /-- What is given back is outstanding. -/
  freed : ∀ pre h post, es = pre ++ .call (.dtxFree h) () :: post → h ∈ outstanding pre
  /-- What is used is outstanding. -/
  used : ∀ pre h post, es = pre ++ .call (.dtxFacch h) () :: post → h ∈ outstanding pre

theorem dtxAccount_of_holds {b : Bts} (holds : Holds (heldDtx b) (outstanding es))
    (clear : SignallingFree b) (each : AtEach UsesOutstanding [] es) : DtxAccount b es where
  nodup := holds.nodup
  held h := by
    rw [holds.mem]
    exact exists_congr fun id => heldDtx_eq_some
  alone id j l k h hl hk held held' :=
    holds.alone id j h ((heldDtx_of_lchan? hl).trans held) ((heldDtx_of_lchan? hk).trans held')
  signalling id l known type := clear id _ (Bts.allotted_of_lchan? known) type
  freed pre h post split := each pre _ post split
  used pre h post split := each pre _ post split

/-- Where only handles that are not outstanding are given out, those outstanding are held in every
state of a run. -/
theorem holds_run (site : Site σ φ) (c : Config) (filter : Capture.Filter) (services : σ) (phy : φ)
    (ms : List Move)
    (fresh : AtEach TakesFresh [] (run site (.fresh c filter services phy) ms).trace) :
    Holds (heldDtx (run site (.fresh c filter services phy) ms).bts)
        (outstanding (run site (.fresh c filter services phy) ms).trace) ∧
      SignallingFree (run site (.fresh c filter services phy) ms).bts ∧
      AtEach UsesOutstanding [] (run site (.fresh c filter services phy) ms).trace := by
  induction ms using List.reverseRecOn with
  | nil =>
    -- no channel of a new base station holds a handle
    have unused : ∀ id a, (Bts.ofConfig c).allotted id = some a → a.dtx = none := by
      intro id a known
      obtain ⟨l, there, rfl⟩ := Option.map_eq_some_iff.mp known
      obtain ⟨type, rfl⟩ := Bts.lchan?_ofConfig there
      rfl
    have none : heldDtx (Bts.ofConfig c) = fun _ => none := by
      funext id
      unfold heldDtx
      cases known : (Bts.ofConfig c).allotted id with
      | none => rfl
      | some a => exact unused id a known
    refine ⟨?_, fun id a known _ => unused id a known, atEach_nil⟩
    change Holds (heldDtx (Bts.ofConfig c)) []
    rw [none]
    exact .empty
  | append_singleton ms m ih =>
    rw [run_append] at fresh ⊢
    generalize run site (.fresh c filter services phy) ms = w at ih fresh ⊢
    change AtEach TakesFresh [] (takeTurn site m w).2.trace at fresh
    change Holds (heldDtx (takeTurn site m w).2.bts) (outstanding (takeTurn site m w).2.trace) ∧
      SignallingFree (takeTurn site m w).2.bts ∧
      AtEach UsesOutstanding [] (takeTurn site m w).2.trace
    rw [trace_takeTurn, atEach_append] at fresh
    obtain ⟨holds, clear, each⟩ := ih fresh.1
    -- the handles were fresh up to the last move, and in it
    have lawful := lawful_turnOf site w m
    have after := lawful.holds holds fresh.2
    rw [trace_takeTurn, atEach_append]
    unfold outstanding
    rw [outstandingAfter_append]
    exact ⟨after.1, lawful.signallingFree clear, each, after.2⟩

/-- **The handles of discontinuous transmission**: where only handles that are not outstanding are
given out, those outstanding are in every run the ones that the channels hold, each by one channel
and none by one for signalling alone; what is given back or used is outstanding, and used with a
block of the channel that holds it. Without discontinuous transmission none is taken. -/
theorem dtx_handles_accounted (site : Site σ φ) (c : Config) (filter : Capture.Filter)
    (services : σ) (phy : φ) (ms : List Move)
    (fresh : ∀ pre id h post, (run site (.fresh c filter services phy) ms).trace =
      pre ++ .call (.dtxAlloc id) h :: post → h ∉ outstanding pre) :
    DtxAccount (run site (.fresh c filter services phy) ms).bts
        (run site (.fresh c filter services phy) ms).trace ∧
      (∀ t ∈ history site (.fresh c filter services phy) ms, ∀ h,
        .call (.dtxFacch h) () ∈ t.events → ∃ trx p o id l f answer,
          t.move = .input (.up trx (.phRtsInd p)) o ∧
          t.before.findActive? trx p.chanNr = some (id, l) ∧ l.dtx = some h ∧
          .call (.dequeue id .dcch) (some f) ∈ t.events ∧
          .down trx (.phDataReq (.request p.chanNr p.linkId p.fn
            (.ofL2 (padTo blockLength f.octets)))) answer ∈ t.events) ∧
      (site.settings.dtxDl = false → ∀ id h, .call (.dtxAlloc id) h ∉
        (run site (.fresh c filter services phy) ms).trace) := by
  have fresh : AtEach TakesFresh [] (run site (.fresh c filter services phy) ms).trace := by
    intro pre e post split
    unfold TakesFresh
    split
    · exact fresh pre _ _ post split
    · trivial
  obtain ⟨holds, clear, each⟩ := holds_run site c filter services phy ms fresh
  refine ⟨dtxAccount_of_holds holds clear each, fun t ht h used =>
    (lawful_of_mem_history ht).uses used, fun off id h taken => ?_⟩
  rw [trace_run] at taken
  obtain ⟨t, ht, taken⟩ := List.mem_flatMap.mp taken
  exact (lawful_of_mem_history ht).takes_none off taken

/-- The cell with discontinuous transmission on the downlink. -/
def dtxConfig : Config :=
  { scriptedConfig with cell := { scriptedConfig.cell with dtxDl := true } }

example : dtxConfig.validate = .ok () := rfl

def dtxSite : Site ScriptedServices ScriptedPhy :=
  { scriptedSite with settings := .ofConfig dtxConfig }

/-- The first traffic channel is activated, has a block to send on its main link and is activated
once more before it is released. -/
def dtxMoves : List Move := [
  .chanAct 0 0x09 none,
  .up 0 (.mphInfoCnf (.activateCnf ⟨0x09, 0⟩)),
  .up 0 (.phRtsInd ⟨0x09, 0, 4⟩),
  .chanAct 0 0x09 none,
  .up 0 (.mphInfoCnf (.activateCnf ⟨0x09, 0⟩)),
  .chanRel 0 0x09]

/-- The second activation gives the first handle back and takes another, and the release gives that
one back. -/
theorem reactivation_returns_handle :
    let w ms := run dtxSite (.fresh dtxConfig .empty
      (ScriptedServices.fresh.enqueue ⟨0, 1, 0⟩ .dcch (.ofL2 [0x03])) .accepting) ms
    dtxMoves.inits.map (fun ms => outstanding (w ms).trace) =
        [[], [⟨1⟩], [⟨1⟩], [⟨1⟩], [⟨2⟩], [⟨2⟩], []] ∧
      (w dtxMoves).trace.countP (fun e => e matches .call (.dtxFacch ⟨1⟩) _) = 1 ∧
      DtxAccount (w dtxMoves).bts (w dtxMoves).trace := by
  intro w
  have fresh : AtEach TakesFresh [] (w dtxMoves).trace := by decide +kernel
  refine ⟨by decide +kernel, by decide +kernel, ?_⟩
  exact (dtx_handles_accounted dtxSite dtxConfig .empty _ .accepting dtxMoves
    fun pre id h post split => fresh pre _ post split).1

end BaseStation.Bridge
