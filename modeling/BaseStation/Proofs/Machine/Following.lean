import BaseStation.Proofs.Bridge.Slot
import BaseStation.Proofs.Machine.Handlers

/-!
What it means that the machine follows the access point: from a state in bounds it does the same,
as long as the load counters fit in their words, and leaves a state in bounds. The rules go along
the text of the handlers.
-/

namespace BaseStation.Machine

open Bridge (Site World Refusal Input PacketRequest Failure)

/-! ### States in bounds -/

def SlotBounds (ceiling : Int) (t : Timeslot) : Prop :=
  ∀ (ss : UInt8) (l : Lchan), t.lchans[ss.toNat]? = some l → LchanBounds ceiling l

/-- All channels of the base station are in bounds. -/
def Bounds (ceiling : Int) (b : Bts) : Prop :=
  ∀ (trx tn : UInt8) (t : Timeslot), b.slot? trx tn = some t → SlotBounds ceiling t

/-- The load counters have not run out of their words. -/
def Counted (b : Bts) : Prop := ∀ c : Counter, c.get b.rach < 2 ^ 64

/-- No counter goes back. -/
def Grows (b b' : Bts) : Prop := ∀ c : Counter, c.get b.rach ≤ c.get b'.rach

section Bounds

variable {ceiling : Int} {b b' b'' : Bts} {trx tn n : UInt8} {id : LchanId} {l : Lchan}
  {f : Timeslot → Timeslot}

theorem Grows.trans (h : Grows b b') (h' : Grows b' b'') : Grows b b'' :=
  fun c => (h c).trans (h' c)

theorem Grows.counted (h : Grows b b') (counted : Counted b') : Counted b :=
  fun c => (h c).trans_lt (counted c)

theorem Bounds.lchan (h : Bounds ceiling b) (known : b.lchan? id = some l) :
    LchanBounds ceiling l := by
  obtain ⟨t, slot, there⟩ := Bts.lchan?_eq_some.mp known
  exact h _ _ t slot _ l there

theorem Bounds.found {p : LchanId × Lchan} (h : Bounds ceiling b) (found : b.find? trx n = some p) :
    LchanBounds ceiling p.2 := h.lchan (Bts.find?_eq_some.mp found).2

theorem Bounds.foundActive {p : LchanId × Lchan} (h : Bounds ceiling b)
    (found : b.findActive? trx n = some p) : LchanBounds ceiling p.2 :=
  h.found (Bts.findActive?_eq_some.mp found).1

theorem Bounds.modifySlot (h : Bounds ceiling b)
    (keeps : ∀ t, SlotBounds ceiling t → SlotBounds ceiling (f t)) :
    Bounds ceiling (b.modifySlot trx tn f) := by
  intro u m t known
  rw [Bts.slot?_modifySlot] at known
  split at known
  · obtain ⟨t₀, before, rfl⟩ := Option.map_eq_some_iff.mp known
    exact keeps t₀ (h u m t₀ before)
  · exact h u m t known

theorem Bounds.modifyLchan {f : Lchan → Lchan} (h : Bounds ceiling b)
    (keeps : ∀ l, LchanBounds ceiling l → LchanBounds ceiling (f l)) :
    Bounds ceiling (b.modifyLchan id f) := by
  refine h.modifySlot fun t bounds ss l known => ?_
  rw [List.getElem?_modify] at known
  obtain ⟨l₀, before, rfl⟩ := Option.map_eq_some_iff.mp known
  have kept := bounds ss l₀ before
  split
  · exact keeps l₀ kept
  · exact kept

theorem SlotBounds.congr {t t' : Timeslot} (same : t'.lchans = t.lchans)
    (h : SlotBounds ceiling t) : SlotBounds ceiling t' := by
  unfold SlotBounds
  rw [same]
  exact h

end Bounds

namespace LchanBounds

variable {ceiling : Int} {l : Lchan}

theorem setQueue (h : LchanBounds ceiling l) {q : VoiceQueue} (short : Short q) :
    LchanBounds ceiling { l with queue := q } := ⟨h.counter, short⟩

theorem checkDownlink (h : LchanBounds ceiling l) (n : UInt8) (xs : List UInt8) :
    LchanBounds ceiling (l.checkDownlink n xs).1 := by
  unfold Lchan.checkDownlink
  split
  · exact ⟨h.counter, h.queue⟩
  · exact h

theorem checkUplink (h : LchanBounds ceiling l) (n : UInt8) (xs : List UInt8) :
    LchanBounds ceiling (l.checkUplink n xs).1 := by
  unfold Lchan.checkUplink
  split
  · exact ⟨h.counter, h.queue⟩
  · exact h

theorem onSacchFrame (h : LchanBounds ceiling l) (bad : Bool) :
    LchanBounds ceiling (l.onSacchFrame ceiling bad).1 := by
  refine ⟨Lchan.withinCeiling_onSacchFrame h.counter, ?_⟩
  unfold Lchan.onSacchFrame
  split
  · exact h.queue
  · split
    · exact h.queue
    · split <;> exact h.queue

theorem resetAfterRelease (h : LchanBounds ceiling l) :
    LchanBounds ceiling l.resetAfterRelease := ⟨h.counter, h.queue.clear⟩

end LchanBounds

theorem short_loopedBlock {q : VoiceQueue} (short : Short q) (fn : UInt32) :
    Short (Bridge.loopedBlock q fn).2 := by
  unfold Bridge.loopedBlock
  split
  · exact short
  · have rest := short.pop
    split
    · rename_i taken
      rwa [taken] at rest
    · rename_i taken
      rwa [taken] at rest

/-- The block of a SACCH as it is put together: the header first, then the body. -/
theorem setL1Length_header (a b : UInt8) (xs : List UInt8) :
    ((Frame.empty.append [a, b]).append xs).setL1Length Bridge.sacchHeaderLength =
      .ofParts [a, b] xs := by
  simp [Frame.empty, Frame.append, Frame.setL1Length, Frame.ofParts, Bridge.sacchHeaderLength]

theorem append_empty (xs : List UInt8) : Frame.empty.append xs = .ofL2 xs := rfl

/-! ### Following -/

variable {σ φ α β γ δ : Type} {ceiling : Int} {site : Site σ φ} {w : World σ φ} {trx n : UInt8}
  {id : LchanId}

/-- What a step of the machine comes to from the data `b`, next to what a step of the access point
comes to: the data stays in bounds, and unless a counter has run out the machine goes on, with a
result that corresponds by `f`, in the same state. If one runs out, the machine stops. -/
structure Next (ceiling : Int) (f : α → β) (b : Bts) (m : Except Panic α × World σ φ)
    (a : β × World σ φ) : Prop where
  bounds : Bounds ceiling a.2.bts
  grows : Grows b a.2.bts
  same : ∃ x, a.1 = f x ∧ (Counted a.2.bts → m = (.ok x, a.2))
  overflows : Counted b → ¬ Counted a.2.bts → ∃ sum, m.1 = .error (.overflow sum)

/-- The machine does what the access point does, and the results correspond by `f`. -/
def Follows (ceiling : Int) (f : α → β) (m : Step σ φ α) (a : Bridge.Step σ φ β) : Prop :=
  ∀ w : World σ φ, Bounds ceiling w.bts → Next ceiling f w.bts (m w) (a w)

/-- The machine does what the access point does where that can be refused. -/
def ActFollows (ceiling : Int) (m : Act σ φ α) (a : Bridge.Act σ φ α) : Prop :=
  Follows ceiling (Except.mapError Failure.refused) m a

/-- What leaves the counters as they are does not let them run out. -/
theorem Next.of_rach {f : α → β} {b : Bts} {m : Except Panic α × World σ φ}
    {a : β × World σ φ} {x : α} (bounds : Bounds ceiling a.2.bts) (rach : a.2.bts.rach = b.rach)
    (result : a.1 = f x) (same : m = (.ok x, a.2)) : Next ceiling f b m a where
  bounds := bounds
  grows := fun c => (congrArg c.get rach).ge
  same := ⟨x, result, fun _ => same⟩
  overflows := fun counted out => by
    unfold Counted at counted out
    rw [rach] at out
    exact absurd counted out

/-- A step after another one starts where that one ends. -/
theorem bind_of_ok {m : Step σ φ α} {k : α → Step σ φ β} {x : α} {w' : World σ φ}
    (first : m w = (.ok x, w')) : (m >>= k) w = k x w' := by
  change (match m w with | (a, s) => ExceptT.bindCont k a s) = k x w'
  rw [first]
  rfl

/-- A step that reads goes on from what it reads. -/
theorem get_bind (k : World σ φ → Act σ φ α) : (get >>= k : Act σ φ α) w = k w w := rfl

theorem access_get_bind (k : World σ φ → Bridge.Act σ φ α) :
    (get >>= k : Bridge.Act σ φ α) w = k w w := rfl

/-- Nothing comes after the machine has stopped. -/
theorem bind_of_error {m : Step σ φ α} {k : α → Step σ φ β} {p : Panic}
    (first : (m w).1 = .error p) : ((m >>= k) w).1 = .error p := by
  change (match m w with | (a, s) => ExceptT.bindCont k a s).1 = .error p
  cases stopped : m w with
  | mk result w' =>
    rw [stopped] at first
    dsimp only at first ⊢
    rw [first]
    rfl

theorem Next.bind {f : α → β} {g : γ → δ} {m : Step σ φ α} {a : Bridge.Step σ φ β}
    {k : α → Step σ φ γ} {j : β → Bridge.Step σ φ δ} (h : Next ceiling f w.bts (m w) (a w))
    (hk : ∀ x, Follows ceiling g (k x) (j (f x))) :
    Next ceiling g w.bts ((m >>= k) w) ((a >>= j) w) := by
  obtain ⟨kept, grows, ⟨x, result, same⟩, overflows⟩ := h
  obtain ⟨kept', grows', ⟨y, result', same'⟩, overflows'⟩ := hk x (a w).2 kept
  have next : (a >>= j) w = j (f x) (a w).2 := congrArg (j · (a w).2) result
  rw [← next] at kept' grows' result' same' overflows'
  refine ⟨kept', grows.trans grows', ⟨y, result', fun counted => ?_⟩, fun start out => ?_⟩
  -- no counter goes back, so one that the first part exhausts is exhausted at the end
  · rw [bind_of_ok (same (grows'.counted counted))]
    exact same' counted
  · by_cases counted : Counted (a w).2.bts
    · rw [bind_of_ok (same counted)]
      exact overflows' counted out
    · obtain ⟨sum, stops⟩ := overflows start counted
      exact ⟨sum, bind_of_error stops⟩

/-- A step that cannot be refused is followed by the rest. -/
theorem liftM_bind (m : Step σ φ α) (k : α → Act σ φ β) :
    (liftM m >>= k : Act σ φ β) = (m >>= k : Step σ φ (Except Refusal β)) :=
  bind_map_left Except.ok m (ExceptT.bindCont k : _ → Step σ φ (Except Refusal β))

namespace Follows

theorem done {f : α → β} (x : α) : Follows ceiling f (pure x) (pure (f x) : Bridge.Step σ φ β) :=
  fun _ bounds => .of_rach bounds rfl rfl rfl

theorem bind {f : α → β} {g : γ → δ} {m : Step σ φ α} {a : Bridge.Step σ φ β}
    {k : α → Step σ φ γ} {j : β → Bridge.Step σ φ δ} (h : Follows ceiling f m a)
    (hk : ∀ x, Follows ceiling g (k x) (j (f x))) : Follows ceiling g (m >>= k) (a >>= j) :=
  fun w bounds => (h w bounds).bind hk

theorem checked {g : γ → δ} {x : Checked α} {v : α} {k : α → Step σ φ γ} {a : Bridge.Step σ φ δ}
    (value : x = .ok v) (hk : Follows ceiling g (k v) a) : Follows ceiling g (liftM x >>= k) a := by
  rw [value]
  exact hk

theorem read {g : γ → δ} {k : World σ φ → Step σ φ γ} {j : World σ φ → Bridge.Step σ φ δ}
    (h : ∀ w, Bounds ceiling w.bts → Follows ceiling g (k w) (j w)) :
    Follows ceiling g (get >>= k) (get >>= j) :=
  fun w bounds => h w bounds w bounds

theorem write {f : World σ φ → World σ φ}
    (keeps : ∀ w, Bounds ceiling w.bts → Bounds ceiling (f w).bts ∧ (f w).bts.rach = w.bts.rach) :
    Follows ceiling (fun x : PUnit => x) (modify f : Step σ φ PUnit) (modify f) :=
  fun w bounds => .of_rach (keeps w bounds).1 (keeps w bounds).2 rfl rfl

theorem modifyLchan {g : γ → δ} {f : Lchan → Lchan} {k : PUnit → Step σ φ γ}
    {j : PUnit → Bridge.Step σ φ δ} (keeps : ∀ l, LchanBounds ceiling l → LchanBounds ceiling (f l))
    (h : Follows ceiling g (k ⟨⟩) (j ⟨⟩)) :
    Follows ceiling g (modify (·.modifyLchan id f) >>= k) (modify (·.modifyLchan id f) >>= j) :=
  bind (write fun _ bounds => ⟨bounds.modifyLchan keeps, rfl⟩) fun _ => h

/-- A step that has nothing to check is the same on the machine. -/
theorem lifted {a : Bridge.Step σ φ α}
    (keeps : ∀ w, Bounds ceiling w.bts →
      Bounds ceiling (a w).2.bts ∧ (a w).2.bts.rach = w.bts.rach) :
    Follows ceiling (fun x => x) (liftM a : Step σ φ α) a :=
  fun w bounds => .of_rach (keeps w bounds).1 (keeps w bounds).2 rfl rfl

theorem ask (c : Call) :
    Follows ceiling (fun x => x) (liftM (Bridge.ask site c) : Step σ φ c.Answer)
      (Bridge.ask site c) :=
  lifted fun _ bounds => ⟨bounds, rfl⟩

theorem asked {g : γ → δ} {c : Call} {k : c.Answer → Step σ φ γ}
    {j : c.Answer → Bridge.Step σ φ δ} (hk : ∀ x, Follows ceiling g (k x) (j x)) :
    Follows ceiling g (liftM (Bridge.ask site c) >>= k) (Bridge.ask site c >>= j) := bind (ask c) hk

theorem tell (c : Call) :
    Follows ceiling (fun x => x) (liftM (Bridge.tell site c) : Step σ φ Unit)
      (Bridge.tell site c) :=
  lifted fun _ bounds => ⟨bounds, rfl⟩

theorem told {g : γ → δ} {c : Call} {k : Unit → Step σ φ γ} {j : Unit → Bridge.Step σ φ δ}
    (h : Follows ceiling g (k ()) (j ())) :
    Follows ceiling g (liftM (Bridge.tell site c) >>= k) (Bridge.tell site c >>= j) :=
  bind (tell c) fun _ => h

end Follows

/-- A step of the access point leaves the data in bounds and the counters as they are. -/
def Kept (ceiling : Int) (a : Bridge.Step σ φ α) : Prop :=
  ∀ w, Bounds ceiling w.bts → Bounds ceiling (a w).2.bts ∧ (a w).2.bts.rach = w.bts.rach

namespace Kept

theorem done (x : α) : Kept ceiling (pure x : Bridge.Step σ φ α) := fun _ bounds => ⟨bounds, rfl⟩

theorem bind {a : Bridge.Step σ φ α} {k : α → Bridge.Step σ φ β} (h : Kept ceiling a)
    (hk : ∀ x, Kept ceiling (k x)) : Kept ceiling (a >>= k) := by
  intro w bounds
  obtain ⟨kept, rach⟩ := h w bounds
  obtain ⟨kept', rach'⟩ := hk (a w).1 (a w).2 kept
  exact ⟨kept', rach'.trans rach⟩

theorem read {k : World σ φ → Bridge.Step σ φ β} (h : ∀ w, Kept ceiling (k w)) :
    Kept ceiling (get >>= k) := fun w bounds => h w w bounds

theorem modifyLchan {f : Lchan → Lchan}
    (keeps : ∀ l, LchanBounds ceiling l → LchanBounds ceiling (f l)) :
    Kept ceiling (modify (·.modifyLchan id f) : Bridge.Step σ φ PUnit) :=
  fun _ bounds => ⟨bounds.modifyLchan keeps, rfl⟩

theorem ask (c : Call) : Kept ceiling (Bridge.ask site c) := fun _ bounds => ⟨bounds, rfl⟩

theorem tell (c : Call) : Kept ceiling (Bridge.tell site c) := fun _ bounds => ⟨bounds, rfl⟩

theorem freeDtx (l : Lchan) : Kept ceiling (Bridge.freeDtx site id l) := by
  unfold Bridge.freeDtx
  refine bind (modifyLchan fun _ h => ⟨h.counter, h.queue⟩) fun _ => ?_
  split
  · exact tell _
  · exact done _

theorem completeHandover (l : Lchan) : Kept ceiling (Bridge.completeHandover site id l) := by
  unfold Bridge.completeHandover
  split
  · exact bind (tell _) fun _ => modifyLchan fun _ h => ⟨h.counter, h.queue⟩
  · exact done _

theorem takeL1Header (rssi : Int8) (header : List UInt8) :
    Kept ceiling (Bridge.takeL1Header site id rssi header) := by
  unfold Bridge.takeL1Header
  refine read fun w => ?_
  split
  · refine bind (modifyLchan fun _ h => ⟨h.counter, h.queue⟩) fun _ => ?_
    split
    · refine bind (ask _) fun level => ?_
      split
      · exact modifyLchan fun _ h => ⟨h.counter, h.queue⟩
      · exact done _
    · exact done _
  · exact done _

end Kept

theorem Next.andThen {m : Act σ φ α} {a : Bridge.Act σ φ α} {k : α → Act σ φ β}
    {j : α → Bridge.Act σ φ β}
    (h : Next ceiling (Except.mapError Failure.refused) w.bts (m w) (a w))
    (hk : ∀ x, ActFollows ceiling (k x) (j x)) :
    Next ceiling (Except.mapError Failure.refused) w.bts ((m >>= k) w) ((a >>= j) w) := by
  refine Next.bind (m := m) (a := a) (k := ExceptT.bindCont k) (j := ExceptT.bindCont j) h ?_
  rintro (r | x)
  · exact .done (f := Except.mapError Failure.refused) (.error r)
  · exact hk x

namespace ActFollows

theorem succeed (x : α) : ActFollows ceiling (pure x : Act σ φ α) (pure x) :=
  Follows.done (f := Except.mapError Failure.refused) (.ok x)

theorem refused (r : Refusal) : ActFollows ceiling (refuse r : Act σ φ α) (Bridge.refuse r) :=
  Follows.done (f := Except.mapError Failure.refused) (.error r)

theorem andThen {m : Act σ φ α} {a : Bridge.Act σ φ α} {k : α → Act σ φ β}
    {j : α → Bridge.Act σ φ β} (h : ActFollows ceiling m a)
    (hk : ∀ x, ActFollows ceiling (k x) (j x)) :
    ActFollows ceiling (m >>= k) (a >>= j) := fun w bounds => (h w bounds).andThen hk

theorem lift {m : Step σ φ α} {a : Bridge.Step σ φ α} {k : α → Act σ φ β}
    {j : α → Bridge.Act σ φ β} (h : Follows ceiling (fun x => x) m a)
    (hk : ∀ x, ActFollows ceiling (k x) (j x)) :
    ActFollows ceiling (liftM m >>= k) (liftM a >>= j) := by
  rw [liftM_bind]
  exact Follows.bind (k := k) (j := j) h hk

theorem lastLift {m : Step σ φ α} {a : Bridge.Step σ φ α} (h : Follows ceiling (fun x => x) m a) :
    ActFollows ceiling (liftM m : Act σ φ α) (liftM a) :=
  Follows.bind (m := m) (a := a) h succeed

theorem checked {x : Checked α} {v : α} {k : α → Act σ φ β} {a : Bridge.Act σ φ β}
    (value : x = .ok v) (hk : ActFollows ceiling (k v) a) :
    ActFollows ceiling (liftM x >>= k) a := by
  rw [value]
  exact hk

theorem read {k : World σ φ → Act σ φ β} {j : World σ φ → Bridge.Act σ φ β}
    (h : ∀ w, Bounds ceiling w.bts → ActFollows ceiling (k w) (j w)) :
    ActFollows ceiling (get >>= k) (get >>= j) := fun w bounds => h w bounds w bounds

theorem modifyLchan {f : Lchan → Lchan} {k : PUnit → Act σ φ β} {j : PUnit → Bridge.Act σ φ β}
    (keeps : ∀ l, LchanBounds ceiling l → LchanBounds ceiling (f l))
    (h : ActFollows ceiling (k ⟨⟩) (j ⟨⟩)) :
    ActFollows ceiling (modify (·.modifyLchan id f) >>= k) (modify (·.modifyLchan id f) >>= j) :=
  Follows.modifyLchan (k := k) (j := j) keeps h

theorem written {f : World σ φ → World σ φ}
    (keeps : ∀ w, Bounds ceiling w.bts → Bounds ceiling (f w).bts ∧ (f w).bts.rach = w.bts.rach) :
    ActFollows ceiling (modify f : Act σ φ PUnit) (modify f) :=
  lastLift (.write keeps)

/-- A step that has nothing to check is followed by the rest. -/
theorem kept {a : Bridge.Step σ φ α} {k : α → Act σ φ β} {j : α → Bridge.Act σ φ β}
    (h : Kept ceiling a) (hk : ∀ x, ActFollows ceiling (k x) (j x)) :
    ActFollows ceiling (liftM a >>= k) (liftM a >>= j) :=
  Follows.bind (k := k) (j := j) (.lifted h) hk

theorem asked {c : Call} {k : c.Answer → Act σ φ β} {j : c.Answer → Bridge.Act σ φ β}
    (hk : ∀ x, ActFollows ceiling (k x) (j x)) :
    ActFollows ceiling (liftM (Bridge.ask site c) >>= k) (liftM (Bridge.ask site c) >>= j) :=
  Follows.asked (k := k) (j := j) hk

theorem told {c : Call} {k : Unit → Act σ φ β} {j : Unit → Bridge.Act σ φ β}
    (h : ActFollows ceiling (k ()) (j ())) :
    ActFollows ceiling (liftM (Bridge.tell site c) >>= k) (liftM (Bridge.tell site c) >>= j) :=
  Follows.told (k := k) (j := j) h

theorem lastTold (c : Call) : ActFollows ceiling (liftM (Bridge.tell site c) : Act σ φ Unit)
    (liftM (Bridge.tell site c)) := told (succeed ())

theorem last {m : Act σ φ β} {a : Bridge.Act σ φ β}
    (h : ActFollows ceiling (m >>= pure) (a >>= pure)) : ActFollows ceiling m a := by
  rwa [bind_pure, bind_pure] at h

/-- What is refused is handled in the same way. -/
theorem caught {m : Act σ φ β} {a : Bridge.Act σ φ β} {h : Refusal → Act σ φ β}
    {h' : Failure → Bridge.Act σ φ β} (hm : ActFollows ceiling m a)
    (handled : ∀ r, ActFollows ceiling (h r) (h' (.refused r))) :
    ActFollows ceiling (tryCatch m h) (tryCatch a h') := by
  change ActFollows ceiling (ExceptT.tryCatch m h) (ExceptT.tryCatch a h')
  unfold ExceptT.tryCatch
  refine Follows.bind (m := m) (a := a) hm ?_
  rintro (r | x)
  · exact handled r
  · exact succeed x

end ActFollows

/-! ### Look-up -/

theorem find_eq (b : Bts) (trx n : UInt8) : find b trx n = .ok (b.find? trx n) := by
  unfold find
  cases carrier : b.carrier? trx with
  | none =>
    have unknown : b.find? trx n = none := Bts.find?_eq_none.mpr
      (Option.eq_none_iff_forall_ne_some.mpr fun _ => Bts.not_located_of_carrier carrier)
    rw [unknown]
    rfl
  | some c =>
    dsimp only
    cases addr : ChanAddr.decode n with
    | error e => simp [Bts.find?, Bts.locate?, addr]
    | ok a =>
      -- the place of a channel fits into an octet, so nothing is lost in its address
      have place : a.lchanIndex < 256 := by
        unfold ChanAddr.lchanIndex ChanAddr.subslotIndex
        split
        · decide
        · decide
        · decide
        · exact (a.ss.getD 0).toNat_lt
      have there : b.lchan? ⟨trx, a.tn, a.lchanIndex.toUInt8⟩ =
          (c.slotOf n).lchans[a.lchanIndex]? := by
        unfold Bts.lchan?
        rw [tn_of_decode addr, Bts.slot?_slotOf carrier]
        simp [Nat.mod_eq_of_lt place]
      dsimp only
      rw [tn_of_decode addr, slotAt_eq, ok_bind, pure_eq_ok, ← tn_of_decode addr, ← there]
      unfold Bts.find? Bts.locate?
      rw [addr]
      clear there
      cases known : b.lchan? ⟨trx, a.tn, a.lchanIndex.toUInt8⟩ with
      | none => simp [known]
      | some l => simp [known]

theorem findActive_eq (b : Bts) (trx n : UInt8) :
    findActive b trx n = .ok (b.findActive? trx n) := by
  unfold findActive
  rw [find_eq]
  rfl

namespace ActFollows

theorem needCarrier {k : Carrier → Act σ φ β} {j : Carrier → Bridge.Act σ φ β}
    (hk : ∀ c, ActFollows ceiling (k c) (j c)) :
    ActFollows ceiling (Machine.needCarrier trx >>= k) (Bridge.needCarrier trx >>= j) := by
  refine andThen (read fun w bounds => ?_) hk
  cases w.bts.carrier? trx with
  | none => exact refused _
  | some c => exact succeed c

theorem needLchan {k : LchanId × Lchan → Act σ φ β} {j : LchanId × Lchan → Bridge.Act σ φ β}
    (hk : ∀ p, LchanBounds ceiling p.2 → ActFollows ceiling (k p) (j p)) :
    ActFollows ceiling (Machine.needLchan trx n >>= k) (Bridge.needLchan trx n >>= j) := by
  unfold Machine.needLchan Bridge.needLchan
  rw [bind_assoc, bind_assoc]
  refine read fun w bounds => ?_
  rw [bind_assoc]
  refine checked (find_eq w.bts trx n) ?_
  cases found : w.bts.find? trx n with
  | none => exact refused _
  | some p => exact hk p (bounds.found found)

end ActFollows

end BaseStation.Machine
