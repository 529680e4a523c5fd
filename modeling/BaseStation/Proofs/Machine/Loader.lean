import BaseStation.ConfigFile.Load
import BaseStation.Proofs.CaptureNames
import BaseStation.Proofs.Machine.Word

/-!
The loader on the machine. It looks a document over before it builds anything: a list that goes into
a block of fixed size is measured first and copied later, and a configuration is validated before it
is shared. The copy and the sharing stop the machine where what they are given is not right, so that
each needs the check that came before it.
-/

namespace BaseStation.Machine

open BaseStation.Capture (Filter)
open BaseStation.ConfigFile
  (CaptureSection CarrierSection CellSection Document LoadError checkKeys formatVersion)

/-! ### Answers -/

/-- A result or what is wrong with the document, unless the machine stops. -/
abbrev Loading (α : Type) := ExceptT LoadError (Except Panic) α

section Answers

variable {α β : Type}

/-- A step that does not stop the machine. -/
def answer (r : Except LoadError α) : Loading α := ExceptT.mk (.ok r)

/-- A step that finds nothing wrong with the document. -/
def execute (x : Checked α) : Loading α := ExceptT.lift x

/-- Steps that answer one after the other answer together. The rest only runs behind a result. -/
theorem answer_bind {r : Except LoadError α} {k : α → Loading β} {g : α → Except LoadError β}
    (rest : ∀ a, r = .ok a → k a = answer (g a)) : answer r >>= k = answer (r >>= g) := by
  cases r with
  | error e => rfl
  | ok a => exact rest a rfl

/-- The same where a step looks at what the other one builds. -/
theorem answer_map_bind {γ : Type} {r : Except LoadError α} {look : α → γ} {k : γ → Loading β}
    {g : α → Except LoadError β} (rest : ∀ a, r = .ok a → k (look a) = answer (g a)) :
    answer (r.map look) >>= k = answer (r >>= g) := by
  cases r with
  | error e => rfl
  | ok a => exact rest a rfl

theorem elim_answer {o : Option α} {a : β} {k : α → Loading β} {g : α → Except LoadError β}
    (same : ∀ x, k x = answer (g x)) : o.elim (pure a) k = answer (o.elim (pure a) g) := by
  cases o with
  | none => rfl
  | some x => exact same x

theorem execute_bind {x : Checked α} {a : α} {k : α → Loading β} (runs : x = .ok a) :
    execute x >>= k = k a := by
  rw [runs]
  rfl

end Answers

/-! ### Copies -/

/-- The copy of a list onto a block of `n` entries, which has to be as long. -/
def copy {α : Type} (n : Nat) (xs : List α) : Checked (Vector α n) :=
  if h : xs.length = n then .ok ⟨xs.toArray, h⟩
  else .error (.raised ("copy_from_slice: source slice length (" ++ toString xs.length ++
    ") does not match destination slice length (" ++ toString n ++ ")"))

/-- The table of a block with one value for each channel. -/
def table (v : Vector UInt32 T200Table.size) : T200Table :=
  ⟨v[0], v[1], v[2], v[3], v[4], v[5], v[6]⟩

theorem copy_eq {α : Type} {n : Nat} {xs : List α} (fits : xs.length = n) :
    copy n xs = .ok ⟨xs.toArray, fits⟩ := dif_pos fits

/-! ### Sections -/

/-- What is looked at of a carrier before any of them is built. -/
def checkCarrier (nr : Nat) (s : CarrierSection) : Except LoadError Unit := do
  checkKeys (.carrier nr) s.unknown
  if s.timeslots.length = numSlots then .ok () else .error (.slotCount nr s.timeslots.length)

def buildCarrier (s : CarrierSection) : Checked CarrierConfig := do
  let slots ← copy numSlots s.timeslots
  pure ⟨s.arfcn, slots⟩

def t200Table : Option (List UInt32) → Loading T200Table
  | none => pure .default
  | some ts => do
    answer (if ts.length = T200Table.size then .ok () else .error (.t200Count ts.length))
    let v ← execute (copy T200Table.size ts)
    pure (table v)

def cellConfig (s : CellSection) : Loading CellConfig := do
  let d := CellConfig.default
  let t200 ← t200Table s.t200
  pure {
    bsic := s.bsic
    maxTa := s.maxTa.getD d.maxTa
    radioLinkTimeout := s.radioLinkTimeout.getD d.radioLinkTimeout
    t200 := t200
    dtxDl := s.dtxDl.getD d.dtxDl
    dtxUl := s.dtxUl.getD d.dtxUl
    numAgch := s.numAgch.getD d.numAgch
    ccchConf := s.ccchConf.getD d.ccchConf }

def select (f : Filter) (name : String) : Loading Filter :=
  if Gsmtap.sameName name Gsmtap.acchName then pure { f with acch := true }
  else
    match Gsmtap.Channel.ofName? name with
    | some ch => do
      execute (checkShift 32 (ch.code &&& 31).toNat)
      pure { f with mask := f.mask ||| Gsmtap.maskBit ch.code }
    | none => answer (.error (.captureName name))

def captureConfig (s : CaptureSection) : Loading (CaptureConfig × Filter) := do
  let d := CaptureConfig.default
  let names := s.names.getD d.names
  let filter ← names.foldlM select .empty
  pure (⟨s.enabled, s.host.getD d.host, s.port.getD d.port, names⟩, filter)

/-! ### Files -/

/-- The shared configuration, which has to be valid. -/
def share (c : Config) (f : Filter) : Checked (Config × Filter) :=
  match c.validate with
  | .ok () => .ok (c, f)
  | .error e => .error (.raised ("Invalid BTS configuration: " ++ e.message))

def load (d : Document) : Loading (Config × Filter) := do
  answer (if d.version = formatVersion then .ok () else .error (.version d.version))
  answer (checkKeys .top d.unknown)
  answer (checkKeys .phyLink (d.phyLink.elim [] (·.unknown)))
  answer (checkKeys .cell (d.cell.elim [] (·.unknown)))
  answer (forM d.carriers.zipIdx fun (s, nr) => checkCarrier nr s)
  answer (checkKeys .capture (d.capture.elim [] (·.unknown)))
  let cell ← d.cell.elim (pure .default) cellConfig
  let carriers ← execute (d.carriers.mapM buildCarrier)
  let (capture, filter) ← d.capture.elim (pure (.default, .empty)) captureConfig
  let c : Config :=
    ⟨d.debugLog, cell, carriers, capture, d.phyLink.elim .undefined (·.backend)⟩
  answer (c.validate.mapError .invalid)
  execute (share c filter)

/-! ### No stop -/

theorem t200Table_eq (given : Option (List UInt32)) :
    t200Table given = answer (ConfigFile.t200Table given) := by
  cases given with
  | none => rfl
  | some ts =>
    match ts with
    | [a, b, c, d, e, f, g] => rfl
    | [] | [_] | [_, _] | [_, _, _] | [_, _, _, _] | [_, _, _, _, _] | [_, _, _, _, _, _] => rfl
    | _ :: _ :: _ :: _ :: _ :: _ :: _ :: _ :: ts =>
      have long : ¬ ts.length + 8 = T200Table.size := by
        unfold T200Table.size
        omega
      unfold t200Table
      simp only [List.length_cons]
      rw [if_neg long]
      rfl

theorem cellConfig_eq (s : CellSection) : cellConfig s = answer s.toConfig := by
  unfold cellConfig CellSection.toConfig
  rw [t200Table_eq]
  exact answer_bind fun _ _ => rfl

theorem select_eq (f : Filter) (name : String) :
    select f name = answer ((f.add name).mapError .captureName) := by
  unfold select Filter.add Filter.select?
  split
  · rfl
  · cases Gsmtap.Channel.ofName? name with
    | none => rfl
    | some ch =>
      have fits : (ch.code &&& 31).toNat < 32 := by cases ch <;> decide
      dsimp only
      rw [execute_bind (checkShift_eq fits)]
      rfl

theorem select_foldlM (names : List String) (f : Filter) :
    names.foldlM select f = answer ((names.foldlM Filter.add f).mapError .captureName) := by
  induction names generalizing f with
  | nil => rfl
  | cons name names ih =>
    rw [List.foldlM_cons, List.foldlM_cons, select_eq]
    cases f.add name with
    | error unknown => rfl
    | ok g => exact ih g

theorem captureConfig_eq (s : CaptureSection) : captureConfig s = answer s.toConfig := by
  unfold captureConfig CaptureSection.toConfig
  dsimp only
  rw [select_foldlM, ← Filter.ofNames_eq]
  cases Filter.ofNames (s.names.getD CaptureConfig.default.names) with
  | error unknown => rfl
  | ok filter => rfl

theorem checkCarrier_eq (nr : Nat) (s : CarrierSection) :
    checkCarrier nr s = (s.toConfig nr).map fun _ => () := by
  unfold checkCarrier CarrierSection.toConfig
  cases checkKeys (.carrier nr) s.unknown with
  | error e => rfl
  | ok _ =>
    by_cases fits : s.timeslots.length = numSlots
    · simp only [fits, if_true, dif_pos]
      rfl
    · simp only [fits, if_false]
      rfl

theorem buildCarrier_eq {nr : Nat} {s : CarrierSection} {k : CarrierConfig}
    (accepted : s.toConfig nr = .ok k) : buildCarrier s = .ok k := by
  obtain ⟨-, -, built⟩ := bind_eq_ok.mp accepted
  by_cases fits : s.timeslots.length = numSlots
  · rw [dif_pos fits] at built
    unfold buildCarrier
    rw [copy_eq fits, ok_bind, pure_eq_ok, ← Except.ok.inj built]
  · rw [dif_neg fits] at built
    cases built

/-- The carriers are looked over with the outcome that building them one by one has. -/
theorem checkCarriers_eq (ss : List CarrierSection) (start : Nat) :
    forM (ss.zipIdx start) (fun (s, nr) => checkCarrier nr s) =
      ((ss.zipIdx start).mapM fun (s, nr) => CarrierSection.toConfig nr s).map fun _ => () := by
  induction ss generalizing start with
  | nil => rfl
  | cons s ss ih =>
    rw [List.zipIdx_cons, List.forM_cons, List.mapM_cons, ih]
    dsimp only
    rw [checkCarrier_eq]
    cases s.toConfig start with
    | error e => rfl
    | ok k => cases (ss.zipIdx (start + 1)).mapM fun (s, nr) => CarrierSection.toConfig nr s <;> rfl

/-- Carriers that were looked over can be built. -/
theorem buildCarriers_eq {ss : List CarrierSection} {start : Nat} {ks : List CarrierConfig}
    (accepted : (ss.zipIdx start).mapM (fun (s, nr) => s.toConfig nr) = .ok ks) :
    ss.mapM buildCarrier = .ok ks := by
  induction ss generalizing start ks with
  | nil =>
    cases accepted
    rfl
  | cons s ss ih =>
    rw [List.zipIdx_cons, List.mapM_cons] at accepted
    obtain ⟨k, first, accepted⟩ := bind_eq_ok.mp accepted
    obtain ⟨ks, rest, accepted⟩ := bind_eq_ok.mp accepted
    cases accepted
    rw [List.mapM_cons, buildCarrier_eq first, ok_bind, ih rest, ok_bind, pure_eq_ok]

/-- A configuration is only shared behind its validation. -/
theorem share_validated (c : Config) (f : Filter) :
    (do answer (c.validate.mapError .invalid); execute (share c f)) =
      answer (match c.validate with
        | .ok () => .ok (c, f)
        | .error e => .error (.invalid e)) := by
  unfold share
  cases c.validate with
  | error e => rfl
  | ok _ => rfl

/-- The loader never stops the machine, whatever the document. -/
theorem load_eq (d : Document) : load d = answer d.toConfig := by
  unfold load Document.toConfig
  by_cases version : d.version = formatVersion
  swap
  · rw [if_neg version, if_pos version]
    rfl
  rw [if_pos version, if_neg (not_not_intro version)]
  refine answer_bind fun _ _ => answer_bind fun _ _ => answer_bind fun _ _ =>
    answer_bind fun _ _ => ?_
  rw [checkCarriers_eq, elim_answer cellConfig_eq, elim_answer captureConfig_eq]
  refine answer_map_bind fun carriers built => answer_bind fun _ _ => answer_bind fun cell _ => ?_
  rw [execute_bind (buildCarriers_eq built)]
  exact answer_bind fun (capture, filter) _ => share_validated _ filter

end BaseStation.Machine
