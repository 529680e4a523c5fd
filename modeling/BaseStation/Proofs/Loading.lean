import Mathlib.Data.List.Forall2
import BaseStation.Proofs.Machine.Loader

/-!
The loader takes exactly the good documents. A complete document says what a configuration needs in
the form it needs it, and describes one configuration and one filter: what it gives has the value
given, and what it leaves out has its default. The loader returns them if the configuration is
valid, and refuses the document otherwise.
-/

namespace BaseStation.ConfigFile

open BaseStation.Capture (Filter Selectable)

/-! ### Good documents -/

/-- A document of the one version there is, without keys that mean nothing, whose lists have the
length they need and whose names are known. -/
structure Document.Complete (d : Document) : Prop where
  version : d.version = "0.1"
  top : d.unknown = []
  phyLink : ∀ s ∈ d.phyLink, s.unknown = []
  cell : ∀ s ∈ d.cell, s.unknown = []
  carriers : ∀ s ∈ d.carriers, s.unknown = []
  capture : ∀ s ∈ d.capture, s.unknown = []
  slots : ∀ s ∈ d.carriers, s.timeslots.length = 8
  t200 : ∀ s ∈ d.cell, ∀ ts ∈ s.t200, ts.length = 7
  names : ∀ s ∈ d.capture, ∀ names ∈ s.names, ∀ n ∈ names, Selectable n

/-- The cell that a section describes, if there is one. -/
structure DescribesCell (s : Option CellSection) (c : CellConfig) : Prop where
  bsic : c.bsic = (s.map (·.bsic)).getD CellConfig.default.bsic
  maxTa : c.maxTa = (s.bind (·.maxTa)).getD CellConfig.default.maxTa
  radioLinkTimeout :
    c.radioLinkTimeout = (s.bind (·.radioLinkTimeout)).getD CellConfig.default.radioLinkTimeout
  t200 : c.t200.toList = (s.bind (·.t200)).getD CellConfig.default.t200.toList
  dtxDl : c.dtxDl = (s.bind (·.dtxDl)).getD CellConfig.default.dtxDl
  dtxUl : c.dtxUl = (s.bind (·.dtxUl)).getD CellConfig.default.dtxUl
  numAgch : c.numAgch = (s.bind (·.numAgch)).getD CellConfig.default.numAgch
  ccchConf : c.ccchConf = (s.bind (·.ccchConf)).getD CellConfig.default.ccchConf

/-- The capture that a section describes, if there is one, and the filter its names select. -/
structure DescribesCapture (s : Option CaptureSection) (c : CaptureConfig) (f : Filter) : Prop where
  enabled : c.enabled = (s.map (·.enabled)).getD CaptureConfig.default.enabled
  host : c.host = (s.bind (·.host)).getD CaptureConfig.default.host
  port : c.port = (s.bind (·.port)).getD CaptureConfig.default.port
  names : c.names = (s.bind (·.names)).getD CaptureConfig.default.names
  filter : f.Selects c.names

/-- A carrier as a document lists it. -/
def CarrierSection.Describes (s : CarrierSection) (k : CarrierConfig) : Prop :=
  k.arfcn = s.arfcn ∧ k.slots.toList = s.timeslots

/-- The configuration that a document describes, and the filter to start with: the carriers are
those of the document, in its order. -/
structure Document.Describes (d : Document) (c : Config) (f : Filter) : Prop where
  debugLog : c.debugLog = d.debugLog
  backend : c.backend = (d.phyLink.map (·.backend)).getD Config.default.backend
  cell : DescribesCell d.cell c.cell
  carriers : List.Forall₂ CarrierSection.Describes d.carriers c.carriers
  capture : DescribesCapture d.capture c.capture f

/-! ### Sections -/

theorem checkKeys_eq_ok {place : Place} {keys : List String} :
    checkKeys place keys = .ok () ↔ keys = [] := by
  unfold checkKeys
  split
  · exact ⟨fun _ => ‹_›, fun _ => rfl⟩
  · exact ⟨nofun, fun none => absurd none ‹_›⟩

theorem CarrierSection.toConfig_eq_ok {nr : Nat} {s : CarrierSection} {k : CarrierConfig} :
    s.toConfig nr = .ok k ↔ s.unknown = [] ∧ s.Describes k := by
  unfold CarrierSection.toConfig
  rw [bind_eq_ok]
  constructor
  · rintro ⟨_, keys, built⟩
    refine ⟨checkKeys_eq_ok.mp keys, ?_⟩
    split at built
    · cases built
      exact ⟨rfl, List.toList_toArray⟩
    · cases built
  · rintro ⟨none, arfcn, slots⟩
    have fits : s.timeslots.length = numSlots := slots ▸ k.slots.length_toList
    refine ⟨(), checkKeys_eq_ok.mpr none, ?_⟩
    rw [dif_pos fits]
    obtain ⟨_, _⟩ := k
    cases arfcn
    refine congrArg Except.ok (congrArg (CarrierConfig.mk _) (Vector.toList_inj.mp ?_))
    exact slots.symm

/-- The carriers of a document are built in its order, each by what is listed for it. -/
theorem carriers_eq_ok {ss : List CarrierSection} {start : Nat} {ks : List CarrierConfig} :
    (ss.zipIdx start).mapM (fun (s, nr) => CarrierSection.toConfig nr s) = .ok ks ↔
      (∀ s ∈ ss, s.unknown = []) ∧ List.Forall₂ CarrierSection.Describes ss ks := by
  induction ss generalizing start ks with
  | nil =>
    constructor
    · rintro ⟨⟩
      exact ⟨nofun, .nil⟩
    · rintro ⟨-, ⟨⟩⟩
      rfl
  | cons s ss ih =>
    rw [List.zipIdx_cons, List.mapM_cons, bind_eq_ok, List.forall_mem_cons,
      List.forall₂_cons_left_iff]
    constructor
    · rintro ⟨k, first, built⟩
      obtain ⟨ks, rest, built⟩ := bind_eq_ok.mp built
      cases built
      obtain ⟨keys, described⟩ := CarrierSection.toConfig_eq_ok.mp first
      obtain ⟨others, listed⟩ := ih.mp rest
      exact ⟨⟨keys, others⟩, k, ks, described, listed, rfl⟩
    · rintro ⟨⟨keys, others⟩, k, ks, described, listed, rfl⟩
      refine ⟨k, CarrierSection.toConfig_eq_ok.mpr ⟨keys, described⟩, ?_⟩
      exact bind_eq_ok.mpr ⟨ks, ih.mpr ⟨others, listed⟩, rfl⟩

theorem t200_toList_inj {t u : T200Table} : t.toList = u.toList ↔ t = u := by
  constructor
  · intro same
    cases t
    cases u
    simpa [T200Table.toList] using same
  · exact congrArg _

theorem t200_ofList?_eq_some {ts : List UInt32} {t : T200Table} :
    T200Table.ofList? ts = some t ↔ t.toList = ts := by
  constructor
  · intro given
    unfold T200Table.ofList? at given
    split at given
    · cases given
      rfl
    · cases given
  · rintro rfl
    rfl

theorem t200Table_eq_ok {given : Option (List UInt32)} {t : T200Table} :
    t200Table given = .ok t ↔ t.toList = given.getD T200Table.default.toList := by
  cases given with
  | none =>
    rw [Option.getD_none, t200_toList_inj, eq_comm]
    exact ⟨Except.ok.inj, congrArg _⟩
  | some ts =>
    rw [Option.getD_some, ← t200_ofList?_eq_some]
    unfold t200Table
    dsimp only
    cases T200Table.ofList? ts with
    | none => exact ⟨nofun, nofun⟩
    | some u =>
      rw [Except.ok.injEq, Option.some.injEq]

theorem cell_eq_ok {s : Option CellSection} {c : CellConfig} :
    s.elim (pure .default) CellSection.toConfig = .ok c ↔ DescribesCell s c := by
  cases s with
  | none =>
    constructor
    · rintro ⟨⟩
      exact ⟨rfl, rfl, rfl, rfl, rfl, rfl, rfl, rfl⟩
    · obtain ⟨_, _, _, t, _, _, _, _⟩ := c
      rintro ⟨⟨⟩, ⟨⟩, ⟨⟩, same, ⟨⟩, ⟨⟩, ⟨⟩, ⟨⟩⟩
      cases t200_toList_inj.mp same
      rfl
  | some s =>
    refine bind_eq_ok.trans ?_
    constructor
    · rintro ⟨t, table, built⟩
      cases built
      exact ⟨rfl, rfl, rfl, t200Table_eq_ok.mp table, rfl, rfl, rfl, rfl⟩
    · obtain ⟨_, _, _, t, _, _, _, _⟩ := c
      rintro ⟨⟨⟩, ⟨⟩, ⟨⟩, table, ⟨⟩, ⟨⟩, ⟨⟩, ⟨⟩⟩
      exact ⟨t, t200Table_eq_ok.mpr table, rfl⟩

theorem capture_eq_ok {s : Option CaptureSection} {c : CaptureConfig} {f : Filter} :
    s.elim (pure (.default, .empty)) CaptureSection.toConfig = .ok (c, f) ↔
      (∀ n ∈ (s.bind (·.names)).getD CaptureConfig.default.names, Selectable n) ∧
        DescribesCapture s c f := by
  cases s with
  | none =>
    constructor
    · rintro ⟨⟩
      exact ⟨nofun, rfl, rfl, rfl, rfl, Filter.empty_selects⟩
    · obtain ⟨_, _, _, _⟩ := c
      rintro ⟨-, ⟨⟩, ⟨⟩, ⟨⟩, ⟨⟩, selects⟩
      rw [selects.unique Filter.empty_selects]
      rfl
  | some s =>
    unfold CaptureSection.toConfig
    dsimp only [Option.elim_some, Option.bind_some]
    constructor
    · intro built
      split at built
      · cases built
        obtain ⟨known, selects⟩ := Filter.ofNames_eq_ok.mp ‹_›
        exact ⟨known, rfl, rfl, rfl, rfl, selects⟩
      · cases built
    · obtain ⟨_, _, _, _⟩ := c
      rintro ⟨known, ⟨⟩, ⟨⟩, ⟨⟩, ⟨⟩, selects⟩
      dsimp only [Option.bind_some] at selects
      rw [Filter.ofNames_eq_ok.mpr ⟨known, selects⟩]
      rfl

/-! ### Rules on sections -/

/-- A section has no keys that mean nothing, if it is there. -/
theorem elim_eq_nil {α : Type} {s : Option α} {unknown : α → List String} :
    s.elim [] unknown = [] ↔ ∀ s' ∈ s, unknown s' = [] := by
  cases s <;> simp

theorem t200_length {s : Option CellSection} {c : CellConfig} (described : DescribesCell s c) :
    ∀ s' ∈ s, ∀ ts ∈ s'.t200, ts.length = 7 := by
  rintro s' rfl ts given
  have listed := described.t200
  rw [Option.bind_some, Option.mem_def.mp given, Option.getD_some] at listed
  exact listed ▸ rfl

theorem slots_length {ss : List CarrierSection} {ks : List CarrierConfig}
    (described : List.Forall₂ CarrierSection.Describes ss ks) :
    ∀ s ∈ ss, s.timeslots.length = 8 := by
  induction described with
  | nil => exact nofun
  | cons first _ ih => exact List.forall_mem_cons.mpr ⟨first.2 ▸ Vector.length_toList, ih⟩

theorem names_selectable {s : Option CaptureSection} :
    (∀ n ∈ (s.bind (·.names)).getD CaptureConfig.default.names, Selectable n) ↔
      ∀ s' ∈ s, ∀ names ∈ s'.names, ∀ n ∈ names, Selectable n := by
  cases s with
  | none => simp [CaptureConfig.default]
  | some s => cases given : s.names <;> simp [given, CaptureConfig.default]

theorem backend_eq (s : Option PhyLinkSection) :
    s.elim .undefined (·.backend) = (s.map (·.backend)).getD Config.default.backend := by
  cases s <;> rfl

/-! ### Complete documents -/

theorem exists_cell {s : Option CellSection}
    (lengths : ∀ s' ∈ s, ∀ ts ∈ s'.t200, ts.length = 7) : ∃ c, DescribesCell s c := by
  cases s with
  | none => exact ⟨.default, cell_eq_ok.mp rfl⟩
  | some s =>
    obtain ⟨t, table⟩ : ∃ t : T200Table, t.toList = s.t200.getD T200Table.default.toList := by
      cases given : s.t200 with
      | none => exact ⟨.default, rfl⟩
      | some ts =>
        have length := lengths s rfl ts given
        match ts, length with
        | [a, b, c, d, e, f, g], _ => exact ⟨⟨a, b, c, d, e, f, g⟩, rfl⟩
    exact ⟨_, cell_eq_ok.mp (bind_eq_ok.mpr ⟨t, t200Table_eq_ok.mpr table, rfl⟩)⟩

theorem exists_carriers {ss : List CarrierSection} (lengths : ∀ s ∈ ss, s.timeslots.length = 8) :
    ∃ ks, List.Forall₂ CarrierSection.Describes ss ks := by
  induction ss with
  | nil => exact ⟨[], .nil⟩
  | cons s ss ih =>
    obtain ⟨fits, rest⟩ := List.forall_mem_cons.mp lengths
    obtain ⟨ks, described⟩ := ih rest
    exact ⟨⟨s.arfcn, ⟨s.timeslots.toArray, fits⟩⟩ :: ks, .cons ⟨rfl, List.toList_toArray⟩ described⟩

/-! ### Documents -/

namespace Document

variable {d : Document} {c c' : Config} {f f' : Filter}

/-- What the loader returns is described by a complete document. -/
theorem described_of_toConfig (loaded : d.toConfig = .ok (c, f)) :
    d.Complete ∧ d.Describes c f ∧ c.validate = .ok () := by
  unfold toConfig at loaded
  by_cases version : d.version = formatVersion
  swap
  · rw [if_pos version] at loaded
    cases loaded
  rw [if_neg (not_not_intro version)] at loaded
  -- what was returned went through all the checks
  obtain ⟨_, top, loaded⟩ := bind_eq_ok.mp loaded
  obtain ⟨_, phyLink, loaded⟩ := bind_eq_ok.mp loaded
  obtain ⟨_, cellKeys, loaded⟩ := bind_eq_ok.mp loaded
  obtain ⟨ks, carriers, loaded⟩ := bind_eq_ok.mp loaded
  obtain ⟨_, captureKeys, loaded⟩ := bind_eq_ok.mp loaded
  obtain ⟨cell, built, loaded⟩ := bind_eq_ok.mp loaded
  obtain ⟨⟨capture, filter⟩, selected, loaded⟩ := bind_eq_ok.mp loaded
  have cell_is := cell_eq_ok.mp built
  obtain ⟨carrierKeys, carriers_are⟩ := carriers_eq_ok.mp carriers
  obtain ⟨known, capture_is⟩ := capture_eq_ok.mp selected
  dsimp only at loaded
  split at loaded
  · cases loaded
    refine ⟨{
      version := version
      top := checkKeys_eq_ok.mp top
      phyLink := elim_eq_nil.mp (checkKeys_eq_ok.mp phyLink)
      cell := elim_eq_nil.mp (checkKeys_eq_ok.mp cellKeys)
      carriers := carrierKeys
      capture := elim_eq_nil.mp (checkKeys_eq_ok.mp captureKeys)
      slots := slots_length carriers_are
      t200 := t200_length cell_is
      names := names_selectable.mp known }, ?_, ‹_›⟩
    exact ⟨rfl, backend_eq d.phyLink, cell_is, carriers_are, capture_is⟩
  · cases loaded

/-- The outcome for a complete document is that of the validation. -/
theorem toConfig_of_describes (complete : d.Complete) (described : d.Describes c f) :
    d.toConfig = match c.validate with
      | .ok () => .ok (c, f)
      | .error e => .error (.invalid e) := by
  have version : d.version = formatVersion := complete.version
  have whole : (⟨d.debugLog, c.cell, c.carriers, c.capture,
      d.phyLink.elim .undefined (·.backend)⟩ : Config) = c := by
    rw [backend_eq, ← described.backend, ← described.debugLog]
  unfold toConfig
  rw [if_neg (not_not_intro version), complete.top, elim_eq_nil.mpr complete.phyLink,
    elim_eq_nil.mpr complete.cell, elim_eq_nil.mpr complete.capture,
    carriers_eq_ok.mpr ⟨complete.carriers, described.carriers⟩, cell_eq_ok.mpr described.cell,
    capture_eq_ok.mpr ⟨names_selectable.mpr complete.names, described.capture⟩, ← whole]
  rfl

/-- A complete document describes a configuration and a filter. -/
theorem Complete.exists_describes (complete : d.Complete) : ∃ c f, d.Describes c f := by
  obtain ⟨cell, cell_is⟩ := exists_cell complete.t200
  obtain ⟨ks, carriers_are⟩ := exists_carriers complete.slots
  obtain ⟨f, selects⟩ := Filter.exists_selects (names_selectable.mpr complete.names)
  exact ⟨⟨d.debugLog, cell, ks, ⟨_, _, _, _⟩, _⟩, f, rfl, rfl, cell_is, carriers_are,
    rfl, rfl, rfl, rfl, selects⟩

/-- It describes one of each. -/
theorem Describes.unique (complete : d.Complete) (left : d.Describes c f)
    (right : d.Describes c' f') : c = c' ∧ f = f' := by
  have known := names_selectable.mpr complete.names
  have cells := (cell_eq_ok.mpr left.cell).symm.trans (cell_eq_ok.mpr right.cell)
  have carriers := (@carriers_eq_ok d.carriers 0 _).mpr ⟨complete.carriers, left.carriers⟩
  rw [carriers_eq_ok.mpr ⟨complete.carriers, right.carriers⟩] at carriers
  have captures := (capture_eq_ok.mpr ⟨known, left.capture⟩).symm.trans
    (capture_eq_ok.mpr ⟨known, right.capture⟩)
  obtain ⟨capture, filter⟩ := Prod.mk.inj (Except.ok.inj captures)
  refine ⟨?_, filter⟩
  cases c
  cases c'
  rw [Config.mk.injEq]
  exact ⟨left.debugLog.trans right.debugLog.symm, Except.ok.inj cells,
    (Except.ok.inj carriers).symm, capture, left.backend.trans right.backend.symm⟩

/-- The loader returns a configuration and a filter exactly if a document is complete and describes
them and the configuration is valid. A complete document describes one of each, and anything else is
refused; in no case does the loader stop. -/
theorem loads_exactly_good (d : Document) :
    Machine.load d = Machine.answer d.toConfig ∧
    (∀ c f, (Machine.load d).run = .ok (.ok (c, f)) ↔
      d.Complete ∧ d.Describes c f ∧ c.validate = .ok ()) ∧
    (d.Complete → ∃! r : Config × Filter, d.Describes r.1 r.2) ∧
    ((∃ c f, d.Complete ∧ d.Describes c f ∧ c.validate = .ok ()) ∨
      ∃ e, (Machine.load d).run = .ok (.error e)) := by
  have runs : (Machine.load d).run = .ok d.toConfig := congrArg ExceptT.run (Machine.load_eq d)
  refine ⟨Machine.load_eq d, fun c f => ?_, fun complete => ?_, ?_⟩
  · rw [runs, Except.ok.injEq]
    refine ⟨described_of_toConfig, fun ⟨complete, described, valid⟩ => ?_⟩
    rw [toConfig_of_describes complete described, valid]
  · obtain ⟨c, f, described⟩ := complete.exists_describes
    refine ⟨(c, f), described, fun (c', f') other => ?_⟩
    obtain ⟨rfl, rfl⟩ := Describes.unique complete other described
    rfl
  · rw [runs]
    cases loaded : d.toConfig with
    | error e => exact .inr ⟨e, rfl⟩
    | ok r => exact .inl ⟨r.1, r.2, described_of_toConfig loaded⟩

/-- A document that leaves most of what has a default out. -/
def sparse : Document where
  version := "0.1"
  debugLog := none
  phyLink := some ⟨.virtual, []⟩
  cell := some ⟨63, none, none, none, none, none, none, some .oneCombined, []⟩
  carriers := [⟨871, [.ccchSdcch4, .tchF, .tchF, .tchH, .sdcch8, .pdch, .tchFPdch, .tchFTchHPdch],
    []⟩]
  capture := some ⟨true, none, none, some ["Pdtch", "sacch"], []⟩
  unknown := []

example : sparse.toConfig.toOption.map (·.2) = some ⟨Gsmtap.maskBit 13, true⟩ := by
  decide +kernel

end Document
end BaseStation.ConfigFile
