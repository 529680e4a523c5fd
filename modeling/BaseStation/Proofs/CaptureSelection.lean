import BaseStation.Proofs.CaptureFidelity
import BaseStation.Proofs.CaptureInvisible
import BaseStation.Proofs.Loading

/-!
The capture list of the operator. Its names are looked up, made into bits and tested against the
categories of records in different places; the classifier comes up with categories of channels only,
with the flag of the associated control channels or without, and on these the filter of a list lets
through what a name of the list chooses. So as long as the filter stays, what is received are the
chosen ones among the sightings of each turn: the block or burst that came in, and the blocks that
went down.
-/

namespace BaseStation

namespace Capture

open Gsmtap (Channel acchFlag)

variable {names : List String} {f : Filter}

/-! ### Sightings on a carrier -/

/-- The octets to record. Of an uplink timing block the first octet tells what it is, an access
burst by the value 7, which leaves nothing to record, and the others follow. -/
def Sighting.payload : Sighting → List UInt8
  | received d pdch _ =>
    if pdch && isPtcch d.fn.toNat then
      if d.frame.octets.head? = some 7 then [] else d.frame.octets.tail
    else d.frame.octets
  | sent d .. => d.frame.octets
  | burst p => [p.ra.toUInt8]

theorem blockCategory_eq (d : PhData) (pdch : Bool) (numAgch : Nat) : ∃ ch : Channel,
    (blockCategory d pdch numAgch).1 = ch.code ∨
      (blockCategory d pdch numAgch).1 = ch.code ||| acchFlag := by
  unfold blockCategory classify
  split
  · split
    · exact ⟨.ptcch, .inl rfl⟩
    · exact ⟨.pacch, .inl rfl⟩
  · refine ⟨(channelCategory d.chanNr d.fn.toNat numAgch).1, ?_⟩
    dsimp only
    split
    · exact .inr rfl
    · exact .inl rfl

/-- A sighting on the carrier with the given number. -/
structure Seen where
  arfcn : UInt16
  what : Sighting

namespace Seen

/-- The record of a sighting, whole. -/
def record (s : Seen) : Record :=
  ⟨recordArfcn s.arfcn s.what.uplink, s.what.tn, s.what.category.1, s.what.category.2, s.what.fn,
    s.what.payload⟩

/-- The sighting has something to record, and the list chooses the record. -/
def Due (names : List String) (s : Seen) : Prop := s.what.payload ≠ [] ∧ s.record.Chosen names

instance (names : List String) : DecidablePred (Due names) := fun s => by
  unfold Due
  infer_instance

/-- The record of a sighting that is due. -/
def due? (names : List String) (s : Seen) : Option Record :=
  if s.Due names then some s.record else none

/-- What a filter keeps of a sighting. -/
def kept (f : Filter) (s : Seen) : Option Record :=
  (s.what.record? s.arfcn).filter (f.passes ·.category)

theorem record?_eq (s : Seen) :
    s.what.record? s.arfcn = if s.what.payload = [] then none else some s.record := by
  obtain ⟨arfcn, what⟩ := s
  unfold Sighting.record? record
  cases what with
  | burst p => rfl
  | received d pdch numAgch =>
    have payload : (Sighting.received d pdch numAgch).payload =
        (packetPayload? true (pdch && isPtcch d.fn.toNat) d.frame.octets).getD [] := by
      unfold Sighting.payload packetPayload? ptcchAccess
      grind
    simp only [dataRecord?_eq, payload]
    split <;> simp_all [Sighting.uplink, Sighting.tn, Sighting.fn, Sighting.category]
  | sent d pdch numAgch =>
    have payload : (Sighting.sent d pdch numAgch).payload =
        (packetPayload? false (pdch && isPtcch d.fn.toNat) d.frame.octets).getD [] := rfl
    simp only [dataRecord?_eq, payload]
    split <;> simp_all [Sighting.uplink, Sighting.tn, Sighting.fn, Sighting.category]

/-- The category of a sighting is that of a channel, with the flag or without. -/
theorem category_eq (s : Seen) : ∃ ch : Channel,
    s.record.category = ch.code ∨ s.record.category = ch.code ||| acchFlag := by
  obtain ⟨arfcn, what⟩ := s
  cases what with
  | received d pdch numAgch => exact blockCategory_eq d pdch numAgch
  | sent d pdch numAgch => exact blockCategory_eq d pdch numAgch
  | burst p => exact ⟨.rach, .inl rfl⟩

/-- A filter that has selected a list keeps what is due by it. -/
theorem kept_eq (selects : f.Selects names) : kept f = due? names := by
  funext s
  obtain ⟨ch, category⟩ := s.category_eq
  have passes := selects.passes_iff category
  unfold kept due?
  rw [record?_eq]
  by_cases nothing : s.what.payload = []
  · rw [if_pos nothing, if_neg fun due => due.1 nothing]
    rfl
  · rw [if_neg nothing, Option.filter_some]
    by_cases chosen : s.record.Chosen names
    · rw [if_pos (passes.mpr chosen), if_pos ⟨nothing, chosen⟩]
    · rw [if_neg fun let_through => chosen (passes.mp let_through), if_neg fun due => chosen due.2]

/-- Whatever the filter, nothing is kept that has no octets. -/
theorem payload_of_kept {s : Seen} {r : Record} (h : s.kept f = some r) : r.payload ≠ [] := by
  unfold kept at h
  rw [record?_eq] at h
  split at h
  · cases h
  · rename_i something
    obtain ⟨made, -⟩ := Option.filter_eq_some_iff.mp h
    cases made
    exact something

end Seen
end Capture

namespace Bridge

open Capture (Filter Record Seen Selectable SameNames Sighting dataRecord?)

variable {σ φ α : Type} {site : Site σ φ} {sends : Bool} {numAgch : Nat} {b b' : Bts}
  {w w' w'' : World σ φ} {es fs : List Event} {trx : UInt8}

/-! ### What can be seen -/

/-- The sighting of something on a carrier, if the carrier exists, by the mode of its timeslot. -/
def seenOn? (b : Bts) (trx n : UInt8) (sighting : Bool → Sighting) : Option Seen :=
  (b.onAir? trx n).map fun a => ⟨a.1, sighting a.2⟩

/-- The block or the access burst that comes in, with the number of blocks for access grants. -/
def Input.seen? (numAgch : Nat) (b : Bts) : Input → Option Seen
  | .up trx (.phDataInd d) => seenOn? b trx d.chanNr fun pdch => .received d pdch numAgch
  | .up trx (.phRachInd p) => seenOn? b trx p.chanNr fun _ => .burst p
  | _ => none

/-- The block that is handed down. -/
def Event.seen? (numAgch : Nat) (b : Bts) : Event → Option Seen
  | .down trx (.phDataReq d) _ => seenOn? b trx d.chanNr fun pdch => .sent d pdch numAgch
  | _ => none

/-- What can be seen of an input in one order: what it brings, and what is handed down for it. -/
def seenIn (numAgch : Nat) (b : Bts) (i : Input) (es : List Event) : List Seen :=
  (i.seen? numAgch b).toList ++ es.filterMap (Event.seen? numAgch b)

theorem Event.seen?_congr (same : ∀ trx n, b.onAir? trx n = b'.onAir? trx n) :
    Event.seen? numAgch b = Event.seen? numAgch b' := by
  funext e
  unfold seen? seenOn?
  simp only [same]

/-! ### Captures -/

theorem records_capture (opened : w.tap = .received) (r : Record) :
    (w.capture r).records =
      w.records ++ (Option.filter (w.filter.passes ·.category) (some r)).toList := by
  unfold World.capture World.keeps
  rw [opened, beq_self_eq_true, Bool.true_and, Option.filter_some]
  split
  · rfl
  · exact (List.append_nil _).symm

theorem records_captureData (opened : w.tap = .received) {d : PhData} {uplink : Bool}
    (sighting : Bool → Sighting) (blocks : ∀ arfcn pdch, (sighting pdch).record? arfcn =
      dataRecord? d arfcn pdch site.settings.numAgch.toNat uplink) :
    (w.captureData site trx d uplink).records = w.records ++
      ((seenOn? w.bts trx d.chanNr sighting).bind (Seen.kept w.filter)).toList := by
  unfold World.captureData seenOn? Bts.onAir?
  cases w.bts.carrier? trx with
  | none => exact (List.append_nil _).symm
  | some c =>
    rw [Option.map_some, Option.map_some, Option.bind_some, Seen.kept, blocks]
    dsimp only
    cases dataRecord? d c.arfcn (c.slotOf d.chanNr).isPdch site.settings.numAgch.toNat uplink with
    | none => exact (List.append_nil _).symm
    | some r => exact records_capture opened r

theorem records_captureRach (opened : w.tap = .received) (p : PhRach) :
    (w.captureRach trx p).records = w.records ++
      ((seenOn? w.bts trx p.chanNr fun _ => .burst p).bind (Seen.kept w.filter)).toList := by
  unfold World.captureRach seenOn? Bts.onAir?
  cases w.bts.carrier? trx with
  | none => exact (List.append_nil _).symm
  | some c => exact records_capture opened _

/-! ### Steps -/

/-- From one state a step came to another with the given events, and recorded what the filter keeps
of the blocks handed down. It sent no blocks or left what is on the air as it was. -/
structure Recorded (site : Site σ φ) (sends : Bool) (w w' : World σ φ) (es : List Event) :
    Prop where
  trace : w'.trace = w.trace ++ es
  filter : w'.filter = w.filter
  tap : w'.tap = w.tap
  air : sends = true → ∀ trx n, w'.bts.onAir? trx n = w.bts.onAir? trx n
  silent : sends = false → ∀ b, es.filterMap (Event.seen? site.settings.numAgch.toNat b) = []
  records : w'.records = w.records ++
    (es.filterMap (Event.seen? site.settings.numAgch.toNat w.bts)).filterMap (Seen.kept w.filter)

theorem Recorded.append (first : Recorded site sends w w' es)
    (next : Recorded site sends w' w'' fs) : Recorded site sends w w'' (es ++ fs) where
  trace := by rw [next.trace, first.trace, List.append_assoc]
  filter := next.filter.trans first.filter
  tap := next.tap.trans first.tap
  air sent trx n := (next.air sent trx n).trans (first.air sent trx n)
  silent quiet b := by rw [List.filterMap_append, first.silent quiet, next.silent quiet]; rfl
  records := by
    have same : fs.filterMap (Event.seen? site.settings.numAgch.toNat w'.bts) =
        fs.filterMap (Event.seen? site.settings.numAgch.toNat w.bts) := by
      cases sends with
      | false => rw [next.silent rfl, next.silent rfl]
      | true => rw [Event.seen?_congr (first.air rfl)]
    rw [next.records, first.records, same, first.filter, List.filterMap_append,
      List.filterMap_append, List.append_assoc]

/-- A step without blocks that does not capture, and keeps what is on the air if it has to. -/
theorem Recorded.quiet (trace : w'.trace = w.trace ++ es) (filter : w'.filter = w.filter)
    (tap : w'.tap = w.tap) (records : w'.records = w.records)
    (air : sends = true → ∀ trx n, w'.bts.onAir? trx n = w.bts.onAir? trx n)
    (none : ∀ b, es.filterMap (Event.seen? site.settings.numAgch.toNat b) = []) :
    Recorded site sends w w' es where
  trace := trace
  filter := filter
  tap := tap
  air := air
  silent _ := none
  records := by rw [none, records]; exact (List.append_nil _).symm

theorem filterMap_singleton {f : Event → Option Seen} {g : Seen → Option Record} (e : Event) :
    ([e].filterMap f).filterMap g = ((f e).bind g).toList := by
  rw [List.filterMap_filterMap]
  cases made : (f e).bind g <;> simp [made]

theorem Event.seen?_of_order {p : Prim} (other : p.isData = false) (a : Except PhyError Unit) :
    Event.seen? numAgch b (.down trx p a) = none := by
  cases p with
  | phDataReq d => cases other
  | _ => rfl

/-- A tapped step records what the filter keeps of the blocks that it sends, and nothing else. -/
theorem Tapped.recorded {m : Step σ φ α} (h : Tapped site sends m) (opened : w.tap = .received) :
    ∃ es, Recorded site sends w (m w).2 es := by
  induction h generalizing w with
  | done a => exact ⟨[], .quiet (List.append_nil _).symm rfl rfl rfl (fun _ _ _ => rfl) fun _ => rfl⟩
  | @bind α β m k hm hk ihm ihk =>
    obtain ⟨es, first⟩ := ihm opened
    obtain ⟨fs, next⟩ := ihk (m w).1 (first.tap.trans opened)
    exact ⟨es ++ fs, first.append next⟩
  | look hk seen ih => exact ih w opened
  | write keeps =>
    exact ⟨[], .quiet (List.append_nil _).symm rfl rfl rfl (fun sent => keeps sent w.bts)
      fun _ => rfl⟩
  | ask c => exact ⟨_, .quiet rfl rfl rfl rfl (fun _ _ _ => rfl) fun _ => rfl⟩
  | transmit trx other =>
    refine ⟨_, .quiet rfl rfl rfl rfl (fun _ _ _ => rfl) fun b => ?_⟩
    rw [List.filterMap_cons_none (Event.seen?_of_order other _), List.filterMap_nil]
  | send allowed trx d =>
    obtain ⟨rs, captured⟩ := captureData_eq w site trx d false
    -- the one step that is recorded: the block is captured and then sent
    have records : (w.captureData site trx d false).records = w.records ++ _ :=
      records_captureData opened (fun pdch => .sent d pdch site.settings.numAgch.toNat)
        fun _ _ => rfl
    have reached : (Bridge.send site trx d w).2 =
      (Bridge.transmit site trx (.phDataReq d) (w.captureData site trx d false)).2 := rfl
    rw [captured] at records reached
    rw [reached]
    exact ⟨_, {
      trace := rfl
      filter := rfl
      tap := rfl
      air := fun _ _ _ => rfl
      silent := fun quiet => absurd (allowed.symm.trans quiet) (by decide)
      records := by rw [filterMap_singleton]; exact records }⟩
  | disconnect trx tn => exact ⟨_, .quiet rfl rfl rfl rfl (fun _ _ _ => rfl) fun _ => rfl⟩

/-- From one state to the other a tap received what was kept of the sightings, in their order, and
nothing else; filter and tap stayed. -/
structure Received (keep : Seen → Option Record) (seen : List Seen) (w w' : World σ φ) : Prop where
  filter : w'.filter = w.filter
  tap : w'.tap = w.tap
  records : w'.records = w.records ++ seen.filterMap keep

/-- A tapped step after the capture of what came in, if anything did. -/
theorem Tapped.received {m : Act σ φ Unit} (h : Tapped site sends m) (opened : w.tap = .received)
    {came : Option Seen} (captured : ∃ rs, w' = { w with records := rs })
    (records : w'.records = w.records ++ (came.bind (Seen.kept w.filter)).toList) :
    ∃ es, (m w').2.trace = w.trace ++ es ∧ Received (Seen.kept w.filter)
      (came.toList ++ es.filterMap (Event.seen? site.settings.numAgch.toNat w.bts)) w (m w').2 := by
  obtain ⟨rs, rfl⟩ := captured
  have still : World.tap { w with records := rs } = .received := opened
  obtain ⟨es, rest⟩ := h.recorded still
  refine ⟨es, rest.trace, rest.filter, rest.tap, rest.records.trans ?_⟩
  have first : came.toList.filterMap (Seen.kept w.filter) =
      (came.bind (Seen.kept w.filter)).toList := by
    cases came with
    | none => rfl
    | some s => cases kept : s.kept w.filter <;> simp [kept]
  rw [List.filterMap_append, ← List.append_assoc, first, ← records]

theorem Input.seen?_of_unheard {i : Input} (unheard : i.isHeard = false) :
    i.seen? numAgch b = none := by
  unfold seen?
  split
  · cases unheard
  · cases unheard
  · rfl

/-- While the tap is open a step records what the filter keeps of what can be seen. -/
theorem step_received (site : Site σ φ) (i : Input) (opened : w.tap = .received) :
    ∃ es, (step site i w).2.trace = w.trace ++ es ∧ Received (Seen.kept w.filter)
      (seenIn site.settings.numAgch.toNat w.bts i es) w (step site i w).2 := by
  unfold seenIn
  cases heard : i.isHeard with
  | false =>
    rw [Input.seen?_of_unheard heard]
    obtain ⟨sends, tapped⟩ := perform_tapped site i heard
    exact tapped.received opened ⟨w.records, rfl⟩ (List.append_nil _).symm
  | true =>
    obtain ⟨trx, d, rfl⟩ | ⟨trx, p, rfl⟩ := Input.isHeard_iff.mp heard
    · have rest : Tapped site false (dataInd site trx d) := dataInd_tapped d
      exact rest.received opened (captureData_eq w site trx d true)
        (records_captureData opened (.received d · site.settings.numAgch.toNat) fun _ _ => rfl)
    · have rest : Tapped site false (rachInd site trx p) := rachInd_tapped p
      exact rest.received opened (captureRach_eq w trx p) (records_captureRach opened p)

/-! ### Runs -/

/-- What can be seen in a turn. -/
def Turn.seen (numAgch : Nat) (t : Turn) : List Seen :=
  match t.move with
  | .input i _ => seenIn numAgch t.before i t.events
  | .write .. => []

theorem takeTurn_received (site : Site σ φ) (m : Move) (opened : w.tap = .received) :
    Received (Seen.kept w.filter) ((turnOf site w m).seen site.settings.numAgch.toNat) w
      (takeTurn site m w).2 := by
  cases m with
  | input i outside =>
    obtain ⟨es, trace, received⟩ := step_received site i opened
    have events : (turnOf site w (.input i outside)).events = es := by
      simp [turnOf, takeTurn, trace]
    unfold Turn.seen
    rw [events]
    exact received
  | write id x => exact ⟨rfl, rfl, (List.append_nil _).symm⟩

/-- The records of a run are those of its turns. -/
theorem run_received (site : Site σ φ) (ms : List Move) (opened : w.tap = .received) :
    Received (Seen.kept w.filter)
      ((history site w ms).flatMap (Turn.seen site.settings.numAgch.toNat)) w (run site w ms) := by
  induction ms generalizing w with
  | nil => exact ⟨rfl, rfl, (List.append_nil _).symm⟩
  | cons m ms ih =>
    have first := takeTurn_received site m opened
    have rest := ih (first.tap.trans opened)
    rw [first.filter] at rest
    refine ⟨rest.filter.trans first.filter, rest.tap.trans first.tap, ?_⟩
    rw [history, List.flatMap_cons, List.filterMap_append, ← List.append_assoc, ← first.records]
    exact rest.records

/-- However capture is set, nothing without octets is recorded. -/
theorem payload_step (i : Input) :
    ∀ r ∈ (step site i w).2.records, r ∈ w.records ∨ r.payload ≠ [] := by
  intro r there
  by_cases opened : w.tap = .received
  · obtain ⟨es, -, received⟩ := step_received site i opened
    rw [received.records, List.mem_append] at there
    refine there.imp_right fun new => ?_
    obtain ⟨s, -, kept⟩ := List.mem_filterMap.mp new
    exact Seen.payload_of_kept kept
  · have composed : Composed site (perform site i) := perform_composed i
    exact .inl ((composed.unrecorded opened).1 ▸ there)

end Bridge

/-! ### Loading -/

/-- The configuration with another list of names for capture. -/
def Config.withNames (c : Config) (names : List String) : Config :=
  { c with capture := { c.capture with names := names } }

namespace ConfigFile

open Bridge Capture

namespace Document

variable {d : Document} {s : CaptureSection} {names names' : List String} {c : Config}
  {f f' : Filter}

/-- The document with a capture section that has the given list. -/
def capturing (d : Document) (s : CaptureSection) (names : List String) : Document :=
  { d with capture := some { s with names := some names } }

/-- A list of a document that is loaded may be replaced by any list of known names. -/
theorem loads_capturing (loaded : (d.capturing s names).toConfig = .ok (c, f))
    (known : ∀ n ∈ names', Selectable n) (selects : f'.Selects names') :
    (d.capturing s names').toConfig = .ok (c.withNames names', f') := by
  obtain ⟨complete, described, valid⟩ := described_of_toConfig loaded
  -- a list changes what is said of the names, and nothing else
  have complete' : (d.capturing s names').Complete := {
    version := complete.version
    top := complete.top
    phyLink := complete.phyLink
    cell := complete.cell
    carriers := complete.carriers
    capture := by
      rintro _ ⟨⟩
      exact complete.capture { s with names := some names } rfl
    slots := complete.slots
    t200 := complete.t200
    names := by
      rintro _ ⟨⟩ _ ⟨⟩
      exact known }
  have described' : (d.capturing s names').Describes (c.withNames names') f' := {
    debugLog := described.debugLog
    backend := described.backend
    cell := described.cell
    carriers := described.carriers
    capture := {
      enabled := described.capture.enabled
      host := described.capture.host
      port := described.capture.port
      names := rfl
      filter := selects } }
  have valid' : (c.withNames names').validate = .ok () := valid
  rw [toConfig_of_describes complete' described', valid']

/-- The filter of a document that is loaded has selected its list. -/
theorem selects_of_loaded (loaded : (d.capturing s names).toConfig = .ok (c, f)) :
    (∀ n ∈ names, Selectable n) ∧ f.Selects names := by
  obtain ⟨complete, described, -⟩ := described_of_toConfig loaded
  have listed : c.capture.names = names := described.capture.names
  exact ⟨complete.names _ rfl names rfl, listed ▸ described.capture.filter⟩

variable {σ φ : Type}

/-- The loader takes a list for capture if and only if each of its names is known, and lists with
the same names come to the same filter. Under that filter, in every state with an open tap, what an
input makes the tap receive are the records due by the list: of the block or the burst that came in
and of each block that was handed down, on carriers that there are, one if it has something to
record and the list chooses it, and none otherwise. So it goes on over every run, and whatever the
filter is, no record without octets is received. -/
theorem capture_list_obeyed (d : Document) (s : CaptureSection) (names : List String)
    (site : Site σ φ) :
    ((∃ r, (d.capturing s names).toConfig = .ok r) ↔
      (∃ r, (d.capturing s []).toConfig = .ok r) ∧ ∀ n ∈ names, Selectable n) ∧
    (∀ c f, (d.capturing s names).toConfig = .ok (c, f) →
      (∀ names', SameNames names names' →
        (d.capturing s names').toConfig = .ok (c.withNames names', f)) ∧
      ∀ w : World σ φ, w.filter = f → w.tap = .received →
        (∀ i, ∃ es, (step site i w).2.trace = w.trace ++ es ∧
          Received (Seen.due? names) (seenIn site.settings.numAgch.toNat w.bts i es) w
            (step site i w).2) ∧
        ∀ ms, Received (Seen.due? names)
          ((history site w ms).flatMap (Turn.seen site.settings.numAgch.toNat)) w
          (Bridge.run site w ms)) ∧
    ∀ (w : World σ φ) (i : Input), ∀ r ∈ (step site i w).2.records,
      r ∈ w.records ∨ r.payload ≠ [] := by
  refine ⟨⟨?_, ?_⟩, fun c f loaded => ⟨?_, ?_⟩, fun w i => payload_step i⟩
  · rintro ⟨⟨c, f⟩, loaded⟩
    exact ⟨⟨_, loads_capturing loaded nofun Filter.empty_selects⟩, (selects_of_loaded loaded).1⟩
  · rintro ⟨⟨⟨c, f⟩, loaded⟩, known⟩
    obtain ⟨f', selects⟩ := Filter.exists_selects known
    exact ⟨_, loads_capturing loaded known selects⟩
  · intro names' same
    obtain ⟨known, selects⟩ := selects_of_loaded loaded
    exact loads_capturing loaded (same.selectable known) (selects.congr same)
  · rintro w rfl opened
    rw [← Seen.kept_eq (selects_of_loaded loaded).2]
    exact ⟨fun i => step_received site i opened, fun ms => run_received site ms opened⟩

/-- A capture section that leaves out what has a default. -/
def bareCapture : CaptureSection := ⟨true, none, none, none, []⟩

/-- A state whose tap is open under a filter. -/
def listening (f : Filter) : World ScriptedServices ScriptedPhy :=
  { scriptedWorld .fresh with filter := f, tap := .received }

/-- Two access bursts, one of them on a carrier that there is not, and opportunities of the broadcast
channel and of an associated control channel, whose main channel is not active. -/
def sightedMoves : List Move := [
  .up 0 (.phRachInd ⟨0x88, 0x71, 5, 4, false, .ts0, -60⟩),
  .up 1 (.phRachInd ⟨0x88, 0x71, 5, 4, false, .ts0, -60⟩),
  .up 0 (.phRtsInd ⟨0x80, 0, 2⟩),
  .up 0 (.phRtsInd ⟨0x09, 0x40, 12⟩)]

/-- With access bursts and associated control channels chosen, the burst on the carrier of the cell
is received. The broadcast block is not chosen, and the other one has no octets. -/
theorem burst_received_by_name : ∃ c f,
    (sparse.capturing bareCapture ["sacch", "Rach", "RACH"]).toConfig = .ok (c, f) ∧
      (Bridge.run scriptedSite (listening f) sightedMoves).records.map Record.category = [3] := by
  obtain ⟨-, obeyed, -⟩ :=
    capture_list_obeyed sparse bareCapture ["sacch", "Rach", "RACH"] scriptedSite
  have filter : (sparse.capturing bareCapture ["sacch", "Rach", "RACH"]).toConfig.toOption.map
      (·.2) = some ⟨Gsmtap.maskBit 3, true⟩ := by decide +kernel
  cases loaded : (sparse.capturing bareCapture ["sacch", "Rach", "RACH"]).toConfig with
  | error e => simp [loaded, Except.toOption] at filter
  | ok r =>
    obtain ⟨c, f⟩ := r
    rw [loaded] at filter
    obtain rfl : f = ⟨Gsmtap.maskBit 3, true⟩ := Option.some.inj filter
    obtain ⟨-, received⟩ := obeyed c _ loaded
    refine ⟨c, _, rfl, ?_⟩
    rw [((received (listening _) rfl rfl).2 sightedMoves).records]
    decide +kernel

end Document
end ConfigFile
end BaseStation
