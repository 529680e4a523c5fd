import Mathlib.Algebra.GroupWithZero.Nat
import BaseStation.Phy.Scripted
import BaseStation.Proofs.Bridge.Step
import BaseStation.Services.Scripted

/-!
Runs: the moves of the radio and of the parties above, one after the other, and the history that
they leave.
-/

namespace BaseStation.Bridge

/-! ### Moves -/

/-- What the parties above write into the record of a channel. -/
inductive Write where
  | mode (m : ChannelMode)
  | rqdTa (ta : UInt8)
  | hasRtp (on : Bool)
  | txMarker (on : Bool)
  | loopback (on : Bool)
  | pendingRelInd (msg : Option (List UInt8))
  | setFill (t : SysinfoType) (data : List UInt8)
  | clearFill (t : SysinfoType)
deriving DecidableEq

def Write.apply : Write → Lchan → Lchan
  | mode m, l => { l with mode := m }
  | rqdTa ta, l => { l with rqdTa := ta }
  | hasRtp on, l => { l with hasRtp := on }
  | txMarker on, l => { l with txMarker := on }
  | loopback on, l => { l with loopback := on }
  | pendingRelInd msg, l => { l with pendingRelInd := msg }
  | setFill t data, l => { l with fill := l.fill.set t data }
  | clearFill t, l => { l with fill := l.fill.clear t }

/-- The input hands a primitive down, which only the access point itself does in a run. -/
def Input.isDown : Input → Bool
  | .down .. => true
  | _ => false

/-- A primitive from the radio, a call of one of the parties above, or what they write. -/
inductive Move where
  | input (i : Input) (outside : i.isDown = false)
  | write (id : LchanId) (x : Write)

namespace Move

abbrev up (trx : UInt8) (p : Prim) : Move := .input (.up trx p) rfl

abbrev chanAct (trx n : UInt8) (tsc : Option UInt8) : Move := .input (.chanAct trx n tsc) rfl

abbrev chanRel (trx n : UInt8) : Move := .input (.chanRel trx n) rfl

abbrev chanDeactSacch (trx n : UInt8) : Move := .input (.chanDeactSacch trx n) rfl

abbrev pdchSwitch (trx tn : UInt8) (toPdch : Bool) : Move :=
  .input (.pdchSwitch trx tn toPdch) rfl

abbrev voiceRx (id : LchanId) (f : VoiceFrame) : Move := .input (.voiceRx id f) rfl

end Move

/-! ### Histories -/

/-- A move with the data before and after it, its result and its events. -/
structure Turn where
  before : Bts
  move : Move
  result : Except Failure Unit
  events : List Event
  after : Bts

variable {σ φ : Type} {site : Site σ φ} {w : World σ φ}

/-- The result and the state after a move. -/
def takeTurn (site : Site σ φ) (m : Move) (w : World σ φ) : Except Failure Unit × World σ φ :=
  match m with
  | .input i _ => step site i w
  | .write id x => (.ok (), w.modifyLchan id x.apply)

def run (site : Site σ φ) (w : World σ φ) (ms : List Move) : World σ φ :=
  ms.foldl (fun w m => (takeTurn site m w).2) w

def turnOf (site : Site σ φ) (w : World σ φ) (m : Move) : Turn where
  before := w.bts
  move := m
  result := (takeTurn site m w).1
  events := (takeTurn site m w).2.trace.drop w.trace.length
  after := (takeTurn site m w).2.bts

def history (site : Site σ φ) (w : World σ φ) : List Move → List Turn
  | [] => []
  | m :: ms => turnOf site w m :: history site (takeTurn site m w).2 ms

theorem run_append (ms ns : List Move) :
    run site w (ms ++ ns) = run site (run site w ms) ns := List.foldl_append

theorem history_append (ms ns : List Move) :
    history site w (ms ++ ns) = history site w ms ++ history site (run site w ms) ns := by
  induction ms generalizing w with
  | nil => rfl
  | cons m ms ih => exact congrArg _ ih

/-- A turn comes to one of the outcomes of its move. -/
def Turn.Lawful (site : Site σ φ) (t : Turn) : Prop :=
  match t.move with
  | .input i _ => StepOutcome site t.before i t.result t.after t.events
  | .write id x =>
    t.result = .ok () ∧ t.after = t.before.modifyLchan id x.apply ∧ t.events = []

theorem lawful_turnOf (site : Site σ φ) (w : World σ φ) (m : Move) :
    (turnOf site w m).Lawful site := by
  cases m with
  | input i outside =>
    obtain ⟨es, ht, h⟩ := step_outcome site i w
    have events : (turnOf site w (.input i outside)).events = es := by
      simp [turnOf, takeTurn, ht]
    unfold Turn.Lawful
    rw [events]
    exact h
  | write id x => exact ⟨rfl, rfl, List.drop_length⟩

/-- The events of a turn are what it adds to the trace. -/
theorem trace_takeTurn (site : Site σ φ) (w : World σ φ) (m : Move) :
    (takeTurn site m w).2.trace = w.trace ++ (turnOf site w m).events := by
  cases m with
  | input i outside =>
    obtain ⟨es, ht, -⟩ := step_outcome site i w
    simp [turnOf, takeTurn, ht]
  | write id x => simp [turnOf, takeTurn, World.modifyLchan, World.modifyBts]

/-- The events of a history are what it adds to the trace. -/
theorem trace_run (ms : List Move) :
    (run site w ms).trace = w.trace ++ (history site w ms).flatMap Turn.events := by
  induction ms generalizing w with
  | nil => exact (List.append_nil _).symm
  | cons m ms ih =>
    rw [history, List.flatMap_cons, ← List.append_assoc, ← trace_takeTurn]
    exact ih

theorem lawful_of_mem_history {ms : List Move} {t : Turn} (h : t ∈ history site w ms) :
    t.Lawful site := by
  induction ms generalizing w with
  | nil => cases h
  | cons m ms ih =>
    rcases List.mem_cons.mp h with rfl | h
    · exact lawful_turnOf site w m
    · exact ih h

/-- What every turn keeps holds after every run. -/
theorem invariant_run {P : Bts → Prop} (keep : ∀ t : Turn, t.Lawful site → P t.before → P t.after)
    (ms : List Move) (h : P w.bts) : P (run site w ms).bts := by
  induction ms generalizing w with
  | nil => exact h
  | cons m ms ih => exact ih (keep _ (lawful_turnOf site w m) h)

/-- What each turn adds to a quantity is added up in a run. -/
theorem sum_run {q : Bts → Nat} {g : Turn → Nat}
    (each : ∀ t : Turn, t.Lawful site → q t.after = q t.before + g t) (ms : List Move) :
    q (run site w ms).bts = q w.bts + ((history site w ms).map g).sum := by
  induction ms generalizing w with
  | nil => rfl
  | cons m ms ih =>
    have first := each _ (lawful_turnOf site w m)
    rw [history, List.map_cons, List.sum_cons, ← Nat.add_assoc]
    exact ih.trans (congrArg (· + _) first)

theorem moves_history (ms : List Move) : (history site w ms).map Turn.move = ms := by
  induction ms generalizing w with
  | nil => rfl
  | cons m ms ih => exact congrArg (m :: ·) ih

/-! ### A base station to run -/

/-- A cell of one carrier, with its control channels combined on the first timeslot and traffic
channels on the others. -/
def scriptedConfig : Config :=
  { Config.default with
    cell := { CellConfig.default with ccchConf := .oneCombined }
    backend := .none }

example : scriptedConfig.validate = .ok () := rfl

/-- Parties and a radio that answer as they are told to, on the settings of the cell. -/
def scriptedSite : Site ScriptedServices ScriptedPhy :=
  ⟨.ofConfig scriptedConfig, ScriptedServices.services, ScriptedPhy.link⟩

/-- The base station of the cell, just set up. -/
def scriptedWorld (parties : ScriptedServices) : World ScriptedServices ScriptedPhy :=
  .fresh scriptedConfig .empty parties .accepting

end BaseStation.Bridge
