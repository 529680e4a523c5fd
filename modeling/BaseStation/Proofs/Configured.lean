import BaseStation.Proofs.Isolation
import BaseStation.Proofs.Validity

/-!
What a configuration makes of a base station for good: the timeslots it gives it are there in every
run, with what they are configured to carry.
-/

namespace BaseStation

namespace Bts

variable {b : Bts} {c : Config} {trx tn : UInt8} {id : LchanId}

/-- The timeslots of a base station that was just set up are those of its configuration. -/
theorem slot?_ofConfig_eq :
    (Bts.ofConfig c).slot? trx tn = (c.pchan? trx tn).map (.fresh trx tn) := by
  unfold slot? carrier? ofConfig Config.pchan?
  rw [List.getElem?_mapIdx]
  cases c.carriers[trx.toNat]? with
  | none => rfl
  | some k =>
    rw [Option.map_some, Option.bind_some, Option.bind_some]
    by_cases range : tn.toNat < numSlots
    · simp [Carrier.fresh, range]
    · simp [Carrier.fresh, range]

/-- The plan has the configurations of all timeslots. -/
theorem pchan_slot? : (b.slot? trx tn).map (·.pchan) =
    (b.plan[trx.toNat]?).bind fun k => (k.2.2[tn.toNat]?).map (·.2.1) := by
  simp only [slot?, carrier?, plan, List.getElem?_map]
  cases b.carriers[trx.toNat]? with
  | none => rfl
  | some k =>
    simp only [Option.bind_some, Option.map_some, Carrier.plan, Vector.getElem?_map]
    cases k.slots[tn.toNat]? <;> rfl

/-- A base station that was set up with a configuration has its timeslots. -/
theorem pchan_of_plan (plan : b.plan = (Bts.ofConfig c).plan) :
    (b.slot? trx tn).map (·.pchan) = c.pchan? trx tn := by
  rw [pchan_slot?, plan, ← pchan_slot?, slot?_ofConfig_eq]
  cases c.pchan? trx tn <;> rfl

theorem pchan?_of_slot? {t : Timeslot} (plan : b.plan = (Bts.ofConfig c).plan)
    (slot : b.slot? trx tn = some t) : c.pchan? trx tn = some t.pchan := by
  rw [← pchan_of_plan plan, slot, Option.map_some]

/-- Base stations of one plan have the same channels. -/
theorem isSome_lchan?_of_plan {b' : Bts} (plan : b'.plan = b.plan) :
    (b'.lchan? id).isSome = (b.lchan? id).isSome := by
  have same : (b'.lchan? id).map Lchan.id = (b.lchan? id).map Lchan.id := by
    rw [id_lchan?, id_lchan?, plan]
  simpa using congrArg Option.isSome same

end Bts

namespace Bridge

variable {σ φ : Type} {site : Site σ φ} {w : World σ φ} {c : Config} {ms : List Move} {t : Turn}

/-- What every turn keeps holds before every turn. -/
theorem before_of_mem_history {P : Bts → Prop}
    (keep : ∀ t : Turn, t.Lawful site → P t.before → P t.after) (start : P w.bts)
    (ht : t ∈ history site w ms) : P t.before := by
  induction ms generalizing w with
  | nil => cases ht
  | cons m ms ih =>
    rcases List.mem_cons.mp ht with rfl | ht
    · exact start
    · exact ih (keep _ (lawful_turnOf site w m) start) ht

/-- A base station has its timeslots before every turn of a run. -/
theorem plan_before {filter : Capture.Filter} {services : σ} {phy : φ}
    (ht : t ∈ history site (.fresh c filter services phy) ms) :
    t.before.plan = (Bts.ofConfig c).plan :=
  before_of_mem_history (P := fun b => b.plan = (Bts.ofConfig c).plan)
    (fun _ lawful same => lawful.plan.trans same) rfl ht

end Bridge
end BaseStation
