import BaseStation.Config.Basic

/-!
What a valid configuration has, rule by rule: the common control channel is on the first timeslot of
the primary carrier and on no timeslot of another one.
-/

namespace BaseStation

section Checks

variable {ε α β : Type}

/-- A sequence of two checks succeeds where both do. -/
theorem bind_eq_ok {x : Except ε α} {f : α → Except ε β} {b : β} :
    x >>= f = .ok b ↔ ∃ a, x = .ok a ∧ f a = .ok b := by
  cases x with
  | error e => exact ⟨nofun, nofun⟩
  | ok a =>
    constructor
    · intro h
      exact ⟨a, rfl, h⟩
    · rintro ⟨_, same, h⟩
      cases same
      exact h

end Checks

theorem require_eq_ok {ok : Bool} {e : ConfigError} : require ok e = .ok () ↔ ok = true := by
  cases ok with
  | false => exact ⟨nofun, nofun⟩
  | true => exact ⟨fun _ => rfl, fun _ => rfl⟩

/-- The rules on the carriers. -/
structure CarriersValid (conf : CcchConf) (primary : CarrierConfig)
    (others : List CarrierConfig) : Prop where
  control : primary.slots[0].hasCcch = true
  layout : primary.slots[0] = .ccchSdcch4 ↔ conf = .oneCombined
  secondary : ∀ k ∈ others, ∀ p ∈ k.slots, p.hasCcch = false

theorem carriersValid_of_ok {conf : CcchConf} {ks : List CarrierConfig}
    (ok : validateCarriers conf ks = .ok ()) :
    ∃ primary others, ks = primary :: others ∧ CarriersValid conf primary others := by
  cases ks with
  | nil => cases ok
  | cons k ks =>
    obtain ⟨_, control, ok⟩ := bind_eq_ok.mp ok
    obtain ⟨_, layout, ok⟩ := bind_eq_ok.mp ok
    have announced : (k.slots[0] == .ccchSdcch4) = (conf == .oneCombined) :=
      beq_iff_eq.mp (require_eq_ok.mp layout)
    refine ⟨k, ks, rfl, require_eq_ok.mp control, ?_, fun k' other p slot => ?_⟩
    · rw [← beq_iff_eq, announced, beq_iff_eq]
    · have clear := List.all_eq_true.mp (require_eq_ok.mp ok) k' other
      simpa using List.all_eq_true.mp clear p (Vector.mem_toList_iff.mpr slot)

namespace Config

variable {c : Config}

theorem validateCarriers_of_valid (valid : c.validate = .ok ()) :
    validateCarriers c.cell.ccchConf c.carriers = .ok () := by
  obtain ⟨-, -, valid⟩ := bind_eq_ok.mp valid
  obtain ⟨-, -, valid⟩ := bind_eq_ok.mp valid
  exact valid

/-- The largest access delay that is taken has room for a timing offset. -/
theorem maxTa_le (valid : c.validate = .ok ()) : c.cell.maxTa ≤ maxTimingAdvance := by
  obtain ⟨-, -, valid⟩ := bind_eq_ok.mp valid
  obtain ⟨_, cell, -⟩ := bind_eq_ok.mp valid
  obtain ⟨-, -, cell⟩ := bind_eq_ok.mp cell
  obtain ⟨_, maxTa, -⟩ := bind_eq_ok.mp cell
  exact of_decide_eq_true (require_eq_ok.mp maxTa)

/-- What a timeslot is configured to carry. -/
def pchan? (c : Config) (trx tn : UInt8) : Option Pchan :=
  (c.carriers[trx.toNat]?).bind fun k => k.slots[tn.toNat]?

/-- The first timeslot of the primary carrier has the common control channel. -/
theorem primary_hasCcch (valid : c.validate = .ok ()) :
    ∃ p, c.pchan? 0 0 = some p ∧ p.hasCcch = true := by
  obtain ⟨k, ks, carriers, rules⟩ := carriersValid_of_ok (validateCarriers_of_valid valid)
  refine ⟨k.slots[0], ?_, rules.control⟩
  unfold pchan?
  rw [carriers]
  rfl

/-- The timeslots of the other carriers have none. -/
theorem secondary_hasCcch {trx tn : UInt8} {p : Pchan} (valid : c.validate = .ok ())
    (secondary : trx ≠ 0) (slot : c.pchan? trx tn = some p) : p.hasCcch = false := by
  obtain ⟨k, ks, carriers, rules⟩ := carriersValid_of_ok (validateCarriers_of_valid valid)
  obtain ⟨k', carrier, slot⟩ := Option.bind_eq_some_iff.mp slot
  have other : trx.toNat = trx.toNat - 1 + 1 := by
    have : trx.toNat ≠ 0 := fun zero => secondary (UInt8.toNat_inj.mp zero)
    omega
  rw [carriers, other, List.getElem?_cons_succ] at carrier
  exact rules.secondary k' (List.mem_of_getElem? carrier) p (Vector.mem_of_getElem? slot)

end Config
end BaseStation
