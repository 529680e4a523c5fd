import BaseStation.Config.Basic
import BaseStation.Time
import BaseStation.Timeslot

/-!
The base station as data: carriers with their timeslots and logical channels, the time and the
load of the random access channel. Channels are looked up and changed by their address.
-/

namespace BaseStation

/-- The load of the random access channel in slots: all that passed, those with energy, those with
a decoded access burst. -/
structure RachLoad where
  total : Nat
  busy : Nat
  access : Nat
deriving DecidableEq

structure Carrier where
  nr : UInt8
  arfcn : UInt16
  slots : Vector Timeslot numSlots
deriving DecidableEq

namespace Carrier

def fresh (nr : UInt8) (c : CarrierConfig) : Carrier where
  nr := nr
  arfcn := c.arfcn
  slots := Vector.ofFn fun tn => .fresh nr tn.val.toUInt8 c.slots[tn]

/-- The timeslot that a channel number names. -/
def slotOf (c : Carrier) (chanNr : UInt8) : Timeslot :=
  have := chanTn_lt chanNr
  c.slots[(chanTn chanNr).toNat]

def modifySlot (c : Carrier) (tn : Nat) (f : Timeslot → Timeslot) : Carrier :=
  if h : tn < numSlots then { c with slots := c.slots.set tn (f c.slots[tn]) } else c

theorem slots_modifySlot (c : Carrier) (tn m : Nat) (f : Timeslot → Timeslot) :
    (c.modifySlot tn f).slots[m]? = if tn = m then c.slots[m]?.map f else c.slots[m]? := by
  unfold modifySlot
  split
  · rename_i h
    rw [Vector.getElem?_set]
    split
    · rename_i same
      rw [← same, Vector.getElem?_eq_getElem h, Option.map_some]
    · rfl
  · rename_i h
    split
    · rename_i same
      rw [← same, Vector.getElem?_eq_none (Nat.le_of_not_lt h), Option.map_none]
    · rfl

end Carrier

structure Bts where
  bsic : UInt8
  time : GsmTime
  rach : RachLoad
  /-- The carriers, the primary one first. -/
  carriers : List Carrier
deriving DecidableEq

namespace Bts

/-- The base station of a configuration, unused and at frame 0. -/
def ofConfig (c : Config) : Bts where
  bsic := c.cell.bsic
  time := .ofFrame 0
  rach := ⟨0, 0, 0⟩
  carriers := c.carriers.mapIdx fun nr cc => .fresh nr.toUInt8 cc

def carrier? (b : Bts) (trx : UInt8) : Option Carrier := b.carriers[trx.toNat]?

/-! ### Look-up -/

def slot? (b : Bts) (trx tn : UInt8) : Option Timeslot :=
  (b.carrier? trx).bind fun c => c.slots[tn.toNat]?

def lchan? (b : Bts) (id : LchanId) : Option Lchan :=
  (b.slot? id.trx id.tn).bind fun t => t.lchans[id.ss.toNat]?

/-- The address of the channel that a channel number names on a carrier, if it exists. -/
def locate? (b : Bts) (trx chanNr : UInt8) : Option LchanId :=
  match ChanAddr.decode chanNr with
  | .ok a =>
    let id : LchanId := ⟨trx, a.tn, a.lchanIndex.toUInt8⟩
    if (b.lchan? id).isSome then some id else none
  | .error _ => none

/-- The channel that a channel number names on a carrier, with its address. -/
def find? (b : Bts) (trx chanNr : UInt8) : Option (LchanId × Lchan) :=
  (b.locate? trx chanNr).bind fun id => (b.lchan? id).map fun l => (id, l)

/-- The channel that a channel number names on a carrier, if it is active. -/
def findActive? (b : Bts) (trx chanNr : UInt8) : Option (LchanId × Lchan) :=
  (b.find? trx chanNr).filter fun p => p.2.isActive

/-- The timeslots of a carrier that carry packet data now. -/
def pdchMap (b : Bts) (trx : UInt8) : List Bool :=
  match b.carrier? trx with
  | some c => c.slots.toList.map Timeslot.isPdch
  | none => List.replicate numSlots false

/-! ### Change -/

def modifySlot (b : Bts) (trx tn : UInt8) (f : Timeslot → Timeslot) : Bts :=
  { b with carriers := b.carriers.modify trx.toNat (·.modifySlot tn.toNat f) }

def modifyLchan (b : Bts) (id : LchanId) (f : Lchan → Lchan) : Bts :=
  b.modifySlot id.trx id.tn fun t => { t with lchans := t.lchans.modify id.ss.toNat f }

def setLchan (b : Bts) (id : LchanId) (l : Lchan) : Bts := b.modifyLchan id fun _ => l

/-- A change of a timeslot concerns its carrier only. -/
theorem carrier?_modifySlot (b : Bts) (trx tn u : UInt8) (f : Timeslot → Timeslot) :
    (b.modifySlot trx tn f).carrier? u =
      if trx = u then (b.carrier? u).map (·.modifySlot tn.toNat f) else b.carrier? u := by
  simp only [carrier?, modifySlot, List.getElem?_modify, UInt8.toNat_inj]
  split <;> simp

/-- A change of a timeslot concerns that timeslot only. -/
theorem slot?_modifySlot (b : Bts) (trx tn u m : UInt8) (f : Timeslot → Timeslot) :
    (b.modifySlot trx tn f).slot? u m =
      if trx = u ∧ tn = m then (b.slot? u m).map f else b.slot? u m := by
  simp only [slot?, carrier?_modifySlot]
  by_cases hu : trx = u
  · cases b.carrier? u with
    | none => simp
    | some c => by_cases hm : tn = m <;> simp [hu, hm, Carrier.slots_modifySlot, UInt8.toNat_inj]
  · simp [hu]

/-- A change of a logical channel concerns that channel only. -/
theorem lchan?_modifyLchan (b : Bts) (id j : LchanId) (f : Lchan → Lchan) :
    (b.modifyLchan id f).lchan? j = if id = j then (b.lchan? j).map f else b.lchan? j := by
  obtain ⟨trx, tn, ss⟩ := id
  obtain ⟨u, m, s⟩ := j
  simp only [lchan?, modifyLchan, slot?_modifySlot, LchanId.mk.injEq]
  by_cases h : trx = u ∧ tn = m
  · cases b.slot? u m with
    | none => simp
    | some t => by_cases hs : ss = s <;> simp [h, hs, UInt8.toNat_inj]
  · have other : ¬ (trx = u ∧ tn = m ∧ ss = s) := fun same => h ⟨same.1, same.2.1⟩
    rw [if_neg h, if_neg other]

end Bts
end BaseStation
