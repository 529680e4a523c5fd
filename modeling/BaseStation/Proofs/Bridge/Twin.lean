import BaseStation.Proofs.Bridge.SideBySide
import BaseStation.Proofs.Bridge.Slot

/-!
Steps side by side: the access point on two base stations that look the same from one timeslot, with
parties and a radio that answer alike. The rules for steps that are put together are those of steps
side by side in general.
-/

namespace BaseStation

/-! ### What the sides have in common -/

/-- From the two states the parties answer all calls in the same way, one after the other. -/
def Services.Alike {σ : Type} (v : Services σ) (s s' : σ) : Prop :=
  ∃ R : σ → σ → Prop, R s s' ∧ ∀ c x x', R x x' →
    (v.answer c x).1 = (v.answer c x').1 ∧ R (v.answer c x).2 (v.answer c x').2

theorem Services.Alike.refl {σ : Type} (v : Services σ) (s : σ) : v.Alike s s :=
  ⟨Eq, rfl, by rintro c x _ rfl; exact ⟨rfl, rfl⟩⟩

theorem Services.Alike.answer {σ : Type} {v : Services σ} {s s' : σ} (h : v.Alike s s') (c : Call) :
    (v.answer c s).1 = (v.answer c s').1 ∧ v.Alike (v.answer c s).2 (v.answer c s').2 := by
  obtain ⟨R, here, keep⟩ := h
  obtain ⟨same, next⟩ := keep c s s' here
  exact ⟨same, R, next, keep⟩

/-- From the two states the radio answers all orders in the same way, one after the other. -/
def PhyLink.Alike {φ : Type} (v : PhyLink φ) (s s' : φ) : Prop :=
  ∃ R : φ → φ → Prop, R s s' ∧ ∀ x x', R x x' →
    (∀ trx p, (v.down trx p x).1 = (v.down trx p x').1 ∧ R (v.down trx p x).2 (v.down trx p x').2) ∧
      ∀ trx tn, (v.disconnect trx tn x).1 = (v.disconnect trx tn x').1 ∧
        R (v.disconnect trx tn x).2 (v.disconnect trx tn x').2

theorem PhyLink.Alike.refl {φ : Type} (v : PhyLink φ) (s : φ) : v.Alike s s :=
  ⟨Eq, rfl, by rintro x _ rfl; exact ⟨fun _ _ => ⟨rfl, rfl⟩, fun _ _ => ⟨rfl, rfl⟩⟩⟩

namespace PhyLink.Alike

variable {φ : Type} {v : PhyLink φ} {s s' : φ} (h : v.Alike s s')
include h

theorem down (trx : UInt8) (p : Prim) : (v.down trx p s).1 = (v.down trx p s').1 ∧
    v.Alike (v.down trx p s).2 (v.down trx p s').2 := by
  obtain ⟨R, here, keep⟩ := h
  obtain ⟨same, next⟩ := (keep s s' here).1 trx p
  exact ⟨same, R, next, keep⟩

theorem disconnect (trx tn : UInt8) : (v.disconnect trx tn s).1 = (v.disconnect trx tn s').1 ∧
    v.Alike (v.disconnect trx tn s).2 (v.disconnect trx tn s').2 := by
  obtain ⟨R, here, keep⟩ := h
  obtain ⟨same, next⟩ := (keep s s' here).2 trx tn
  exact ⟨same, R, next, keep⟩

end PhyLink.Alike

/-- Two base stations look the same from a timeslot: they have the same carriers, the carrier of
the timeslot has the same number in the band, and the timeslot itself is the same. -/
structure SameView (trx tn : UInt8) (b b' : Bts) : Prop where
  carriers : ∀ u, (b.carrier? u).isSome = (b'.carrier? u).isSome
  arfcn : (b.carrier? trx).map (·.arfcn) = (b'.carrier? trx).map (·.arfcn)
  slot : b.slot? trx tn = b'.slot? trx tn

namespace SameView

variable {b b' : Bts} {trx tn n : UInt8} {id : LchanId}

theorem lchan? (h : SameView trx tn b b') (here : id.trx = trx ∧ id.tn = tn) :
    b.lchan? id = b'.lchan? id := by
  unfold Bts.lchan?
  rw [here.1, here.2, h.slot]

section Numbers

variable (h : SameView trx (chanTn n) b b')
include h

theorem locate? : b.locate? trx n = b'.locate? trx n := by
  unfold Bts.locate?
  cases addr : ChanAddr.decode n with
  | error e => rfl
  | ok a =>
    have same : b.lchan? ⟨trx, a.tn, a.lchanIndex.toUInt8⟩ = b'.lchan? _ :=
      h.lchan? ⟨rfl, tn_of_decode addr⟩
    simp only [same]

theorem find? : b.find? trx n = b'.find? trx n := by
  unfold Bts.find?
  rw [h.locate?]
  cases located : b'.locate? trx n with
  | none => rfl
  | some id =>
    rw [Option.bind_some, Option.bind_some, h.lchan? (Bts.place_of_locate? located)]

theorem findActive? : b.findActive? trx n = b'.findActive? trx n := by
  unfold Bts.findActive?
  rw [h.find?]

end Numbers

/-- The carrier of the timeslot exists on both sides or on none. -/
theorem carrier (h : SameView trx tn b b') :
    (b.carrier? trx = none ∧ b'.carrier? trx = none) ∨
      ∃ k k' : Carrier, b.carrier? trx = some k ∧ b'.carrier? trx = some k' ∧ k.arfcn = k'.arfcn ∧
        ∀ n, chanTn n = tn → k.slotOf n = k'.slotOf n := by
  have exist := h.carriers trx
  have number := h.arfcn
  have slot := h.slot
  cases left : b.carrier? trx with
  | none => exact .inl ⟨rfl, by simpa [left] using exist⟩
  | some k =>
    rw [left] at exist number
    obtain ⟨k', right⟩ := Option.isSome_iff_exists.mp exist.symm
    rw [right] at number
    refine .inr ⟨k, k', rfl, right, Option.some.inj number, ?_⟩
    rintro n rfl
    rw [Bts.slot?_slotOf left, Bts.slot?_slotOf right] at slot
    exact Option.some.inj slot

theorem modifySlot (h : SameView trx tn b b') (f : Timeslot → Timeslot) :
    SameView trx tn (b.modifySlot trx tn f) (b'.modifySlot trx tn f) := by
  refine ⟨fun u => ?_, ?_, ?_⟩
  · rw [Bts.carrier?_modifySlot, Bts.carrier?_modifySlot]
    split
    · rw [Option.isSome_map, Option.isSome_map, h.carriers]
    · exact h.carriers u
  · have same : (fun k : Carrier => (k.modifySlot tn.toNat f).arfcn) = (·.arfcn) := by
      funext k
      exact Carrier.arfcn_modifySlot
    rw [Bts.carrier?_modifySlot, Bts.carrier?_modifySlot, if_pos rfl, if_pos rfl,
      Option.map_map, Option.map_map]
    unfold Function.comp
    rw [same, h.arfcn]
  · rw [Bts.slot?_modifySlot, Bts.slot?_modifySlot, h.slot]

theorem withLoad (h : SameView trx tn b b') (f : RachLoad → RachLoad) :
    SameView trx tn { b with rach := f b.rach } { b' with rach := f b'.rach } :=
  ⟨h.carriers, h.arfcn, h.slot⟩

end SameView

namespace Bridge

variable {σ φ α β : Type} {site : Site σ φ} {trx tn n : UInt8} {id : LchanId}

/-- Two states with base stations that look the same from a timeslot, and with parties and a radio
that will answer alike. -/
structure Twin (site : Site σ φ) (trx tn : UInt8) (w w' : World σ φ) : Prop where
  view : SameView trx tn w.bts w'.bts
  services : site.services.Alike w.services w'.services
  phy : site.phy.Alike w.phy w'.phy

/-- Side by side the two steps have the same result and the same events, and leave twins. -/
def Agrees (site : Site σ φ) (trx tn : UInt8) (m s : Step σ φ α) : Prop :=
  ∀ w w' : World σ φ, Twin site trx tn w w' →
    (m w).1 = (s w').1 ∧ Twin site trx tn (m w).2 (s w').2 ∧
      ∃ es, (m w).2.trace = w.trace ++ es ∧ (s w').2.trace = w'.trace ++ es

/-- The step is decided by the timeslot: side by side with itself it does the same. -/
abbrev Local (site : Site σ φ) (trx tn : UInt8) (m : Step σ φ α) : Prop := Agrees site trx tn m m

/-- Twins correspond, and the same events. Steps match in this way exactly if they agree. -/
def twins (site : Site σ φ) (trx tn : UInt8) : Comparison σ φ where
  states := Twin site trx tn
  doings w w' v v' := ∃ es, v.trace = w.trace ++ es ∧ v'.trace = w'.trace ++ es
  idle _ _ := ⟨[], (List.append_nil _).symm, (List.append_nil _).symm⟩
  join := by
    rintro w w' v v' u u' ⟨es, first, first'⟩ ⟨fs, second, second'⟩
    refine ⟨es ++ fs, ?_, ?_⟩
    · rw [second, first, List.append_assoc]
    · rw [second', first', List.append_assoc]

/-- Changes that leave twins and say nothing. -/
theorem twins_keeps {f : World σ φ → World σ φ}
    (hf : ∀ w w', Twin site trx tn w w' → Twin site trx tn (f w) (f w'))
    (quiet : ∀ w, (f w).trace = w.trace) : (twins site trx tn).Keeps f f := by
  refine fun w w' twin => ⟨hf w w' twin, [], ?_, ?_⟩
  · rw [quiet, List.append_nil]
  · rw [quiet, List.append_nil]

theorem twins_answers (c : Call) : (twins site trx tn).Answers site c c := by
  intro w w' twin
  obtain ⟨same, after⟩ := twin.services.answer c
  refine ⟨heq_of_eq same, ⟨twin.view, after, twin.phy⟩,
    [.call c (site.services.answer c w.services).1], rfl, ?_⟩
  rw [same]
  rfl

namespace Agrees

open Comparison

/-! ### Steps that always end well -/

section Steps

theorem done {a : α} : Agrees site trx tn (pure a : Step σ φ α) (pure a) :=
  Matches.done (c := twins site trx tn)

theorem bind {m s : Step σ φ α} {k j : α → Step σ φ β} (hm : Agrees site trx tn m s)
    (hk : ∀ a, Agrees site trx tn (k a) (j a)) : Agrees site trx tn (m >>= k) (s >>= j) :=
  Matches.bind (c := twins site trx tn) hm hk

theorem read {k j : World σ φ → Step σ φ β}
    (h : ∀ w w', Twin site trx tn w w' → Agrees site trx tn (k w) (j w')) :
    Agrees site trx tn (get >>= k) (get >>= j) :=
  Matches.read (c := twins site trx tn) h

theorem write {f : World σ φ → World σ φ} {k j : PUnit → Step σ φ β}
    (hf : ∀ w w', Twin site trx tn w w' → Twin site trx tn (f w) (f w'))
    (quiet : ∀ w, (f w).trace = w.trace) (h : Agrees site trx tn (k ⟨⟩) (j ⟨⟩)) :
    Agrees site trx tn (modify f >>= k) (modify f >>= j) :=
  Matches.write (c := twins site trx tn) (twins_keeps hf quiet) h

theorem writeBts {f : Bts → Bts} {k j : PUnit → Step σ φ β}
    (hf : ∀ b b', SameView trx tn b b' → SameView trx tn (f b) (f b'))
    (h : Agrees site trx tn (k ⟨⟩) (j ⟨⟩)) :
    Agrees site trx tn (modify (·.modifyBts f) >>= k) (modify (·.modifyBts f) >>= j) :=
  write (fun _ _ twin => ⟨hf _ _ twin.view, twin.services, twin.phy⟩) (fun _ => rfl) h

theorem writeSlot {f : Timeslot → Timeslot} {k j : PUnit → Step σ φ β}
    (h : Agrees site trx tn (k ⟨⟩) (j ⟨⟩)) :
    Agrees site trx tn (modify (·.modifySlot trx tn f) >>= k)
      (modify (·.modifySlot trx tn f) >>= j) :=
  writeBts (fun _ _ view => view.modifySlot f) h

theorem writeLchan (here : id.trx = trx ∧ id.tn = tn) {f : Lchan → Lchan}
    {k j : PUnit → Step σ φ β} (h : Agrees site trx tn (k ⟨⟩) (j ⟨⟩)) :
    Agrees site trx tn (modify (·.modifyLchan id f) >>= k) (modify (·.modifyLchan id f) >>= j) := by
  obtain ⟨rfl, rfl⟩ := here
  exact writeSlot h

theorem asked {c : Call} {k j : c.Answer → Step σ φ β}
    (h : ∀ a, Agrees site trx tn (k a) (j a)) :
    Agrees site trx tn (Bridge.ask site c >>= k) (Bridge.ask site c >>= j) :=
  Matches.asked (twins_answers c) h

theorem told {c : Call} {k j : Unit → Step σ φ β} (h : Agrees site trx tn (k ()) (j ())) :
    Agrees site trx tn (tell site c >>= k) (tell site c >>= j) := asked fun _ => h

theorem last {m s : Step σ φ β} (h : Agrees site trx tn (m >>= pure) (s >>= pure)) :
    Agrees site trx tn m s := h

end Steps

/-! ### Steps that can fail -/

section Acts

theorem succeed {a : β} :
    Agrees site trx tn (pure a : Act σ φ β) (pure a : Act σ φ β) :=
  Matches.succeed (c := twins site trx tn)

theorem failed {e : Failure} :
    Agrees site trx tn (throw e : Act σ φ β) (throw e : Act σ φ β) :=
  Matches.failed (c := twins site trx tn)

theorem lift {m s : Step σ φ α} {k j : α → Act σ φ β} (hm : Agrees site trx tn m s)
    (hk : ∀ a, Agrees site trx tn (k a) (j a)) :
    Agrees site trx tn (liftM m >>= k : Act σ φ β) (liftM s >>= j : Act σ φ β) :=
  Matches.lift (c := twins site trx tn) hm hk

theorem lastLift {m s : Step σ φ β} (h : Agrees site trx tn m s) :
    Agrees site trx tn (liftM m : Act σ φ β) (liftM s : Act σ φ β) :=
  Matches.lastLift (c := twins site trx tn) h

theorem actRead {k j : World σ φ → Act σ φ β}
    (h : ∀ w w', Twin site trx tn w w' → Agrees site trx tn (k w) (j w')) :
    Agrees site trx tn (get >>= k : Act σ φ β) (get >>= j : Act σ φ β) :=
  Matches.actRead (c := twins site trx tn) h

theorem actWrite {f : World σ φ → World σ φ} {k j : PUnit → Act σ φ β}
    (hf : ∀ w w', Twin site trx tn w w' → Twin site trx tn (f w) (f w'))
    (quiet : ∀ w, (f w).trace = w.trace) (h : Agrees site trx tn (k ⟨⟩) (j ⟨⟩)) :
    Agrees site trx tn (modify f >>= k : Act σ φ β) (modify f >>= j : Act σ φ β) :=
  write (k := k) (j := j) hf quiet h

theorem actWriteBts {f : Bts → Bts} {k j : PUnit → Act σ φ β}
    (hf : ∀ b b', SameView trx tn b b' → SameView trx tn (f b) (f b'))
    (h : Agrees site trx tn (k ⟨⟩) (j ⟨⟩)) :
    Agrees site trx tn (modify (·.modifyBts f) >>= k : Act σ φ β)
      (modify (·.modifyBts f) >>= j : Act σ φ β) :=
  writeBts (k := k) (j := j) hf h

theorem actWriteSlot {f : Timeslot → Timeslot} {k j : PUnit → Act σ φ β}
    (h : Agrees site trx tn (k ⟨⟩) (j ⟨⟩)) :
    Agrees site trx tn (modify (·.modifySlot trx tn f) >>= k : Act σ φ β)
      (modify (·.modifySlot trx tn f) >>= j : Act σ φ β) :=
  writeSlot (k := k) (j := j) h

theorem actWriteLchan (here : id.trx = trx ∧ id.tn = tn) {f : Lchan → Lchan}
    {k j : PUnit → Act σ φ β} (h : Agrees site trx tn (k ⟨⟩) (j ⟨⟩)) :
    Agrees site trx tn (modify (·.modifyLchan id f) >>= k : Act σ φ β)
      (modify (·.modifyLchan id f) >>= j : Act σ φ β) :=
  writeLchan here (k := k) (j := j) h

theorem actAsked {c : Call} {k j : c.Answer → Act σ φ β}
    (h : ∀ a, Agrees site trx tn (k a) (j a)) :
    Agrees site trx tn (liftM (Bridge.ask site c) >>= k : Act σ φ β)
      (liftM (Bridge.ask site c) >>= j : Act σ φ β) :=
  asked (k := k) (j := j) h

theorem actTold {c : Call} {k j : Unit → Act σ φ β} (h : Agrees site trx tn (k ()) (j ())) :
    Agrees site trx tn (liftM (tell site c) >>= k : Act σ φ β)
      (liftM (tell site c) >>= j : Act σ φ β) :=
  told (k := k) (j := j) h

theorem actLast {m s : Act σ φ β}
    (h : Agrees site trx tn (m >>= pure : Act σ φ β) (s >>= pure : Act σ φ β)) :
    Agrees site trx tn m s := Matches.actLast (c := twins site trx tn) h

theorem caught {m s : Act σ φ β} {h h' : Failure → Act σ φ β} (hm : Agrees site trx tn m s)
    (handled : ∀ e, Agrees site trx tn (h e) (h' e)) :
    Agrees site trx tn (tryCatch m h : Act σ φ β) (tryCatch s h' : Act σ φ β) :=
  Matches.caught (c := twins site trx tn) hm handled

/-- Both sides go on with a carrier, of one number in the band and with the same timeslot. -/
theorem needCarrier {k j : Carrier → Act σ φ β}
    (known : ∀ c c' : Carrier, c.arfcn = c'.arfcn →
      (∀ n, chanTn n = tn → c.slotOf n = c'.slotOf n) → Agrees site trx tn (k c) (j c')) :
    Agrees site trx tn (Bridge.needCarrier trx >>= k : Act σ φ β)
      (Bridge.needCarrier trx >>= j : Act σ φ β) := by
  unfold Bridge.needCarrier
  rw [bind_assoc, bind_assoc]
  refine actRead fun w w' twin => ?_
  obtain ⟨left, right⟩ | ⟨c, c', left, right, number, slots⟩ := twin.view.carrier
  · rw [left, right]
    exact failed
  · rw [left, right]
    exact known c c' number slots

/-- Both sides go on with the same channel, which lies on the timeslot. -/
theorem needLchan {k j : LchanId × Lchan → Act σ φ β}
    (known : ∀ p : LchanId × Lchan, p.1.trx = trx ∧ p.1.tn = chanTn n →
      Agrees site trx (chanTn n) (k p) (j p)) :
    Agrees site trx (chanTn n) (Bridge.needLchan trx n >>= k : Act σ φ β)
      (Bridge.needLchan trx n >>= j : Act σ φ β) := by
  unfold Bridge.needLchan
  rw [bind_assoc, bind_assoc]
  refine actRead fun w w' twin => ?_
  rw [twin.view.find?]
  cases found : w'.bts.find? trx n with
  | none => exact failed
  | some p => exact known p (Bts.place_of_locate? (Bts.find?_eq_some.mp found).1)

end Acts
end Agrees

/-! ### Towards the radio -/

theorem Twin.captured {w w' : World σ φ} (twin : Twin site trx tn w w') (u : UInt8) (d : PhData)
    (uplink : Bool) :
    Twin site trx tn (w.captureData site u d uplink) (w'.captureData site u d uplink) := by
  obtain ⟨rs, captured⟩ := captureData_eq w site u d uplink
  obtain ⟨rs', captured'⟩ := captureData_eq w' site u d uplink
  rw [captured, captured']
  exact ⟨twin.view, twin.services, twin.phy⟩

theorem Twin.capturedBurst {w w' : World σ φ} (twin : Twin site trx tn w w') (u : UInt8)
    (p : PhRach) : Twin site trx tn (w.captureRach u p) (w'.captureRach u p) := by
  obtain ⟨rs, captured⟩ := captureRach_eq w u p
  obtain ⟨rs', captured'⟩ := captureRach_eq w' u p
  rw [captured, captured']
  exact ⟨twin.view, twin.services, twin.phy⟩

theorem transmit_local (u : UInt8) (p : Prim) : Local site trx tn (transmit site u p) := by
  intro w w' twin
  obtain ⟨same, after⟩ := twin.phy.down u p
  refine ⟨same, ⟨twin.view, twin.services, after⟩, [.down u p (site.phy.down u p w.phy).1], rfl, ?_⟩
  rw [same]
  rfl

theorem disconnect_local (u m : UInt8) : Local site trx tn (disconnect site u m) := by
  intro w w' twin
  obtain ⟨same, after⟩ := twin.phy.disconnect u m
  refine ⟨same, ⟨twin.view, twin.services, after⟩,
    [.disconnect u m (site.phy.disconnect u m w.phy).1], rfl, ?_⟩
  rw [same]
  rfl

theorem handDown_local (u : UInt8) (p : Prim) :
    Local site trx tn (handDown site u p) := by
  have reported := Comparison.Matches.reported (c := twins site trx tn) (transmit_local u p)
    fun _ => twins_answers _
  unfold handDown
  cases p with
  | phDataReq d =>
    exact .write (fun _ _ twin => twin.captured u d false)
      (fun w => (captureData_same w site u d false).2) reported
  | _ => exact reported

theorem down_local (u : UInt8) (p : Prim) :
    Local site trx tn (down site u p) :=
  Comparison.Matches.down (c := twins site trx tn) (handDown_local u p)

end Bridge
end BaseStation
