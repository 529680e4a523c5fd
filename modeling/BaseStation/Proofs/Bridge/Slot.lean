import BaseStation.Proofs.Bridge.Moved

/-!
What an input does to the data of the base station: apart from the time and the counters of access
bursts at most one timeslot changes, that of the channel which the input is about, and it changes
in one of a few ways.
-/

namespace BaseStation

/-! ### Records and timeslots -/

/-- A record that goes on: it is of the same channel, of the same type, and not active anew. -/
structure Lchan.GoesOn (l l' : Lchan) : Prop where
  id : l'.id = l.id
  type : l'.type = l.type
  active : l'.isActive = true → l.isActive = true

theorem Lchan.GoesOn.trans {l l' l'' : Lchan} (h : l.GoesOn l') (h' : l'.GoesOn l'') :
    l.GoesOn l'' :=
  ⟨h'.id.trans h.id, h'.type.trans h.type, fun active => h.active (h'.active active)⟩

/-- A record whose activation was asked for on the timeslot `t`: the channel is not active, and it
is for packet data where packet mode is in use or under way. -/
structure Lchan.AskedOn (t : Timeslot) (l l' : Lchan) : Prop where
  id : l'.id = l.id
  idle : l'.isActive = false
  type : t.isPdch = true ∨ t.flags.actPending = true → l'.type = .pdtch

/-- The timeslot with another record at the place of one of its channels. -/
def Timeslot.setLchan (t : Timeslot) (ss : UInt8) (l : Lchan) : Timeslot :=
  { t with lchans := t.lchans.modify ss.toNat fun _ => l }

theorem Timeslot.lchans_setLchan {t : Timeslot} {ss : UInt8} {l : Lchan} (i : Nat) :
    (t.setLchan ss l).lchans[i]? =
      if ss.toNat = i then t.lchans[i]?.map fun _ => l else t.lchans[i]? := by
  unfold setLchan
  rw [List.getElem?_modify]
  split <;> simp

/-- A channel of a changed timeslot is the new one or an old one. -/
theorem Timeslot.mem_setLchan {t : Timeslot} {ss : UInt8} {l k : Lchan}
    (h : k ∈ (t.setLchan ss l).lchans) : k = l ∨ k ∈ t.lchans := by
  obtain ⟨i, hi⟩ := List.mem_iff_getElem?.mp h
  rw [lchans_setLchan] at hi
  split at hi
  · obtain ⟨-, -, rfl⟩ := Option.map_eq_some_iff.mp hi
    exact .inl rfl
  · exact .inr (List.mem_of_getElem? hi)

theorem Timeslot.mem_setLchan_self {t : Timeslot} {ss : UInt8} {l l' : Lchan}
    (known : t.lchans[ss.toNat]? = some l) : l' ∈ (t.setLchan ss l').lchans := by
  refine List.mem_of_getElem? (i := ss.toNat) ?_
  rw [lchans_setLchan, if_pos rfl, known]
  rfl

/-- An old channel is still there, or was replaced. -/
theorem Timeslot.mem_setLchan_or {t : Timeslot} {ss : UInt8} {l l' k : Lchan}
    (known : t.lchans[ss.toNat]? = some l) (h : k ∈ t.lchans) :
    k ∈ (t.setLchan ss l').lchans ∨ k = l := by
  obtain ⟨i, hi⟩ := List.mem_iff_getElem?.mp h
  by_cases here : ss.toNat = i
  · rw [here, hi, Option.some.injEq] at known
    exact .inr known
  · refine .inl (List.mem_of_getElem? (i := i) ?_)
    rw [lchans_setLchan, if_neg here, hi]

theorem tn_of_decode {n : UInt8} {a : ChanAddr} (addr : ChanAddr.decode n = .ok a) :
    a.tn = chanTn n := by
  unfold ChanAddr.decode at addr
  split at addr
  · rw [← Except.ok.inj addr]
  · cases addr

namespace Bts

variable {b : Bts} {trx tn n : UInt8} {id : LchanId} {l : Lchan} {t : Timeslot}

theorem lchan?_eq_some :
    b.lchan? id = some l ↔ ∃ t, b.slot? id.trx id.tn = some t ∧ t.lchans[id.ss.toNat]? = some l :=
  Option.bind_eq_some_iff

theorem setLchan_eq_modifySlot (slot : b.slot? id.trx id.tn = some t) :
    b.setLchan id l = b.modifySlot id.trx id.tn fun _ => t.setLchan id.ss l := by
  refine modifySlot_congr fun t' ht' => ?_
  rw [slot, Option.some.injEq] at ht'
  rw [ht']
  rfl

/-- A channel that a channel number names lies on the timeslot that the number names. -/
theorem place_of_locate? (located : b.locate? trx n = some id) :
    id.trx = trx ∧ id.tn = chanTn n := by
  obtain ⟨a, addr, rfl, -⟩ := locate?_eq_some.mp located
  exact ⟨rfl, tn_of_decode addr⟩

theorem place_of_findActive? {p : LchanId × Lchan} (found : b.findActive? trx n = some p) :
    p.1.trx = trx ∧ p.1.tn = chanTn n :=
  place_of_locate? (find?_eq_some.mp (findActive?_eq_some.mp found).1).1

end Bts

/-! ### What an input is about -/

/-- The channel number in a management payload. -/
def MphInfo.chanNr? : MphInfo → Option UInt8
  | time _ => none
  | measured m => some m.chanNr
  | activateReq r | deactivateReq r | modifyReq r => some r.chanNr
  | cipherReq r => some r.chanNr
  | activateCnf c | deactivateCnf c => some c.chanNr
  | cipherCnf c => some c.chanNr

/-- The channel number in a primitive. -/
def Prim.chanNr? : Prim → Option UInt8
  | phRtsInd p => some p.chanNr
  | phDataInd p | phDataReq p => some p.chanNr
  | phRachInd p => some p.chanNr
  | tchRtsInd p => some p.chanNr
  | tchInd p | tchReq p => some p.chanNr
  | mphInfoInd i | mphInfoCnf i | mphInfoReq i => i.chanNr?

namespace Bridge

/-- How an input names the channel that it is about. -/
inductive Address where
  /-- A channel number on a carrier. -/
  | number (trx n : UInt8)
  /-- A timeslot, of which the full rate channel is meant. -/
  | timeslot (trx tn : UInt8)
  | channel (id : LchanId)

namespace Address

def trx : Address → UInt8
  | number trx _ => trx
  | timeslot trx _ => trx
  | channel id => id.trx

def tn : Address → UInt8
  | number _ n => chanTn n
  | timeslot _ tn => tn
  | channel id => id.tn

/-- The channel of an address, if it exists. -/
def resolve (b : Bts) : Address → Option LchanId
  | number trx n => b.locate? trx n
  | timeslot trx tn => (b.slot? trx tn).bind fun _ => b.locate? trx (ChanKind.base .tchF ||| tn)
  | channel id => if (b.lchan? id).isSome then some id else none

end Address

/-- The address of the channel that an input is about. -/
def Input.address? : Input → Option Address
  | up trx p | down trx p => p.chanNr?.map (.number trx ·)
  | chanAct trx n _ | chanRel trx n | chanDeactSacch trx n | chanModify trx n =>
    some (.number trx n)
  | pdchSwitch trx tn _ => some (.timeslot trx tn)
  | packetReq q => some (.timeslot q.trx q.tn)
  | voiceRx id _ => some (.channel id)

/-- The input is an access burst. -/
def Input.isBurst : Input → Bool
  | up _ (.phRachInd _) => true
  | _ => false

variable {σ φ : Type} {site : Site σ φ} {b b' : Bts} {trx n : UInt8} {id : LchanId}
  {l l' : Lchan} {t : Timeslot} {i : Input} {r : Except Failure Unit} {es : List Event}

/-! ### Changes -/

/-- What an input does to the timeslot `t` of its channel, which is at the place `ss`. -/
inductive SlotMove (ss : UInt8) (t : Timeslot) : Timeslot → Prop
  | record {l l' : Lchan} (known : t.lchans[ss.toNat]? = some l) (on : l.GoesOn l') :
    SlotMove ss t (t.setLchan ss l')
  | asked {l l' : Lchan} (known : t.lchans[ss.toNat]? = some l) (asked : l.AskedOn t l') :
    SlotMove ss t (t.setLchan ss l')
  | confirmed {l : Lchan} (known : t.lchans[ss.toNat]? = some l) (ok : Bool) :
    SlotMove ss t (afterActivation
      (t.setLchan ss { l with state := if ok then .active else .none }) l.type ok).1
  | released {l : Lchan} (known : t.lchans[ss.toNat]? = some l) :
    SlotMove ss t (afterRelease (t.setLchan ss l.resetAfterRelease)).1
  /-- The switch into packet mode begins with an activation. -/
  | begun {t' : Timeslot} {l l' : Lchan} (begun : t.beginPdchAct? = some t')
      (known : t.lchans[ss.toNat]? = some l) (asked : l.AskedOn t' l') :
    SlotMove ss t (t'.setLchan ss l')
  /-- The switch into packet mode is given up with the activation. -/
  | givenUp {t' : Timeslot} {l l' : Lchan} (begun : t.beginPdchAct? = some t')
      (known : t.lchans[ss.toNat]? = some l) (asked : l.AskedOn t' l') :
    SlotMove ss t (t.setLchan ss l')
  /-- The switch out of packet mode begins with a release. -/
  | endBegun {t' : Timeslot} {l : Lchan} (begun : t.beginPdchDeact? = some t')
      (known : t.lchans[ss.toNat]? = some l) : SlotMove ss t (t'.setLchan ss (releasing l))

/-- What an input leaves of the data. -/
inductive Change (site : Site σ φ) (b : Bts) : Input → Bts → Prop
  /-- At most a counter changes, with an access burst. -/
  | counted {i : Input} {load : RachLoad} (same : i.isBurst = false → load = b.rach) :
    Change site b i { b with rach := load }
  /-- The timeslot of the channel changes. -/
  | moved {i : Input} {a : Address} {id : LchanId} {t t' : Timeslot} {load : RachLoad}
      (address : i.address? = some a) (target : a.resolve b = some id)
      (slot : b.slot? id.trx id.tn = some t) (move : SlotMove id.ss t t')
      (same : i.isBurst = false → load = b.rach) :
    Change site b i { b.modifySlot id.trx id.tn (fun _ => t') with rach := load }
  | time {trx : UInt8} {fn : UInt32} :
    Change site b (.up trx (.mphInfoInd (.time fn))) (timed site fn b)

namespace Change

theorem keep : Change site b i b := .counted fun _ => rfl

/-- The record of the channel goes on. -/
theorem record {a : Address} (address : i.address? = some a) (target : a.resolve b = some id)
    (known : b.lchan? id = some l) (on : l.GoesOn l') : Change site b i (b.setLchan id l') := by
  obtain ⟨t, slot, known⟩ := Bts.lchan?_eq_some.mp known
  rw [Bts.setLchan_eq_modifySlot slot]
  exact .moved address target slot (.record known on) fun _ => rfl

/-- The record of the channel that a channel number finds goes on. -/
theorem found (address : i.address? = some (.number trx n)) (found : b.find? trx n = some (id, l))
    (on : l.GoesOn l') : Change site b i (b.setLchan id l') := by
  obtain ⟨located, known⟩ := Bts.find?_eq_some.mp found
  exact .record address located known on

/-- The record of the active channel that a channel number finds goes on. -/
theorem active (address : i.address? = some (.number trx n))
    (found : b.findActive? trx n = some (id, l)) (on : l.GoesOn l') :
    Change site b i (b.setLchan id l') :=
  .found address (Bts.findActive?_eq_some.mp found).1 on

end Change

/-! ### Records that go on -/

theorem goesOn_of_state (own : l'.id = l.id) (type : l'.type = l.type)
    (state : l'.state = l.state) : l.GoesOn l' := by
  refine ⟨own, type, fun active => ?_⟩
  unfold Lchan.isActive at active ⊢
  rwa [← state]

theorem goesOn_checkDownlink (xs : List UInt8) : l.GoesOn (l.checkDownlink n xs).1 := by
  obtain ⟨c, ns, h⟩ := checkDownlink_eq l n xs
  rw [h]
  exact goesOn_of_state rfl rfl rfl

theorem goesOn_checkUplink (xs : List UInt8) : l.GoesOn (l.checkUplink n xs).1 := by
  obtain ⟨c, h⟩ := checkUplink_eq l n xs
  rw [h]
  exact goesOn_of_state rfl rfl rfl

theorem goesOn_confirmCipher (c : CipherConfirm) : l.GoesOn (l.confirmCipher c).1 := by
  obtain ⟨k, h⟩ := confirmCipher_eq l c
  rw [h]
  exact goesOn_of_state rfl rfl rfl

theorem goesOn_supervised (bad : Bool) : l.GoesOn (supervised site l bad) := by
  obtain ⟨s, h⟩ := supervised_eq site l bad
  rw [h]
  exact goesOn_of_state rfl rfl rfl

theorem goesOn_handoverDone : l.GoesOn { l with handover := .none } := goesOn_of_state rfl rfl rfl

theorem goesOn_headerTaken (header : List UInt8) (level : Option UInt8) :
    l.GoesOn (headerTaken l header level) := goesOn_of_state rfl rfl rfl

theorem goesOn_delayStored (p : PhRach) : l.GoesOn (delayStored p l) := by
  obtain ⟨m, h⟩ := delayStored_eq p l
  rw [h]
  exact goesOn_of_state rfl rfl rfl

theorem goesOn_handoverAwaited : l.GoesOn { l with handover := .waitFrame } :=
  goesOn_of_state rfl rfl rfl

theorem goesOn_releasing : l.GoesOn (releasing l) :=
  ⟨rfl, rfl, fun active => absurd active Bool.false_ne_true⟩

theorem goesOn_voiceReceived (f : VoiceFrame) : l.GoesOn (voiceReceived f l) := by
  obtain ⟨q, h⟩ := voiceReceived_eq f l
  rw [h]
  exact goesOn_of_state rfl rfl rfl

theorem Write.goesOn (x : Write) : l.GoesOn (x.apply l) := by
  cases x <;> exact goesOn_of_state rfl rfl rfl

/-! ### Opportunities and receptions -/

theorem CircuitBlock.change {p : PhRts} {kind : ChanKind} {f : Frame} {q : Option CipherRequest}
    (block : CircuitBlock site trx p b kind f q b' es) :
    Change site b (.up trx (.phRtsInd p)) b' := by
  cases block with
  | filling _ found => exact .active rfl found (goesOn_of_state rfl rfl rfl)
  | main _ found _ f => exact .active rfl found (goesOn_checkDownlink f.octets)
  | _ => exact .keep

theorem RtsOutcome.change {p : PhRts} (h : RtsOutcome site trx p b r b' es) :
    Change site b (.up trx (.phRtsInd p)) b' := by
  cases h with
  | undecodable => exact .keep
  | unknownTrx => exact .keep
  | packet => exact .keep
  | looped _ _ _ found => exact .active rfl found (goesOn_of_state rfl rfl rfl)
  | circuit _ _ _ block => exact block.change

theorem TchRtsOutcome.change {p : TchRts} (h : TchRtsOutcome trx p b r b' es) :
    Change site b (.up trx (.tchRtsInd p)) b' := by
  cases h with
  | unknownTrx => exact .keep
  | inactive => exact .keep
  | active _ found => exact .active rfl found (goesOn_of_state rfl rfl rfl)

theorem DataOutcome.change {d : PhData} (h : DataOutcome site trx d b r b' es) :
    Change site b (.up trx (.phDataInd d)) b' := by
  cases h with
  | looped _ _ found => exact .found rfl found (goesOn_of_state rfl rfl rfl)
  | badSacch _ _ found => exact .active rfl found (goesOn_supervised true)
  | main _ _ found =>
    exact .active rfl found (goesOn_handoverDone.trans (goesOn_checkUplink d.frame.l2))
  | shortSacch _ _ found =>
    exact .active rfl found (goesOn_handoverDone.trans (goesOn_supervised false))
  | sacch _ _ found _ _ _ level _ header =>
    refine .active rfl found (.trans ?_ (goesOn_checkUplink _))
    rw [header]
    exact goesOn_handoverDone.trans ((goesOn_supervised false).trans (goesOn_headerTaken _ level))
  | _ => exact .keep

theorem TchOutcome.change {t : TchData} (h : TchOutcome site trx t b r b' es) :
    Change site b (.up trx (.tchInd t)) b' := by
  cases h with
  | unknownTrx => exact .keep
  | inactive => exact .keep
  | looped _ found => exact .active rfl found (goesOn_of_state rfl rfl rfl)
  | taken _ found => exact .active rfl found (goesOn_of_state rfl rfl rfl)

theorem MeasuredOutcome.change {m : Measured} (h : MeasuredOutcome trx m b r b' es) :
    Change site b (.up trx (.mphInfoInd (.measured m))) b' := by
  cases h with
  | measured _ found => exact .active rfl found (goesOn_of_state rfl rfl rfl)
  | _ => exact .keep

theorem TimeOutcome.change {fn : UInt32} (h : TimeOutcome site trx fn b r b' es) :
    Change site b (.up trx (.mphInfoInd (.time fn))) b' := by
  cases h with
  | secondary => exact .keep
  | primary => exact .time

/-- A change with an access burst may also count it. -/
theorem Change.withLoad {p : PhRach} (h : Change site b (.up trx (.phRachInd p)) b')
    (load : RachLoad) : Change site b (.up trx (.phRachInd p)) { b' with rach := load } := by
  cases h with
  | counted => exact .counted fun burst => absurd burst Bool.noConfusion
  | moved address target slot move =>
    exact .moved address target slot move fun burst => absurd burst Bool.noConfusion

theorem busyCounted_eq (p : PhRach) : ∃ load, busyCounted p b = { b with rach := load } := by
  unfold busyCounted
  split
  · exact ⟨_, rfl⟩
  · exact ⟨b.rach, rfl⟩

theorem Change.delayKept {p : PhRach} :
    Change site b (.up trx (.phRachInd p)) (delayKept trx p (busyCounted p b)) := by
  unfold Bridge.delayKept
  rw [find?_busyCounted]
  obtain ⟨load, counted⟩ := busyCounted_eq (b := b) p
  rw [counted]
  cases found : b.find? trx p.chanNr with
  | none => exact Change.keep.withLoad load
  | some q =>
    have stored : Change site b (.up trx (.phRachInd p)) (b.setLchan q.1 (delayStored p q.2)) :=
      .found rfl found (goesOn_delayStored p)
    exact stored.withLoad load

theorem RachOutcome.change {p : PhRach} (h : RachOutcome site trx p b r b' es) :
    Change site b (.up trx (.phRachInd p)) b' := by
  obtain ⟨load, counted⟩ := busyCounted_eq (b := b) p
  cases h with
  | @handover _ id l _ _ found taken =>
    have reported : Change site b (.up trx (.phRachInd p)) (b.setLchan id
        (if taken then { delayStored p l with handover := .waitFrame } else delayStored p l)) := by
      refine .found rfl found ?_
      split
      · exact (goesOn_delayStored p).trans goesOn_handoverAwaited
      · exact goesOn_delayStored p
    rw [counted]
    exact reported.withLoad load
  | packet => exact Change.delayKept.withLoad _
  | request => exact Change.delayKept.withLoad _
  | _ => rw [counted]; exact Change.keep.withLoad load

/-! ### Channel control -/

theorem CipherCnfOutcome.change {c : CipherConfirm} (h : CipherCnfOutcome trx c b r b' es) :
    Change site b (.up trx (.mphInfoCnf (.cipherCnf c))) b' := by
  cases h with
  | unknownTrx => exact .keep
  | unknownLchan => exact .keep
  | confirmed _ found => exact .found rfl found (goesOn_confirmCipher c)

/-- The record of the channel that a channel number finds changes, and then its timeslot. -/
theorem Change.foundSlot {f : Timeslot → Timeslot} (address : i.address? = some (.number trx n))
    (found : b.find? trx n = some (id, l))
    (move : ∀ t, t.lchans[id.ss.toNat]? = some l → SlotMove id.ss t (f (t.setLchan id.ss l'))) :
    Change site b i ((b.setLchan id l').modifySlot trx (chanTn n) f) := by
  obtain ⟨located, known⟩ := Bts.find?_eq_some.mp found
  obtain ⟨t, slot, known⟩ := Bts.lchan?_eq_some.mp known
  obtain ⟨carrier, place⟩ := Bts.place_of_locate? located
  rw [Bts.setLchan_eq_modifySlot slot, ← carrier, ← place, Bts.modifySlot_modifySlot]
  exact .moved address located slot (move t known) fun _ => rfl

theorem ActivateCnfOutcome.change {c : ActConfirm} (h : ActivateCnfOutcome trx c b r b' es) :
    Change site b (.up trx (.mphInfoCnf (.activateCnf c))) b' := by
  cases h with
  | unknownTrx => exact .keep
  | unknownLchan => exact .keep
  | confirmed _ found =>
    refine .foundSlot rfl found fun t known => ?_
    exact .confirmed known (c.cause == 0)

theorem DeactivateCnfOutcome.change {c : ActConfirm} (h : DeactivateCnfOutcome trx c b r b' es) :
    Change site b (.up trx (.mphInfoCnf (.deactivateCnf c))) b' := by
  cases h with
  | unknownTrx => exact .keep
  | unknownLchan => exact .keep
  | sacchOnly => exact .keep
  | released _ found => exact .foundSlot rfl found fun t known => .released known
  | switched _ found => exact .foundSlot rfl found fun t known => .released known

theorem ChanDeactSacchOutcome.change (h : ChanDeactSacchOutcome trx n b r b' es) :
    Change site b (.chanDeactSacch trx n) b' := by
  cases h with
  | unknownTrx => exact .keep
  | unknownLchan => exact .keep
  | requested _ found => exact .found rfl found (goesOn_of_state rfl rfl rfl)

/-- What is left of a release that was asked for. -/
theorem ChanRelOutcome.left (h : ChanRelOutcome trx n b r b' es) :
    (b' = b ∧ r ≠ .ok ()) ∨
      ∃ id l, b.find? trx n = some (id, l) ∧ b' = b.setLchan id (releasing l) := by
  cases h with
  | unknownTrx => exact .inl ⟨rfl, by simp⟩
  | unknownLchan => exact .inl ⟨rfl, by simp⟩
  | requested _ found => exact .inr ⟨_, _, found, rfl⟩

theorem ChanRelOutcome.change (h : ChanRelOutcome trx n b r b' es) :
    Change site b (.chanRel trx n) b' := by
  obtain ⟨rfl, -⟩ | ⟨id, l, found, rfl⟩ := h.left
  · exact .keep
  · exact .found rfl found goesOn_releasing

theorem askedOn_activating {k : Carrier} {a : ChanAddr} :
    l.AskedOn (k.slotOf n) (activating site (activationType k a n) l) := by
  refine ⟨rfl, rfl, fun packet => ?_⟩
  unfold activating activationType LchanType.forActivation
  rw [if_pos (by simpa using packet)]

theorem askedOn_allocated {type : LchanType} {h : DtxHandle} (asked : l.AskedOn t l') :
    l.AskedOn t (allocated site type h l') := by
  obtain ⟨d, dtx⟩ := allocated_eq site type h l'
  rw [dtx]
  exact ⟨asked.id, asked.idle, asked.type⟩

/-- What is left of an activation that was asked for. -/
theorem ChanActOutcome.left {tsc : Option UInt8} (h : ChanActOutcome site trx n tsc b r b' es) :
    (b' = b ∧ r ≠ .ok ()) ∨
      ∃ id l l' t, b.find? trx n = some (id, l) ∧ b.slot? trx (chanTn n) = some t ∧
        l.AskedOn t l' ∧ b' = b.setLchan id l' := by
  cases h with
  | radio _ _ carrier found =>
    exact .inr ⟨_, _, _, _, found, Bts.slot?_slotOf carrier, askedOn_activating, rfl⟩
  | requested _ _ carrier found =>
    exact .inr ⟨_, _, _, _, found, Bts.slot?_slotOf carrier, askedOn_allocated askedOn_activating,
      rfl⟩
  | _ => exact .inl ⟨rfl, by simp⟩

theorem ChanActOutcome.change {tsc : Option UInt8}
    (h : ChanActOutcome site trx n tsc b r b' es) : Change site b (.chanAct trx n tsc) b' := by
  obtain ⟨rfl, -⟩ | ⟨id, l, l', t, found, slot, asked, rfl⟩ := h.left
  · exact .keep
  · obtain ⟨located, known⟩ := Bts.find?_eq_some.mp found
    obtain ⟨t', slot', known⟩ := Bts.lchan?_eq_some.mp known
    obtain ⟨carrier, place⟩ := Bts.place_of_locate? located
    rw [← carrier, ← place, slot', Option.some.injEq] at slot
    subst slot
    rw [Bts.setLchan_eq_modifySlot slot']
    exact .moved rfl located slot' (.asked known asked) fun _ => rfl

/-! ### Switches of packet mode -/

theorem pending_settled {f : SlotFlags} (idle : f.pending = false) : f.settle = f := by
  obtain ⟨active, actPending, deactPending, rest⟩ := f
  simp only [SlotFlags.pending, Bool.or_eq_false_iff] at idle
  obtain ⟨rfl, rfl⟩ := idle
  rfl

/-- A switch into packet mode that is given up leaves no trace on the timeslot. -/
theorem settle_beginPdchAct {t' : Timeslot} (begun : t.beginPdchAct? = some t') :
    { t' with flags := t'.flags.settle } = t := by
  obtain ⟨⟨-, idle⟩, rfl⟩ := beginPdchAct?_eq_some.mp begun
  have settled : t.flags.settle = t.flags := pending_settled idle
  exact congrArg (fun f => { t with flags := f }) settled

theorem settle_beginPdchDeact {t' : Timeslot} (begun : t.beginPdchDeact? = some t') :
    { t' with flags := t'.flags.settle } = t := by
  obtain ⟨⟨-, idle, -⟩, rfl⟩ := beginPdchDeact?_eq_some.mp begun
  have settled : t.flags.settle = t.flags := pending_settled idle
  exact congrArg (fun f => { t with flags := f }) settled

theorem settled_setLchan {t' : Timeslot} {ss : UInt8}
    (restored : { t' with flags := t'.flags.settle } = t) :
    { t'.setLchan ss l with flags := (t'.setLchan ss l).flags.settle } = t.setLchan ss l :=
  congrArg (·.setLchan ss l) restored

theorem chanTn_fullRate {tn : UInt8} (range : tn.toNat < 8) :
    chanTn (ChanKind.base .tchF ||| tn) = tn := by
  have every : ∀ i : Fin 256, i.val < 8 →
      chanTn (ChanKind.base .tchF ||| .ofFin i) = .ofFin i := by decide +kernel
  exact every tn.toFin range

theorem tn_lt_of_slot? {tn : UInt8} (slot : b.slot? trx tn = some t) : tn.toNat < 8 := by
  obtain ⟨c, -, slot⟩ := Option.bind_eq_some_iff.mp slot
  exact (Vector.getElem?_eq_some_iff.mp slot).1

section Switch

variable {tn : UInt8} {t' : Timeslot} (slot : b.slot? trx tn = some t)
include slot

/-- The full rate channel of the timeslot lies on the timeslot begun with. -/
theorem slot?_begun :
    (b.modifySlot trx tn fun _ => t').slot? trx (chanTn (ChanKind.base .tchF ||| tn)) =
      some t' := by
  rw [chanTn_fullRate (tn_lt_of_slot? slot), Bts.slot?_modifySlot, if_pos ⟨rfl, rfl⟩, slot]
  rfl

/-- A switch that is given up at once leaves all as it was. -/
theorem settled_begun (restored : { t' with flags := t'.flags.settle } = t) :
    settled trx tn (b.modifySlot trx tn fun _ => t') = b := by
  unfold settled
  rw [Bts.modifySlot_modifySlot]
  refine (Bts.modifySlot_congr fun k hk => ?_).trans Bts.modifySlot_same
  rw [slot, Option.some.injEq] at hk
  exact restored.trans hk

/-- A switch changes the timeslot, then its channel, and then the timeslot again. -/
theorem Change.switched {f : Timeslot → Timeslot} {toPdch : Bool}
    (same : t'.lchans = t.lchans)
    (found : (b.modifySlot trx tn fun _ => t').find? trx (ChanKind.base .tchF ||| tn) =
      some (id, l))
    (move : t.lchans[id.ss.toNat]? = some l → SlotMove id.ss t (f (t'.setLchan id.ss l'))) :
    Change site b (.pdchSwitch trx tn toPdch)
      (((b.modifySlot trx tn fun _ => t').setLchan id l').modifySlot trx tn f) := by
  have channels : ∀ j, (b.modifySlot trx tn fun _ => t').lchan? j = b.lchan? j :=
    fun j => lchan?_begun slot same
  obtain ⟨located, known⟩ := Bts.find?_eq_some.mp found
  rw [locate?_congr channels] at located
  rw [channels] at known
  obtain ⟨carrier, place⟩ := Bts.place_of_locate? located
  have switched : (b.modifySlot trx tn fun _ => t').slot? trx (chanTn _) = some t' :=
    slot?_begun slot
  rw [chanTn_fullRate (tn_lt_of_slot? slot)] at place switched
  have here : b.slot? id.trx id.tn = some t := by rw [carrier, place, slot]
  obtain ⟨t₀, slot₀, known⟩ := Bts.lchan?_eq_some.mp known
  rw [here, Option.some.injEq] at slot₀
  subst slot₀
  rw [← carrier, ← place] at switched ⊢
  rw [Bts.setLchan_eq_modifySlot switched, Bts.modifySlot_modifySlot, Bts.modifySlot_modifySlot]
  refine .moved rfl ?_ here (move known) fun _ => rfl
  rw [← located, ← carrier, ← place]
  exact congrArg (Option.bind · _) here

theorem Change.begun {toPdch : Bool} (same : t'.lchans = t.lchans)
    (found : (b.modifySlot trx tn fun _ => t').find? trx (ChanKind.base .tchF ||| tn) =
      some (id, l))
    (move : t.lchans[id.ss.toNat]? = some l → SlotMove id.ss t (t'.setLchan id.ss l')) :
    Change site b (.pdchSwitch trx tn toPdch)
      ((b.modifySlot trx tn fun _ => t').setLchan id l') := by
  rw [← Bts.modifySlot_same (b := (b.modifySlot trx tn fun _ => t').setLchan id l')]
  exact .switched slot same found move

end Switch

theorem PdchSwitchOutcome.change {tn : UInt8} {toPdch : Bool}
    (h : PdchSwitchOutcome site trx tn b toPdch r b' es) :
    Change site b (.pdchSwitch trx tn toPdch) b' := by
  cases h with
  | unknownTrx => exact .keep
  | refused => exact .keep
  | begun slot begun inner =>
    obtain ⟨-, bad⟩ | ⟨id, l, l', t₁, found, slot', asked, rfl⟩ := inner.left
    · exact absurd rfl bad
    · rw [slot?_begun slot, Option.some.injEq] at slot'
      subst slot'
      exact .begun slot (lchans_beginPdchAct begun) found fun known => .begun begun known asked
  | givenUp slot begun inner =>
    obtain ⟨rfl, -⟩ | ⟨id, l, l', t₁, found, slot', asked, rfl⟩ := inner.left
    -- the request found no channel, so giving up undoes all there is
    · rw [settled_begun slot (settle_beginPdchAct begun)]
      exact .keep
    · rw [slot?_begun slot, Option.some.injEq] at slot'
      subst slot'
      refine .switched slot (lchans_beginPdchAct begun) found fun known => ?_
      rw [settled_setLchan (settle_beginPdchAct begun)]
      exact .givenUp begun known asked
  | endBegun slot begun inner =>
    obtain ⟨-, bad⟩ | ⟨id, l, found, rfl⟩ := inner.left
    · exact absurd rfl bad
    · exact .begun slot (lchans_beginPdchDeact begun) found fun known => .endBegun begun known
  | endGivenUp slot begun inner =>
    obtain ⟨rfl, -⟩ | ⟨id, l, found, rfl⟩ := inner.left
    · rw [settled_begun slot (settle_beginPdchDeact begun)]
      exact .keep
    · refine .switched slot (lchans_beginPdchDeact begun) found fun known => ?_
      rw [settled_setLchan (settle_beginPdchDeact begun)]
      exact .record known goesOn_releasing

theorem StepOutcome.change (h : StepOutcome site b i r b' es) : Change site b i b' := by
  cases h with
  | time outcome => exact outcome.change
  | measured outcome => exact outcome.change
  | activateCnf outcome => exact outcome.change
  | deactivateCnf outcome => exact outcome.change
  | cipherCnf outcome => exact outcome.change
  | rts outcome => exact outcome.change
  | tchRts outcome => exact outcome.change
  | data outcome => exact outcome.change
  | tch outcome => exact outcome.change
  | rach outcome => exact outcome.change
  | chanAct outcome => exact outcome.change
  | chanRel outcome => exact outcome.change
  | chanDeactSacch outcome => exact outcome.change
  | pdchSwitch outcome => exact outcome.change
  | voiceRx known =>
    exact .record rfl (if_pos (Option.isSome_of_eq_some known)) known (goesOn_voiceReceived _)
  | _ => exact .keep

/-- What a turn does to the timeslots: all stay as they are, or one of them changes. -/
theorem Turn.Lawful.slotMove {t : Turn} (lawful : t.Lawful site) :
    t.after.carriers = t.before.carriers ∨
      ∃ (id : LchanId) (k k' : Timeslot), t.before.slot? id.trx id.tn = some k ∧
        SlotMove id.ss k k' ∧
        t.after.carriers = (t.before.modifySlot id.trx id.tn fun _ => k').carriers := by
  obtain ⟨before, m, r, es, after⟩ := t
  cases m with
  | input i outside =>
    have change : Change site before i after := StepOutcome.change lawful
    cases change with
    | counted => exact .inl rfl
    | time => exact .inl rfl
    | moved _ _ slot move => exact .inr ⟨_, _, _, slot, move, rfl⟩
  | write id x =>
    obtain ⟨-, written, -⟩ := lawful
    dsimp only at written ⊢
    rw [written]
    cases known : before.lchan? id with
    | none => exact .inl (by rw [Bts.modifyLchan_of_none known])
    | some l =>
      obtain ⟨k, slot, place⟩ := Bts.lchan?_eq_some.mp known
      rw [Bts.modifyLchan_eq_setLchan known, Bts.setLchan_eq_modifySlot slot]
      exact .inr ⟨id, k, _, slot, .record place (Write.goesOn x), rfl⟩

end Bridge
end BaseStation
