import BaseStation.Proofs.Bridge.Effect

/-!
What a step shows to a tap. A step is composed of a few elementary ones, and of these only those
that hand data down are seen by capture. A step that may hand data down leaves carriers and the
modes of their timeslots as they are, so that all of it is captured as it would have been at the
start; one that changes modes hands no data down.
-/

namespace BaseStation

/-! ### Carriers on the air -/

namespace Bts

/-- What a block on a carrier is captured with: the number of the carrier, and whether its timeslot
is in packet mode. -/
def onAir? (b : Bts) (trx n : UInt8) : Option (UInt16 × Bool) :=
  (b.carrier? trx).map fun c => (c.arfcn, (c.slotOf n).isPdch)

/-- The mode of a timeslot is not up to its channels. -/
theorem onAir?_modifyLchan (b : Bts) (id : LchanId) (f : Lchan → Lchan) (trx n : UInt8) :
    (b.modifyLchan id f).onAir? trx n = b.onAir? trx n := by
  unfold onAir? modifyLchan
  rw [carrier?_modifySlot]
  split
  · rw [Option.map_map]
    refine congrArg (Option.map · _) (funext fun c => ?_)
    rw [Function.comp_apply, Carrier.arfcn_modifySlot, Carrier.slotOf_modifySlot]
    split <;> rfl
  · rfl

end Bts

/-- The primitive hands a block of data down. -/
def Prim.isData : Prim → Bool
  | .phDataReq _ => true
  | _ => false

namespace Bridge

variable {σ φ α β : Type} {site : Site σ φ} {sends : Bool} {trx n : UInt8} {id : LchanId}

/-! ### Tapped steps -/

/-- Carriers and the modes of their timeslots stay as they are. -/
def KeepsAir (f : Bts → Bts) : Prop := ∀ b trx n, (f b).onAir? trx n = b.onAir? trx n

/-- A block is captured and transmitted. -/
def send (site : Site σ φ) (trx : UInt8) (d : PhData) : Step σ φ (Except PhyError Unit) := do
  modify (·.captureData site trx d false)
  transmit site trx (.phDataReq d)

/-- The step is composed of elementary ones, and what it captures are the blocks that it sends. It
looks at the base station alone, and sends blocks or changes what is on the air. -/
inductive Tapped (site : Site σ φ) (sends : Bool) : {α : Type} → Step σ φ α → Prop
  | done {α : Type} (a : α) : Tapped site sends (pure a)
  | bind {α β : Type} {m : Step σ φ α} {k : α → Step σ φ β} (hm : Tapped site sends m)
      (hk : ∀ a, Tapped site sends (k a)) : Tapped site sends (m >>= k)
  | look {α : Type} {k : World σ φ → Step σ φ α} (hk : ∀ w, Tapped site sends (k w))
      (seen : ∀ w w', w.bts = w'.bts → k w = k w') : Tapped site sends (get >>= k)
  | write {f : Bts → Bts} (keeps : sends = true → KeepsAir f) :
    Tapped site sends (modify (·.modifyBts f) : Step σ φ PUnit)
  | ask (c : Call) : Tapped site sends (Bridge.ask site c)
  | transmit (trx : UInt8) {p : Prim} (other : p.isData = false) :
    Tapped site sends (Bridge.transmit site trx p)
  | send (allowed : sends = true) (trx : UInt8) (d : PhData) :
    Tapped site sends (Bridge.send site trx d)
  | disconnect (trx tn : UInt8) : Tapped site sends (Bridge.disconnect site trx tn)

namespace Tapped

section Steps

theorem read {k : World σ φ → Step σ φ β} (h : ∀ w, Tapped site sends (k w))
    (seen : ∀ w w', w.bts = w'.bts → k w = k w') :
    Tapped site sends (get >>= k) := look h seen

theorem writeBts {f : Bts → Bts} :
    Tapped site false (modify (·.modifyBts f) : Step σ φ PUnit) := write fun sent => nomatch sent

theorem writeLchan {f : Lchan → Lchan} :
    Tapped site sends (modify (·.modifyLchan id f) : Step σ φ PUnit) :=
  write fun _ b => b.onAir?_modifyLchan id f

theorem modifyLchan {f : Lchan → Lchan} {k : PUnit → Step σ φ β} (h : Tapped site sends (k ⟨⟩)) :
    Tapped site sends (modify (·.modifyLchan id f) >>= k) := bind writeLchan fun _ => h

theorem tell (c : Call) : Tapped site sends (Bridge.tell site c) := bind (ask c) fun _ => done _

theorem told {c : Call} {k : Unit → Step σ φ β} (h : Tapped site sends (k ())) :
    Tapped site sends (Bridge.tell site c >>= k) := bind (tell c) fun _ => h

end Steps

section Acts

theorem succeed (a : β) : Tapped site sends (pure a : Act σ φ β) := done _

theorem failed (e : Failure) : Tapped site sends (throw e : Act σ φ β) := done _

theorem andThen {m : Act σ φ α} {k : α → Act σ φ β} (hm : Tapped site sends m)
    (hk : ∀ a, Tapped site sends (k a)) : Tapped site sends (m >>= k : Act σ φ β) := by
  refine bind (m := m) (k := ExceptT.bindCont k) hm ?_
  rintro (e | a)
  · exact done _
  · exact hk a

theorem lift {m : Step σ φ α} {k : α → Act σ φ β} (hm : Tapped site sends m)
    (hk : ∀ a, Tapped site sends (k a)) : Tapped site sends (liftM m >>= k : Act σ φ β) :=
  bind (k := k) hm hk

theorem lastLift {m : Step σ φ β} (hm : Tapped site sends m) :
    Tapped site sends (liftM m : Act σ φ β) := bind hm fun _ => done _

theorem actRead {k : World σ φ → Act σ φ β} (h : ∀ w, Tapped site sends (k w))
    (seen : ∀ w w', w.bts = w'.bts → k w = k w') :
    Tapped site sends (get >>= k : Act σ φ β) := look (k := k) h seen

theorem actModifyLchan {f : Lchan → Lchan} {k : PUnit → Act σ φ β} (h : Tapped site sends (k ⟨⟩)) :
    Tapped site sends (modify (·.modifyLchan id f) >>= k : Act σ φ β) := modifyLchan (k := k) h

theorem actModifyBts {f : Bts → Bts} {k : PUnit → Act σ φ β} (h : Tapped site false (k ⟨⟩)) :
    Tapped site false (modify (·.modifyBts f) >>= k : Act σ φ β) :=
  bind (k := k) writeBts fun _ => h

theorem actModifySlot {tn : UInt8} {f : Timeslot → Timeslot} {k : PUnit → Act σ φ β}
    (h : Tapped site false (k ⟨⟩)) :
    Tapped site false (modify (·.modifySlot trx tn f) >>= k : Act σ φ β) := actModifyBts h

theorem actTold {c : Call} {k : Unit → Act σ φ β} (h : Tapped site sends (k ())) :
    Tapped site sends (liftM (Bridge.tell site c) >>= k : Act σ φ β) := told (k := k) h

theorem actLast {m : Act σ φ β} (h : Tapped site sends (m >>= pure : Act σ φ β)) :
    Tapped site sends m := by
  rwa [bind_pure] at h

theorem caught {m : Act σ φ β} {h : Failure → Act σ φ β} (hm : Tapped site sends m)
    (handled : ∀ e, Tapped site sends (h e)) : Tapped site sends (tryCatch m h : Act σ φ β) := by
  change Tapped site sends (ExceptT.tryCatch m h)
  unfold ExceptT.tryCatch
  refine bind (m := m) hm ?_
  rintro (e | a)
  · exact handled e
  · exact done _

theorem needCarrier {k : Carrier → Act σ φ β} (h : ∀ c, Tapped site sends (k c)) :
    Tapped site sends (Bridge.needCarrier trx >>= k : Act σ φ β) := by
  refine andThen (actRead (fun w => ?_) fun _ _ same => by simp only [same]) h
  cases w.bts.carrier? trx with
  | none => exact failed _
  | some c => exact succeed c

theorem needLchan {k : LchanId × Lchan → Act σ φ β} (h : ∀ p, Tapped site sends (k p)) :
    Tapped site sends (Bridge.needLchan trx n >>= k : Act σ φ β) := by
  refine andThen (actRead (fun w => ?_) fun _ _ same => by simp only [same]) h
  cases w.bts.find? trx n with
  | none => exact failed _
  | some p => exact succeed p

end Acts
end Tapped

/-! ### Towards the radio -/

/-- A report on what the radio did not handle follows the order. -/
theorem Tapped.reported {p : Prim} {m : Step σ φ (Except PhyError Unit)}
    (h : Tapped site sends m) : Tapped site sends (do
      let r ← m
      match r with
      | .error (.unsupported what) => Bridge.tell site (.alarm (unsupportedAlarm trx p what))
      | _ => pure ()
      pure r) := by
  refine h.bind ?_
  rintro (e | _)
  · cases e with
    | unsupported what => exact .told (.done _)
    | _ => exact .done _
  · exact .done _

theorem handDown_tapped {p : Prim} (allowed : p.isData = true → sends = true) :
    Tapped site sends (handDown site trx p) := by
  unfold handDown
  cases p with
  | phDataReq d => exact .reported (.send (allowed rfl) trx d)
  | _ => exact .reported (.transmit trx rfl)

theorem down_tapped {p : Prim} (allowed : p.isData = true → sends = true) :
    Tapped site sends (down site trx p) := by
  refine .lift (handDown_tapped allowed) ?_
  rintro (e | _)
  · exact .failed _
  · exact .succeed _

/-! ### Channel control -/

theorem activateCnf_tapped (c : ActConfirm) : Tapped site false (activateCnf site trx c) := by
  unfold activateCnf
  refine .needCarrier fun k => .needLchan fun ⟨id, l⟩ => .actModifyLchan (.actModifySlot ?_)
  refine .actTold ?_
  split
  · exact .lastLift (.tell _)
  · exact .succeed _

theorem deactivateCnf_tapped (c : ActConfirm) : Tapped site false (deactivateCnf site trx c) := by
  unfold deactivateCnf
  refine .needCarrier fun k => .needLchan fun ⟨id, l⟩ => ?_
  dsimp only
  split
  · exact .succeed _
  · refine .actModifyLchan (.actModifySlot (.actTold ?_))
    split
    · exact .lift (.disconnect trx _) fun _ => .lastLift (.tell _)
    · exact .succeed _

theorem cipherCnf_tapped (c : CipherConfirm) :
    Tapped site sends (cipherCnf trx c : Act σ φ Unit) := by
  unfold cipherCnf
  exact .needCarrier fun _ => .needLchan fun _ => .actLast (.actModifyLchan (.succeed _))

theorem freeDtx_tapped (l : Lchan) : Tapped site sends (freeDtx site id l) := by
  unfold freeDtx
  refine .modifyLchan ?_
  split
  · exact .tell _
  · exact .done _

theorem Tapped.timersSet {kind : ChanKind} {type : LchanType} {k : Act σ φ β}
    (h : Tapped site sends k) : Tapped site sends (do
      match site.settings.t200.forKind? kind with
      | some t => if type ≠ .pdtch then Bridge.tell site (.setT200 id t) else pure ()
      | none => pure ()
      k : Act σ φ β) := by
  split
  · split
    · exact .actTold h
    · exact h
  · exact h

theorem chanAct_tapped (tsc : Option UInt8) : Tapped site sends (chanAct site trx n tsc) := by
  unfold chanAct
  split
  · exact .failed _
  · split
    · exact .failed _
    · refine .needCarrier fun k => .needLchan fun ⟨id, l⟩ => .actModifyLchan ?_
      refine .lift (freeDtx_tapped l) fun _ => .timersSet (.lift (handDown_tapped nofun) ?_)
      rintro (e | _)
      · exact .failed _
      · dsimp only
        split
        · exact .lift (.ask _) fun h => .actLast (.actModifyLchan (.succeed _))
        · exact .succeed _

theorem chanRel_tapped : Tapped site sends (chanRel site trx n) := by
  unfold chanRel
  exact .needCarrier fun _ => .needLchan fun ⟨id, l⟩ =>
    .actModifyLchan (.lift (freeDtx_tapped l) fun _ => down_tapped nofun)

theorem chanDeactSacch_tapped : Tapped site sends (chanDeactSacch site trx n) := by
  unfold chanDeactSacch
  exact .needCarrier fun _ => .needLchan fun _ => .actModifyLchan (down_tapped nofun)

theorem pdchSwitch_tapped (tn : UInt8) (toPdch : Bool) :
    Tapped site false (pdchSwitch site trx tn toPdch) := by
  unfold pdchSwitch
  refine .needCarrier fun _ => .actRead (fun w => ?_) fun _ _ same => by simp only [same]
  cases (w.bts.slot? trx tn).bind (·.beginSwitch? toPdch) with
  | none => exact .failed _
  | some t =>
    refine .actModifySlot (.caught ?_ fun e => .actModifySlot (.failed _))
    split
    · exact chanAct_tapped none
    · exact chanRel_tapped

/-! ### Opportunities -/

theorem sacchBlock_tapped (l : Lchan) : Tapped site sends (sacchBlock site id l) := by
  unfold sacchBlock
  refine .bind (.ask _) fun f => ?_
  cases f with
  | some f => exact .done _
  | none => exact .modifyLchan (.done _)

theorem mainBlock_tapped (kind : ChanKind) (l : Lchan) :
    Tapped site sends (mainBlock site kind n id l) := by
  unfold mainBlock
  refine .bind (.ask _) fun f => ?_
  cases f with
  | some f =>
    refine .modifyLchan ?_
    split
    · split
      · exact .told (.done _)
      · exact .done _
    · exact .done _
  | none =>
    dsimp only
    split <;> exact .done _

theorem dedicatedBlock_tapped (kind : ChanKind) (p : PhRts) :
    Tapped site sends (dedicatedBlock site trx kind p) := by
  unfold dedicatedBlock
  refine .read (fun w => ?_) fun _ _ same => by simp only [same]
  split
  · split
    · exact .bind (sacchBlock_tapped _) fun _ => .done _
    · exact mainBlock_tapped kind _
  · exact .done _

theorem circuitBlock_tapped (kind : ChanKind) (p : PhRts) :
    Tapped site sends (circuitBlock site trx kind p) := by
  unfold circuitBlock
  cases kind with
  | bcch | pchAgch => exact .bind (.ask _) fun _ => .done _
  | rach | pdch => exact .done _
  | _ => exact dedicatedBlock_tapped _ p

theorem circuitRts_tapped (kind : ChanKind) (p : PhRts) :
    Tapped site true (circuitRts site trx kind p) := by
  unfold circuitRts
  refine .lift (circuitBlock_tapped kind p) ?_
  rintro ⟨f, _ | c⟩
  · exact down_tapped fun _ => rfl
  · exact .lift (handDown_tapped nofun) fun _ => down_tapped fun _ => rfl

theorem packetRts_tapped (arfcn : UInt16) (p : PhRts) :
    Tapped site true (packetRts site trx arfcn p) := by
  unfold packetRts
  refine .actRead (fun w => ?_) fun _ _ same => by simp only [same]
  split
  · exact .actModifyLchan (down_tapped fun _ => rfl)
  · exact .lastLift (.tell _)

theorem rtsInd_tapped (p : PhRts) : Tapped site true (rtsInd site trx p) := by
  unfold rtsInd
  split
  · exact .failed _
  · refine .actRead (fun w => ?_) fun _ _ same => by simp only [same]
    split
    · exact .failed _
    · split
      · exact packetRts_tapped _ p
      · exact circuitRts_tapped _ p

/-- What `voiceBlock` does once the voice transport is polled. -/
theorem voiceTaken_tapped (l : Lchan) : Tapped site sends (do
    modify (·.modifyLchan id ({ · with queue := l.queue.pop.2, pendingRelInd := none }))
    match l.pendingRelInd with
    | some msg => tell site (.releaseIndication id msg)
    | none => pure ()
    pure l.queue.pop.1) := by
  refine .modifyLchan ?_
  cases l.pendingRelInd with
  | none => exact .done _
  | some msg => exact .told (.done _)

theorem voiceBlock_tapped (l : Lchan) : Tapped site sends (voiceBlock site id l) := by
  unfold voiceBlock
  cases !l.loopback && l.hasRtp with
  | false => exact voiceTaken_tapped l
  | true =>
    refine .told ?_
    exact .told (voiceTaken_tapped l)

theorem tchRtsInd_tapped (p : TchRts) : Tapped site sends (tchRtsInd site trx p) := by
  unfold tchRtsInd
  refine .needCarrier fun _ => .actRead (fun w => ?_) fun _ _ same => by simp only [same]
  split
  · exact .lift (voiceBlock_tapped _) fun f => down_tapped (by cases f <;> exact nofun)
  · exact down_tapped nofun

/-! ### Receptions -/

theorem superviseLink_tapped (bad : Bool) : Tapped site sends (superviseLink site id bad) := by
  unfold superviseLink
  refine .read (fun w => ?_) fun _ _ same => by simp only [same]
  split
  · refine .modifyLchan ?_
    split
    · exact .tell _
    · exact .done _
  · exact .done _

theorem completeHandover_tapped (l : Lchan) : Tapped site sends (completeHandover site id l) := by
  unfold completeHandover
  split
  · exact .told (.writeLchan)
  · exact .done _

theorem takeL1Header_tapped (rssi : Int8) (header : List UInt8) :
    Tapped site sends (takeL1Header site id rssi header) := by
  unfold takeL1Header
  refine .read (fun w => ?_) fun _ _ same => by simp only [same]
  split
  · refine .modifyLchan ?_
    split
    · refine .bind (.ask _) fun level => ?_
      split
      · exact .writeLchan
      · exact .done _
    · exact .done _
  · exact .done _

theorem deliver_tapped (d : PhData) : Tapped site sends (deliver site trx id d) := by
  unfold deliver
  refine .read (fun w => ?_) fun _ _ same => by simp only [same]
  cases w.bts.lchan? id with
  | none => exact .tell _
  | some l =>
    refine .modifyLchan ?_
    split
    · exact .bind (handDown_tapped nofun) fun _ => .tell _
    · exact .tell _

theorem sacchDataInd_tapped (d : PhData) : Tapped site sends (sacchDataInd site trx id d) := by
  unfold sacchDataInd
  refine .lift (superviseLink_tapped false) fun _ => ?_
  split
  · exact .failed _
  · exact .lift (takeL1Header_tapped d.rssi _) fun _ => .lastLift (deliver_tapped _)

theorem packetDataInd_tapped (arfcn : UInt16) (d : PhData) :
    Tapped site sends (packetDataInd site trx arfcn d) := by
  unfold packetDataInd
  refine .actRead (fun w => ?_) fun _ _ same => by simp only [same]
  split
  · exact .actLast (.actModifyLchan (.succeed _))
  · split
    · exact .failed _
    · dsimp only
      split
      · exact .succeed _
      · exact .lastLift (.tell _)

theorem circuitDataInd_tapped (d : PhData) : Tapped site sends (circuitDataInd site trx d) := by
  unfold circuitDataInd
  refine .actRead (fun w => ?_) fun _ _ same => by simp only [same]
  split
  · split
    · split
      · exact .lift (superviseLink_tapped true) fun _ => .failed _
      · exact .failed _
    · refine .lift (completeHandover_tapped _) fun _ => ?_
      split
      · exact sacchDataInd_tapped d
      · exact .lastLift (deliver_tapped d)
  · exact .succeed _

theorem dataInd_tapped (d : PhData) : Tapped site sends (dataInd site trx d) := by
  unfold dataInd
  refine .needCarrier fun c => ?_
  split
  · exact packetDataInd_tapped _ d
  · exact circuitDataInd_tapped d

theorem tchInd_tapped (t : TchData) : Tapped site sends (tchInd site trx t) := by
  unfold tchInd
  refine .needCarrier fun _ => .actRead (fun w => ?_) fun _ _ same => by simp only [same]
  cases w.bts.findActive? trx t.chanNr with
  | none => exact .succeed _
  | some f =>
    have kept : Tapped site sends
        (if f.2.loopback then
          modify (·.modifyLchan f.1 ({ · with
            queue := (f.2.queue.push (.looped ((t.frame.map Frame.l2).getD []))).1 }))
        else modify (·.modifyLchan f.1 ({ · with txMarker := false, lastFn := some t.fn })) :
          Act σ φ Unit) := by
      split
      · exact .actLast (.actModifyLchan (.succeed _))
      · exact .actLast (.actModifyLchan (.succeed _))
    dsimp only
    split
    · exact .actTold kept
    · exact kept

theorem measInd_tapped (m : Measured) : Tapped site sends (measInd site trx m) := by
  unfold measInd
  refine .needCarrier fun _ => .actRead (fun w => ?_) fun _ _ same => by simp only [same]
  split
  · split
    · exact .succeed _
    · exact .lift (.ask _) fun meas => .actLast (.actModifyLchan (.succeed _))
  · exact .succeed _

theorem timeInd_tapped (fn : UInt32) : Tapped site false (timeInd site trx fn) := by
  unfold timeInd
  split
  · exact .failed _
  · refine .actRead (fun w => ?_) fun _ _ same => by simp only [same]
    exact .actModifyBts (.actTold (.actLast (.actModifyBts (.succeed _))))

theorem Tapped.busyCounted {p : PhRach} {k : PUnit → Act σ φ β} (h : Tapped site false (k ⟨⟩)) :
    Tapped site false (modify (·.countBusy p) >>= k : Act σ φ β) := by
  unfold World.countBusy
  split
  · exact .actModifyBts h
  · exact .actModifyBts (f := id) h

theorem handoverAccess_tapped (p : PhRach) (j? : Option LchanId) :
    Tapped site sends (handoverAccess site p j?) := by
  cases j? with
  | none => exact .failed _
  | some id =>
    refine .lift (.ask _) fun taken => ?_
    split
    · exact .actLast (.actModifyLchan (.succeed _))
    · exact .succeed _

theorem Tapped.delayStored {p : PhRach} {j? : Option LchanId} {k : Act σ φ β}
    (h : Tapped site sends k) : Tapped site sends (do
      match j? with
      | some id => modify (·.storeDelay id p)
      | none => pure ()
      k : Act σ φ β) := by
  cases j? with
  | none => exact h
  | some id => exact .actModifyLchan h

theorem rachInd_tapped (p : PhRach) : Tapped site false (rachInd site trx p) := by
  unfold rachInd
  refine .busyCounted ?_
  cases p.route trx site.settings.maxTa with
  | discard => exact .succeed _
  | handover =>
    refine .needCarrier fun _ => .actRead (fun w => ?_) fun _ _ same => by simp only [same]
    exact .delayStored (handoverAccess_tapped p _)
  | pcu =>
    refine .needCarrier fun _ => .actRead (fun w => ?_) fun _ _ same => by simp only [same]
    exact .delayStored (.actModifyBts (.lastLift (.tell _)))
  | linkLayer =>
    refine .needCarrier fun _ => .actRead (fun w => ?_) fun _ _ same => by simp only [same]
    exact .delayStored (.actModifyBts (.lastLift (.tell _)))

/-! ### All inputs -/

/-- The input brings a block or an access burst, which is captured before anything else. -/
def Input.isHeard : Input → Bool
  | .up _ (.phDataInd _) | .up _ (.phRachInd _) => true
  | _ => false

theorem Input.isHeard_iff {i : Input} : i.isHeard = true ↔
    (∃ trx d, i = .up trx (.phDataInd d)) ∨ ∃ trx p, i = .up trx (.phRachInd p) := by
  unfold isHeard
  split
  · exact iff_of_true rfl (.inl ⟨_, _, rfl⟩)
  · exact iff_of_true rfl (.inr ⟨_, _, rfl⟩)
  · rename_i data burst
    refine iff_of_false Bool.false_ne_true ?_
    rintro (⟨trx, d, same⟩ | ⟨trx, p, same⟩)
    · exact data trx d same
    · exact burst trx p same

theorem up_tapped (p : Prim) (unheard : (Input.up trx p).isHeard = false) :
    ∃ sends, Tapped site sends (up site trx p) := by
  unfold up
  split
  · exact ⟨_, timeInd_tapped _⟩
  · exact ⟨false, measInd_tapped _⟩
  · exact ⟨_, activateCnf_tapped _⟩
  · exact ⟨_, deactivateCnf_tapped _⟩
  · exact ⟨false, cipherCnf_tapped _⟩
  · exact ⟨false, .succeed _⟩
  · exact ⟨false, .succeed _⟩
  · exact ⟨_, rtsInd_tapped _⟩
  · exact ⟨false, tchRtsInd_tapped _⟩
  · cases unheard
  · exact ⟨false, tchInd_tapped _⟩
  · cases unheard
  · exact ⟨false, .actTold (.failed _)⟩
  · exact ⟨false, .actTold (.failed _)⟩
  · exact ⟨false, .actTold (.failed _)⟩

/-- What an input that brings nothing over the air captures are the blocks that it sends. -/
theorem perform_tapped (site : Site σ φ) (i : Input) (unheard : i.isHeard = false) :
    ∃ sends, Tapped site sends (perform site i) := by
  cases i with
  | up trx p => exact up_tapped p unheard
  | down trx p => exact ⟨true, down_tapped fun _ => rfl⟩
  | chanAct trx n tsc => exact ⟨false, chanAct_tapped tsc⟩
  | chanRel trx n => exact ⟨false, chanRel_tapped⟩
  | chanDeactSacch trx n => exact ⟨false, chanDeactSacch_tapped⟩
  | chanModify trx n => exact ⟨false, down_tapped nofun⟩
  | pdchSwitch trx tn toPdch => exact ⟨_, pdchSwitch_tapped tn toPdch⟩
  | packetReq r => exact ⟨true, down_tapped fun _ => rfl⟩
  | voiceRx id f => exact ⟨false, .actLast (.actModifyLchan (.succeed _))⟩

end Bridge
end BaseStation
