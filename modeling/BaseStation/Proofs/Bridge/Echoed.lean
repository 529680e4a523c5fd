import BaseStation.Proofs.Bridge.Echo

/-!
The handlers side by side on two numbers of one frame. Where a handler reduces the number or reads a
place in a multiframe off it, the two numbers give the same; where it passes the number on, each
side passes on its own.
-/

namespace BaseStation.Bridge

variable {σ φ β : Type} {site : Site σ φ} {g : TwoNumbers} {trx tn n : UInt8} {id : LchanId}
  {l : Lchan} {last : Option UInt32}

/-! ### Confirms -/

theorem activateCnf_echo (c : ActConfirm) :
    Echoes site g (activateCnf site trx c) (activateCnf site trx c) := by
  unfold activateCnf
  refine .needCarrier fun k k' carriers => .needLchan fun id l last _ => ?_
  have slots := Carrier.slotOf_congr carriers c.chanNr
  dsimp only
  rw [(afterActivation_congr slots l.type (c.cause == 0)).2]
  refine .actWrite (keeps_others fun _ => rfl) (.actWrite
    (keeps_slot fun _ _ same => (afterActivation_congr same l.type (c.cause == 0)).1)
    (.actTold (answers_echo ⟨rfl, rfl⟩) ?_))
  split
  · exact .actLast (.actTold (answers_echo ⟨rfl, rfl⟩) .succeed)
  · exact .succeed

theorem deactivateCnf_echo (c : ActConfirm) :
    Echoes site g (deactivateCnf site trx c) (deactivateCnf site trx c) := by
  unfold deactivateCnf
  refine .needCarrier fun k k' carriers => .needLchan fun id l last _ => ?_
  dsimp only
  rw [(afterRelease_congr (Carrier.slotOf_congr carriers c.chanNr)).2]
  split
  · exact .succeed
  · refine .actWrite (keeps_others fun _ => rfl) (.actWrite
      (keeps_slot fun _ _ same => (afterRelease_congr same).1)
      (.actTold (answers_echo ⟨rfl, rfl⟩) ?_))
    split
    · exact .lift disconnect_echo fun _ =>
        .actLast (.actTold (answers_echo ⟨rfl, rfl⟩) .succeed)
    · exact .succeed

theorem cipherCnf_echo (c : CipherConfirm) :
    Echoes site g (cipherCnf trx c : Act σ φ Unit) (cipherCnf trx c) := by
  unfold cipherCnf
  exact .needCarrier fun _ _ _ => .needLchan fun _ _ _ _ =>
    .actLast (.actWrite (keeps_lchan fun _ _ same => (Lchan.confirmCipher_congr same c).1) .succeed)

/-! ### Requests -/

theorem freeDtx_echo (l : Lchan) (last : Option UInt32) :
    Echoes site g (freeDtx site id l) (freeDtx site id { l with lastFn := last }) := by
  unfold freeDtx
  refine .write (keeps_others fun _ => rfl) ?_
  dsimp only
  split
  · exact .last (.told (answers_echo ⟨rfl, rfl⟩) .done)
  · exact .done

theorem chanAct_echo (tsc : Option UInt8) :
    Echoes site g (chanAct site trx n tsc) (chanAct site trx n tsc) := by
  unfold chanAct
  split
  · exact .failed
  · split
    · exact .failed
    · refine .needCarrier fun k k' carriers => ?_
      have slots := Carrier.slotOf_congr carriers n
      dsimp only
      rw [Timeslot.isPdch_congr slots, Timeslot.flags_congr slots]
      refine .needLchan fun id l last _ => .actWrite (keeps_others fun _ => rfl) ?_
      refine .lift (freeDtx_echo l last) fun _ =>
        .timersSet (fun _ => answers_echo ⟨rfl, rfl⟩) (.lift (handDown_echo ⟨rfl, rfl⟩) ?_)
      rintro (e | _)
      · exact .failed
      · dsimp only
        split
        · exact .actAsked (answers_echo ⟨rfl, rfl⟩) fun _ =>
            .actLast (.actWrite (keeps_others fun _ => rfl) .succeed)
        · exact .succeed

theorem chanRel_echo : Echoes site g (chanRel site trx n) (chanRel site trx n) := by
  unfold chanRel
  exact .needCarrier fun _ _ _ => .needLchan fun id l last _ =>
    .actWrite (keeps_others fun _ => rfl)
      (.lift (freeDtx_echo l last) fun _ => down_echo ⟨rfl, rfl⟩)

theorem chanDeactSacch_echo :
    Echoes site g (chanDeactSacch site trx n) (chanDeactSacch site trx n) := by
  unfold chanDeactSacch
  exact .needCarrier fun _ _ _ => .needLchan fun _ _ _ _ =>
    .actWrite (keeps_others fun _ => rfl) (down_echo ⟨rfl, rfl⟩)

theorem pdchSwitch_echo (toPdch : Bool) :
    Echoes site g (pdchSwitch site trx tn toPdch) (pdchSwitch site trx tn toPdch) := by
  unfold pdchSwitch
  refine .needCarrier fun _ _ _ => .actRead fun w w' same => ?_
  obtain ⟨left, right⟩ | ⟨t, t', left, right, slots⟩ :=
    map_eq_map_cases (same.bts.beginSwitch? trx tn toPdch)
  · rw [left, right]
    exact .failed
  · rw [left, right]
    have inner : Echoes site g
        (if toPdch then chanAct site trx (ChanKind.base .tchF ||| tn) none
          else chanRel site trx (ChanKind.base .tchF ||| tn))
        (if toPdch then chanAct site trx (ChanKind.base .tchF ||| tn) none
          else chanRel site trx (ChanKind.base .tchF ||| tn)) := by
      split
      · exact chanAct_echo none
      · exact chanRel_echo
    exact .actWrite (keeps_slot fun _ _ _ => slots) (.caught inner fun _ =>
      .actWrite (keeps_slot fun _ _ same => Timeslot.reduced_settle same) .failed)

/-! ### Opportunities -/

theorem sacchBlock_echo (l : Lchan) (last : Option UInt32) :
    Echoes site g (sacchBlock site id l) (sacchBlock site id { l with lastFn := last }) := by
  unfold sacchBlock
  refine .asked (answers_echo ⟨rfl, rfl⟩) fun f => ?_
  cases f with
  | some f => exact .done
  | none => exact .write (keeps_others fun _ => rfl) .done

theorem mainBlock_echo (kind : ChanKind) (frames : SameLast l.lastFn last) :
    Echoes site g (mainBlock site kind n id l)
      (mainBlock site kind n id { l with lastFn := last }) := by
  unfold mainBlock
  refine .asked (answers_echo ⟨rfl, rfl⟩) fun f => ?_
  cases f with
  | some f =>
    obtain ⟨checked, request⟩ := Lchan.checkDownlink_congr (Lchan.reduced_last frames) n f.octets
    dsimp only
    rw [request]
    refine .write (keeps_lchan fun _ _ _ => checked) ?_
    split
    · split
      · exact .told (answers_echo ⟨rfl, rfl⟩) .done
      · exact .done
    · exact .done
  | none =>
    dsimp only
    split <;> exact .done

/-- What `voiceBlock` does once the voice transport is polled. -/
theorem voiceTaken_echo (l : Lchan) : Echoes site g (do
    modify (·.modifyLchan id ({ · with queue := l.queue.pop.2, pendingRelInd := none }))
    match l.pendingRelInd with
    | some msg => tell site (.releaseIndication id msg)
    | none => pure ()
    pure l.queue.pop.1) (do
    modify (·.modifyLchan id ({ · with queue := l.queue.pop.2, pendingRelInd := none }))
    match l.pendingRelInd with
    | some msg => tell site (.releaseIndication id msg)
    | none => pure ()
    pure l.queue.pop.1) := by
  refine .write (keeps_others fun _ => rfl) ?_
  cases l.pendingRelInd with
  | none => exact .done
  | some msg => exact .told (answers_echo ⟨rfl, rfl⟩) .done

theorem voiceBlock_echo (l : Lchan) (last : Option UInt32) :
    Echoes site g (voiceBlock site id l) (voiceBlock site id { l with lastFn := last }) := by
  unfold voiceBlock
  dsimp only
  cases !l.loopback && l.hasRtp with
  | false => exact voiceTaken_echo l
  | true =>
    refine .told (answers_echo ⟨rfl, rfl⟩) ?_
    exact .told (answers_echo ⟨rfl, rfl⟩) (voiceTaken_echo l)

theorem loopedBlock_congr (q : VoiceQueue) : loopedBlock q g.left = loopedBlock q g.right := by
  unfold loopedBlock
  rw [g.same.isPtcch]

theorem isAgchFrame_congr (site : Site σ φ) (g : TwoNumbers) :
    isAgchFrame site g.left = isAgchFrame site g.right := by
  unfold isAgchFrame
  rw [g.same.ccchBlock?]

section Opportunities

variable (p : PhRts)

theorem packetRts_echo (arfcn : UInt16) :
    Echoes site g (packetRts site trx arfcn { p with fn := g.left })
      (packetRts site trx arfcn { p with fn := g.right }) := by
  unfold packetRts
  refine .actRead fun w w' same => ?_
  obtain ⟨left, right⟩ | ⟨id, l, last, left, right, -⟩ :=
    (same.bts.findActive? trx p.chanNr).filter (·.2.loopback) fun _ _ _ => rfl
  · dsimp only
    rw [left, right, g.same.packetBlock]
    exact .actLast (.actTold (answers_echo ⟨rfl, rfl⟩) .succeed)
  · dsimp only
    rw [left, right]
    dsimp only
    rw [loopedBlock_congr l.queue]
    exact .actWrite (keeps_others fun _ => rfl) (down_echo ⟨rfl, rfl⟩)

theorem dedicatedBlock_echo (kind : ChanKind) :
    Echoes site g (dedicatedBlock site trx kind { p with fn := g.left })
      (dedicatedBlock site trx kind { p with fn := g.right }) := by
  unfold dedicatedBlock
  refine .read fun w w' same => ?_
  obtain ⟨left, right⟩ | ⟨id, l, last, left, right, frames⟩ := same.bts.findActive? trx p.chanNr
  · dsimp only
    rw [left, right]
    exact .done
  · dsimp only
    rw [left, right]
    dsimp only
    split
    · exact .bind (sacchBlock_echo l last) fun _ => .done
    · exact mainBlock_echo kind frames

theorem circuitBlock_echo (kind : ChanKind) :
    Echoes site g (circuitBlock site trx kind { p with fn := g.left })
      (circuitBlock site trx kind { p with fn := g.right }) := by
  unfold circuitBlock
  dsimp only
  rw [g.same.ofFrame, isAgchFrame_congr site g]
  cases kind with
  | bcch => exact .asked (answers_echo ⟨rfl, rfl⟩) fun _ => .done
  | pchAgch => exact .asked (answers_echo ⟨rfl, rfl⟩) fun _ => .done
  | rach => exact .done
  | pdch => exact .done
  | _ => exact dedicatedBlock_echo p _

theorem circuitRts_echo (kind : ChanKind) :
    Echoes site g (circuitRts site trx kind { p with fn := g.left })
      (circuitRts site trx kind { p with fn := g.right }) := by
  unfold circuitRts
  refine .lift (circuitBlock_echo p kind) ?_
  rintro ⟨f, _ | c⟩
  · exact down_echo ⟨rfl, rfl⟩
  · exact .lift (handDown_echo ⟨rfl, rfl⟩) fun _ => down_echo ⟨rfl, rfl⟩

theorem rtsInd_echo : Echoes site g (rtsInd site trx { p with fn := g.left })
    (rtsInd site trx { p with fn := g.right }) := by
  unfold rtsInd
  dsimp only
  cases ChanAddr.decode p.chanNr with
  | error e => exact .failed
  | ok a =>
    refine .actRead fun w w' same => ?_
    obtain ⟨left, right⟩ | ⟨c, c', left, right, carriers⟩ := same.bts.carrier? trx
    · rw [left, right]
      exact .failed
    · rw [left, right]
      dsimp only
      rw [Carrier.arfcn_congr carriers, Timeslot.isPdch_congr (Carrier.slotOf_congr carriers _)]
      split
      · exact packetRts_echo p c'.arfcn
      · exact circuitRts_echo p a.kind

theorem voiceRequest_echo (q : TchRts) (f? : Option VoiceFrame) :
    Echo Prim.atFrame g (voiceRequest { q with fn := g.left } f?)
      (voiceRequest { q with fn := g.right } f?) := by
  cases f? <;> exact ⟨rfl, rfl⟩

theorem tchRtsInd_echo (q : TchRts) : Echoes site g (tchRtsInd site trx { q with fn := g.left })
    (tchRtsInd site trx { q with fn := g.right }) := by
  unfold tchRtsInd
  refine .needCarrier fun _ _ _ => .actRead fun w w' same => ?_
  obtain ⟨left, right⟩ | ⟨id, l, last, left, right, -⟩ := same.bts.findActive? trx q.chanNr
  · dsimp only
    rw [left, right]
    exact down_echo (voiceRequest_echo q none)
  · dsimp only
    rw [left, right]
    exact .lift (voiceBlock_echo l last) fun f => down_echo (voiceRequest_echo q f)

end Opportunities

/-! ### Receptions -/

theorem superviseLink_echo (bad : Bool) :
    Echoes site g (superviseLink site id bad) (superviseLink site id bad) := by
  unfold superviseLink
  refine .read fun w w' same => ?_
  obtain ⟨left, right⟩ | ⟨l, last, left, right, frames⟩ := same.bts.lchan? id
  · rw [left, right]
    exact .done
  · obtain ⟨supervised, cause⟩ := Lchan.onSacchFrame_congr (Lchan.reduced_last frames)
      site.settings.radioLinkTimeout bad
    rw [left, right]
    dsimp only
    rw [cause]
    refine .write (keeps_lchan fun _ _ _ => supervised) ?_
    split
    · exact .last (.told (answers_echo ⟨rfl, rfl⟩) .done)
    · exact .done

theorem completeHandover_echo (l : Lchan) (last : Option UInt32) :
    Echoes site g (completeHandover site id l)
      (completeHandover site id { l with lastFn := last }) := by
  unfold completeHandover
  dsimp only
  split
  · exact .told (answers_echo ⟨rfl, rfl⟩) (.last (.write (keeps_others fun _ => rfl) .done))
  · exact .done

theorem takeL1Header_echo (rssi : Int8) (header : List UInt8) :
    Echoes site g (takeL1Header site id rssi header) (takeL1Header site id rssi header) := by
  unfold takeL1Header
  refine .read fun w w' same => ?_
  obtain ⟨left, right⟩ | ⟨l, last, left, right, -⟩ := same.bts.lchan? id
  · rw [left, right]
    exact .done
  · rw [left, right]
    refine .write (keeps_others fun _ => rfl) ?_
    dsimp only
    split
    · refine .asked (answers_echo ⟨rfl, rfl⟩) fun level => ?_
      cases level with
      | none => exact .done
      | some level => exact .last (.write (keeps_others fun _ => rfl) .done)
    · exact .done

section Data

variable (d : PhData)

theorem deliver_echo : Echoes site g (deliver site trx id { d with fn := g.left })
    (deliver site trx id { d with fn := g.right }) := by
  unfold deliver
  refine .read fun w w' same => ?_
  obtain ⟨left, right⟩ | ⟨l, last, left, right, frames⟩ := same.bts.lchan? id
  · rw [left, right]
    exact .last (.told (answers_echo ⟨rfl, rfl⟩) .done)
  · obtain ⟨checked, request⟩ := Lchan.checkUplink_congr (Lchan.reduced_last frames) d.chanNr
      d.frame.l2
    rw [left, right]
    dsimp only
    rw [request]
    refine .write (keeps_lchan fun _ _ _ => checked) ?_
    split
    · exact .bind (handDown_echo ⟨rfl, rfl⟩) fun _ =>
        .last (.told (answers_echo ⟨rfl, rfl⟩) .done)
    · exact .last (.told (answers_echo ⟨rfl, rfl⟩) .done)

theorem sacchDataInd_echo : Echoes site g (sacchDataInd site trx id { d with fn := g.left })
    (sacchDataInd site trx id { d with fn := g.right }) := by
  unfold sacchDataInd
  refine .lift (superviseLink_echo false) fun _ => ?_
  dsimp only
  split
  · exact .failed
  · exact .lift (takeL1Header_echo d.rssi _) fun _ =>
      .lastLift (deliver_echo { d with frame := d.frame.setL1Length sacchHeaderLength })

theorem packetDataInd_echo (arfcn : UInt16) :
    Echoes site g (packetDataInd site trx arfcn { d with fn := g.left })
      (packetDataInd site trx arfcn { d with fn := g.right }) := by
  unfold packetDataInd
  refine .actRead fun w w' same => ?_
  obtain ⟨left, right⟩ | ⟨id, l, last, left, right, -⟩ :=
    (same.bts.find? trx d.chanNr).filter (·.2.loopback) fun _ _ _ => rfl
  · dsimp only
    rw [left, right, g.same.packetBlock]
    dsimp only
    split
    · exact .failed
    · split
      · exact .succeed
      · exact .actLast (.actTold (answers_echo ⟨rfl, rfl⟩) .succeed)
  · dsimp only
    rw [left, right]
    exact .actLast (.actWrite (keeps_others fun _ => rfl) .succeed)

theorem circuitDataInd_echo : Echoes site g (circuitDataInd site trx { d with fn := g.left })
    (circuitDataInd site trx { d with fn := g.right }) := by
  unfold circuitDataInd
  refine .actRead fun w w' same => ?_
  obtain ⟨left, right⟩ | ⟨id, l, last, left, right, -⟩ := same.bts.findActive? trx d.chanNr
  · dsimp only
    rw [left, right]
    exact .succeed
  · dsimp only
    rw [left, right]
    dsimp only
    split
    · split
      · exact .lift (superviseLink_echo true) fun _ => .failed
      · exact .failed
    · refine .lift (completeHandover_echo l last) fun _ => ?_
      split
      · exact sacchDataInd_echo d
      · exact .lastLift (deliver_echo d)

theorem dataInd_echo : Echoes site g (dataInd site trx { d with fn := g.left })
    (dataInd site trx { d with fn := g.right }) := by
  unfold dataInd
  refine .needCarrier fun c c' carriers => ?_
  dsimp only
  rw [Carrier.arfcn_congr carriers, Timeslot.isPdch_congr (Carrier.slotOf_congr carriers _)]
  split
  · exact packetDataInd_echo d c'.arfcn
  · exact circuitDataInd_echo d

end Data

/-- The number of a voice frame is kept as it is, on each side its own. -/
theorem keeps_lastFn : (echoes site g).Keeps
    (·.modifyLchan id ({ · with txMarker := false, lastFn := some g.left }))
    (·.modifyLchan id ({ · with txMarker := false, lastFn := some g.right })) := by
  refine keeps_lchan fun l l' same => ?_
  rw [(Lchan.eq_of_reduced same).2]
  simp [Lchan.reduced, sameFrame_iff.mp g.same]

theorem tchInd_echo (t : TchData) : Echoes site g (tchInd site trx { t with fn := g.left })
    (tchInd site trx { t with fn := g.right }) := by
  unfold tchInd
  refine .needCarrier fun _ _ _ => .actRead fun w w' same => ?_
  obtain ⟨left, right⟩ | ⟨id, l, last, left, right, frames⟩ := same.bts.findActive? trx t.chanNr
  · dsimp only
    rw [left, right]
    exact .succeed
  · have kept : Echoes site g
        (if l.loopback then
          modify (·.modifyLchan id ({ · with
            queue := (l.queue.push (.looped ((t.frame.map Frame.l2).getD []))).1 }))
        else modify (·.modifyLchan id ({ · with txMarker := false, lastFn := some g.left })) :
          Act σ φ Unit)
        (if l.loopback then
          modify (·.modifyLchan id ({ · with
            queue := (l.queue.push (.looped ((t.frame.map Frame.l2).getD []))).1 }))
        else modify (·.modifyLchan id ({ · with txMarker := false, lastFn := some g.right })) :
          Act σ φ Unit) := by
      split
      · exact .actLast (.actWrite (keeps_others fun _ => rfl) .succeed)
      · exact .actLast (.actWrite keeps_lastFn .succeed)
    dsimp only
    rw [left, right]
    dsimp only
    rw [g.same.voiceDuration frames]
    split
    · exact .actTold (answers_echo ⟨rfl, rfl⟩) kept
    · exact kept

/-! ### Measurements and time -/

theorem measInd_echo (m : Measured) : Echoes site g (measInd site trx { m with fn := g.left })
    (measInd site trx { m with fn := g.right }) := by
  unfold measInd
  refine .needCarrier fun _ _ _ => .actRead fun w w' same => ?_
  obtain ⟨left, right⟩ | ⟨id, l, last, left, right, -⟩ := same.bts.findActive? trx m.chanNr
  · dsimp only
    rw [left, right]
    exact .succeed
  · dsimp only
    rw [left, right]
    dsimp only
    split
    · exact .succeed
    · refine .actAskedAt (answers_echo ⟨rfl, rfl⟩) fun meas meas' answered => ?_
      cases answered
      exact .actLast (.actWrite (keeps_others fun _ => rfl) .succeed)

theorem timeInd_echo : Echoes site g (timeInd site trx g.left) (timeInd site trx g.right) := by
  unfold timeInd
  split
  · exact .failed
  · refine .actRead fun w w' same => ?_
    have time : w.bts.time = w'.bts.time := same.bts.time
    dsimp only
    rw [time, g.same.ofFrame, g.same.expiredSlots, frameDiff_congr g.same rfl]
    generalize expiredSlots site.settings.ccchConf g.right.toNat * _ = slots
    exact .actWrite (keeps_bts fun _ _ same => same.withTime _) (.actTold
      (answers_echo ⟨rfl, rfl⟩) (.actLast
        (.actWrite (keeps_load fun r => { r with total := r.total + slots }) .succeed)))

/-! ### Access bursts -/

section Bursts

variable (p : PhRach)

theorem keeps_busy : (echoes site g).Keeps (·.countBusy { p with fn := g.left })
    (·.countBusy { p with fn := g.right }) := by
  intro w w' same
  unfold World.countBusy
  dsimp only
  split
  · exact keeps_load (fun r => { r with busy := r.busy + 1 }) w w' same
  · exact ⟨same, .refl, .refl⟩

theorem storedDelay_echo {j? : Option LchanId} {k j : Act σ φ β} (h : Echoes site g k j) :
    Echoes site g (do
      match j? with
      | some id => modify (·.storeDelay id { p with fn := g.left })
      | none => pure ()
      k : Act σ φ β) (do
      match j? with
      | some id => modify (·.storeDelay id { p with fn := g.right })
      | none => pure ()
      j : Act σ φ β) := by
  cases j? with
  | none => exact h
  | some id => exact .actWrite (keeps_others (Lchan.reduced_setAccessOffset p.delay.toNat)) h

theorem handoverAccess_echo (j? : Option LchanId) :
    Echoes site g (handoverAccess site { p with fn := g.left } j?)
      (handoverAccess site { p with fn := g.right } j?) := by
  cases j? with
  | none => exact .failed
  | some id =>
    refine .actAsked (answers_echo ⟨rfl, rfl⟩) fun taken => ?_
    split
    · exact .actLast (.actWrite (keeps_others fun _ => rfl) .succeed)
    · exact .succeed

theorem rachInd_echo : Echoes site g (rachInd site trx { p with fn := g.left })
    (rachInd site trx { p with fn := g.right }) := by
  have route : ∀ f, PhRach.route { p with fn := f } trx site.settings.maxTa =
      p.route trx site.settings.maxTa := fun _ => rfl
  have counted : (echoes site g).Keeps World.countAccess World.countAccess :=
    keeps_load fun r => { r with access := r.access + 1 }
  unfold rachInd
  rw [route g.left, route g.right]
  refine .actWrite (keeps_busy p) ?_
  cases p.route trx site.settings.maxTa with
  | discard => exact .succeed
  | handover =>
    refine Echoes.needCarrier fun _ _ _ => .actRead fun w w' same => ?_
    dsimp only
    rw [same.bts.locate?]
    exact storedDelay_echo p (handoverAccess_echo p _)
  | pcu =>
    refine Echoes.needCarrier fun _ _ _ => .actRead fun w w' same => ?_
    dsimp only
    rw [same.bts.locate?]
    exact storedDelay_echo p
      (.actWrite counted (.actLast (.actTold (answers_echo ⟨rfl, rfl⟩) .succeed)))
  | linkLayer =>
    refine Echoes.needCarrier fun _ _ _ => .actRead fun w w' same => ?_
    dsimp only
    rw [same.bts.locate?]
    exact storedDelay_echo p
      (.actWrite counted (.actLast (.actTold (answers_echo ⟨rfl, rfl⟩) .succeed)))

end Bursts

/-! ### All inputs -/

theorem unknownUp_echo (p : Prim) : Echoes site g (unknownUp site trx (p.atFrame g.left))
    (unknownUp site trx (p.atFrame g.right)) := by
  unfold unknownUp
  rw [Prim.type_atFrame, Prim.op_atFrame, Prim.type_atFrame, Prim.op_atFrame]
  exact .actTold (answers_echo ⟨rfl, rfl⟩) .failed

theorem up_echo (p : Prim) : Echoes site g (up site trx (p.atFrame g.left))
    (up site trx (p.atFrame g.right)) := by
  cases p with
  | mphInfoInd i =>
    cases i with
    | time fn => exact timeInd_echo
    | measured m => exact measInd_echo m
    | _ => exact .succeed
  | mphInfoCnf i =>
    cases i with
    | activateCnf c => exact activateCnf_echo c
    | deactivateCnf c => exact deactivateCnf_echo c
    | cipherCnf c => exact cipherCnf_echo c
    | _ => exact .succeed
  | phRtsInd r => exact rtsInd_echo r
  | tchRtsInd r => exact tchRtsInd_echo r
  | phDataInd d =>
    exact .actWrite (fun _ _ same => same.captureData trx d true) (dataInd_echo d)
  | tchInd t => exact tchInd_echo t
  | phRachInd r => exact .actWrite (fun _ _ same => same.captureRach trx r) (rachInd_echo r)
  | phDataReq d => exact unknownUp_echo (.phDataReq d)
  | tchReq t => exact unknownUp_echo (.tchReq t)
  | mphInfoReq i => exact unknownUp_echo (.mphInfoReq i)

/-- The input in frame `f`, if it is one of a frame. -/
def Input.atFrame (f : UInt32) : Input → Input
  | up trx p => .up trx (p.atFrame f)
  | down trx p => .down trx (p.atFrame f)
  | packetReq r => .packetReq { r with fn := f }
  | i => i

/-- An input does the same with either number of its frame. -/
theorem perform_echo (i : Input) :
    Echoes site g (perform site (i.atFrame g.left)) (perform site (i.atFrame g.right)) := by
  cases i with
  | up trx p => exact up_echo p
  | down trx p => exact down_echo ⟨Prim.atFrame_atFrame .., Prim.atFrame_atFrame ..⟩
  | chanAct trx n tsc => exact chanAct_echo tsc
  | chanRel trx n => exact chanRel_echo
  | chanDeactSacch trx n => exact chanDeactSacch_echo
  | chanModify trx n => exact down_echo ⟨rfl, rfl⟩
  | pdchSwitch trx tn toPdch => exact pdchSwitch_echo toPdch
  | packetReq r => exact down_echo ⟨rfl, rfl⟩
  | voiceRx id f =>
    refine .actLast (.actWrite (keeps_others fun l => ?_) .succeed)
    unfold Lchan.reduced
    dsimp only
    split <;> rfl

end BaseStation.Bridge
