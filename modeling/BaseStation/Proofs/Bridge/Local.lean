import BaseStation.Proofs.Bridge.Twin

/-!
The handlers side by side. A handler looks at its own timeslot and at no other, so on two base
stations that look the same from there it ends in the same way and leaves the same events.
-/

namespace BaseStation.Bridge

variable {σ φ β : Type} {site : Site σ φ} {trx tn n : UInt8} {id : LchanId}

/-! ### Confirms -/

theorem activateCnf_local (c : ActConfirm) :
    Local site trx (chanTn c.chanNr) (activateCnf site trx c) := by
  unfold activateCnf
  refine .needCarrier fun k k' _ slots => .needLchan fun ⟨id, l⟩ here => ?_
  rw [slots c.chanNr rfl]
  refine .actWriteLchan here (.actWriteSlot (.actTold ?_))
  split
  · exact .actLast (.actTold .succeed)
  · exact .succeed

theorem deactivateCnf_local (c : ActConfirm) :
    Local site trx (chanTn c.chanNr) (deactivateCnf site trx c) := by
  unfold deactivateCnf
  refine .needCarrier fun k k' _ slots => .needLchan fun ⟨id, l⟩ here => ?_
  rw [slots c.chanNr rfl]
  dsimp only
  split
  · exact .succeed
  · refine .actWriteLchan here (.actWriteSlot (.actTold ?_))
    split
    · exact .lift (disconnect_local trx _) fun _ => .actLast (.actTold .succeed)
    · exact .succeed

theorem cipherCnf_local (c : CipherConfirm) :
    Local site trx (chanTn c.chanNr) (cipherCnf trx c : Act σ φ Unit) := by
  unfold cipherCnf
  exact .needCarrier fun _ _ _ _ => .needLchan fun _ here =>
    .actLast (.actWriteLchan here .succeed)

/-! ### Requests -/

section Here

variable (here : id.trx = trx ∧ id.tn = tn)
include here

theorem freeDtx_local (l : Lchan) : Local site trx tn (freeDtx site id l) := by
  unfold freeDtx
  refine .writeLchan here ?_
  split
  · exact .last (.told .done)
  · exact .done

end Here

theorem Agrees.timersSet {kind : ChanKind} {type : LchanType} {k j : Act σ φ β}
    (h : Agrees site trx tn k j) :
    Agrees site trx tn (do
      match site.settings.t200.forKind? kind with
      | some t => if type ≠ .pdtch then tell site (.setT200 id t) else pure ()
      | none => pure ()
      k : Act σ φ β) (do
      match site.settings.t200.forKind? kind with
      | some t => if type ≠ .pdtch then tell site (.setT200 id t) else pure ()
      | none => pure ()
      j : Act σ φ β) :=
  Comparison.Matches.timersSet (c := twins site trx tn) (fun _ => twins_answers _) h

theorem chanAct_local (tsc : Option UInt8) :
    Local site trx (chanTn n) (chanAct site trx n tsc) := by
  unfold chanAct
  split
  · exact .failed
  · split
    · exact .failed
    · refine .needCarrier fun k k' _ slots => ?_
      rw [slots n rfl]
      refine .needLchan fun ⟨id, l⟩ here => .actWriteLchan here ?_
      refine .lift (freeDtx_local here l) fun _ => .timersSet (.lift (handDown_local trx _) ?_)
      rintro (e | _)
      · exact .failed
      · dsimp only
        split
        · exact .actAsked fun h => .actLast (.actWriteLchan here .succeed)
        · exact .succeed

theorem chanRel_local : Local site trx (chanTn n) (chanRel site trx n) := by
  unfold chanRel
  exact .needCarrier fun _ _ _ _ => .needLchan fun ⟨id, l⟩ here =>
    .actWriteLchan here (.lift (freeDtx_local here l) fun _ => down_local trx _)

theorem chanDeactSacch_local : Local site trx (chanTn n) (chanDeactSacch site trx n) := by
  unfold chanDeactSacch
  exact .needCarrier fun _ _ _ _ => .needLchan fun _ here =>
    .actWriteLchan here (down_local trx _)

theorem pdchSwitch_local (toPdch : Bool) : Local site trx tn (pdchSwitch site trx tn toPdch) := by
  unfold pdchSwitch
  refine .needCarrier fun _ _ _ _ => .actRead fun w w' twin => ?_
  rw [twin.view.slot]
  cases begun : (w'.bts.slot? trx tn).bind (·.beginSwitch? toPdch) with
  | none => exact .failed
  | some t =>
    obtain ⟨t₀, slot, -⟩ := Option.bind_eq_some_iff.mp begun
    have number : chanTn (ChanKind.base .tchF ||| tn) = tn := chanTn_fullRate (tn_lt_of_slot? slot)
    have inner : Local site trx (chanTn (ChanKind.base .tchF ||| tn))
        (if toPdch then chanAct site trx (ChanKind.base .tchF ||| tn) none
          else chanRel site trx (ChanKind.base .tchF ||| tn)) := by
      split
      · exact chanAct_local none
      · exact chanRel_local
    rw [number] at inner
    exact .actWriteSlot (.caught inner fun _ => .actWriteSlot .failed)

/-! ### Opportunities -/

section Here

variable (here : id.trx = trx ∧ id.tn = tn)
include here

theorem sacchBlock_local (l : Lchan) : Local site trx tn (sacchBlock site id l) := by
  unfold sacchBlock
  refine .asked fun f => ?_
  cases f with
  | some f => exact .done
  | none => exact .writeLchan here .done

theorem mainBlock_local (kind : ChanKind) (l : Lchan) :
    Local site trx tn (mainBlock site kind n id l) := by
  unfold mainBlock
  refine .asked fun f => ?_
  cases f with
  | some f =>
    refine .writeLchan here ?_
    split
    · split
      · exact .told .done
      · exact .done
    · exact .done
  | none =>
    dsimp only
    split <;> exact .done

/-- What `voiceBlock` does once the voice transport is polled. -/
theorem voiceTaken_local (l : Lchan) : Local site trx tn (do
    modify (·.modifyLchan id ({ · with queue := l.queue.pop.2, pendingRelInd := none }))
    match l.pendingRelInd with
    | some msg => tell site (.releaseIndication id msg)
    | none => pure ()
    pure l.queue.pop.1) := by
  refine .writeLchan here ?_
  cases l.pendingRelInd with
  | none => exact .done
  | some msg => exact .told .done

theorem voiceBlock_local (l : Lchan) : Local site trx tn (voiceBlock site id l) := by
  unfold voiceBlock
  cases !l.loopback && l.hasRtp with
  | false => exact voiceTaken_local here l
  | true =>
    refine .told ?_
    exact .told (voiceTaken_local here l)

end Here

section Opportunities

variable (p : PhRts)

theorem packetRts_local (arfcn : UInt16) :
    Local site trx (chanTn p.chanNr) (packetRts site trx arfcn p) := by
  unfold packetRts
  refine .actRead fun w w' twin => ?_
  rw [twin.view.findActive?]
  cases found : (w'.bts.findActive? trx p.chanNr).filter (·.2.loopback) with
  | none => exact .actLast (.actTold .succeed)
  | some q =>
    have here := Bts.place_of_findActive? (Option.filter_eq_some_iff.mp found).1
    exact .actWriteLchan here (down_local trx _)

theorem dedicatedBlock_local (kind : ChanKind) :
    Local site trx (chanTn p.chanNr) (dedicatedBlock site trx kind p) := by
  unfold dedicatedBlock
  refine .read fun w w' twin => ?_
  rw [twin.view.findActive?]
  cases found : w'.bts.findActive? trx p.chanNr with
  | none => exact .done
  | some q =>
    have here := Bts.place_of_findActive? found
    dsimp only
    split
    · exact .bind (sacchBlock_local here q.2) fun _ => .done
    · exact mainBlock_local here kind q.2

theorem circuitBlock_local (kind : ChanKind) :
    Local site trx (chanTn p.chanNr) (circuitBlock site trx kind p) := by
  unfold circuitBlock
  cases kind with
  | bcch => exact .asked fun _ => .done
  | pchAgch => exact .asked fun _ => .done
  | rach => exact .done
  | pdch => exact .done
  | _ => exact dedicatedBlock_local p _

theorem circuitRts_local (kind : ChanKind) :
    Local site trx (chanTn p.chanNr) (circuitRts site trx kind p) := by
  unfold circuitRts
  refine .lift (circuitBlock_local p kind) ?_
  rintro ⟨f, _ | c⟩
  · exact down_local trx _
  · exact .lift (handDown_local trx _) fun _ => down_local trx _

theorem rtsInd_local : Local site trx (chanTn p.chanNr) (rtsInd site trx p) := by
  unfold rtsInd
  cases ChanAddr.decode p.chanNr with
  | error e => exact .failed
  | ok a =>
    refine .actRead fun w w' twin => ?_
    obtain ⟨left, right⟩ | ⟨c, c', left, right, number, slots⟩ := twin.view.carrier
    · rw [left, right]
      exact .failed
    · rw [left, right]
      dsimp only
      rw [number, slots p.chanNr rfl]
      split
      · exact packetRts_local p c'.arfcn
      · exact circuitRts_local p a.kind

theorem tchRtsInd_local (q : TchRts) : Local site trx (chanTn q.chanNr) (tchRtsInd site trx q) := by
  unfold tchRtsInd
  refine .needCarrier fun _ _ _ _ => .actRead fun w w' twin => ?_
  rw [twin.view.findActive?]
  cases found : w'.bts.findActive? trx q.chanNr with
  | none => exact down_local trx _
  | some f =>
    have here := Bts.place_of_findActive? found
    exact .lift (voiceBlock_local here f.2) fun _ => down_local trx _

end Opportunities

/-! ### Receptions -/

section Here

variable (here : id.trx = trx ∧ id.tn = tn)
include here

theorem superviseLink_local (bad : Bool) : Local site trx tn (superviseLink site id bad) := by
  unfold superviseLink
  refine .read fun w w' twin => ?_
  rw [twin.view.lchan? here]
  cases w'.bts.lchan? id with
  | none => exact .done
  | some l =>
    refine .writeLchan here ?_
    split
    · exact .last (.told .done)
    · exact .done

theorem completeHandover_local (l : Lchan) : Local site trx tn (completeHandover site id l) := by
  unfold completeHandover
  split
  · exact .told (.last (.writeLchan here .done))
  · exact .done

theorem takeL1Header_local (rssi : Int8) (header : List UInt8) :
    Local site trx tn (takeL1Header site id rssi header) := by
  unfold takeL1Header
  refine .read fun w w' twin => ?_
  rw [twin.view.lchan? here]
  cases w'.bts.lchan? id with
  | none => exact .done
  | some l =>
    refine .writeLchan here ?_
    split
    · refine .asked fun level => ?_
      cases level with
      | none => exact .done
      | some level => exact .last (.writeLchan here .done)
    · exact .done

theorem deliver_local (d : PhData) : Local site trx tn (deliver site trx id d) := by
  unfold deliver
  refine .read fun w w' twin => ?_
  rw [twin.view.lchan? here]
  cases w'.bts.lchan? id with
  | none => exact .last (.told .done)
  | some l =>
    refine .writeLchan here ?_
    split
    · exact .bind (handDown_local trx _) fun _ => .last (.told .done)
    · exact .last (.told .done)

theorem sacchDataInd_local (d : PhData) : Local site trx tn (sacchDataInd site trx id d) := by
  unfold sacchDataInd
  refine .lift (superviseLink_local here false) fun _ => ?_
  split
  · exact .failed
  · exact .lift (takeL1Header_local here d.rssi _) fun _ => .lastLift (deliver_local here _)

end Here

section Data

variable (d : PhData)

theorem packetDataInd_local (arfcn : UInt16) :
    Local site trx (chanTn d.chanNr) (packetDataInd site trx arfcn d) := by
  unfold packetDataInd
  refine .actRead fun w w' twin => ?_
  rw [twin.view.find?]
  cases found : (w'.bts.find? trx d.chanNr).filter (·.2.loopback) with
  | none =>
    dsimp only
    split
    · exact .failed
    · split
      · exact .succeed
      · exact .actLast (.actTold .succeed)
  | some q =>
    have found := (Option.filter_eq_some_iff.mp found).1
    have here := Bts.place_of_locate? (Bts.find?_eq_some.mp found).1
    exact .actLast (.actWriteLchan here .succeed)

theorem circuitDataInd_local : Local site trx (chanTn d.chanNr) (circuitDataInd site trx d) := by
  unfold circuitDataInd
  refine .actRead fun w w' twin => ?_
  rw [twin.view.findActive?]
  cases found : w'.bts.findActive? trx d.chanNr with
  | none => exact .succeed
  | some q =>
    have here := Bts.place_of_findActive? found
    dsimp only
    split
    · split
      · exact .lift (superviseLink_local here true) fun _ => .failed
      · exact .failed
    · refine .lift (completeHandover_local here q.2) fun _ => ?_
      split
      · exact sacchDataInd_local here d
      · exact .lastLift (deliver_local here d)

theorem dataInd_local : Local site trx (chanTn d.chanNr) (dataInd site trx d) := by
  unfold dataInd
  refine .needCarrier fun c c' number slots => ?_
  rw [number, slots d.chanNr rfl]
  split
  · exact packetDataInd_local d c'.arfcn
  · exact circuitDataInd_local d

end Data

theorem tchInd_local (q : TchData) : Local site trx (chanTn q.chanNr) (tchInd site trx q) := by
  unfold tchInd
  refine .needCarrier fun _ _ _ _ => .actRead fun w w' twin => ?_
  rw [twin.view.findActive?]
  cases found : w'.bts.findActive? trx q.chanNr with
  | none => exact .succeed
  | some f =>
    have here := Bts.place_of_findActive? found
    have kept : Local site trx (chanTn q.chanNr)
        (if f.2.loopback then
          modify (·.modifyLchan f.1 ({ · with
            queue := (f.2.queue.push (.looped ((q.frame.map Frame.l2).getD []))).1 }))
        else modify (·.modifyLchan f.1 ({ · with txMarker := false, lastFn := some q.fn })) :
          Act σ φ Unit) := by
      split
      · exact .actLast (.actWriteLchan here .succeed)
      · exact .actLast (.actWriteLchan here .succeed)
    dsimp only
    split
    · exact .actTold kept
    · exact kept

theorem measInd_local (m : Measured) : Local site trx (chanTn m.chanNr) (measInd site trx m) := by
  unfold measInd
  refine .needCarrier fun _ _ _ _ => .actRead fun w w' twin => ?_
  rw [twin.view.findActive?]
  cases found : w'.bts.findActive? trx m.chanNr with
  | none => exact .succeed
  | some f =>
    have here := Bts.place_of_findActive? found
    dsimp only
    split
    · exact .succeed
    · exact .actAsked fun meas => .actLast (.actWriteLchan here .succeed)

section Bursts

variable (p : PhRach)

theorem Twin.countedBusy {w w' : World σ φ} (twin : Twin site trx tn w w') :
    Twin site trx tn (w.countBusy p) (w'.countBusy p) := by
  unfold World.countBusy
  split
  · exact ⟨twin.view.withLoad fun r => { r with busy := r.busy + 1 }, twin.services, twin.phy⟩
  · exact twin

theorem trace_countBusy (w : World σ φ) : (w.countBusy p).trace = w.trace := by
  unfold World.countBusy
  split <;> rfl

theorem Agrees.countedAccess {k j : PUnit → Act σ φ β} (h : Agrees site trx tn (k ⟨⟩) (j ⟨⟩)) :
    Agrees site trx tn (modify World.countAccess >>= k : Act σ φ β)
      (modify World.countAccess >>= j : Act σ φ β) :=
  .actWriteBts (fun _ _ view => view.withLoad fun r => { r with access := r.access + 1 }) h

/-- Both sides go on after the delay of an access burst was stored with its channel. -/
theorem Agrees.storedDelay {j? : Option LchanId} {k j : Act σ φ β}
    (here : ∀ id, j? = some id → id.trx = trx ∧ id.tn = tn) (h : Agrees site trx tn k j) :
    Agrees site trx tn (do
      match j? with
      | some id => modify (·.storeDelay id p)
      | none => pure ()
      k : Act σ φ β) (do
      match j? with
      | some id => modify (·.storeDelay id p)
      | none => pure ()
      j : Act σ φ β) := by
  cases j? with
  | none => exact h
  | some id => exact .actWriteLchan (here id rfl) h

theorem handoverAccess_local {j? : Option LchanId}
    (here : ∀ id, j? = some id → id.trx = trx ∧ id.tn = tn) :
    Local site trx tn (handoverAccess site p j?) := by
  cases j? with
  | none => exact .failed
  | some id =>
    refine .actAsked fun taken => ?_
    split
    · exact .actLast (.actWriteLchan (here id rfl) .succeed)
    · exact .succeed

theorem rachInd_local : Local site trx (chanTn p.chanNr) (rachInd site trx p) := by
  have located : ∀ w w' : World σ φ, Twin site trx (chanTn p.chanNr) w w' →
      w.bts.locate? trx p.chanNr = w'.bts.locate? trx p.chanNr ∧
        ∀ id, w'.bts.locate? trx p.chanNr = some id → id.trx = trx ∧ id.tn = chanTn p.chanNr :=
    fun _ _ twin => ⟨twin.view.locate?, fun _ => Bts.place_of_locate?⟩
  unfold rachInd
  refine .actWrite (fun _ _ twin => twin.countedBusy p) (trace_countBusy p) ?_
  cases p.route trx site.settings.maxTa with
  | discard => exact .succeed
  | handover =>
    refine .needCarrier fun _ _ _ _ => .actRead fun w w' twin => ?_
    obtain ⟨same, here⟩ := located w w' twin
    rw [same]
    exact .storedDelay p here (handoverAccess_local p here)
  | pcu =>
    refine .needCarrier fun _ _ _ _ => .actRead fun w w' twin => ?_
    obtain ⟨same, here⟩ := located w w' twin
    rw [same]
    exact .storedDelay p here (.countedAccess (.actLast (.actTold .succeed)))
  | linkLayer =>
    refine .needCarrier fun _ _ _ _ => .actRead fun w w' twin => ?_
    obtain ⟨same, here⟩ := located w w' twin
    rw [same]
    exact .storedDelay p here (.countedAccess (.actLast (.actTold .succeed)))

end Bursts

/-! ### All inputs -/

theorem unknownUp_local (u : UInt8) (p : Prim) : Local site trx tn (unknownUp site u p) := by
  unfold unknownUp
  exact .actTold .failed

theorem up_local {p : Prim} (named : p.chanNr? = some n) :
    Local site trx (chanTn n) (up site trx p) := by
  unfold up
  cases p with
  | mphInfoInd i =>
    cases i with
    | time fn => cases named
    | measured m =>
      cases named
      exact measInd_local m
    | _ => exact .succeed
  | mphInfoCnf i =>
    cases i with
    | activateCnf c =>
      cases named
      exact activateCnf_local c
    | deactivateCnf c =>
      cases named
      exact deactivateCnf_local c
    | cipherCnf c =>
      cases named
      exact cipherCnf_local c
    | _ => exact .succeed
  | phRtsInd r =>
    cases named
    exact rtsInd_local r
  | tchRtsInd r =>
    cases named
    exact tchRtsInd_local r
  | phDataInd d =>
    cases named
    exact .actWrite (fun _ _ twin => twin.captured trx d true)
      (fun w => (captureData_same w site trx d true).2) (dataInd_local d)
  | tchInd t =>
    cases named
    exact tchInd_local t
  | phRachInd r =>
    cases named
    exact .actWrite (fun _ _ twin => twin.capturedBurst trx r)
      (fun w => (captureRach_same w trx r).2) (rachInd_local r)
  | phDataReq d => exact unknownUp_local trx _
  | tchReq t => exact unknownUp_local trx _
  | mphInfoReq i => exact unknownUp_local trx _

/-- What an input does that names a channel is decided by the timeslot of the channel. -/
theorem perform_local {i : Input} {a : Address} (named : i.address? = some a) :
    Local site a.trx a.tn (perform site i) := by
  unfold perform
  cases i with
  | up trx p =>
    obtain ⟨n, number, rfl⟩ := Option.map_eq_some_iff.mp named
    exact up_local number
  | down trx p => exact down_local trx p
  | chanAct trx n tsc =>
    cases named
    exact chanAct_local tsc
  | chanRel trx n =>
    cases named
    exact chanRel_local
  | chanDeactSacch trx n =>
    cases named
    exact chanDeactSacch_local
  | chanModify trx n => exact down_local trx _
  | pdchSwitch trx tn toPdch =>
    cases named
    exact pdchSwitch_local toPdch
  | packetReq q => exact down_local q.trx _
  | voiceRx id f =>
    cases named
    exact .actLast (.actWriteLchan ⟨rfl, rfl⟩ .succeed)

end BaseStation.Bridge
