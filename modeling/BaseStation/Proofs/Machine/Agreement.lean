import BaseStation.Proofs.Bridge.Moved
import BaseStation.Proofs.Machine.Following

/-!
Each handler on the machine follows that of the access point, and so does the machine with every
input, apart from an opportunity on a channel that does not exist. What parties and the radio
answer is left open, and so are the lengths of their blocks.
-/

namespace BaseStation.Machine

open Bridge (Site World Refusal Input PacketRequest Failure)

variable {σ φ : Type} {ceiling : Int} {site : Site σ φ} {w : World σ φ} {trx n : UInt8}
  {id : LchanId}

/-! ### Towards the radio -/

theorem tapData_follows (d : PhData) (uplink : Bool) :
    Follows ceiling (fun x => x) (tapData site trx d uplink)
      (modify (·.captureData site trx d uplink)) := by
  intro w bounds
  have same : (w.captureData site trx d uplink).bts = w.bts :=
    (Bridge.captureData_same w site trx d uplink).1
  have kept : Bounds ceiling (w.captureData site trx d uplink).bts := by rwa [same]
  refine .of_rach kept (congrArg Bts.rach same) rfl ?_
  change (liftM (captureData w site trx d uplink) >>= set : Step σ φ PUnit) w = _
  rw [captureData_eq]
  rfl

theorem tapRach_follows (p : PhRach) :
    ActFollows ceiling (tapRach trx p : Act σ φ Unit) (modify (·.captureRach trx p)) := by
  intro w bounds
  have same : (w.captureRach trx p).bts = w.bts := (Bridge.captureRach_same w trx p).1
  have kept : Bounds ceiling (w.captureRach trx p).bts := by rwa [same]
  refine Next.of_rach (x := .ok ⟨⟩) kept (congrArg Bts.rach same) rfl ?_
  change (liftM (captureRach w trx p) >>= set : Act σ φ PUnit) w = _
  rw [captureRach_eq]
  rfl

/-- What the machine does once the data is captured. -/
theorem transmitReported_follows (p : Prim) : Follows ceiling (fun x => x)
    (do
      let r ← Bridge.transmit site trx p
      match r with
      | .error (.unsupported what) => Bridge.tell site (.alarm (Bridge.unsupportedAlarm trx p what))
      | _ => pure ()
      pure r : Step σ φ (Except PhyError Unit))
    (do
      let r ← Bridge.transmit site trx p
      match r with
      | .error (.unsupported what) => Bridge.tell site (.alarm (Bridge.unsupportedAlarm trx p what))
      | _ => pure ()
      pure r) := by
  refine .bind (.lifted fun _ bounds => ⟨bounds, rfl⟩) ?_
  rintro (e | _)
  · cases e with
    | unsupported what => exact .told (.done _)
    | _ => exact .done _
  · exact .done _

theorem handDown_follows (p : Prim) :
    Follows ceiling (fun x => x) (handDown site trx p) (Bridge.handDown site trx p) := by
  unfold handDown Bridge.handDown
  cases p with
  | phDataReq d => exact .bind (tapData_follows d false) fun _ => transmitReported_follows _
  | _ => exact transmitReported_follows _

theorem down_follows (p : Prim) :
    ActFollows ceiling (down site trx p) (Bridge.down site trx p) := by
  refine .lift (handDown_follows p) ?_
  rintro (e | _)
  · exact .refused _
  · exact .succeed _

/-! ### Transmit opportunities -/

theorem packetRts_follows (arfcn : UInt16) (r : PhRts) :
    ActFollows ceiling (packetRts site trx arfcn r) (Bridge.packetRts site trx arfcn r) := by
  unfold packetRts Bridge.packetRts
  refine .read fun w bounds => .checked (findActive_eq w.bts trx r.chanNr) ?_
  cases found : (w.bts.findActive? trx r.chanNr).filter (·.2.loopback) with
  | none => exact .lastTold _
  | some p =>
    have within := bounds.foundActive (Option.filter_eq_some_iff.mp found).1
    have rest := short_loopedBlock within.queue r.fn
    exact .modifyLchan (fun l h => h.setQueue rest) (down_follows _)

theorem sacchBlock_follows {l : Lchan} :
    Follows ceiling (fun x => x) (sacchBlock site id l) (Bridge.sacchBlock site id l) := by
  have body : minus blockLength Bridge.sacchHeaderLength = .ok 21 := rfl
  unfold sacchBlock Bridge.sacchBlock
  refine .checked body (.asked fun f? => ?_)
  cases f? with
  | some f =>
    refine .checked (putPadded_eq _ _ _) ?_
    rw [setL1Length_header]
    exact .done _
  | none =>
    refine .checked (nextFill_eq l.fill) (.modifyLchan (fun _ h => ⟨h.counter, h.queue⟩) ?_)
    have long : 21 ≤ (((l.fill.next).1.getD .fill).octets).length := by
      rw [MacBlock.length_octets]
      decide
    refine .checked (slice_zero long) ?_
    rw [setL1Length_header]
    exact .done _

theorem mainBlock_follows (kind : ChanKind) {l : Lchan} (within : LchanBounds ceiling l) :
    Follows ceiling (fun x => x) (mainBlock site kind n id l)
      (Bridge.mainBlock site kind n id l) := by
  unfold mainBlock Bridge.mainBlock
  refine .asked fun f? => ?_
  cases f? with
  | some f =>
    refine .checked (putPadded_eq _ _ _) (.checked (checkDownlink_eq l n f.octets) ?_)
    refine .modifyLchan (fun _ _ => within.checkDownlink n f.octets) ?_
    rw [append_empty]
    cases l.dtx with
    | none => exact .done _
    | some h =>
      dsimp only
      split
      · exact .told (.done _)
      · exact .done _
  | none =>
    dsimp only
    split
    · exact .done _
    · exact .done _

theorem dedicatedBlock_follows (kind : ChanKind) (r : PhRts) :
    Follows ceiling (fun x => x) (dedicatedBlock site trx kind r)
      (Bridge.dedicatedBlock site trx kind r) := by
  unfold dedicatedBlock Bridge.dedicatedBlock
  refine .read fun w bounds => .checked (findActive_eq w.bts trx r.chanNr) ?_
  cases found : w.bts.findActive? trx r.chanNr with
  | none => exact .done _
  | some p =>
    dsimp only
    split
    · exact .bind sacchBlock_follows fun f => .done _
    · exact mainBlock_follows kind (bounds.foundActive found)

theorem isAgchFrame_eq (fn : UInt32) : isAgchFrame site fn = .ok (Bridge.isAgchFrame site fn) := by
  unfold isAgchFrame Bridge.isAgchFrame
  rw [ccchBlock?_eq, ok_bind]
  cases BaseStation.ccchBlock? fn.toNat <;> rfl

theorem circuitBlock_follows (kind : ChanKind) (r : PhRts) :
    Follows ceiling (fun x => x) (circuitBlock site trx kind r)
      (Bridge.circuitBlock site trx kind r) := by
  unfold circuitBlock Bridge.circuitBlock
  cases kind with
  | bcch => exact .asked fun _ => .done _
  | pchAgch => exact .checked (isAgchFrame_eq r.fn) (.asked fun _ => .done _)
  | rach | pdch => exact .done _
  | _ => exact dedicatedBlock_follows _ r

theorem circuitRts_follows (kind : ChanKind) (r : PhRts) :
    ActFollows ceiling (circuitRts site trx kind r) (Bridge.circuitRts site trx kind r) := by
  unfold circuitRts Bridge.circuitRts
  refine .lift (circuitBlock_follows kind r) ?_
  rintro ⟨f, _ | c⟩
  · exact down_follows _
  · exact .lift (handDown_follows _) fun _ => down_follows _

/-- What the machine does once the voice transport has delivered. -/
theorem voiceTaken_follows {l : Lchan} (within : LchanBounds ceiling l) :
    Follows ceiling (fun x => x) (do
      modify (·.modifyLchan id ({ · with queue := l.queue.pop.2, pendingRelInd := none }))
      match l.pendingRelInd with
      | some msg => Bridge.tell site (.releaseIndication id msg)
      | none => pure ()
      pure l.queue.pop.1 : Step σ φ (Option VoiceFrame))
    (do
      modify (·.modifyLchan id ({ · with queue := l.queue.pop.2, pendingRelInd := none }))
      match l.pendingRelInd with
      | some msg => Bridge.tell site (.releaseIndication id msg)
      | none => pure ()
      pure l.queue.pop.1) := by
  refine .modifyLchan (fun _ h => ⟨h.counter, within.queue.pop⟩) ?_
  cases l.pendingRelInd with
  | none => exact .done _
  | some msg => exact .told (.done _)

theorem voiceBlock_follows {l : Lchan} (within : LchanBounds ceiling l) :
    Follows ceiling (fun x => x) (voiceBlock site id l) (Bridge.voiceBlock site id l) := by
  unfold voiceBlock Bridge.voiceBlock
  cases !l.loopback && l.hasRtp with
  | false => exact voiceTaken_follows within
  | true =>
    refine .told ?_
    exact .told (voiceTaken_follows within)

theorem tchRtsInd_follows (r : TchRts) :
    ActFollows ceiling (tchRtsInd site trx r) (Bridge.tchRtsInd site trx r) := by
  unfold tchRtsInd Bridge.tchRtsInd
  refine .needCarrier fun _ => .read fun w bounds =>
    .checked (findActive_eq w.bts trx r.chanNr) ?_
  cases found : w.bts.findActive? trx r.chanNr with
  | none => exact down_follows _
  | some p => exact .lift (voiceBlock_follows (bounds.foundActive found)) fun _ => down_follows _

/-- The machine gets on with an opportunity on a channel of a carrier that exists. -/
theorem rtsInd_next {r : PhRts} {a : ChanAddr} {c : Carrier}
    (addr : ChanAddr.decode r.chanNr = .ok a) (carrier : w.bts.carrier? trx = some c)
    (bounds : Bounds ceiling w.bts) :
    Next ceiling (Except.mapError Failure.refused) w.bts (rtsInd site trx r w)
      (Bridge.rtsInd site trx r w) := by
  have follows : ActFollows ceiling (do
        let slot ← slotAt c a.tn
        if slot.isPdch then packetRts site trx c.arfcn r else circuitRts site trx a.kind r)
      (if (c.slotOf r.chanNr).isPdch then Bridge.packetRts site trx c.arfcn r
        else Bridge.circuitRts site trx a.kind r) := by
    rw [tn_of_decode addr]
    refine .checked (slotAt_eq c r.chanNr) ?_
    split
    · exact packetRts_follows _ r
    · exact circuitRts_follows _ r
  unfold rtsInd Bridge.rtsInd
  rw [addr]
  dsimp only
  rw [get_bind, access_get_bind, carrier]
  exact follows w bounds

/-! ### Uplink -/

theorem superviseLink_follows (highest : site.settings.radioLinkTimeout ≤ 64) (bad : Bool) :
    Follows site.settings.radioLinkTimeout (fun x => x) (superviseLink site id bad)
      (Bridge.superviseLink site id bad) := by
  unfold superviseLink Bridge.superviseLink
  refine .read fun w bounds => ?_
  cases known : w.bts.lchan? id with
  | none => exact .done _
  | some l =>
    have within := bounds.lchan known
    have kept := within.onSacchFrame bad
    refine .checked (onSacchFrame_eq within.counter highest bad) ?_
    dsimp only
    generalize l.onSacchFrame site.settings.radioLinkTimeout bad = out at kept ⊢
    obtain ⟨l', _ | cause⟩ := out
    · refine .modifyLchan (fun _ _ => kept) ?_
      exact .done _
    · refine .modifyLchan (fun _ _ => kept) ?_
      exact .tell _

theorem deliver_follows (d : PhData) : Follows ceiling (fun x => x) (deliver site trx id d)
    (Bridge.deliver site trx id d) := by
  have delivered : Follows ceiling (fun x => x)
      (do
        let f ← pullL1 d.frame
        Bridge.tell site (.dataUp id (.ofId d.linkId) { d with frame := f }) : Step σ φ Unit)
      (Bridge.tell site (.dataUp id (.ofId d.linkId) { d with frame := d.frame.dropL1 })) :=
    .checked (pullL1_eq d.frame) (.tell _)
  unfold deliver Bridge.deliver
  refine .read fun w bounds => ?_
  cases known : w.bts.lchan? id with
  | none => exact delivered
  | some l =>
    have kept := (bounds.lchan known).checkUplink d.chanNr d.frame.l2
    refine .checked (l2_eq d.frame) (.checked (checkUplink_eq l d.chanNr d.frame.l2) ?_)
    dsimp only
    generalize l.checkUplink d.chanNr d.frame.l2 = out at kept ⊢
    obtain ⟨l', _ | request⟩ := out
    · refine .modifyLchan (fun _ _ => kept) ?_
      exact delivered
    · refine .modifyLchan (fun _ _ => kept) ?_
      exact .bind (handDown_follows _) fun _ => delivered

theorem sacchDataInd_follows (highest : site.settings.radioLinkTimeout ≤ 64) (d : PhData) :
    ActFollows site.settings.radioLinkTimeout (sacchDataInd site trx id d)
      (Bridge.sacchDataInd site trx id d) := by
  unfold sacchDataInd Bridge.sacchDataInd
  refine .lift (superviseLink_follows highest false) fun _ => .checked (l2Length_eq d.frame) ?_
  split
  · exact .refused _
  · exact .checked (l1_eq _) (.kept (.takeL1Header d.rssi _) fun _ => .lastLift (deliver_follows _))

theorem packetDataInd_follows (arfcn : UInt16) (d : PhData) :
    ActFollows ceiling (packetDataInd site trx arfcn d)
      (Bridge.packetDataInd site trx arfcn d) := by
  unfold packetDataInd Bridge.packetDataInd
  refine .read fun w bounds => .checked (find_eq w.bts trx d.chanNr) ?_
  cases found : (w.bts.find? trx d.chanNr).filter (·.2.loopback) with
  | some p =>
    have within := (bounds.found (Option.filter_eq_some_iff.mp found).1).queue
    refine .checked (push_eq within (.looped d.frame.octets)) ?_
    exact .last (.modifyLchan (fun _ h => h.setQueue (within.push _)) (.succeed _))
  | none =>
    dsimp only
    split
    · exact .refused _
    · split
      · exact .succeed _
      · exact .lastTold _

theorem circuitDataInd_follows (highest : site.settings.radioLinkTimeout ≤ 64) (d : PhData) :
    ActFollows site.settings.radioLinkTimeout (circuitDataInd site trx d)
      (Bridge.circuitDataInd site trx d) := by
  unfold circuitDataInd Bridge.circuitDataInd
  refine .read fun w bounds => .checked (findActive_eq w.bts trx d.chanNr) ?_
  cases w.bts.findActive? trx d.chanNr with
  | none => exact .succeed _
  | some p =>
    dsimp only
    split
    · split
      · exact .lift (superviseLink_follows highest true) fun _ => .refused _
      · exact .refused _
    · refine .kept (.completeHandover _) fun _ => ?_
      split
      · exact sacchDataInd_follows highest d
      · exact .lastLift (deliver_follows d)

theorem dataInd_follows (highest : site.settings.radioLinkTimeout ≤ 64) (d : PhData) :
    ActFollows site.settings.radioLinkTimeout (dataInd site trx d) (Bridge.dataInd site trx d) := by
  unfold dataInd Bridge.dataInd
  refine .checked (text_eq d.frame) (.needCarrier fun c => .checked (slotAt_eq c d.chanNr) ?_)
  split
  · exact packetDataInd_follows _ d
  · exact circuitDataInd_follows highest d

theorem voicePayload_eq (f? : Option Frame) :
    voicePayload f? = .ok ((f?.map Frame.l2).getD []) := by
  cases f? with
  | none => rfl
  | some f =>
    unfold voicePayload
    dsimp only
    rw [pullL1_eq]
    rfl

theorem keepVoice_follows {l : Lchan} (short : Short l.queue) (fn : UInt32)
    (payload : List UInt8) :
    ActFollows ceiling (keepVoice id l fn payload : Act σ φ Unit)
      (if l.loopback then
        modify (·.modifyLchan id ({ · with queue := (l.queue.push (.looped payload)).1 }))
      else modify (·.modifyLchan id ({ · with txMarker := false, lastFn := some fn }))) := by
  unfold keepVoice
  split
  · exact .checked (push_eq short _)
      (.last (.modifyLchan (fun _ h => h.setQueue (short.push _)) (.succeed _)))
  · exact .last (.modifyLchan (fun _ h => ⟨h.counter, h.queue⟩) (.succeed _))

theorem tchInd_follows (t : TchData) :
    ActFollows ceiling (tchInd site trx t) (Bridge.tchInd site trx t) := by
  unfold tchInd Bridge.tchInd
  refine .needCarrier fun _ => .read fun w bounds =>
    .checked (findActive_eq w.bts trx t.chanNr) ?_
  cases found : w.bts.findActive? trx t.chanNr with
  | none => exact .succeed _
  | some p =>
    obtain ⟨id, l⟩ := p
    have within := (bounds.foundActive found).queue
    refine .checked (voicePayload_eq t.frame) ?_
    dsimp only
    generalize (t.frame.map Frame.l2).getD [] = payload
    split
    · exact .checked (voiceDuration_eq _ _ _) (.told (keepVoice_follows within t.fn payload))
    · exact keepVoice_follows within t.fn payload

theorem measInd_follows (m : Measured) :
    ActFollows ceiling (measInd site trx m) (Bridge.measInd site trx m) := by
  unfold measInd Bridge.measInd
  refine .needCarrier fun _ => .read fun w bounds =>
    .checked (findActive_eq w.bts trx m.chanNr) ?_
  cases w.bts.findActive? trx m.chanNr with
  | none => exact .succeed _
  | some p =>
    dsimp only
    split
    · exact .succeed _
    · exact .checked (addMeasured_eq _ m) (.asked fun meas =>
        .last (.modifyLchan (fun _ h => ⟨h.counter, h.queue⟩) (.succeed _)))

/-! ### Time and access bursts -/

/-- A counter goes on by a sum that fits in its word, or it runs out, and the machine stops. -/
theorem count_follows (c : Counter) (slots : Nat) :
    ActFollows ceiling (count c slots : Act σ φ Unit)
      (modify (·.modifyBts fun b =>
        { b with rach := c.set b.rach (c.get b.rach + slots) })) := by
  intro w bounds
  have own : c.get (c.set w.bts.rach (c.get w.bts.rach + slots)) = c.get w.bts.rach + slots := by
    cases c <;> rfl
  have other : ∀ d ≠ c, d.get (c.set w.bts.rach (c.get w.bts.rach + slots)) = d.get w.bts.rach := by
    intro d h
    cases c <;> cases d <;> first | rfl | exact absurd rfl h
  have counts : (count c slots : Act σ φ Unit) w =
      (liftM (unsigned 64 (c.get w.bts.rach + slots)) >>= fun sum =>
        modify (·.modifyBts fun b => { b with rach := c.set b.rach sum }) : Act σ φ PUnit) w := rfl
  -- the counters do not go down; a sum that fits is written; one that does not stops the machine
  refine ⟨bounds, fun d => ?_, ⟨.ok ⟨⟩, rfl, fun counted => ?_⟩, fun counted out => ?_⟩
  · change d.get w.bts.rach ≤ d.get (c.set w.bts.rach (c.get w.bts.rach + slots))
    by_cases h : d = c
    · rw [h, own]
      exact Nat.le_add_right _ _
    · rw [other d h]
  · have fits : c.get (c.set w.bts.rach (c.get w.bts.rach + slots)) < 2 ^ 64 := counted c
    rw [own] at fits
    rw [counts, unsigned_eq fits]
    rfl
  · have exceeds : ¬ c.get w.bts.rach + slots < 2 ^ 64 := by
      refine fun fits => out fun d => ?_
      change d.get (c.set w.bts.rach (c.get w.bts.rach + slots)) < 2 ^ 64
      by_cases h : d = c
      · rwa [h, own]
      · rw [other d h]
        exact counted d
    refine ⟨c.get w.bts.rach + slots, ?_⟩
    rw [counts, unsigned, if_neg exceeds]
    rfl

/-- The word for the slots that passed with some frames is wide enough. -/
theorem passed_eq {slots : Nat} {elapsed : Int} (few : slots ≤ 16) (near : elapsed < 1357824) :
    unsigned 64 (slots * toUnsigned 64 (max elapsed 0)) = .ok (slots * elapsed.toNat) := by
  have frames : toUnsigned 64 (max elapsed 0) = elapsed.toNat := by
    rw [← Int.toNat_eq_max]
    exact toUnsigned_eq (by omega)
  have small : slots * elapsed.toNat ≤ 16 * 1357824 := Nat.mul_le_mul few (by omega)
  rw [frames, unsigned_eq (by omega)]

theorem frameDiff_lt (a b : Nat) : frameDiff a b < 1357824 := by
  have whole : hyperframe = 2715648 := rfl
  unfold frameDiff
  rw [whole, Int.bmod_def]
  split <;> omega

theorem missedIndications_eq {elapsed : Int} (near : elapsed < 1357824) :
    ∃ missed, missedIndications elapsed = .ok missed := by
  unfold missedIndications
  split
  · exact ⟨_, signed_eq (by omega) (by omega)⟩
  · exact ⟨0, rfl⟩

theorem timeInd_follows (fn : UInt32) :
    ActFollows ceiling (timeInd site trx fn) (Bridge.timeInd site trx fn) := by
  unfold timeInd Bridge.timeInd
  split
  · exact .refused _
  · refine .read fun w bounds => ?_
    have known : w.bts.time.frame < 2 ^ 32 := w.bts.time.frame_lt.trans (by decide)
    have near := frameDiff_lt fn.toNat w.bts.time.frame
    obtain ⟨missed, log⟩ := missedIndications_eq near
    refine .checked (fnDiff_eq fn.toNat_lt known) (.checked log ?_)
    refine .andThen (.written fun w bounds => ⟨bounds, rfl⟩) fun _ => .told ?_
    have slots := expiredSlots_le site.settings.ccchConf fn.toNat
    exact .checked (expiredSlots_eq _ _) (.checked (passed_eq slots near) (count_follows .total _))

/-! ### Access bursts -/

theorem countBusy_follows (p : PhRach) :
    ActFollows ceiling (countBusy p : Act σ φ Unit) (modify (·.countBusy p)) := by
  unfold countBusy World.countBusy
  split
  · exact count_follows .busy 1
  · exact .succeed _

/-- What a change of a record does depends on the record only. -/
theorem modifyLchan_congr {l : Lchan} {f g : Lchan → Lchan} (known : w.bts.lchan? id = some l)
    (same : f l = g l) : w.modifyLchan id f = w.modifyLchan id g := by
  have data : w.bts.modifyLchan id f = w.bts.modifyLchan id g := by
    rw [Bts.modifyLchan_eq_setLchan known, Bts.modifyLchan_eq_setLchan known, same]
  exact congrArg (fun b => { w with bts := b }) data

theorem storeDelay_next (trx : UInt8) (p : PhRach) (bounds : Bounds ceiling w.bts) :
    Next ceiling (Except.mapError Failure.refused) w.bts
      (storeDelay p (w.bts.find? trx p.chanNr) w)
      ((match w.bts.locate? trx p.chanNr with
        | some id => modify (·.storeDelay id p)
        | none => pure () : Bridge.Act σ φ Unit) w) := by
  cases found : w.bts.find? trx p.chanNr with
  | none =>
    rw [Bts.find?_eq_none.mp found]
    exact ActFollows.succeed _ w bounds
  | some q =>
    obtain ⟨id, l⟩ := q
    obtain ⟨located, known⟩ := Bts.find?_eq_some.mp found
    -- the delay goes into the record that was found, which is the one that is changed
    have stored : w.storeDelay id p =
        w.modifyLchan id ({ · with meas := l.meas.setAccessOffset p.delay.toNat }) :=
      modifyLchan_congr known rfl
    have machine : storeDelay p (some (id, l)) w =
        (modify (·.storeDelay id p) : Act σ φ Unit) w := by
      unfold storeDelay
      dsimp only
      rw [setOffset_delay]
      exact congrArg (Prod.mk (Except.ok (Except.ok PUnit.unit))) stored.symm
    rw [located, machine]
    refine ActFollows.written (fun w bounds => ?_) w bounds
    exact ⟨bounds.modifyLchan fun _ h => ⟨h.counter, h.queue⟩, rfl⟩

theorem handoverAccess_follows (p : PhRach) (id : Option LchanId) :
    ActFollows ceiling (handoverAccess site p id) (Bridge.handoverAccess site p id) := by
  unfold handoverAccess Bridge.handoverAccess
  cases id with
  | none => exact .refused _
  | some id =>
    refine .asked fun taken => ?_
    split
    · exact .last (.modifyLchan (fun _ h => ⟨h.counter, h.queue⟩) (.succeed _))
    · exact .succeed _

theorem countAccess_follows {k : Unit → Act σ φ α} {j : Unit → Bridge.Act σ φ α}
    (h : ActFollows ceiling (k ()) (j ())) :
    ActFollows ceiling (count .access 1 >>= k) (modify (·.countAccess) >>= j) :=
  .andThen (count_follows .access 1) fun _ => h

/-- The delay is stored with the channel that is found, and the address of that channel is known to
what comes next. -/
theorem delayed_follows (p : PhRach) {k : Option LchanId → Act σ φ Unit}
    {j : Option LchanId → Bridge.Act σ φ Unit} (hk : ∀ id, ActFollows ceiling (k id) (j id)) :
    ActFollows ceiling
      (do
        let found ← find (← get).bts trx p.chanNr
        storeDelay p found
        k (found.map (·.1)))
      (do
        let id := (← get).bts.locate? trx p.chanNr
        match id with
        | some id => modify (·.storeDelay id p)
        | none => pure ()
        j id) := by
  intro w bounds
  -- the machine looks the channel up once, the access point locates it and then stores
  have here : (w.bts.find? trx p.chanNr).map (·.1) = w.bts.locate? trx p.chanNr := by
    cases found : w.bts.find? trx p.chanNr with
    | none => exact (Bts.find?_eq_none.mp found).symm
    | some q => exact (Bts.find?_eq_some.mp found).1.symm
  change Next ceiling _ w.bts ((liftM (find w.bts trx p.chanNr) >>= fun found =>
    storeDelay p found >>= fun _ => k (found.map (·.1)) : Act σ φ Unit) w) _
  rw [find_eq]
  change Next ceiling _ w.bts ((storeDelay p (w.bts.find? trx p.chanNr) >>= fun _ =>
    k ((w.bts.find? trx p.chanNr).map (·.1)) : Act σ φ Unit) w) _
  rw [here]
  have next := (storeDelay_next trx p bounds).andThen fun _ =>
    hk (w.bts.locate? trx p.chanNr)
  generalize w.bts.find? trx p.chanNr = found at next ⊢
  change Next ceiling _ w.bts _ ((fun address : Option LchanId => (match address with
    | some id => modify (·.storeDelay id p) >>= fun _ => j address
    | none => j address : Bridge.Act σ φ Unit) w) (w.bts.locate? trx p.chanNr))
  generalize w.bts.locate? trx p.chanNr = address at next ⊢
  cases address <;> exact next

theorem rachInd_follows (p : PhRach) :
    ActFollows ceiling (rachInd site trx p) (Bridge.rachInd site trx p) := by
  unfold rachInd Bridge.rachInd
  refine .andThen (countBusy_follows p) fun _ => ?_
  cases p.route trx site.settings.maxTa with
  | discard => exact .succeed _
  | handover =>
    refine .needCarrier fun _ => ?_
    exact delayed_follows p (handoverAccess_follows p)
  | pcu =>
    refine .needCarrier fun _ => ?_
    exact delayed_follows p (k := fun _ => _) (j := fun _ => _)
      fun _ => countAccess_follows (.lastTold _)
  | linkLayer =>
    refine .needCarrier fun _ => ?_
    exact delayed_follows p (k := fun _ => _) (j := fun _ => _)
      fun _ => countAccess_follows (.lastTold _)

/-! ### Channel control -/

/-- The change of a timeslot that a channel number names, its channels left in bounds. -/
theorem changeSlot_follows {f : Timeslot → Timeslot} (n : UInt8)
    (keeps : ∀ t, SlotBounds ceiling t → SlotBounds ceiling (f t)) :
    ActFollows ceiling (changeSlot trx (chanTn n) f : Act σ φ Unit)
      (modify (·.modifySlot trx (chanTn n) f)) := by
  intro w bounds
  have written : ActFollows ceiling (modify (·.modifySlot trx (chanTn n) f) : Act σ φ Unit)
      (modify (·.modifySlot trx (chanTn n) f)) :=
    .written fun w bounds => ⟨bounds.modifySlot keeps, rfl⟩
  have same : changeSlot trx (chanTn n) f w =
      (modify (·.modifySlot trx (chanTn n) f) : Act σ φ Unit) w := by
    unfold changeSlot
    rw [get_bind]
    cases carrier : w.bts.carrier? trx with
    | none =>
      have nothing : w.bts.modifySlot trx (chanTn n) f = w.bts :=
        (Bts.modifySlot_congr fun t slot => by simp [Bts.slot?, carrier] at slot).trans
          Bts.modifySlot_same
      exact congrArg (fun b => (Except.ok (Except.ok PUnit.unit), { w with bts := b })) nothing.symm
    | some c =>
      have data : (w.bts.modifySlot trx (chanTn n) fun _ => f (c.slotOf n)) =
          w.bts.modifySlot trx (chanTn n) f := Bts.modifySlot_congr fun t slot => by
        rw [Bts.slot?_slotOf carrier, Option.some.injEq] at slot
        rw [slot]
      dsimp only
      rw [slotAt_eq]
      exact congrArg (fun b => (Except.ok (Except.ok PUnit.unit), { w with bts := b })) data
  rw [same]
  exact written w bounds

theorem activateCnf_follows (c : ActConfirm) :
    ActFollows ceiling (activateCnf site trx c) (Bridge.activateCnf site trx c) := by
  unfold activateCnf Bridge.activateCnf
  refine .needCarrier fun k => .needLchan fun (id, l) _ => ?_
  refine .modifyLchan (fun _ h => ⟨h.counter, h.queue⟩) (.checked (slotAt_eq k c.chanNr) ?_)
  refine .andThen (changeSlot_follows _ fun t h => h.congr Bridge.lchans_afterActivation)
    fun _ => .told ?_
  split
  · exact .lastTold _
  · exact .succeed _

theorem deactivateCnf_follows (c : ActConfirm) :
    ActFollows ceiling (deactivateCnf site trx c) (Bridge.deactivateCnf site trx c) := by
  unfold deactivateCnf Bridge.deactivateCnf
  refine .needCarrier fun k => .needLchan fun (id, l) _ => ?_
  dsimp only
  split
  · exact .succeed _
  · refine .modifyLchan (fun _ h => h.resetAfterRelease) (.checked (slotAt_eq k c.chanNr) ?_)
    refine .andThen (changeSlot_follows _ fun t h => h.congr Bridge.lchans_afterRelease)
      fun _ => .told ?_
    split
    · exact .kept (fun _ bounds => ⟨bounds, rfl⟩) fun _ => .lastTold _
    · exact .succeed _

theorem cipherCnf_follows (c : CipherConfirm) :
    ActFollows ceiling (cipherCnf trx c : Act σ φ Unit) (Bridge.cipherCnf trx c) := by
  unfold cipherCnf Bridge.cipherCnf
  refine .needCarrier fun k => .needLchan fun (id, l) _ => ?_
  refine .last (.modifyLchan (fun l h => ?_) (.succeed _))
  unfold Lchan.confirmCipher
  split
  · exact ⟨h.counter, h.queue⟩
  · exact h

theorem activate_follows {type : LchanType} :
    ActFollows ceiling (activate site trx n id type)
      (do
        match ← Bridge.handDown site trx
          (.mphInfoReq (.activateReq (Bridge.actRequest n false))) with
        | .error _ => Bridge.refuse (.chanAct .equipmentFailure)
        | .ok () =>
          if site.settings.dtxDl && type != .sdcch then do
            let h ← Bridge.ask site (.dtxAlloc id)
            modify (·.modifyLchan id ({ · with dtx := some h }))
          else pure () : Bridge.Act σ φ Unit) := by
  refine .lift (handDown_follows _) ?_
  rintro (e | _)
  · exact .refused _
  · dsimp only
    split
    · refine .asked fun handle => ?_
      exact .last (.modifyLchan (fun _ h => ⟨h.counter, h.queue⟩) (.succeed _))
    · exact .succeed _

theorem chanAct_follows (tsc : Option UInt8) :
    ActFollows site.settings.radioLinkTimeout (chanAct site trx n tsc)
      (Bridge.chanAct site trx n tsc) := by
  unfold chanAct Bridge.chanAct
  cases addr : ChanAddr.decode n with
  | error e => exact .refused _
  | ok a =>
    dsimp only
    cases Bridge.checkTsc tsc site.settings.tsc with
    | error cause => exact .refused _
    | ok =>
      rw [tn_of_decode addr]
      refine .needCarrier fun k => .checked (slotAt_eq k n) (.needLchan fun (id, l) _ => ?_)
      refine .modifyLchan (fun _ h => ⟨⟨fun h => h, le_max_right _ _⟩, h.queue⟩)
        (.kept (.freeDtx l) fun _ => ?_)
      generalize LchanType.forActivation a.kind _ = type
      -- timers are read for every kind, but set for channels that have a link layer
      by_cases timed : type ≠ .pdtch
      · rw [if_pos timed]
        refine .checked (timers?_eq _ _) ?_
        cases site.settings.t200.forKind? a.kind with
        | none => exact activate_follows
        | some t =>
          dsimp only
          rw [if_pos timed]
          exact .told activate_follows
      · rw [if_neg timed]
        cases site.settings.t200.forKind? a.kind with
        | none => exact activate_follows
        | some t =>
          dsimp only
          rw [if_neg timed]
          exact activate_follows

theorem chanRel_follows : ActFollows ceiling (chanRel site trx n) (Bridge.chanRel site trx n) := by
  unfold chanRel Bridge.chanRel
  refine .needCarrier fun k => .needLchan fun (id, l) _ => ?_
  exact .modifyLchan (fun _ h => ⟨h.counter, h.queue⟩) (.kept (.freeDtx l) fun _ => down_follows _)

theorem chanDeactSacch_follows :
    ActFollows ceiling (chanDeactSacch site trx n) (Bridge.chanDeactSacch site trx n) := by
  unfold chanDeactSacch Bridge.chanDeactSacch
  refine .needCarrier fun k => .needLchan fun (id, l) _ => ?_
  exact .modifyLchan (fun _ h => ⟨h.counter, h.queue⟩) (down_follows _)

theorem lchans_beginSwitch {t t' : Timeslot} {toPdch : Bool} (h : t.beginSwitch? toPdch = some t') :
    t'.lchans = t.lchans := by
  cases toPdch with
  | true => exact Bridge.lchans_beginPdchAct h
  | false => exact Bridge.lchans_beginPdchDeact h

theorem pdchSwitch_follows (tn : UInt8) (toPdch : Bool) :
    ActFollows site.settings.radioLinkTimeout (pdchSwitch site trx tn toPdch)
      (Bridge.pdchSwitch site trx tn toPdch) := by
  unfold pdchSwitch Bridge.pdchSwitch
  refine .needCarrier fun k => .read fun w bounds => ?_
  cases begun : (w.bts.slot? trx tn).bind (·.beginSwitch? toPdch) with
  | none => exact .refused _
  | some t =>
    obtain ⟨t₀, slot, begins⟩ := Option.bind_eq_some_iff.mp begun
    have within : SlotBounds site.settings.radioLinkTimeout t :=
      (bounds trx tn t₀ slot).congr (lchans_beginSwitch begins)
    have number : chanTn (ChanKind.base .tchF ||| tn) = tn :=
      Bridge.chanTn_fullRate (Bridge.tn_lt_of_slot? slot)
    refine .andThen (.written fun w bounds => ⟨bounds.modifySlot fun _ _ => within, rfl⟩)
      fun _ => ?_
    refine .caught ?_ fun r => ?_
    · split
      · exact chanAct_follows none
      · exact chanRel_follows
    · have settled : ActFollows site.settings.radioLinkTimeout
          (changeSlot trx (chanTn (ChanKind.base .tchF ||| tn))
            fun t => { t with flags := t.flags.settle } : Act σ φ Unit) _ :=
        changeSlot_follows _ fun t h => h.congr rfl
      rw [number] at settled
      exact .andThen settled fun _ => .refused r

theorem voiceRx_follows (f : VoiceFrame) :
    ActFollows ceiling (voiceRx id f : Act σ φ Unit) (modify (·.receiveVoice id f)) := by
  intro w bounds
  unfold voiceRx
  rw [get_bind]
  have unchanged (same : w.receiveVoice id f = w) :
      Next ceiling (Except.mapError Failure.refused) w.bts ((pure () : Act σ φ Unit) w)
        ((modify (·.receiveVoice id f) : Bridge.Act σ φ Unit) w) := by
    change Next ceiling _ w.bts _ (Except.ok PUnit.unit, w.receiveVoice id f)
    rw [same]
    exact ActFollows.succeed _ w bounds
  cases known : w.bts.lchan? id with
  | none =>
    exact unchanged (congrArg (fun b => { w with bts := b }) (Bts.modifyLchan_of_none known))
  | some l =>
    have within := (bounds.lchan known).queue
    dsimp only
    by_cases looped : l.loopback = true
    · -- the loopback owns the queue, and the record is written back as it is
      have kept : w.receiveVoice id f = w.modifyLchan id fun l => l :=
        modifyLchan_congr known (if_pos looped)
      rw [if_pos looped]
      exact unchanged (kept.trans (congrArg (fun b => { w with bts := b }) Bts.modifyLchan_same))
    · have queued : w.receiveVoice id f =
          w.modifyLchan id ({ · with queue := (l.queue.push f).1 }) :=
        modifyLchan_congr known (if_neg looped)
      have next : Next ceiling (Except.mapError Failure.refused) w.bts
          ((modify (·.modifyLchan id ({ · with queue := (l.queue.push f).1 })) : Act σ φ Unit) w)
          ((modify (·.modifyLchan id ({ · with queue := (l.queue.push f).1 })) :
            Bridge.Act σ φ Unit) w) :=
        ActFollows.last (.modifyLchan (fun _ h => h.setQueue (within.push f)) (.succeed _)) w bounds
      rw [if_neg looped, push_eq within f]
      change Next ceiling _ w.bts _ (Except.ok PUnit.unit, w.receiveVoice id f)
      rw [queued]
      exact next

/-! ### Inputs -/

theorem unknownUp_follows (p : Prim) :
    ActFollows ceiling (unknownUp site trx p) (Bridge.unknownUp site trx p) :=
  .told (.refused _)

/-- The radio asks for a block of a channel that does not exist. -/
inductive AsksInVain (b : Bts) : Input → Prop where
  | undecodable {trx : UInt8} {r : PhRts} {e : ChanNrError}
      (number : ChanAddr.decode r.chanNr = .error e) : AsksInVain b (.up trx (.phRtsInd r))
  | unknownTrx {trx : UInt8} {r : PhRts} (carrier : b.carrier? trx = none) :
      AsksInVain b (.up trx (.phRtsInd r))

theorem up_next (highest : site.settings.radioLinkTimeout ≤ 64) {p : Prim}
    (asked : ¬ AsksInVain w.bts (.up trx p))
    (bounds : Bounds site.settings.radioLinkTimeout w.bts) :
    Next site.settings.radioLinkTimeout (Except.mapError Failure.refused) w.bts (up site trx p w)
      (Bridge.up site trx p w) := by
  cases p with
  | phRtsInd r =>
    cases addr : ChanAddr.decode r.chanNr with
    | error e => exact absurd (.undecodable addr) asked
    | ok a =>
      cases carrier : w.bts.carrier? trx with
      | none => exact absurd (.unknownTrx carrier) asked
      | some c => exact rtsInd_next addr carrier bounds
  | tchRtsInd r => exact tchRtsInd_follows r w bounds
  | phDataInd d =>
    have taken : ActFollows site.settings.radioLinkTimeout (up site trx (.phDataInd d))
        (Bridge.up site trx (.phDataInd d)) :=
      .lift (tapData_follows d true) fun _ => dataInd_follows highest d
    exact taken w bounds
  | tchInd t => exact tchInd_follows t w bounds
  | phRachInd p => exact (tapRach_follows p).andThen (fun _ => rachInd_follows p) w bounds
  | mphInfoInd m =>
    cases m with
    | time fn => exact timeInd_follows fn w bounds
    | measured m => exact measInd_follows m w bounds
    | _ => exact ActFollows.succeed _ w bounds
  | mphInfoCnf m =>
    cases m with
    | activateCnf c => exact activateCnf_follows c w bounds
    | deactivateCnf c => exact deactivateCnf_follows c w bounds
    | cipherCnf c => exact cipherCnf_follows c w bounds
    | _ => exact ActFollows.succeed _ w bounds
  | phDataReq _ | tchReq _ | mphInfoReq _ => exact unknownUp_follows _ w bounds

/-- From a state in bounds the machine does what the access point does with every input, unless the
radio asks for a block of a channel that does not exist. -/
theorem perform_next (highest : site.settings.radioLinkTimeout ≤ 64) {i : Input}
    (asked : ¬ AsksInVain w.bts i) (bounds : Bounds site.settings.radioLinkTimeout w.bts) :
    Next site.settings.radioLinkTimeout (Except.mapError Failure.refused) w.bts (step site i w)
      (Bridge.step site i w) := by
  cases i with
  | up trx p => exact up_next highest asked bounds
  | down trx p => exact down_follows p w bounds
  | chanAct trx n tsc => exact chanAct_follows tsc w bounds
  | chanRel trx n => exact chanRel_follows w bounds
  | chanDeactSacch trx n => exact chanDeactSacch_follows w bounds
  | chanModify trx n => exact down_follows _ w bounds
  | pdchSwitch trx tn toPdch => exact pdchSwitch_follows tn toPdch w bounds
  | packetReq r => exact down_follows _ w bounds
  | voiceRx id f => exact voiceRx_follows f w bounds

theorem rtsInd_undecodable {r : PhRts} {e : ChanNrError}
    (number : ChanAddr.decode r.chanNr = .error e) :
    Bridge.rtsInd site trx r w = (.error (.breach (.undecodable trx e)), w) ∧
      rtsInd site trx r w = (.error (.raised (Bridge.Breach.undecodable trx e).message), w) := by
  unfold Bridge.rtsInd rtsInd
  rw [number]
  exact ⟨rfl, rfl⟩

theorem rtsInd_unknownTrx {r : PhRts} {a : ChanAddr} (number : ChanAddr.decode r.chanNr = .ok a)
    (carrier : w.bts.carrier? trx = none) :
    Bridge.rtsInd site trx r w = (.error (.breach (.unknownTrx trx)), w) ∧
      rtsInd site trx r w = (.error (.raised (Bridge.Breach.unknownTrx trx).message), w) := by
  unfold Bridge.rtsInd rtsInd
  rw [number]
  dsimp only
  rw [get_bind, access_get_bind, carrier]
  exact ⟨rfl, rfl⟩

/-- Asked in vain, the machine stops with the message of the breach, and nothing is done. -/
theorem step_asksInVain (site : Site σ φ) {i : Input} (asked : AsksInVain w.bts i) :
    ∃ b : Bridge.Breach, Bridge.step site i w = (.error (.breach b), w) ∧
      step site i w = (.error (.raised b.message), w) := by
  cases asked with
  | undecodable number => exact ⟨_, rtsInd_undecodable number⟩
  | @unknownTrx trx r carrier =>
    cases number : ChanAddr.decode r.chanNr with
    | error e => exact ⟨_, rtsInd_undecodable number⟩
    | ok a => exact ⟨_, rtsInd_unknownTrx number carrier⟩

end BaseStation.Machine
