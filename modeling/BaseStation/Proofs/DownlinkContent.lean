import BaseStation.Proofs.FillRotation
import BaseStation.Proofs.Opportunity

/-!
# What a block carries

The block that answers an opportunity in circuit mode has one of four sources: the broadcast party,
the link layer, the SACCH filling and the fill frame. Its content is stated by the answers that the
parties gave, of any length, and by the record of the channel as it was asked
(`circuit_block_content`).
-/

namespace BaseStation.Bridge

variable {σ φ : Type} {site : Site σ φ} {b b' : Bts} {trx : UInt8} {r : PhRts} {id : LchanId}
  {l : Lchan}

/-! ### Readings -/

/-- What a party answered when it was asked for a block. -/
inductive BlockAnswer where
  | link (id : LchanId) (link : Link) (block : Option Frame)
  | broadcast (time : GsmTime) (block : Option MacBlock)
  | paging (time : GsmTime) (agch : Bool) (block : Option MacBlock)
deriving DecidableEq

def Event.blockAnswer? : Event → Option BlockAnswer
  | .call (.dequeue id link) a => some (.link id link a)
  | .call (.bcchBlock t) a => some (.broadcast t a)
  | .call (.ccchBlock t agch) a => some (.paging t agch a)
  | _ => none

/-- The answers of the parties that were asked for a block. -/
def blockAnswers (es : List Event) : List BlockAnswer := es.filterMap Event.blockAnswer?

def Event.blockSent? : Event → Option (UInt8 × PhData)
  | .down trx (.phDataReq d) _ => some (trx, d)
  | _ => none

/-- The blocks that went down, each with its carrier. -/
def blocksSent (es : List Event) : List (UInt8 × PhData) := es.filterMap Event.blockSent?

def Event.facchAnnounced? : Event → Option DtxHandle
  | .call (.dtxFacch h) _ => some h
  | _ => none

/-- The controllers of discontinuous transmission that a signalling block was announced to. -/
def facchAnnounced (es : List Event) : List DtxHandle := es.filterMap Event.facchAnnounced?

instance : Aside Event.blockAnswer? := by constructor <;> intros <;> rfl

instance : Aside Event.blockSent? := by constructor <;> intros <;> rfl

/-! ### The content by its source -/

/-- An unnumbered information frame without contents, filled up to 23 octets. -/
def fillOctets : List UInt8 := [0x03, 0x03, 0x01] ++ List.replicate 20 0x2b

/-- The frame lies in a common control block that is kept for access grants: the blocks begin in
these frames of the control multiframe, take four frames each and are counted from 0. -/
def KeptForAccessGrants (site : Site σ φ) (fn : UInt32) : Prop :=
  ∃ i s, [6, 12, 16, 22, 26, 32, 36, 42, 46][i]? = some s ∧ s ≤ fn.toNat % 51 ∧
    fn.toNat % 51 < s + 4 ∧ i < site.settings.numAgch.toNat

/-- The block of a party, or the fill frame where it has none. -/
structure CommonContent (answer : Option MacBlock) (f : Frame) : Prop where
  unmarked : f.l1 = []
  block : ∀ x, answer = some x → f.octets = x.octets
  fill : answer = none → f.octets = fillOctets

/-- Behind the two octets of the header stands what the link layer answered from its third octet
on, else the filling whose turn it is, else the fill frame. The filling moves on when it is used. -/
structure SacchContent (l : Lchan) (answer : Option Frame) (f : Frame) (l' : Option Lchan) :
    Prop where
  header : f.l1 = [l.msPower, l.rqdTa]
  block : ∀ x, answer = some x → Padded 21 (x.octets.drop 2) f.l2 ∧ l' = some l
  filling : answer = none → ∀ t, l.fill.IsNext t → ∃ x, l.fill.block? t = some x ∧
    f.l2 = x.octets.take 21 ∧ l' = some { l with fill := { l.fill with last := t } }
  fill : answer = none → (∀ t, l.fill.isValid t = false) →
    f.l2 = fillOctets.take 21 ∧ l' = some l

/-- What the link layer answered, of which the controller of discontinuous transmission hears, else
the fill frame, or nothing on a traffic channel in a mode other than signalling. -/
structure MainContent (site : Site σ φ) (kind : ChanKind) (l : Lchan) (answer : Option Frame)
    (announced : List DtxHandle) (f : Frame) : Prop where
  unmarked : f.l1 = []
  block : ∀ x, answer = some x → Padded 23 x.octets f.octets
  announced : announced =
    if answer.isSome ∧ site.settings.dtxDl = true then l.dtx.toList else []
  fill : answer = none → kind.isTraffic = false ∨ l.mode = .signalling → f.octets = fillOctets
  voice : answer = none → kind.isTraffic = true → l.mode ≠ .signalling → f.octets = []

/-- Nothing is sent, and nobody is asked. -/
structure NoContent (answers : List BlockAnswer) (announced : List DtxHandle) (f : Frame) :
    Prop where
  unasked : answers = []
  unannounced : announced = []
  empty : f.octets = []

/-- The content of a dedicated channel's block. -/
def DedicatedContent (site : Site σ φ) (b : Bts) (trx : UInt8) (r : PhRts) (kind : ChanKind)
    (answers : List BlockAnswer) (announced : List DtxHandle) (f : Frame) (b' : Bts) : Prop :=
  match b.findActive? trx r.chanNr with
  | none => NoContent answers announced f
  | some (id, l) =>
    (isSacchLink r.linkId = true → announced = [] ∧ ∃ a, answers = [.link id .acch a] ∧
      SacchContent l a f (b'.lchan? id)) ∧
    (isSacchLink r.linkId = false → ∃ a, answers = [.link id .dcch a] ∧
      MainContent site kind l a announced f)

/-- The content of a block, by the kind of its channel. -/
def BlockContent (site : Site σ φ) (b : Bts) (trx : UInt8) (r : PhRts) (kind : ChanKind)
    (answers : List BlockAnswer) (announced : List DtxHandle) (f : Frame) (b' : Bts) : Prop :=
  match kind with
  | .bcch => announced = [] ∧
    ∃ a, answers = [.broadcast (.ofFrame r.fn.toNat) a] ∧ CommonContent a f
  | .pchAgch => announced = [] ∧ ∃ agch a, answers = [.paging (.ofFrame r.fn.toNat) agch a] ∧
    (agch = true ↔ KeptForAccessGrants site r.fn) ∧ CommonContent a f
  | .rach | .pdch => NoContent answers announced f
  | .tchF | .tchH | .sdcch4 | .sdcch8 =>
    DedicatedContent site b trx r kind answers announced f b'

/-! ### Each source -/

/-- The common control blocks do not overlap, so a frame lies in at most one. -/
theorem isAgchFrame_iff (site : Site σ φ) (fn : UInt32) :
    isAgchFrame site fn = true ↔ KeptForAccessGrants site fn := by
  have apart : ccchBlockStarts.Pairwise fun s s' => s + 4 ≤ s' := by decide
  have block : ∀ i, ccchBlock? fn.toNat = some i ↔ ∃ s, ccchBlockStarts[i]? = some s ∧
      s ≤ fn.toNat % 51 ∧ fn.toNat % 51 < s + 4 := by
    intro i
    rw [ccchBlock?, List.findIdx?_eq_some_iff_getElem]
    constructor
    · rintro ⟨hi, inside, -⟩
      refine ⟨_, List.getElem?_eq_getElem hi, ?_⟩
      simpa using inside
    · rintro ⟨s, hs, inside⟩
      obtain ⟨hi, rfl⟩ := List.getElem?_eq_some_iff.mp hs
      refine ⟨hi, by simpa using inside, fun j hj => ?_⟩
      have before := List.pairwise_iff_getElem.mp apart j i (by omega) hi hj
      -- an earlier block is over by then
      have behind : ¬ fn.toNat % controlMultiframe < ccchBlockStarts[j] + 4 := by
        change ¬ fn.toNat % 51 < _
        omega
      simp [behind]
  rw [isAgchFrame]
  constructor
  · intro h
    cases hb : ccchBlock? fn.toNat with
    | none => rw [hb] at h; exact nomatch h
    | some i =>
      rw [hb] at h
      obtain ⟨s, hs, start, stop⟩ := (block i).mp hb
      exact ⟨i, s, hs, start, stop, of_decide_eq_true h⟩
  · rintro ⟨i, s, hs, start, stop, few⟩
    rw [(block i).mpr ⟨s, hs, start, stop⟩]
    exact decide_eq_true few

theorem commonContent (a : Option MacBlock) : CommonContent a (.ofBlock (a.getD .fill)) where
  unmarked := rfl
  block _ h := by rw [h]; rfl
  fill h := by rw [h]; rfl

theorem sacchContent_block (l : Lchan) (x : Frame) : SacchContent l (some x)
    (.ofParts [l.msPower, l.rqdTa]
      (padTo (blockLength - sacchHeaderLength) (x.octets.drop sacchHeaderLength))) (some l) where
  header := Frame.l1_ofParts _ _
  block _ h := by
    cases h
    rw [Frame.l2_ofParts]
    exact ⟨padded_padTo 21 _, rfl⟩
  filling := nofun
  fill := nofun

theorem sacchContent_filling (l : Lchan) : SacchContent l none
    (.ofParts [l.msPower, l.rqdTa] ((l.fill.next.1.getD .fill).octets.take
      (blockLength - sacchHeaderLength))) (some { l with fill := l.fill.next.2 }) where
  header := Frame.l1_ofParts _ _
  block := nofun
  filling _ t turn := by
    obtain ⟨x, hx⟩ := Option.isSome_iff_exists.mp turn.valid
    refine ⟨x, hx, ?_, ?_⟩
    · rw [Frame.l2_ofParts, SacchFill.next_of_isNext turn, hx]
      rfl
    · rw [SacchFill.next_of_isNext turn]
  fill _ invalid := by
    have silent := l.fill.next_eq_none_iff.mpr invalid
    constructor
    · rw [Frame.l2_ofParts, silent]
      rfl
    · rw [SacchFill.next_eq_self silent]

theorem facchAnnounced_facchEvents :
    facchAnnounced (facchEvents site l) = if site.settings.dtxDl = true then l.dtx.toList else [] := by
  unfold facchEvents
  cases l.dtx with
  | none => simp [facchAnnounced]
  | some h =>
    dsimp only
    split <;> rfl

theorem mainContent_block (kind : ChanKind) (l : Lchan) (x : Frame) :
    MainContent site kind l (some x) (facchAnnounced (facchEvents site l))
      (.ofL2 (padTo blockLength x.octets)) where
  unmarked := rfl
  block _ h := by
    cases h
    exact padded_padTo 23 x.octets
  announced := by
    rw [facchAnnounced_facchEvents]
    simp
  fill := nofun
  voice := nofun

theorem mainContent_idle (kind : ChanKind) (l : Lchan) :
    MainContent site kind l none [] (idleFrame kind l) where
  unmarked := by
    unfold idleFrame
    split <;> rfl
  block := nofun
  announced := by simp
  fill _ idle := by
    have signalling : (!kind.isTraffic || l.mode == .signalling) = true := by simpa using idle
    rw [idleFrame, if_pos signalling]
    rfl
  voice _ traffic speech := by
    have voiced : ¬ (!kind.isTraffic || l.mode == .signalling) = true := by simp [traffic, speech]
    rw [idleFrame, if_neg voiced]
    rfl

/-! ### The block of an opportunity -/

theorem DedicatedContent.of_inactive {kind : ChanKind} (free : b.findActive? trx r.chanNr = none) :
    DedicatedContent site b trx r kind [] [] .empty b' := by
  rw [DedicatedContent, free]
  exact ⟨rfl, rfl, rfl⟩

theorem DedicatedContent.of_sacch {kind : ChanKind} {a : Option Frame} {f : Frame}
    (found : b.findActive? trx r.chanNr = some (id, l)) (link : isSacchLink r.linkId = true)
    (content : SacchContent l a f (b'.lchan? id)) :
    DedicatedContent site b trx r kind [.link id .acch a] [] f b' := by
  rw [DedicatedContent, found]
  refine ⟨fun _ => ⟨rfl, a, rfl, content⟩, fun main => ?_⟩
  rw [link] at main
  exact nomatch main

theorem DedicatedContent.of_main {kind : ChanKind} {a : Option Frame} {announced : List DtxHandle}
    {f : Frame} (found : b.findActive? trx r.chanNr = some (id, l))
    (link : isSacchLink r.linkId = false) (content : MainContent site kind l a announced f) :
    DedicatedContent site b trx r kind [.link id .dcch a] announced f b' := by
  rw [DedicatedContent, found]
  refine ⟨fun sacch => ?_, fun _ => ⟨a, rfl, content⟩⟩
  rw [link] at sacch
  exact nomatch sacch

theorem BlockContent.of_dedicated {kind : ChanKind} {answers : List BlockAnswer}
    {announced : List DtxHandle} {f : Frame} (dedicated : kind.isCommon = false)
    (h : DedicatedContent site b trx r kind answers announced f b') :
    BlockContent site b trx r kind answers announced f b' := by
  cases kind with
  | bcch | pchAgch | rach | pdch => exact nomatch dedicated
  | tchF | tchH | sdcch4 | sdcch8 => exact h

theorem CircuitBlock.content {kind : ChanKind} {f : Frame} {q : Option CipherRequest}
    {es : List Event} (h : CircuitBlock site trx r b kind f q b' es) :
    BlockContent site b trx r kind (blockAnswers es) (facchAnnounced es) f b' := by
  cases h with
  | broadcast a => exact ⟨rfl, a, rfl, commonContent a⟩
  | paging a => exact ⟨rfl, _, a, rfl, isAgchFrame_iff site r.fn, commonContent a⟩
  | silent common => rcases common with rfl | rfl <;> exact ⟨rfl, rfl, rfl⟩
  | inactive dedicated free => exact .of_dedicated dedicated (.of_inactive free)
  | sacch dedicated found link x =>
    refine .of_dedicated dedicated (.of_sacch found link ?_)
    rw [lchan?_of_findActive? found]
    exact sacchContent_block _ x
  | filling dedicated found link =>
    refine .of_dedicated dedicated (.of_sacch found link ?_)
    rw [Bts.lchan?_setLchan_self (lchan?_of_findActive? found)]
    exact sacchContent_filling _
  | @main _ id l dedicated found link x =>
    have asked : blockAnswers (.call (.dequeue id .dcch) (some x) :: facchEvents site l) =
        [.link id .dcch (some x)] := by
      simp [blockAnswers, Event.blockAnswer?]
    rw [asked]
    exact .of_dedicated dedicated (.of_main found link (mainContent_block kind l x))
  | idle dedicated found link =>
    exact .of_dedicated dedicated (.of_main found link (mainContent_idle kind _))

/-- Every block is empty or has 23 octets. -/
theorem CircuitBlock.size {kind : ChanKind} {f : Frame} {q : Option CipherRequest}
    {es : List Event} (h : CircuitBlock site trx r b kind f q b' es) :
    f.octets = [] ∨ f.octets.length = 23 := by
  have whole : ∀ x : MacBlock, (Frame.ofBlock x).octets.length = 23 := fun x => x.length_octets
  cases h with
  | broadcast a => exact .inr (whole _)
  | paging a => exact .inr (whole _)
  | silent | inactive => exact .inl rfl
  | sacch =>
    refine .inr ?_
    simp only [Frame.ofParts, List.length_append, length_padTo]
    rfl
  | filling =>
    refine .inr ?_
    simp only [Frame.ofParts, List.length_append, List.length_take, MacBlock.length_octets]
    rfl
  | main _ _ _ x => exact .inr (length_padTo 23 _)
  | idle =>
    unfold idleFrame
    split
    · exact .inr (whole _)
    · exact .inl rfl

theorem facchAnnounced_downEvents {p : Prim} {a : Except PhyError Unit} :
    facchAnnounced (downEvents trx p a) = [] := by
  unfold downEvents
  rcases a with e | ⟨⟩
  · cases e <;> rfl
  · rfl

theorem facchAnnounced_requestEvents {q : Option CipherRequest} {a : Except PhyError Unit} :
    facchAnnounced (requestEvents trx q a) = [] := by
  cases q with
  | none => rfl
  | some c => exact facchAnnounced_downEvents

theorem CircuitBlock.unsent {kind : ChanKind} {f : Frame} {q : Option CipherRequest}
    {es : List Event} (h : CircuitBlock site trx r b kind f q b' es) : blocksSent es = [] :=
  filterMap_of_unordered h.readings.1 fun _ _ => rfl

/-- Every opportunity of a decodable channel number on a timeslot in circuit mode is answered by one
block, which is empty or has 23 octets and the content that its channel asks for, whatever blocks
the parties hand out. -/
theorem circuit_block_content (site : Site σ φ) (w : World σ φ) {trx : UInt8} {c : Carrier}
    {r : PhRts} {a : ChanAddr} (carrier : w.bts.carrier? trx = some c)
    (addr : ChanAddr.decode r.chanNr = .ok a) (circuit : (c.slotOf r.chanNr).isPdch = false) :
    ∃ es f, (step site (.up trx (.phRtsInd r)) w).2.trace = w.trace ++ es ∧
      blocksSent es = [(trx, .request r.chanNr r.linkId r.fn f)] ∧
      (f.octets = [] ∨ f.octets.length = 23) ∧
      BlockContent site w.bts trx r a.kind (blockAnswers es) (facchAnnounced es) f
        (step site (.up trx (.phRtsInd r)) w).2.bts := by
  obtain ⟨es, ht, h⟩ := step_outcome site (.up trx (.phRtsInd r)) w
  refine ⟨es, ?_⟩
  have outcome := h.rtsOutcome
  generalize (step site (.up trx (.phRtsInd r)) w).1 = res at outcome
  generalize (step site (.up trx (.phRtsInd r)) w).2.bts = b' at outcome ⊢
  cases outcome with
  | undecodable bad => rw [bad] at addr; exact nomatch addr
  | unknownTrx _ unknown => rw [unknown] at carrier; exact nomatch carrier
  | looped _ carrier' packet =>
    cases carrier'.symm.trans carrier
    rw [packet] at circuit
    exact nomatch circuit
  | packet _ carrier' packet =>
    cases carrier'.symm.trans carrier
    rw [packet] at circuit
    exact nomatch circuit
  | @circuit _ _ f q _ es addr' _ _ block answer answer' =>
    cases addr'.symm.trans addr
    refine ⟨f, ht, ?_, block.size, ?_⟩
    · have sent := block.unsent
      simp only [blocksSent] at sent
      simp [blocksSent, sent, Event.blockSent?]
    · have content := block.content
      -- the parties are asked while the block is made up, not when it is sent
      have answers : blockAnswers (es ++ (requestEvents trx q answer ++ downEvents trx
          (.phDataReq (.request r.chanNr r.linkId r.fn f)) answer')) = blockAnswers es := by
        simp [blockAnswers, Event.blockAnswer?]
      have announced : facchAnnounced (es ++ (requestEvents trx q answer ++ downEvents trx
          (.phDataReq (.request r.chanNr r.linkId r.fn f)) answer')) = facchAnnounced es := by
        rw [facchAnnounced, List.filterMap_append, List.filterMap_append, ← facchAnnounced,
          ← facchAnnounced, ← facchAnnounced, facchAnnounced_requestEvents,
          facchAnnounced_downEvents, List.append_nil, List.append_nil]
      rw [answers, announced]
      exact content

/-- A traffic channel whose slow link has a block of one octet to send, shorter than the header. -/
def shortBlockWorld : World ScriptedServices ScriptedPhy :=
  run scriptedSite (scriptedWorld (ScriptedServices.fresh.enqueue ⟨0, 1, 0⟩ .acch (.ofL2 [0x05])))
    [.chanAct 0 0x09 none, .up 0 (.mphInfoCnf (.activateCnf ⟨0x09, 0⟩))]

/-- Nothing of a block that is shorter than the header is sent: behind the header stands padding. -/
theorem short_block_padded : ∃ es f,
    (step scriptedSite (.up 0 (.phRtsInd ⟨0x09, 0x40, 0⟩)) shortBlockWorld).2.trace =
      shortBlockWorld.trace ++ es ∧
    blocksSent es = [(0, .request 0x09 0x40 0 f)] ∧ Padded 21 [] f.l2 := by
  obtain ⟨c, carrier⟩ : ∃ c, shortBlockWorld.bts.carrier? 0 = some c :=
    Option.isSome_iff_exists.mp (by decide +kernel)
  have circuit : (shortBlockWorld.bts.carrier? 0).map (fun c => (c.slotOf 0x09).isPdch) =
      some false := by decide +kernel
  rw [carrier, Option.map_some, Option.some.injEq] at circuit
  have active : shortBlockWorld.bts.findActive? 0 0x09 = some (⟨0, 1, 0⟩,
      { Lchan.fresh ⟨0, 1, 0⟩ .tchF with state := .active, s := 32 }) := by decide +kernel
  obtain ⟨es, f, ht, sent, -, content⟩ := circuit_block_content scriptedSite shortBlockWorld
    (r := ⟨0x09, 0x40, 0⟩) (a := ⟨.tchF, 1, none⟩) carrier rfl circuit
  have answered : blockAnswers ((shortBlockWorld.trace ++ es).drop shortBlockWorld.trace.length) =
      [.link ⟨0, 1, 0⟩ .acch (some (.ofL2 [0x05]))] := by
    rw [← ht]
    decide +kernel
  rw [List.drop_left] at answered
  refine ⟨es, f, ht, sent, ?_⟩
  dsimp only [BlockContent] at content
  rw [DedicatedContent, active] at content
  obtain ⟨-, a, asked, sacch⟩ := content.1 rfl
  rw [answered] at asked
  cases asked
  exact (sacch.block _ rfl).1

end BaseStation.Bridge
