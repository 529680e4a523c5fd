import BaseStation.Proofs.Ciphering
import BaseStation.Proofs.DownlinkContent
import BaseStation.Proofs.Reception

/-!
# What the ciphering heuristic recognises

The two checks read single bits of a frame. They agree with the parsers: a block asks for ciphering
exactly when it parses as a CIPHERING MODE COMMAND of the network, and a frame completes it exactly
when it parses as an information frame of the mobile station that acknowledges the command. The
block is judged as the link layer hands it out, of whatever length, and would be judged the same as
it goes on the air: padding neither makes a command nor hides one.

Blocks are looked at until the radio confirms the uplink. The frame that is waited for acknowledges
the command that was the latest then, and commands sent later do not count.
-/

namespace BaseStation

/-! ### The frames by their parsers -/

/-- A CIPHERING MODE COMMAND: a SAPI 0 command of the network with the radio resource discriminator
and the type of that message behind the octet of the length. -/
structure CipherCommand (xs : List UInt8) : Prop where
  length : 5 ≤ xs.length
  address : ∃ h, Lapdm.Header.parse xs = .ok h ∧ h.addressOctet = 0x03
  message : Layer3.Header.parse (xs.drop 3) = .ok ⟨0x06, 0x35⟩

/-- An information frame in a SAPI 0 response of the mobile station, with the receive number `nr`. -/
def InfoResponse (nr : UInt8) (xs : List UInt8) : Prop :=
  ∃ h ns p, Lapdm.Header.parse xs = .ok h ∧ h.addressOctet = 0x01 ∧ h.control = .info ns p nr

variable {xs ys : List UInt8} {l : Lchan} {n a c x p t : UInt8} {rest : List UInt8}

theorem parse_cons : Lapdm.Header.parse (a :: c :: rest) = .ok ⟨a, .ofOctet a, .ofOctet c⟩ := rfl

theorem parse_eq_ok {h : Lapdm.Header} (parsed : Lapdm.Header.parse xs = .ok h) :
    ∃ a c rest, xs = a :: c :: rest ∧ h = ⟨a, .ofOctet a, .ofOctet c⟩ := by
  match xs with
  | [] => exact nomatch parsed
  | [_] => exact nomatch parsed
  | a :: c :: rest => exact ⟨a, c, rest, rfl, (Except.ok.inj parsed).symm⟩

/-- The address octet of a network command in its fields; the spare bit is the highest one. -/
theorem address_network_iff {h : Lapdm.Header} (parsed : Lapdm.Header.parse xs = .ok h) :
    h.addressOctet = 0x03 ↔ h.address = ⟨0, 0, true, true⟩ ∧ h.addressOctet &&& 0x80 = 0 := by
  obtain ⟨a, c, rest, -, rfl⟩ := parse_eq_ok parsed
  have every : ∀ i : Fin 256, UInt8.ofFin i = 0x03 ↔
      Lapdm.Address.ofOctet (.ofFin i) = ⟨0, 0, true, true⟩ ∧ UInt8.ofFin i &&& 0x80 = 0 := by
    decide +kernel
  exact every a.toFin

theorem control_eq_info {ns nr : UInt8} {p : Bool} : Lapdm.Control.ofOctet c = .info ns p nr ↔
    c &&& 0x01 = 0 ∧ (c >>> 1) &&& 0x07 = ns ∧ (c &&& 0x10 != 0) = p ∧ c >>> 5 = nr := by
  unfold Lapdm.Control.ofOctet
  split
  · rename_i even
    simp [even]
  · rename_i odd
    split <;> simp [odd]

/-! ### The downlink -/

theorem isCipheringModeCommand_cons :
    isCipheringModeCommand (a :: c :: x :: p :: t :: rest) = true ↔
      a = 0x03 ∧ p &&& 0x0f = 0x06 ∧ t &&& 0x3f = 0x35 := by
  have long : ¬ (a :: c :: x :: p :: t :: rest).length < cipherCommandLength := by
    change ¬ rest.length + 5 < 5
    omega
  have message : Layer3.Header.parse ((a :: c :: x :: p :: t :: rest).drop Lapdm.l3Offset) =
      .ok ⟨p &&& 0x0f, t &&& 0x3f⟩ := rfl
  unfold isCipheringModeCommand
  rw [message]
  by_cases network : a = 0x03
  · have passed : ¬ ((a :: c :: x :: p :: t :: rest).length < cipherCommandLength ||
        (a :: c :: x :: p :: t :: rest).head? != some Lapdm.Address.networkCommand) = true := by
      rw [Bool.or_eq_true, decide_eq_true_eq, not_or]
      exact ⟨long, by simp [network, Lapdm.Address.networkCommand]⟩
    rw [if_neg passed]
    by_cases rr : p &&& 0x0f = 0x06
    · by_cases type : t &&& 0x3f = 0x35
      · simp [Layer3.Header.expectRr, Layer3.Header.isRr, Layer3.Pdisc.code, Layer3.RrMessage.code,
          network, rr, type, Except.toBool]
      · simp [Layer3.Header.expectRr, Layer3.Header.isRr, Layer3.Pdisc.code, Layer3.RrMessage.code,
          rr, type, Except.toBool]
    · simp [Layer3.Header.expectRr, Layer3.Header.isRr, Layer3.Pdisc.code, rr, Except.toBool]
  · rw [if_pos (by simp [network, Lapdm.Address.networkCommand])]
    simp [network]

theorem isCipheringModeCommand_short (short : xs.length < 5) : isCipheringModeCommand xs = false := by
  unfold isCipheringModeCommand
  rw [if_pos (by simp [cipherCommandLength, Lapdm.l3Offset, short])]

theorem cipherCommand_cons : CipherCommand (a :: c :: x :: p :: t :: rest) ↔
    a = 0x03 ∧ p &&& 0x0f = 0x06 ∧ t &&& 0x3f = 0x35 := by
  have message : Layer3.Header.parse ((a :: c :: x :: p :: t :: rest).drop 3) =
      .ok ⟨p &&& 0x0f, t &&& 0x3f⟩ := rfl
  constructor
  · rintro ⟨-, ⟨h, parsed, network⟩, command⟩
    rw [parse_cons] at parsed
    cases parsed
    rw [message, Except.ok.injEq, Layer3.Header.mk.injEq] at command
    exact ⟨network, command⟩
  · rintro ⟨network, rr, type⟩
    refine ⟨by simp, ⟨_, parse_cons, network⟩, ?_⟩
    rw [message, rr, type]

/-- Five octets at least are five octets and the rest. -/
theorem exists_cons_of_length (long : 5 ≤ xs.length) :
    ∃ a c x p t rest, xs = a :: c :: x :: p :: t :: rest := by
  match xs, long with
  | a :: c :: x :: p :: t :: rest, _ => exact ⟨a, c, x, p, t, rest, rfl⟩

theorem isCipheringModeCommand_iff : isCipheringModeCommand xs = true ↔ CipherCommand xs := by
  by_cases long : 5 ≤ xs.length
  · obtain ⟨a, c, x, p, t, rest, rfl⟩ := exists_cons_of_length long
    rw [isCipheringModeCommand_cons, cipherCommand_cons]
  · rw [isCipheringModeCommand_short (Nat.lt_of_not_le long)]
    exact iff_of_false Bool.false_ne_true fun command => long command.length

/-- Padding does not make a command: it stands where the type would, or behind it. -/
theorem CipherCommand.of_padded (padded : Padded 23 xs ys) (command : CipherCommand ys) :
    5 ≤ xs.length := by
  by_contra short
  obtain ⟨a, c, x, p, t, rest, rfl⟩ := exists_cons_of_length command.length
  have filled := padded.octet 4 (by decide)
  have beyond : xs[4]? = none := List.getElem?_eq_none (by omega)
  rw [beyond] at filled
  obtain rfl : t = 0x2b := Option.some.inj filled
  exact absurd (cipherCommand_cons.mp command).2.2 (by decide)

theorem isCipheringModeCommand_padded (padded : Padded 23 xs ys) :
    isCipheringModeCommand ys = isCipheringModeCommand xs := by
  by_cases long : 5 ≤ xs.length
  · obtain ⟨a, c, x, p, t, rest, rfl⟩ := exists_cons_of_length long
    have cut : ys = a :: c :: x :: p :: t :: padTo 18 rest := by
      rw [padded.eq_padTo, padTo, padTo]
      simp
    rw [cut, Bool.eq_iff_iff, isCipheringModeCommand_cons, isCipheringModeCommand_cons]
  · rw [isCipheringModeCommand_short (Nat.lt_of_not_le long), Bool.eq_false_iff]
    exact fun command => long (CipherCommand.of_padded padded (isCipheringModeCommand_iff.mp command))

namespace Lchan

/-- The check of a downlink block agrees with the parsers, on the block as it is and as it is cut or
padded for the air. -/
structure DownlinkAgrees (l : Lchan) (n : UInt8) (xs : List UInt8) : Prop where
  fires : (l.checkDownlink n xs).2 ≠ none ↔
    (l.cipher = .none ∨ l.cipher = .rxRequested) ∧ CipherCommand xs
  address : ∀ h, Lapdm.Header.parse xs = .ok h → (h.addressOctet = 0x03 ↔
    h.address = ⟨0, 0, true, true⟩ ∧ h.addressOctet &&& 0x80 = 0)
  fired : ∀ q, (l.checkDownlink n xs).2 = some q → q = ⟨n, false, true⟩ ∧
    ∃ ns, (l.checkDownlink n xs).1 = { l with cipher := .rxRequested, cipherNs := ns }
  stored : (l.checkDownlink n xs).2 ≠ none → ∀ h ns p nr, Lapdm.Header.parse xs = .ok h →
    h.control = .info ns p nr → (l.checkDownlink n xs).1.cipherNs = (ns + 1) % 8
  kept : (l.checkDownlink n xs).2 = none → (l.checkDownlink n xs).1 = l
  padded : ∀ ys, Padded 23 xs ys → l.checkDownlink n ys = l.checkDownlink n xs

theorem checkDownlink_ne_none : (l.checkDownlink n xs).2 ≠ none ↔
    (l.cipher = .none ∨ l.cipher = .rxRequested) ∧ isCipheringModeCommand xs = true := by
  unfold checkDownlink
  split
  · rename_i both
    simp [both]
  · rename_i other
    simp [other]

theorem checkDownlink_of_fires (fires : (l.checkDownlink n xs).2 ≠ none) : l.checkDownlink n xs =
    ({ l with cipher := .rxRequested, cipherNs := Bridge.awaitedNumber xs },
      some ⟨n, false, true⟩) := by
  rw [checkDownlink, if_pos (checkDownlink_ne_none.mp fires)]
  rfl

theorem checkDownlink_of_silent (silent : (l.checkDownlink n xs).2 = none) :
    l.checkDownlink n xs = (l, none) := by
  rw [checkDownlink, if_neg fun both => checkDownlink_ne_none.mpr both silent]

theorem awaitedNumber_eq {h : Lapdm.Header} {ns nr : UInt8} {p : Bool}
    (parsed : Lapdm.Header.parse xs = .ok h) (info : h.control = .info ns p nr) :
    Bridge.awaitedNumber xs = (ns + 1) % 8 := by
  obtain ⟨a, c, rest, rfl, rfl⟩ := parse_eq_ok parsed
  rw [← (control_eq_info.mp info).2.1]
  rfl

theorem checkDownlink_padded (l : Lchan) (n : UInt8) (padded : Padded 23 xs ys) :
    l.checkDownlink n ys = l.checkDownlink n xs := by
  unfold checkDownlink
  rw [isCipheringModeCommand_padded padded]
  by_cases both : (l.cipher = .none ∨ l.cipher = .rxRequested) ∧ isCipheringModeCommand xs = true
  · -- a command has an octet with its send number, which the padding leaves as it is
    have long := (isCipheringModeCommand_iff.mp both.2).length
    have number : ys.getD 1 0 = xs.getD 1 0 := by
      rw [List.getD_eq_getElem?_getD, List.getD_eq_getElem?_getD, padded.octet 1 (by decide),
        List.getElem?_eq_getElem (by omega)]
      rfl
    rw [if_pos both, if_pos both, number]
  · rw [if_neg both, if_neg both]

theorem downlinkAgrees (l : Lchan) (n : UInt8) (xs : List UInt8) : l.DownlinkAgrees n xs where
  fires := by rw [checkDownlink_ne_none, isCipheringModeCommand_iff]
  address _ parsed := address_network_iff parsed
  fired q hq := by
    have fires : (l.checkDownlink n xs).2 ≠ none := by simp [hq]
    rw [checkDownlink_of_fires fires] at hq ⊢
    exact ⟨(Option.some.inj hq).symm, _, rfl⟩
  stored fires h ns p nr parsed info := by
    rw [checkDownlink_of_fires fires]
    exact awaitedNumber_eq parsed info
  kept silent := by rw [checkDownlink_of_silent silent]
  padded _ padded := checkDownlink_padded l n padded

/-! ### The uplink -/

/-- The check of an uplink frame agrees with the parsers. -/
structure UplinkAgrees (l : Lchan) (n : UInt8) (xs : List UInt8) : Prop where
  fires : (l.checkUplink n xs).2 ≠ none ↔ l.cipher = .rxConfirmed ∧ InfoResponse l.cipherNs xs
  fired : ∀ q, (l.checkUplink n xs).2 = some q →
    q = ⟨n, true, false⟩ ∧ (l.checkUplink n xs).1 = { l with cipher := .txEnabled }
  kept : (l.checkUplink n xs).2 = none → (l.checkUplink n xs).1 = l

theorem acknowledges_iff {nr : UInt8} : acknowledges nr xs = true ↔ InfoResponse nr xs := by
  constructor
  · intro h
    match xs with
    | [] => exact nomatch h
    | [_] => exact nomatch h
    | a :: c :: rest =>
      simp only [acknowledges, Bool.and_eq_true, beq_iff_eq] at h
      obtain ⟨⟨address, even⟩, number⟩ := h
      exact ⟨_, _, _, parse_cons, address, control_eq_info.mpr ⟨even, rfl, rfl, number⟩⟩
  · rintro ⟨h, ns, p, parsed, address, info⟩
    obtain ⟨a, c, rest, rfl, rfl⟩ := parse_eq_ok parsed
    obtain ⟨even, -, -, number⟩ := control_eq_info.mp info
    simp only [acknowledges, Bool.and_eq_true, beq_iff_eq]
    exact ⟨⟨address, even⟩, number⟩

theorem checkUplink_ne_none : (l.checkUplink n xs).2 ≠ none ↔
    l.cipher = .rxConfirmed ∧ acknowledges l.cipherNs xs = true := by
  unfold checkUplink
  split
  · rename_i both
    simp [both]
  · rename_i other
    simp [other]

theorem uplinkAgrees (l : Lchan) (n : UInt8) (xs : List UInt8) : l.UplinkAgrees n xs where
  fires := by rw [checkUplink_ne_none, acknowledges_iff]
  fired q hq := by
    have fires := checkUplink_ne_none.mp (show (l.checkUplink n xs).2 ≠ none by simp [hq])
    rw [checkUplink, if_pos fires] at hq ⊢
    exact ⟨(Option.some.inj hq).symm, rfl⟩
  kept silent := by
    have other : ¬ (l.cipher = .rxConfirmed ∧ acknowledges l.cipherNs xs = true) :=
      fun both => checkUplink_ne_none.mpr both silent
    rw [checkUplink, if_neg other]

end Lchan

namespace Bridge

variable {σ φ : Type} {site : Site σ φ} {b b' : Bts} {trx : UInt8} {id : LchanId} {l' : Lchan}
  {r : Except Failure Unit} {es : List Event} {t : Turn} {ts us : List Turn} {f : Frame}

/-! ### On the air -/

theorem mem_blockAnswers_link {link : Link} {x : Option Frame} :
    .link id link x ∈ blockAnswers es ↔ .call (.dequeue id link) x ∈ es := by
  constructor
  · intro asked
    obtain ⟨e, he, read⟩ := List.mem_filterMap.mp asked
    unfold Event.blockAnswer? at read
    split at read <;> cases read
    exact he
  · intro dequeued
    exact List.mem_filterMap.mpr ⟨_, dequeued, rfl⟩

/-- Blocks are asked of the link layer to answer an opportunity, and for nothing else. -/
theorem StepOutcome.rts_of_dequeued {i : Input} {link : Link} {x : Option Frame}
    (h : StepOutcome site b i r b' es) (dequeued : .call (.dequeue id link) x ∈ es) :
    ∃ trx p, i = .up trx (.phRtsInd p) := by
  cases h.causes _ dequeued with
  | dequeue => exact ⟨_, _, rfl⟩

/-- A block that the link layer handed out for the main link is the one that is sent. -/
theorem CircuitBlock.of_dequeued {p : PhRts} {kind : ChanKind} {g : Frame}
    {q : Option CipherRequest} (block : CircuitBlock site trx p b kind g q b' es)
    (dequeued : .link id .dcch (some f) ∈ blockAnswers es) :
    ∃ l, b.findActive? trx p.chanNr = some (id, l) ∧ g = .ofL2 (padTo blockLength f.octets) ∧
      q = (l.checkDownlink p.chanNr f.octets).2 ∧
      b'.lchan? id = some (l.checkDownlink p.chanNr f.octets).1 := by
  cases block with
  | @main _ j l _ found _ g =>
    have here : (id, some f) = (j, some g) := by
      simpa [blockAnswers, filterMap_event, Event.blockAnswer?] using dequeued
    cases here
    exact ⟨l, found, rfl, rfl, Bts.lchan?_setLchan_self (lchan?_of_findActive? found)⟩
  | sacch | filling | idle | broadcast | paging =>
    simp [blockAnswers, Event.blockAnswer?] at dequeued
  | silent | inactive => exact absurd dequeued List.not_mem_nil

/-- A block of the main link goes down cut or padded, and it was judged before that. -/
theorem RtsOutcome.sent_of_dequeued {p : PhRts} (h : RtsOutcome site trx p b r b' es)
    (dequeued : .link id .dcch (some f) ∈ blockAnswers es) :
    ∃ l, b.findActive? trx p.chanNr = some (id, l) ∧
      blocksSent es = [(trx, .request p.chanNr p.linkId p.fn (.ofL2 (padTo blockLength f.octets)))] ∧
      cipherRequests es =
        ((l.checkDownlink p.chanNr f.octets).2.map fun c => (trx, c)).toList ∧
      b'.lchan? id = some (l.checkDownlink p.chanNr f.octets).1 := by
  cases h with
  | @circuit _ _ g q _ es _ _ _ block answer answer' =>
    have answers : blockAnswers (es ++ (requestEvents trx q answer ++ downEvents trx
        (.phDataReq (.request p.chanNr p.linkId p.fn g)) answer')) = blockAnswers es := by
      simp [blockAnswers, Event.blockAnswer?]
    rw [answers] at dequeued
    obtain ⟨l, found, rfl, rfl, after⟩ := block.of_dequeued dequeued
    have unsent : es.filterMap Event.blockSent? = [] := block.unsent
    have unasked : es.filterMap Event.cipherRequest? = [] :=
      filterMap_of_unordered block.readings.1 fun _ _ => rfl
    refine ⟨l, found, ?_, ?_, after⟩
    · simp [blocksSent, Event.blockSent?, unsent]
    · cases (l.checkDownlink p.chanNr f.octets).2 <;>
        simp [cipherRequests, Event.cipherRequest?, unasked]
  | packet => simp [blockAnswers, Event.blockAnswer?] at dequeued
  | looped => simp [blockAnswers, Event.blockAnswer?] at dequeued
  | undecodable | unknownTrx => exact absurd dequeued List.not_mem_nil

theorem Turn.Lawful.sent_of_dequeued (h : t.Lawful site)
    (dequeued : .call (.dequeue id .dcch) (some f) ∈ t.events) :
    ∃ (trx : UInt8) (p : PhRts) (l : Lchan), t.before.findActive? trx p.chanNr = some (id, l) ∧
      blocksSent t.events =
        [(trx, .request p.chanNr p.linkId p.fn (.ofL2 (padTo blockLength f.octets)))] ∧
      cipherRequests t.events =
        ((l.checkDownlink p.chanNr f.octets).2.map fun c => (trx, c)).toList ∧
      t.after.lchan? id = some (l.checkDownlink p.chanNr f.octets).1 := by
  obtain ⟨before, m, res, events, after⟩ := t
  cases m with
  | write j x => exact absurd dequeued (by rw [h.2.2]; exact List.not_mem_nil)
  | input i outside =>
    obtain ⟨trx, p, rfl⟩ := StepOutcome.rts_of_dequeued h dequeued
    have outcome := StepOutcome.rtsOutcome h
    exact ⟨trx, p, outcome.sent_of_dequeued (mem_blockAnswers_link.mpr dequeued)⟩

/-! ### The latest command -/

/-- A CIPHERING MODE COMMAND goes out on the main link of a channel. -/
def Turn.SendsCommand (id : LchanId) (f : Frame) (t : Turn) : Prop :=
  .call (.dequeue id .dcch) (some f) ∈ t.events ∧ CipherCommand f.octets

/-- The latest command of a channel: none was sent behind it. -/
def LatestCommand (id : LchanId) (ts : List Turn) (f : Frame) : Prop :=
  ∃ pre u mid, ts = pre ++ u :: mid ∧ u.SendsCommand id f ∧
    ∀ s ∈ mid, ∀ g, ¬ s.SendsCommand id g

/-- The latest command of a channel when the radio confirmed its uplink, with no release since. -/
def CommandInForce (id : LchanId) (ts : List Turn) (f : Frame) : Prop :=
  ∃ pre c post, ts = pre ++ c :: post ∧
    (UplinkAsked id pre ∧ ¬ UplinkConfirmed id pre ∧ c.ConfirmsUplink id) ∧
    LatestCommand id pre f ∧ ∀ s ∈ c :: post, ¬ s.Releases id

/-- A turn hands an information frame to the link layer that acknowledges each of some commands. -/
def Turn.Acknowledges (id : LchanId) (commands : Frame → Prop) (t : Turn) : Prop :=
  ∃ link d nr, .call (.dataUp id link d) () ∈ t.events ∧ InfoResponse nr d.frame.octets ∧
    ∀ f h n p nr', commands f → Lapdm.Header.parse f.octets = .ok h →
      h.control = .info n p nr' → nr = (n + 1) % 8

theorem latestCommand_snoc : LatestCommand id (ts ++ [t]) f ↔
    t.SendsCommand id f ∨ LatestCommand id ts f ∧ ∀ g, ¬ t.SendsCommand id g := by
  unfold LatestCommand
  rw [exists_split_snoc]
  constructor
  · rintro (⟨sends, -⟩ | ⟨pre, u, mid, split, sends, later⟩)
    · exact .inl sends
    · obtain ⟨earlier, last⟩ := List.forall_mem_append.mp later
      exact .inr ⟨⟨pre, u, mid, split, sends, earlier⟩, last t (List.mem_singleton_self t)⟩
  · rintro (sends | ⟨⟨pre, u, mid, split, sends, earlier⟩, last⟩)
    · exact .inl ⟨sends, List.forall_mem_nil _⟩
    · exact .inr ⟨pre, u, mid, split, sends,
        List.forall_mem_append.mpr ⟨earlier, List.forall_mem_singleton.mpr last⟩⟩

theorem commandInForce_snoc : CommandInForce id (ts ++ [t]) f ↔ ¬ t.Releases id ∧
    ((UplinkAsked id ts ∧ ¬ UplinkConfirmed id ts ∧ t.ConfirmsUplink id) ∧ LatestCommand id ts f ∨
      CommandInForce id ts f) := by
  unfold CommandInForce
  rw [exists_split_snoc]
  constructor
  · rintro (⟨first, latest, up⟩ | ⟨pre, c, post, split, first, latest, up⟩)
    · exact ⟨up t (List.mem_singleton_self t), .inl ⟨first, latest⟩⟩
    · obtain ⟨earlier, last⟩ := List.forall_mem_append.mp (List.cons_append ▸ up)
      exact ⟨last t (List.mem_singleton_self t), .inr ⟨pre, c, post, split, first, latest, earlier⟩⟩
  · rintro ⟨up, ⟨first, latest⟩ | ⟨pre, c, post, split, first, latest, earlier⟩⟩
    · exact .inl ⟨first, latest, List.forall_mem_singleton.mpr up⟩
    · exact .inr ⟨pre, c, post, split, first, latest,
        List.forall_mem_append.mpr ⟨earlier, List.forall_mem_singleton.mpr up⟩⟩

theorem CommandInForce.confirmed (h : CommandInForce id ts f) : UplinkConfirmed id ts := by
  obtain ⟨pre, c, post, split, ⟨asked, -, confirms⟩, -, up⟩ := h
  exact uplinkConfirmed_iff.mpr ⟨pre, c, post, split, asked, confirms, up⟩

/-- Until the uplink is confirmed, a command that is sent has it asked for, and the number of the
command is stored. -/
theorem Turn.Takes.of_sendsCommand (h : t.Takes site id l l') (sends : t.SendsCommand id f)
    (early : l.cipher = .none ∨ l.cipher = .rxRequested) :
    t.cipherRequestsFor id ≠ [] ∧ l'.cipherNs = awaitedNumber f.octets := by
  obtain ⟨dequeued, command⟩ := sends
  obtain ⟨trx, p, k, found, -, requests, after⟩ := h.lawful.sent_of_dequeued dequeued
  obtain rfl : k = l := Option.some.inj ((lchan?_of_findActive? found).symm.trans h.before)
  have fires : (k.checkDownlink p.chanNr f.octets).2 ≠ none :=
    Lchan.checkDownlink_ne_none.mpr ⟨early, isCipheringModeCommand_iff.mpr command⟩
  rw [Lchan.checkDownlink_of_fires fires] at requests after
  constructor
  · rw [cipherRequestsFor_of_one requests (located_of_findActive? found)]
    exact List.cons_ne_nil _ _
  · rw [Option.some.inj (h.after.symm.trans after)]

/-- There is a command of some kind, and each of the kind is acknowledged by the number. -/
def Awaits (commands : Frame → Prop) (n : UInt8) : Prop :=
  (∃ f, commands f) ∧ ∀ f, commands f → n = awaitedNumber f.octets

/-- While the uplink is asked for, the number stored for a channel is the one behind the latest
command's. Once it is confirmed the number stays with the command that was the latest then. -/
structure Commanded (id : LchanId) (ts : List Turn) (l : Lchan) : Prop where
  known : CipherKnown id ts l
  requested : l.cipher = .rxRequested → Awaits (LatestCommand id ts) l.cipherNs
  confirmed : l.cipher = .rxConfirmed → Awaits (CommandInForce id ts) l.cipherNs

theorem Commanded.requested_snoc (h : Commanded id ts l) (takes : t.Takes site id l l')
    (waits : l'.cipher = .rxRequested) : Awaits (LatestCommand id (ts ++ [t])) l'.cipherNs := by
  cases takes.cipherStep with
  | keep state number unasked =>
    rw [state] at waits
    rw [number]
    -- a command in this turn would have been recognised
    have quiet : ∀ g, ¬ t.SendsCommand id g :=
      fun g sends => (takes.of_sendsCommand sends (.inr waits)).1 unasked
    have same : LatestCommand id (ts ++ [t]) = LatestCommand id ts := by
      funext f
      rw [latestCommand_snoc, eq_iff_iff]
      exact ⟨fun latest => latest.resolve_left (quiet f) |>.1, fun latest => .inr ⟨latest, quiet⟩⟩
    rw [same]
    exact h.requested waits
  | @command _ _ _ f _ _ _ _ dequeued command _ early =>
    have sends : t.SendsCommand id f := ⟨dequeued, isCipheringModeCommand_iff.mp command⟩
    refine ⟨⟨f, latestCommand_snoc.mpr (.inl sends)⟩, fun g latest => ?_⟩
    rcases latestCommand_snoc.mp latest with sent | ⟨-, quiet⟩
    · exact (takes.of_sendsCommand sent early).2
    · exact absurd sends (quiet f)
  | confirm _ _ _ _ _ _ after | enable _ _ _ _ _ after | reset _ _ _ _ after =>
    rw [after] at waits
    cases waits

theorem Commanded.confirmed_snoc (h : Commanded id ts l) (takes : t.Takes site id l l')
    (waits : l'.cipher = .rxConfirmed) : Awaits (CommandInForce id (ts ++ [t])) l'.cipherNs := by
  have up : ¬ t.Releases id := by
    intro released
    rw [takes.cipher_of_releases released] at waits
    cases waits
  cases takes.cipherStep with
  | keep state number =>
    rw [state] at waits
    rw [number]
    -- the uplink was confirmed before, so this turn does not confirm it for the first time
    have confirmed := h.known.confirmed.mpr (.inl waits)
    have same : CommandInForce id (ts ++ [t]) = CommandInForce id ts := by
      funext f
      rw [commandInForce_snoc, eq_iff_iff]
      exact ⟨fun ⟨_, now⟩ => now.resolve_left fun ⟨first, _⟩ => first.2.1 confirmed,
        fun held => ⟨up, .inr held⟩⟩
    rw [same]
    exact h.confirmed waits
  | confirm move located uplink good _ before _ number =>
    rw [number]
    have asked := h.known.asked.mpr (by simp [before])
    have unconfirmed := mt h.known.confirmed.mp (by simp [before])
    have same : CommandInForce id (ts ++ [t]) = LatestCommand id ts := by
      funext f
      rw [commandInForce_snoc, eq_iff_iff]
      refine ⟨fun ⟨_, now⟩ => ?_, fun latest =>
        ⟨up, .inl ⟨⟨asked, unconfirmed, _, _, _, move, located, uplink, good⟩, latest⟩⟩⟩
      rcases now with ⟨-, latest⟩ | held
      · exact latest
      · exact absurd held.confirmed unconfirmed
    rw [same]
    exact h.requested before
  | command _ _ _ _ _ _ _ _ after | enable _ _ _ _ _ after | reset _ _ _ _ after =>
    rw [after] at waits
    cases waits

theorem Commanded.append (h : Commanded id ts l) (track : Track site id l us l') :
    Commanded id (ts ++ us) l' :=
  track.history_induction h fun before first =>
    ⟨before.known.snoc first, before.requested_snoc first, before.confirmed_snoc first⟩

theorem commanded_nil (none : l.cipher = .none) : Commanded id [] l :=
  ⟨cipherKnown_nil none, by simp [none], by simp [none]⟩

/-- The frame with which the downlink is asked for goes to the link layer, and acknowledges by the
number stored. -/
theorem DataOutcome.acknowledged {d : PhData} {c : CipherRequest}
    (h : DataOutcome site trx d b r b' es) (asked : cipherRequests es = [(trx, c)])
    (located : b.locate? trx d.chanNr = some id) (hl : b.lchan? id = some l) :
    ∃ link d', .call (.dataUp id link d') () ∈ es ∧ InfoResponse l.cipherNs d'.frame.octets := by
  have judged : ∀ k : Lchan, ∀ xs : List UInt8, k.cipherNs = l.cipherNs →
      ((k.checkUplink d.chanNr xs).2.bind fun c => some (trx, c)).toList = [(trx, c)] →
      InfoResponse l.cipherNs xs := by
    intro k xs number one
    have fires : (k.checkUplink d.chanNr xs).2 ≠ none := by
      intro silent
      rw [silent] at one
      exact nomatch one
    rw [← number]
    exact ((k.uplinkAgrees d.chanNr xs).fires.mp fires).2
  cases h with
  | @main _ j k _ _ found =>
    obtain rfl : j = id := Option.some.inj ((located_of_findActive? found).symm.trans located)
    obtain rfl : k = l := Option.some.inj ((lchan?_of_findActive? found).symm.trans hl)
    refine ⟨.ofId d.linkId, { d with frame := d.frame.dropL1 }, ?_, ?_⟩
    · simp [deliverEvents]
    · refine judged { k with handover := .none } d.frame.l2 rfl ?_
      rw [← asked]
      simp [cipherRequests, Event.cipherRequest?]
  | @sacch _ j k k' _ _ found _ _ _ _ _ header =>
    obtain rfl : j = id := Option.some.inj ((located_of_findActive? found).symm.trans located)
    obtain rfl : k = l := Option.some.inj ((lchan?_of_findActive? found).symm.trans hl)
    refine ⟨.ofId d.linkId, { sacchMarked d with frame := (sacchMarked d).frame.dropL1 }, ?_, ?_⟩
    · simp [deliverEvents]
    · obtain ⟨s, same⟩ := supervised_eq site { k with handover := .none } false
      refine judged k' (sacchMarked d).frame.l2 (by rw [header, same]; rfl) ?_
      rw [← asked]
      simp [cipherRequests, Event.cipherRequest?]
  | _ => simp [cipherRequests, filterMap_event, Event.cipherRequest?] at asked

theorem Turn.Takes.acknowledged (h : t.Takes site id l l') (asked : downlinkRequests id [t] ≠ []) :
    ∃ link d, .call (.dataUp id link d) () ∈ t.events ∧
      InfoResponse l.cipherNs d.frame.octets := by
  obtain ⟨before, m, res, events, after⟩ := t
  cases h.cipherStep with
  | keep _ _ unasked => exact absurd (downlinkRequests_of_none unasked) asked
  | command _ located _ _ _ _ one =>
    exact absurd (by simp [downlinkRequests, cipherRequestsFor_of_one one located]) asked
  | confirm _ _ _ _ unasked | reset _ _ _ unasked =>
    exact absurd (downlinkRequests_of_none (cipherRequestsFor_of_none unasked)) asked
  | @enable trx d o move located _ one =>
    dsimp only at move
    subst move
    exact (StepOutcome.dataOutcome h.lawful).acknowledged one located h.before

/-- The ciphering heuristic agrees with the parsers on every frame, and with what is on the air in
every run: a block is judged as it goes down, and a frame has the downlink ciphered only if it is an
information frame that acknowledges the latest command sent before the uplink was confirmed. -/
theorem cipher_heuristic_agrees (site : Site σ φ) (c : Config) (filter : Capture.Filter)
    (services : σ) (phy : φ) (ms : List Move) {id : LchanId} {l₀ : Lchan}
    (known : (Bts.ofConfig c).lchan? id = some l₀) :
    (∀ (l : Lchan) n xs, l.DownlinkAgrees n xs ∧ l.UplinkAgrees n xs) ∧
    (∀ t ∈ history site (.fresh c filter services phy) ms, ∀ f : Frame,
      .call (.dequeue id .dcch) (some f) ∈ t.events →
        ∃ (trx : UInt8) (p : PhRts) (l : Lchan) (g : Frame),
        t.before.lchan? id = some l ∧ Padded 23 f.octets g.octets ∧
        blocksSent t.events = [(trx, .request p.chanNr p.linkId p.fn g)] ∧
        cipherRequests t.events =
          ((l.checkDownlink p.chanNr g.octets).2.map fun q => (trx, q)).toList ∧
        t.after.lchan? id = some (l.checkDownlink p.chanNr g.octets).1) ∧
    ∀ pre t post, history site (.fresh c filter services phy) ms = pre ++ t :: post →
      downlinkRequests id [t] ≠ [] →
        (∃ f, CommandInForce id pre f) ∧ t.Acknowledges id (CommandInForce id pre) := by
  obtain ⟨l', -, track⟩ := track_history site (w := .fresh c filter services phy) ms known
  obtain ⟨type, fresh⟩ := Bts.lchan?_ofConfig known
  refine ⟨fun l n xs => ⟨l.downlinkAgrees n xs, l.uplinkAgrees n xs⟩, ?_, ?_⟩
  · intro t ht f dequeued
    obtain ⟨trx, p, l, found, sent, requests, after⟩ :=
      (lawful_of_mem_history ht).sent_of_dequeued dequeued
    have padded : Padded 23 f.octets (Frame.ofL2 (padTo blockLength f.octets)).octets :=
      padded_padTo 23 f.octets
    refine ⟨trx, p, l, _, lchan?_of_findActive? found, padded, sent, ?_, ?_⟩
    · rw [Lchan.checkDownlink_padded l p.chanNr padded]
      exact requests
    · rw [Lchan.checkDownlink_padded l p.chanNr padded]
      exact after
  · intro pre t post split asked
    rw [split] at track
    obtain ⟨k, k', before, takes, -⟩ := track.split
    have start : Commanded id [] l₀ := commanded_nil (by rw [fresh]; rfl)
    have commanded : Commanded id pre k := start.append before
    obtain ⟨some, awaited⟩ := commanded.confirmed (takes.confirmed_of_downlink asked)
    obtain ⟨link, d, told, info⟩ := takes.acknowledged asked
    refine ⟨some, link, d, k.cipherNs, told, info, fun f h n p nr' held parsed control => ?_⟩
    rw [awaited f held, Lchan.awaitedNumber_eq parsed control]

/-- On a traffic channel that was commanded to cipher, the frame that completes the bootstrap
acknowledges the command. -/
theorem command_acknowledged :
    (∃ f, CommandInForce ⟨0, 1, 0⟩
      (history scriptedSite (scriptedWorld commandingParties) commandedMoves) f) ∧
    (turnOf scriptedSite (run scriptedSite (scriptedWorld commandingParties) commandedMoves)
      acknowledgingMove).Acknowledges ⟨0, 1, 0⟩ (CommandInForce ⟨0, 1, 0⟩
        (history scriptedSite (scriptedWorld commandingParties) commandedMoves)) := by
  have known : (Bts.ofConfig scriptedConfig).lchan? ⟨0, 1, 0⟩ = some (.fresh ⟨0, 1, 0⟩ .tchF) := by
    decide +kernel
  have asked : downlinkRequests ⟨0, 1, 0⟩ [turnOf scriptedSite (run scriptedSite
      (scriptedWorld commandingParties) commandedMoves) acknowledgingMove] =
        [⟨0x09, true, false⟩] := by
    decide +kernel
  exact (cipher_heuristic_agrees scriptedSite scriptedConfig .empty commandingParties .accepting
    (commandedMoves ++ [acknowledgingMove]) known).2.2 _ _ [] (history_append ..)
    fun none => absurd (asked.symm.trans none) (by decide)

/-- Parties with a second command behind the first. -/
def recommandingParties : ScriptedServices :=
  commandingParties.enqueue ⟨0, 1, 0⟩ .dcch (.ofL2 [0x03, 0x22, 0x0d, 0x06, 0x35, 0x11])

/-- A connection whose second command goes out once the radio has confirmed the uplink. -/
def recommandedMoves : List Move := commandedMoves ++ [.up 0 (.phRtsInd ⟨0x09, 0, 4⟩)]

/-- A command that is sent once the uplink is confirmed is not looked at: the frame that
acknowledges the one before it completes the bootstrap. -/
theorem later_command_not_awaited :
    ¬ ∀ pre t post, history scriptedSite (scriptedWorld recommandingParties)
        (recommandedMoves ++ [acknowledgingMove]) = pre ++ t :: post →
      downlinkRequests ⟨0, 1, 0⟩ [t] ≠ [] →
        t.Acknowledges ⟨0, 1, 0⟩ (LatestCommand ⟨0, 1, 0⟩ pre) := by
  intro every
  have asked : downlinkRequests ⟨0, 1, 0⟩ [turnOf scriptedSite (run scriptedSite
      (scriptedWorld recommandingParties) recommandedMoves) acknowledgingMove] =
        [⟨0x09, true, false⟩] := by
    decide +kernel
  obtain ⟨link, d, nr, told, info, acknowledges⟩ := every _ _ [] (history_append ..)
    fun none => absurd (asked.symm.trans none) (by decide)
  have latest : LatestCommand ⟨0, 1, 0⟩ (history scriptedSite (scriptedWorld recommandingParties)
      recommandedMoves) (.ofL2 [0x03, 0x22, 0x0d, 0x06, 0x35, 0x11]) := by
    rw [recommandedMoves, history_append]
    refine latestCommand_snoc.mpr (.inl ⟨mem_blockAnswers_link.mp ?_, ?_⟩)
    · decide +kernel
    · exact cipherCommand_cons.mpr (by decide)
  -- the latest command has the send number 1, and the frame the receive number 1
  have behind := acknowledges _ _ _ _ _ latest rfl rfl
  have heard : calls (turnOf scriptedSite (run scriptedSite (scriptedWorld recommandingParties)
      recommandedMoves) acknowledgingMove).events = [.dataUp ⟨0, 1, 0⟩ .dcch
        ⟨0x09, 0, 4, -60, 0, 0, 100, .both, .ofL2 [0x01, 0x20, 0x01]⟩] := by
    decide +kernel
  have told : .dataUp ⟨0, 1, 0⟩ link d ∈ calls (turnOf scriptedSite (run scriptedSite
      (scriptedWorld recommandingParties) recommandedMoves) acknowledgingMove).events :=
    List.mem_filterMap.mpr ⟨_, told, rfl⟩
  rw [heard, List.mem_singleton] at told
  cases told
  have received := Lchan.acknowledges_iff.mpr info
  rw [behind] at received
  exact absurd received (by decide)

end Bridge
end BaseStation
