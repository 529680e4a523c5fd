import BaseStation.Proofs.Ciphering
import Mathlib.Data.List.DropRight

/-!
What the ciphering state of a channel says of the radio. The state goes on with the request, and a
refusal is logged and not undone: the state tells what the radio was asked for since the last
release, not what it took. Only the confirm of the uplink is the radio's own word.
-/

namespace BaseStation.Bridge

variable {σ φ : Type} {site : Site σ φ} {trx : UInt8} {id : LchanId} {l l' : Lchan}
  {es : List Event} {t : Turn} {ts us : List Turn}

/-! ### Requests with their answers -/

/-- A ciphering request, and whether the radio took it. -/
abbrev AnsweredRequest := CipherRequest × Except PhyError Unit

def Event.cipherAnswer? : Event → Option (UInt8 × AnsweredRequest)
  | .down trx (.mphInfoReq (.cipherReq c)) a => some (trx, c, a)
  | _ => none

/-- The ciphering requests to the radio with their answers, each with its carrier. -/
def cipherAnswers (es : List Event) : List (UInt8 × AnsweredRequest) :=
  es.filterMap Event.cipherAnswer?

theorem cipherAnswers_map (es : List Event) :
    (cipherAnswers es).map (fun q => (q.1, q.2.1)) = cipherRequests es := by
  unfold cipherAnswers cipherRequests
  rw [List.map_filterMap]
  refine List.filterMap_congr fun e _ => ?_
  cases e with
  | down _ p _ =>
    cases p with
    | mphInfoReq i => cases i <;> rfl
    | _ => rfl
  | _ => rfl

/-- The ciphering requests of a turn that are about a channel, with their answers. -/
def Turn.cipherAnswersFor (id : LchanId) (t : Turn) : List AnsweredRequest :=
  ((cipherAnswers t.events).filter fun q => t.before.locate? q.1 q.2.1.chanNr = some id).map (·.2)

theorem cipherAnswersFor_map (id : LchanId) (t : Turn) :
    (t.cipherAnswersFor id).map (·.1) = t.cipherRequestsFor id := by
  unfold Turn.cipherAnswersFor Turn.cipherRequestsFor
  rw [← cipherAnswers_map, List.filter_map, List.map_map, List.map_map]
  rfl

theorem cipherAnswersFor_of_none (none : t.cipherRequestsFor id = []) :
    t.cipherAnswersFor id = [] := by
  rw [← cipherAnswersFor_map] at none
  exact List.map_eq_nil_iff.mp none

theorem cipherAnswersFor_of_one {c : CipherRequest} (one : t.cipherRequestsFor id = [c]) :
    ∃ a, t.cipherAnswersFor id = [(c, a)] := by
  rw [← cipherAnswersFor_map, List.map_eq_singleton_iff] at one
  obtain ⟨⟨_, a⟩, one, rfl⟩ := one
  exact ⟨a, one⟩

/-! ### Since the last release -/

/-- The ciphering requests for a channel since its last release. -/
def requestsSince (id : LchanId) (ts : List Turn) : List AnsweredRequest :=
  (ts.rtakeWhile fun t => ¬ t.Releases id).flatMap (Turn.cipherAnswersFor id)

theorem requestsSince_snoc_of_releases (released : t.Releases id) :
    requestsSince id (ts ++ [t]) = [] := by
  unfold requestsSince
  rw [List.rtakeWhile_concat_neg _ _ _ (by simpa using released)]
  rfl

theorem requestsSince_snoc (up : ¬ t.Releases id) :
    requestsSince id (ts ++ [t]) = requestsSince id ts ++ t.cipherAnswersFor id := by
  unfold requestsSince
  rw [List.rtakeWhile_concat_pos _ _ _ (by simpa using up), List.flatMap_append,
    List.flatMap_singleton]

/-- The ciphering state of a channel is what the radio was asked for. -/
structure CipherAsked (qs : List AnsweredRequest) (l : Lchan) : Prop where
  uplink : l.cipher ≠ .none ↔ ∃ q ∈ qs, q.1.uplink = true
  downlink : (qs.filter (·.1.downlink)).length = if l.cipher = .txEnabled then 1 else 0

theorem cipherAsked_nil (none : l.cipher = .none) : CipherAsked [] l :=
  ⟨by simp [none], by simp [none]⟩

/-- The downlink is taken to be ciphered once it was asked for. -/
theorem CipherAsked.enabled_iff {qs : List AnsweredRequest} (h : CipherAsked qs l) :
    l.cipher = .txEnabled ↔ ∃ q ∈ qs, q.1.downlink = true := by
  have asked : (∃ q ∈ qs, q.1.downlink = true) ↔ 0 < (qs.filter (·.1.downlink)).length := by
    simp [List.length_pos_iff_exists_mem]
  rw [asked, h.downlink]
  split <;> simp_all

theorem CipherAsked.snoc (h : CipherAsked (requestsSince id ts) l) (takes : t.Takes site id l l') :
    CipherAsked (requestsSince id (ts ++ [t])) l' := by
  by_cases released : t.Releases id
  · rw [requestsSince_snoc_of_releases released]
    exact cipherAsked_nil (takes.cipher_of_releases released)
  rw [requestsSince_snoc released]
  -- a turn without requests that leaves the two marks of the state alone
  have quiet (unasked : t.cipherRequestsFor id = [])
      (some : l'.cipher = .none ↔ l.cipher = .none)
      (enabled : l'.cipher = .txEnabled ↔ l.cipher = .txEnabled) :
      CipherAsked (requestsSince id ts ++ t.cipherAnswersFor id) l' := by
    rw [cipherAnswersFor_of_none unasked, List.append_nil]
    exact ⟨(not_congr some).trans h.uplink, by simp only [enabled, h.downlink]⟩
  cases takes.cipherStep with
  | keep state _ unasked => exact quiet unasked (by rw [state]) (by rw [state])
  | command _ located _ _ _ _ asked before after =>
    obtain ⟨a, one⟩ := cipherAnswersFor_of_one (cipherRequestsFor_of_one asked located)
    have none : (requestsSince id ts).filter (·.1.downlink) = [] := by
      rw [← List.length_eq_zero_iff, h.downlink, if_neg]
      rcases before with h | h <;> simp [h]
    rw [one]
    exact ⟨by simp [after], by simp [after, none]⟩
  | confirm _ _ _ _ unasked before after =>
    exact quiet (cipherRequestsFor_of_none unasked) (by simp [before, after])
      (by simp [before, after])
  | enable _ located _ asked before after =>
    obtain ⟨a, one⟩ := cipherAnswersFor_of_one (cipherRequestsFor_of_one asked located)
    have none : (requestsSince id ts).filter (·.1.downlink) = [] := by
      rw [← List.length_eq_zero_iff, h.downlink, if_neg (by simp [before])]
    obtain ⟨q, hq, uplink⟩ := h.uplink.mp (by simp [before])
    rw [one]
    refine ⟨?_, by simp [after, none]⟩
    exact ⟨fun _ => ⟨q, List.mem_append_left _ hq, uplink⟩, fun _ => by simp [after]⟩
  | reset _ _ told => exact absurd (t.releases_of_told told) released

theorem CipherAsked.append (h : CipherAsked (requestsSince id ts) l)
    (track : Track site id l us l') : CipherAsked (requestsSince id (ts ++ us)) l' :=
  track.history_induction (P := fun ts l => CipherAsked (requestsSince id ts) l) h CipherAsked.snoc

/-! ### Ahead of the radio -/

/-- Requests of a kind were made, and none of them was taken. -/
def RefusedThroughout (asks : CipherRequest → Bool) (qs : List AnsweredRequest) : Prop :=
  (∃ q ∈ qs, asks q.1 = true) ∧ ∀ q ∈ qs, asks q.1 = true → q.2 ≠ .ok ()

theorem refusedThroughout_iff {asks : CipherRequest → Bool} {qs : List AnsweredRequest} :
    RefusedThroughout asks qs ↔ ¬ ((∃ q ∈ qs, asks q.1 = true) →
      ∃ q ∈ qs, asks q.1 = true ∧ q.2 = .ok ()) := by
  unfold RefusedThroughout
  push Not
  rfl

/-- The ciphering state of a channel does not run ahead of what the radio took since the last
release. -/
def KeepsPace (id : LchanId) (ts : List Turn) (l : Lchan) : Prop :=
  (l.cipher ≠ .none → ∃ q ∈ requestsSince id ts, q.1.uplink = true ∧ q.2 = .ok ()) ∧
  (l.cipher = .txEnabled → ∃ q ∈ requestsSince id ts, q.1.downlink = true ∧ q.2 = .ok ())

/-- The ciphering state of a channel is what the radio was asked for since the last release, and
counts as confirmed only by the word of the radio. -/
structure FollowsRequests (id : LchanId) (ts : List Turn) (l : Lchan) : Prop where
  uplink : l.cipher ≠ .none ↔ ∃ q ∈ requestsSince id ts, q.1.uplink = true
  downlink : l.cipher = .txEnabled ↔ ∃ q ∈ requestsSince id ts, q.1.downlink = true
  once : ((requestsSince id ts).filter (·.1.downlink)).length ≤ 1
  confirmed : l.cipher = .rxConfirmed ∨ l.cipher = .txEnabled → UplinkConfirmed id ts

theorem FollowsRequests.ahead_iff (h : FollowsRequests id ts l) : ¬ KeepsPace id ts l ↔
    RefusedThroughout (·.uplink) (requestsSince id ts) ∨
      RefusedThroughout (·.downlink) (requestsSince id ts) := by
  rw [refusedThroughout_iff, refusedThroughout_iff, ← h.uplink, ← h.downlink, ← not_and_or]
  rfl

/-- In every run the ciphering state of a channel is past its start exactly when the radio was
asked to decipher the uplink since the last release, and at its end exactly when it was asked to
cipher the downlink, whether the radio took the request or not. So the state runs ahead of the
radio just when all that was asked for a direction was refused. -/
theorem cipher_progress_follows_requests (site : Site σ φ) (c : Config) (filter : Capture.Filter)
    (services : σ) (phy : φ) (ms : List Move) {id : LchanId} {l₀ : Lchan}
    (known : (Bts.ofConfig c).lchan? id = some l₀) :
    ∃ l, (run site (.fresh c filter services phy) ms).bts.lchan? id = some l ∧
      FollowsRequests id (history site (.fresh c filter services phy) ms) l ∧
      (¬ KeepsPace id (history site (.fresh c filter services phy) ms) l ↔
        RefusedThroughout (·.uplink)
          (requestsSince id (history site (.fresh c filter services phy) ms)) ∨
        RefusedThroughout (·.downlink)
          (requestsSince id (history site (.fresh c filter services phy) ms))) := by
  obtain ⟨l, after, track⟩ := track_history site (w := .fresh c filter services phy) ms known
  obtain ⟨type, fresh⟩ := Bts.lchan?_ofConfig known
  have none : l₀.cipher = .none := by rw [fresh]; rfl
  have asked : CipherAsked (requestsSince id []) l₀ := cipherAsked_nil none
  have asked := asked.append track
  have told := (cipherKnown_nil none).append track
  rw [List.nil_append] at asked told
  have follows : FollowsRequests id (history site (.fresh c filter services phy) ms) l := by
    refine ⟨asked.uplink, asked.enabled_iff, ?_, told.confirmed.mpr⟩
    rw [asked.downlink]
    split <;> decide
  exact ⟨l, after, follows, follows.ahead_iff⟩

/-! ### Radios that refuse -/

/-- A radio that refuses some ciphering requests and takes all else. -/
def refusingLink (refuses : CipherRequest → Bool) : PhyLink Unit where
  down
    | _, .mphInfoReq (.cipherReq c), r =>
      (if refuses c then PhyMode.io.answer (.mphInfoReq (.cipherReq c)) else .ok (), r)
    | _, _, r => (.ok (), r)
  disconnect _ _ r := (.ok (), r)
  indications _ _ := []
  takePending r := ([], r)

def refusingSite (refuses : CipherRequest → Bool) : Site ScriptedServices Unit :=
  ⟨.ofConfig scriptedConfig, ScriptedServices.services, refusingLink refuses⟩

/-- The cell on a radio of its own, just set up, with a CIPHERING MODE COMMAND to send. -/
def commandedWorld : World ScriptedServices Unit :=
  .fresh scriptedConfig .empty commandingParties ()

/-- The connection up to the command. -/
def sentCommandMoves : List Move := commandedMoves.take 3

/-- The connection up to the frame that acknowledges the command. -/
def acknowledgedMoves : List Move := commandedMoves ++ [acknowledgingMove]

theorem requestsSince_refusedDownlink :
    requestsSince ⟨0, 1, 0⟩ (history (refusingSite (·.downlink)) commandedWorld
      acknowledgedMoves) =
      [(⟨0x09, false, true⟩, .ok ()), (⟨0x09, true, false⟩, .error (.io "link down"))] := by
  decide +kernel

/-- The uplink is confirmed and then the downlink refused: ciphering counts as complete. -/
theorem refused_downlink_enabled : ∃ l,
    (run (refusingSite (·.downlink)) commandedWorld acknowledgedMoves).bts.lchan? ⟨0, 1, 0⟩ =
      some l ∧ l.cipher = .txEnabled := by
  have known : (Bts.ofConfig scriptedConfig).lchan? ⟨0, 1, 0⟩ = some (.fresh ⟨0, 1, 0⟩ .tchF) := by
    decide +kernel
  obtain ⟨l, after, follows, -⟩ := cipher_progress_follows_requests (refusingSite (·.downlink))
    scriptedConfig .empty commandingParties () acknowledgedMoves known
  refine ⟨l, after, follows.downlink.mpr ?_⟩
  rw [← commandedWorld, requestsSince_refusedDownlink]
  exact ⟨_, List.mem_cons_of_mem _ List.mem_cons_self, rfl⟩

/-- With the uplink refused the state of the channel runs ahead of the radio at its start, and with
the downlink refused at its end. -/
theorem refused_requests_counted :
    (∃ l, (run (refusingSite (·.uplink)) commandedWorld sentCommandMoves).bts.lchan? ⟨0, 1, 0⟩ =
        some l ∧ l.cipher = .rxRequested ∧ ¬ KeepsPace ⟨0, 1, 0⟩
          (history (refusingSite (·.uplink)) commandedWorld sentCommandMoves) l) ∧
    ∃ l, (run (refusingSite (·.downlink)) commandedWorld acknowledgedMoves).bts.lchan?
        ⟨0, 1, 0⟩ = some l ∧ l.cipher = .txEnabled ∧ ¬ KeepsPace ⟨0, 1, 0⟩
          (history (refusingSite (·.downlink)) commandedWorld acknowledgedMoves) l := by
  have requested : ((run (refusingSite (·.uplink)) commandedWorld sentCommandMoves).bts.lchan?
      ⟨0, 1, 0⟩).map (·.cipher) = some .rxRequested := by decide +kernel
  have asked : requestsSince ⟨0, 1, 0⟩ (history (refusingSite (·.uplink)) commandedWorld
      sentCommandMoves) = [(⟨0x09, false, true⟩, .error (.io "link down"))] := by decide +kernel
  have enabled : ((run (refusingSite (·.downlink)) commandedWorld acknowledgedMoves).bts.lchan?
      ⟨0, 1, 0⟩).map (·.cipher) = some .txEnabled := by decide +kernel
  obtain ⟨l, hl, requested⟩ := Option.map_eq_some_iff.mp requested
  obtain ⟨l', hl', enabled⟩ := Option.map_eq_some_iff.mp enabled
  refine ⟨⟨l, hl, requested, ?_⟩, l', hl', enabled, ?_⟩
  · rintro ⟨pace, -⟩
    have taken := pace (by simp [requested])
    rw [asked] at taken
    simp at taken
  · rintro ⟨-, pace⟩
    have taken := pace enabled
    rw [requestsSince_refusedDownlink] at taken
    simp at taken

end BaseStation.Bridge
