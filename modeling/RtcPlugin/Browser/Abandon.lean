import RtcPlugin.Browser.Client

/-! Calls the page leaves behind on the server.

Whatever ends a call on the page runs `cleanupCall`, but only `hangup` tells the
server. `Careful` is the condition under which nothing else drops a call that is
still up, and no answer names a call the page cannot hold. -/
namespace RtcPlugin.Browser

/-- The candidates a resumed `startCall` goes on with, where it can. -/
def Stage.rest : Stage → Option (List Json)
  | .answer candidates => candidates
  | .candidate rest => some rest
  | .media | .offer | .localDescription | .response => none

namespace Client

/-- The server has ended the call, or was told to. -/
def Settled (c : Client) (id : String) : Prop := id ∈ c.ended ∨ .hangup id ∈ c.sent

/-- The call in use, if any, is settled. -/
def Free (c : Client) : Prop := ∀ id, c.currentCallId = some id → c.Settled id

/-- The steps that clean up without a hangup request: a `catch`, a connection that
failed, an `rtc.call.ended`, a hangup while the socket is closed. -/
def Drops (c : Client) : Label → Prop
  | .hangupClick => c.ws = false
  | .callEnded => True
  | .connectionState _ state => c.page.ends state = true
  | .media _ ok => ok = false
  | .offer i ok => ok = false ∨ c.pc i = false
  | .localDescription _ ok => ok = false ∨ c.ws = false
  | .startResponse _ result => result = none
  | .answer i ok | .candidate i ok =>
    ok = false ∨ ∃ stage, c.starts i = some stage ∧ (stage.rest = none ∨ ¬ c.Ready ∧ stage.rest ≠ some [])
  | .callClick | .iceCandidate _ _ | .serverEnds _ | .socket _ => False

/-- No step drops a call that is not settled. An answer that names a call finds none
in use, and its peer still there to take it. -/
def Careful (c : Client) (l : Label) : Prop :=
  (c.Drops l → c.Free) ∧ ∀ i r, l = .startResponse i (some r) → c.Free ∧ c.Ready

/-- Every call that was named to the page is settled or in use. -/
structure Kept (c : Client) : Prop where
  returned : ∀ i id, (i, id) ∈ c.returned → c.Settled id ∨ c.currentCallId = some id
  named : ∀ id, c.currentCallId = some id → id ≠ ""

/-- Everything that was settled stays so, and the calls in use and named are the same. -/
theorem Kept.ofSettled {c c' : Client} (h : Kept c) (hid : c'.currentCallId = c.currentCallId)
    (hret : c'.returned = c.returned) (hset : ∀ id, c.Settled id → c'.Settled id) : Kept c' := by
  constructor
  · intro i id hm
    rw [hret] at hm
    rw [hid]
    exact (h.returned i id hm).imp_left (hset id)
  · rw [hid]
    exact h.named

theorem cleanupCall_kept {c : Client} (h : Kept c) (hfree : c.Free) : Kept c.cleanupCall := by
  constructor
  · intro i id hm
    rw [cleanupCall_returned] at hm
    rw [Settled, cleanupCall_ended, cleanupCall_sent]
    exact .inl ((h.returned i id hm).elim (fun hs => hs) (hfree id))
  · intro id hid
    rw [cleanupCall_currentCallId] at hid
    cases hid

theorem fail_kept {c : Client} (h : Kept c) (hfree : c.Free) (i : Nat) : Kept (c.fail i) :=
  cleanupCall_kept (c := c.setStage i none) (h.ofSettled rfl rfl fun _ hs => hs) hfree

/-- A call to a peer keeps everything, where it fails only without an unsettled call. -/
theorem invoke_kept {c : Client} (h : Kept c) (hfree : c.Ready ∨ c.Free) (i : Nat) (call : PeerCall) (stage : Stage) :
    Kept (c.invoke i call stage) := by
  rcases invoke_cases c i call stage with ⟨hnone, he⟩ | ⟨p, hp, ⟨_, he⟩ | ⟨hpc, he⟩⟩
  · rw [he]
    refine fail_kept h (hfree.resolve_left ?_) i
    intro ⟨q, hq, _⟩
    exact absurd (hq.symm.trans hnone) (Option.some_ne_none q)
  · rw [he]
    exact h.ofSettled rfl rfl fun _ hs => hs
  · rw [he]
    refine fail_kept (c := c.record _) (h.ofSettled rfl rfl fun _ hs => hs) (hfree.resolve_left ?_) i
    intro ⟨q, hq, hqc⟩
    obtain rfl := Option.some.inj (hp.symm.trans hq)
    rw [hpc] at hqc
    cases hqc

theorem addCandidates_kept {c : Client} (h : Kept c) {rest : List Json} (hfree : rest = [] ∨ c.Ready ∨ c.Free)
    (i : Nat) : Kept (c.addCandidates i rest) := by
  cases rest with
  | nil => exact h.ofSettled rfl rfl fun _ hs => hs
  | cons v rest => exact invoke_kept h (hfree.resolve_left (List.cons_ne_nil v rest)) ..

/-- A resumed `startCall` goes on, or drops the call. -/
theorem rest_or_free {c : Client} {i : Nat} {stage : Stage} {rest : List Json} {l : Label}
    (hl : l = .answer i true ∨ l = .candidate i true) (hi : c.starts i = some stage) (hrest : stage.rest = some rest)
    (hcare : c.Drops l → c.Free) : rest = [] ∨ c.Ready ∨ c.Free := by
  by_cases hnil : rest = []
  · exact .inl hnil
  · by_cases hready : c.Ready
    · exact .inr (.inl hready)
    · have hdrops : ∃ stage, c.starts i = some stage ∧ (stage.rest = none ∨ ¬ c.Ready ∧ stage.rest ≠ some []) := by
        refine ⟨stage, hi, .inr ⟨hready, ?_⟩⟩
        rw [hrest]
        intro h
        exact hnil (Option.some.inj h)
      rcases hl with rfl | rfl <;> exact .inr (.inr (hcare (.inr hdrops)))

/-- What `hangup` leaves: a request for the call in use, unless the socket is closed. -/
theorem hangup_kept {c : Client} (h : Kept c) (hfree : c.ws = false → c.Free) : Kept c.hangup := by
  cases hid : c.currentCallId with
  | none =>
    have hhang : c.hangup = c.cleanupCall := by
      simp only [hangup, callId?, hid, Option.filter_none]
    rw [hhang]
    exact cleanupCall_kept h fun id h' => by rw [hid] at h'; cases h'
  | some id =>
    have hname := h.named id hid
    have hcall : c.callId? = some id := by simp [callId?, hid, hname]
    cases hws : c.ws with
    | false =>
      have hhang : c.hangup = c.cleanupCall := by simp [hangup, hcall, sendRequest, hws]
      rw [hhang]
      exact cleanupCall_kept h (hfree hws)
    | true =>
      have hhang : c.hangup = cleanupCall {c with sent := c.sent ++ [.hangup id]} := by
        simp [hangup, hcall, sendRequest, hws]
      rw [hhang]
      have hsent : Kept {c with sent := c.sent ++ [.hangup id]} :=
        h.ofSettled rfl rfl fun _ hs => hs.imp_right (List.mem_append_left _)
      refine cleanupCall_kept hsent fun id' hid' => ?_
      obtain rfl := Option.some.inj (hid.symm.trans hid')
      exact .inr (List.mem_append_right _ (List.mem_singleton_self _))

theorem step_kept {c c' : Client} {l : Label} (h : Kept c) (hs : Step c l c') (hcare : c.Careful l) : Kept c' := by
  obtain ⟨hdrop, hanswer⟩ := hcare
  cases hs with
  | callClick =>
    unfold startCall
    split
    · exact h
    · exact h.ofSettled rfl rfl fun _ hs => hs
  | hangupClick => exact hangup_kept h hdrop
  | @media i ok =>
    cases ok with
    | false => exact fail_kept h (hdrop rfl) i
    | true => exact h.ofSettled rfl rfl fun _ hs => hs
  | @offer i ok =>
    unfold onOffer
    split
    · exact h.ofSettled rfl rfl fun _ hs => hs
    · next hno =>
      refine fail_kept h (hdrop ?_) i
      cases ok with
      | false => exact .inl rfl
      | true => exact .inr (by simpa using hno)
  | @localDescription i ok =>
    cases ok with
    | false => exact fail_kept h (hdrop (.inl rfl)) i
    | true =>
      cases hws : c.ws with
      | false =>
        have hfail : c.onLocalDescription i true = c.fail i := by simp [onLocalDescription, sendRequest, hws]
        rw [hfail]
        exact fail_kept h (hdrop (.inr hws)) i
      | true =>
        have hsend : c.onLocalDescription i true =
            {c with sent := c.sent ++ [Request.start i]}.setStage i (some .response) := by
          simp [onLocalDescription, sendRequest, hws]
        rw [hsend]
        exact h.ofSettled rfl rfl fun _ hs => hs.imp_right (List.mem_append_left _)
  | @startResponse i result _ hname =>
    cases result with
    | none => exact fail_kept h (hdrop rfl) i
    | some r =>
      obtain ⟨hfree, hready⟩ := hanswer i r rfl
      have hnew : Kept {c with currentCallId := some r.callId, returned := c.returned ++ [(i, r.callId)]} := by
        constructor
        · intro j id hm
          rcases List.mem_append.mp hm with hold | hnew
          · exact .inl ((h.returned j id hold).elim (fun hs => hs) (hfree id))
          · cases List.mem_singleton.mp hnew
            exact .inr rfl
        · intro id hid
          cases hid
          exact hname r rfl
      exact invoke_kept hnew (.inl hready) i _ _
  | @answer i candidates ok hi =>
    cases ok with
    | false =>
      have hfail : c.onAnswer i candidates false = c.fail i := by cases candidates <;> rfl
      rw [hfail]
      exact fail_kept h (hdrop (.inl rfl)) i
    | true =>
      cases candidates with
      | none => exact fail_kept h (hdrop (.inr ⟨_, hi, .inl rfl⟩)) i
      | some candidates => exact addCandidates_kept h (rest_or_free (.inl rfl) hi rfl hdrop) i
  | @candidate i rest ok hi =>
    cases ok with
    | false => exact fail_kept h (hdrop (.inl rfl)) i
    | true => exact addCandidates_kept h (rest_or_free (.inr rfl) hi rfl hdrop) i
  | iceCandidate =>
    unfold onIceCandidate
    split
    · unfold sendRequest
      split
      · exact h.ofSettled rfl rfl fun _ hs => hs.imp_right (List.mem_append_left _)
      · exact h
    · exact h
  | connectionState =>
    unfold onConnectionStateChange
    split
    · next hends => exact cleanupCall_kept h (hdrop hends)
    · exact h
  | callEnded => exact cleanupCall_kept h (hdrop trivial)
  | serverEnds => exact h.ofSettled rfl rfl fun _ hs => hs.imp_left (List.mem_append_left _)
  | socket => exact h.ofSettled rfl rfl fun _ hs => hs

theorem run_kept {page : Page} {ls : List Label} {c : Client}
    (h : ((system page).restrict Careful).Run ls c) : Kept c := by
  refine h.invariant (M := (system page).restrict Careful) (I := fun _ c => Kept c) ?_
    fun _ _ _ _ _ hI hs => step_kept hI hs.1 hs.2
  intro c hc
  obtain ⟨ws, rfl⟩ := hc
  refine ⟨fun i id hm => absurd hm List.not_mem_nil, fun id hid => ?_⟩
  cases hid

/-- **An idle page has left no call behind**: where every step was careful, each call
that an answer named was ended by the server or hung up. -/
theorem nothing_abandoned {page : Page} {ls : List Label} {c : Client}
    (h : ((system page).restrict Careful).Run ls c) (hidle : c.Idle) :
    ∀ i id, (i, id) ∈ c.returned → c.Settled id := by
  intro i id hm
  have hnone : c.currentCallId = none := run_tidy h.of_restrict hidle.1
  rcases (run_kept h).returned i id hm with hs | hid
  · exact hs
  · rw [hnone] at hid
    cases hid

theorem careful_of_keeps {c : Client} {l : Label} (hdrop : ¬ c.Drops l)
    (hanswer : ∀ i r, l ≠ .startResponse i (some r)) : c.Careful l :=
  ⟨fun hd => absurd hd hdrop, fun i r hl => absurd hl (hanswer i r)⟩

/-- A call that is answered and hung up. -/
theorem nothing_abandoned_hangup : ∃ c, ((system .html).restrict Careful).Run
    [.callClick, .media 0 true, .offer 0 true, .localDescription 0 true, .startResponse 0 (some demoResult),
      .answer 0 true, .hangupClick] c ∧ c.Idle ∧ c.Settled demoResult.callId := by
  have h₀ : ((system .html).restrict Careful).Run [] (new .html true) := .nil ⟨true, rfl⟩
  have h₁ := h₀.snoc ⟨show Step _ .callClick _ from .callClick, careful_of_keeps (fun hd => hd.elim) (by simp)⟩
  have h₂ := h₁.snoc ⟨show Step _ (.media 0 true) _ from .media rfl,
    careful_of_keeps (by simp [Drops]) (by simp)⟩
  have h₃ := h₂.snoc ⟨show Step _ (.offer 0 true) _ from .offer rfl,
    careful_of_keeps (by simp [Drops, startCall, new, onMedia, setStage]) (by simp)⟩
  have h₄ := h₃.snoc ⟨show Step _ (.localDescription 0 true) _ from .localDescription rfl,
    careful_of_keeps (by rintro (hd | hd) <;> cases hd) (by simp)⟩
  have h₅ := h₄.snoc ⟨show Step _ (.startResponse 0 (some demoResult)) _ from
    .startResponse rfl fun r hr => (by cases hr; decide), (fun hd => by cases hd),
      fun i r _ => ⟨(fun id hid => by cases hid), 0, rfl, rfl⟩⟩
  have h₆ := h₅.snoc ⟨show Step _ (.answer 0 true) _ from .answer rfl, careful_of_keeps (by
    rintro (hd | ⟨stage, hi, hrest⟩)
    · cases hd
    · cases hi
      rcases hrest with hrest | ⟨_, hrest⟩
      · cases hrest
      · exact hrest rfl) (by simp)⟩
  have h₇ := h₆.snoc ⟨show Step _ .hangupClick _ from .hangupClick, careful_of_keeps (fun hd => by cases hd) (by simp)⟩
  refine ⟨_, h₇, ⟨rfl, fun i => ?_⟩,
    nothing_abandoned h₇ ⟨rfl, fun i => ?_⟩ 0 demoResult.callId (List.mem_singleton_self _)⟩ <;>
    cases i <;> rfl

/-- The page hangs up while its start is unanswered: nothing is sent, and the call
that the answer names is dropped. -/
theorem call_abandoned : ¬ ∀ page ls c, (system page).Run ls c → c.Idle →
    ∀ i id, (i, id) ∈ c.returned → c.Settled id := by
  intro hall
  have h₀ : (system .html).Run [] (new .html true) := .nil ⟨true, rfl⟩
  have h₁ := h₀.snoc (show Step _ .callClick _ from .callClick)
  have h₂ := h₁.snoc (show Step _ (.media 0 true) _ from .media rfl)
  have h₃ := h₂.snoc (show Step _ (.offer 0 true) _ from .offer rfl)
  have h₄ := h₃.snoc (show Step _ (.localDescription 0 true) _ from .localDescription rfl)
  have h₅ := h₄.snoc (show Step _ .hangupClick _ from .hangupClick)
  have h₆ := h₅.snoc (show Step _ (.startResponse 0 (some demoResult)) _ from
    .startResponse rfl fun r hr => by cases hr; decide)
  rcases hall .html _ _ h₆ ⟨rfl, fun i => by cases i <;> rfl⟩ 0 demoResult.callId (List.mem_singleton_self _) with h | h
  · cases h
  · cases List.mem_singleton.mp h

end Client
end RtcPlugin.Browser
