import RtcPlugin.Browser.Client
import RtcPlugin.System.Update

/-! Answers and the peers they are for.

A `startCall` that resumes after its request acts on the peer the global holds by
then. That is its own as long as no other call was started while it still had a call
to a peer before it (`Unhurried`). -/
namespace RtcPlugin.Browser

/-- A `startCall` that stands here has a call to a peer before it. -/
def Stage.ahead : Stage → Bool
  | .media | .offer | .localDescription | .response => true
  | .answer candidates => candidates.any fun l => !l.isEmpty
  | .candidate rest => !rest.isEmpty

namespace Client

/-- A click that starts a call comes when no earlier start has a call to a peer
before it. -/
def Unhurried (c : Client) : Label → Prop
  | .callClick => c.rtcPeer = none → ∀ i stage, c.starts i = some stage → stage.ahead = false
  | _ => True

/-- What the answers are for: a peer is called only for the start that carried its
offer, and the call in use is the one that its peer's offer started. -/
structure Paired (c : Client) : Prop where
  invoked : ∀ inv ∈ c.invoked, inv.peer = inv.start
  current : ∀ id p, c.currentCallId = some id → c.rtcPeer = some p → (p, id) ∈ c.returned

/-- Where a start still has a call to a peer before it, the page holds that start's
peer or none. -/
structure Owned (c : Client) : Prop where
  paired : Paired c
  own : ∀ i stage, c.starts i = some stage → stage.ahead = true → ∀ p, c.rtcPeer = some p → p = i

theorem cleanupCall_owned {c : Client} (hinv : ∀ inv ∈ c.invoked, inv.peer = inv.start) : Owned c.cleanupCall := by
  refine ⟨⟨?_, ?_⟩, ?_⟩
  · rw [cleanupCall_invoked]
    exact hinv
  · intro id p _ hp
    rw [cleanupCall_rtcPeer] at hp
    cases hp
  · intro i stage _ _ p hp
    rw [cleanupCall_rtcPeer] at hp
    cases hp

theorem fail_owned {c : Client} (hinv : ∀ inv ∈ c.invoked, inv.peer = inv.start) (i : Nat) : Owned (c.fail i) :=
  cleanupCall_owned (c := c.setStage i none) hinv

/-- The rest of the state is of no account. -/
theorem Owned.ofSame {c c' : Client} (h : Owned c) (hpeer : c'.rtcPeer = c.rtcPeer)
    (hid : c'.currentCallId = c.currentCallId) (hstarts : c'.starts = c.starts) (hinv : c'.invoked = c.invoked)
    (hret : c'.returned = c.returned) : Owned c' := by
  refine ⟨⟨?_, ?_⟩, ?_⟩
  · rw [hinv]
    exact h.paired.invoked
  · rw [hpeer, hid, hret]
    exact h.paired.current
  · rw [hpeer, hstarts]
    exact h.own

/-- A start that keeps a call to a peer before it goes on owning the peer. -/
theorem Owned.setStage {c : Client} (h : Owned c) {i : Nat} {v : Option Stage}
    (hown : ∀ stage, v = some stage → stage.ahead = true → ∀ p, c.rtcPeer = some p → p = i) :
    Owned (c.setStage i v) := by
  refine ⟨⟨h.paired.invoked, h.paired.current⟩, fun j stage hj hahead p hp => ?_⟩
  rw [setStage_starts] at hj
  obtain ⟨rfl, hv⟩ | ⟨-, hold⟩ := update_some hj
  · exact hown stage hv hahead p hp
  · exact h.own j stage hold hahead p hp

/-- A start that owns the peer calls its own one. -/
theorem invoke_owned {c : Client} (h : Owned c) {i : Nat} (hown : ∀ p, c.rtcPeer = some p → p = i) (call : PeerCall)
    (stage : Stage) : Owned (c.invoke i call stage) := by
  rcases invoke_cases c i call stage with ⟨_, he⟩ | ⟨p, hp, he⟩
  · rw [he]
    exact fail_owned h.paired.invoked i
  · have hpi : p = i := hown p hp
    have hinv : ∀ inv ∈ (c.record ⟨i, p, call⟩).invoked, inv.peer = inv.start := by
      intro inv hinv
      rcases List.mem_append.mp hinv with hold | hnew
      · exact h.paired.invoked inv hold
      · rw [List.mem_singleton.mp hnew]
        exact hpi
    rcases he with ⟨_, he⟩ | ⟨_, he⟩
    · rw [he]
      exact Owned.setStage ⟨⟨hinv, h.paired.current⟩, h.own⟩ fun _ _ _ => hown
    · rw [he]
      exact fail_owned hinv i

theorem addCandidates_owned {c : Client} (h : Owned c) {i : Nat} {rest : List Json}
    (hown : rest ≠ [] → ∀ p, c.rtcPeer = some p → p = i) : Owned (c.addCandidates i rest) := by
  cases rest with
  | nil => exact h.setStage (fun _ hv => nomatch hv)
  | cons v rest => exact invoke_owned h (hown (List.cons_ne_nil v rest)) _ _

theorem startCall_owned {c : Client} (h : Owned c) (ht : Tidy c) (hcare : c.Unhurried .callClick) :
    Owned c.startCall := by
  unfold startCall
  split
  · exact h
  · next hnone =>
    have hid := ht hnone
    refine ⟨⟨h.paired.invoked, fun id p hcur _ => ?_⟩, fun i stage hi hahead p hp => ?_⟩
    · exact absurd (hid.symm.trans hcur) (Option.some_ne_none id).symm
    · cases hp
      obtain ⟨hci, -⟩ | ⟨-, hold⟩ := update_some hi
      · exact hci.symm
      · rw [hcare hnone i stage hold] at hahead
        cases hahead

theorem step_owned {c c' : Client} {l : Label} (h : Owned c) (ht : Tidy c) (hs : Step c l c')
    (hcare : c.Unhurried l) : Owned c' := by
  have hfail := fail_owned h.paired.invoked
  have hcleanup := cleanupCall_owned h.paired.invoked
  cases hs with
  | callClick => exact startCall_owned h ht hcare
  | hangupClick =>
    unfold hangup
    split
    · next id _ =>
      obtain ⟨sent, he⟩ := getD_sendRequest c (.hangup id)
      rw [he]
      exact cleanupCall_owned h.paired.invoked
    · exact hcleanup
  | @media i ok hi =>
    cases ok with
    | false => exact hfail i
    | true =>
      have h' : Owned (c.setStage i (some .offer)) := h.setStage fun _ _ _ => h.own i _ hi rfl
      exact h'.ofSame rfl rfl rfl rfl rfl
  | @offer i ok hi =>
    unfold onOffer
    split
    · exact h.setStage fun _ _ _ => h.own i _ hi rfl
    · exact hfail i
  | @localDescription i ok hi =>
    unfold onLocalDescription
    split
    · split
      · next c' hsend =>
        rw [sendRequest_eq hsend]
        have h' : Owned {c with sent := c.sent ++ [.start i]} := h.ofSame rfl rfl rfl rfl rfl
        exact h'.setStage fun _ _ _ => h.own i _ hi rfl
      · exact hfail i
    · exact hfail i
  | @startResponse i result hi =>
    cases result with
    | none => exact hfail i
    | some r =>
      have hown := h.own i _ hi rfl
      have h' : Owned {c with currentCallId := some r.callId, returned := c.returned ++ [(i, r.callId)]} := by
        refine ⟨⟨h.paired.invoked, fun id p hid hp => ?_⟩, h.own⟩
        cases hid
        rw [hown p hp]
        exact List.mem_append_right _ (List.mem_singleton_self _)
      exact invoke_owned h' hown _ _
  | @answer i candidates ok hi =>
    cases candidates with
    | none => exact hfail i
    | some candidates =>
      cases ok with
      | false => exact hfail i
      | true =>
        refine addCandidates_owned h fun hne => h.own i _ hi ?_
        simpa [Stage.ahead] using hne
  | @candidate i rest ok hi =>
    cases ok with
    | false => exact hfail i
    | true =>
      refine addCandidates_owned h fun hne => h.own i _ hi ?_
      simpa [Stage.ahead] using hne
  | iceCandidate =>
    unfold onIceCandidate
    split
    · next id _ =>
      obtain ⟨sent, he⟩ := getD_sendRequest c (.ice id _)
      rw [he]
      exact h.ofSame rfl rfl rfl rfl rfl
    · exact h
  | connectionState =>
    unfold onConnectionStateChange
    split
    · exact hcleanup
    · exact h
  | callEnded => exact hcleanup
  | serverEnds | socket => exact h.ofSame rfl rfl rfl rfl rfl

theorem run_owned {page : Page} {ls : List Label} {c : Client}
    (h : ((system page).restrict Unhurried).Run ls c) : Owned c := by
  refine h.invariant (M := (system page).restrict Unhurried) (I := fun _ c => Owned c) ?_
    fun _ _ _ _ hrun hI hs => step_owned hI (run_tidy hrun.of_restrict) hs.1 hs.2
  intro c hc
  obtain ⟨ws, rfl⟩ := hc
  refine ⟨⟨List.forall_mem_nil _, fun id p hid => ?_⟩, fun i stage hi => ?_⟩
  · cases hid
  · cases hi

/-- **Answers stay with their offers** while no call is started over one that still
has calls to a peer before it. -/
theorem pairing {page : Page} {ls : List Label} {c : Client}
    (h : ((system page).restrict Unhurried).Run ls c) : Paired c := (run_owned h).paired

/-- One call, up to its last await. -/
theorem pairing_one_call : ∃ c, ((system .html).restrict Unhurried).Run
    [.callClick, .media 0 true, .offer 0 true, .localDescription 0 true, .startResponse 0 (some demoResult),
      .answer 0 true] c ∧ Paired c ∧ c.currentCallId = some demoResult.callId ∧ c.rtcPeer = some 0 := by
  have h₀ : ((system .html).restrict Unhurried).Run [] (new .html true) := .nil ⟨true, rfl⟩
  have h₁ := h₀.snoc ⟨show Step _ .callClick _ from .callClick, fun _ i stage hi => by cases hi⟩
  have h₂ := h₁.snoc ⟨show Step _ (.media 0 true) _ from .media rfl, trivial⟩
  have h₃ := h₂.snoc ⟨show Step _ (.offer 0 true) _ from .offer rfl, trivial⟩
  have h₄ := h₃.snoc ⟨show Step _ (.localDescription 0 true) _ from .localDescription rfl, trivial⟩
  have h₅ := h₄.snoc ⟨show Step _ (.startResponse 0 (some demoResult)) _ from
    .startResponse rfl fun r hr => by cases hr; decide, trivial⟩
  have h₆ := h₅.snoc ⟨show Step _ (.answer 0 true) _ from .answer rfl, trivial⟩
  exact ⟨_, h₆, pairing h₆, rfl, rfl⟩

/-- A call is hung up before its start is answered, and another one is started: the
answer to the first start goes to the second peer. -/
theorem answer_goes_astray : ¬ ∀ page ls c, (system page).Run ls c → Paired c := by
  intro hall
  have h₀ : (system .html).Run [] (new .html true) := .nil ⟨true, rfl⟩
  have h₁ := h₀.snoc (show Step _ .callClick _ from .callClick)
  have h₂ := h₁.snoc (show Step _ (.media 0 true) _ from .media rfl)
  have h₃ := h₂.snoc (show Step _ (.offer 0 true) _ from .offer rfl)
  have h₄ := h₃.snoc (show Step _ (.localDescription 0 true) _ from .localDescription rfl)
  have h₅ := h₄.snoc (show Step _ .hangupClick _ from .hangupClick)
  have h₆ := h₅.snoc (show Step _ .callClick _ from .callClick)
  have h₇ := h₆.snoc (show Step _ (.media 1 true) _ from .media rfl)
  have h₈ := h₇.snoc (show Step _ (.startResponse 0 (some demoResult)) _ from
    .startResponse rfl fun r hr => by cases hr; decide)
  have hpeer := (hall .html _ _ h₈).invoked ⟨0, 1, .handleAnswer (some (.str "v=0"))⟩ (List.mem_singleton_self _)
  cases hpeer

end Client
end RtcPlugin.Browser
