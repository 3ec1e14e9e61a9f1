import RtcPlugin.Browser.Client
import RtcPlugin.System.Update

/-! What becomes of the page's own ICE candidates.

A connection reports its candidates from `setLocalDescription` on, and `onIceCandidate`
sends one on only once the page holds the identifier that the start's response brings.
What comes before is dropped (`early_candidate_lost`). A `Journal` keeps, with the page,
every report and what the page sent for it. -/
namespace RtcPlugin.Browser

/-- Before the response, of which there is one. -/
def Stage.awaits : Stage → Bool
  | .media | .offer | .localDescription | .response => true
  | .answer _ | .candidate _ => false

def Request.isIce : Request → Bool
  | .ice _ _ => true
  | _ => false

/-- A candidate that a peer's connection reported. -/
structure Report where
  peer : Nat
  candidate : Json
  /-- Whether the peer was the one in use. -/
  inUse : Bool
  /-- The `rtc.call.ice` requests the page sent for it. -/
  requests : List Request

namespace Client

/-- The answers a step takes in. -/
def Label.answered : Label → List (Nat × String)
  | .startResponse i (some r) => [(i, r.callId)]
  | _ => []

def Label.connected : Label → List Nat
  | .connectionState p .connected => [p]
  | _ => []

/-- The candidates a step sends on. -/
def trickled (c : Client) : Label → List Request
  | .iceCandidate _ v => if c.ws then (c.callId?.map (Request.ice · v)).toList else []
  | _ => []

/-! ### What a step does to starts and requests -/

/-- What cleaning up and calls to peers leave alone. -/
def ledger (c : Client) : List Request × List (Nat × String) × Nat := (c.sent, c.returned, c.created)

/-- The start `i` is past its response, or over. -/
def Advances (c : Client) (i : Nat) (c' : Client) : Prop :=
  c'.ledger = c.ledger ∧ ∃ v, c'.starts = Function.update c.starts i v ∧ ∀ stage, v = some stage → stage.awaits = false

@[simp] theorem cleanupCall_ledger (c : Client) : c.cleanupCall.ledger = c.ledger := by
  unfold cleanupCall
  split <;> rfl

theorem fail_advances (c : Client) (i : Nat) : c.Advances i (c.fail i) := by
  refine ⟨cleanupCall_ledger _, none, cleanupCall_starts _, ?_⟩
  simp

theorem invoke_advances (c : Client) (i : Nat) (call : PeerCall) {stage : Stage} (h : stage.awaits = false) :
    c.Advances i (c.invoke i call stage) := by
  obtain ⟨-, he⟩ | ⟨p, -, ⟨-, he⟩ | ⟨-, he⟩⟩ := invoke_cases c i call stage
  · rw [he]
    exact fail_advances c i
  · rw [he]
    exact ⟨rfl, some stage, rfl, fun _ hs => Option.some.inj hs ▸ h⟩
  · rw [he]
    exact fail_advances (c.record ⟨i, p, call⟩) i

theorem addCandidates_advances (c : Client) (i : Nat) (rest : List Json) : c.Advances i (c.addCandidates i rest) := by
  cases rest with
  | nil => exact ⟨rfl, none, rfl, by simp⟩
  | cons v rest => exact invoke_advances c i _ rfl

/-- The starts after a step: as before, one resumed, or a new one. -/
inductive Resumed (c : Client) (l : Label) (c' : Client) : Prop where
  | same : c'.starts = c.starts → c'.created = c.created → l.answered = [] → Resumed c l c'
  | one {i stage v} : c.starts i = some stage → c'.starts = Function.update c.starts i v → c'.created = c.created →
      (∀ j id, (j, id) ∈ l.answered → j = i) →
      (∀ stage', v = some stage' → stage'.awaits = true → stage.awaits = true ∧ l.answered = []) → Resumed c l c'
  | new : l = .callClick → c'.starts = Function.update c.starts c.created (some .media) → c'.created = c.created + 1 →
      Resumed c l c'

structure Effect (c : Client) (l : Label) (c' : Client) : Prop where
  returned : c'.returned = c.returned ++ l.answered
  sent : ∃ more, c'.sent = c.sent ++ more ∧ more.filter Request.isIce = c.trickled l
  starts : Resumed c l c'

theorem Advances.effect {c c' : Client} {i : Nat} {stage : Stage} {l : Label} (h : c.Advances i c')
    (hi : c.starts i = some stage) (hanswered : l.answered = []) (htrickled : c.trickled l = []) : Effect c l c' := by
  obtain ⟨hledger, v, hstarts, hv⟩ := h
  refine ⟨?_, ⟨[], ?_, ?_⟩, .one hi hstarts ?_ ?_ ?_⟩
  · rw [hanswered, List.append_nil]
    exact congrArg (·.2.1) hledger
  · rw [List.append_nil]
    exact congrArg Prod.fst hledger
  · rw [htrickled]
    rfl
  · exact congrArg (·.2.2) hledger
  · simp [hanswered]
  · intro stage' hs hawaits
    rw [hv stage' hs] at hawaits
    cases hawaits

theorem Effect.none {c c' : Client} {l : Label} (hledger : c'.ledger = c.ledger) (hstarts : c'.starts = c.starts)
    (hanswered : l.answered = []) (htrickled : c.trickled l = []) : Effect c l c' := by
  refine ⟨?_, ⟨[], ?_, ?_⟩, .same hstarts ?_ hanswered⟩
  · rw [hanswered, List.append_nil]
    exact congrArg (·.2.1) hledger
  · rw [List.append_nil]
    exact congrArg Prod.fst hledger
  · rw [htrickled]
    rfl
  · exact congrArg (·.2.2) hledger

theorem cleanupCall_effect {c : Client} {l : Label} (hanswered : l.answered = []) (htrickled : c.trickled l = []) :
    Effect c l c.cleanupCall := .none (cleanupCall_ledger c) (cleanupCall_starts c) hanswered htrickled

/-- A start that goes on to its next await before the response. -/
theorem setStage_effect {c : Client} {i : Nat} {stage next : Stage} {l : Label} (hi : c.starts i = some stage)
    (hawaits : stage.awaits = true) (hanswered : l.answered = []) (htrickled : c.trickled l = []) :
    Effect c l (c.setStage i (some next)) := by
  refine ⟨?_, ⟨[], ?_, ?_⟩, .one hi rfl rfl (by simp [hanswered]) fun _ _ _ => ⟨hawaits, hanswered⟩⟩
  · rw [hanswered, List.append_nil]
    rfl
  · rw [List.append_nil]
    rfl
  · rw [htrickled]
    rfl

theorem hangup_effect (c : Client) : Effect c .hangupClick c.hangup := by
  unfold hangup
  split
  · next id _ =>
    unfold sendRequest
    split
    · have hledger := cleanupCall_ledger {c with sent := c.sent ++ [.hangup id]}
      exact ⟨(congrArg (·.2.1) hledger).trans (List.append_nil _).symm, ⟨[.hangup id], congrArg Prod.fst hledger, rfl⟩,
        .same (cleanupCall_starts _) (congrArg (·.2.2) hledger) rfl⟩
    · exact cleanupCall_effect rfl rfl
  · exact cleanupCall_effect rfl rfl

theorem startResponse_effect {c : Client} {i : Nat} {result : Option StartResult} (hi : c.starts i = some .response) :
    Effect c (.startResponse i result) (c.onStartResponse i result) := by
  cases result with
  | none => exact (fail_advances c i).effect hi rfl rfl
  | some r =>
    have hawaits : (Stage.answer (c.page.candidates r.candidates)).awaits = false := rfl
    obtain ⟨hledger, v, hstarts, hv⟩ := invoke_advances
      {c with currentCallId := some r.callId, returned := c.returned ++ [(i, r.callId)]} i (.handleAnswer r.answerSdp)
      hawaits
    refine ⟨congrArg (·.2.1) hledger, ⟨[], ?_, rfl⟩, .one hi hstarts (congrArg (·.2.2) hledger) ?_ ?_⟩
    · rw [List.append_nil]
      exact congrArg Prod.fst hledger
    · exact fun j id hj => congrArg Prod.fst (List.mem_singleton.mp hj)
    · intro stage' hs hawaits
      rw [hv stage' hs] at hawaits
      cases hawaits

theorem iceCandidate_effect (c : Client) (p : Nat) (v : Json) : Effect c (.iceCandidate p v) (c.onIceCandidate v) := by
  unfold onIceCandidate
  cases hid : c.callId? with
  | none =>
    refine ⟨(List.append_nil _).symm, ⟨[], (List.append_nil _).symm, ?_⟩, .same rfl rfl rfl⟩
    simp [trickled, hid]
  | some id =>
    cases hws : c.ws with
    | true =>
      refine ⟨?_, ⟨[.ice id v], ?_, ?_⟩, .same ?_ ?_ ?_⟩ <;>
        simp [sendRequest, trickled, hid, hws, Request.isIce, Label.answered]
    | false =>
      refine ⟨?_, ⟨[], ?_, ?_⟩, .same ?_ ?_ ?_⟩ <;> simp [sendRequest, trickled, hws, Label.answered]

/-- **What a step does**: only a response is an answer, and only a candidate is sent
on as one. -/
theorem step_effect {c c' : Client} {l : Label} (hs : Step c l c') : Effect c l c' := by
  cases hs with
  | callClick =>
    unfold startCall
    split
    · exact .none rfl rfl rfl rfl
    · exact ⟨(List.append_nil _).symm, ⟨[], (List.append_nil _).symm, rfl⟩, .new rfl rfl rfl⟩
  | hangupClick => exact hangup_effect c
  | @media i ok hi =>
    cases ok with
    | false => exact (fail_advances c i).effect hi rfl rfl
    | true =>
      exact ⟨(List.append_nil _).symm, ⟨[], (List.append_nil _).symm, rfl⟩, .one hi rfl rfl (by simp [Label.answered]) fun _ _ _ => ⟨rfl, rfl⟩⟩
  | @offer i ok hi =>
    unfold onOffer
    split
    · exact setStage_effect hi rfl rfl rfl
    · exact (fail_advances c i).effect hi rfl rfl
  | @localDescription i ok hi =>
    unfold onLocalDescription
    split
    · split
      · next c₁ hsend =>
        rw [sendRequest_eq hsend]
        exact ⟨(List.append_nil _).symm, ⟨[.start i], rfl, rfl⟩, .one hi rfl rfl (by simp [Label.answered]) fun _ _ _ => ⟨rfl, rfl⟩⟩
      · exact (fail_advances c i).effect hi rfl rfl
    · exact (fail_advances c i).effect hi rfl rfl
  | startResponse hi => exact startResponse_effect hi
  | @answer i candidates ok hi =>
    unfold onAnswer
    split
    · split
      · exact (addCandidates_advances c i _).effect hi rfl rfl
      · exact (fail_advances c i).effect hi rfl rfl
    · exact (fail_advances c i).effect hi rfl rfl
  | @candidate i rest ok hi =>
    unfold onCandidateAdded
    split
    · exact (addCandidates_advances c i _).effect hi rfl rfl
    · exact (fail_advances c i).effect hi rfl rfl
  | iceCandidate => exact iceCandidate_effect ..
  | connectionState =>
    unfold onConnectionStateChange
    split
    · exact cleanupCall_effect rfl rfl
    · exact .none rfl rfl rfl rfl
  | callEnded => exact cleanupCall_effect rfl rfl
  | serverEnds | socket => exact .none rfl rfl rfl rfl

/-! ### A start is answered once -/

structure Once (c : Client) : Prop where
  begun : ∀ i stage, c.starts i = some stage → i < c.created
  made : ∀ i id, (i, id) ∈ c.returned → i < c.created
  unanswered : ∀ i stage, c.starts i = some stage → stage.awaits = true → ∀ id, (i, id) ∉ c.returned
  unique : ∀ i id id', (i, id) ∈ c.returned → (i, id') ∈ c.returned → id = id'

/-- Only a start that awaits its response is answered. -/
theorem answered_start {c c' : Client} {l : Label} {i : Nat} {id : String} (hs : Step c l c') (h : (i, id) ∈ l.answered) :
    c.starts i = some .response ∧ l.answered = [(i, id)] := by
  cases hs with
  | @startResponse j result hi _ =>
    cases result with
    | none => cases h
    | some r =>
      have heq := List.mem_singleton.mp h
      obtain rfl : i = j := congrArg Prod.fst heq
      obtain rfl : id = r.callId := congrArg Prod.snd heq
      exact ⟨hi, rfl⟩
  | @connectionState p state _ => cases h
  | _ => cases h

theorem mem_returned {c c' : Client} {l : Label} (hs : Step c l c') (i : Nat) (id : String) :
    (i, id) ∈ c'.returned ↔ (i, id) ∈ c.returned ∨ (i, id) ∈ l.answered := by
  rw [(step_effect hs).returned, List.mem_append]

theorem Once.made_after {c c' : Client} {l : Label} {i : Nat} {id : String} (h : Once c) (hs : Step c l c')
    (hi : (i, id) ∈ c'.returned) : i < c.created := by
  obtain hold | hnew := (mem_returned hs i id).mp hi
  · exact h.made i id hold
  · exact h.begun i _ (answered_start hs hnew).1

/-- What is answered now was not answered before. -/
theorem Once.unique_after {c c' : Client} {l : Label} {i : Nat} {id id' : String} (h : Once c) (hs : Step c l c')
    (hi : (i, id) ∈ c'.returned) (hi' : (i, id') ∈ c'.returned) : id = id' := by
  obtain hold | hnew := (mem_returned hs i id).mp hi
  · obtain hold' | hnew' := (mem_returned hs i id').mp hi'
    · exact h.unique i id id' hold hold'
    · exact absurd hold (h.unanswered i _ (answered_start hs hnew').1 rfl id)
  · obtain ⟨hresponse, hone⟩ := answered_start hs hnew
    obtain hold' | hnew' := (mem_returned hs i id').mp hi'
    · exact absurd hold' (h.unanswered i _ hresponse rfl id')
    · rw [hone] at hnew'
      exact (congrArg Prod.snd (List.mem_singleton.mp hnew')).symm

/-- A start that awaits its response still does, where the step answers nothing. -/
theorem Once.unanswered_after {c c' : Client} {l : Label} {i : Nat} {stage : Stage} (h : Once c) (hs : Step c l c')
    (hnone : l.answered = []) (hi : c.starts i = some stage) (hawaits : stage.awaits = true) (id : String) :
    (i, id) ∉ c'.returned := by
  rw [mem_returned hs, hnone]
  exact fun hid => hid.elim (h.unanswered i stage hi hawaits id) List.not_mem_nil

theorem step_once {c c' : Client} {l : Label} (h : Once c) (hs : Step c l c') : Once c' := by
  have hunique : ∀ i id id', (i, id) ∈ c'.returned → (i, id') ∈ c'.returned → id = id' :=
    fun _ _ _ => h.unique_after hs
  cases (step_effect hs).starts with
  | same hsame hcreated hnone =>
    refine ⟨?_, ?_, ?_, hunique⟩
    · rw [hsame, hcreated]
      exact h.begun
    · rw [hcreated]
      exact fun _ _ => h.made_after hs
    · rw [hsame]
      exact fun i stage hi hawaits => h.unanswered_after hs hnone hi hawaits
  | @one j stage v hj hone hcreated hanswers hv =>
    refine ⟨?_, ?_, ?_, hunique⟩
    · intro i stage' hi
      rw [hcreated]
      rw [hone] at hi
      obtain ⟨hij, -⟩ | ⟨-, hi⟩ := update_some hi
      · exact hij ▸ h.begun j stage hj
      · exact h.begun i stage' hi
    · rw [hcreated]
      exact fun _ _ => h.made_after hs
    · intro i stage' hi hawaits id hid
      rw [hone] at hi
      obtain ⟨rfl, heq⟩ | ⟨hij, hi⟩ := update_some hi
      · obtain ⟨hbefore, hnone⟩ := hv stage' heq hawaits
        exact h.unanswered_after hs hnone hj hbefore id hid
      · obtain hid | hid := (mem_returned hs i id).mp hid
        · exact h.unanswered i stage' hi hawaits id hid
        · exact hij (hanswers i id hid)
  | new hl hnew hcreated =>
    subst hl
    refine ⟨?_, ?_, ?_, hunique⟩
    · intro i stage hi
      rw [hcreated]
      rw [hnew] at hi
      obtain ⟨hic, -⟩ | ⟨-, hi⟩ := update_some hi
      · omega
      · have hlt := h.begun i stage hi
        omega
    · intro i id hid
      have hlt := h.made_after hs hid
      omega
    · intro i stage hi hawaits id hid
      rw [hnew] at hi
      obtain ⟨hic, -⟩ | ⟨-, hi⟩ := update_some hi
      · have hlt := h.made_after hs hid
        omega
      · exact h.unanswered_after hs rfl hi hawaits id hid

theorem new_once {c : Client} {page : Page} (h : (system page).init c) : Once c := by
  obtain ⟨ws, rfl⟩ := h
  exact ⟨fun _ _ hi => (nomatch hi), fun _ _ hi => (nomatch hi), fun _ _ hi => (nomatch hi), fun _ _ _ hi => (nomatch hi)⟩

end Client

/-! ### The journal -/

/-- A page, what its peers reported, and which of them were connected. -/
structure Journal where
  client : Client
  reports : List Report
  connected : List Nat

namespace Journal
open Client

/-- What a step reports, with the requests that were sent for it. -/
def reported (c : Client) (l : Label) (c' : Client) : List Report :=
  match l with
  | .iceCandidate p v =>
    [⟨p, v, decide (c.rtcPeer = some p), (c'.sent.drop c.sent.length).filter Request.isIce⟩]
  | _ => []

def system (page : Page) : System Journal Label where
  init := fun j => (Client.system page).init j.client ∧ j.reports = [] ∧ j.connected = []
  step := fun j l j' => Step j.client l j'.client ∧ j'.reports = j.reports ++ reported j.client l j'.client ∧
    j'.connected = j.connected ++ l.connected

/-- The candidates of a call that was connected, reported while the call was up, were
each sent once under the call's identifier, where the offer did not carry them; and no
candidate was sent that was not reported. -/
structure Delivered (offered : Nat → Json → Bool) (j : Journal) : Prop where
  attributed : j.client.sent.filter Request.isIce = j.reports.flatMap Report.requests
  delivered : ∀ p id, (p, id) ∈ j.client.returned → p ∈ j.connected → ∀ r ∈ j.reports, r.peer = p → r.inUse = true →
    offered p r.candidate = true ∨ r.requests = [.ice id r.candidate]

/-- A peer in use reports what its offer did not carry only once its start was answered,
while the page holds that answer's identifier and an open socket. -/
def Timely (offered : Nat → Json → Bool) (j : Journal) : Label → Prop
  | .iceCandidate p v => j.client.rtcPeer = some p → offered p v = false →
      j.client.ws = true ∧ ∃ id, j.client.callId? = some id ∧ (p, id) ∈ j.client.returned
  | _ => True

variable {offered : Nat → Json → Bool} {page : Page} {j j' : Journal} {l : Label} {ls : List Label}

/-- Every report of a peer in use went out under an identifier of its peer's start. -/
def Sent (offered : Nat → Json → Bool) (j : Journal) : Prop :=
  ∀ r ∈ j.reports, r.inUse = true → offered r.peer r.candidate = true ∨
    ∃ id, (r.peer, id) ∈ j.client.returned ∧ r.requests = [.ice id r.candidate]

/-- The requests of a step are those of its reports. -/
theorem step_requests {c c' : Client} (hs : Step c l c') :
    c'.sent.filter Request.isIce = c.sent.filter Request.isIce ++ (reported c l c').flatMap Report.requests ∧
      ∀ p v, l = .iceCandidate p v → (c'.sent.drop c.sent.length).filter Request.isIce = c.trickled l := by
  obtain ⟨-, ⟨more, hsent, hmore⟩, -⟩ := step_effect hs
  have hdrop : c'.sent.drop c.sent.length = more := by simp [hsent]
  constructor
  · rw [hsent, List.filter_append]
    congr 1
    cases l with
    | iceCandidate p v => simp [reported, hdrop]
    | _ => exact hmore
  · rintro p v -
    rw [hdrop, hmore]

theorem step_sent (h : Sent offered j) (hs : (system page).step j l j') (htimely : Timely offered j l) : Sent offered j' := by
  obtain ⟨hstep, hreports, -⟩ := hs
  have hreturned := (step_effect hstep).returned
  intro r hr huse
  rw [hreports] at hr
  rw [hreturned]
  obtain hold | hnew := List.mem_append.mp hr
  · obtain hoffered | ⟨id, hid, hreq⟩ := h r hold huse
    · exact .inl hoffered
    · exact .inr ⟨id, List.mem_append_left _ hid, hreq⟩
  · cases l with
    | iceCandidate p v =>
      obtain rfl := List.mem_singleton.mp hnew
      cases hoffered : offered p v with
      | true => exact .inl rfl
      | false =>
        obtain ⟨hws, id, hcall, hid⟩ := htimely (of_decide_eq_true huse) hoffered
        refine .inr ⟨id, List.mem_append_left _ hid, ?_⟩
        show (j'.client.sent.drop j.client.sent.length).filter Request.isIce = _
        rw [(step_requests hstep).2 p v rfl]
        simp [trickled, hws, hcall]
    | _ => cases hnew

theorem run_once (h : (system page).Run ls j) : Once j.client := by
  apply h.invariant (I := fun _ j => Once j.client)
  · exact fun j hj => new_once hj.1
  · exact fun _ _ _ _ _ hI hs => step_once hI hs.1

theorem run_attributed (h : (system page).Run ls j) :
    j.client.sent.filter Request.isIce = j.reports.flatMap Report.requests := by
  apply h.invariant (I := fun _ j => j.client.sent.filter Request.isIce = j.reports.flatMap Report.requests)
  · rintro j ⟨⟨ws, hnew⟩, hreports, -⟩
    rw [hnew, hreports]
    rfl
  · rintro _ j l j' _ hI ⟨hstep, hreports, -⟩
    rw [(step_requests hstep).1, hI, hreports, List.flatMap_append]

theorem run_sent (h : ((system page).restrict (Timely offered)).Run ls j) : Sent offered j := by
  apply h.invariant (I := fun _ j => Sent offered j)
  · rintro j ⟨-, hreports, -⟩ r hr
    rw [hreports] at hr
    cases hr
  · exact fun _ _ _ _ _ hI hs => step_sent hI hs.1 hs.2

/-- Reports stay. -/
theorem steps_reports (h : (system page).Steps j ls j') : ∀ r ∈ j.reports, r ∈ j'.reports := by
  apply h.related (R := fun j j' => ∀ r ∈ j.reports, r ∈ j'.reports)
  · exact fun _ _ hr => hr
  · exact fun _ _ _ h h' r hr => h' r (h r hr)
  · rintro j l j' ⟨-, hreports, -⟩ r hr
    rw [hreports]
    exact List.mem_append_left _ hr

theorem trickled_eq {c : Client} {p : Nat} {v : Json} {id : String} (h : c.trickled (.iceCandidate p v) = [.ice id v]) :
    c.ws = true ∧ c.callId? = some id := by
  unfold trickled at h
  cases hws : c.ws <;> cases hcall : c.callId? <;> simp_all

/-- A candidate that came out of time is not made up for. -/
theorem untimely_lost {p : Nat} {v : Json} {id : String} {j₁ j₂ : Journal} (hs : (system page).step j (.iceCandidate p v) j₁)
    (huse : j.client.rtcPeer = some p) (hoffered : offered p v = false)
    (hid : ¬ (j.client.ws = true ∧ j.client.callId? = some id)) (hafter : (system page).Steps j₁ ls j₂)
    (hreturned : (p, id) ∈ j₂.client.returned) (hconnected : p ∈ j₂.connected) : ¬ Delivered offered j₂ := by
  intro hall
  obtain ⟨hstep, hreports, -⟩ := hs
  have hrequests := (step_requests hstep).2 p v rfl
  have hr : ⟨p, v, decide (j.client.rtcPeer = some p),
      (j₁.client.sent.drop j.client.sent.length).filter Request.isIce⟩ ∈ j₁.reports := by
    rw [hreports]
    exact List.mem_append_right _ (List.mem_singleton_self _)
  have hkept := steps_reports hafter _ hr
  obtain hcarried | hsent := hall.delivered p id hreturned hconnected _ hkept rfl (decide_eq_true huse)
  · exact absurd (hcarried.symm.trans hoffered) (by decide)
  · apply hid
    apply trickled_eq
    rw [← hrequests]
    exact hsent

/-- **No candidate is lost** as long as each comes in time; one that does not is lost to
every call that is connected with its peer. -/
theorem candidates_delivered (h : ((system page).restrict (Timely offered)).Run ls j) :
    Delivered offered j ∧ ∀ p v j₁ after j₂ id, (system page).step j (.iceCandidate p v) j₁ →
      j.client.rtcPeer = some p → offered p v = false → ¬ (j.client.ws = true ∧ j.client.callId? = some id) →
      (system page).Steps j₁ after j₂ → (p, id) ∈ j₂.client.returned → p ∈ j₂.connected → ¬ Delivered offered j₂ := by
  have honce := run_once h.of_restrict
  refine ⟨⟨run_attributed h.of_restrict, fun p id hid _ r hr hp huse => ?_⟩, fun _ _ _ _ _ _ => untimely_lost⟩
  obtain hoffered | ⟨id', hid', hreq⟩ := run_sent h r hr huse
  · exact .inl (hp ▸ hoffered)
  · rw [hp] at hid'
    obtain rfl := honce.unique p id id' hid hid'
    exact .inr hreq

def demoCandidate : Json := .obj [("candidate", .str "candidate:1 1 udp 2113937151 192.168.1.2 50000 typ host")]

/-- The journal after one more step. -/
def next (j : Journal) (l : Label) (c : Client) : Journal :=
  ⟨c, j.reports ++ reported j.client l c, j.connected ++ l.connected⟩

theorem step_next {c : Client} (h : Step j.client l c) : (system page).step j l (j.next l c) := ⟨h, rfl, rfl⟩

/-- A candidate that comes after the response. -/
theorem candidates_delivered_late : ∃ j, ((system .html).restrict (Timely fun _ _ => false)).Run
    [.callClick, .media 0 true, .offer 0 true, .localDescription 0 true, .startResponse 0 (some demoResult),
      .iceCandidate 0 demoCandidate, .answer 0 true, .connectionState 0 .connected] j ∧
    Delivered (fun _ _ => false) j ∧ j.connected = [0] ∧ j.reports.map Report.inUse = [true] := by
  have h₀ : ((system .html).restrict (Timely fun _ _ => false)).Run [] ⟨Client.new .html true, [], []⟩ :=
    .nil ⟨⟨true, rfl⟩, rfl, rfl⟩
  have h₁ := h₀.snoc ⟨step_next (show Step _ .callClick _ from .callClick), trivial⟩
  have h₂ := h₁.snoc ⟨step_next (show Step _ (.media 0 true) _ from .media rfl), trivial⟩
  have h₃ := h₂.snoc ⟨step_next (show Step _ (.offer 0 true) _ from .offer rfl), trivial⟩
  have h₄ := h₃.snoc ⟨step_next (show Step _ (.localDescription 0 true) _ from .localDescription rfl), trivial⟩
  have h₅ := h₄.snoc ⟨step_next (show Step _ (.startResponse 0 (some demoResult)) _ from
    .startResponse rfl fun r hr => by cases hr; decide), trivial⟩
  have h₆ := h₅.snoc ⟨step_next (show Step _ (.iceCandidate 0 demoCandidate) _ from .iceCandidate rfl),
    fun _ _ => ⟨rfl, demoResult.callId, rfl, List.mem_singleton_self _⟩⟩
  have h₇ := h₆.snoc ⟨step_next (show Step _ (.answer 0 true) _ from .answer rfl), trivial⟩
  have h₈ := h₇.snoc ⟨step_next (show Step _ (.connectionState 0 .connected) _ from .connectionState rfl), trivial⟩
  exact ⟨_, h₈, (candidates_delivered h₈).1, rfl, rfl⟩

/-- A candidate that comes before the response is never sent. -/
theorem early_candidate_lost : ¬ ∀ page ls j, (system page).Run ls j → Delivered (fun _ _ => false) j := by
  intro hall
  have h₀ : (system .html).Run [] ⟨Client.new .html true, [], []⟩ := .nil ⟨⟨true, rfl⟩, rfl, rfl⟩
  have h₁ := h₀.snoc (step_next (show Step _ .callClick _ from .callClick))
  have h₂ := h₁.snoc (step_next (show Step _ (.media 0 true) _ from .media rfl))
  have h₃ := h₂.snoc (step_next (show Step _ (.offer 0 true) _ from .offer rfl))
  have h₄ := h₃.snoc (step_next (show Step _ (.iceCandidate 0 demoCandidate) _ from .iceCandidate rfl))
  have h₅ := h₄.snoc (step_next (show Step _ (.localDescription 0 true) _ from .localDescription rfl))
  have h₆ := h₅.snoc (step_next (show Step _ (.startResponse 0 (some demoResult)) _ from
    .startResponse rfl fun r hr => by cases hr; decide))
  have h₇ := h₆.snoc (step_next (show Step _ (.answer 0 true) _ from .answer rfl))
  have h₈ := h₇.snoc (step_next (show Step _ (.connectionState 0 .connected) _ from .connectionState rfl))
  obtain hoffered | hsent := (hall .html _ _ h₈).delivered 0 demoResult.callId (List.mem_singleton_self _)
    (List.mem_singleton_self _) ⟨0, demoCandidate, true, []⟩ (List.mem_singleton_self _) rfl rfl
  · cases hoffered
  · cases hsent

end Journal
end RtcPlugin.Browser
