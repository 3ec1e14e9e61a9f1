import RtcPlugin.System.Promises
import RtcPlugin.TsNode.GatewayClient

/-! What a step does to the promises of `request`.

A step settles what its label says (`Label.outcome`) and issues at most one new
request (`step_promises`). -/
namespace RtcPlugin.TsNode.GatewayNodeClient
open Auth (TimeValue)
open Promises

def promises (c : GatewayNodeClient) : Promises String Waiter Outcome := ⟨c.pending, c.settled⟩

section
variable (e : Setup)

/-- The request a frame responds to. -/
def responds? (frame : Json) : Option String :=
  match frame.get? "type", frame.get? "id" with
  | some (.str "res"), some (.str id) => some id
  | _, _ => none

/-- What an event means for the request `id`: a response that carries its identifier,
a close or a stop. -/
def Label.outcome (id : String) : Label → Option Outcome
  | .message _ (some frame) _ => if responds? frame = some id then some (responseOutcome e frame) else none
  | .closed _ code => some (.rejected (closeMessage code))
  | .stop => some (.rejected stopMessage)
  | _ => none

/-- What an event does to the promises before anything is issued. -/
def Label.applied (p : Promises String Waiter Outcome) : Label → Promises String Waiter Outcome
  | .message _ (some frame) _ =>
    match responds? frame with
    | some id => p.settle id (responseOutcome e frame)
    | none => p
  | .closed _ code => p.flush (.rejected (closeMessage code))
  | .stop => p.flush (.rejected stopMessage)
  | _ => p

theorem applied_stands {p : Promises String Waiter Outcome} {id : String} {st : Standing Outcome} (h : p.Stands id st)
    (l : Label) : (l.applied e p).Stands id (st.next (l.outcome e id)) := by
  have hnone : st.next none = st := by cases st <;> rfl
  cases l with
  | message s frame now =>
    cases frame with
    | none =>
      show p.Stands id (st.next none)
      rwa [hnone]
    | some frame =>
      unfold Label.applied Label.outcome
      dsimp only
      cases responds? frame with
      | none =>
        rw [if_neg (Option.some_ne_none id).symm, hnone]
        exact h
      | some id' =>
        by_cases hid : id' = id
        · rw [if_pos (congrArg some hid), hid]
          exact stands_settle_self h _
        · rw [if_neg (fun heq => hid (Option.some.inj heq)), hnone]
          exact stands_settle_ne h (Ne.symm hid) _
  | closed s code => exact stands_flush h _
  | stop => exact stands_flush h _
  | _ =>
    show p.Stands id (st.next none)
    rwa [hnone]

/-! ### What a step issues -/

/-- From promises `p` and `d` drawn identifiers: nothing more, or one request. -/
def Draws (p : Promises String Waiter Outcome) (d : Nat) (c : GatewayNodeClient) : Prop :=
  (c.promises = p ∧ c.drawn = d) ∨ ∃ waiter, c.promises = p.add (e.randomUUID d) waiter ∧ c.drawn = d + 1

theorem Draws.none {c : GatewayNodeClient} : Draws e c.promises c.drawn c := .inl ⟨rfl, rfl⟩

theorem issue_draws (c : GatewayNodeClient) (s : Nat) (sender : Waiter) (method : String) (params : Params) :
    Draws e c.promises c.drawn (issue e c s sender method params) := .inr ⟨sender, rfl, rfl⟩

theorem request_draws (c : GatewayNodeClient) (sender : Waiter) (method : String) (params : Params) :
    Draws e c.promises c.drawn ((request e c sender method params).getD c) := by
  unfold request
  cases c.current with
  | none => exact .none e
  | some s => exact issue_draws ..

theorem reportFailure_draws (c : GatewayNodeClient) (t : Nat) (id : Json) (message : String) :
    Draws e c.promises c.drawn (reportFailure e c t id message) := request_draws ..

theorem report_draws (c : GatewayNodeClient) (t : Nat) (id : Json) (returned : Returned) :
    Draws e c.promises c.drawn (report e c t id returned) := by
  rw [report_eq]
  cases c.current with
  | none => exact .none e
  | some s => exact issue_draws ..

theorem resume_draws (c : GatewayNodeClient) (waiter : Waiter) (outcome : Outcome) :
    Draws e c.promises c.drawn (resume e c waiter outcome) := by
  rcases resume_cases e c waiter outcome with heq | ⟨t, inv, message, _, _, _, heq⟩
  · rw [heq]
    exact .none e
  · rw [heq]
    exact reportFailure_draws ..

theorem handleInvokeRequest_draws (c : GatewayNodeClient) (s : Nat) (payload : Option Json) :
    Draws e c.promises c.drawn (handleInvokeRequest e c s payload) := by
  unfold handleInvokeRequest
  split
  · split
    · dsimp only
      split
      · exact .inl ⟨rfl, rfl⟩
      · exact report_draws e _ _ _ _
    · exact .none e
  · exact .none e

theorem handleChallenge_draws (c : GatewayNodeClient) (s : Nat) (payload : Option Json) (now : TimeValue) :
    Draws e c.promises c.drawn (handleChallenge e c s payload now) := by
  unfold handleChallenge
  split
  · exact .none e
  · split
    · exact .inl ⟨rfl, rfl⟩
    · exact .inl ⟨rfl, rfl⟩
    · exact request_draws e {c with connectSent := true} _ _ _

theorem handleEvent_draws (c : GatewayNodeClient) (s : Nat) (frame : Json) (now : TimeValue) :
    Draws e c.promises c.drawn (handleEvent e c s frame now) := by
  unfold handleEvent
  split
  · exact handleChallenge_draws ..
  · exact handleInvokeRequest_draws ..
  · exact .none e

theorem responds?_response {frame : Json} (h : frame.get? "type" = some (.str "res")) :
    responds? frame = match frame.get? "id" with
      | some (.str id) => some id
      | _ => none := by
  unfold responds?
  rw [h]
  cases frame.get? "id" with
  | none => rfl
  | some v => cases v <;> rfl

theorem handleResponse_draws (c : GatewayNodeClient) {frame : Json} (h : frame.get? "type" = some (.str "res")) :
    Draws e (match responds? frame with
      | some id => c.promises.settle id (responseOutcome e frame)
      | none => c.promises) c.drawn (handleResponse e c frame) := by
  unfold handleResponse
  rw [responds?_response h]
  cases frame.get? "id" with
  | none => exact .none e
  | some v =>
    cases v with
    | str id =>
      unfold Promises.settle promises
      dsimp only
      cases c.pending.get? id with
      | none => exact .none e
      | some waiter =>
        exact resume_draws e ({c with pending := c.pending.delete id}.settle id (responseOutcome e frame)) waiter
          (responseOutcome e frame)
    | _ => exact .none e

/-- A frame is an event, a response, or nothing. -/
theorem handleFrame_cases (c : GatewayNodeClient) (s : Nat) (frame : Json) (now : TimeValue) :
    (frame.get? "type" = some (.str "res") ∧ handleFrame e c s frame now = handleResponse e c frame) ∨
    (responds? frame = none ∧ (handleFrame e c s frame now = handleEvent e c s frame now ∨
      handleFrame e c s frame now = c)) := by
  by_cases hres : frame.get? "type" = some (.str "res")
  · exact .inl ⟨hres, by simp [handleFrame, hres]⟩
  · refine .inr ⟨?_, ?_⟩
    · unfold responds?
      split
      · next heq _ => exact absurd heq hres
      · rfl
    · unfold handleFrame
      split
      · exact .inl rfl
      · next heq => exact absurd heq hres
      · exact .inr rfl

theorem message_draws (c : GatewayNodeClient) (s : Nat) (frame : Option Json) (now : TimeValue) :
    Draws e ((Label.message s frame now).applied e c.promises) c.drawn (onMessage e c s frame now) := by
  cases frame with
  | none => exact .none e
  | some frame =>
    show Draws e (match responds? frame with
      | some id => c.promises.settle id (responseOutcome e frame)
      | none => c.promises) _ (handleFrame e c s frame now)
    obtain ⟨htype, heq⟩ | ⟨hnone, heq | heq⟩ := handleFrame_cases e c s frame now
    · rw [heq]
      exact handleResponse_draws e c htype
    · rw [heq, hnone]
      exact handleEvent_draws ..
    · rw [heq, hnone]
      exact .none e

theorem start_promises (c : GatewayNodeClient) : c.start.promises = c.promises ∧ c.start.drawn = c.drawn := by
  unfold start
  split <;> exact ⟨rfl, rfl⟩

theorem scheduleReconnect_promises (c : GatewayNodeClient) :
    c.scheduleReconnect.promises = c.promises ∧ c.scheduleReconnect.drawn = c.drawn := by
  unfold scheduleReconnect
  split <;> exact ⟨rfl, rfl⟩

theorem clearReconnect_promises (c : GatewayNodeClient) :
    c.clearReconnect.promises = c.promises ∧ c.clearReconnect.drawn = c.drawn := by
  unfold clearReconnect
  split <;> exact ⟨rfl, rfl⟩

theorem dropSocket_promises (c : GatewayNodeClient) :
    c.dropSocket.promises = c.promises ∧ c.dropSocket.drawn = c.drawn := by
  unfold dropSocket
  split <;> exact ⟨rfl, rfl⟩

theorem onClose_promises (c : GatewayNodeClient) (s code : Nat) :
    (onClose e c s code).promises = c.promises.flush (.rejected (closeMessage code)) ∧
      (onClose e c s code).drawn = c.drawn := by
  rw [onClose_eq]
  exact scheduleReconnect_promises _

theorem stop_promises (c : GatewayNodeClient) :
    (stop e c).promises = c.promises.flush (.rejected stopMessage) ∧ (stop e c).drawn = c.drawn := by
  rw [stop_eq]
  obtain ⟨hclear, hdrawn⟩ := clearReconnect_promises {c with closed := true}
  obtain ⟨hdrop, hdrawn'⟩ := dropSocket_promises {c with closed := true}.clearReconnect
  refine ⟨?_, hdrawn'.trans hdrawn⟩
  show ({c with closed := true}.clearReconnect.dropSocket).promises.flush _ = _
  rw [hdrop, hclear]
  rfl

/-- **What a step does to the promises**: what its label says, and one more request
at most. -/
theorem step_promises {c c' : GatewayNodeClient} {l : Label} (h : Step e c l c') :
    Draws e (l.applied e c.promises) c.drawn c' := by
  cases h with
  | start => exact .inl (start_promises c)
  | opened => exact .inl ⟨rfl, rfl⟩
  | message => exact message_draws ..
  | error => exact .none e
  | closing => exact .inl ⟨rfl, rfl⟩
  | @closed s code => exact .inl (onClose_promises e c s code)
  | @timer handle => exact .inl (start_promises {c with timers := c.timers.filter (·.1 ≠ handle), reconnectTimer := none})
  | stop => exact .inl (stop_promises e c)
  | @request method params => exact request_draws e c .caller method (.other params)
  | @settled t inv returned _ _ =>
    exact report_draws e {c with invokes := Function.update c.invokes t (some {inv with returned := some returned})} t inv.id
      returned

end

end RtcPlugin.TsNode.GatewayNodeClient
