import RtcPlugin.TsNode.Pending
import RtcPlugin.TsNode.Sockets

/-! What goes out on the wire, and why.

`onMessage_handled` says once what a frame can make the client do; a request then
either goes out as the last frame so far or changes nothing (`attempt_cases`). -/
namespace RtcPlugin.TsNode
open Auth (TimeValue)

/-- The frames and the invokes, which the events of sockets and timers leave alone. -/
structure Traffic where
  sent : List Sent
  invokes : Nat → Option Invoke
  received : Nat

/-- The frames on one socket, in order. -/
def Traffic.wire (k : Traffic) (s : Nat) : List Sent := k.sent.filter (·.socket = s)

def Traffic.results (k : Traffic) : List InvokeResult := k.sent.filterMap Sent.result?

def Traffic.add (k : Traffic) (m : Sent) : Traffic := {k with sent := k.sent ++ [m]}

theorem Traffic.results_add (k : Traffic) (m : Sent) : (k.add m).results = k.results ++ m.result?.toList := by
  unfold results add
  rw [List.filterMap_append]
  cases hr : m.result? <;> simp [hr]

namespace GatewayNodeClient

def traffic (c : GatewayNodeClient) : Traffic := ⟨c.sent, c.invokes, c.received⟩

def wire (c : GatewayNodeClient) (s : Nat) : List Sent := c.traffic.wire s

/-- The invoke a frame on the socket `s` requests. -/
def invokeOf (s : Nat) (frame : Json) : Option Invoke :=
  match frame.get? "type", frame.get? "event" with
  | some (.str "event"), some (.str "node.invoke.request") =>
    let payload := frame.get? "payload"
    match optGet? payload "id", optGet? payload "command" with
    | some id, some command =>
      if id.truthy && command.truthy then some ⟨s, id, command, parseParams (optGet? payload "paramsJSON"), none⟩ else none
    | _, _ => none
  | _, _ => none

theorem invokeOf_new {s : Nat} {frame : Json} {inv : Invoke} (h : invokeOf s frame = some inv) :
    inv.socket = s ∧ inv.returned = none := by
  simp only [invokeOf] at h
  split at h
  · split at h
    · split at h
      · obtain rfl := Option.some.inj h
        exact ⟨rfl, rfl⟩
      · cases h
    · cases h
  · cases h

/-- An invoke gets the next number. -/
def receive (c : GatewayNodeClient) (inv : Invoke) : GatewayNodeClient :=
  {c with invokes := Function.update c.invokes c.received (some inv), received := c.received + 1}

/-- The promise of `onInvoke` has settled. -/
def mark (c : GatewayNodeClient) (t : Nat) (inv : Invoke) (returned : Returned) : GatewayNodeClient :=
  {c with invokes := Function.update c.invokes t (some {inv with returned := some returned})}

/-- A promise leaves the map and is settled. -/
def conclude (c : GatewayNodeClient) (id : String) (outcome : Outcome) : GatewayNodeClient :=
  {c with pending := c.pending.delete id}.settle id outcome

def noHandler : Returned := .value (some (.obj [("error", .str "no handler")]))

section
variable (e : Setup)

/-- A request whose rejection is swallowed. -/
def attempt (c : GatewayNodeClient) (sender : Waiter) (method : String) (params : Params) : GatewayNodeClient :=
  (request e c sender method params).getD c

/-- How a result goes out. -/
def attemptResult (c : GatewayNodeClient) (t : Nat) (id : Json) (returned : Returned) : GatewayNodeClient :=
  attempt e c (reportSender t returned) "node.invoke.result" (.invokeResult (reportResult e id returned))

/-- What a frame on the socket `s` makes the client do. -/
inductive Handled (c : GatewayNodeClient) (s : Nat) (frame : Json) : GatewayNodeClient → Prop where
  | ignored : Handled c s frame c
  | challenged : c.connectSent = false → Handled c s frame {c with connectSent := true}
  | connects {p} : c.connectSent = false →
      Handled c s frame (attempt e {c with connectSent := true} (.connect s) "connect" (.connect p))
  | invoked {inv} : invokeOf s frame = some inv → e.opts.onInvoke = true → Handled c s frame (c.receive inv)
  | unhandled {inv} : invokeOf s frame = some inv → e.opts.onInvoke = false →
      Handled c s frame (attemptResult e ((c.receive inv).mark c.received inv noHandler) c.received inv.id noHandler)
  | answered {id waiter} : responds? frame = some id → c.pending.get? id = some waiter →
      Handled c s frame (resume e (c.conclude id (responseOutcome e frame)) waiter (responseOutcome e frame))

theorem attempt_some {c : GatewayNodeClient} {w : Nat} (h : c.current = some w) (sender : Waiter) (method : String)
    (params : Params) : attempt e c sender method params = issue e c w sender method params := by
  unfold attempt request
  rw [h]
  rfl

theorem attempt_cases (c : GatewayNodeClient) (sender : Waiter) (method : String) (params : Params) :
    (c.current = none ∧ attempt e c sender method params = c) ∨
      ∃ w, c.current = some w ∧ attempt e c sender method params = issue e c w sender method params := by
  unfold attempt request
  cases c.current with
  | none => exact .inl ⟨rfl, rfl⟩
  | some w => exact .inr ⟨w, rfl, rfl⟩

theorem attemptResult_none {c : GatewayNodeClient} (h : c.current = none) (t : Nat) (id : Json) (returned : Returned) :
    attemptResult e c t id returned = c := by
  unfold attemptResult attempt request
  rw [h]
  rfl

theorem report_attempt (c : GatewayNodeClient) (t : Nat) (id : Json) (returned : Returned) :
    report e c t id returned = attemptResult e c t id returned := by
  rw [report_eq]
  unfold attemptResult attempt request
  cases c.current <;> rfl

theorem onInvokeSettled_eq (c : GatewayNodeClient) (t : Nat) (inv : Invoke) (returned : Returned) :
    onInvokeSettled e c t inv returned = attemptResult e (c.mark t inv returned) t inv.id returned := report_attempt ..

/-- The reaction to a response: a report that was refused is followed by a failure. -/
theorem resume_attempt (c : GatewayNodeClient) (waiter : Waiter) (outcome : Outcome) :
    resume e c waiter outcome = c ∨ ∃ t inv message, waiter = .report t ∧ outcome = .rejected message ∧
      c.invokes t = some inv ∧ resume e c waiter outcome = attemptResult e c t inv.id (.rejected message) :=
  resume_cases ..

theorem handleChallenge_handled (c : GatewayNodeClient) (s : Nat) (frame : Json) (payload : Option Json) (now : TimeValue) :
    Handled e c s frame (handleChallenge e c s payload now) := by
  unfold handleChallenge
  split
  · exact .ignored
  · next hsent =>
    have hsent : c.connectSent = false := Bool.eq_false_iff.mpr hsent
    split
    · exact .challenged hsent
    · exact .challenged hsent
    · exact .connects hsent

theorem handleInvokeRequest_handled {c : GatewayNodeClient} {s : Nat} {frame : Json}
    (htype : frame.get? "type" = some (.str "event")) (hevent : frame.get? "event" = some (.str "node.invoke.request")) :
    Handled e c s frame (handleInvokeRequest e c s (frame.get? "payload")) := by
  unfold handleInvokeRequest
  split
  · next id command hid hcommand =>
    split
    · next htruthy =>
      have hinv : invokeOf s frame =
          some ⟨s, id, command, parseParams (optGet? (frame.get? "payload") "paramsJSON"), none⟩ := by
        simp only [invokeOf, htype, hevent, hid, hcommand, htruthy, if_true]
      dsimp only
      split
      · next hon => exact .invoked hinv hon
      · next hon =>
        rw [onInvokeSettled_eq]
        exact .unhandled hinv (Bool.eq_false_iff.mpr hon)
    · exact .ignored
  · exact .ignored

theorem handleResponse_handled {c : GatewayNodeClient} {s : Nat} {frame : Json}
    (htype : frame.get? "type" = some (.str "res")) : Handled e c s frame (handleResponse e c frame) := by
  unfold handleResponse
  split
  · next id hid =>
    have hresponds : responds? frame = some id := by
      rw [responds?_response htype, hid]
    split
    · next waiter hw => exact .answered hresponds hw
    · exact .ignored
  · exact .ignored

theorem onMessage_handled (c : GatewayNodeClient) (s : Nat) (frame : Json) (now : TimeValue) :
    Handled e c s frame (onMessage e c s (some frame) now) := by
  show Handled e c s frame (handleFrame e c s frame now)
  unfold handleFrame
  split
  · next htype =>
    unfold handleEvent
    split
    · exact handleChallenge_handled ..
    · next hevent => exact handleInvokeRequest_handled e htype hevent
    · exact .ignored
  · next htype => exact handleResponse_handled e htype
  · exact .ignored

/-- An invoke is answered at once where there is no handler. -/
theorem onMessage_unhandled {c : GatewayNodeClient} {s : Nat} {frame : Json} {now : TimeValue} {inv : Invoke}
    (hinv : invokeOf s frame = some inv) (hoff : e.opts.onInvoke = false) : onMessage e c s (some frame) now =
      attemptResult e ((c.receive inv).mark c.received inv noHandler) c.received inv.id noHandler := by
  simp only [invokeOf] at hinv
  split at hinv
  · next htype hevent =>
    split at hinv
    · next id command hid hcommand =>
      split at hinv
      · next htruthy =>
        obtain rfl := Option.some.inj hinv
        rw [← onInvokeSettled_eq]
        simp only [onMessage, handleFrame, htype, handleEvent, hevent, handleInvokeRequest, hid, hcommand, htruthy,
          hoff, if_true]
        rfl
      · cases hinv
    · cases hinv
  · cases hinv

theorem onMessage_response {c : GatewayNodeClient} {s : Nat} {frame : Json} {now : TimeValue} {id : String} {waiter : Waiter}
    (hid : responds? frame = some id) (hw : c.pending.get? id = some waiter) : onMessage e c s (some frame) now =
      resume e (c.conclude id (responseOutcome e frame)) waiter (responseOutcome e frame) := by
  simp only [responds?] at hid
  split at hid
  · next htype hframe =>
    obtain rfl := Option.some.inj hid
    simp only [onMessage, handleFrame, htype, handleResponse, hframe, hw, conclude]
  · cases hid

theorem resume_refused {c : GatewayNodeClient} {frame : Json} {t : Nat} {inv : Invoke} (hinv : c.invokes t = some inv)
    (hok : optTruthy (frame.get? "ok") = false) : resume e c (.report t) (responseOutcome e frame) =
      attemptResult e c t inv.id (.rejected (errorMessage e frame)) := by
  have hrejected : responseOutcome e frame = .rejected (errorMessage e frame) := by simp [responseOutcome, hok]
  rw [hrejected]
  simp only [resume, hinv]
  rfl

/-! ### What goes out is kept -/

theorem wire_issue_self (c : GatewayNodeClient) (w : Nat) (sender : Waiter) (method : String) (params : Params) :
    (issue e c w sender method params).wire w = c.wire w ++ [⟨w, sender, ⟨e.randomUUID c.drawn, method, params⟩⟩] := by
  simp [wire, Traffic.wire, traffic, issue]

theorem wire_issue_ne (c : GatewayNodeClient) {w s : Nat} (h : s ≠ w) (sender : Waiter) (method : String) (params : Params) :
    (issue e c w sender method params).wire s = c.wire s := by
  simp [wire, Traffic.wire, traffic, issue, Ne.symm h]

/-- Who waits for a response now is who sent the frame, or waited before. -/
theorem issue_pending {c : GatewayNodeClient} {w : Nat} {sender waiter : Waiter} {method id : String} {params : Params}
    (h : (issue e c w sender method params).pending.get? id = some waiter) :
    waiter = sender ∨ c.pending.get? id = some waiter := by
  have h : (c.pending.set (e.randomUUID c.drawn) sender).get? id = some waiter := h
  obtain ⟨-, hnew⟩ | ⟨-, hold⟩ := KeyMap.get?_set_some h
  · exact .inl hnew
  · exact .inr hold

/-- On an open socket the result goes out. -/
theorem attemptResult_results {c : GatewayNodeClient} {w : Nat} (hw : c.current = some w) (t : Nat) (id : Json)
    (returned : Returned) :
    (attemptResult e c t id returned).traffic.results = c.traffic.results ++ [reportResult e id returned] := by
  unfold attemptResult
  rw [attempt_some e hw]
  exact Traffic.results_add c.traffic _

theorem start_traffic (c : GatewayNodeClient) : c.start.traffic = c.traffic := by
  unfold start
  split <;> rfl

theorem onClose_traffic (c : GatewayNodeClient) (s code : Nat) : (onClose e c s code).traffic = c.traffic := by
  rw [onClose_eq]
  unfold scheduleReconnect
  split <;> rfl

theorem stop_traffic (c : GatewayNodeClient) : (stop e c).traffic = c.traffic := by
  rw [stop_eq]
  show ({c with closed := true}.clearReconnect.dropSocket).traffic = _
  unfold dropSocket clearReconnect
  split <;> split <;> rfl

theorem receive_invokes {c : GatewayNodeClient} {t : Nat} {inv : Invoke} (new : Invoke) (h : c.invokes t = some inv)
    (hnumbered : ∀ t inv, c.invokes t = some inv → t < c.received) : (c.receive new).invokes t = some inv := by
  have hlt := hnumbered t inv h
  have hne : t ≠ c.received := by omega
  rw [← h]
  exact Function.update_of_ne hne ..

theorem mark_invokes_self (c : GatewayNodeClient) (t : Nat) (inv : Invoke) (returned : Returned) :
    (c.mark t inv returned).invokes t = some {inv with returned := some returned} := Function.update_self ..

theorem mark_invokes_ne (c : GatewayNodeClient) {t t' : Nat} (h : t' ≠ t) (inv : Invoke) (returned : Returned) :
    (c.mark t inv returned).invokes t' = c.invokes t' := Function.update_of_ne h ..

end
end GatewayNodeClient
end RtcPlugin.TsNode
