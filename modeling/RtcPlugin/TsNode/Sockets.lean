import RtcPlugin.TsNode.GatewayClient

/-! One socket at a time.

The sockets, the reconnect timer and the flags around them are a client's `Link`. The
traffic never touches it, and the other events keep it `Single`: a socket that is not
closed is `ws`, unless the client was stopped, and a timer is armed only between
sockets. -/
namespace RtcPlugin.TsNode
open Auth (TimeValue)

structure Link where
  ws : Option Nat
  sockets : Nat → ReadyState
  created : Nat
  closed : Bool
  reconnectTimer : Option Nat
  timers : List (Nat × Nat)

structure Link.Single (k : Link) : Prop where
  known : ∀ s, k.ws = some s → s < k.created
  fresh : ∀ s, k.created ≤ s → k.sockets s = .closed
  only : ∀ s, k.sockets s ≠ .closed → k.ws = some s ∨ k.closed = true
  between : ∀ s, k.ws = some s → k.timers = []
  timer : k.timers = [] ∨ ∃ handle delay, k.timers = [(handle, delay)] ∧ k.reconnectTimer = some handle
  begun : k.created = 0 → k.timers = []
  stopped : k.closed = true → k.ws = none ∧ k.timers = []

namespace GatewayNodeClient

def link (c : GatewayNodeClient) : Link := ⟨c.ws, c.sockets, c.created, c.closed, c.reconnectTimer, c.timers⟩

/-! ### The traffic -/

/-- `f` reads nothing that responses and invokes change, and of the frames sent only the
connects. -/
structure Steady {X : Type} (f : GatewayNodeClient → X) : Prop where
  fields : ∀ c pending drawn invokes received settled,
    f {c with pending := pending, drawn := drawn, invokes := invokes, received := received, settled := settled} = f c
  sent : ∀ c m, (∀ s, m.sender ≠ .connect s) → f {c with sent := c.sent ++ [m]} = f c

/-- `f` reads nothing that connects change either. -/
structure Undisturbed {X : Type} (f : GatewayNodeClient → X) : Prop extends Steady f where
  connects : ∀ c m, f {c with sent := c.sent ++ [m]} = f c
  flag : ∀ c, f {c with connectSent := true} = f c

theorem reportSender_ne (t : Nat) (returned : Returned) (s : Nat) : reportSender t returned ≠ .connect s := by
  cases returned <;> simp [reportSender]

section
variable (e : Setup) {X : Type} {f : GatewayNodeClient → X}

theorem issue_steady (hf : Steady f) (c : GatewayNodeClient) (s : Nat) {sender : Waiter} (hsender : ∀ s, sender ≠ .connect s)
    (method : String) (params : Params) : f (issue e c s sender method params) = f c :=
  (hf.fields {c with sent := c.sent ++ [⟨s, sender, ⟨e.randomUUID c.drawn, method, params⟩⟩]} _ _ c.invokes c.received
    c.settled).trans (hf.sent c _ hsender)

theorem request_steady (hf : Steady f) (c : GatewayNodeClient) {sender : Waiter} (hsender : ∀ s, sender ≠ .connect s)
    (method : String) (params : Params) : f ((request e c sender method params).getD c) = f c := by
  unfold request
  cases c.current with
  | none => rfl
  | some s => exact issue_steady e hf c s hsender method params

theorem caller_steady (hf : Steady f) (c : GatewayNodeClient) (method : String) (params : Params) :
    f ((request e c .caller method params).getD c) = f c := request_steady e hf c (fun _ => Waiter.noConfusion) ..

theorem reportFailure_steady (hf : Steady f) (c : GatewayNodeClient) (t : Nat) (id : Json) (message : String) :
    f (reportFailure e c t id message) = f c := request_steady e hf c (fun _ => Waiter.noConfusion) ..

theorem report_steady (hf : Steady f) (c : GatewayNodeClient) (t : Nat) (id : Json) (returned : Returned) :
    f (report e c t id returned) = f c := by
  rw [report_eq]
  cases c.current with
  | none => rfl
  | some s => exact issue_steady e hf c s (reportSender_ne t returned) ..

theorem resume_steady (hf : Steady f) (c : GatewayNodeClient) (waiter : Waiter) (outcome : Outcome) :
    f (resume e c waiter outcome) = f c := by
  obtain heq | ⟨t, inv, message, -, -, -, heq⟩ := resume_cases e c waiter outcome
  · rw [heq]
  · rw [heq, reportFailure_steady e hf]

theorem onInvokeSettled_steady (hf : Steady f) (c : GatewayNodeClient) (t : Nat) (inv : Invoke) (returned : Returned) :
    f (onInvokeSettled e c t inv returned) = f c := by
  unfold onInvokeSettled
  rw [report_steady e hf]
  exact hf.fields c c.pending c.drawn _ c.received c.settled

theorem handleInvokeRequest_steady (hf : Steady f) (c : GatewayNodeClient) (s : Nat) (payload : Option Json) :
    f (handleInvokeRequest e c s payload) = f c := by
  have hreceive (invokes : Nat → Option Invoke) (received : Nat) :
      f {c with invokes := invokes, received := received} = f c :=
    hf.fields c c.pending c.drawn invokes received c.settled
  unfold handleInvokeRequest
  split
  · split
    · dsimp only
      split
      · exact hreceive ..
      · rw [onInvokeSettled_steady e hf]
        exact hreceive ..
    · rfl
  · rfl

theorem handleResponse_steady (hf : Steady f) (c : GatewayNodeClient) (frame : Json) :
    f (handleResponse e c frame) = f c := by
  unfold handleResponse
  split
  · split
    · rw [resume_steady e hf]
      exact hf.fields c _ c.drawn c.invokes c.received _
    · rfl
  · rfl

theorem handleChallenge_undisturbed (hf : Undisturbed f) (c : GatewayNodeClient) (s : Nat) (payload : Option Json)
    (now : TimeValue) : f (handleChallenge e c s payload now) = f c := by
  have hrequest (c : GatewayNodeClient) (sender : Waiter) (method : String) (params : Params) :
      f ((request e c sender method params).getD c) = f c := by
    unfold request
    cases c.current with
    | none => rfl
    | some w =>
      exact (hf.fields {c with sent := c.sent ++ [⟨w, sender, ⟨e.randomUUID c.drawn, method, params⟩⟩]} _ _ c.invokes
        c.received c.settled).trans (hf.connects c _)
  unfold handleChallenge
  split
  · rfl
  · split
    · exact hf.flag c
    · exact hf.flag c
    · exact (hrequest {c with connectSent := true} ..).trans (hf.flag c)

theorem onMessage_undisturbed (hf : Undisturbed f) (c : GatewayNodeClient) (s : Nat) (frame : Option Json)
    (now : TimeValue) : f (onMessage e c s frame now) = f c := by
  unfold onMessage
  split
  · unfold handleFrame
    split
    · unfold handleEvent
      split
      · exact handleChallenge_undisturbed e hf ..
      · exact handleInvokeRequest_steady e hf.toSteady ..
      · rfl
    · exact handleResponse_steady e hf.toSteady ..
    · rfl
  · rfl

end

theorem link_undisturbed : Undisturbed link where
  fields _ _ _ _ _ _ := rfl
  sent _ _ _ := rfl
  connects _ _ := rfl
  flag _ := rfl

/-! ### The connection -/

theorem new_single : new.link.Single where
  known := by simp [new, link]
  fresh := by simp [new, link]
  only := by simp [new, link]
  between := by simp [new, link]
  timer := .inl rfl
  begun := by simp [new, link]
  stopped := by simp [new, link]

/-- A socket is made while there is none. -/
theorem start_single {c : GatewayNodeClient} (h : c.link.Single) (hws : c.ws = none) (htimers : c.timers = []) :
    c.start.link.Single := by
  unfold start
  split
  · exact h
  · next hclosed =>
    constructor
    · intro s hs
      obtain rfl := Option.some.inj hs
      exact Nat.lt_succ_self _
    · intro s hs
      have hs : c.created + 1 ≤ s := hs
      have hne : s ≠ c.created := by omega
      simpa [link, setReadyState, Function.update_of_ne hne] using h.fresh s (by show c.created ≤ s; omega)
    · intro s hs
      by_cases hsc : s = c.created
      · exact .inl (congrArg some hsc.symm)
      · have hold : c.sockets s ≠ .closed := by
          simpa [link, setReadyState, Function.update_of_ne hsc] using hs
        obtain heq | heq := h.only s hold
        · exact absurd (heq.symm.trans hws) (Option.some_ne_none s)
        · exact .inr heq
    · exact fun _ _ => htimers
    · exact .inl htimers
    · exact fun _ => htimers
    · exact fun hc => absurd hc hclosed

/-- A socket other than a closed one changes. -/
theorem setReadyState_single {c : GatewayNodeClient} {s : Nat} (h : c.link.Single) (hs : c.sockets s ≠ .closed)
    (state : ReadyState) : (c.setReadyState s state).link.Single := by
  refine {h with fresh := ?_, only := ?_}
  · intro s' hs'
    have hne : s' ≠ s := fun heq => hs (heq ▸ h.fresh s' hs')
    simpa [link, setReadyState, Function.update_of_ne hne] using h.fresh s' hs'
  · intro s' hs'
    by_cases hne : s' = s
    · exact hne ▸ h.only s hs
    · apply h.only s'
      simpa [link, setReadyState, Function.update_of_ne hne] using hs'

theorem ws_none_of_zero {c : GatewayNodeClient} (h : c.link.Single) (hzero : c.created = 0) : c.ws = none := by
  cases hw : c.ws with
  | none => rfl
  | some s =>
    have hlt : s < c.created := h.known s hw
    omega

theorem ws_none_of_timer {c : GatewayNodeClient} {handle delay : Nat} (h : c.link.Single)
    (htimer : (handle, delay) ∈ c.timers) : c.ws = none := by
  cases hw : c.ws with
  | none => rfl
  | some s =>
    rw [show c.timers = [] from h.between s hw] at htimer
    cases htimer

theorem onTimer_single {c : GatewayNodeClient} {handle delay : Nat} (h : c.link.Single) (htimer : (handle, delay) ∈ c.timers) :
    (c.onTimer handle).link.Single := by
  have hws := ws_none_of_timer h htimer
  obtain hnone | ⟨handle', delay', hone, -⟩ := h.timer
  · rw [show c.timers = [] from hnone] at htimer
    cases htimer
  · rw [show c.timers = [(handle', delay')] from hone] at htimer
    obtain rfl : handle = handle' := congrArg Prod.fst (List.mem_singleton.mp htimer)
    have htimers : c.timers.filter (·.1 ≠ handle) = [] := by
      rw [show c.timers = [(handle, delay')] from hone]
      simp
    have hfired : Link.Single {c.link with timers := c.timers.filter (·.1 ≠ handle), reconnectTimer := none} :=
      {h with
        between := fun _ _ => htimers
        timer := .inl htimers
        begun := fun _ => htimers
        stopped := fun hc => ⟨(h.stopped hc).1, htimers⟩}
    exact start_single (c := {c with timers := c.timers.filter (·.1 ≠ handle), reconnectTimer := none}) hfired hws htimers

theorem onClose_ws (e : Setup) (c : GatewayNodeClient) (s code : Nat) : (onClose e c s code).ws = none := by
  rw [onClose_eq, scheduleReconnect_ws]
  rfl

theorem onClose_created (e : Setup) (c : GatewayNodeClient) (s code : Nat) : (onClose e c s code).created = c.created := by
  rw [onClose_eq]
  unfold scheduleReconnect
  split <;> rfl

theorem onClose_single {e : Setup} {c : GatewayNodeClient} {s : Nat} (h : c.link.Single) (hs : c.sockets s ≠ .closed)
    (code : Nat) : (onClose e c s code).link.Single := by
  rw [onClose_eq]
  have hset := setReadyState_single h hs .closed
  unfold scheduleReconnect
  split
  · next hclosed =>
    -- a stopped client has no `ws` to lose
    have hws : c.ws = none := (h.stopped hclosed).1
    have heq : ({c.setReadyState s .closed with ws := none}.flushPending (closeMessage code)).link =
        (c.setReadyState s .closed).link := by
      unfold link flushPending setReadyState
      rw [hws]
    rw [heq]
    exact hset
  · next hopen =>
    have hopen : c.closed ≠ true := hopen
    have hws : c.ws = some s := (h.only s hs).resolve_right hopen
    have htimers : c.timers = [] := h.between s hws
    have hall : ∀ s', (c.setReadyState s .closed).sockets s' = .closed := by
      intro s'
      by_contra hne
      obtain heq | heq := hset.only s' hne
      · obtain rfl : s = s' := Option.some.inj (hws.symm.trans heq)
        exact hne (Function.update_self ..)
      · exact hopen heq
    constructor
    · exact fun _ hn => absurd hn.symm (Option.some_ne_none _)
    · exact fun s' _ => hall s'
    · exact fun s' hne => absurd (hall s') hne
    · exact fun _ hn => absurd hn.symm (Option.some_ne_none _)
    · exact .inr ⟨c.armed, c.backoffMs, congrArg (· ++ [(c.armed, c.backoffMs)]) htimers, rfl⟩
    · intro hzero
      have hlt : s < c.created := h.known s hws
      have hzero : c.created = 0 := hzero
      omega
    · exact fun hc => absurd hc hopen

theorem clearReconnect_link (c : GatewayNodeClient) : c.clearReconnect.link =
    {c.link with timers := c.clearReconnect.timers, reconnectTimer := c.clearReconnect.reconnectTimer} := by
  unfold clearReconnect
  split <;> rfl

/-- The armed timer is the one the client knows. -/
theorem clearReconnect_timers {c : GatewayNodeClient} (h : c.timers = [] ∨
    ∃ handle delay, c.timers = [(handle, delay)] ∧ c.reconnectTimer = some handle) : c.clearReconnect.timers = [] := by
  unfold clearReconnect
  obtain hnone | ⟨handle, delay, hone, htimer⟩ := h
  · split <;> simp [hnone]
  · simp [hone, htimer]

theorem dropSocket_link (c : GatewayNodeClient) : c.dropSocket.link =
    {c.link with ws := none, sockets := c.dropSocket.sockets} := by
  unfold dropSocket
  split
  · rfl
  · next hws =>
    unfold link
    rw [hws]

theorem dropSocket_sockets {c : GatewayNodeClient} {s : Nat} (h : c.sockets s = .closed) :
    c.dropSocket.sockets s = .closed := by
  unfold dropSocket
  split
  · next w _ =>
    by_cases hs : s = w
    · simp [setReadyState, ← hs, h]
    · simp [setReadyState, Function.update_of_ne hs, h]
  · exact h

theorem stop_link (e : Setup) (c : GatewayNodeClient) : (stop e c).link = {c.link with
    closed := true
    ws := none
    sockets := {c with closed := true}.clearReconnect.dropSocket.sockets
    timers := {c with closed := true}.clearReconnect.timers
    reconnectTimer := {c with closed := true}.clearReconnect.reconnectTimer} := by
  rw [stop_eq]
  show ({c with closed := true}.clearReconnect.dropSocket).link = _
  rw [dropSocket_link, clearReconnect_link]
  rfl

/-- A stopped client keeps no `ws` and no timer; the socket it had is closing. -/
theorem stop_single {e : Setup} {c : GatewayNodeClient} (h : c.link.Single) : (stop e c).link.Single := by
  have htimers : {c with closed := true}.clearReconnect.timers = [] := clearReconnect_timers h.timer
  rw [stop_link, htimers]
  have hnone : ∀ s, (none : Option Nat) ≠ some s := fun s => (Option.some_ne_none s).symm
  constructor
  · exact fun s hs => absurd hs (hnone s)
  · intro s hs
    have hsockets : {c with closed := true}.clearReconnect.sockets s = c.sockets s :=
      congrArg (fun k => k.sockets s) (clearReconnect_link {c with closed := true})
    exact dropSocket_sockets (hsockets.trans (h.fresh s hs))
  · exact fun _ _ => .inr rfl
  · exact fun _ _ => rfl
  · exact .inl rfl
  · exact fun _ => rfl
  · exact fun _ => ⟨rfl, rfl⟩

theorem step_single {e : Setup} {c c' : GatewayNodeClient} {l : Label} (h : c.link.Single) (hs : Step e c l c') :
    c'.link.Single := by
  cases hs with
  | start hzero => exact start_single h (ws_none_of_zero h hzero) (h.begun hzero)
  | opened hs => exact setReadyState_single (c := c) h (by rw [hs]; decide) .open
  | message => exact (onMessage_undisturbed e link_undisturbed ..).symm ▸ h
  | error => exact h
  | closing hs => exact setReadyState_single h (by rw [hs]; decide) .closing
  | closed hs => exact onClose_single h hs _
  | timer htimer => exact onTimer_single h htimer
  | stop => exact stop_single h
  | request => exact (caller_steady e link_undisturbed.toSteady ..).symm ▸ h
  | settled => exact (onInvokeSettled_steady e link_undisturbed.toSteady ..).symm ▸ h

/-- What comes in comes on `ws`, or goes nowhere. -/
theorem current_of_unclosed {c : GatewayNodeClient} {s w : Nat} (h : c.link.Single) (hs : c.sockets s ≠ .closed)
    (hw : c.current = some w) : s = w := by
  have hws := (current_eq.mp hw).1
  obtain heq | hclosed := h.only s hs
  · exact Option.some.inj (heq.symm.trans hws)
  · exact absurd ((h.stopped hclosed).1.symm.trans hws) (Option.some_ne_none w).symm

end GatewayNodeClient
end RtcPlugin.TsNode
