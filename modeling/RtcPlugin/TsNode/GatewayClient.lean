import RtcPlugin.Auth.Payload
import RtcPlugin.Json.Parse
import RtcPlugin.Json.ToText
import RtcPlugin.System.KeyMap
import RtcPlugin.TsNode.WebSocket

/-! The TypeScript node's gateway client.

One step is one event: of a socket, of the reconnect timer, of a caller, or of the
promise that `onInvoke` gave. It includes the reactions to the promises the event
settles, which run before the next one. Sockets, invokes and UUIDs are numbered in
the order in which they came.

Here a frame is handled to its end. What throws on the way, and the client's runs, are
`Scripted`'s, which takes these steps wherever nothing does. -/
namespace RtcPlugin.TsNode
open Auth (TimeValue)

/-! ### Frames -/

structure ConnectDevice where
  id : String
  publicKey : String
  signature : String
  signedAt : TimeValue
  nonce : Option Json

structure ConnectParams where
  minProtocol : Nat
  maxProtocol : Nat
  clientId : String
  displayName : String
  version : String
  platform : String
  mode : String
  role : String
  caps : List String
  commands : List String
  auth : Option String
  device : ConnectDevice

/-- The params of `node.invoke.result`; `payloadJSON` is the value whose text is sent,
none for `undefined`. -/
structure InvokeResult where
  id : Json
  nodeId : String
  ok : Bool
  payloadJSON : Option Json

inductive Params where
  | connect (p : ConnectParams)
  | invokeResult (r : InvokeResult)
  | other (v : Option Json)

structure RequestFrame where
  id : String
  method : String
  params : Params

/-- Who awaits the response to a request. -/
inductive Waiter where
  /-- `handleChallenge`, for a challenge of the socket `s`. -/
  | connect (s : Nat)
  /-- `handleInvokeRequest`, in its `try`. -/
  | report (t : Nat)
  /-- `handleInvokeRequest`, in its `catch`. -/
  | failure (t : Nat)
  | caller
  deriving DecidableEq, Repr

/-- The invoke a request reports on. -/
def Waiter.invoke? : Waiter → Option Nat
  | .report t | .failure t => some t
  | _ => none

/-- A frame that went out, with its socket and who awaits the response. -/
structure Sent where
  socket : Nat
  sender : Waiter
  frame : RequestFrame

def Sent.result? (m : Sent) : Option InvokeResult :=
  match m.frame.params with
  | .invokeResult r => some r
  | _ => none

/-! ### The client -/

/-- What the promise of `onInvoke` comes to. -/
inductive Returned where
  | value (v : Option Json)
  /-- A value on which `JSON.stringify` throws. -/
  | unserializable (message : String)
  | rejected (message : String)

def Returned.resolved : Returned → Bool
  | .value _ | .unserializable _ => true
  | .rejected _ => false

structure Invoke where
  /-- The socket the request came on. -/
  socket : Nat
  id : Json
  command : Json
  params : Option Json
  returned : Option Returned

inductive Outcome where
  | resolved (payload : Option Json)
  | rejected (message : String)

structure GatewayNodeClientOptions where
  token : Option String
  displayName : Option String
  commands : List String
  caps : Option (List String)
  /-- Whether there is an `onInvoke`. -/
  onInvoke : Bool

/-- What a client is made with, and what it gets from its surroundings. -/
structure Setup where
  opts : GatewayNodeClientOptions
  deviceId : String
  publicKey : String
  signPayload : String → String
  platform : String
  /-- What `randomUUID` gives, call by call. -/
  randomUUID : Nat → String
  fresh : Function.Injective randomUUID
  /-- `String(v)` of a value that is no string. -/
  text : Json → String

structure GatewayNodeClient where
  ws : Option Nat
  sockets : Nat → ReadyState
  created : Nat
  pending : KeyMap String Waiter
  connectSent : Bool
  closed : Bool
  reconnectTimer : Option Nat
  backoffMs : Nat
  /-- The armed timers, with their delays. -/
  timers : List (Nat × Nat)
  armed : Nat
  drawn : Nat
  invokes : Nat → Option Invoke
  received : Nat
  sent : List Sent
  /-- How promises of `request` were settled. -/
  settled : List (String × Outcome)

namespace GatewayNodeClient

def new : GatewayNodeClient :=
  { ws := none
    sockets := fun _ => .closed
    created := 0
    pending := .empty
    connectSent := false
    closed := false
    reconnectTimer := none
    backoffMs := 1000
    timers := []
    armed := 0
    drawn := 0
    invokes := fun _ => none
    received := 0
    sent := []
    settled := [] }

/-- The socket a request goes out on: `ws`, where that is open. -/
def current (c : GatewayNodeClient) : Option Nat := c.ws.filter fun s => c.sockets s = .open

def setReadyState (c : GatewayNodeClient) (s : Nat) (state : ReadyState) : GatewayNodeClient :=
  {c with sockets := Function.update c.sockets s state}

def start (c : GatewayNodeClient) : GatewayNodeClient :=
  if c.closed then c
  else
    {c.setReadyState c.created .connecting with
      ws := some c.created, created := c.created + 1, connectSent := false}

section
variable (e : Setup)

/-- A request goes out on a socket, and its promise waits. -/
def issue (c : GatewayNodeClient) (s : Nat) (sender : Waiter) (method : String) (params : Params) : GatewayNodeClient :=
  let id := e.randomUUID c.drawn
  {c with
    drawn := c.drawn + 1
    pending := c.pending.set id sender
    sent := c.sent ++ [⟨s, sender, ⟨id, method, params⟩⟩]}

/-- None where it throws: not connected. -/
def request (c : GatewayNodeClient) (sender : Waiter) (method : String) (params : Params) : Option GatewayNodeClient :=
  c.current.map fun s => issue e c s sender method params

/-! ### Invokes -/

/-- The `catch` of `handleInvokeRequest`. -/
def reportFailure (c : GatewayNodeClient) (t : Nat) (id : Json) (message : String) : GatewayNodeClient :=
  (request e c (.failure t) "node.invoke.result"
    (.invokeResult ⟨id, e.deviceId, false, some (.obj [("error", .str message)])⟩)).getD c

/-- What follows the `await` of `onInvoke`. -/
def report (c : GatewayNodeClient) (t : Nat) (id : Json) (returned : Returned) : GatewayNodeClient :=
  match returned with
  | .rejected message => reportFailure e c t id message
  | .unserializable message => reportFailure e c t id message
  | .value v =>
    match request e c (.report t) "node.invoke.result" (.invokeResult ⟨id, e.deviceId, true, v⟩) with
    | some c => c
    | none => reportFailure e c t id "not connected"

def onInvokeSettled (c : GatewayNodeClient) (t : Nat) (inv : Invoke) (returned : Returned) : GatewayNodeClient :=
  report e {c with invokes := Function.update c.invokes t (some {inv with returned := some returned})} t inv.id returned

/-- `paramsJSON ? JSON.parse(paramsJSON) : undefined`, and `undefined` where that throws. -/
def parseParams : Option Json → Option Json
  | some (.str s) => if s = "" then none else Json.parse s
  | some v => if v.truthy then v.toText.bind fun text => Json.parse (String.ofList text) else none
  | none => none

def handleInvokeRequest (c : GatewayNodeClient) (s : Nat) (payload : Option Json) : GatewayNodeClient :=
  match optGet? payload "id", optGet? payload "command" with
  | some id, some command =>
    if id.truthy && command.truthy then
      let inv : Invoke := ⟨s, id, command, parseParams (optGet? payload "paramsJSON"), none⟩
      let t := c.received
      let c := {c with invokes := Function.update c.invokes t (some inv), received := t + 1}
      if e.opts.onInvoke then c
      else onInvokeSettled e c t inv (.value (some (.obj [("error", .str "no handler")])))
    else c
  | _, _ => c

/-! ### Responses -/

def settle (c : GatewayNodeClient) (id : String) (outcome : Outcome) : GatewayNodeClient :=
  {c with settled := c.settled ++ [(id, outcome)]}

/-- What the code behind an `await` of `request` does next; a failed connect and a
failed `catch` end there. -/
def resume (c : GatewayNodeClient) (waiter : Waiter) (outcome : Outcome) : GatewayNodeClient :=
  match waiter, outcome with
  | .report t, .rejected message =>
    match c.invokes t with
    | some inv => reportFailure e c t inv.id message
    | none => c
  | _, _ => c

/-- `frame.error?.message ?? "request failed"` -/
def errorMessage (frame : Json) : String :=
  match optGet? (frame.get? "error") "message" with
  | none | some .null => "request failed"
  | some (.str s) => s
  | some v => e.text v

def responseOutcome (frame : Json) : Outcome :=
  if optTruthy (frame.get? "ok") then .resolved (frame.get? "payload") else .rejected (errorMessage e frame)

def handleResponse (c : GatewayNodeClient) (frame : Json) : GatewayNodeClient :=
  match frame.get? "id" with
  | some (.str id) =>
    match c.pending.get? id with
    | some waiter =>
      let outcome := responseOutcome e frame
      resume e ({c with pending := c.pending.delete id}.settle id outcome) waiter outcome
    | none => c
  | _ => c

/-- Every promise is rejected, in the order of the requests. -/
def flushPending (c : GatewayNodeClient) (message : String) : GatewayNodeClient :=
  {c with
    settled := c.settled ++ c.pending.entries.map fun entry => (entry.1, .rejected message)
    pending := .empty}

/-- The reactions to a flush. -/
def resumeAll (c : GatewayNodeClient) (waiters : List Waiter) (message : String) : GatewayNodeClient :=
  waiters.foldl (fun c waiter => resume e c waiter (.rejected message)) c

/-! ### The handshake -/

/-- How a nonce reads in the signed text. -/
def nonceText : Option Json → String
  | none | some .null => ""
  | some (.str s) => s
  | some v => e.text v

def connectParams (nonce : Option Json) (signedAtMs : TimeValue) : ConnectParams :=
  let token := e.opts.token.getD ""
  let authPayload := Auth.challengePayload ⟨e.deviceId, signedAtMs, token, nonceText e nonce, e.platform⟩
  { minProtocol := 3
    maxProtocol := 3
    clientId := "node-host"
    displayName := e.opts.displayName.getD ("RTC Node (" ++ String.ofList (e.deviceId.toList.take 8) ++ ")")
    version := "2026.3.8"
    platform := e.platform
    mode := "node"
    role := "node"
    caps := e.opts.caps.getD ["webrtc", "audio"]
    commands := e.opts.commands
    auth := if token = "" then none else some token
    device := ⟨e.deviceId, e.publicKey, e.signPayload authPayload, signedAtMs, nonce⟩ }

/-- Without a payload the nonce's access throws, after `connectSent` was set. -/
def handleChallenge (c : GatewayNodeClient) (s : Nat) (payload : Option Json) (now : TimeValue) : GatewayNodeClient :=
  if c.connectSent then c
  else
    let c := {c with connectSent := true}
    match payload with
    | none | some .null => c
    | some payload =>
      (request e c (.connect s) "connect" (.connect (connectParams e (payload.get? "nonce") now))).getD c

/-! ### Events -/

def handleEvent (c : GatewayNodeClient) (s : Nat) (frame : Json) (now : TimeValue) : GatewayNodeClient :=
  match frame.get? "event" with
  | some (.str "connect.challenge") => handleChallenge e c s (frame.get? "payload") now
  | some (.str "node.invoke.request") => handleInvokeRequest e c s (frame.get? "payload")
  | _ => c

def handleFrame (c : GatewayNodeClient) (s : Nat) (frame : Json) (now : TimeValue) : GatewayNodeClient :=
  match frame.get? "type" with
  | some (.str "event") => handleEvent e c s frame now
  | some (.str "res") => handleResponse e c frame
  | _ => c

/-- A text that is no JSON is only reported. -/
def onMessage (c : GatewayNodeClient) (s : Nat) (frame : Option Json) (now : TimeValue) : GatewayNodeClient :=
  match frame with
  | some frame => handleFrame e c s frame now
  | none => c

def onOpen (c : GatewayNodeClient) (s : Nat) : GatewayNodeClient :=
  {c.setReadyState s .open with backoffMs := 1000}

def scheduleReconnect (c : GatewayNodeClient) : GatewayNodeClient :=
  if c.closed then c
  else
    {c with
      timers := c.timers ++ [(c.armed, c.backoffMs)]
      reconnectTimer := some c.armed
      armed := c.armed + 1
      backoffMs := min (c.backoffMs * 2) 30000}

def onTimer (c : GatewayNodeClient) (handle : Nat) : GatewayNodeClient :=
  {c with timers := c.timers.filter (·.1 ≠ handle), reconnectTimer := none}.start

def closeMessage (code : Nat) : String := s!"gateway closed ({code})"

def stopMessage : String := "client stopped"

def onClose (c : GatewayNodeClient) (s : Nat) (code : Nat) : GatewayNodeClient :=
  let flushed := {c.setReadyState s .closed with ws := none}.flushPending (closeMessage code)
  resumeAll e flushed.scheduleReconnect c.pending.values (closeMessage code)

/-- `clearTimeout` of the timer the client knows. -/
def clearReconnect (c : GatewayNodeClient) : GatewayNodeClient :=
  match c.reconnectTimer with
  | some handle => {c with timers := c.timers.filter (·.1 ≠ handle), reconnectTimer := none}
  | none => c

/-- `this.ws?.close(); this.ws = null` -/
def dropSocket (c : GatewayNodeClient) : GatewayNodeClient :=
  match c.ws with
  | some s => {c.setReadyState s (if c.sockets s = .closed then .closed else .closing) with ws := none}
  | none => c

def stop (c : GatewayNodeClient) : GatewayNodeClient :=
  let flushed := ({c with closed := true}.clearReconnect.dropSocket).flushPending stopMessage
  resumeAll e flushed c.pending.values stopMessage

inductive Label where
  | start
  | opened (s : Nat)
  | message (s : Nat) (frame : Option Json) (now : TimeValue)
  | error (s : Nat)
  /-- The other side starts to close. -/
  | closing (s : Nat)
  | closed (s : Nat) (code : Nat)
  | timer (handle : Nat)
  | stop
  /-- A caller's `request`. -/
  | request (method : String) (params : Option Json)
  /-- The promise of `onInvoke` settles. -/
  | settled (t : Nat) (returned : Returned)

/-- The client is started once. A socket has its messages between its open and its
close event. Nothing throws in a message. -/
inductive Step (c : GatewayNodeClient) : Label → GatewayNodeClient → Prop where
  | start : c.created = 0 → Step c .start c.start
  | opened {s} : c.sockets s = .connecting → Step c (.opened s) (c.onOpen s)
  | message {s frame now} : c.sockets s = .open ∨ c.sockets s = .closing →
      Step c (.message s frame now) (onMessage e c s frame now)
  | error {s} : c.sockets s ≠ .closed → Step c (.error s) c
  | closing {s} : c.sockets s = .open → Step c (.closing s) (c.setReadyState s .closing)
  | closed {s code} : c.sockets s ≠ .closed → Step c (.closed s code) (onClose e c s code)
  | timer {handle delay} : (handle, delay) ∈ c.timers → Step c (.timer handle) (c.onTimer handle)
  | stop : Step c .stop (stop e c)
  | request {method params} : Step c (.request method params) ((request e c .caller method (.other params)).getD c)
  | settled {t inv returned} : c.invokes t = some inv → inv.returned = none →
      Step c (.settled t returned) (onInvokeSettled e c t inv returned)

/-! ### What the operations do -/

theorem current_eq {c : GatewayNodeClient} {s : Nat} : c.current = some s ↔ c.ws = some s ∧ c.sockets s = .open := by
  simp [current, Option.filter_eq_some_iff]

theorem current_none {c : GatewayNodeClient} (h : c.ws = none) : c.current = none := by
  unfold current
  rw [h]
  rfl

/-- The request that reports what `onInvoke` came to, if one goes out. -/
def reportSender (t : Nat) : Returned → Waiter
  | .value _ => .report t
  | _ => .failure t

def reportResult (id : Json) : Returned → InvokeResult
  | .value v => ⟨id, e.deviceId, true, v⟩
  | .unserializable message | .rejected message => ⟨id, e.deviceId, false, some (.obj [("error", .str message)])⟩

theorem reportFailure_eq (c : GatewayNodeClient) (t : Nat) (id : Json) (message : String) :
    reportFailure e c t id message = match c.current with
      | none => c
      | some s => issue e c s (.failure t) "node.invoke.result" (.invokeResult (reportResult e id (.rejected message))) := by
  unfold reportFailure request
  cases c.current <;> rfl

/-- Whatever `onInvoke` came to, it is reported once, or not at all without an open socket. -/
theorem report_eq (c : GatewayNodeClient) (t : Nat) (id : Json) (returned : Returned) :
    report e c t id returned = match c.current with
      | none => c
      | some s => issue e c s (reportSender t returned) "node.invoke.result"
          (.invokeResult (reportResult e id returned)) := by
  cases returned with
  | value v =>
    unfold report
    rw [reportFailure_eq]
    unfold request
    cases c.current <;> rfl
  | unserializable message => exact reportFailure_eq ..
  | rejected message => exact reportFailure_eq ..

/-- Only the reaction to a failed report does anything. -/
theorem resume_cases (c : GatewayNodeClient) (waiter : Waiter) (outcome : Outcome) : resume e c waiter outcome = c ∨
    ∃ t inv message, waiter = .report t ∧ outcome = .rejected message ∧ c.invokes t = some inv ∧
      resume e c waiter outcome = reportFailure e c t inv.id message := by
  unfold resume
  split
  · next t message =>
    split
    · next inv hinv => exact .inr ⟨t, inv, message, rfl, rfl, hinv, rfl⟩
    · exact .inl rfl
  · exact .inl rfl

/-- Without a socket the reactions to a flush do nothing. -/
theorem resumeAll_none {c : GatewayNodeClient} (h : c.ws = none) (waiters : List Waiter) (message : String) :
    resumeAll e c waiters message = c := by
  induction waiters with
  | nil => rfl
  | cons waiter rest ih =>
    have hone : resume e c waiter (.rejected message) = c := by
      rcases resume_cases e c waiter (.rejected message) with heq | ⟨t, inv, m, _, _, _, heq⟩
      · exact heq
      · rw [heq, reportFailure_eq, current_none h]
    show resumeAll e (resume e c waiter (.rejected message)) rest message = c
    rw [hone, ih]

@[simp] theorem scheduleReconnect_ws (c : GatewayNodeClient) : c.scheduleReconnect.ws = c.ws := by
  unfold scheduleReconnect
  split <;> rfl

@[simp] theorem dropSocket_ws (c : GatewayNodeClient) : c.dropSocket.ws = none := by
  unfold dropSocket
  split
  · rfl
  · next h => exact h

theorem onClose_eq (c : GatewayNodeClient) (s code : Nat) : onClose e c s code =
    ({c.setReadyState s .closed with ws := none}.flushPending (closeMessage code)).scheduleReconnect := by
  unfold onClose
  apply resumeAll_none
  rw [scheduleReconnect_ws]
  rfl

theorem stop_eq (c : GatewayNodeClient) :
    stop e c = ({c with closed := true}.clearReconnect.dropSocket).flushPending stopMessage := by
  unfold stop
  apply resumeAll_none
  exact dropSocket_ws _

end

/-! ### A client with counted UUIDs -/

def countedUUID (n : Nat) : String := String.ofList (List.replicate (n + 1) '0')

theorem countedUUID_injective : Function.Injective countedUUID := by
  intro m n h
  have hlength := congrArg (fun s => s.toList.length) h
  simpa [countedUUID] using hlength

def demo : Setup :=
  { opts := ⟨some "secret", none, ["rtc.call.accept"], none, true⟩
    deviceId := "device-0001"
    publicKey := "key"
    signPayload := fun payload => payload
    platform := "linux"
    randomUUID := countedUUID
    fresh := countedUUID_injective
    text := fun _ => "" }

def demoTime : TimeValue := ⟨0, by decide⟩

/-- The gateway's answer to a request. -/
def resFrame (id : String) (ok : Bool) : Json := .obj [("type", .str "res"), ("id", .str id), ("ok", .bool ok)]

def eventFrame (event : String) (payload : List (String × Json)) : Json :=
  .obj [("type", .str "event"), ("event", .str event), ("payload", .obj payload)]

def demoChallenge : Json := eventFrame "connect.challenge" [("nonce", .str "n")]

def demoInvoke : Json := eventFrame "node.invoke.request" [("id", .str "i"), ("command", .str "rtc.call.hangup")]

end GatewayNodeClient
end RtcPlugin.TsNode
