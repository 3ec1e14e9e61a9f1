import RtcPlugin.Json.Parse
import RtcPlugin.Plugin.Orchestrator

/-! The gateway plugin: its request handlers, its shutdown and their runs.

A handler runs without interruption up to its one `await`, the node's answer to
an invoke, and from there to its end; between the two anything else may run. A
request is therefore two segments, and what a handler waits for is kept in
`pending`. Everything the plugin says, to the browser or to a node, is in a log
that only grows. -/
namespace RtcPlugin

structure NodeSession where
  nodeId : String
  caps : List String

structure NodeInvokeResult where
  ok : Bool
  payload : Option Json := none
  payloadJSON : Option String := none

/-- How the wait for an invoke ends; without a node there is no invoke. -/
inductive InvokeOutcome where
  | noNode
  | resolved (result : NodeInvokeResult)
  | rejected (message : String)

inductive InvokeParams where
  | accept (callId offerSdp : String) (iceServers : List IceServer)
  | remoteCandidate (callId : String) (candidate : Json)
  | hangup (callId reason : String)

/-- The command that carries the parameters. -/
def InvokeParams.command : InvokeParams → String
  | .accept .. => "rtc.call.accept"
  | .remoteCandidate .. => "rtc.call.remote_candidate"
  | .hangup .. => "rtc.call.hangup"

structure InvokeRequest where
  nodeId : String
  command : String
  params : InvokeParams
  timeoutMs : Nat
  idempotencyKey : String

/-- The payloads the handlers respond with. -/
inductive Reply where
  | error (message : String)
  | started (callId : String) (answerSdp : Option Json) (candidates : Json) (iceServers : List IceServer)
  | ok
  | call (call : RtcCallRecord)
  | calls (calls : List RtcCallRecord) (activeCalls : Nat)

/-- What a handler, named by its number, does to the outside. -/
inductive Effect where
  | respond (handler : Nat) (ok : Bool) (payload : Reply)
  | invoke (handler : Nat) (request : InvokeRequest)

inductive GatewayMethod where
  | start | ice | hangup | status
  deriving DecidableEq, Repr

/-- A request with what the runtime supplies while it is handled: the connected
nodes if the context has a registry, a fresh call identifier, an idempotency key
and the clock. -/
structure Request where
  method : GatewayMethod
  params : Option Json
  registry : Option (List NodeSession)
  uuid : String
  key : String
  now : Int

/-- White space and line ends, as `trim` removes them. -/
def isJsSpace (c : Char) : Bool :=
  c ∈ [' ', '\t', '\n', '\r', '\x0b', '\x0c', '\u00a0', '\u1680', '\u2028', '\u2029', '\u202f', '\u205f',
    '\u3000', '\ufeff'] ∨ '\u2000' ≤ c ∧ c ≤ '\u200a'

def jsTrim (s : String) : String :=
  String.ofList ((s.toList.dropWhile isJsSpace).reverse.dropWhile isJsSpace).reverse

/-- `typeof params?.name === "string" ? params.name : fallback` -/
def stringParam (params : Option Json) (name fallback : String) : String :=
  ((optGet? params name).bind Json.asString?).getD fallback

/-- `v ?? fallback` -/
def nullish (v : Option Json) (fallback : Json) : Json :=
  match v with
  | none | some .null => fallback
  | some v => v

/-- `invokeRtcNode` on a result. -/
def decodeInvokeResult (result : NodeInvokeResult) : Json :=
  if result.ok then
    match result.payloadJSON with
    | some text =>
      if text ≠ "" then (Json.parse text).getD (nullish result.payload .null)
      else nullish result.payload .null
    | none => nullish result.payload .null
  else .null

/-- What `invokeRtcNode` returns or throws after its `await`. -/
def InvokeOutcome.decoded : InvokeOutcome → Except String Json
  | .noNode => .ok .null
  | .resolved result => .ok (decodeInvokeResult result)
  | .rejected message => .error message

namespace Plugin

structure State where
  orchestrator : CallOrchestrator
  log : List Effect

/-- A segment of a handler. -/
abbrev Handler (α : Type) := Throwing State α

/-- A call of an orchestrator method. -/
def orchestrate {α : Type} (m : CallOrchestrator.Method α) : Handler α := fun s =>
  match m s.orchestrator with
  | .ok a o => .ok a {s with orchestrator := o}
  | .error e o => .error e {s with orchestrator := o}

def State.emit (s : State) (es : List Effect) : State := {s with log := s.log ++ es}

def respond (h : Nat) (ok : Bool) (payload : Reply) : Handler Unit :=
  modify fun s => s.emit [.respond h ok payload]

def sendError (h : Nat) (message : String) : Handler Unit := respond h false (.error message)

def findRtcNode (nodes : List NodeSession) : Option NodeSession :=
  nodes.find? fun n => n.caps.contains "webrtc"

/-- `invokeRtcNode` up to its `await`; whether an invoke is under way. -/
def invokeRtcNode (h : Nat) (nodes : List NodeSession) (command : String) (params : InvokeParams)
    (key : String) : Handler Bool := do
  match findRtcNode nodes with
  | none => return false
  | some node =>
    modify fun s => s.emit [.invoke h
      { nodeId := node.nodeId, command := command, params := params, timeoutMs := 15000
        idempotencyKey := key }]
    return true

/-- `invokeRtcNode` from its `await` on. -/
def awaitRtcNode (outcome : InvokeOutcome) : Handler Json :=
  match outcome.decoded with
  | .ok v => return v
  | .error message => throw message

/-- Where a handler waits. -/
inductive Await where
  | start (callId : String)
  | ice
  | hangup
  deriving DecidableEq, Repr

/-- A handler at its `await`. -/
structure Waiting where
  point : Await
  invoked : Bool
  deriving DecidableEq, Repr

/-- `try { body } catch (err) { sendError(respond, err) }` -/
def attempt {α : Type} (h : Nat) (finished : α) (body : Handler α) : Handler α :=
  tryCatch body fun err => do
    sendError h err
    return finished

def rtcCallStart (config : WebRtcConfig) (h : Nat) (req : Request) : Handler (Option Waiting) :=
  attempt h none do
    if !config.enabled then
      respond h false (.error "WebRTC plugin is disabled")
      return none
    let errors := validateWebRtcConfig config
    if !errors.isEmpty then
      let joined := ", ".intercalate errors
      respond h false (.error s!"Config invalid: {joined}")
      return none
    match req.registry with
    | none =>
      respond h false (.error "Node registry unavailable")
      return none
    | some nodes =>
      let sdp := jsTrim (stringParam req.params "sdp" "")
      let sessionKey := jsTrim (stringParam req.params "sessionKey" "")
      if sdp = "" ∨ sessionKey = "" then
        respond h false (.error "sdp and sessionKey are required")
        return none
      let callRecord ← orchestrate (CallOrchestrator.startCall ⟨sdp, sessionKey⟩ req.uuid req.now)
      let o := (← get).orchestrator
      let invoked ← invokeRtcNode h nodes "rtc.call.accept"
        (.accept callRecord.callId sdp o.options.iceServers) req.key
      return some ⟨.start callRecord.callId, invoked⟩

/-- Why a start is refused on a falsy result. -/
def errDetail : Json → String
  | .null => "RTC node invoke failed (check gateway logs)"
  | _ => "No RTC node available"

/-- `rtc.call.start` from its `await` on. -/
def rtcCallStartResume (h : Nat) (callId : String) (outcome : InvokeOutcome) (now : Int) : Handler Unit :=
  attempt h () do
    let nodeResult ← awaitRtcNode outcome
    if !nodeResult.truthy then
      orchestrate (CallOrchestrator.setError callId (errDetail nodeResult) now)
      respond h false (.error (errDetail nodeResult))
      return
    orchestrate (CallOrchestrator.handleAnswer callId (nodeResult.get? "answerSdp"))
    let o := (← get).orchestrator
    respond h true (.started callId (nodeResult.get? "answerSdp")
      (nullish (nodeResult.get? "candidates") (.arr [])) o.options.iceServers)

/-- The common tail of `rtc.call.ice` and `rtc.call.hangup`. -/
def forward (h : Nat) (req : Request) (command : String) (params : InvokeParams) (await : Await) :
    Handler (Option Waiting) := do
  match req.registry with
  | some nodes =>
    let invoked ← invokeRtcNode h nodes command params req.key
    return some ⟨await, invoked⟩
  | none =>
    respond h true .ok
    return none

def rtcCallIce (h : Nat) (req : Request) : Handler (Option Waiting) :=
  attempt h none do
    let callId := stringParam req.params "callId" ""
    match optGet? req.params "candidate" with
    | some candidate =>
      if callId = "" ∨ !candidate.truthy then
        respond h false (.error "callId and candidate are required")
        return none
      orchestrate (CallOrchestrator.handleIceCandidate callId candidate .remote)
      forward h req "rtc.call.remote_candidate" (.remoteCandidate callId candidate) .ice
    | none =>
      respond h false (.error "callId and candidate are required")
      return none

def rtcCallHangup (h : Nat) (req : Request) : Handler (Option Waiting) :=
  attempt h none do
    let callId := stringParam req.params "callId" ""
    let reason := stringParam req.params "reason" "user"
    if callId = "" then
      respond h false (.error "callId is required")
      return none
    orchestrate (CallOrchestrator.hangup callId reason req.now)
    forward h req "rtc.call.hangup" (.hangup callId reason) .hangup

/-- `rtc.call.ice` and `rtc.call.hangup` from their `await` on. -/
def forwardResume (h : Nat) (outcome : InvokeOutcome) : Handler Unit :=
  attempt h () do
    let _ ← awaitRtcNode outcome
    respond h true .ok

def rtcCallStatus (h : Nat) (req : Request) : Handler (Option Waiting) :=
  attempt h none do
    let callId := stringParam req.params "callId" ""
    let o := (← get).orchestrator
    if callId ≠ "" then
      match o.getCall callId with
      | none => respond h false (.error s!"Call not found: {callId}")
      | some call => respond h true (.call call)
    else
      respond h true (.calls o.getAllCalls o.activeCalls)
    return none

def handle (config : WebRtcConfig) (h : Nat) (req : Request) : Handler (Option Waiting) :=
  match req.method with
  | .start => rtcCallStart config h req
  | .ice => rtcCallIce h req
  | .hangup => rtcCallHangup h req
  | .status => rtcCallStatus h req

def resume (h : Nat) (await : Await) (outcome : InvokeOutcome) (now : Int) : Handler Unit :=
  match await with
  | .start callId => rtcCallStartResume h callId outcome now
  | .ice | .hangup => forwardResume h outcome

/-- The loop of `stop` over the records that `getAllCalls` returned. -/
def stopCalls (now : String → Int) : List RtcCallRecord → CallOrchestrator.Method Unit
  | [] => return
  | call :: rest => do
    if call.state ≠ .hangupUser ∧ call.state ≠ .hangupNode ∧ call.state ≠ .timeout ∧ call.state ≠ .error then
      CallOrchestrator.hangup call.callId "gateway-shutdown" (now call.callId)
    stopCalls now rest

/-- The service's `stop`; `now` is the clock at each hangup. -/
def stop (now : String → Int) : Handler Unit := do
  let calls := (← get).orchestrator.getAllCalls
  orchestrate (stopCalls now calls)

/-! ### Runs -/

structure World where
  state : State
  /-- Requests served so far; the next one gets this number. -/
  served : Nat
  pending : KeyMap Nat Waiting

inductive Label where
  | request (req : Request)
  | resume (h : Nat) (outcome : InvokeOutcome) (now : Int)
  | stop (now : String → Int)

/-- The state after a segment, however it ended. -/
def finish {α : Type} : EStateM.Result String State α → State
  | .ok _ s | .error _ s => s

/-- A handler that reached its `await` waits under its number. -/
def World.suspend (w : World) : Option Waiting → KeyMap Nat Waiting
  | none => w.pending
  | some waiting => w.pending.set w.served waiting

def World.request (config : WebRtcConfig) (w : World) (req : Request) : World :=
  match handle config w.served req w.state with
  | .ok waiting s => ⟨s, w.served + 1, w.suspend waiting⟩
  | .error _ s => ⟨s, w.served + 1, w.pending⟩

def World.resume (w : World) (h : Nat) (point : Await) (outcome : InvokeOutcome) (now : Int) : World :=
  ⟨finish (Plugin.resume h point outcome now w.state), w.served, w.pending.delete h⟩

def World.stop (w : World) (now : String → Int) : World := {w with state := finish (Plugin.stop now w.state)}

/-- A request draws a fresh identifier; a handler waits for an invoke if and only
if it sent one. -/
inductive Step (config : WebRtcConfig) (w : World) : Label → World → Prop where
  | request {req} : req.uuid ≠ "" → w.state.orchestrator.getCall req.uuid = none →
      Step config w (.request req) (w.request config req)
  | resume {h waiting outcome now} : w.pending.get? h = some waiting →
      (waiting.invoked = true ↔ outcome ≠ .noNode) →
      Step config w (.resume h outcome now) (w.resume h waiting.point outcome now)
  | stop {now} : Step config w (.stop now) (w.stop now)

def system (config : WebRtcConfig) : System World Label where
  init := fun w => w = ⟨⟨.new ⟨config.maxConcurrentCalls, config.iceServers⟩, []⟩, 0, .empty⟩
  step := Step config

end Plugin
end RtcPlugin
