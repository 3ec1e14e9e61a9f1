import RtcPlugin.Go.Checked
import RtcPlugin.Go.Unmarshal
import RtcPlugin.System.Run

/-! The node and its gateway: the handshake, the read loop and the invokes.

Every frame is bytes off the WebSocket. An invoke runs in a goroutine of its own;
what the WebRTC library answers there, and what the map of peers has for the call
while other goroutines run, is the environment's choice (`Outcome`). -/
namespace RtcPlugin.Node
open RtcPlugin.Go

/-! ### Frames -/

structure FrameError where
  code : String := ""
  message : String := ""
  deriving DecidableEq, Repr

structure ResponseFrame where
  type : String := ""
  id : String := ""
  ok : Bool := false
  payload : Option Json := none
  error : Option FrameError := none
  deriving Repr

structure EventFrame where
  type : String := ""
  event : String := ""
  payload : Option Json := none
  deriving Repr

def FrameError.fields : List (StructField FrameError) :=
  [.string "code" fun s e => {e with code := s}, .string "message" fun s e => {e with message := s}]

def ResponseFrame.fields : List (StructField ResponseFrame) :=
  [.string "type" fun s f => {f with type := s},
   .string "id" fun s f => {f with id := s},
   .bool "ok" fun b f => {f with ok := b},
   .raw "payload" fun v f => {f with payload := v},
   .pointer "error" ResponseFrame.error (fun e f => {f with error := e}) {} FrameError.fields]

def EventFrame.fields : List (StructField EventFrame) :=
  [.string "type" fun s f => {f with type := s},
   .string "event" fun s f => {f with event := s},
   .raw "payload" fun v f => {f with payload := v}]

/-- `genericFrame`: the frame's type alone. -/
def GenericFrame.fields : List (StructField String) := [.string "type" fun s _ => s]

/-! ### The handshake -/

inductive HandshakeError where
  | readChallenge
  | parseChallenge
  | expectedChallenge (event : String)
  | parsePayload
  | readResponse
  | parseResponse
  | rejected (message : String)
  deriving DecidableEq, Repr

/-- The first message: the challenge, with its nonce. -/
def readChallenge (data : List UInt8) : Checked (Except HandshakeError String) :=
  match unmarshal EventFrame.fields {} (runes data) with
  | none => .ok (.error .parseChallenge)
  | some ev =>
    if ev.event ≠ "connect.challenge" then .ok (.error (.expectedChallenge ev.event))
    else do
      let payload ← deref ev.payload
      match decodeStruct [.string "nonce" fun s _ => s] "" payload with
      | none => .ok (.error .parsePayload)
      | some nonce => .ok (.ok nonce)

/-- The second message: the answer to the connect request. -/
def readConnectResponse (data : List UInt8) : Except HandshakeError Unit :=
  match unmarshal ResponseFrame.fields {} (runes data) with
  | none => .error .parseResponse
  | some resp =>
    if resp.ok then .ok ()
    else .error (.rejected ((resp.error.map FrameError.message).getD "unknown error"))

/-! ### Commands -/

structure AcceptCallParams where
  callId : String := ""
  offerSdp : String := ""
  deriving DecidableEq, Repr

def ICEServer.fields : List (StructField Unit) :=
  [.check "urls" takesAny, .check "username" takesString, .check "credential" takesString]

def AcceptCallParams.fields : List (StructField AcceptCallParams) :=
  [.string "callId" fun s p => {p with callId := s},
   .string "offerSdp" fun s p => {p with offerSdp := s},
   .check "iceServers" (takesSlice (takesStruct ICEServer.fields))]

def Candidate.fields : List (StructField Unit) :=
  [.check "candidate" takesString, .check "sdpMid" takesString, .check "sdpMLineIndex" takesUint16]

/-- `RemoteCandidateParams`: the call identifier. -/
def RemoteCandidateParams.fields : List (StructField String) :=
  [.string "callId" fun s _ => s, .check "candidate" (takesStruct Candidate.fields)]

/-- `HangupParams`: the call identifier. -/
def HangupParams.fields : List (StructField String) :=
  [.string "callId" fun s _ => s, .check "reason" takesString]

structure ICECandidate where
  candidate : String
  sdpMid : Option String
  sdpMLineIndex : Option Nat
  deriving DecidableEq, Repr

/-- The library calls of `AcceptCall` that can fail. -/
inductive AcceptCallStep where
  | newPeerConnection | newLocalTrack | addTrack | setRemoteDescription | createAnswer | setLocalDescription
  deriving DecidableEq, Repr

def AcceptCallStep.text : AcceptCallStep → String
  | .newPeerConnection => "new PeerConnection"
  | .newLocalTrack => "new local track"
  | .addTrack => "add track"
  | .setRemoteDescription => "set remote description"
  | .createAnswer => "create answer"
  | .setLocalDescription => "set local description"

/-- What the libraries answer while one command runs. -/
structure Outcome where
  /-- The decoder's text, where the params do not decode. -/
  parseError : String
  /-- The call of `AcceptCall` that fails, and its text. -/
  failure : Option (AcceptCallStep × String)
  /-- What `LocalDescription` points to. -/
  localDescription : Option String
  candidates : List ICECandidate
  /-- Whether the map of peers has the call. -/
  peerFound : Bool
  addCandidateError : Option String
  deriving DecidableEq, Repr

structure AcceptCallResult where
  answerSdp : String
  candidates : List ICECandidate
  deriving DecidableEq, Repr

def acceptCall (params : AcceptCallParams) (o : Outcome) : Checked (Except String AcceptCallResult) := do
  let _callTag ← slicePrefix params.callId 8
  match o.failure with
  | some (step, text) => .ok (.error s!"{step.text}: {text}")
  | none =>
    let answer ← deref o.localDescription
    .ok (.ok ⟨answer, o.candidates⟩)

def addRemoteCandidate (callId : String) (o : Outcome) : Except String Unit :=
  if !o.peerFound then .error s!"no peer for call: {callId}"
  else match o.addCandidateError with
    | some text => .error text
    | none => .ok ()

/-- `ClosePeer`: the tag is only for the log, and only of a call the map had. -/
def closePeer (callId : String) (o : Outcome) : Checked Unit :=
  if !o.peerFound then .ok ()
  else do
    let _callTag ← slicePrefix callId (min 8 callId.utf8ByteSize)
    .ok ()

/-! ### Results as the node writes them -/

def ICECandidate.toJson (c : ICECandidate) : Json :=
  .obj ([("candidate", .str c.candidate)] ++ (c.sdpMid.map fun s => ("sdpMid", Json.str s)).toList ++
    (c.sdpMLineIndex.map fun n => ("sdpMLineIndex", Json.num ⟨n, 0, true⟩)).toList)

/-- A slice that was never appended to is `null`. -/
def AcceptCallResult.toJson (r : AcceptCallResult) : Json :=
  .obj [("answerSdp", .str r.answerSdp),
    ("candidates", if r.candidates.isEmpty then .null else .arr (r.candidates.map ICECandidate.toJson))]

def okResult : Json := .obj [("ok", .bool true)]

/-- Raw params decode as text; without params there is nothing to decode. -/
def unmarshalParams {T : Type} (fields : List (StructField T)) (zero : T) (raw : Option String) : Option T :=
  raw.bind fun text => unmarshal fields zero text.toList

def handleCommand (command : String) (raw : Option String) (o : Outcome) : Checked (Except String Json) :=
  if command = "rtc.call.accept" then
    match unmarshalParams AcceptCallParams.fields {} raw with
    | none => .ok (.error s!"parse accept params: {o.parseError}")
    | some p => do
      let result ← acceptCall p o
      .ok (result.map AcceptCallResult.toJson)
  else if command = "rtc.call.remote_candidate" then
    match unmarshalParams RemoteCandidateParams.fields "" raw with
    | none => .ok (.error s!"parse candidate params: {o.parseError}")
    | some callId => .ok ((addRemoteCandidate callId o).map fun _ => okResult)
  else if command = "rtc.call.hangup" then
    match unmarshalParams HangupParams.fields "" raw with
    | none => .ok (.error s!"parse hangup params: {o.parseError}")
    | some callId => do
      closePeer callId o
      .ok (.ok okResult)
  else .ok (.error s!"unknown command: {command}")

/-! ### The read loop -/

structure InvokeRequest where
  id : String := ""
  command : String := ""
  paramsJSON : String := ""
  deriving DecidableEq, Repr

def InvokeRequest.fields : List (StructField InvokeRequest) :=
  [.string "id" fun s r => {r with id := s},
   .string "command" fun s r => {r with command := s},
   .string "paramsJSON" fun s r => {r with paramsJSON := s}]

/-- The params of `node.invoke.result`; `payloadJSON` is the value whose text is sent. -/
structure InvokeResult where
  id : String
  nodeId : String
  ok : Bool
  payloadJSON : Json
  deriving Repr

def invokeResult (deviceId id : String) (result : Except String Json) : InvokeResult :=
  match result with
  | .ok v => ⟨id, deviceId, true, v⟩
  | .error text => ⟨id, deviceId, false, .obj [("error", .str text)]⟩

/-- The request an invoke carries, if it is one that is answered. -/
def invokeRequest (raw : Json) : Option InvokeRequest :=
  (decodeStruct InvokeRequest.fields {} raw).filter fun req => req.id ≠ "" && req.command ≠ ""

/-- The result the goroutine sends, if any. -/
def handleInvokeRequest (deviceId : String) (raw : Json) (o : Outcome) : Checked (Option InvokeResult) :=
  match invokeRequest raw with
  | none => .ok none
  | some req => do
    let params := if req.paramsJSON ≠ "" then some req.paramsJSON else none
    let result ← handleCommand req.command params o
    .ok (some (invokeResult deviceId req.id result))

def handleEvent (ev : EventFrame) : Option Json :=
  if ev.event = "node.invoke.request" then ev.payload else none

/-- One message of the read loop: the invoke it starts, if any. A response finds no
request waiting, since nothing calls `sendRequest`. -/
def readFrame (data : List UInt8) : Option Json :=
  match unmarshal GenericFrame.fields "" (runes data) with
  | some "event" => (unmarshal EventFrame.fields {} (runes data)).bind handleEvent
  | _ => none

/-! ### The process -/

inductive Phase where
  | challenge
  | response
  | reading
  | ended (error : Option HandshakeError)
  deriving DecidableEq, Repr

structure Process where
  deviceId : String
  phase : Phase
  /-- Invokes whose goroutines have not run. -/
  invokes : List Json
  sent : List InvokeResult
  crashed : Option Panic

namespace Process

def start (deviceId : String) : Process := ⟨deviceId, .challenge, [], [], none⟩

def receive (n : Process) (data : List UInt8) : Process :=
  match n.phase with
  | .challenge =>
    match readChallenge data with
    | .error panic => {n with crashed := some panic}
    | .ok (.error e) => {n with phase := .ended (some e)}
    | .ok (.ok _) => {n with phase := .response}
  | .response =>
    match readConnectResponse data with
    | .error e => {n with phase := .ended (some e)}
    | .ok () => {n with phase := .reading}
  | .reading => {n with invokes := n.invokes ++ (readFrame data).toList}
  | .ended _ => n

/-- `ReadMessage` fails. -/
def readFails (n : Process) : Process :=
  match n.phase with
  | .challenge => {n with phase := .ended (some .readChallenge)}
  | .response => {n with phase := .ended (some .readResponse)}
  | .reading | .ended _ => {n with phase := .ended none}

def handle (n : Process) (k : Nat) (raw : Json) (o : Outcome) : Process :=
  match handleInvokeRequest n.deviceId raw o with
  | .error panic => {n with invokes := n.invokes.eraseIdx k, crashed := some panic}
  | .ok result => {n with invokes := n.invokes.eraseIdx k, sent := n.sent ++ result.toList}

inductive Label where
  | message (data : List UInt8)
  | readError
  /-- The goroutine of an invoke runs. -/
  | handle (k : Nat) (o : Outcome)
  deriving DecidableEq, Repr

inductive Step (n : Process) : Label → Process → Prop where
  | message {data} : n.crashed = none → Step n (.message data) (n.receive data)
  | readError : n.crashed = none → Step n .readError n.readFails
  | handle {k raw o} : n.crashed = none → n.invokes[k]? = some raw → Step n (.handle k o) (n.handle k raw o)

def system (deviceId : String) : System Process Label where
  init := (· = start deviceId)
  step := Step

end Process
end RtcPlugin.Node
