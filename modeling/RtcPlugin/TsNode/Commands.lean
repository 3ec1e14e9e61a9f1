import RtcPlugin.Node.Gateway
import RtcPlugin.TsNode.GatewayClient

/-! The commands of the TypeScript node: what its `onInvoke` does. -/
namespace RtcPlugin.TsNode

structure CreatePeerResult where
  answerSdp : String
  candidates : List Node.ICECandidate

/-- What the peer manager's promises come to, for the arguments they are given. -/
structure Operations where
  acceptCall : (callId offerSdp iceServers : Option Json) → Except String CreatePeerResult
  addRemoteCandidate : (callId candidate : Option Json) → Except String Unit

def candidateJson (c : Node.ICECandidate) : Json :=
  .obj [("candidate", .str c.candidate), ("sdpMid", (c.sdpMid.map Json.str).getD .null),
    ("sdpMLineIndex", (c.sdpMLineIndex.map fun n => Json.num ⟨n, 0, true⟩).getD .null)]

def CreatePeerResult.toJson (r : CreatePeerResult) : Json :=
  .obj [("answerSdp", .str r.answerSdp), ("candidates", .arr (r.candidates.map candidateJson))]

def okResult : Returned := .value (some (.obj [("ok", .bool true)]))

/-- `text.slice(0, 50)`, for the log: the text of the exception, if it throws one. -/
def sliceError : Option Json → Option String
  | some (.str _) | some (.arr _) => none
  | none => some "Cannot read properties of undefined (reading 'slice')"
  | some .null => some "Cannot read properties of null (reading 'slice')"
  | some _ => some "text.slice is not a function"

/-- `closePeer` ignores what closing the connection comes to. -/
def handleCommand (ops : Operations) (command : String) (params : Option Json) : Returned :=
  let p (name : String) := optGet? params name
  match command with
  | "rtc.call.accept" =>
    match ops.acceptCall (p "callId") (p "offerSdp") (p "iceServers") with
    | .ok result => .value (some result.toJson)
    | .error message => .rejected message
  | "rtc.call.remote_candidate" =>
    match ops.addRemoteCandidate (p "callId") (p "candidate") with
    | .ok () => okResult
    | .error message => .rejected message
  | "rtc.call.hangup" => okResult
  | "rtc.call.speak" =>
    match sliceError (p "text") with
    | none => okResult
    | some message => .rejected message
  | command => .value (some (.obj [("error", .str s!"unknown command: {command}")]))

/-- The commands that both nodes declare when they connect. -/
def commands : List String := ["rtc.call.accept", "rtc.call.remote_candidate", "rtc.call.hangup", "rtc.call.speak"]

end RtcPlugin.TsNode
