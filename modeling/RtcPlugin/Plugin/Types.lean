import RtcPlugin.Json.Value

/-! The call record and the plugin's configuration.

Fields that hold values the plugin never checks (a candidate, the answer it
takes from the node) hold JSON values, not the types their casts claim. -/
namespace RtcPlugin

inductive RtcCallState where
  | initiating | connecting | active | hangupUser | hangupNode | timeout | error
  deriving DecidableEq, Repr

def RtcCallState.name : RtcCallState → String
  | .initiating => "initiating"
  | .connecting => "connecting"
  | .active => "active"
  | .hangupUser => "hangup-user"
  | .hangupNode => "hangup-node"
  | .timeout => "timeout"
  | .error => "error"

def terminalStates : List RtcCallState := [.hangupUser, .hangupNode, .timeout, .error]

def RtcCallState.terminal (s : RtcCallState) : Bool := terminalStates.contains s

inductive Urls where
  | one (url : String)
  | many (urls : List String)
  deriving DecidableEq, Repr

structure IceServer where
  urls : Urls
  username : Option String := none
  credential : Option String := none
  deriving DecidableEq, Repr

def defaultIceServers : List IceServer := [{urls := .one "stun:stun.l.google.com:19302"}]

inductive Role where
  | user | assistant
  deriving DecidableEq, Repr

structure TranscriptEntry where
  role : Role
  text : String
  timestamp : Int
  deriving DecidableEq, Repr

structure RtcCallRecord where
  callId : String
  sessionKey : String
  state : RtcCallState
  offerSdp : String
  answerSdp : Option Json := none
  startedAt : Int
  connectedAt : Option Int := none
  endedAt : Option Int := none
  endReason : Option String := none
  localCandidates : List Json := []
  remoteCandidates : List Json := []
  transcript : List TranscriptEntry := []
  deriving Repr

/-- A call that occupies a slot and its session. -/
def RtcCallRecord.live (c : RtcCallRecord) : Bool := !c.state.terminal

structure WebRtcConfig where
  enabled : Bool := false
  iceServers : List IceServer := defaultIceServers
  volcAppId : Option String := none
  volcAccessKey : Option String := none
  volcResourceId : String := "volc.speech.dialog"
  volcSpeaker : String := "zh_female_cancan_mars_bigtts"
  maxConcurrentCalls : Nat := 5
  maxCallDurationSec : Nat := 600
  silenceTimeoutSec : Nat := 30
  deriving Repr

/-- The errors of a configuration; it is valid when there are none. -/
def validateWebRtcConfig (config : WebRtcConfig) : List String :=
  let missing (v : Option String) (message : String) : List String :=
    if v.any (· != "") then [] else [message]
  if config.enabled then
    missing config.volcAppId "volcAppId is required when enabled" ++
      missing config.volcAccessKey "volcAccessKey is required when enabled"
  else []

end RtcPlugin
