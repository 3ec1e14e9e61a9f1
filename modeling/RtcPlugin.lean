import RtcPlugin.System.Run
import RtcPlugin.System.KeyMap
import RtcPlugin.System.Throwing
import RtcPlugin.System.Promises
import RtcPlugin.Stream.Cut
import RtcPlugin.Json.Parse
import RtcPlugin.Plugin.Orchestrator
import RtcPlugin.Plugin.Admission
import RtcPlugin.Plugin.Lifecycle
import RtcPlugin.Plugin.Handlers
import RtcPlugin.Plugin.Segments
import RtcPlugin.Plugin.Runs
import RtcPlugin.Plugin.StartCall
import RtcPlugin.Plugin.Affinity
import RtcPlugin.Plugin.Agreement
import RtcPlugin.Node.Shutdown
import RtcPlugin.Node.Peers
import RtcPlugin.Node.Retention
import RtcPlugin.Go.Unmarshal
import RtcPlugin.Node.Gateway
import RtcPlugin.Node.CrashFree
import RtcPlugin.Browser.Client
import RtcPlugin.Browser.Pairing
import RtcPlugin.Browser.Abandon
import RtcPlugin.Auth.Payload
import RtcPlugin.Audio.Buffer
import RtcPlugin.Audio.Framing
import RtcPlugin.Audio.Resample
import RtcPlugin.TsNode.WebSocket
import RtcPlugin.TsNode.VolcClient
import RtcPlugin.TsNode.GatewayClient
import RtcPlugin.TsNode.Settlement
import RtcPlugin.TsNode.Sockets
import RtcPlugin.TsNode.Wire
import RtcPlugin.TsNode.FirstFrame
import RtcPlugin.TsNode.Results
import RtcPlugin.Browser.Candidates
import RtcPlugin.Go.Decode
import RtcPlugin.TsNode.Commands
import RtcPlugin.TsNode.Parity
import RtcPlugin.TsNode.Cleanup
import RtcPlugin.Audio.Chunks
import RtcPlugin.TsNode.VolcFrames
import RtcPlugin.Json.Numbers
import RtcPlugin.Json.Stringify
import RtcPlugin.Text.Utf8
import RtcPlugin.TsNode.VolcMessages
import RtcPlugin.Text.PosixPath
import RtcPlugin.Plugin.WebUi
import RtcPlugin.Node.Replays
import RtcPlugin.Node.Loopback
import RtcPlugin.Json.Brackets
import RtcPlugin.Plugin.Store
import RtcPlugin.Plugin.TornAppends
import RtcPlugin.Node.Handshake
import RtcPlugin.TsNode.Reconnect
import RtcPlugin.TsNode.Challenges
import RtcPlugin.Node.Requests
import RtcPlugin.Plugin.Drain
import RtcPlugin.Plugin.LateCandidates
import RtcPlugin.Json.Schema
import RtcPlugin.Plugin.Config
import RtcPlugin.Go.Marshal
import RtcPlugin.Node.Identity
import RtcPlugin.Node.Locked
import RtcPlugin.System.History
import RtcPlugin.Node.ClosePeer
import RtcPlugin.System.Simulation
import RtcPlugin.System.Settling
import RtcPlugin.Json.ToText
import RtcPlugin.TsNode.VolcWire
import RtcPlugin.Browser.Gateway
import RtcPlugin.Browser.Responses
import RtcPlugin.Go.Targets
import RtcPlugin.Node.Inputs
import RtcPlugin.TsNode.Inputs
import RtcPlugin.Plugin.Offers
import RtcPlugin.Signalling.Offers
import RtcPlugin.Signalling.Answers
import RtcPlugin.Signalling.Candidates
import RtcPlugin.TsNode.Timers
import RtcPlugin.TsNode.Playback
import RtcPlugin.Plugin.HeldCalls
import RtcPlugin.Json.Pretty
import RtcPlugin.Json.Torn
import RtcPlugin.TsNode.Identity
import RtcPlugin.TsNode.Devices
import RtcPlugin.Stream.Threads
import RtcPlugin.Browser.Chat
import RtcPlugin.Browser.Conversation
import RtcPlugin.Audio.Rates
import RtcPlugin.System.Tallies
import RtcPlugin.Node.Answers
import RtcPlugin.Json.ToNumber
import RtcPlugin.Go.Flags
import RtcPlugin.Node.Options
import RtcPlugin.TsNode.Options
import RtcPlugin.Plugin.Answered
import RtcPlugin.Signalling.Commands
