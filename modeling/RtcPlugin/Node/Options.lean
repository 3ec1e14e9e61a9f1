import RtcPlugin.Go.Flags

/-! What the node is started with: its flags, and the environment behind their defaults. -/
namespace RtcPlugin.Node
open RtcPlugin.Go

structure Options where
  gatewayURL : String := "ws://127.0.0.1:18789"
  token : String := ""
  loopbackSec : Int := 5
  noLoopback : Bool := false
  deriving DecidableEq, Repr

def Options.flags : List (Flag Options) :=
  [.string "gateway" fun s o => {o with gatewayURL := s},
   .string "token" fun s o => {o with token := s},
   .int "loopback" fun n o => {o with loopbackSec := n},
   .bool "no-loopback" fun b o => {o with noLoopback := b}]

/-- `os.Getenv` -/
def getenv (env : String → Option String) (name : String) : String := (env name).getD ""

/-- The environment counts only where a flag was left at its default. -/
def Options.overridden (o : Options) (env : String → Option String) : Options :=
  let url := getenv env "OPENCLAW_GATEWAY_URL"
  let token := getenv env "OPENCLAW_GATEWAY_TOKEN"
  { o with
    gatewayURL := if url ≠ "" ∧ o.gatewayURL = "ws://127.0.0.1:18789" then url else o.gatewayURL
    token := if token ≠ "" ∧ o.token = "" then token else o.token
    loopbackSec := if o.noLoopback then 0 else o.loopbackSec }

/-- `main` up to the log line: the options, or the error that ends the process. -/
def readOptions (args : List String) (env : String → Option String) : Except FlagError Options :=
  (parseFlags Options.flags args {}).map (·.overridden env)

end RtcPlugin.Node
