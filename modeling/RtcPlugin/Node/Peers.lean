import Mathlib.Logic.Function.Basic
import RtcPlugin.System.KeyMap
import RtcPlugin.System.Run

/-! The node's peer connections.

`AcceptCall` and `ClosePeer` run in goroutines of their own, and so do the
callbacks of a connection. What each does under the manager's lock or to one
connection is a step. Connections, goroutines in `ClosePeer` and loopbacks are
numbered in the order they appear. -/
namespace RtcPlugin.Node

/-- The connection states the manager reacts to; `up` is every other one. -/
inductive PcState where
  | up | failed | closed
  deriving DecidableEq, Repr

/-- A connection only moves on. -/
def PcState.rank : PcState → Nat
  | .up => 0
  | .failed => 1
  | .closed => 2

/-- How far the `AcceptCall` of a connection is. -/
inductive AcceptStage where
  /-- Created; its callbacks are not registered. -/
  | opening
  | negotiating
  | stored
  | failed
  deriving DecidableEq, Repr

def AcceptStage.finished : AcceptStage → Bool
  | .stored | .failed => true
  | .opening | .negotiating => false

structure Conn where
  callId : String
  state : PcState := .up
  stage : AcceptStage := .opening
  registered : Bool := false
  deriving DecidableEq, Repr

structure PeerEntry where
  pc : Nat
  loopback : Option Nat
  deriving DecidableEq, Repr

/-- Where a `ClosePeer` stands: before its critical section, before it stops the
loopback of the entry it took out, or before it closes that entry's connection. -/
inductive ClosePhase where
  | lookup
  | stop (entry : PeerEntry)
  | close (entry : PeerEntry)
  deriving DecidableEq, Repr

structure Closer where
  callId : String
  /-- The connection whose change of state it follows; none for a hangup. -/
  cause : Option Nat
  phase : ClosePhase
  deriving DecidableEq, Repr

structure PeerManager where
  loopbackSec : Nat
  peers : KeyMap String PeerEntry
  conns : Nat → Option Conn
  created : Nat
  closers : Nat → Option Closer
  spawned : Nat
  /-- Whether a loopback has been stopped. -/
  loopbacks : Nat → Option Bool
  tracks : Nat

namespace PeerManager

def new (loopbackSec : Nat) : PeerManager :=
  ⟨loopbackSec, .empty, fun _ => none, 0, fun _ => none, 0, fun _ => none, 0⟩

/-- A goroutine that calls `ClosePeer`. -/
def spawn (pm : PeerManager) (callId : String) (cause : Option Nat) : PeerManager :=
  {pm with closers := Function.update pm.closers pm.spawned (some ⟨callId, cause, .lookup⟩), spawned := pm.spawned + 1}

/-- A connection changes its state; its callback, once registered, calls `ClosePeer`. -/
def changeState (pm : PeerManager) (p : Nat) (c : Conn) (st : PcState) : PeerManager :=
  let pm := {pm with conns := Function.update pm.conns p (some {c with state := st})}
  if c.registered then pm.spawn c.callId (some p) else pm

/-- `pc.Close()` -/
def closePc (pm : PeerManager) (p : Nat) : PeerManager :=
  match pm.conns p with
  | some c => if c.state = .closed then pm else pm.changeState p c .closed
  | none => pm

def setStage (pm : PeerManager) (p : Nat) (stage : AcceptStage) : PeerManager :=
  {pm with conns := Function.update pm.conns p ((pm.conns p).map fun c => {c with stage := stage})}

def setCloser (pm : PeerManager) (k : Nat) (closer : Option Closer) : PeerManager :=
  {pm with closers := Function.update pm.closers k closer}

theorem setCloser_closers (pm : PeerManager) (k : Nat) (closer : Option Closer) :
    (pm.setCloser k closer).closers = Function.update pm.closers k closer := rfl

/-- `AcceptCall` up to the new connection. -/
def accept (pm : PeerManager) (callId : String) : PeerManager :=
  {pm with conns := Function.update pm.conns pm.created (some {callId := callId}), created := pm.created + 1}

/-- `AcceptCall` registers the callbacks. -/
def register (pm : PeerManager) (p : Nat) (c : Conn) : PeerManager :=
  {pm with conns := Function.update pm.conns p (some {c with stage := .negotiating, registered := true})}

/-- `AcceptCall` stores its entry and returns. -/
def store (pm : PeerManager) (p : Nat) (callId : String) : PeerManager :=
  {pm.setStage p .stored with peers := pm.peers.set callId ⟨p, none⟩}

/-- The `OnTrack` callback: a new loopback, put into the entry of the call. -/
def onTrack (pm : PeerManager) (callId : String) : PeerManager :=
  if pm.loopbackSec = 0 then pm
  else {pm with
    peers := pm.peers.modify callId fun e => {e with loopback := some pm.tracks}
    loopbacks := Function.update pm.loopbacks pm.tracks (some false)
    tracks := pm.tracks + 1}

/-- The critical section of `ClosePeer`. -/
def lookup (pm : PeerManager) (k : Nat) (closer : Closer) : PeerManager :=
  match pm.peers.get? closer.callId with
  | some entry =>
    {pm.setCloser k (some {closer with phase := .stop entry}) with peers := pm.peers.delete closer.callId}
  | none => pm.setCloser k none

/-- `entry.loopback.Stop()` -/
def stopLoopback (pm : PeerManager) (entry : PeerEntry) : PeerManager :=
  match entry.loopback with
  | some lb => {pm with loopbacks := Function.update pm.loopbacks lb (some true)}
  | none => pm

inductive Label where
  | accept (callId : String)
  | register (p : Nat)
  /-- A step of `AcceptCall` fails: it closes the connection and returns the error. -/
  | acceptFails (p : Nat)
  | store (p : Nat)
  | stateChange (p : Nat) (st : PcState)
  | track (p : Nat)
  | hangup (callId : String)
  | lookup (k : Nat)
  | stop (k : Nat)
  | close (k : Nat)
  deriving DecidableEq, Repr

/-- `AcceptCall` begins with a log tag of eight bytes, so an identifier has as many. -/
inductive Step (pm : PeerManager) : Label → PeerManager → Prop where
  | accept {callId} : 8 ≤ callId.utf8ByteSize → Step pm (.accept callId) (pm.accept callId)
  | register {p c} : pm.conns p = some c → c.stage = .opening → Step pm (.register p) (pm.register p c)
  | acceptFails {p c} : pm.conns p = some c → c.stage.finished = false →
      Step pm (.acceptFails p) ((pm.closePc p).setStage p .failed)
  | store {p c} : pm.conns p = some c → c.stage = .negotiating → Step pm (.store p) (pm.store p c.callId)
  | stateChange {p c st} : pm.conns p = some c → c.state.rank < st.rank →
      Step pm (.stateChange p st) (pm.changeState p c st)
  | track {p c} : pm.conns p = some c → c.registered = true → Step pm (.track p) (pm.onTrack c.callId)
  | hangup {callId} : Step pm (.hangup callId) (pm.spawn callId none)
  | lookup {k closer} : pm.closers k = some closer → closer.phase = .lookup →
      Step pm (.lookup k) (pm.lookup k closer)
  | stop {k closer entry} : pm.closers k = some closer → closer.phase = .stop entry →
      Step pm (.stop k) ((pm.stopLoopback entry).setCloser k (some {closer with phase := .close entry}))
  | close {k closer entry} : pm.closers k = some closer → closer.phase = .close entry →
      Step pm (.close k) ((pm.closePc entry.pc).setCloser k none)

def system (loopbackSec : Nat) : System PeerManager Label where
  init := (· = new loopbackSec)
  step := Step

/-- No `AcceptCall` and no `ClosePeer` is running. -/
def Quiescent (pm : PeerManager) : Prop :=
  (∀ p c, pm.conns p = some c → c.stage.finished = true) ∧ ∀ k, pm.closers k = none

end PeerManager
end RtcPlugin.Node
