import Mathlib.Logic.Function.Basic
import RtcPlugin.System.KeyMap
import RtcPlugin.System.Run

/-! The TypeScript node's peer connections.

What runs between two awaits is one step: an awaited step of `acceptCall` settles, a
listener is called, the import of `startDelayedLoopback` settles, a timer fires.
Connections, tracks, loopbacks and timers are numbered in the order they appear. -/
namespace RtcPlugin.TsNode

/-- What an `acceptCall` awaits, and the connection it holds meanwhile. -/
inductive AcceptStage where
  | importing
  | setRemoteDescription (pc : Nat)
  | createAnswer (pc : Nat)
  | setLocalDescription (pc : Nat)
  deriving DecidableEq, Repr

def AcceptStage.pc : AcceptStage → Option Nat
  | .importing => none
  | .setRemoteDescription pc | .createAnswer pc | .setLocalDescription pc => some pc

inductive ConnectionState where
  | new | connecting | connected | disconnected | failed | closed
  deriving DecidableEq, Repr

/-- The states that emit `peerclose`. -/
def ConnectionState.closing : ConnectionState → Bool
  | .disconnected | .failed | .closed => true
  | .new | .connecting | .connected => false

structure Connection where
  callId : String
  /-- Whether `close` was called. -/
  closed : Bool
  deriving DecidableEq, Repr

/-- The variables that the callbacks of one `startDelayedLoopback` share. -/
structure Loopback where
  callId : String
  timer : Option Nat
  recording : Bool
  /-- The length of the buffer. -/
  buffer : Nat
  i : Nat
  /-- Whether `replaceTrack` to the local track is awaited. -/
  switching : Bool
  deriving DecidableEq, Repr

inductive TimerKind where
  | record | loopOnce | playNext
  deriving DecidableEq, Repr

/-- An armed timer, and the call and loopback that its callback is about. -/
structure Timer where
  handle : Nat
  callId : String
  loop : Nat
  kind : TimerKind
  deriving DecidableEq, Repr

/-! ### The connections -/

structure Calls where
  peers : KeyMap String Nat
  begun : List String
  accepts : String → Option AcceptStage
  conns : Nat → Option Connection
  created : Nat

namespace Calls

def setAccept (c : Calls) (callId : String) (stage : Option AcceptStage) : Calls :=
  {c with accepts := Function.update c.accepts callId stage}

/-- `acceptCall`, up to its import. -/
def acceptCall (c : Calls) (callId : String) : Calls :=
  {c.setAccept callId (some .importing) with begun := callId :: c.begun}

/-- `acceptCall` goes on where the awaited step was resolved, and is rejected with it. -/
def resume (c : Calls) (callId : String) (stage : AcceptStage) (ok : Bool) : Calls :=
  if ok then
    match stage with
    | .importing => {c.setAccept callId (some (.setRemoteDescription c.created)) with
        conns := Function.update c.conns c.created (some ⟨callId, false⟩)
        created := c.created + 1}
    | .setRemoteDescription pc => c.setAccept callId (some (.createAnswer pc))
    | .createAnswer pc => c.setAccept callId (some (.setLocalDescription pc))
    | .setLocalDescription pc => {c.setAccept callId none with peers := c.peers.set callId pc}
  else c.setAccept callId none

/-- `closePeer`, from the lookup in `peers`. -/
def closePeer (c : Calls) (callId : String) : Calls :=
  match c.peers.get? callId with
  | some pc => {c with
      peers := c.peers.delete callId
      conns := Function.update c.conns pc ((c.conns pc).map fun conn => {conn with closed := true})}
  | none => c

/-- A call in `peers`, or one still being accepted. -/
def Live (c : Calls) (callId : String) : Prop :=
  (∃ pc, c.peers.get? callId = some pc) ∨ ∃ stage, c.accepts callId = some stage

end Calls

/-! ### The loopbacks -/

structure Media where
  loopbacks : KeyMap String Nat
  /-- The tracks whose `startDelayedLoopback` awaits its import. -/
  setups : Nat → Option String
  tracks : Nat
  loops : Nat → Option Loopback
  registered : Nat
  timers : List Timer
  armed : Nat

namespace Media

def has (d : Media) (callId : String) : Bool := (d.loopbacks.get? callId).isSome

def setLoop (d : Media) (k : Nat) (s : Loopback) : Media := {d with loops := Function.update d.loops k (some s)}

def clearTimeout (d : Media) (handle : Nat) : Media := {d with timers := d.timers.filter fun t => t.handle ≠ handle}

/-- `state.timer = setTimeout(..)` -/
def setTimeout (d : Media) (k : Nat) (s : Loopback) (kind : TimerKind) : Media :=
  {d.setLoop k {s with timer := some d.armed} with
    timers := d.timers ++ [⟨d.armed, s.callId, k, kind⟩]
    armed := d.armed + 1}

/-- The `onTrack` subscriber. -/
def onTrack (d : Media) (loopbackSec : Int) (callId : String) : Media :=
  if 0 < loopbackSec then
    {d with setups := Function.update d.setups d.tracks (some callId), tracks := d.tracks + 1}
  else d

/-- `startDelayedLoopback` from its import on. -/
def startDelayedLoopback (d : Media) (j : Nat) (callId : String) (ok : Bool) : Media :=
  let d := {d with setups := Function.update d.setups j none}
  if ok then
    {d with loopbacks := d.loopbacks.set callId d.registered, registered := d.registered + 1}.setTimeout
      d.registered ⟨callId, none, true, 0, 0, false⟩ .record
  else d

/-- The `onReceiveRtp` subscriber. -/
def onReceiveRtp (d : Media) (k : Nat) (s : Loopback) : Media :=
  if s.recording then d.setLoop k {s with buffer := s.buffer + 1} else d

/-- Whether `writeRtp` returns is `written`. -/
def playNext (d : Media) (k : Nat) (s : Loopback) (written : Bool) : Media :=
  if !d.has s.callId || s.buffer ≤ s.i then
    if d.has s.callId then d.setTimeout k s .loopOnce else d
  else if written then d.setTimeout k {s with i := s.i + 1} .playNext
  else d

def loopOnce (d : Media) (k : Nat) (s : Loopback) (written : Bool) : Media :=
  if d.has s.callId then (d.setLoop k {s with i := 0}).playNext k {s with i := 0} written else d

/-- The recording is over. -/
def recorded (d : Media) (k : Nat) (s : Loopback) : Media :=
  if s.buffer = 0 then d.setLoop k {s with recording := false}
  else d.setLoop k {s with recording := false, switching := true}

/-- `replaceTrack` to the local track settled. -/
def replaced (d : Media) (k : Nat) (s : Loopback) (ok written : Bool) : Media :=
  let s := {s with switching := false}
  if ok then (d.setLoop k s).loopOnce k s written else d.setLoop k s

def fire (d : Media) (t : Timer) (s : Loopback) (written : Bool) : Media :=
  let d := d.clearTimeout t.handle
  match t.kind with
  | .record => d.recorded t.loop s
  | .loopOnce => d.loopOnce t.loop s written
  | .playNext => d.playNext t.loop s written

/-- The timer in the loopback state of a call. -/
def timerOf (d : Media) (callId : String) : Option Nat :=
  ((d.loopbacks.get? callId).bind d.loops).bind Loopback.timer

/-- `closePeer`, up to the lookup in `peers`. -/
def closePeer (d : Media) (callId : String) : Media :=
  if d.has callId then
    let d' := match d.timerOf callId with
      | some handle => d.clearTimeout handle
      | none => d
    {d' with loopbacks := d.loopbacks.delete callId}
  else d

/-- Every armed timer of a call is the one that `closePeer` clears. -/
def Cleared (d : Media) (callId : String) : Prop :=
  ∀ t ∈ d.timers, t.callId = callId → d.timerOf callId = some t.handle

end Media

/-! ### The manager -/

structure RtcPeerManager extends Calls, Media where
  loopbackSec : Int

namespace RtcPeerManager

def new (loopbackSec : Int) : RtcPeerManager where
  peers := .empty
  begun := []
  accepts := fun _ => none
  conns := fun _ => none
  created := 0
  loopbacks := .empty
  setups := fun _ => none
  tracks := 0
  loops := fun _ => none
  registered := 0
  timers := []
  armed := 0
  loopbackSec := loopbackSec

def closePeer (m : RtcPeerManager) (callId : String) : RtcPeerManager :=
  {m with toCalls := m.toCalls.closePeer callId, toMedia := m.toMedia.closePeer callId}

def closeAll (m : RtcPeerManager) : RtcPeerManager := m.peers.keys.foldl closePeer m

/-- The `connectionStateChange` subscriber, with the listener of `peerclose`. -/
def connectionStateChange (m : RtcPeerManager) (callId : String) (state : ConnectionState) : RtcPeerManager :=
  if state.closing then m.closePeer callId else m

inductive Label where
  | acceptCall (callId : String)
  /-- What the `acceptCall` of a call awaits is resolved or rejected. -/
  | awaited (callId : String) (ok : Bool)
  | track (pc : Nat)
  | imported (track : Nat) (ok : Bool)
  | rtp (loop : Nat)
  | timer (handle : Nat) (written : Bool)
  | replaced (loop : Nat) (ok written : Bool)
  | connectionState (pc : Nat) (state : ConnectionState)
  | closePeer (callId : String)
  | closeAll
  deriving DecidableEq, Repr

/-- No call is accepted twice. Tracks, packets and changes of state come at any time
from a connection that was created. -/
inductive Step (m : RtcPeerManager) : Label → RtcPeerManager → Prop where
  | acceptCall {callId} : callId ∉ m.begun →
      Step m (.acceptCall callId) {m with toCalls := m.toCalls.acceptCall callId}
  | awaited {callId stage ok} : m.accepts callId = some stage →
      Step m (.awaited callId ok) {m with toCalls := m.toCalls.resume callId stage ok}
  | track {pc conn} : m.conns pc = some conn →
      Step m (.track pc) {m with toMedia := m.toMedia.onTrack m.loopbackSec conn.callId}
  | imported {j callId ok} : m.setups j = some callId →
      Step m (.imported j ok) {m with toMedia := m.toMedia.startDelayedLoopback j callId ok}
  | rtp {k s} : m.loops k = some s → Step m (.rtp k) {m with toMedia := m.toMedia.onReceiveRtp k s}
  | timer {t s written} : t ∈ m.timers → m.loops t.loop = some s →
      Step m (.timer t.handle written) {m with toMedia := m.toMedia.fire t s written}
  | replaced {k s ok written} : m.loops k = some s → s.switching = true →
      Step m (.replaced k ok written) {m with toMedia := m.toMedia.replaced k s ok written}
  | connectionState {pc conn state} : m.conns pc = some conn →
      Step m (.connectionState pc state) (m.connectionStateChange conn.callId state)
  | closePeer {callId} : Step m (.closePeer callId) (m.closePeer callId)
  | closeAll : Step m .closeAll m.closeAll

def system (loopbackSec : Int) : System RtcPeerManager Label where
  init := (· = new loopbackSec)
  step := Step

/-- Nothing is awaited: no step of `acceptCall`, no import, no `replaceTrack`. -/
structure Quiescent (m : RtcPeerManager) : Prop where
  accepts : ∀ callId, m.accepts callId = none
  setups : ∀ j, m.setups j = none
  loops : ∀ k s, m.loops k = some s → s.switching = false

/-- Every connection out of `peers` has been closed, a loopback is of a call in
`peers`, and an armed timer is of a call in `loopbacks`. -/
structure Clean (m : RtcPeerManager) : Prop where
  conns : ∀ pc conn, m.conns pc = some conn → (∀ callId, m.peers.get? callId ≠ some pc) → conn.closed = true
  loopbacks : ∀ callId k, m.loopbacks.get? callId = some k → ∃ pc, m.peers.get? callId = some pc
  timers : ∀ t ∈ m.timers, ∃ k, m.loopbacks.get? t.callId = some k

/-- Nothing runs for a call: its connections are closed, it has no loopback and no timer. -/
structure Stopped (m : RtcPeerManager) (callId : String) : Prop where
  conns : ∀ pc conn, m.conns pc = some conn → conn.callId = callId → conn.closed = true
  loopbacks : m.loopbacks.get? callId = none
  timers : ∀ t ∈ m.timers, t.callId ≠ callId

/-- No awaited step of `acceptCall` is rejected once there is a connection, a loopback
is set up while its call is live, and where a call is closed all its timers are cleared. -/
def Orderly (m : RtcPeerManager) : Label → Prop
  | .awaited callId ok => ok = true ∨ m.accepts callId = some .importing
  | .imported j ok => ok = true → ∀ callId, m.setups j = some callId → m.Live callId
  | .connectionState pc state => state.closing = true → ∀ conn, m.conns pc = some conn → m.Cleared conn.callId
  | .closePeer callId => m.Cleared callId
  | .closeAll => ∀ callId pc, m.peers.get? callId = some pc → m.Cleared callId
  | _ => True

end RtcPeerManager
end RtcPlugin.TsNode
