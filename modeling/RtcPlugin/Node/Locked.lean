import RtcPlugin.Node.References

/-! The manager with its mutex, and `ClosePeer` line by line.

Taking the mutex and releasing it are steps of their own, and so is the return of
`pc.Close`: the callback for the closed state may run inside it, and then it waits
for the `ClosePeer` which that makes, or on a goroutine of its own. Without these
the steps are those of `PeerManager` (`run_coarse`). -/
namespace RtcPlugin.Node

/-- Whose critical section it is. -/
inductive Holder where
  | closePeer (k : Nat)
  | acceptCall (p : Nat)
  | onTrack (p : Nat)
  | addRemoteCandidate
  deriving DecidableEq, Repr

/-- Where a `ClosePeer` stands. -/
inductive Point where
  /-- before `pm.mu.Lock()` -/
  | lock
  /-- before it looks for the entry -/
  | locked
  /-- before `pm.mu.Unlock()`, with the connection of the entry it deleted -/
  | unlock (found : Option Nat)
  /-- The entry was found. Its loopback is stopped and its connection closed, as
  the phase of the call says. -/
  | unlocked
  /-- inside `pc.Close()`, and the call that it waits for -/
  | closing (nested : Option Nat)
  | done
  deriving DecidableEq, Repr

/-- Between `Lock` and `Unlock`. -/
def Point.inside : Point → Bool
  | .locked | .unlock _ => true
  | .lock | .unlocked | .closing _ | .done => false

/-- Not before `pc.Close()`. -/
def Point.closed : Point → Bool
  | .closing _ | .done => true
  | .lock | .locked | .unlock _ | .unlocked => false

namespace PeerManager

/-- The channel that `entry.loopback.Stop()` closes. -/
def stopCh (pm : PeerManager) (entry : PeerEntry) : Option Nat :=
  entry.loopback.filter fun lb => pm.loopbacks lb = some false

/-- The `ClosePeer` that `pc.Close()` makes through the callback. -/
def callback (pm : PeerManager) (p : Nat) : Option Nat :=
  match pm.conns p with
  | some c => if c.state ≠ .closed ∧ c.registered = true then some pm.spawned else none
  | none => none

/-- The steps that need no mutex and are no part of a `ClosePeer`. -/
def Label.free : Label → Bool
  | .accept _ | .register _ | .acceptFails _ | .stateChange _ _ | .hangup _ => true
  | .store _ | .track _ | .lookup _ | .stop _ | .close _ => false

end PeerManager

structure Locked where
  pm : PeerManager
  mutex : Option Holder
  points : Nat → Point
  /-- The call whose `pc.Close` made this one. -/
  parent : Nat → Option Nat

namespace Locked

inductive Event where
  | free (l : PeerManager.Label)
  | lock (holder : Holder)
  | unlock (holder : Holder)
  /-- The connection is stored for the call. -/
  | store (callId : String) (p : Nat)
  | track (p : Nat)
  /-- The entry of the call is deleted, if there is one; its connection. -/
  | lookup (k : Nat) (callId : String) (found : Option Nat)
  /-- `Stop`, and the channel it closes -/
  | stop (k : Nat) (channel : Option Nat)
  /-- `pc.Close` on the connection of the entry -/
  | close (k : Nat) (p : Nat)
  | returned (k : Nat)
  deriving DecidableEq, Repr

def new (loopbackSec : Nat) : Locked := ⟨.new loopbackSec, none, fun _ => .lock, fun _ => none⟩

def move (s : Locked) (k : Nat) (point : Point) : Locked := {s with points := Function.update s.points k point}

/-- Who may ask for the mutex. -/
def Wants (s : Locked) : Holder → Prop
  | .closePeer k => s.points k = .lock ∧ ∃ closer, s.pm.closers k = some closer
  | .acceptCall p => ∃ c, s.pm.conns p = some c ∧ c.stage = .negotiating
  | .onTrack p => s.pm.loopbackSec ≠ 0 ∧ ∃ c, s.pm.conns p = some c ∧ c.registered = true
  | .addRemoteCandidate => True

def lock (s : Locked) (holder : Holder) : Locked :=
  match holder with
  | .closePeer k => {s.move k .locked with mutex := some holder}
  | .acceptCall _ | .onTrack _ | .addRemoteCandidate => {s with mutex := some holder}

/-- `pm.mu.Unlock()`, and the return where nothing was found. -/
def unlock (s : Locked) (k : Nat) (found : Option Nat) : Locked :=
  {s.move k (if found.isSome then .unlocked else .done) with mutex := none}

/-- `pc.Close()` begins; `waits` says whether it runs the callback itself. -/
def close (s : Locked) (k p : Nat) (waits : Bool) : Locked where
  pm := (s.pm.closePc p).setCloser k none
  mutex := s.mutex
  points := Function.update s.points k (.closing (if waits then s.pm.callback p else none))
  parent := match s.pm.callback p with
    | some n => Function.update s.parent n (some k)
    | none => s.parent

/-- Entries are stored, looked for and changed under the mutex, closed without it. -/
inductive Step (s : Locked) : Event → Locked → Prop where
  | free {l pm} : PeerManager.Step s.pm l pm → l.free = true →
      (∀ p, l = .acceptFails p → s.mutex ≠ some (.acceptCall p)) → Step s (.free l) {s with pm := pm}
  | lock {holder} : s.mutex = none → s.Wants holder → Step s (.lock holder) (s.lock holder)
  | store {p c} : s.mutex = some (.acceptCall p) → s.pm.conns p = some c → c.stage = .negotiating →
      Step s (.store c.callId p) {s with pm := s.pm.store p c.callId, mutex := none}
  | track {p c} : s.mutex = some (.onTrack p) → s.pm.conns p = some c → c.registered = true →
      Step s (.track p) {s with pm := s.pm.onTrack c.callId, mutex := none}
  | read : s.mutex = some .addRemoteCandidate → Step s (.unlock .addRemoteCandidate) {s with mutex := none}
  | lookup {k closer} : s.points k = .locked → s.pm.closers k = some closer → closer.phase = .lookup →
      Step s (.lookup k closer.callId (s.pm.storedPc closer.callId))
        {s.move k (.unlock (s.pm.storedPc closer.callId)) with pm := s.pm.lookup k closer}
  | unlock {k found} : s.points k = .unlock found → Step s (.unlock (.closePeer k)) (s.unlock k found)
  | stop {k closer entry} : s.points k = .unlocked → s.pm.closers k = some closer → closer.phase = .stop entry →
      Step s (.stop k (s.pm.stopCh entry))
        {s with pm := (s.pm.stopLoopback entry).setCloser k (some {closer with phase := .close entry})}
  | close {k closer entry} (waits : Bool) : s.points k = .unlocked → s.pm.closers k = some closer →
      closer.phase = .close entry → Step s (.close k entry.pc) (s.close k entry.pc waits)
  | returned {k nested} : s.points k = .closing nested → (∀ n, nested = some n → s.points n = .done) →
      Step s (.returned k) (s.move k .done)

def system (loopbackSec : Nat) : System Locked Event where
  init := (· = new loopbackSec)
  step := Step

/-! ### The steps of the manager -/

def Event.coarse : Event → Option PeerManager.Label
  | .free l => some l
  | .store _ p => some (.store p)
  | .track p => some (.track p)
  | .lookup k _ _ => some (.lookup k)
  | .stop k _ => some (.stop k)
  | .close k _ => some (.close k)
  | .lock _ | .unlock _ | .returned _ => none

variable {s s' : Locked} {e : Event}

theorem lock_pm (s : Locked) (holder : Holder) : (s.lock holder).pm = s.pm := by
  cases holder <;> rfl

theorem step_coarse (h : Step s e s') : e.coarse.elim (s'.pm = s.pm) fun l => PeerManager.Step s.pm l s'.pm := by
  cases h with
  | free hl => exact hl
  | lock _ _ => exact lock_pm s _
  | store _ hc hst => exact .store hc hst
  | track _ hc hreg => exact .track hc hreg
  | read | unlock | returned => rfl
  | lookup _ hk hph => exact .lookup hk hph
  | stop _ hk hph => exact .stop hk hph
  | close _ _ hk hph => exact .close hk hph

/-- Without the mutex a run is one of the manager. -/
theorem run_coarse {loopbackSec : Nat} {es : List Event} (h : (system loopbackSec).Run es s) :
    (PeerManager.system loopbackSec).Run (es.filterMap Event.coarse) s.pm := by
  refine h.invariant (I := fun es s => (PeerManager.system loopbackSec).Run (es.filterMap Event.coarse) s.pm) ?_ ?_
  · intro s hs
    obtain rfl : s = new loopbackSec := hs
    exact .nil rfl
  · intro es s e s' _ ih hstep
    have hcoarse := step_coarse hstep
    rw [List.filterMap_append]
    cases he : e.coarse with
    | none =>
      rw [he] at hcoarse
      simp only [List.filterMap_cons_none he, List.filterMap_nil, List.append_nil]
      exact (show s'.pm = s.pm from hcoarse) ▸ ih
    | some l =>
      rw [he] at hcoarse
      simp only [List.filterMap_cons_some he, List.filterMap_nil]
      exact ih.snoc hcoarse

theorem run_wellFormed {loopbackSec : Nat} {es : List Event} (h : (system loopbackSec).Run es s) : s.pm.WellFormed :=
  PeerManager.run_wellFormed (run_coarse h)

end Locked
end RtcPlugin.Node
