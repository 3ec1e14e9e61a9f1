import Mathlib.Logic.Function.Basic

/-! A WebSocket as its user sees it: the ready state, and the frames that went out.

A send throws while the socket is connecting and is dropped once it is closing. The
close event is what makes a socket closed. -/
namespace RtcPlugin.TsNode

inductive ReadyState where
  | connecting | open | closing | closed
  deriving DecidableEq, Repr

structure WebSocket (F : Type) where
  readyState : ReadyState
  sent : List F
  deriving DecidableEq, Repr

namespace WebSocket

variable {F : Type}

/-- No socket was made here yet. -/
def absent : WebSocket F := ⟨.closed, []⟩

def new : WebSocket F := ⟨.connecting, []⟩

/-- None where it throws. -/
def send (w : WebSocket F) (frame : F) : Option (WebSocket F) :=
  match w.readyState with
  | .connecting => none
  | .open => some {w with sent := w.sent ++ [frame]}
  | .closing | .closed => some w

def close (w : WebSocket F) : WebSocket F :=
  match w.readyState with
  | .closed => w
  | _ => {w with readyState := .closing}

@[simp] theorem close_sent (w : WebSocket F) : w.close.sent = w.sent := by
  unfold close
  split <;> rfl

theorem send_open {w : WebSocket F} (h : w.readyState = .open) (frame : F) :
    w.send frame = some {w with sent := w.sent ++ [frame]} := by
  unfold send
  rw [h]

/-- What a send that does not throw does. -/
theorem send_cases {w w' : WebSocket F} {frame : F} (h : w.send frame = some w') :
    w' = {w with sent := w.sent ++ [frame]} ∨ w' = w := by
  unfold send at h
  split at h
  · cases h
  · exact .inl (Option.some.inj h).symm
  · exact .inr (Option.some.inj h).symm
  · exact .inr (Option.some.inj h).symm

end WebSocket
end RtcPlugin.TsNode
