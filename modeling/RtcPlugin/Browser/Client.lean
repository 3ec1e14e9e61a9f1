import Mathlib.Logic.Function.Basic
import RtcPlugin.Json.Value
import RtcPlugin.System.Run

/-! The browser page's voice call.

A page is single-threaded: an event handler, or the part of `startCall` between two
awaits, is one step. Every `startCall` that passes its guard makes an `RtcPeer`; the
two share a number. All of them act on the same two globals, `rtcPeer` and
`currentCallId`. What the media and WebRTC calls answer, and when, is the
environment's choice. -/
namespace RtcPlugin.Browser

/-- The two pages that carry this code: `index.html` and `app.ts`. -/
inductive Page where
  | html
  | app
  deriving DecidableEq, Repr

inductive ConnectionState where
  | connected | disconnected | failed | other
  deriving DecidableEq, Repr

/-- The connection states on which a page takes the call for ended. -/
def Page.ends : Page → ConnectionState → Bool
  | _, .failed => true
  | .app, .disconnected => true
  | _, _ => false

/-- What a `for … of` loop goes through; none where the value is not iterable. -/
def iterate : Option Json → Option (List Json)
  | some (.arr elems) => some elems
  | some (.str s) => some (s.toList.map fun c => .str (String.singleton c))
  | _ => none

/-- `result.candidates || []` or `result.candidates`. -/
def Page.candidates (page : Page) (v : Option Json) : Option (List Json) :=
  match page with
  | .html => if optTruthy v then iterate v else some []
  | .app => iterate v

/-- The payload of a successful `rtc.call.start`. -/
structure StartResult where
  callId : String
  answerSdp : Option Json
  candidates : Option Json
  deriving Repr

inductive Request where
  /-- `rtc.call.start` with the offer of a peer. -/
  | start (peer : Nat)
  | ice (callId : String) (candidate : Json)
  | hangup (callId : String)
  deriving Repr

inductive PeerCall where
  | handleAnswer (sdp : Option Json)
  | addIceCandidate (candidate : Json)
  deriving Repr

/-- A call on an `RtcPeer` for the result of a start. -/
structure Invocation where
  start : Nat
  peer : Nat
  call : PeerCall
  deriving Repr

/-- The await at which a `startCall` stands. -/
inductive Stage where
  /-- `getUserMedia`, in `createOffer`. -/
  | media
  /-- The connection's own `createOffer`. -/
  | offer
  | localDescription
  | response
  | answer (candidates : Option (List Json))
  | candidate (rest : List Json)
  deriving Repr

structure Client where
  page : Page
  /-- Whether the WebSocket is open. -/
  ws : Bool
  rtcPeer : Option Nat
  currentCallId : Option String
  /-- Whether a peer has a connection. -/
  pc : Nat → Bool
  starts : Nat → Option Stage
  created : Nat
  sent : List Request
  invoked : List Invocation
  /-- The starts that were answered, with the call each answer named. -/
  returned : List (Nat × String)
  /-- Calls the server has ended by itself. -/
  ended : List String

namespace Client

def new (page : Page) (ws : Bool) : Client :=
  ⟨page, ws, none, none, fun _ => false, fun _ => none, 0, [], [], [], []⟩

def setStage (c : Client) (i : Nat) (stage : Option Stage) : Client :=
  {c with starts := Function.update c.starts i stage}

/-- Without an open socket the promise is rejected, and nothing is sent. -/
def sendRequest (c : Client) (r : Request) : Option Client :=
  if c.ws then some {c with sent := c.sent ++ [r]} else none

def cleanupCall (c : Client) : Client :=
  match c.rtcPeer with
  | some p => {c with pc := Function.update c.pc p false, rtcPeer := none, currentCallId := none}
  | none => {c with currentCallId := none}

/-- The `catch` of a `startCall`. -/
def fail (c : Client) (i : Nat) : Client := (c.setStage i none).cleanupCall

/-- Up to the first await: `createOffer` asks for the microphone. -/
def startCall (c : Client) : Client :=
  match c.rtcPeer with
  | some _ => c
  | none =>
    {c.setStage c.created (some .media) with
      rtcPeer := some c.created, pc := Function.update c.pc c.created false, created := c.created + 1}

/-- The microphone is there: `createOffer` makes the connection and its offer. -/
def onMedia (c : Client) (i : Nat) (ok : Bool) : Client :=
  if ok then {c.setStage i (some .offer) with pc := Function.update c.pc i true} else c.fail i

/-- `this.pc.setLocalDescription(offer)`, where `hangup` may have taken the connection. -/
def onOffer (c : Client) (i : Nat) (ok : Bool) : Client :=
  if ok && c.pc i then c.setStage i (some .localDescription) else c.fail i

def onLocalDescription (c : Client) (i : Nat) (ok : Bool) : Client :=
  if ok then
    match c.sendRequest (.start i) with
    | some c => c.setStage i (some .response)
    | none => c.fail i
  else c.fail i

/-- A peer is called. -/
def record (c : Client) (inv : Invocation) : Client := {c with invoked := c.invoked ++ [inv]}

/-- `await rtcPeer.handleAnswer(…)` or `await rtcPeer.addIceCandidate(…)`: on whatever
peer the global holds, which throws without one, and where that has no connection. -/
def invoke (c : Client) (i : Nat) (call : PeerCall) (stage : Stage) : Client :=
  match c.rtcPeer with
  | none => c.fail i
  | some p =>
    if c.pc p then (c.record ⟨i, p, call⟩).setStage i (some stage) else (c.record ⟨i, p, call⟩).fail i

def addCandidates (c : Client) (i : Nat) : List Json → Client
  | [] => c.setStage i none
  | v :: rest => c.invoke i (.addIceCandidate v) (.candidate rest)

def onStartResponse (c : Client) (i : Nat) (result : Option StartResult) : Client :=
  match result with
  | none => c.fail i
  | some r =>
    {c with currentCallId := some r.callId, returned := c.returned ++ [(i, r.callId)]}.invoke i
      (.handleAnswer r.answerSdp) (.answer (c.page.candidates r.candidates))

def onAnswer (c : Client) (i : Nat) (candidates : Option (List Json)) (ok : Bool) : Client :=
  match candidates with
  | some candidates => if ok then c.addCandidates i candidates else c.fail i
  | none => c.fail i

def onCandidateAdded (c : Client) (i : Nat) (rest : List Json) (ok : Bool) : Client :=
  if ok then c.addCandidates i rest else c.fail i

/-- An identifier that `if (currentCallId)` takes. -/
def callId? (c : Client) : Option String := c.currentCallId.filter (· ≠ "")

/-- `onIceCandidate`, as `startCall` wires it. -/
def onIceCandidate (c : Client) (candidate : Json) : Client :=
  match c.callId? with
  | some id => (c.sendRequest (.ice id candidate)).getD c
  | none => c

def hangup (c : Client) : Client :=
  match c.callId? with
  | some id => ((c.sendRequest (.hangup id)).getD c).cleanupCall
  | none => c.cleanupCall

def handleCallEnded (c : Client) : Client := c.cleanupCall

def onConnectionStateChange (c : Client) (state : ConnectionState) : Client :=
  if c.page.ends state then c.handleCallEnded else c

inductive Label where
  | callClick
  | hangupClick
  | media (i : Nat) (ok : Bool)
  | offer (i : Nat) (ok : Bool)
  | localDescription (i : Nat) (ok : Bool)
  | startResponse (i : Nat) (result : Option StartResult)
  | answer (i : Nat) (ok : Bool)
  | candidate (i : Nat) (ok : Bool)
  | iceCandidate (p : Nat) (candidate : Json)
  | connectionState (p : Nat) (state : ConnectionState)
  /-- The event `rtc.call.ended` arrives. -/
  | callEnded
  | serverEnds (callId : String)
  | socket (opened : Bool)
  deriving Repr

/-- A started call is named by a UUID, and so by no empty string. Events of a peer
come from its connection while it has one. -/
inductive Step (c : Client) : Label → Client → Prop where
  | callClick : Step c .callClick c.startCall
  | hangupClick : Step c .hangupClick c.hangup
  | media {i ok} : c.starts i = some .media → Step c (.media i ok) (c.onMedia i ok)
  | offer {i ok} : c.starts i = some .offer → Step c (.offer i ok) (c.onOffer i ok)
  | localDescription {i ok} : c.starts i = some .localDescription →
      Step c (.localDescription i ok) (c.onLocalDescription i ok)
  | startResponse {i result} : c.starts i = some .response → (∀ r, result = some r → r.callId ≠ "") →
      Step c (.startResponse i result) (c.onStartResponse i result)
  | answer {i candidates ok} : c.starts i = some (.answer candidates) →
      Step c (.answer i ok) (c.onAnswer i candidates ok)
  | candidate {i rest ok} : c.starts i = some (.candidate rest) →
      Step c (.candidate i ok) (c.onCandidateAdded i rest ok)
  | iceCandidate {p candidate} : c.pc p = true → Step c (.iceCandidate p candidate) (c.onIceCandidate candidate)
  | connectionState {p state} : c.pc p = true →
      Step c (.connectionState p state) (c.onConnectionStateChange state)
  | callEnded : Step c .callEnded c.handleCallEnded
  | serverEnds {callId} : Step c (.serverEnds callId) {c with ended := c.ended ++ [callId]}
  | socket {opened} : Step c (.socket opened) {c with ws := opened}

def system (page : Page) : System Client Label where
  init := fun c => ∃ ws, c = new page ws
  step := Step

/-- No call is under way. -/
def Idle (c : Client) : Prop := c.rtcPeer = none ∧ ∀ i, c.starts i = none

/-! ### What the operations leave alone -/

theorem setStage_starts (c : Client) (i : Nat) (stage : Option Stage) :
    (c.setStage i stage).starts = Function.update c.starts i stage := rfl

@[simp] theorem cleanupCall_rtcPeer (c : Client) : c.cleanupCall.rtcPeer = none := by
  unfold cleanupCall
  split
  · rfl
  · next h => exact h

@[simp] theorem cleanupCall_currentCallId (c : Client) : c.cleanupCall.currentCallId = none := by
  unfold cleanupCall
  split <;> rfl

@[simp] theorem cleanupCall_starts (c : Client) : c.cleanupCall.starts = c.starts := by
  unfold cleanupCall
  split <;> rfl

@[simp] theorem cleanupCall_sent (c : Client) : c.cleanupCall.sent = c.sent := by
  unfold cleanupCall
  split <;> rfl

@[simp] theorem cleanupCall_invoked (c : Client) : c.cleanupCall.invoked = c.invoked := by
  unfold cleanupCall
  split <;> rfl

@[simp] theorem cleanupCall_returned (c : Client) : c.cleanupCall.returned = c.returned := by
  unfold cleanupCall
  split <;> rfl

@[simp] theorem cleanupCall_ended (c : Client) : c.cleanupCall.ended = c.ended := by
  unfold cleanupCall
  split <;> rfl

/-- The globals a call to a peer finds: its peer, with a connection. -/
def Ready (c : Client) : Prop := ∃ p, c.rtcPeer = some p ∧ c.pc p = true

/-- A call to a peer fails without one; it goes to the one in use, and waits for it
where that has a connection. -/
theorem invoke_cases (c : Client) (i : Nat) (call : PeerCall) (stage : Stage) :
    c.rtcPeer = none ∧ c.invoke i call stage = c.fail i ∨
      ∃ p, c.rtcPeer = some p ∧
        (c.pc p = true ∧ c.invoke i call stage = (c.record ⟨i, p, call⟩).setStage i (some stage) ∨
          c.pc p = false ∧ c.invoke i call stage = (c.record ⟨i, p, call⟩).fail i) := by
  unfold invoke
  split
  · next h => exact .inl ⟨h, rfl⟩
  · next p h =>
    refine .inr ⟨p, h, ?_⟩
    by_cases hpc : c.pc p = true
    · exact .inl ⟨hpc, if_pos hpc⟩
    · exact .inr ⟨eq_false_of_ne_true hpc, if_neg hpc⟩

theorem sendRequest_eq {c c' : Client} {r : Request} (h : c.sendRequest r = some c') :
    c' = {c with sent := c.sent ++ [r]} := by
  unfold sendRequest at h
  split at h
  · exact (Option.some.inj h).symm
  · cases h

/-- A request whose failure is only logged: nothing but `sent` can change. -/
theorem getD_sendRequest (c : Client) (r : Request) :
    ∃ sent, (c.sendRequest r).getD c = {c with sent := sent} := by
  unfold sendRequest
  split
  · exact ⟨_, rfl⟩
  · exact ⟨_, rfl⟩

/-! ### No identifier outlives its peer -/

def Tidy (c : Client) : Prop := c.rtcPeer = none → c.currentCallId = none

theorem cleanupCall_tidy (c : Client) : Tidy c.cleanupCall := fun _ => cleanupCall_currentCallId c

theorem invoke_tidy (c : Client) (i : Nat) (call : PeerCall) (stage : Stage) : Tidy (c.invoke i call stage) := by
  rcases invoke_cases c i call stage with ⟨_, he⟩ | ⟨p, hp, ⟨_, he⟩ | ⟨_, he⟩⟩
  · rw [he]
    exact cleanupCall_tidy _
  · rw [he]
    intro hnone
    exact absurd (hp.symm.trans hnone) (Option.some_ne_none p)
  · rw [he]
    exact cleanupCall_tidy _

theorem addCandidates_tidy {c : Client} (h : Tidy c) (i : Nat) (rest : List Json) : Tidy (c.addCandidates i rest) := by
  cases rest with
  | nil => exact h
  | cons v rest => exact invoke_tidy _ _ _ _

theorem step_tidy {c c' : Client} {l : Label} (h : Tidy c) (hs : Step c l c') : Tidy c' := by
  cases hs with
  | callClick =>
    unfold startCall
    split
    · exact h
    · intro hnone
      cases hnone
  | hangupClick =>
    unfold hangup
    split <;> exact cleanupCall_tidy _
  | media =>
    unfold onMedia
    split
    · exact h
    · exact cleanupCall_tidy _
  | offer =>
    unfold onOffer
    split
    · exact h
    · exact cleanupCall_tidy _
  | @localDescription i =>
    unfold onLocalDescription
    split
    · split
      · next c' hsend =>
        rw [sendRequest_eq hsend]
        exact h
      · exact cleanupCall_tidy _
    · exact cleanupCall_tidy _
  | startResponse =>
    unfold onStartResponse
    split
    · exact cleanupCall_tidy _
    · exact invoke_tidy _ _ _ _
  | answer =>
    unfold onAnswer
    split
    · split
      · exact addCandidates_tidy h _ _
      · exact cleanupCall_tidy _
    · exact cleanupCall_tidy _
  | candidate =>
    unfold onCandidateAdded
    split
    · exact addCandidates_tidy h _ _
    · exact cleanupCall_tidy _
  | iceCandidate =>
    unfold onIceCandidate
    split
    · next id _ =>
      obtain ⟨sent, he⟩ := getD_sendRequest c (.ice id _)
      rw [he]
      exact h
    · exact h
  | connectionState =>
    unfold onConnectionStateChange
    split
    · exact cleanupCall_tidy _
    · exact h
  | callEnded => exact cleanupCall_tidy _
  | serverEnds | socket => exact h

theorem run_tidy {page : Page} {ls : List Label} {c : Client} (h : (system page).Run ls c) : Tidy c := by
  refine h.invariant (M := system page) (I := fun _ c => Tidy c) ?_ fun _ _ _ _ _ hI hs => step_tidy hI hs
  intro c hc
  obtain ⟨ws, rfl⟩ := hc
  exact fun _ => rfl

/-- What the plugin answers to a start, once the node has found no candidate. -/
def demoResult : StartResult :=
  ⟨"7c9e6679-7425-40de-944b-e07fc1f90ae7", some (.str "v=0"), some (.arr [])⟩

end Client
end RtcPlugin.Browser
