import RtcPlugin.Plugin.Types
import RtcPlugin.System.KeyMap
import RtcPlugin.System.Run
import RtcPlugin.System.Throwing

/-! The call orchestrator of the gateway plugin.

A method runs in the error-state monad: it may throw, and what it wrote before
throwing stays written. The runtime's fresh identifier and clock reading are
arguments. `exec_outcome` says everything a method can do to the state; the
invariants of the next modules are derived from it alone. -/
namespace RtcPlugin

structure OrchestratorOptions where
  maxConcurrentCalls : Nat := 5
  iceServers : List IceServer := defaultIceServers

structure CallOrchestrator where
  calls : KeyMap String RtcCallRecord
  /-- sessionKey → callId -/
  sessionCallMap : KeyMap String String
  options : OrchestratorOptions

structure StartCallParams where
  sdp : String
  sessionKey : String

inductive Direction where
  | «local» | remote
  deriving DecidableEq, Repr

namespace CallOrchestrator

def new (options : OrchestratorOptions) : CallOrchestrator := ⟨.empty, .empty, options⟩

def activeCalls (o : CallOrchestrator) : Nat := o.calls.values.countP RtcCallRecord.live

def getCall (o : CallOrchestrator) (callId : String) : Option RtcCallRecord := o.calls.get? callId

def getCallBySession (o : CallOrchestrator) (sessionKey : String) : Option RtcCallRecord :=
  match o.sessionCallMap.get? sessionKey with
  | some callId => if callId ≠ "" then o.calls.get? callId else none
  | none => none

def getAllCalls (o : CallOrchestrator) : List RtcCallRecord := o.calls.values

/-- A method: it may throw a message. -/
abbrev Method (α : Type) := Throwing CallOrchestrator α

def requireCall (callId : String) : Method RtcCallRecord := do
  match (← get).calls.get? callId with
  | some call => return call
  | none => throw s!"Call not found: {callId}"

def assertState (call : RtcCallRecord) (expected : RtcCallState) : Method Unit := do
  if call.state ≠ expected then
    throw s!"Call {call.callId} is in state \"{call.state.name}\", expected \"{expected.name}\""

/-- Assignments to the record stored under `callId`. -/
def updateCall (callId : String) (f : RtcCallRecord → RtcCallRecord) : Method Unit :=
  modify fun o => {o with calls := o.calls.modify callId f}

def startCall (params : StartCallParams) (uuid : String) (now : Int) : Method RtcCallRecord := do
  let o ← get
  if o.activeCalls ≥ o.options.maxConcurrentCalls then
    throw s!"Max concurrent calls ({o.options.maxConcurrentCalls}) reached"
  if let some existingCallId := o.sessionCallMap.get? params.sessionKey then
    if existingCallId ≠ "" then
      if let some existing := o.calls.get? existingCallId then
        if existing.live then
          throw s!"Session {params.sessionKey} already has an active call: {existingCallId}"
  let record : RtcCallRecord :=
    { callId := uuid, sessionKey := params.sessionKey, state := .initiating, offerSdp := params.sdp
      startedAt := now }
  modify fun o => {o with calls := o.calls.set uuid record}
  modify fun o => {o with sessionCallMap := o.sessionCallMap.set params.sessionKey uuid}
  return record

def handleAnswer (callId : String) (answerSdp : Option Json) : Method Unit := do
  let call ← requireCall callId
  assertState call .initiating
  updateCall callId fun c => {c with answerSdp := answerSdp, state := .connecting}

def handleIceCandidate (callId : String) (candidate : Json) (direction : Direction) : Method Unit := do
  let call ← requireCall callId
  if call.state.terminal then return -- ignore late candidates
  match direction with
  | .local => updateCall callId fun c => {c with localCandidates := c.localCandidates ++ [candidate]}
  | .remote => updateCall callId fun c => {c with remoteCandidates := c.remoteCandidates ++ [candidate]}

def setActive (callId : String) (now : Int) : Method Unit := do
  let call ← requireCall callId
  if call.state = .connecting ∨ call.state = .initiating then
    updateCall callId fun c => {c with state := .active, connectedAt := some now}

/-- The common tail of `hangup`, `setError` and `setTimeout`. -/
def endCall (callId : String) (state : RtcCallState) (reason : String) (now : Int) : Method Unit := do
  let call ← requireCall callId
  if call.state.terminal then return -- already ended
  updateCall callId fun c => {c with state := state, endedAt := some now, endReason := some reason}

def hangup (callId reason : String) (now : Int) : Method Unit :=
  endCall callId (if reason = "user" then .hangupUser else .hangupNode) reason now

def setError (callId reason : String) (now : Int) : Method Unit := endCall callId .error reason now

def setTimeout (callId reason : String) (now : Int) : Method Unit := endCall callId .timeout reason now

def addTranscript (callId : String) (role : Role) (text : String) (now : Int) : Method Unit := do
  let _ ← requireCall callId
  updateCall callId fun c => {c with transcript := c.transcript ++ [⟨role, text, now⟩]}

/-! ### The methods as one operation type -/

inductive Op where
  | startCall (params : StartCallParams) (uuid : String)
  | handleAnswer (callId : String) (answerSdp : Option Json)
  | handleIceCandidate (callId : String) (candidate : Json) (direction : Direction)
  | setActive (callId : String)
  | hangup (callId reason : String)
  | setError (callId reason : String)
  | setTimeout (callId reason : String)
  | addTranscript (callId : String) (role : Role) (text : String)

def Op.exec (now : Int) : Op → Method Unit
  | .startCall params uuid => discard (CallOrchestrator.startCall params uuid now)
  | .handleAnswer callId answerSdp => CallOrchestrator.handleAnswer callId answerSdp
  | .handleIceCandidate callId candidate direction =>
    CallOrchestrator.handleIceCandidate callId candidate direction
  | .setActive callId => CallOrchestrator.setActive callId now
  | .hangup callId reason => CallOrchestrator.hangup callId reason now
  | .setError callId reason => CallOrchestrator.setError callId reason now
  | .setTimeout callId reason => CallOrchestrator.setTimeout callId reason now
  | .addTranscript callId role text => CallOrchestrator.addTranscript callId role text now

/-- The call an operation names; a start names the call it creates. -/
def Op.callId : Op → String
  | .startCall _ uuid => uuid
  | .handleAnswer callId _ | .handleIceCandidate callId _ _ | .setActive callId | .hangup callId _
  | .setError callId _ | .setTimeout callId _ | .addTranscript callId _ _ => callId

def Op.isStart : Op → Bool
  | .startCall .. => true
  | _ => false

/-- The operations that may return without doing anything. -/
def Op.ignorable : Op → Bool
  | .startCall .. | .handleAnswer .. | .addTranscript .. => false
  | _ => true

theorem Op.isStart_of_ignorable {op : Op} (h : op.ignorable = true) : op.isStart = false := by
  cases op <;> first | rfl | cases h

/-! ### What a method does -/

def modifyCall (o : CallOrchestrator) (callId : String) (f : RtcCallRecord → RtcCallRecord) :
    CallOrchestrator :=
  {o with calls := o.calls.modify callId f}

/-- The record a successful start creates. -/
def newCall (params : StartCallParams) (uuid : String) (now : Int) : RtcCallRecord :=
  { callId := uuid, sessionKey := params.sessionKey, state := .initiating, offerSdp := params.sdp
    startedAt := now }

/-- The state a successful start leaves. -/
def started (o : CallOrchestrator) (params : StartCallParams) (uuid : String) (now : Int) :
    CallOrchestrator :=
  {o with
    calls := o.calls.set uuid (newCall params uuid now)
    sessionCallMap := o.sessionCallMap.set params.sessionKey uuid}

@[simp] theorem newCall_callId (params : StartCallParams) (uuid : String) (now : Int) :
    (newCall params uuid now).callId = uuid := rfl

@[simp] theorem started_options (o : CallOrchestrator) (params : StartCallParams) (uuid : String) (now : Int) :
    (o.started params uuid now).options = o.options := rfl

/-- The session's latest call still occupies it. -/
def Busy (o : CallOrchestrator) (sessionKey : String) : Prop :=
  ∃ c, o.getCallBySession sessionKey = some c ∧ c.live = true

/-- The changes the methods make to a record, with their guards. -/
inductive RecordStep (now : Int) (c : RtcCallRecord) : Op → RtcCallRecord → Prop where
  | answered {id a} : c.state = .initiating →
      RecordStep now c (.handleAnswer id a) {c with answerSdp := a, state := .connecting}
  | localCandidate {id x} : c.live = true → RecordStep now c (.handleIceCandidate id x .local)
      {c with localCandidates := c.localCandidates ++ [x]}
  | remoteCandidate {id x} : c.live = true → RecordStep now c (.handleIceCandidate id x .remote)
      {c with remoteCandidates := c.remoteCandidates ++ [x]}
  | activated {id} : c.state = .connecting ∨ c.state = .initiating →
      RecordStep now c (.setActive id) {c with state := .active, connectedAt := some now}
  | ended {id op st reason} : c.live = true → st.terminal = true →
      op = .hangup id reason ∨ op = .setError id reason ∨ op = .setTimeout id reason →
      RecordStep now c op {c with state := st, endedAt := some now, endReason := some reason}
  | said {id role text} : RecordStep now c (.addTranscript id role text)
      {c with transcript := c.transcript ++ [⟨role, text, now⟩]}

theorem requireCall_run (o : CallOrchestrator) (callId : String) :
    requireCall callId o = match o.calls.get? callId with
      | some call => .ok call o
      | none => .error s!"Call not found: {callId}" o := by
  cases h : o.calls.get? callId <;> simp [requireCall, h]

theorem assertState_run (o : CallOrchestrator) (call : RtcCallRecord) (expected : RtcCallState) :
    assertState call expected o =
      if call.state = expected then .ok () o
      else .error s!"Call {call.callId} is in state \"{call.state.name}\", expected \"{expected.name}\"" o := by
  by_cases h : call.state = expected <;> simp [assertState, h]

@[simp] theorem updateCall_run (o : CallOrchestrator) (callId : String) (f : RtcCallRecord → RtcCallRecord) :
    updateCall callId f o = .ok () (o.modifyCall callId f) := rfl

theorem handleAnswer_run (o : CallOrchestrator) (callId : String) (answerSdp : Option Json) :
    handleAnswer callId answerSdp o = match o.calls.get? callId with
      | none => .error s!"Call not found: {callId}" o
      | some call =>
        if call.state = .initiating then
          .ok () (o.modifyCall callId fun c => {c with answerSdp := answerSdp, state := .connecting})
        else
          .error s!"Call {call.callId} is in state \"{call.state.name}\", expected \"{RtcCallState.initiating.name}\""
            o := by
  cases h : o.calls.get? callId with
  | none => simp [handleAnswer, requireCall_run, h]
  | some call =>
    by_cases hs : call.state = .initiating <;>
      simp [handleAnswer, requireCall_run, assertState_run, h, hs]

theorem endCall_run (o : CallOrchestrator) (callId : String) (state : RtcCallState) (reason : String)
    (now : Int) :
    endCall callId state reason now o = match o.calls.get? callId with
      | none => .error s!"Call not found: {callId}" o
      | some call =>
        if call.state.terminal = true then .ok () o
        else .ok () (o.modifyCall callId fun c =>
          {c with state := state, endedAt := some now, endReason := some reason}) := by
  cases h : o.calls.get? callId with
  | none => simp [endCall, requireCall_run, h]
  | some call =>
    by_cases hs : call.state.terminal = true <;> simp [endCall, requireCall_run, h, hs]

theorem startCall_full (o : CallOrchestrator) (params : StartCallParams) (uuid : String) (now : Int)
    (h : o.options.maxConcurrentCalls ≤ o.activeCalls) :
    startCall params uuid now o =
      .error s!"Max concurrent calls ({o.options.maxConcurrentCalls}) reached" o := by
  simp [startCall, h]

theorem startCall_busy (o : CallOrchestrator) (params : StartCallParams) (uuid : String) (now : Int)
    (hcap : o.activeCalls < o.options.maxConcurrentCalls) (h : o.Busy params.sessionKey) :
    ∃ e, startCall params uuid now o = .error e o := by
  obtain ⟨c, hc, hlive⟩ := h
  unfold getCallBySession at hc
  have hcap' : ¬ o.options.maxConcurrentCalls ≤ o.activeCalls := Nat.not_le.mpr hcap
  cases hs : o.sessionCallMap.get? params.sessionKey with
  | none => simp [hs] at hc
  | some id =>
    by_cases hid : id = ""
    · simp [hs, hid] at hc
    · simp only [hs, ne_eq, hid, not_false_eq_true, if_true] at hc
      exact ⟨_, by simp [startCall, hcap', hs, hid, hc, hlive]; rfl⟩

theorem startCall_admitted (o : CallOrchestrator) (params : StartCallParams) (uuid : String) (now : Int)
    (hcap : o.activeCalls < o.options.maxConcurrentCalls) (hfree : ¬ o.Busy params.sessionKey) :
    startCall params uuid now o = .ok (newCall params uuid now) (o.started params uuid now) := by
  have hcap' : ¬ o.options.maxConcurrentCalls ≤ o.activeCalls := Nat.not_le.mpr hcap
  unfold Busy getCallBySession at hfree
  cases hs : o.sessionCallMap.get? params.sessionKey with
  | none => simp [startCall, hcap', hs, started, newCall]
  | some id =>
    by_cases hid : id = ""
    · simp [startCall, hcap', hs, hid, started, newCall]
    · cases hc : o.calls.get? id with
      | none => simp [startCall, hcap', hs, hid, hc, started, newCall]
      | some c =>
        have hlive : c.live = false := by simpa [hs, hid, hc] using hfree
        simp [startCall, hcap', hs, hid, hc, hlive, started, newCall]

/-- A start is admitted exactly when a slot is free and its session is not busy. -/
theorem startCall_ok_iff (o : CallOrchestrator) (params : StartCallParams) (uuid : String) (now : Int) :
    (∃ c o', startCall params uuid now o = .ok c o') ↔
      o.activeCalls < o.options.maxConcurrentCalls ∧ ¬ o.Busy params.sessionKey := by
  constructor
  · rintro ⟨c, o', h⟩
    by_cases hcap : o.activeCalls < o.options.maxConcurrentCalls
    · refine ⟨hcap, fun hb => ?_⟩
      obtain ⟨e, he⟩ := startCall_busy o params uuid now hcap hb
      rw [he] at h
      cases h
    · rw [startCall_full o params uuid now (Nat.not_lt.mp hcap)] at h
      cases h
  · rintro ⟨hcap, hfree⟩
    exact ⟨_, _, startCall_admitted o params uuid now hcap hfree⟩

/-- A start that is not admitted throws and writes nothing. -/
theorem startCall_error (o : CallOrchestrator) (params : StartCallParams) (uuid : String) (now : Int)
    (h : ¬ (o.activeCalls < o.options.maxConcurrentCalls ∧ ¬ o.Busy params.sessionKey)) :
    ∃ e, startCall params uuid now o = .error e o := by
  by_cases hcap : o.activeCalls < o.options.maxConcurrentCalls
  · exact startCall_busy o params uuid now hcap (by simpa [hcap] using h)
  · exact ⟨_, startCall_full o params uuid now (Nat.not_lt.mp hcap)⟩

/-! ### What an operation does -/

/-- What `op` may leave of `o` when it does not throw: the same state where it may
be ignored, the state of an admitted start, or one record changed under its guard. -/
inductive Does (now : Int) (o : CallOrchestrator) (op : Op) : CallOrchestrator → Prop where
  | nothing : op.ignorable = true → Does now o op o
  | started {params uuid} : op = .startCall params uuid →
      o.activeCalls < o.options.maxConcurrentCalls → ¬ o.Busy params.sessionKey →
      Does now o op (o.started params uuid now)
  | changed {c f} : o.calls.get? op.callId = some c → RecordStep now c op (f c) →
      Does now o op (o.modifyCall op.callId f)

/-- A method throws and leaves the state alone, or returns with a state it may leave. -/
def Outcome (now : Int) (o : CallOrchestrator) (op : Op) (r : EStateM.Result String CallOrchestrator Unit) :
    Prop :=
  (∃ e, r = .error e o) ∨ ∃ o', r = .ok () o' ∧ Does now o op o'

theorem endCall_outcome {op : Op} (now : Int) (o : CallOrchestrator) {state : RtcCallState}
    {id reason : String} (hst : state.terminal = true) (hid : op.callId = id)
    (hop : op = .hangup id reason ∨ op = .setError id reason ∨ op = .setTimeout id reason) :
    Outcome now o op (endCall id state reason now o) := by
  rw [endCall_run]
  cases hc : o.calls.get? id with
  | none => exact .inl ⟨_, rfl⟩
  | some c =>
    by_cases ht : c.state.terminal = true
    · simp only [ht, if_true]
      exact .inr ⟨_, rfl, .nothing (by rcases hop with rfl | rfl | rfl <;> rfl)⟩
    · have hl : c.live = true := by simpa [RtcCallRecord.live] using ht
      simp only [ht]
      refine .inr ⟨_, rfl, ?_⟩
      rw [← hid] at hc ⊢
      exact .changed hc (.ended hl hst (hid ▸ hop))

/-- **Everything a method can do**, on any arguments in any state. -/
theorem exec_outcome (op : Op) (now : Int) (o : CallOrchestrator) : Outcome now o op (op.exec now o) := by
  cases op with
  | startCall params uuid =>
    by_cases hadm : o.activeCalls < o.options.maxConcurrentCalls ∧ ¬ o.Busy params.sessionKey
    · simp only [Op.exec, Throwing.discard_run, startCall_admitted o params uuid now hadm.1 hadm.2]
      exact .inr ⟨_, rfl, .started rfl hadm.1 hadm.2⟩
    · obtain ⟨e, he⟩ := startCall_error o params uuid now hadm
      simp only [Op.exec, Throwing.discard_run, he]
      exact .inl ⟨e, rfl⟩
  | handleAnswer id answerSdp =>
    simp only [Op.exec, handleAnswer_run]
    cases hc : o.calls.get? id with
    | none => exact .inl ⟨_, rfl⟩
    | some c =>
      by_cases hs : c.state = .initiating
      · simp only [hs, if_true]
        exact .inr ⟨_, rfl, .changed hc (.answered hs)⟩
      · simp only [hs, if_false]
        exact .inl ⟨_, rfl⟩
  | handleIceCandidate id candidate direction =>
    simp only [Op.exec, handleIceCandidate, Throwing.bind_run, requireCall_run]
    cases hc : o.calls.get? id with
    | none => exact .inl ⟨_, rfl⟩
    | some c =>
      by_cases ht : c.state.terminal = true
      · simp only [ht, if_true]
        exact .inr ⟨_, rfl, .nothing rfl⟩
      · have hl : c.live = true := by simpa [RtcCallRecord.live] using ht
        simp only [ht]
        cases direction with
        | «local» => exact .inr ⟨_, rfl, .changed hc (.localCandidate hl)⟩
        | remote => exact .inr ⟨_, rfl, .changed hc (.remoteCandidate hl)⟩
  | setActive id =>
    simp only [Op.exec, setActive, Throwing.bind_run, requireCall_run]
    cases hc : o.calls.get? id with
    | none => exact .inl ⟨_, rfl⟩
    | some c =>
      by_cases hs : c.state = .connecting ∨ c.state = .initiating
      · simp only [hs, if_true]
        exact .inr ⟨_, rfl, .changed hc (.activated hs)⟩
      · simp only [hs, if_false]
        exact .inr ⟨_, rfl, .nothing rfl⟩
  | hangup id reason => exact endCall_outcome now o (by split <;> rfl) rfl (.inl rfl)
  | setError id reason => exact endCall_outcome now o rfl rfl (.inr (.inl rfl))
  | setTimeout id reason => exact endCall_outcome now o rfl rfl (.inr (.inr rfl))
  | addTranscript id role text =>
    simp only [Op.exec, addTranscript, Throwing.bind_run, requireCall_run]
    cases hc : o.calls.get? id with
    | none => exact .inl ⟨_, rfl⟩
    | some c => exact .inr ⟨_, rfl, .changed hc .said⟩

theorem RecordStep.isStart {now : Int} {c c' : RtcCallRecord} {op : Op} (h : RecordStep now c op c') :
    op.isStart = false := by
  cases h with
  | ended _ _ hop => rcases hop with rfl | rfl | rfl <;> rfl
  | _ => rfl

theorem exec_does {op : Op} {now : Int} {o o' : CallOrchestrator} (h : op.exec now o = .ok () o') :
    Does now o op o' := by
  rcases exec_outcome op now o with ⟨e, he⟩ | ⟨t, ht, hd⟩
  · rw [he] at h
    cases h
  · rw [ht] at h
    cases h
    exact hd

/-- A method that throws has written nothing. -/
theorem exec_error {op : Op} {now : Int} {o o' : CallOrchestrator} {e : String}
    (h : op.exec now o = .error e o') : o' = o := by
  rcases exec_outcome op now o with ⟨e', he⟩ | ⟨t, ht, _⟩
  · rw [he] at h
    cases h
    rfl
  · rw [ht] at h
    cases h

/-! ### Runs -/

/-- One call of a method: what was called, the clock it read, what it threw. -/
structure Event where
  op : Op
  now : Int
  threw : Option String

/-- A start draws an identifier that no call has. -/
def Fresh (o : CallOrchestrator) : Op → Prop
  | .startCall _ uuid => uuid ≠ "" ∧ o.calls.get? uuid = none
  | _ => True

inductive Step (o : CallOrchestrator) : Event → CallOrchestrator → Prop where
  | returned {op now o'} : Fresh o op → op.exec now o = .ok () o' → Step o ⟨op, now, none⟩ o'
  | threw {op now e o'} : Fresh o op → op.exec now o = .error e o' → Step o ⟨op, now, some e⟩ o'

/-- The orchestrator under any sequence of method calls. -/
def system (options : OrchestratorOptions) : System CallOrchestrator Event where
  init := (· = new options)
  step := Step

/-- A step is an effect of its operation, or it threw and changed nothing. -/
theorem Step.does {o o' : CallOrchestrator} {e : Event} (h : Step o e o') :
    Fresh o e.op ∧ (e.threw = none ∧ Does e.now o e.op o' ∨ e.threw ≠ none ∧ o' = o) := by
  cases h with
  | returned hf h => exact ⟨hf, .inl ⟨rfl, exec_does h⟩⟩
  | threw hf h => exact ⟨hf, .inr ⟨nofun, exec_error h⟩⟩

/-- An admitted start with a fresh identifier is a step. -/
theorem Step.start {o : CallOrchestrator} {params : StartCallParams} {uuid : String} (now : Int)
    (hfresh : Fresh o (.startCall params uuid)) (hcap : o.activeCalls < o.options.maxConcurrentCalls)
    (hfree : ¬ o.Busy params.sessionKey) :
    Step o ⟨.startCall params uuid, now, none⟩ (o.started params uuid now) := by
  refine .returned hfresh ?_
  simp only [Op.exec, Throwing.discard_run, startCall_admitted o params uuid now hcap hfree]

end CallOrchestrator
end RtcPlugin
