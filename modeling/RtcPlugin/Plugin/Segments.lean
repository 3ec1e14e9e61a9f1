import RtcPlugin.Plugin.Admission
import RtcPlugin.Plugin.Handlers

/-! What the plugin's segments do.

`handle_requested` and `resume_resumed` say everything a handler's segment can do
to the state; the results about runs of the plugin are derived from them and never
unfold a handler. -/
namespace RtcPlugin.Plugin

open CallOrchestrator (Op)

/-- The invoke that a handler sends, if there is a node to send it to. -/
def invocation (h : Nat) (nodes : List NodeSession) (params : InvokeParams) (key : String) : List Effect :=
  match findRtcNode nodes with
  | none => []
  | some node => [.invoke h
    { nodeId := node.nodeId, command := params.command, params := params, timeoutMs := 15000
      idempotencyKey := key }]

/-! ### Running the pieces -/

@[simp] theorem orchestrate_run {α : Type} (m : CallOrchestrator.Method α) (s : State) :
    orchestrate m s = match m s.orchestrator with
      | .ok a o => .ok a {s with orchestrator := o}
      | .error e o => .error e {s with orchestrator := o} := rfl

@[simp] theorem respond_run (h : Nat) (ok : Bool) (payload : Reply) (s : State) :
    respond h ok payload s = .ok () (s.emit [.respond h ok payload]) := rfl

@[simp] theorem sendError_run (h : Nat) (message : String) (s : State) :
    sendError h message s = .ok () (s.emit [.respond h false (.error message)]) := rfl

theorem invokeRtcNode_run (h : Nat) (nodes : List NodeSession) (params : InvokeParams) (key : String)
    (s : State) :
    invokeRtcNode h nodes (params.command) params key s =
      .ok (findRtcNode nodes).isSome (s.emit (invocation h nodes params key)) := by
  unfold invokeRtcNode invocation
  cases findRtcNode nodes with
  | none => simp [State.emit]
  | some node => simp

theorem awaitRtcNode_run (outcome : InvokeOutcome) (s : State) :
    awaitRtcNode outcome s = match outcome.decoded with
      | .ok v => .ok v s
      | .error message => .error message s := by
  unfold awaitRtcNode
  cases outcome.decoded <;> rfl

@[simp] theorem attempt_run {α : Type} (h : Nat) (finished : α) (body : Handler α) (s : State) :
    attempt h finished body s = match body s with
      | .ok a t => .ok a t
      | .error e t => .ok finished (t.emit [.respond h false (.error e)]) := by
  simp only [attempt, Throwing.tryCatch_run]
  cases body s <;> simp

/-! ### Requests -/

/-- A request that tells the node what it did to a call. -/
inductive Forwards (req : Request) : Op → InvokeParams → Await → Prop where
  | candidate {callId candidate} : req.method = .ice → stringParam req.params "callId" "" = callId →
      optGet? req.params "candidate" = some candidate → candidate.truthy = true →
      Forwards req (.handleIceCandidate callId candidate .remote) (.remoteCandidate callId candidate) .ice
  | hangup {callId reason} : req.method = .hangup → stringParam req.params "callId" "" = callId →
      Forwards req (.hangup callId reason) (.hangup callId reason) .hangup

/-- What the first segment of a request may do. -/
inductive Requested (h : Nat) (req : Request) (s : State) : Option Waiting → State → Prop where
  | declined (message : String) : Requested h req s none (s.emit [.respond h false (.error message)])
  | reported (payload : Reply) : req.method = .status →
      Requested h req s none (s.emit [.respond h true payload])
  | started {nodes params} : req.method = .start → req.registry = some nodes →
      s.orchestrator.activeCalls < s.orchestrator.options.maxConcurrentCalls →
      ¬ s.orchestrator.Busy params.sessionKey →
      Requested h req s (some ⟨.start req.uuid, (findRtcNode nodes).isSome⟩)
        (State.emit {s with orchestrator := s.orchestrator.started params req.uuid req.now}
          (invocation h nodes (.accept req.uuid params.sdp s.orchestrator.options.iceServers) req.key))
  | told {nodes op params await o} : Forwards req op params await → req.registry = some nodes →
      op.exec req.now s.orchestrator = .ok () o →
      Requested h req s (some ⟨await, (findRtcNode nodes).isSome⟩)
        (State.emit {s with orchestrator := o} (invocation h nodes params req.key))
  | untold {op params await o} : Forwards req op params await → req.registry = none →
      op.exec req.now s.orchestrator = .ok () o →
      Requested h req s none (State.emit {s with orchestrator := o} [.respond h true .ok])

theorem forward_run (h : Nat) (req : Request) (params : InvokeParams) (await : Await) (s : State) :
    forward h req (params.command) params await s = match req.registry with
      | some nodes => .ok (some ⟨await, (findRtcNode nodes).isSome⟩) (s.emit (invocation h nodes params req.key))
      | none => .ok none (s.emit [.respond h true .ok]) := by
  unfold forward
  cases req.registry with
  | none => simp
  | some nodes => simp [invokeRtcNode_run]

/-- The common body of the two forwarding handlers. -/
theorem forwards_requested {h : Nat} {req : Request} {s : State} {op : Op} {params : InvokeParams}
    {await : Await} (hf : Forwards req op params await) :
    ∃ waiting s', attempt h none (do
        orchestrate (op.exec req.now)
        forward h req (params.command) params await) s = .ok waiting s' ∧
      Requested h req s waiting s' := by
  rcases CallOrchestrator.exec_outcome op req.now s.orchestrator with ⟨e, he⟩ | ⟨o, ho, _⟩
  · exact ⟨none, _, by simp [he], .declined e⟩
  · cases hr : req.registry with
    | none => exact ⟨none, _, by simp [ho, forward_run, hr], .untold hf hr ho⟩
    | some nodes => exact ⟨some _, _, by simp [ho, forward_run, hr], .told hf hr ho⟩

theorem rtcCallStart_requested (config : WebRtcConfig) {h : Nat} {req : Request} (s : State)
    (hm : req.method = .start) : ∃ waiting s', rtcCallStart config h req s = .ok waiting s' ∧
      Requested h req s waiting s' := by
  unfold rtcCallStart
  by_cases hen : config.enabled = true
  · cases hv : (validateWebRtcConfig config).isEmpty with
    | false => exact ⟨none, _, by simp [hen, hv]; rfl, .declined _⟩
    | true =>
      cases hr : req.registry with
      | none => exact ⟨none, _, by simp [hen, hv]; rfl, .declined _⟩
      | some nodes =>
        generalize hsdp : jsTrim (stringParam req.params "sdp" "") = sdp
        generalize hkey : jsTrim (stringParam req.params "sessionKey" "") = sessionKey
        by_cases hp : sdp = "" ∨ sessionKey = ""
        · exact ⟨none, _, by simp [hen, hv, hp]; rfl, .declined _⟩
        · by_cases hadm : s.orchestrator.activeCalls < s.orchestrator.options.maxConcurrentCalls ∧
              ¬ s.orchestrator.Busy sessionKey
          · have hfree : ¬ s.orchestrator.Busy (StartCallParams.mk sdp sessionKey).sessionKey := hadm.2
            have hstart := CallOrchestrator.startCall_admitted s.orchestrator ⟨sdp, sessionKey⟩ req.uuid req.now
              hadm.1 hadm.2
            have hinvoke (t : State) : invokeRtcNode h nodes "rtc.call.accept"
                (.accept req.uuid sdp s.orchestrator.options.iceServers) req.key t =
                .ok (findRtcNode nodes).isSome (t.emit
                  (invocation h nodes (.accept req.uuid sdp s.orchestrator.options.iceServers) req.key)) :=
              invokeRtcNode_run h nodes (.accept req.uuid sdp s.orchestrator.options.iceServers) req.key t
            refine ⟨some _, _, ?_, .started hm hr hadm.1 hfree⟩
            simp [hen, hv, hp, hstart, hinvoke]
          · obtain ⟨e, he⟩ := CallOrchestrator.startCall_error s.orchestrator ⟨sdp, sessionKey⟩ req.uuid req.now
              hadm
            exact ⟨none, _, by simp [hen, hv, hp, he], .declined e⟩
  · exact ⟨none, _, by simp [hen]; rfl, .declined _⟩

theorem rtcCallIce_requested {h : Nat} {req : Request} (s : State) (hm : req.method = .ice) :
    ∃ waiting s', rtcCallIce h req s = .ok waiting s' ∧ Requested h req s waiting s' := by
  unfold rtcCallIce
  cases hc : optGet? req.params "candidate" with
  | none => exact ⟨none, _, by simp; rfl, .declined _⟩
  | some candidate =>
    generalize hid : stringParam req.params "callId" "" = callId
    by_cases hp : callId = "" ∨ candidate.truthy = false
    · exact ⟨none, _, by simp [hp]; rfl, .declined _⟩
    · have hf : Forwards req (.handleIceCandidate callId candidate .remote) (.remoteCandidate callId candidate)
          .ice := .candidate hm hid hc (by simpa using (not_or.mp hp).2)
      obtain ⟨waiting, s', hrun, hreq⟩ := forwards_requested (h := h) (s := s) hf
      refine ⟨waiting, s', ?_, hreq⟩
      simpa [hp, Op.exec, InvokeParams.command] using hrun

theorem rtcCallHangup_requested {h : Nat} {req : Request} (s : State) (hm : req.method = .hangup) :
    ∃ waiting s', rtcCallHangup h req s = .ok waiting s' ∧ Requested h req s waiting s' := by
  unfold rtcCallHangup
  generalize hid : stringParam req.params "callId" "" = callId
  generalize stringParam req.params "reason" "user" = reason
  by_cases hp : callId = ""
  · exact ⟨none, _, by simp [hp]; rfl, .declined _⟩
  · obtain ⟨waiting, s', hrun, hreq⟩ := forwards_requested (h := h) (s := s) (.hangup hm hid)
    refine ⟨waiting, s', ?_, hreq⟩
    simpa [hp, Op.exec, InvokeParams.command] using hrun

/-- A hangup of a call that exists ends it and goes on to the node. -/
theorem rtcCallHangup_run {h : Nat} {req : Request} {s : State} {callId : String} {o : CallOrchestrator}
    (hid : stringParam req.params "callId" "" = callId) (hne : callId ≠ "")
    (hex : (Op.hangup callId (stringParam req.params "reason" "user")).exec req.now s.orchestrator = .ok () o) :
    ∃ waiting s', rtcCallHangup h req s = .ok waiting s' ∧ s'.orchestrator = o ∧
      (req.registry.bind findRtcNode = none → ∀ h' r, .invoke h' r ∉ s'.log.drop s.log.length) := by
  have hex' : CallOrchestrator.hangup callId (stringParam req.params "reason" "user") req.now s.orchestrator =
      .ok () o := hex
  have hforward := forward_run h req (.hangup callId (stringParam req.params "reason" "user")) .hangup
    {s with orchestrator := o}
  rw [InvokeParams.command] at hforward
  unfold rtcCallHangup
  cases hr : req.registry with
  | none =>
    refine ⟨none, _, by simp [hid, hne, hex', hforward, hr]; rfl, rfl, fun _ h' r hm => ?_⟩
    simp [State.emit] at hm
  | some nodes =>
    refine ⟨some _, _, by simp [hid, hne, hex', hforward, hr]; exact ⟨rfl, rfl⟩, rfl, fun hn h' r hm => ?_⟩
    rw [Option.bind_some] at hn
    simp [State.emit, invocation, hn] at hm

theorem rtcCallStatus_requested {h : Nat} {req : Request} (s : State) (hm : req.method = .status) :
    ∃ waiting s', rtcCallStatus h req s = .ok waiting s' ∧ Requested h req s waiting s' := by
  unfold rtcCallStatus
  generalize stringParam req.params "callId" "" = callId
  by_cases hp : callId = ""
  · exact ⟨none, _, by simp [hp]; rfl, .reported _ hm⟩
  · cases hc : s.orchestrator.getCall callId with
    | none => exact ⟨none, _, by simp [hp, hc]; rfl, .declined _⟩
    | some call => exact ⟨none, _, by simp [hp, hc]; rfl, .reported _ hm⟩

/-- **Everything a request can do**, on any parameters in any state. -/
theorem handle_requested (config : WebRtcConfig) (h : Nat) (req : Request) (s : State) :
    ∃ waiting s', handle config h req s = .ok waiting s' ∧ Requested h req s waiting s' := by
  unfold handle
  cases hm : req.method with
  | start => exact rtcCallStart_requested config s hm
  | ice => exact rtcCallIce_requested s hm
  | hangup => exact rtcCallHangup_requested s hm
  | status => exact rtcCallStatus_requested s hm

/-! ### Resumptions -/

/-- What a start does to its call when the node's result is there. -/
def settlement (callId : String) (v : Json) : Op :=
  if v.truthy then .handleAnswer callId (v.get? "answerSdp") else .setError callId (errDetail v)

/-- What it then responds. -/
def reply (h : Nat) (callId : String) (v : Json) (iceServers : List IceServer) : Effect :=
  if v.truthy then
    .respond h true (.started callId (v.get? "answerSdp") (nullish (v.get? "candidates") (.arr [])) iceServers)
  else .respond h false (.error (errDetail v))

/-- What the second segment of a handler may do. -/
inductive Resumed (h : Nat) (outcome : InvokeOutcome) (now : Int) (s : State) : Await → State → Prop where
  | rejected {point message} : outcome.decoded = .error message →
      Resumed h outcome now s point (s.emit [.respond h false (.error message)])
  | forwarded {point v} : (∀ callId, point ≠ .start callId) → outcome.decoded = .ok v →
      Resumed h outcome now s point (s.emit [.respond h true .ok])
  | settled {callId v o} : outcome.decoded = .ok v →
      (settlement callId v).exec now s.orchestrator = .ok () o →
      Resumed h outcome now s (.start callId)
        (State.emit {s with orchestrator := o} [reply h callId v o.options.iceServers])
  | late {callId v message} : outcome.decoded = .ok v →
      (settlement callId v).exec now s.orchestrator = .error message s.orchestrator →
      Resumed h outcome now s (.start callId) (s.emit [.respond h false (.error message)])

theorem forwardResume_resumed {h : Nat} {outcome : InvokeOutcome} {now : Int} (s : State) {point : Await}
    (hp : ∀ callId, point ≠ .start callId) :
    ∃ s', forwardResume h outcome s = .ok () s' ∧ Resumed h outcome now s point s' := by
  cases hd : outcome.decoded with
  | error message => exact ⟨_, by simp [forwardResume, awaitRtcNode_run, hd], .rejected hd⟩
  | ok v => exact ⟨_, by simp [forwardResume, awaitRtcNode_run, hd], .forwarded hp hd⟩

theorem rtcCallStartResume_resumed (h : Nat) (callId : String) (outcome : InvokeOutcome) (now : Int) (s : State) :
    ∃ s', rtcCallStartResume h callId outcome now s = .ok () s' ∧
      Resumed h outcome now s (.start callId) s' := by
  unfold rtcCallStartResume
  cases hd : outcome.decoded with
  | error message => exact ⟨_, by simp [awaitRtcNode_run, hd], .rejected hd⟩
  | ok v =>
    rcases CallOrchestrator.exec_outcome (settlement callId v) now s.orchestrator with
      ⟨message, he⟩ | ⟨o, ho, _⟩
    · refine ⟨_, ?_, .late hd he⟩
      by_cases hv : v.truthy = true
      · have he' : CallOrchestrator.handleAnswer callId (v.get? "answerSdp") s.orchestrator =
            .error message s.orchestrator := by
          simpa [settlement, hv, Op.exec] using he
        simp [awaitRtcNode_run, hd, hv, he']
      · have he' : CallOrchestrator.setError callId (errDetail v) now s.orchestrator =
            .error message s.orchestrator := by
          simpa [settlement, hv, Op.exec] using he
        simp [awaitRtcNode_run, hd, hv, he']
    · refine ⟨_, ?_, .settled hd ho⟩
      by_cases hv : v.truthy = true
      · have ho' : CallOrchestrator.handleAnswer callId (v.get? "answerSdp") s.orchestrator = .ok () o := by
          simpa [settlement, hv, Op.exec] using ho
        simp [awaitRtcNode_run, hd, hv, ho', reply]
      · have ho' : CallOrchestrator.setError callId (errDetail v) now s.orchestrator = .ok () o := by
          simpa [settlement, hv, Op.exec] using ho
        simp [awaitRtcNode_run, hd, hv, ho', reply]

/-- **Everything a resumed handler can do**, whatever the node answered. -/
theorem resume_resumed (h : Nat) (point : Await) (outcome : InvokeOutcome) (now : Int) (s : State) :
    ∃ s', resume h point outcome now s = .ok () s' ∧ Resumed h outcome now s point s' := by
  unfold resume
  cases point with
  | start callId => exact rtcCallStartResume_resumed h callId outcome now s
  | ice => exact forwardResume_resumed s nofun
  | hangup => exact forwardResume_resumed s nofun

/-! ### Shutdown -/

theorem stopCalls_cons_run (now : String → Int) (c : RtcCallRecord) (rest : List RtcCallRecord)
    (o : CallOrchestrator) :
    stopCalls now (c :: rest) o =
      if c.live = true then
        match CallOrchestrator.hangup c.callId "gateway-shutdown" (now c.callId) o with
        | .ok _ o' => stopCalls now rest o'
        | .error e o' => .error e o'
      else stopCalls now rest o := by
  have hlive : (c.state ≠ .hangupUser ∧ c.state ≠ .hangupNode ∧ c.state ≠ .timeout ∧ c.state ≠ .error) ↔
      c.live = true := by
    unfold RtcCallRecord.live
    cases c.state <;> decide
  simp only [stopCalls, hlive, Throwing.bind_run, Throwing.ite_run]
  by_cases hl : c.live = true
  · simp only [if_pos hl]
    cases CallOrchestrator.hangup c.callId "gateway-shutdown" (now c.callId) o <;> rfl
  · simp only [if_neg hl]

end RtcPlugin.Plugin
