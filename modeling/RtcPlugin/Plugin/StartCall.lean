import RtcPlugin.Plugin.Runs

/-! The outcome of a start.

A start creates its call before it waits for the node and has to undo that when
the node fails. It does so when the node's result is falsy, but not when the
wait itself is rejected: then the browser is told of a failure and the call
stays initiating. -/
namespace RtcPlugin.Plugin

open CallOrchestrator (Op)

/-- The start of `callId` succeeded: its call went from initiating to connecting,
and the string the node answered is in the response and in the record. -/
def Connected (h : Nat) (callId : String) (outcome : InvokeOutcome) (w w' : World) : Prop :=
  ∃ c c' v sdp candidates iceServers, w.state.orchestrator.getCall callId = some c ∧ c.state = .initiating ∧
    w'.state.orchestrator.getCall callId = some c' ∧ c'.state = .connecting ∧
    outcome.decoded = .ok v ∧ v.get? "answerSdp" = some (.str sdp) ∧ c'.answerSdp = some (.str sdp) ∧
    responses h w'.state.log = [(true, .started callId (some (.str sdp)) candidates iceServers)]

/-- The start of `callId` failed and leaves an ended call. -/
def Refused (h : Nat) (callId : String) (w' : World) : Prop :=
  ∃ c' message, w'.state.orchestrator.getCall callId = some c' ∧ c'.state.terminal = true ∧
    responses h w'.state.log = [(false, .error message)]

/-- The wait was not rejected and what the node returned, if anything, carries an
answer, or else the call has already ended. -/
def Handled (outcome : InvokeOutcome) (c : RtcCallRecord) : Prop :=
  match outcome.decoded with
  | .error _ => c.state.terminal = true
  | .ok v => v.truthy = true → c.state.terminal = true ∨ ∃ sdp, v.get? "answerSdp" = some (.str sdp)

theorem Requested.declined_of_start {h : Nat} {req : Request} {s s' : State}
    (hreq : Requested h req s none s') (hm : req.method = .start) :
    ∃ message, s' = s.emit [.respond h false (.error message)] := by
  cases hreq with
  | declined message => exact ⟨message, rfl⟩
  | reported _ hm' =>
    rw [hm] at hm'
    cases hm'
  | untold hf _ _ => cases hf with
    | candidate hm' | hangup hm' =>
      rw [hm] at hm'
      cases hm'

theorem Requested.point_of_start {h : Nat} {req : Request} {s s' : State} {waiting : Waiting}
    (hreq : Requested h req s (some waiting) s') (hm : req.method = .start) :
    waiting.point = .start req.uuid := by
  cases hreq with
  | started => rfl
  | told hf _ _ => cases hf with
    | candidate hm' | hangup hm' =>
      rw [hm] at hm'
      cases hm'

section Resume
variable {h : Nat} {callId : String} {outcome : InvokeOutcome} {now : Int} {w : World} {s' : State}

/-- A rejected wait is reported, and the call is left as it is. -/
theorem resume_rejected {message : String} (hd : outcome.decoded = .error message)
    (hres : Resumed h outcome now w.state (.start callId) s') :
    s' = w.state.emit [.respond h false (.error message)] := by
  cases hres with
  | rejected hd' =>
    rw [hd] at hd'
    cases hd'
    rfl
  | forwarded hp _ => exact absurd rfl (hp callId)
  | settled hd' _ | late hd' _ =>
    rw [hd] at hd'
    cases hd'

/-- What a resumed start does once the node's result is there. -/
theorem resume_settled {v : Json} (hd : outcome.decoded = .ok v)
    (hres : Resumed h outcome now w.state (.start callId) s') :
    (∃ o, (settlement callId v).exec now w.state.orchestrator = .ok () o ∧
      s' = State.emit {w.state with orchestrator := o} [reply h callId v o.options.iceServers]) ∨
    ∃ message, (settlement callId v).exec now w.state.orchestrator = .error message w.state.orchestrator ∧
      s' = w.state.emit [.respond h false (.error message)] := by
  cases hres with
  | rejected hd' =>
    rw [hd] at hd'
    cases hd'
  | forwarded hp _ => exact absurd rfl (hp callId)
  | settled hd' hex =>
    rw [hd] at hd'
    cases hd'
    exact .inl ⟨_, hex, rfl⟩
  | late hd' hex =>
    rw [hd] at hd'
    cases hd'
    exact .inr ⟨_, hex, rfl⟩

end Resume

section Contract
variable {h : Nat} {callId : String} {outcome : InvokeOutcome} {w w' : World} {c : RtcCallRecord}

theorem responses_emit {s : State} {o : CallOrchestrator} (hlog : responses h s.log = []) (ok : Bool)
    (payload : Reply) :
    responses h (State.emit {s with orchestrator := o} [.respond h ok payload]).log = [(ok, payload)] := by
  show responses h (s.log ++ _) = _
  rw [responses_append, hlog, responses_respond, if_pos rfl, List.nil_append]

theorem contract_rejected {message : String} (hlog : responses h w.state.log = [])
    (hc : w.state.orchestrator.getCall callId = some c)
    (hs : w'.state = w.state.emit [.respond h false (.error message)]) :
    (Connected h callId outcome w w' ∨ Refused h callId w') ↔ c.state.terminal = true := by
  have hresp : responses h w'.state.log = [(false, .error message)] := hs ▸ responses_emit hlog _ _
  constructor
  · rintro (⟨_, _, _, _, _, _, _, _, _, _, _, _, _, hr⟩ | ⟨c', _, hc', ht, _⟩)
    · rw [hresp] at hr
      cases hr
    · rw [hs] at hc'
      obtain rfl := Option.some.inj (hc.symm.trans hc')
      exact ht
  · intro ht
    exact .inr ⟨c, message, by rw [hs]; exact hc, ht, hresp⟩

/-- With an answer for a call still initiating, all hangs on the answer. -/
theorem contract_answered {v : Json} {o : CallOrchestrator} (hlog : responses h w.state.log = [])
    (hd : outcome.decoded = .ok v) (hv : v.truthy = true) (hc : w.state.orchestrator.getCall callId = some c)
    (hinit : c.state = .initiating)
    (ho : o = w.state.orchestrator.modifyCall callId fun c =>
      {c with answerSdp := v.get? "answerSdp", state := .connecting})
    (hs : w'.state = State.emit {w.state with orchestrator := o} [reply h callId v o.options.iceServers]) :
    (Connected h callId outcome w w' ∨ Refused h callId w') ↔ ∃ sdp, v.get? "answerSdp" = some (.str sdp) := by
  have hreply : reply h callId v o.options.iceServers = .respond h true (.started callId (v.get? "answerSdp")
      (nullish (v.get? "candidates") (.arr [])) o.options.iceServers) := if_pos hv
  have hresp : responses h w'.state.log = [(true, .started callId (v.get? "answerSdp")
      (nullish (v.get? "candidates") (.arr [])) o.options.iceServers)] := by
    rw [hs, hreply]
    exact responses_emit hlog _ _
  have hc' : w'.state.orchestrator.getCall callId =
      some {c with answerSdp := v.get? "answerSdp", state := .connecting} := by
    rw [hs, ho]
    exact getCall_modifyCall hc _
  constructor
  · rintro (⟨_, _, v', sdp, _, _, _, _, _, _, hd', hsdp, _, _⟩ | ⟨_, _, _, _, hr⟩)
    · rw [hd] at hd'
      cases hd'
      exact ⟨sdp, hsdp⟩
    · rw [hresp] at hr
      cases hr
  · rintro ⟨sdp, hsdp⟩
    rw [hsdp] at hresp hc'
    exact .inl ⟨c, _, v, sdp, _, _, hc, hinit, hc', rfl, hd, hsdp, rfl, hresp⟩

/-- A resumed start meets its contract exactly when its outcome was handled. -/
theorem resume_contract {now : Int} (hlog : responses h w.state.log = [])
    (hc : w.state.orchestrator.getCall callId = some c) (hun : Unanswered c)
    (hres : Resumed h outcome now w.state (.start callId) w'.state) :
    (Connected h callId outcome w w' ∨ Refused h callId w') ↔ Handled outcome c := by
  unfold Handled
  cases hd : outcome.decoded with
  | error message => exact contract_rejected hlog hc (resume_rejected hd hres)
  | ok v =>
    have hset := resume_settled hd hres
    by_cases hv : v.truthy = true
    · have hop : settlement callId v = .handleAnswer callId (v.get? "answerSdp") := if_pos hv
      have hrun := CallOrchestrator.handleAnswer_run w.state.orchestrator callId (v.get? "answerSdp")
      rw [show w.state.orchestrator.calls.get? callId = some c from hc] at hrun
      simp only [hop, Op.exec, hrun] at hset
      rcases hun with hinit | ht
      · have hnot : ¬ c.state.terminal = true := by rw [hinit]; decide
        simp only [hinit, if_true, EStateM.Result.ok.injEq, true_and, exists_eq_left', reduceCtorEq, false_and,
          exists_false, or_false] at hset
        simp only [hnot, hv, Bool.false_eq_true, false_or, forall_const]
        exact contract_answered hlog hd hv hc hinit rfl hset
      · have hne : c.state ≠ .initiating := fun he => by
          rw [he] at ht
          cases ht
        simp only [hne, if_false] at hset
        rcases hset with ⟨_, hok, _⟩ | ⟨message, _, hs⟩
        · cases hok
        · exact iff_of_true ((contract_rejected hlog hc hs).mpr ht) fun _ => .inl ht
    · have hop : settlement callId v = .setError callId (errDetail v) := if_neg hv
      have hreply (servers : List IceServer) : reply h callId v servers = .respond h false (.error (errDetail v)) :=
        if_neg hv
      obtain ⟨o, hex, c', hc', ht⟩ := endCall_ends hc (show RtcCallState.error.terminal = true from rfl) (errDetail v) now
      have hex' : (Op.setError callId (errDetail v)).exec now w.state.orchestrator = .ok () o := hex
      simp only [hop, hex', hreply] at hset
      rcases hset with ⟨o', ho', hs⟩ | ⟨_, herr, _⟩
      · cases ho'
        refine iff_of_true (.inr ⟨c', errDetail v, ?_, ht, ?_⟩) fun h => absurd h hv
        · rw [hs]
          exact hc'
        · rw [hs]
          exact responses_emit hlog _ _
      · cases herr

end Contract

/-- **The outcome of a start.** A start that is refused at once creates nothing;
one that waits meets its contract, whatever ran meanwhile, exactly when its
outcome was handled; and either way there is one response, when it finishes. -/
theorem start_contract {config : WebRtcConfig} {ls : List Label} {w₀ w₁ : World} {req : Request}
    (hrun : (system config).Run ls w₀) (hreq : Step config w₀ (.request req) w₁) (hm : req.method = .start) :
    (w₁.pending.get? w₀.served = none →
      (∃ message, responses w₀.served w₁.state.log = [(false, .error message)]) ∧
        w₁.state.orchestrator = w₀.state.orchestrator) ∧
    (∀ waiting, w₁.pending.get? w₀.served = some waiting →
      waiting.point = .start req.uuid ∧
        (∃ c, w₁.state.orchestrator.getCall req.uuid = some c ∧ c.state = .initiating) ∧
        ∀ ls' w₂ outcome now w₃, (system config).Steps w₁ ls' w₂ →
          Step config w₂ (.resume w₀.served outcome now) w₃ →
          ∃ c, w₂.state.orchestrator.getCall req.uuid = some c ∧
            ((Connected w₀.served req.uuid outcome w₂ w₃ ∨ Refused w₀.served req.uuid w₃) ↔ Handled outcome c)) ∧
    ∀ ls' w, (system config).Steps w₁ ls' w →
      (responses w₀.served w.state.log).length = if (w.pending.get? w₀.served).isSome then 0 else 1 := by
  have hrun₁ : (system config).Run (ls ++ [.request req]) w₁ := hrun.snoc hreq
  have hlog₀ := ((run_served hrun).future w₀.served (Nat.le_refl _)).2
  obtain ⟨waiting₀, s, _, _, hdone, hw₁⟩ := hreq.requested
  have hlt : w₀.served < w₁.served := by
    rw [hw₁]
    exact Nat.lt_succ_self _
  have hwaiting : w₁.pending.get? w₀.served = waiting₀ := by
    rw [hw₁]
    cases waiting₀ with
    | none => exact ((run_served hrun).future w₀.served (Nat.le_refl _)).1
    | some _ => exact KeyMap.get?_set_self ..
  refine ⟨fun hnone => ?_, fun waiting hsome => ?_, fun ls' w hs => ?_⟩
  · rw [hwaiting] at hnone
    subst hnone
    obtain ⟨message, rfl⟩ := hdone.declined_of_start hm
    rw [hw₁]
    exact ⟨⟨message, responses_emit hlog₀ _ _⟩, rfl⟩
  · rw [hwaiting] at hsome
    subst hsome
    have hpoint := hdone.point_of_start hm
    have hnew := (hdone.waits hpoint).2
    refine ⟨hpoint, by rw [hw₁]; exact hnew, fun ls' w₂ outcome now w₃ hs hstep => ?_⟩
    have hrun₂ := hrun₁.append hs
    obtain ⟨point, invoked, s₃, hp, _, hres, hw₃⟩ := hstep.resumed
    -- the handler still waits where its request left it
    obtain rfl := Option.some.inj (hwaiting.symm.trans (steps_waiting hs hlt hp))
    obtain rfl : point = .start req.uuid := hpoint
    obtain ⟨c, hc, hun⟩ := (run_holding hrun₂).own _ _ _ hp
    obtain rfl : s₃ = w₃.state := by rw [hw₃]
    exact ⟨c, hc, resume_contract ((run_served hrun₂).waiting _ (by rw [hp]; rfl)) hc hun hres⟩
  · have hI := run_served (hrun₁.append hs)
    cases hp : w.pending.get? w₀.served with
    | none => exact hI.finished _ (Nat.lt_of_lt_of_le hlt (steps_served_le hs)) hp
    | some waiting => exact List.length_eq_zero_iff.mpr (hI.waiting _ (by rw [hp]; rfl))

/-- The invoke of a start is rejected: the browser hears of it, the call stays. -/
theorem start_rejected_leaves_call :
    ¬ ∀ config ls w₀ req w₁ ls' w₂ outcome now w₃, (system config).Run ls w₀ →
      Step config w₀ (.request req) w₁ → req.method = .start → (system config).Steps w₁ ls' w₂ →
      Step config w₂ (.resume w₀.served outcome now) w₃ →
      Connected w₀.served req.uuid outcome w₂ w₃ ∨ Refused w₀.served req.uuid w₃ := by
  intro hall
  rcases hall demoConfig [] (World.new demoConfig) demoStart _ [] _ _ _ _ (.nil rfl) demoWaiting_step rfl
    .nil (demoWaiting_resume (.rejected "node disconnected") nofun 1) with
    ⟨_, _, _, _, _, _, _, _, _, _, hd, _⟩ | ⟨c', _, hc', ht, _⟩
  · cases hd
  · have hstill : (demoWaiting.resume 0 (.start demoCall) (.rejected "node disconnected") 1).state.orchestrator.getCall
        demoCall = some (CallOrchestrator.newCall ⟨"offer", "s1"⟩ demoCall 0) := rfl
    obtain rfl := Option.some.inj (hstill.symm.trans hc')
    cases ht

theorem start_contract_answered :
    ∃ c, demoWaiting.state.orchestrator.getCall demoCall = some c ∧
      ((Connected 0 demoCall demoAnswer demoWaiting (demoWaiting.resume 0 (.start demoCall) demoAnswer 1) ∨
          Refused 0 demoCall (demoWaiting.resume 0 (.start demoCall) demoAnswer 1)) ↔ Handled demoAnswer c) :=
  ((start_contract (.nil rfl) demoWaiting_step rfl).2.1 ⟨.start demoCall, true⟩ rfl).2.2 [] _ _ 1 _ .nil
    (demoWaiting_resume demoAnswer nofun 1)

end RtcPlugin.Plugin
