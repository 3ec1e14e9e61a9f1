import RtcPlugin.Plugin.Runs

/-! Shutdown drains every call.

After the service's `stop` every call has ended and only a new start could make
another. A start that waits for the node then finds its call ended, whatever the
node answers: `handleAnswer` throws, `setError` changes nothing, and either way the
handler responds with an error. The orchestrator may also be called by others
than the handlers, so that every state its methods can reach is covered. -/
namespace RtcPlugin.Plugin

open CallOrchestrator (Op)

/-- The plugin, where the orchestrator's methods are also called from elsewhere. -/
def shared (config : WebRtcConfig) : System World (Label ⊕ CallOrchestrator.Event) where
  init := (system config).init
  step := fun w l w' => match l with
    | .inl l => Step config w l w'
    | .inr e => ∃ o, CallOrchestrator.Step w.state.orchestrator e o ∧ w' = {w with state.orchestrator := o}

/-- No call is started. -/
def Startless : Label ⊕ CallOrchestrator.Event → Prop
  | .inl (.request req) => req.method ≠ .start
  | .inl _ => True
  | .inr e => e.op.isStart = false

theorem steps_shared {config : WebRtcConfig} {w w' : World} {ls : List Label} (h : (system config).Steps w ls w') :
    (shared config).Steps w (ls.map .inl) w' := by
  induction h with
  | nil => exact .nil
  | snoc _ hl ih =>
    rw [List.map_append]
    exact ih.snoc hl

theorem run_shared {config : WebRtcConfig} {w : World} {ls : List Label} (h : (system config).Run ls w) :
    (shared config).Run (ls.map .inl) w :=
  let ⟨w₀, h₀, hs⟩ := h
  ⟨w₀, h₀, steps_shared hs⟩

theorem shared_refines {config : WebRtcConfig} {w : World} {ls : List (Label ⊕ CallOrchestrator.Event)}
    (h : (shared config).Run ls w) :
    ∃ history, (CallOrchestrator.system (options config)).Run history w.state.orchestrator := by
  refine h.invariant (I := fun _ w => ∃ history,
      (CallOrchestrator.system (options config)).Run history w.state.orchestrator)
    (fun w hw => ?_) fun ls w l w' _ ih hs => ?_
  · subst hw
    exact ⟨[], .nil rfl⟩
  · obtain ⟨history, ih⟩ := ih
    cases l with
    | inl l =>
      obtain ⟨es, hes, _⟩ := Step.refines hs
      exact ⟨_, ih.append hes⟩
    | inr e =>
      obtain ⟨o, ho, rfl⟩ := hs
      exact ⟨_, ih.snoc ho⟩

theorem shared_served {config : WebRtcConfig} {w : World} {ls : List (Label ⊕ CallOrchestrator.Event)}
    (h : (shared config).Run ls w) : Served w := by
  refine h.invariant (I := fun _ w => Served w) (fun w hw => ?_) fun ls w l w' _ hI hs => ?_
  · exact @run_served config w [] (.nil hw)
  · cases l with
    | inl l => exact step_served hI hs
    | inr e =>
      obtain ⟨o, _, rfl⟩ := hs
      exact ⟨hI.future, hI.waiting, hI.finished⟩

/-! ### Ended calls -/

/-- Every call has ended. -/
def AllEnded (o : CallOrchestrator) : Prop := ∀ id c, o.getCall id = some c → c.state.terminal = true

theorem AllEnded.activeCalls {o : CallOrchestrator} (h : AllEnded o) : o.activeCalls = 0 := by
  refine List.countP_eq_zero.mpr fun c hc hl => ?_
  obtain ⟨id, hid⟩ := KeyMap.mem_values.mp hc
  exact live_not_terminal hl (h id c hid)

/-- Without a start no method makes a live call. -/
theorem Does.allEnded {now : Int} {o o' : CallOrchestrator} {op : Op} (h : CallOrchestrator.Does now o op o')
    (hop : op.isStart = false) (hend : AllEnded o) : AllEnded o' := by
  intro id c hc
  cases h with
  | nothing => exact hend id c hc
  | started he =>
    subst he
    cases hop
  | @changed c₀ f hc₀ hrec =>
    by_cases hid : id = op.callId
    · subst hid
      obtain rfl : f c₀ = c := Option.some.inj ((getCall_modifyCall hc₀ f).symm.trans hc)
      by_contra hlive
      have hl : (f c₀).live = true := by simpa [RtcCallRecord.live] using hlive
      exact live_not_terminal (hrec.keeps.2.2 hl) (hend op.callId c₀ hc₀)
    · exact hend id c (((CallOrchestrator.Does.changed hc₀ hrec).other hid).symm.trans hc)

theorem stop_allEnded {w : World} {history : List CallOrchestrator.Event} {options : OrchestratorOptions}
    (hrun : (CallOrchestrator.system options).Run history w.state.orchestrator) (now : String → Int) (id : String) :
    (w.stop now).state.orchestrator.getCall id = (w.state.orchestrator.getCall id).map (shutDown now) := by
  obtain ⟨o, ho, hget⟩ := stop_run now (CallOrchestrator.run_admitted hrun).keyed
  have hstop : (w.stop now).state.orchestrator = o := by
    rw [World.stop, ho]
    rfl
  rw [hstop, hget]

/-- An answer needs a call that is initiating. -/
theorem RecordStep.initiating {now : Int} {c c' : RtcCallRecord} {id : String} {answerSdp : Option Json}
    (h : CallOrchestrator.RecordStep now c (.handleAnswer id answerSdp) c') : c.state = .initiating := by
  cases h with
  | answered hs => exact hs
  | ended _ _ hop => rcases hop with hop | hop | hop <;> cases hop

/-- A start that waited for its node while everything ended responds with an error. -/
theorem Resumed.drained {h : Nat} {outcome : InvokeOutcome} {now : Int} {s s' : State} {callId : String}
    (hres : Resumed h outcome now s (.start callId) s') (hend : AllEnded s.orchestrator) :
    AllEnded s'.orchestrator ∧ ∃ message, s'.log = s.log ++ [.respond h false (.error message)] := by
  cases hres with
  | @rejected _ message => exact ⟨hend, message, rfl⟩
  | forwarded hp => exact absurd rfl (hp callId)
  | @late _ _ message => exact ⟨hend, message, rfl⟩
  | @settled _ v o _ hex =>
    have hdoes := CallOrchestrator.exec_does hex
    by_cases hv : v.truthy = true
    · rw [settlement, if_pos hv] at hdoes
      cases hdoes with
      | nothing hi => cases hi
      | started he => cases he
      | changed hc hrec =>
        have ht := hend callId _ hc
        rw [RecordStep.initiating hrec] at ht
        cases ht
    · rw [settlement, if_neg hv] at hdoes
      refine ⟨Does.allEnded hdoes rfl hend, errDetail v, ?_⟩
      rw [reply, if_neg hv]
      rfl

theorem step_allEnded {config : WebRtcConfig} {w w' : World} {l : Label ⊕ CallOrchestrator.Event}
    {ls : List (Label ⊕ CallOrchestrator.Event)} (hrun : (shared config).Run ls w)
    (hs : (shared config).step w l w') (hl : Startless l) (hend : AllEnded w.state.orchestrator) :
    AllEnded w'.state.orchestrator := by
  cases l with
  | inr e =>
    obtain ⟨o, ho, rfl⟩ := hs
    obtain ⟨_, ⟨_, hdoes⟩ | ⟨_, rfl⟩⟩ := ho.does
    · exact Does.allEnded hdoes hl hend
    · exact hend
  | inl l =>
    rcases Step.cases hs with ⟨req, waiting, s, rfl, _, _, hreq, rfl⟩ |
      ⟨id, point, invoked, outcome, now, s, rfl, _, _, hres, rfl⟩ | ⟨now, rfl, rfl⟩
    · cases hreq with
      | declined | reported => exact hend
      | started hm => exact absurd hm hl
      | told hf _ hex | untold hf _ hex =>
        exact Does.allEnded (CallOrchestrator.exec_does hex) (by cases hf <;> rfl) hend
    · cases point with
      | start callId => exact (hres.drained hend).1
      | ice | hangup =>
        cases hres with
        | rejected | forwarded => exact hend
    · obtain ⟨_, hh⟩ := shared_refines hrun
      intro id c hc
      rw [stop_allEnded hh] at hc
      obtain ⟨c₀, _, rfl⟩ := Option.map_eq_some_iff.mp hc
      exact shutDown_terminal now c₀

/-! ### Waiting starts -/

/-- Nobody but the handler itself responds for it or ends its wait. -/
theorem Step.apart {config : WebRtcConfig} {w w' : World} {l : Label} (hs : Step config w l w') {h : Nat}
    (hh : h < w.served) (hl : ∀ outcome now, l ≠ .resume h outcome now) :
    w'.pending.get? h = w.pending.get? h ∧ responses h w'.state.log = responses h w.state.log := by
  rcases hs.cases with ⟨req, waiting, s, rfl, _, _, hreq, rfl⟩ |
    ⟨id, point, invoked, outcome, now, s, rfl, _, _, hres, rfl⟩ | ⟨now, rfl, rfl⟩
  · obtain ⟨es, hlog, hes⟩ := hreq.responds
    have hne : h ≠ w.served := Nat.ne_of_lt hh
    have hquiet : responses h es = [] := List.length_eq_zero_iff.mp (by rw [hes, if_neg (fun hp => hne hp.1)])
    refine ⟨?_, by rw [hlog, responses_append, hquiet, List.append_nil]⟩
    cases waiting with
    | none => rfl
    | some waiting => exact KeyMap.get?_set_ne _ _ hne
  · obtain ⟨es, hlog, hes⟩ := hres.responds
    have hne : h ≠ id := fun he => hl outcome now (by rw [he])
    have hquiet : responses h es = [] := List.length_eq_zero_iff.mp (by rw [hes, if_neg hne])
    exact ⟨KeyMap.get?_delete_ne _ hne, by rw [hlog, responses_append, hquiet, List.append_nil]⟩
  · exact ⟨rfl, by rw [show (w.stop now).state.log = w.state.log from stop_log now w.state]⟩

/-- A start either still waits or has responded once, with an error. -/
def Drained (h : Nat) (callId : String) (invoked : Bool) (w : World) : Prop :=
  h < w.served ∧ (w.pending.get? h = some ⟨.start callId, invoked⟩ ∧ responses h w.state.log = [] ∨
    w.pending.get? h = none ∧ ∃ message, responses h w.state.log = [(false, .error message)])

theorem step_drained {config : WebRtcConfig} {w w' : World} {l : Label ⊕ CallOrchestrator.Event} {h : Nat}
    {callId : String} {invoked : Bool} (hs : (shared config).step w l w') (hend : AllEnded w.state.orchestrator)
    (hd : Drained h callId invoked w) : Drained h callId invoked w' := by
  obtain ⟨hlt, hd⟩ := hd
  cases l with
  | inr e =>
    obtain ⟨o, _, rfl⟩ := hs
    exact ⟨hlt, hd⟩
  | inl l =>
    refine ⟨Nat.lt_of_lt_of_le hlt (Step.served_le hs), ?_⟩
    by_cases hl : ∃ outcome now, l = .resume h outcome now
    · obtain ⟨outcome, now, rfl⟩ := hl
      obtain ⟨point, invoked', s, hp, _, hres, rfl⟩ := Step.resumed hs
      rcases hd with ⟨hp', hnone⟩ | ⟨hp', _⟩
      · rw [hp'] at hp
        cases hp
        obtain ⟨_, message, hlog⟩ := hres.drained hend
        refine .inr ⟨KeyMap.get?_delete_self .., message, ?_⟩
        rw [hlog, responses_append, hnone, responses_respond, if_pos rfl]
        rfl
      · rw [hp'] at hp
        cases hp
    · obtain ⟨hp, hr⟩ := Step.apart hs hlt fun outcome now he => hl ⟨outcome, now, he⟩
      rw [hp, hr]
      exact hd

/-- **Shutdown drains every call for good.** After `stop` every call has ended, the
ones that had ended before unchanged; and as long as no new start arrives no call
becomes active, and every start that waited responds with an error when its wait
ends. -/
theorem stop_drains {config : WebRtcConfig} {ls : List (Label ⊕ CallOrchestrator.Event)} {w : World}
    (hrun : (shared config).Run ls w) (now : String → Int) :
    (∀ id c, (w.stop now).state.orchestrator.getCall id = some c → c.state.terminal = true) ∧
    (∀ id c, w.state.orchestrator.getCall id = some c →
      ((w.stop now).state.orchestrator.getCall id).isSome = true ∧
      (c.state.terminal = true → (w.stop now).state.orchestrator.getCall id = some c)) ∧
    ∀ ls' w', (shared config).Steps (w.stop now) ls' w' → (∀ l ∈ ls', Startless l) →
      w'.state.orchestrator.activeCalls = 0 ∧
      ∀ h callId invoked, w.pending.get? h = some ⟨.start callId, invoked⟩ →
        w'.pending.get? h = some ⟨.start callId, invoked⟩ ∧ responses h w'.state.log = [] ∨
        w'.pending.get? h = none ∧ ∃ message, responses h w'.state.log = [(false, .error message)] := by
  obtain ⟨_, hh⟩ := shared_refines hrun
  have hget := stop_allEnded hh now
  have hended : AllEnded (w.stop now).state.orchestrator := by
    intro id c hc
    rw [hget] at hc
    obtain ⟨c₀, _, rfl⟩ := Option.map_eq_some_iff.mp hc
    exact shutDown_terminal now c₀
  refine ⟨hended, fun id c hc => ?_, fun ls' w' hs hls => ?_⟩
  · rw [hget, hc, Option.map_some]
    refine ⟨rfl, fun ht => ?_⟩
    rw [shutDown, if_neg fun hl => live_not_terminal hl ht]
  · have hstopped : (shared config).Run (ls ++ [.inl (.stop now)]) (w.stop now) := hrun.snoc .stop
    have hafter : AllEnded w'.state.orchestrator ∧ ∀ h callId invoked,
        w.pending.get? h = some ⟨.start callId, invoked⟩ → Drained h callId invoked w' := by
      induction hs with
      | nil =>
        refine ⟨hended, fun h callId invoked hp => ?_⟩
        have hI := shared_served hrun
        have hlt : h < w.served := by
          refine Nat.lt_of_not_le fun hle => ?_
          rw [(hI.future h hle).1] at hp
          cases hp
        have hlog : (w.stop now).state.log = w.state.log := stop_log now w.state
        exact ⟨hlt, .inl ⟨hp, by rw [hlog]; exact hI.waiting h (by rw [hp]; rfl)⟩⟩
      | @snoc ls' l t u hs hl ih =>
        obtain ⟨hend, hd⟩ := ih fun l hl => hls l (List.mem_append_left _ hl)
        have hlast := hls l (List.mem_append_right _ (List.mem_singleton_self l))
        exact ⟨step_allEnded (hstopped.append hs) hl hlast hend,
          fun h callId invoked hp => step_drained hl hend (hd h callId invoked hp)⟩
    exact ⟨hafter.1.activeCalls, fun h callId invoked hp => (hafter.2 h callId invoked hp).2⟩

/-- The node answers a start after the shutdown. -/
theorem stop_drains_answer :
    ∃ message, responses 0 ((demoWaiting.stop fun _ => 1).resume 0 (.start demoCall) demoAnswer 2).state.log =
      [(false, .error message)] := by
  have hrun := run_shared ((System.Run.nil (M := system demoConfig) rfl).snoc demoWaiting_step)
  have hp : demoWaiting.pending.get? 0 = some ⟨.start demoCall, true⟩ := rfl
  have hanswer : (shared demoConfig).Steps (demoWaiting.stop fun _ => 1) [.inl (.resume 0 demoAnswer 2)]
      ((demoWaiting.stop fun _ => 1).resume 0 (.start demoCall) demoAnswer 2) :=
    .single (@Step.resume demoConfig (demoWaiting.stop fun _ => 1) 0 ⟨.start demoCall, true⟩ demoAnswer 2 hp
      (iff_of_true rfl nofun))
  have hdrained := (stop_drains hrun fun _ => 1).2.2 _ _ hanswer (by simp [Startless])
  rcases hdrained.2 0 demoCall true hp with ⟨hwaits, _⟩ | ⟨_, hresponse⟩
  · cases hwaits
  · exact hresponse

end RtcPlugin.Plugin
