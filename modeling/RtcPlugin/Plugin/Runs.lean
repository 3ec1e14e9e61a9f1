import RtcPlugin.Plugin.Segments
import RtcPlugin.Plugin.Lifecycle

/-! Runs of the plugin.

A run of the plugin is a run of its orchestrator (`run_refines`), so everything
proved about runs of the orchestrator holds of the calls of the plugin. Every
request is answered exactly once (`run_served`), and a start that waits holds
its own call, which nobody else moves but to its end. -/
namespace RtcPlugin.Plugin

open CallOrchestrator (Op)

/-- What a handler responded so far. -/
def responses (h : Nat) (log : List Effect) : List (Bool × Reply) :=
  log.filterMap fun
    | .respond h' ok payload => if h' = h then some (ok, payload) else none
    | .invoke .. => none

@[simp] theorem responses_append (h : Nat) (log es : List Effect) :
    responses h (log ++ es) = responses h log ++ responses h es := List.filterMap_append ..

@[simp] theorem responses_invocation (h h' : Nat) (nodes : List NodeSession) (params : InvokeParams)
    (key : String) : responses h (invocation h' nodes params key) = [] := by
  unfold invocation
  cases findRtcNode nodes <;> rfl

@[simp] theorem responses_respond (h h' : Nat) (ok : Bool) (payload : Reply) :
    responses h [.respond h' ok payload] = if h' = h then [(ok, payload)] else [] := by
  by_cases hh : h' = h <;> simp [responses, hh]

/-! ### Steps -/

theorem Step.requested {config : WebRtcConfig} {w w' : World} {req : Request}
    (h : Step config w (.request req) w') :
    ∃ waiting s, req.uuid ≠ "" ∧ w.state.orchestrator.getCall req.uuid = none ∧
      Requested w.served req w.state waiting s ∧ w' = ⟨s, w.served + 1, w.suspend waiting⟩ := by
  obtain ⟨hne, hnew⟩ := h
  obtain ⟨waiting, s, hrun, hreq⟩ := handle_requested config w.served req w.state
  refine ⟨waiting, s, hne, hnew, hreq, ?_⟩
  rw [World.request, hrun]

theorem Step.resumed {config : WebRtcConfig} {w w' : World} {id : Nat} {outcome : InvokeOutcome} {now : Int}
    (h : Step config w (.resume id outcome now) w') :
    ∃ point invoked s, w.pending.get? id = some ⟨point, invoked⟩ ∧ (invoked = true ↔ outcome ≠ .noNode) ∧
      Resumed id outcome now w.state point s ∧ w' = ⟨s, w.served, w.pending.delete id⟩ := by
  cases h with
  | @resume _ waiting _ _ hp hi =>
    obtain ⟨s, hrun, hres⟩ := resume_resumed id waiting.point outcome now w.state
    refine ⟨waiting.point, waiting.invoked, s, hp, hi, hres, ?_⟩
    rw [World.resume, hrun]
    rfl

/-- What a step of the plugin does, segment by segment. -/
theorem Step.cases {config : WebRtcConfig} {w w' : World} {l : Label} (h : Step config w l w') :
    (∃ req waiting s, l = .request req ∧ req.uuid ≠ "" ∧ w.state.orchestrator.getCall req.uuid = none ∧
      Requested w.served req w.state waiting s ∧ w' = ⟨s, w.served + 1, w.suspend waiting⟩) ∨
    (∃ id point invoked outcome now s, l = .resume id outcome now ∧
      w.pending.get? id = some ⟨point, invoked⟩ ∧ (invoked = true ↔ outcome ≠ .noNode) ∧
      Resumed id outcome now w.state point s ∧ w' = ⟨s, w.served, w.pending.delete id⟩) ∨
    ∃ now, l = .stop now ∧ w' = w.stop now := by
  cases l with
  | request req =>
    obtain ⟨waiting, s, h⟩ := h.requested
    exact .inl ⟨req, waiting, s, rfl, h⟩
  | resume id outcome now =>
    obtain ⟨point, invoked, s, h⟩ := h.resumed
    exact .inr (.inl ⟨id, point, invoked, outcome, now, s, rfl, h⟩)
  | stop now =>
    cases h
    exact .inr (.inr ⟨now, rfl, rfl⟩)

/-! ### The plugin refines its orchestrator -/

/-- The options the plugin creates its orchestrator with. -/
def options (config : WebRtcConfig) : OrchestratorOptions := ⟨config.maxConcurrentCalls, config.iceServers⟩

/-- The calls that an operation may move ahead. -/
def Advances (id : String) : Op → Prop
  | .handleAnswer id' _ | .setActive id' => id' = id
  | _ => False

theorem stopCalls_steps {options : OrchestratorOptions} (now : String → Int) (calls : List RtcCallRecord)
    (o : CallOrchestrator) : ∃ es, (CallOrchestrator.system options).Steps o es (match stopCalls now calls o with
      | .ok _ o' | .error _ o' => o') ∧ ∀ e ∈ es, ∀ id, ¬ Advances id e.op := by
  induction calls generalizing o with
  | nil => exact ⟨[], .nil, List.forall_mem_nil _⟩
  | cons c rest ih =>
    rw [stopCalls_cons_run]
    by_cases hl : c.live = true
    · rw [if_pos hl]
      rcases CallOrchestrator.exec_outcome (.hangup c.callId "gateway-shutdown") (now c.callId) o with
        ⟨e, he⟩ | ⟨o', ho, _⟩
      · rw [show CallOrchestrator.hangup .. = _ from he]
        have hstep : CallOrchestrator.Step o ⟨.hangup c.callId "gateway-shutdown", now c.callId, some e⟩ o :=
          .threw trivial he
        refine ⟨_, .single hstep, fun e he id hadv => ?_⟩
        obtain rfl := List.mem_singleton.mp he
        exact hadv
      · obtain ⟨es, hes, hadv⟩ := ih o'
        have hstep : CallOrchestrator.Step o ⟨.hangup c.callId "gateway-shutdown", now c.callId, none⟩ o' :=
          .returned trivial ho
        rw [show CallOrchestrator.hangup .. = _ from ho]
        refine ⟨_, hes.cons hstep, fun e he id ha => ?_⟩
        rcases List.mem_cons.mp he with rfl | he
        · exact ha
        · exact hadv e he id ha
    · rw [if_neg hl]
      exact ih o

/-- Every step of the plugin is a number of method calls on its orchestrator, and
only a start that resumes moves a call ahead: its own. -/
theorem Step.refines {config : WebRtcConfig} {w w' : World} {l : Label} (h : Step config w l w') :
    ∃ es, (CallOrchestrator.system (options config)).Steps w.state.orchestrator es w'.state.orchestrator ∧
      ∀ e ∈ es, ∀ id, Advances id e.op → ∃ h outcome now invoked, l = .resume h outcome now ∧
        w.pending.get? h = some ⟨.start id, invoked⟩ := by
  have hone {op : Op} {now : Int} {o o' : CallOrchestrator} {P : String → Prop}
      (hf : CallOrchestrator.Fresh o op) (hex : op.exec now o = .ok () o') (hP : ∀ id, Advances id op → P id) :
      ∃ es, (CallOrchestrator.system (options config)).Steps o es o' ∧ ∀ e ∈ es, ∀ id, Advances id e.op → P id := by
    refine ⟨[⟨op, now, none⟩], .single (.returned hf hex), fun e he id hadv => ?_⟩
    obtain rfl := List.mem_singleton.mp he
    exact hP id hadv
  rcases h.cases with ⟨req, waiting, s, rfl, hne, hnew, hreq, rfl⟩ |
    ⟨h', point, invoked, outcome, now, s, rfl, hp, _, hres, rfl⟩ | ⟨now, rfl, rfl⟩
  · cases hreq with
    | declined | reported => exact ⟨[], .nil, List.forall_mem_nil _⟩
    | @started nodes params _ _ hcap hfree =>
      refine ⟨_, .single (.start req.now ⟨hne, hnew⟩ hcap hfree), fun e he id hadv => ?_⟩
      obtain rfl := List.mem_singleton.mp he
      exact hadv.elim
    | told hf _ hex | untold hf _ hex =>
      exact hone (by cases hf <;> trivial) hex (by cases hf <;> exact fun _ => False.elim)
  · cases hres with
    | rejected | forwarded | late => exact ⟨[], .nil, List.forall_mem_nil _⟩
    | @settled callId v _ _ hex =>
      refine hone (by unfold settlement; split <;> trivial) hex fun id hadv => ?_
      have hid : callId = id := by
        unfold settlement at hadv
        split at hadv
        · exact hadv
        · exact hadv.elim
      exact ⟨h', outcome, now, invoked, rfl, hid ▸ hp⟩
  · obtain ⟨es, hes, hadv⟩ := stopCalls_steps now w.state.orchestrator.getAllCalls
      w.state.orchestrator
    refine ⟨es, ?_, fun e he id ha => absurd ha (hadv e he id)⟩
    show System.Steps _ _ es (finish (Plugin.stop now w.state)).orchestrator
    simp only [Plugin.stop, Throwing.bind_run, Throwing.get_run, orchestrate_run]
    cases hr : stopCalls now w.state.orchestrator.getAllCalls w.state.orchestrator <;> rw [hr] at hes <;> exact hes

theorem steps_refine {config : WebRtcConfig} {w w' : World} {ls : List Label}
    (h : (system config).Steps w ls w') :
    ∃ es, (CallOrchestrator.system (options config)).Steps w.state.orchestrator es w'.state.orchestrator :=
  h.related (R := fun w w' => ∃ es,
      (CallOrchestrator.system (options config)).Steps w.state.orchestrator es w'.state.orchestrator)
    (fun _ => ⟨[], .nil⟩) (fun _ _ _ ⟨_, h₁⟩ ⟨_, h₂⟩ => ⟨_, h₁.append h₂⟩) fun _ _ _ hs =>
      let ⟨es, hes, _⟩ := Step.refines hs
      ⟨es, hes⟩

/-- **A run of the plugin is a run of its orchestrator.** -/
theorem run_refines {config : WebRtcConfig} {w : World} {ls : List Label} (h : (system config).Run ls w) :
    ∃ history, (CallOrchestrator.system (options config)).Run history w.state.orchestrator := by
  obtain ⟨w₀, h₀, hs⟩ := h
  obtain ⟨es, hes⟩ := steps_refine hs
  subst h₀
  exact ⟨es, _, rfl, hes⟩

/-- A call of the plugin only grows older. -/
theorem steps_later {config : WebRtcConfig} {w w' : World} {ls : List Label}
    (h : (system config).Steps w ls w') {id : String} {c : RtcCallRecord}
    (hc : w.state.orchestrator.getCall id = some c) :
    ∃ c', w'.state.orchestrator.getCall id = some c' ∧ CallOrchestrator.Later c c' :=
  let ⟨_, hes⟩ := steps_refine h
  CallOrchestrator.steps_later hes hc

/-! ### Every request is answered once -/

/-- A handler has responded exactly once when it is finished, and not before. -/
structure Served (w : World) : Prop where
  future : ∀ id, w.served ≤ id → w.pending.get? id = none ∧ responses id w.state.log = []
  waiting : ∀ id, (w.pending.get? id).isSome = true → responses id w.state.log = []
  finished : ∀ id, id < w.served → w.pending.get? id = none → (responses id w.state.log).length = 1

/-- The one response of a segment of `h`, as seen by `id`. -/
theorem responded_once (h id : Nat) (ok : Bool) (payload : Reply) :
    (responses id [.respond h ok payload]).length = if id = h then 1 else 0 := by
  rw [responses_respond]
  by_cases hid : h = id
  · simp [hid]
  · simp [hid, Ne.symm hid]

theorem Requested.responds {h : Nat} {req : Request} {s s' : State} {waiting : Option Waiting}
    (hreq : Requested h req s waiting s') :
    ∃ es, s'.log = s.log ++ es ∧ ∀ id, (responses id es).length = if id = h ∧ waiting = none then 1 else 0 := by
  cases hreq with
  | declined | reported | untold => exact ⟨_, rfl, fun id => by rw [responded_once]; simp⟩
  | started | told => exact ⟨_, rfl, fun id => by simp⟩

theorem Resumed.responds {h : Nat} {outcome : InvokeOutcome} {now : Int} {s s' : State} {point : Await}
    (hres : Resumed h outcome now s point s') :
    ∃ es, s'.log = s.log ++ es ∧ ∀ id, (responses id es).length = if id = h then 1 else 0 := by
  cases hres with
  | rejected | forwarded | late => exact ⟨_, rfl, fun id => responded_once ..⟩
  | settled =>
    refine ⟨_, rfl, fun id => ?_⟩
    unfold reply
    split <;> exact responded_once ..

theorem stop_log (now : String → Int) (s : State) : (finish (Plugin.stop now s)).log = s.log := by
  simp only [Plugin.stop, Throwing.bind_run, Throwing.get_run, orchestrate_run]
  cases stopCalls now s.orchestrator.getAllCalls s.orchestrator <;> rfl

theorem step_served {config : WebRtcConfig} {w w' : World} {l : Label} (hI : Served w)
    (h : Step config w l w') : Served w' := by
  have hnew := hI.future w.served (Nat.le_refl _)
  rcases h.cases with ⟨req, waiting, s, rfl, _, _, hreq, rfl⟩ |
    ⟨id₀, point, invoked, outcome, now, s, rfl, hp, _, hres, rfl⟩ | ⟨now, rfl, rfl⟩
  · obtain ⟨es, hlog, hes⟩ := hreq.responds
    have hother (id : Nat) (hid : id ≠ w.served) : responses id s.log = responses id w.state.log := by
      have : responses id es = [] := List.length_eq_zero_iff.mp (by rw [hes, if_neg (fun h => hid h.1)])
      rw [hlog, responses_append, this, List.append_nil]
    have hself : (responses w.served s.log).length = if waiting = none then 1 else 0 := by
      rw [hlog, responses_append, hnew.2, List.nil_append, hes]
      simp
    have hpend (id : Nat) (hid : id ≠ w.served) : (w.suspend waiting).get? id = w.pending.get? id := by
      cases waiting with
      | none => rfl
      | some waiting => exact KeyMap.get?_set_ne _ _ hid
    have hpend₀ : (w.suspend waiting).get? w.served = waiting := by
      cases waiting with
      | none => exact hnew.1
      | some waiting => exact KeyMap.get?_set_self ..
    refine ⟨fun id hid => ?_, fun id hid => ?_, fun id hid hnone => ?_⟩
    · have hne : id ≠ w.served := Nat.ne_of_gt hid
      rw [hpend id hne, hother id hne]
      exact hI.future id (Nat.le_of_succ_le hid)
    · by_cases hid' : id = w.served
      · subst hid'
        rw [hpend₀] at hid
        refine List.length_eq_zero_iff.mp ?_
        rw [hself, if_neg (fun hn => by rw [hn] at hid; cases hid)]
      · rw [hpend id hid'] at hid
        rw [hother id hid']
        exact hI.waiting id hid
    · by_cases hid' : id = w.served
      · subst hid'
        rw [hpend₀] at hnone
        rw [hself, if_pos hnone]
      · rw [hpend id hid'] at hnone
        rw [hother id hid']
        exact hI.finished id (Nat.lt_of_le_of_ne (Nat.le_of_lt_succ hid) hid') hnone
  · obtain ⟨es, hlog, hes⟩ := hres.responds
    have hother (id : Nat) (hid : id ≠ id₀) : responses id s.log = responses id w.state.log := by
      have : responses id es = [] := List.length_eq_zero_iff.mp (by rw [hes, if_neg hid])
      rw [hlog, responses_append, this, List.append_nil]
    have hlt : id₀ < w.served := by
      refine Nat.lt_of_not_le fun hle => ?_
      rw [(hI.future id₀ hle).1] at hp
      cases hp
    refine ⟨fun id hid => ?_, fun id hid => ?_, fun id hid hnone => ?_⟩
    · have hne : id ≠ id₀ := Nat.ne_of_gt (Nat.lt_of_lt_of_le hlt hid)
      rw [hother id hne]
      exact ⟨(KeyMap.get?_delete_ne _ hne).trans (hI.future id hid).1, (hI.future id hid).2⟩
    · by_cases hid' : id = id₀
      · rw [hid', KeyMap.get?_delete_self] at hid
        cases hid
      · rw [KeyMap.get?_delete_ne _ hid'] at hid
        rw [hother id hid']
        exact hI.waiting id hid
    · by_cases hid' : id = id₀
      · rw [hid', hlog, responses_append, hI.waiting id₀ (by rw [hp]; rfl), List.nil_append, hes, if_pos rfl]
      · rw [KeyMap.get?_delete_ne _ hid'] at hnone
        rw [hother id hid']
        exact hI.finished id hid hnone
  · have hlog : (w.stop now).state.log = w.state.log := stop_log now w.state
    exact
      { future := fun id hid => hlog ▸ hI.future id hid
        waiting := fun id hid => hlog ▸ hI.waiting id hid
        finished := fun id hid hnone => hlog ▸ hI.finished id hid hnone }

/-- **Every request is answered exactly once**, when its handler finishes. -/
theorem run_served {config : WebRtcConfig} {w : World} {ls : List Label} (h : (system config).Run ls w) :
    Served w := by
  refine h.invariant (I := fun _ w => Served w) (fun w hw => ?_) fun _ _ _ _ _ hI hs => step_served hI hs
  subst hw
  exact ⟨fun _ _ => ⟨rfl, rfl⟩, fun _ h => (by cases h), fun _ h => absurd h (Nat.not_lt_zero _)⟩

/-! ### A start that waits -/

/-- Not answered: still initiating, or ended before an answer came. -/
def Unanswered (c : RtcCallRecord) : Prop := c.state = .initiating ∨ c.state.terminal = true

theorem RecordStep.unanswered {now : Int} {c c' : RtcCallRecord} {op : Op} {id : String} (hop : op.callId = id)
    (h : CallOrchestrator.RecordStep now c op c') (hadv : ¬ Advances id op) (hc : Unanswered c) :
    Unanswered c' := by
  subst hop
  cases h with
  | answered | activated => exact absurd rfl hadv
  | localCandidate | remoteCandidate | said => exact hc
  | ended _ hst _ => exact .inr hst

theorem steps_unanswered {options : OrchestratorOptions} {o o' : CallOrchestrator}
    {es : List CallOrchestrator.Event} (h : (CallOrchestrator.system options).Steps o es o') {id : String}
    (hadv : ∀ e ∈ es, ¬ Advances id e.op) {c : RtcCallRecord} (hc : o.getCall id = some c) (hun : Unanswered c) :
    ∃ c', o'.getCall id = some c' ∧ Unanswered c' := by
  induction h with
  | nil => exact ⟨c, hc, hun⟩
  | @snoc es e t u hs hstep ih =>
    obtain ⟨c', hc', hun'⟩ := ih fun e he => hadv e (List.mem_append_left _ he)
    have hlast := hadv e (List.mem_append_right _ (List.mem_singleton_self e))
    obtain ⟨hfresh, ⟨_, hdoes⟩ | ⟨_, rfl⟩⟩ := CallOrchestrator.Step.does hstep
    · by_cases hid : id = e.op.callId
      · subst hid
        rcases hdoes.self hfresh hc' with ⟨hself, _⟩ | ⟨c'', hself, hrec⟩
        · exact ⟨c', hself, hun'⟩
        · exact ⟨c'', hself, RecordStep.unanswered rfl hrec hlast hun'⟩
      · exact ⟨c', hdoes.other hid ▸ hc', hun'⟩
    · exact ⟨c', hc', hun'⟩

/-- Waiting starts hold calls of their own, none of them answered. -/
structure Holding (w : World) : Prop where
  own : ∀ h callId invoked, w.pending.get? h = some ⟨.start callId, invoked⟩ →
    ∃ c, w.state.orchestrator.getCall callId = some c ∧ Unanswered c
  apart : ∀ h₁ h₂ callId i₁ i₂, w.pending.get? h₁ = some ⟨.start callId, i₁⟩ →
    w.pending.get? h₂ = some ⟨.start callId, i₂⟩ → h₁ = h₂

/-- What a request leaves at its `await`. -/
theorem Requested.waits {h : Nat} {req : Request} {s s' : State} {waiting : Waiting} {callId : String}
    (hreq : Requested h req s (some waiting) s') (hw : waiting.point = .start callId) :
    callId = req.uuid ∧ ∃ c, s'.orchestrator.getCall callId = some c ∧ c.state = .initiating := by
  cases hreq with
  | started =>
    obtain rfl : req.uuid = callId := by simpa using hw
    exact ⟨rfl, _, KeyMap.get?_set_self .., rfl⟩
  | told hf _ _ => cases hf <;> cases hw

theorem step_holding {config : WebRtcConfig} {w w' : World} {l : Label} (hI : Holding w)
    (hs : Step config w l w') : Holding w' := by
  obtain ⟨es, hes, hadv⟩ := Step.refines hs
  -- a call whose start still waits afterwards is not moved ahead by this step
  have hkept {h callId invoked} (hp : w.pending.get? h = some ⟨.start callId, invoked⟩)
      (hstill : ∀ outcome now, l ≠ .resume h outcome now) :
      ∃ c, w'.state.orchestrator.getCall callId = some c ∧ Unanswered c := by
    obtain ⟨c, hc, hun⟩ := hI.own h callId invoked hp
    refine steps_unanswered hes (fun e he ha => ?_) hc hun
    obtain ⟨h', outcome, now, i, rfl, hp'⟩ := hadv e he callId ha
    obtain rfl := hI.apart h' h callId i invoked hp' hp
    exact hstill outcome now rfl
  rcases hs.cases with ⟨req, waiting, s, rfl, _, hnew, hreq, rfl⟩ |
    ⟨h', point, invoked, outcome, now, s, rfl, hp', _, hres, rfl⟩ | ⟨now, rfl, rfl⟩
  · have hold {h callId invoked} (hp : (w.suspend waiting).get? h = some ⟨.start callId, invoked⟩) :
        w.pending.get? h = some ⟨.start callId, invoked⟩ ∨
          h = w.served ∧ waiting = some ⟨.start callId, invoked⟩ := by
      cases waiting with
      | none => exact .inl hp
      | some waiting =>
        rw [World.suspend, KeyMap.get?_set] at hp
        split at hp
        · next hh => exact .inr ⟨hh, hp⟩
        · exact .inl hp
    have hfresh {h callId i₁ i₂} (hp : w.pending.get? h = some ⟨.start callId, i₁⟩)
        (hw : waiting = some ⟨.start callId, i₂⟩) : False := by
      subst hw
      obtain ⟨c, hc, _⟩ := hI.own h callId i₁ hp
      rw [(hreq.waits rfl).1, hnew] at hc
      cases hc
    refine ⟨fun h callId invoked hp => ?_, fun h₁ h₂ callId i₁ i₂ hp₁ hp₂ => ?_⟩
    · rcases hold hp with hp | ⟨_, rfl⟩
      · exact hkept hp fun _ _ he => by cases he
      · obtain ⟨_, c, hc, hs⟩ := hreq.waits rfl
        exact ⟨c, hc, .inl hs⟩
    · rcases hold hp₁ with hp₁ | ⟨rfl, hw₁⟩ <;> rcases hold hp₂ with hp₂ | ⟨rfl, hw₂⟩
      · exact hI.apart h₁ h₂ callId i₁ i₂ hp₁ hp₂
      · exact (hfresh hp₁ hw₂).elim
      · exact (hfresh hp₂ hw₁).elim
      · rfl
  · refine ⟨fun h callId invoked hp => ?_, fun h₁ h₂ callId i₁ i₂ hp₁ hp₂ => ?_⟩
    · obtain ⟨hne, hp⟩ := KeyMap.get?_delete_some hp
      refine hkept hp fun outcome' now' he => ?_
      cases he
      exact hne rfl
    · exact hI.apart h₁ h₂ callId i₁ i₂ (KeyMap.get?_delete_some hp₁).2 (KeyMap.get?_delete_some hp₂).2
  · refine ⟨fun h callId invoked hp => hkept hp fun outcome now' he => ?_, hI.apart⟩
    cases he

theorem run_holding {config : WebRtcConfig} {w : World} {ls : List Label} (h : (system config).Run ls w) :
    Holding w := by
  refine h.invariant (I := fun _ w => Holding w) (fun w hw => ?_) fun _ _ _ _ _ hI hs => step_holding hI hs
  subst hw
  exact ⟨nofun, nofun⟩

theorem Step.served_le {config : WebRtcConfig} {w w' : World} {l : Label} (h : Step config w l w') :
    w.served ≤ w'.served := by
  rcases h.cases with ⟨req, waiting, s, rfl, _, _, _, rfl⟩ |
    ⟨h', point, invoked, outcome, now, s, rfl, _, _, _, rfl⟩ | ⟨now, rfl, rfl⟩
  · exact Nat.le_succ _
  · exact Nat.le_refl _
  · exact Nat.le_refl _

theorem steps_served_le {config : WebRtcConfig} {w w' : World} {ls : List Label}
    (h : (system config).Steps w ls w') : w.served ≤ w'.served :=
  h.related (R := fun w w' => w.served ≤ w'.served) (fun _ => Nat.le_refl _) (fun _ _ _ => Nat.le_trans)
    fun _ _ _ hs => Step.served_le hs

theorem Step.waiting {config : WebRtcConfig} {w w' : World} {l : Label} (h : Step config w l w') {id : Nat}
    (hid : id < w.served) {waiting : Waiting} (hp : w'.pending.get? id = some waiting) :
    w.pending.get? id = some waiting := by
  rcases h.cases with ⟨req, waiting', s, rfl, _, _, _, rfl⟩ |
    ⟨h', point, invoked, outcome, now, s, rfl, _, _, _, rfl⟩ | ⟨now, rfl, rfl⟩
  · cases waiting' with
    | none => exact hp
    | some _ => exact KeyMap.get?_set_ne _ _ (Nat.ne_of_lt hid) ▸ hp
  · exact (KeyMap.get?_delete_some hp).2
  · exact hp

/-- A handler's `await` ends once and does not come back. -/
theorem steps_waiting {config : WebRtcConfig} {w w' : World} {ls : List Label} (h : (system config).Steps w ls w')
    {id : Nat} (hid : id < w.served) {waiting : Waiting} (hp : w'.pending.get? id = some waiting) :
    w.pending.get? id = some waiting := by
  induction h with
  | nil => exact hp
  | snoc hs hstep ih =>
    exact ih (Step.waiting hstep (Nat.lt_of_lt_of_le hid (steps_served_le hs)) hp)

/-! ### Calls that stay live -/

/-- The calls that an operation may end. -/
def Ends (id : String) : Op → Prop
  | .hangup id' _ | .setError id' _ | .setTimeout id' _ => id' = id
  | _ => False

theorem Does.live {now : Int} {o o' : CallOrchestrator} {op : Op} (h : CallOrchestrator.Does now o op o')
    (hfresh : CallOrchestrator.Fresh o op) {id : String} (hends : ¬ Ends id op) {c : RtcCallRecord}
    (hc : o.getCall id = some c) (hl : c.live = true) : ∃ c', o'.getCall id = some c' ∧ c'.live = true := by
  by_cases hid : id = op.callId
  · subst hid
    rcases h.self hfresh hc with ⟨hself, _⟩ | ⟨c', hself, hrec⟩
    · exact ⟨c, hself, hl⟩
    · refine ⟨c', hself, ?_⟩
      cases hrec with
      | answered | activated => rfl
      | localCandidate | remoteCandidate | said => exact hl
      | ended _ _ hop => rcases hop with rfl | rfl | rfl <;> exact absurd rfl hends
  · exact ⟨c, h.other hid ▸ hc, hl⟩

theorem getCall_modifyCall {o : CallOrchestrator} {id : String} {c : RtcCallRecord} (hc : o.getCall id = some c)
    (f : RtcCallRecord → RtcCallRecord) : (o.modifyCall id f).getCall id = some (f c) := by
  show (o.calls.modify id f).get? id = _
  rw [KeyMap.get?_modify_self, show o.calls.get? id = some c from hc]
  rfl

/-- The call exists and has ended. -/
def EndedCall (o : CallOrchestrator) (callId : String) : Prop :=
  ∃ c, o.getCall callId = some c ∧ c.state.terminal = true

theorem endCall_ends {o : CallOrchestrator} {id : String} {c : RtcCallRecord} (hc : o.getCall id = some c)
    {state : RtcCallState} (hst : state.terminal = true) (reason : String) (now : Int) :
    ∃ o', CallOrchestrator.endCall id state reason now o = .ok () o' ∧ EndedCall o' id := by
  have hrun := CallOrchestrator.endCall_run o id state reason now
  rw [show o.calls.get? id = some c from hc] at hrun
  by_cases ht : c.state.terminal = true
  · exact ⟨o, hrun.trans (if_pos ht), c, hc, ht⟩
  · exact ⟨_, hrun.trans (if_neg ht), _, getCall_modifyCall hc _, hst⟩

theorem hangup_ends {o o' : CallOrchestrator} {id reason : String} {now : Int}
    (hex : (Op.hangup id reason).exec now o = .ok () o') : EndedCall o' id := by
  have hst : (if reason = "user" then RtcCallState.hangupUser else .hangupNode).terminal = true := by
    split <;> rfl
  cases hc : o.getCall id with
  | none =>
    have hrun := CallOrchestrator.endCall_run o id (if reason = "user" then .hangupUser else .hangupNode) reason now
    rw [show o.calls.get? id = none from hc] at hrun
    cases hrun.symm.trans hex
  | some c =>
    obtain ⟨o'', hrun, hend⟩ := endCall_ends hc hst reason now
    cases hrun.symm.trans hex
    exact hend

theorem Step.keeps_ended {config : WebRtcConfig} {w w' : World} {l : Label} (h : Step config w l w') {id : String}
    (hend : EndedCall w.state.orchestrator id) : EndedCall w'.state.orchestrator id := by
  obtain ⟨c, hc, ht⟩ := hend
  obtain ⟨c', hc', hl⟩ := steps_later (.single (M := system config) h) hc
  exact ⟨c', hc', by rw [hl.frozen ht]; exact ht⟩

/-! ### Shutdown -/

/-- A record after `stop`. -/
def shutDown (now : String → Int) (c : RtcCallRecord) : RtcCallRecord :=
  if c.live = true then
    {c with state := .hangupNode, endedAt := some (now c.callId), endReason := some "gateway-shutdown"}
  else c

theorem shutDown_terminal (now : String → Int) (c : RtcCallRecord) : (shutDown now c).state.terminal = true := by
  unfold shutDown
  by_cases hl : c.live = true
  · rw [if_pos hl]
    rfl
  · rw [if_neg hl]
    simpa [RtcCallRecord.live] using hl

theorem hangup_shutDown {o : CallOrchestrator} {c : RtcCallRecord} (now : String → Int)
    (hc : o.getCall c.callId = some c) (hl : c.live = true) : ∃ o',
      CallOrchestrator.hangup c.callId "gateway-shutdown" (now c.callId) o = .ok () o' ∧
        o'.getCall c.callId = some (shutDown now c) ∧ ∀ id, id ≠ c.callId → o'.getCall id = o.getCall id := by
  have hrun := CallOrchestrator.endCall_run o c.callId .hangupNode "gateway-shutdown" (now c.callId)
  rw [show o.calls.get? c.callId = some c from hc] at hrun
  refine ⟨_, hrun.trans (if_neg (live_not_terminal hl)), ?_, fun id hid => KeyMap.get?_modify_ne _ _ hid⟩
  rw [getCall_modifyCall hc, shutDown, if_pos hl]

/-- The loop of `stop` ends each of the records it is given and no other. -/
theorem stopCalls_run (now : String → Int) {calls : List RtcCallRecord} {o : CallOrchestrator}
    (hnodup : (calls.map RtcCallRecord.callId).Nodup) (hin : ∀ c ∈ calls, o.getCall c.callId = some c) :
    ∃ o', stopCalls now calls o = .ok () o' ∧ (∀ c ∈ calls, o'.getCall c.callId = some (shutDown now c)) ∧
      ∀ id, id ∉ calls.map RtcCallRecord.callId → o'.getCall id = o.getCall id := by
  induction calls generalizing o with
  | nil => exact ⟨o, rfl, List.forall_mem_nil _, fun _ _ => rfl⟩
  | cons c rest ih =>
    rw [List.map_cons, List.nodup_cons] at hnodup
    have hother {d : RtcCallRecord} (hd : d ∈ rest) : d.callId ≠ c.callId := fun he =>
      hnodup.1 (he ▸ List.mem_map.mpr ⟨d, hd, rfl⟩)
    have hc := hin c List.mem_cons_self
    have hfirst : ∃ o₁, stopCalls now (c :: rest) o = stopCalls now rest o₁ ∧
        o₁.getCall c.callId = some (shutDown now c) ∧ ∀ id, id ≠ c.callId → o₁.getCall id = o.getCall id := by
      rw [stopCalls_cons_run]
      by_cases hl : c.live = true
      · obtain ⟨o₁, hrun, hself, hframe⟩ := hangup_shutDown now hc hl
        exact ⟨o₁, by rw [if_pos hl, hrun], hself, hframe⟩
      · exact ⟨o, if_neg hl, by rw [shutDown, if_neg hl]; exact hc, fun _ _ => rfl⟩
    obtain ⟨o₁, hrun₁, hself₁, hframe₁⟩ := hfirst
    obtain ⟨o', hrun, hself, hframe⟩ := ih (o := o₁) hnodup.2 fun d hd => by
      rw [hframe₁ d.callId (hother hd)]
      exact hin d (List.mem_cons_of_mem _ hd)
    refine ⟨o', hrun₁.trans hrun, fun d hd => ?_, fun id hid => ?_⟩
    · rcases List.mem_cons.mp hd with rfl | hd
      · rw [hframe d.callId hnodup.1, hself₁]
      · exact hself d hd
    · rw [List.map_cons, List.mem_cons, not_or] at hid
      rw [hframe id hid.2, hframe₁ id hid.1]

theorem values_callId {o : CallOrchestrator} (hkeyed : ∀ id c, o.calls.get? id = some c → c.callId = id) :
    o.calls.values.map RtcCallRecord.callId = o.calls.keys := by
  unfold KeyMap.values KeyMap.keys
  rw [List.map_map]
  apply List.map_congr_left
  intro e he
  exact hkeyed e.1 e.2 (KeyMap.get?_eq_some.mpr he)

/-- **`stop` ends every call**, and changes no call that had ended. -/
theorem stop_run (now : String → Int) {s : State}
    (hkeyed : ∀ id c, s.orchestrator.calls.get? id = some c → c.callId = id) :
    ∃ o, Plugin.stop now s = .ok () {s with orchestrator := o} ∧
      ∀ id, o.getCall id = (s.orchestrator.getCall id).map (shutDown now) := by
  have hkeys : s.orchestrator.getAllCalls.map RtcCallRecord.callId = s.orchestrator.calls.keys :=
    values_callId hkeyed
  have hnodup : (s.orchestrator.getAllCalls.map RtcCallRecord.callId).Nodup := hkeys ▸ s.orchestrator.calls.nodup
  obtain ⟨o, hrun, hself, hframe⟩ := stopCalls_run now hnodup fun c hc => by
    obtain ⟨id, hid⟩ := KeyMap.mem_values.mp hc
    rw [hkeyed id c hid]
    exact hid
  refine ⟨o, ?_, fun id => ?_⟩
  · simp only [Plugin.stop, Throwing.bind_run, Throwing.get_run, orchestrate_run, hrun]
  · cases hc : s.orchestrator.getCall id with
    | none =>
      rw [hframe id (by rw [hkeys]; exact KeyMap.get?_eq_none.mp hc), hc]
      rfl
    | some c =>
      have hid := hkeyed id c hc
      rw [Option.map_some, ← hself c (KeyMap.mem_values.mpr ⟨id, hc⟩), hid]

theorem run_keyed {config : WebRtcConfig} {w : World} {ls : List Label} (h : (system config).Run ls w) :
    ∀ id c, w.state.orchestrator.calls.get? id = some c → c.callId = id := by
  obtain ⟨_, hh⟩ := run_refines h
  exact (CallOrchestrator.run_admitted hh).keyed

/-! ### One plugin, one node -/

def demoConfig : WebRtcConfig := {enabled := true, volcAppId := some "app", volcAccessKey := some "key"}

def demoNode : NodeSession := ⟨"n1", ["webrtc"]⟩

def demoCall : String := "7c9e6679-7425-40de-944b-e07fc1f90ae7"

/-- The start of that call. -/
def demoStart : Request :=
  { method := .start, params := some (.obj [("sdp", .str "offer"), ("sessionKey", .str "s1")])
    registry := some [demoNode], uuid := demoCall, key := "k", now := 0 }

/-- The plugin before any request. -/
def World.new (config : WebRtcConfig) : World := ⟨⟨.new (options config), []⟩, 0, .empty⟩

/-- The plugin while that start waits for the node. -/
def demoWaiting : World := (World.new demoConfig).request demoConfig demoStart

theorem demoWaiting_step : Step demoConfig (World.new demoConfig) (.request demoStart) demoWaiting :=
  .request (by decide) rfl

theorem demoWaiting_resume (outcome : InvokeOutcome) (h : outcome ≠ .noNode) (now : Int) :
    Step demoConfig demoWaiting (.resume 0 outcome now) (demoWaiting.resume 0 (.start demoCall) outcome now) := by
  have hp : demoWaiting.pending.get? 0 = some ⟨.start demoCall, true⟩ := rfl
  exact @Step.resume demoConfig demoWaiting 0 ⟨.start demoCall, true⟩ outcome now hp (iff_of_true rfl h)

def demoAnswer : InvokeOutcome :=
  .resolved {ok := true, payload := some (.obj [("answerSdp", .str "answer")])}

end RtcPlugin.Plugin
