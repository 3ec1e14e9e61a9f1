import RtcPlugin.Plugin.Affinity

/-! How long a call is held.

Nothing tells the plugin that a call's media flow or have stopped: its handlers use five of
the orchestrator's methods (`Asks`). So no call is ever `active`, and one that was answered
stays `connecting`, with its session and its slot, until a hangup names it or the service
stops (`answered_calls_held`). -/
namespace RtcPlugin.Plugin

open CallOrchestrator (Op Fresh)

/-- The operations that a step may ask the orchestrator for. -/
inductive Asks (w : World) : Label → Op → Prop where
  | start {req params} : req.method = .start → Asks w (.request req) (.startCall params req.uuid)
  | candidate {req callId candidate} : req.method = .ice → stringParam req.params "callId" "" = callId →
      Asks w (.request req) (.handleIceCandidate callId candidate .remote)
  | hangup {req callId reason} : req.method = .hangup → stringParam req.params "callId" "" = callId →
      Asks w (.request req) (.hangup callId reason)
  | answer {h invoked outcome now callId answerSdp} : w.pending.get? h = some ⟨.start callId, invoked⟩ →
      Asks w (.resume h outcome now) (.handleAnswer callId answerSdp)
  | fail {h invoked outcome now callId reason} : w.pending.get? h = some ⟨.start callId, invoked⟩ →
      Asks w (.resume h outcome now) (.setError callId reason)

/-- What a step does to the orchestrator: nothing, one operation, or the shutdown of all calls. -/
theorem Step.op {config : WebRtcConfig} {ls : List Label} {w w' : World} {l : Label} (hrun : (system config).Run ls w)
    (hs : Step config w l w') : w'.state.orchestrator = w.state.orchestrator ∨
      (∃ op now, Fresh w.state.orchestrator op ∧ op.exec now w.state.orchestrator = .ok () w'.state.orchestrator ∧ Asks w l op) ∨
      ∃ now, l = .stop now ∧ ∀ id, w'.state.orchestrator.getCall id = (w.state.orchestrator.getCall id).map (shutDown now) := by
  obtain ⟨req, waiting, s, rfl, hne, hnew, hreq, rfl⟩ | ⟨id, point, invoked, outcome, now, s, rfl, hp, -, hres, rfl⟩ |
    ⟨now, rfl, rfl⟩ := hs.cases
  · cases hreq with
    | declined | reported => exact .inl rfl
    | @started nodes params hm _ hcap hfree =>
      have hstart := CallOrchestrator.startCall_admitted w.state.orchestrator params req.uuid req.now hcap hfree
      refine .inr (.inl ⟨.startCall params req.uuid, req.now, ⟨hne, hnew⟩, ?_, .start hm⟩)
      simp only [Op.exec, Throwing.discard_run, hstart]
      rfl
    | told hf _ hex | untold hf _ hex =>
      cases hf with
      | candidate hm hid _ _ =>
        exact .inr (.inl ⟨.handleIceCandidate _ _ .remote, req.now, trivial, hex, .candidate hm hid⟩)
      | hangup hm hid => exact .inr (.inl ⟨.hangup _ _, req.now, trivial, hex, .hangup hm hid⟩)
  · cases hres with
    | rejected | forwarded | late => exact .inl rfl
    | settled _ hex =>
      unfold settlement at hex
      split at hex
      · exact .inr (.inl ⟨.handleAnswer _ _, now, trivial, hex, .answer hp⟩)
      · exact .inr (.inl ⟨.setError _ _, now, trivial, hex, .fail hp⟩)
  · obtain ⟨o, ho, hget⟩ := stop_run now (run_keyed hrun)
    refine .inr (.inr ⟨now, rfl, fun id => ?_⟩)
    have hstop : (w.stop now).state.orchestrator = o := by
      rw [World.stop, ho]
      rfl
    rw [hstop, hget]

/-- What an operation that is asked for makes of the record that it names. -/
inductive Told (now : Int) (c : RtcCallRecord) : Op → RtcCallRecord → Prop where
  | ended {op} : c.state.terminal = true → Told now c op c
  | answered {id a} : c.state = .initiating → Told now c (.handleAnswer id a) {c with answerSdp := a, state := .connecting}
  | candidate {id x} : c.state.terminal = false →
      Told now c (.handleIceCandidate id x .remote) {c with remoteCandidates := c.remoteCandidates ++ [x]}
  | hungUp {id reason} : c.state.terminal = false → Told now c (.hangup id reason)
      {c with state := if reason = "user" then .hangupUser else .hangupNode, endedAt := some now, endReason := some reason}
  | failed {id reason} : c.state.terminal = false →
      Told now c (.setError id reason) {c with state := .error, endedAt := some now, endReason := some reason}

theorem endCall_told {o o' : CallOrchestrator} {id reason : String} {st : RtcCallState} {now : Int} {c : RtcCallRecord}
    (hex : CallOrchestrator.endCall id st reason now o = .ok () o') (hc : o.getCall id = some c) :
    c.state.terminal = true ∧ o'.getCall id = some c ∨ c.state.terminal = false ∧
      o'.getCall id = some {c with state := st, endedAt := some now, endReason := some reason} := by
  have hrun := CallOrchestrator.endCall_run o id st reason now
  rw [show o.calls.get? id = some c from hc] at hrun
  cases ht : c.state.terminal with
  | true =>
    cases hex.symm.trans (hrun.trans (if_pos ht))
    exact .inl ⟨rfl, hc⟩
  | false =>
    cases hex.symm.trans (hrun.trans (if_neg (ht ▸ Bool.false_ne_true)))
    exact .inr ⟨rfl, getCall_modifyCall hc _⟩

theorem Asks.told {w : World} {l : Label} {op : Op} (hasks : Asks w l op) {now : Int} {o' : CallOrchestrator}
    (hfresh : Fresh w.state.orchestrator op) (hex : op.exec now w.state.orchestrator = .ok () o') {c : RtcCallRecord}
    (hc : w.state.orchestrator.getCall op.callId = some c) : ∃ c', o'.getCall op.callId = some c' ∧ Told now c op c' := by
  cases hasks with
  | start => exact nomatch hfresh.2.symm.trans hc
  | @candidate req callId candidate hm hid =>
    have hrun : CallOrchestrator.handleIceCandidate callId candidate .remote w.state.orchestrator = .ok () o' := hex
    simp only [CallOrchestrator.handleIceCandidate, Throwing.bind_run, CallOrchestrator.requireCall_run,
      show w.state.orchestrator.calls.get? callId = some c from hc] at hrun
    cases ht : c.state.terminal with
    | true =>
      simp only [ht, if_true] at hrun
      cases hrun
      exact ⟨c, hc, .ended ht⟩
    | false =>
      simp only [ht, Bool.false_eq_true, if_false] at hrun
      cases hrun
      exact ⟨_, getCall_modifyCall hc _, .candidate ht⟩
  | hangup =>
    obtain ⟨ht, hsame⟩ | ⟨ht, hended⟩ := endCall_told hex hc
    · exact ⟨c, hsame, .ended ht⟩
    · exact ⟨_, hended, .hungUp ht⟩
  | @answer h invoked outcome now' callId answerSdp hp =>
    have hrun := CallOrchestrator.handleAnswer_run w.state.orchestrator callId answerSdp
    rw [show w.state.orchestrator.calls.get? callId = some c from hc] at hrun
    by_cases hst : c.state = .initiating
    · cases hex.symm.trans (hrun.trans (if_pos hst))
      exact ⟨_, getCall_modifyCall hc _, .answered hst⟩
    · cases hex.symm.trans (hrun.trans (if_neg hst))
  | fail =>
    obtain ⟨ht, hsame⟩ | ⟨ht, hended⟩ := endCall_told hex hc
    · exact ⟨c, hsame, .ended ht⟩
    · exact ⟨_, hended, .failed ht⟩

/-- What a step makes of a call that was there. -/
theorem Step.record {config : WebRtcConfig} {ls : List Label} {w w' : World} {l : Label} (hrun : (system config).Run ls w)
    (hs : Step config w l w') {id : String} {c : RtcCallRecord} (hc : w.state.orchestrator.getCall id = some c) :
    w'.state.orchestrator.getCall id = some c ∨
      (∃ op now c', op.callId = id ∧ Asks w l op ∧ Told now c op c' ∧ w'.state.orchestrator.getCall id = some c') ∨
      ∃ now, l = .stop now ∧ w'.state.orchestrator.getCall id = some (shutDown now c) := by
  obtain hsame | ⟨op, now, hfresh, hex, hasks⟩ | ⟨now, rfl, hget⟩ := Step.op hrun hs
  · exact .inl (hsame ▸ hc)
  · by_cases hid : id = op.callId
    · subst hid
      obtain ⟨c', hc', htold⟩ := hasks.told hfresh hex hc
      exact .inr (.inl ⟨op, now, c', rfl, hasks, htold, hc'⟩)
    · exact .inl (((CallOrchestrator.exec_does hex).other hid).trans hc)
  · exact .inr (.inr ⟨now, rfl, by rw [hget, hc]; rfl⟩)

/-- A call that a step creates. -/
theorem Step.created {config : WebRtcConfig} {ls : List Label} {w w' : World} {l : Label} (hrun : (system config).Run ls w)
    (hs : Step config w l w') {id : String} (hnone : w.state.orchestrator.getCall id = none) {c : RtcCallRecord}
    (hc : w'.state.orchestrator.getCall id = some c) : ∃ params now, c = CallOrchestrator.newCall params id now := by
  obtain hsame | ⟨op, now, hfresh, hex, -⟩ | ⟨now, rfl, hget⟩ := Step.op hrun hs
  · rw [hsame, hnone] at hc
    cases hc
  · have hdoes := CallOrchestrator.exec_does hex
    by_cases hid : id = op.callId
    · subst hid
      obtain ⟨params, uuid, rfl, rfl⟩ := hdoes.created hnone hc
      exact ⟨params, now, rfl⟩
    · rw [hdoes.other hid, hnone] at hc
      cases hc
  · rw [hget, hnone] at hc
    cases hc

/-! ### Calls are never active -/

/-- A record as the plugin makes it. -/
structure Unconnected (c : RtcCallRecord) : Prop where
  active : c.state ≠ .active
  timeout : c.state ≠ .timeout
  connectedAt : c.connectedAt = none
  localCandidates : c.localCandidates = []
  transcript : c.transcript = []

theorem Told.unconnected {now : Int} {c c' : RtcCallRecord} {op : Op} (h : Told now c op c') (hc : Unconnected c) :
    Unconnected c' := by
  cases h with
  | ended => exact hc
  | candidate => exact ⟨hc.active, hc.timeout, hc.connectedAt, hc.localCandidates, hc.transcript⟩
  | answered | failed => exact ⟨nofun, nofun, hc.connectedAt, hc.localCandidates, hc.transcript⟩
  | hungUp =>
    refine ⟨?_, ?_, hc.connectedAt, hc.localCandidates, hc.transcript⟩ <;>
    · show (if _ then _ else _) ≠ _
      split <;> exact nofun

/-- No call is ever active, and none times out. -/
theorem run_unconnected {config : WebRtcConfig} {ls : List Label} {w : World} (h : (system config).Run ls w) :
    ∀ id c, w.state.orchestrator.getCall id = some c → Unconnected c := by
  refine h.invariant (M := system config) (I := fun _ w => ∀ id c, w.state.orchestrator.getCall id = some c → Unconnected c) ?_
    fun ls w l w' hrun hI hs id c' hc' => ?_
  · rintro w rfl id c hc
    cases hc
  · cases hc : w.state.orchestrator.getCall id with
    | none =>
      obtain ⟨params, now, rfl⟩ := Step.created hrun hs hc hc'
      exact ⟨nofun, nofun, rfl, rfl, rfl⟩
    | some c =>
      have hold := hI id c hc
      obtain hsame | ⟨op, now, c'', -, -, htold, hself⟩ | ⟨now, -, hself⟩ := Step.record hrun hs hc
      · obtain rfl := Option.some.inj (hsame.symm.trans hc')
        exact hold
      · obtain rfl := Option.some.inj (hself.symm.trans hc')
        exact htold.unconnected hold
      · obtain rfl := Option.some.inj (hself.symm.trans hc')
        unfold shutDown
        split
        · exact ⟨nofun, nofun, hold.connectedAt, hold.localCandidates, hold.transcript⟩
        · exact hold

/-! ### Calls that were answered -/

/-- A step that ends a call: a hangup that names it, or the shutdown of the service. -/
def Releases (id : String) : Label → Prop
  | .request req => req.method = .hangup ∧ stringParam req.params "callId" "" = id
  | .resume .. => False
  | .stop _ => True

def HungUp (c : RtcCallRecord) : Prop := c.state = .hangupUser ∨ c.state = .hangupNode

theorem HungUp.terminal {c : RtcCallRecord} (h : HungUp c) : c.state.terminal = true := by
  obtain h | h := h <;> rw [h] <;> rfl

theorem hungUp_reason {c : RtcCallRecord} (reason : String) (now : Int) :
    HungUp {c with state := if reason = "user" then .hangupUser else .hangupNode, endedAt := some now, endReason := some reason} := by
  unfold HungUp
  by_cases h : reason = "user"
  · exact .inl (if_pos h)
  · exact .inr (if_neg h)

section
variable {config : WebRtcConfig} {ls ls' : List Label} {w w' : World} {l : Label} {id : String} {c : RtcCallRecord}

theorem Step.released (hrun : (system config).Run ls w) (hs : Step config w l w')
    (hc : w.state.orchestrator.getCall id = some c) (hst : c.state = .connecting) (hrel : Releases id l) :
    ∃ c', w'.state.orchestrator.getCall id = some c' ∧ c'.sessionKey = c.sessionKey ∧ HungUp c' := by
  have ht : c.state.terminal ≠ true := by rw [hst]; exact Bool.false_ne_true
  cases hs with
  | resume => exact hrel.elim
  | @request req hne hnew =>
    obtain ⟨hm, hid⟩ := hrel
    have hid₀ : id ≠ "" := by
      rintro rfl
      obtain ⟨_, hh⟩ := run_refines hrun
      exact nomatch (CallOrchestrator.run_admitted hh).named.symm.trans hc
    have hexec := CallOrchestrator.endCall_run w.state.orchestrator id
      (if stringParam req.params "reason" "user" = "user" then .hangupUser else .hangupNode)
      (stringParam req.params "reason" "user") req.now
    rw [show w.state.orchestrator.calls.get? id = some c from hc] at hexec
    have hexec := hexec.trans (if_neg ht)
    obtain ⟨waiting, s', hhandle, ho, -⟩ := rtcCallHangup_run (h := w.served) (s := w.state) hid hid₀ hexec
    have hstate : (w.request config req).state = s' := by
      unfold World.request handle
      rw [hm]
      simp only [hhandle]
    rw [hstate, ho]
    exact ⟨_, getCall_modifyCall hc _, rfl, hungUp_reason ..⟩
  | @stop now =>
    obtain ⟨o, ho, hget⟩ := stop_run now (run_keyed hrun)
    have hstop : (w.stop now).state.orchestrator = o := by
      rw [World.stop, ho]
      rfl
    have hlive : c.live = true := by
      unfold RtcCallRecord.live
      rw [hst]
      rfl
    refine ⟨shutDown now c, by rw [hstop, hget, hc]; rfl, ?_, ?_⟩
    · unfold shutDown
      rw [if_pos hlive]
    · unfold shutDown
      rw [if_pos hlive]
      exact .inr rfl

theorem Step.holds (hrun : (system config).Run ls w) (hs : Step config w l w')
    (hc : w.state.orchestrator.getCall id = some c) (hst : c.state = .connecting) (hrel : ¬ Releases id l) :
    ∃ c', w'.state.orchestrator.getCall id = some c' ∧ c'.sessionKey = c.sessionKey ∧ c'.state = .connecting := by
  obtain hsame | ⟨op, now, c', hop, hasks, htold, hself⟩ | ⟨now, rfl, -⟩ := Step.record hrun hs hc
  · exact ⟨c, hsame, rfl, hst⟩
  · refine ⟨c', hself, ?_⟩
    cases htold with
    | ended => exact ⟨rfl, hst⟩
    | candidate => exact ⟨rfl, hst⟩
    | answered hinit => exact nomatch hinit.symm.trans hst
    | hungUp =>
      cases hasks with
      | hangup hm hid => exact absurd ⟨hm, hid.trans hop⟩ hrel
    | failed =>
      cases hasks with
      | fail hp =>
        -- the start of an answered call does not wait any more
        obtain ⟨c₁, hc₁, hun⟩ := (run_holding hrun).own _ _ _ hp
        obtain rfl : _ = id := hop
        obtain rfl := Option.some.inj (hc₁.symm.trans hc)
        obtain hun | hun := hun
        · exact nomatch hun.symm.trans hst
        · rw [hst] at hun
          cases hun
  · exact absurd trivial hrel

/-- Of an answered call: what releases it has come, or it has not. -/
theorem steps_held (hrun : (system config).Run ls w) (hc : w.state.orchestrator.getCall id = some c)
    (hst : c.state = .connecting) (hs : (system config).Steps w ls' w') :
    ∃ c', w'.state.orchestrator.getCall id = some c' ∧ c'.sessionKey = c.sessionKey ∧
      ((∀ l ∈ ls', ¬ Releases id l) ∧ c'.state = .connecting ∨ (∃ l ∈ ls', Releases id l) ∧ HungUp c') := by
  induction hs with
  | nil => exact ⟨c, hc, rfl, .inl ⟨List.forall_mem_nil _, hst⟩⟩
  | @snoc ls' l t u hs hl ih =>
    obtain ⟨c', hc', hkey, ⟨hnone, hst'⟩ | ⟨⟨l', hl', hrel⟩, hung⟩⟩ := ih
    · by_cases hrel : Releases id l
      · obtain ⟨c'', hc'', hkey', hung⟩ := Step.released (hrun.append hs) hl hc' hst' hrel
        exact ⟨c'', hc'', hkey'.trans hkey, .inr ⟨⟨l, List.mem_append_right _ (List.mem_singleton_self l), hrel⟩, hung⟩⟩
      · obtain ⟨c'', hc'', hkey', hst''⟩ := Step.holds (hrun.append hs) hl hc' hst' hrel
        refine ⟨c'', hc'', hkey'.trans hkey, .inl ⟨fun l' hl' => ?_, hst''⟩⟩
        obtain hl' | hl' := List.mem_append.mp hl'
        · exact hnone l' hl'
        · rwa [List.mem_singleton.mp hl']
    · obtain ⟨c'', hc'', hlater⟩ := steps_later (.single (M := system config) hl) hc'
      have hfrozen := hlater.frozen hung.terminal
      have hkey' : c''.sessionKey = c'.sessionKey := by rw [hfrozen]
      have hstate : c''.state = c'.state := by rw [hfrozen]
      refine ⟨c'', hc'', hkey'.trans hkey, .inr ⟨⟨l', List.mem_append_left _ hl', hrel⟩, ?_⟩⟩
      rw [HungUp, hstate]
      exact hung

/-- A connecting call keeps its session. -/
theorem busy_of_connecting (hrun : (system config).Run ls w) (hc : w.state.orchestrator.getCall id = some c)
    (hst : c.state = .connecting) : w.state.orchestrator.Busy c.sessionKey := by
  obtain ⟨_, hh⟩ := run_refines hrun
  refine ((CallOrchestrator.run_admitted hh).busy_iff _).mpr ⟨id, c, hc, rfl, ?_⟩
  unfold RtcCallRecord.live
  rw [hst]
  rfl

/-- **An answered call is held** until a hangup names it or the service stops, and ends with
that as hung up: meanwhile it keeps its session. In no run is a call ever active, and none
times out. -/
theorem answered_calls_held (hrun : (system config).Run ls w) :
    (∀ id c, w.state.orchestrator.getCall id = some c → Unconnected c) ∧
      ∀ id c, w.state.orchestrator.getCall id = some c → c.state = .connecting →
        ∀ ls' w', (system config).Steps w ls' w' →
          ∃ c', w'.state.orchestrator.getCall id = some c' ∧ c'.sessionKey = c.sessionKey ∧
            ((∀ l ∈ ls', ¬ Releases id l) → c'.state = .connecting ∧ w'.state.orchestrator.Busy c.sessionKey) ∧
            ((∃ l ∈ ls', Releases id l) → HungUp c') := by
  refine ⟨run_unconnected hrun, fun id c hc hst ls' w' hs => ?_⟩
  obtain ⟨c', hc', hkey, hfate⟩ := steps_held hrun hc hst hs
  refine ⟨c', hc', hkey, fun hnone => ?_, fun hsome => ?_⟩
  · obtain ⟨-, hst'⟩ | ⟨⟨l, hl, hrel⟩, -⟩ := hfate
    · exact ⟨hst', hkey ▸ busy_of_connecting (hrun.append hs) hc' hst'⟩
    · exact absurd hrel (hnone l hl)
  · obtain ⟨hnone, -⟩ | ⟨-, hung⟩ := hfate
    · obtain ⟨l, hl, hrel⟩ := hsome
      exact absurd hrel (hnone l hl)
    · exact hung

end

/-- The call of the one start, answered and then hung up at a second node. -/
theorem answered_calls_held_hangup : ∃ c, demoHungUp.state.orchestrator.getCall demoCall = some c ∧ HungUp c := by
  have hrun : (system demoConfig).Run [.request demoStart, .resume 0 demoAnswer 1]
      (demoWaiting.resume 0 (.start demoCall) demoAnswer 1) :=
    ((System.Run.nil rfl).snoc demoWaiting_step).snoc (demoWaiting_resume demoAnswer nofun 1)
  have hstep : (system demoConfig).Steps (demoWaiting.resume 0 (.start demoCall) demoAnswer 1) [.request demoHangup] demoHungUp :=
    .single (M := system demoConfig) (.request (by decide) rfl)
  have hcall : (demoWaiting.resume 0 (.start demoCall) demoAnswer 1).state.orchestrator.getCall demoCall =
      some ⟨demoCall, "s1", .connecting, "offer", some (.str "answer"), 0, none, none, none, [], [], []⟩ := rfl
  obtain ⟨c', hc', -, -, hung⟩ := (answered_calls_held hrun).2 demoCall _ hcall rfl _ _ hstep
  refine ⟨c', hc', hung ⟨.request demoHangup, List.mem_singleton_self _, rfl, ?_⟩⟩
  decide +kernel

end RtcPlugin.Plugin
