import RtcPlugin.Plugin.Runs

/-! Which node a command goes to.

The plugin keeps no record of the node that accepted a call: every command goes
to the first node with the capability that the registry lists at that moment. -/
namespace RtcPlugin.Plugin

/-- The requests among the labels, in order: the number of a handler is its
request's place. -/
def requests (ls : List Label) : List Request :=
  ls.filterMap fun
    | .request req => some req
    | _ => none

/-- The node that the registry listed first with the capability when handler `h`
was started. -/
def rtcNodeAt (ls : List Label) (h : Nat) : Option String :=
  ((requests ls)[h]?).bind fun req => (req.registry.bind findRtcNode).map NodeSession.nodeId

theorem requests_append (ls ls' : List Label) : requests (ls ++ ls') = requests ls ++ requests ls' :=
  List.filterMap_append ..

theorem rtcNodeAt_old {ls : List Label} {h : Nat} (hh : h < (requests ls).length) (l : Label) :
    rtcNodeAt (ls ++ [l]) h = rtcNodeAt ls h := by
  unfold rtcNodeAt
  rw [requests_append, List.getElem?_append_left hh]

theorem rtcNodeAt_new (ls : List Label) (req : Request) : rtcNodeAt (ls ++ [.request req]) (requests ls).length =
    (req.registry.bind findRtcNode).map NodeSession.nodeId := by
  unfold rtcNodeAt
  rw [requests_append, List.getElem?_append_right (Nat.le_refl _), Nat.sub_self]
  rfl

/-! ### What is sent -/

/-- The call a command is about. -/
def InvokeParams.callId : InvokeParams → String
  | .accept callId _ _ | .remoteCandidate callId _ | .hangup callId _ => callId

/-- A command goes out only for a call that the orchestrator knows. -/
theorem Forwards.knows {req : Request} {op : CallOrchestrator.Op} {params : InvokeParams} {await : Await}
    (hf : Forwards req op params await) {now : Int} {o o' : CallOrchestrator} (hex : op.exec now o = .ok () o') :
    (o'.getCall (InvokeParams.callId params)).isSome = true := by
  cases hf with
  | hangup =>
    obtain ⟨c, hc, _⟩ := hangup_ends hex
    exact Option.isSome_iff_exists.mpr ⟨c, hc⟩
  | @candidate callId candidate =>
    cases hc : o.calls.get? callId with
    | none =>
      simp [CallOrchestrator.Op.exec, CallOrchestrator.handleIceCandidate, CallOrchestrator.requireCall_run, hc] at hex
    | some c =>
      obtain ⟨e, he⟩ | ⟨o'', ho'', hdoes⟩ :=
        CallOrchestrator.exec_outcome (.handleIceCandidate callId candidate .remote) now o
      · cases he.symm.trans hex
      · cases ho''.symm.trans hex
        obtain ⟨hself, _⟩ | ⟨c', hself, _⟩ := hdoes.self trivial hc
        · exact Option.isSome_iff_exists.mpr ⟨c, hself⟩
        · exact Option.isSome_iff_exists.mpr ⟨c', hself⟩

theorem mem_invocation {h h' : Nat} {nodes : List NodeSession} {params : InvokeParams} {key : String}
    {r : InvokeRequest} (hm : .invoke h' r ∈ invocation h nodes params key) :
    h' = h ∧ r.params = params ∧ r.command = params.command ∧
      (findRtcNode nodes).map NodeSession.nodeId = some r.nodeId := by
  unfold invocation at hm
  cases hn : findRtcNode nodes with
  | none => simp [hn] at hm
  | some node =>
    rw [hn, List.mem_singleton, Effect.invoke.injEq] at hm
    obtain ⟨rfl, rfl⟩ := hm
    exact ⟨rfl, rfl, rfl, rfl⟩

theorem invocation_length (h : Nat) (nodes : List NodeSession) (params : InvokeParams) (key : String) :
    (invocation h nodes params key).length ≤ 1 := by
  unfold invocation
  cases findRtcNode nodes
  · exact Nat.zero_le _
  · exact Nat.le_refl _

/-- A request sends at most one command, to the node its registry lists first. -/
theorem Requested.sends {h : Nat} {req : Request} {s s' : State} {waiting : Option Waiting}
    (hreq : Requested h req s waiting s') :
    ∃ es, s'.log = s.log ++ es ∧ es.length ≤ 1 ∧ ∀ h' r, .invoke h' r ∈ es → h' = h ∧
      r.command = r.params.command ∧ (req.registry.bind findRtcNode).map NodeSession.nodeId = some r.nodeId ∧
      (∀ callId sdp servers, r.params = .accept callId sdp servers → callId = req.uuid) ∧
      (s'.orchestrator.getCall (InvokeParams.callId r.params)).isSome = true ∧
      ∀ callId reason, r.params = .hangup callId reason → EndedCall s'.orchestrator callId := by
  cases hreq with
  | declined | reported | untold =>
    exact ⟨_, rfl, Nat.le_refl _, fun h' r hm => by cases List.mem_singleton.mp hm⟩
  | started _ hr =>
    refine ⟨_, rfl, invocation_length .., fun h' r hm => ?_⟩
    obtain ⟨hh, hparams, hcommand, hnode⟩ := mem_invocation hm
    refine ⟨hh, by rw [hcommand, hparams], by rw [hr]; exact hnode, fun callId sdp servers he => ?_, ?_,
      fun callId reason he => by rw [hparams] at he; cases he⟩
    · rw [hparams] at he
      cases he
      rfl
    · rw [hparams]
      simp [InvokeParams.callId, State.emit, CallOrchestrator.getCall, CallOrchestrator.started]
  | told hf hr hex =>
    refine ⟨_, rfl, invocation_length .., fun h' r hm => ?_⟩
    obtain ⟨hh, hparams, hcommand, hnode⟩ := mem_invocation hm
    refine ⟨hh, by rw [hcommand, hparams], by rw [hr]; exact hnode, fun callId sdp servers he => ?_, ?_,
      fun callId reason he => ?_⟩
    · rw [hparams] at he
      cases hf <;> cases he
    · rw [hparams]
      exact hf.knows hex
    · rw [hparams] at he
      cases hf <;> cases he
      exact hangup_ends hex

/-- Only requests send commands. -/
theorem Resumed.sends {h : Nat} {outcome : InvokeOutcome} {now : Int} {s s' : State} {point : Await}
    (hres : Resumed h outcome now s point s') : ∃ es, s'.log = s.log ++ es ∧ ∀ h' r, .invoke h' r ∉ es := by
  cases hres with
  | rejected | forwarded | late => exact ⟨_, rfl, fun h' r hm => by cases List.mem_singleton.mp hm⟩
  | settled =>
    refine ⟨_, rfl, fun h' r hm => ?_⟩
    unfold reply at hm
    split at hm <;> cases List.mem_singleton.mp hm

/-- Where the commands went, and that the accept of a call is its first command. -/
structure Routed (ls : List Label) (w : World) : Prop where
  numbered : w.served = (requests ls).length
  sent : ∀ h r, .invoke h r ∈ w.state.log → h < w.served ∧ r.command = r.params.command ∧
    rtcNodeAt ls h = some r.nodeId
  known : ∀ h r, .invoke h r ∈ w.state.log → (w.state.orchestrator.getCall (InvokeParams.callId r.params)).isSome = true
  first : ∀ h r h' r' callId sdp servers, .invoke h r ∈ w.state.log → r.params = .accept callId sdp servers →
    .invoke h' r' ∈ w.state.log → InvokeParams.callId r'.params = callId → h' = h ∧ r' = r ∨ h < h'

/-- Of two accepts of one call neither comes later, so a call is offered to a node once. -/
theorem Routed.once {ls : List Label} {w : World} (hI : Routed ls w) {h h' : Nat} {r r' : InvokeRequest}
    {callId sdp sdp' : String} {servers servers' : List IceServer} (hm : .invoke h r ∈ w.state.log)
    (hp : r.params = .accept callId sdp servers) (hm' : .invoke h' r' ∈ w.state.log)
    (hp' : r'.params = .accept callId sdp' servers') : h' = h ∧ r' = r := by
  obtain he | hlt := hI.first h r h' r' callId sdp servers hm hp hm' (congrArg InvokeParams.callId hp')
  · exact he
  · obtain ⟨rfl, rfl⟩ | hgt := hI.first h' r' h r callId sdp' servers' hm' hp' hm (congrArg InvokeParams.callId hp)
    · exact ⟨rfl, rfl⟩
    · exact absurd hgt (Nat.lt_asymm hlt)

theorem Step.keeps_calls {config : WebRtcConfig} {w w' : World} {l : Label} (h : Step config w l w') {id : String}
    (hid : (w.state.orchestrator.getCall id).isSome = true) :
    (w'.state.orchestrator.getCall id).isSome = true := by
  obtain ⟨c, hc⟩ := Option.isSome_iff_exists.mp hid
  obtain ⟨c', hc', _⟩ := steps_later (.single (M := system config) h) hc
  rw [hc']
  rfl

/-- A step that sends nothing and serves nothing new. -/
theorem Routed.quiet {config : WebRtcConfig} {ls : List Label} {w w' : World} {l : Label} (hI : Routed ls w)
    (hs : Step config w l w') {es : List Effect} (hlog : w'.state.log = w.state.log ++ es)
    (hes : ∀ h r, .invoke h r ∉ es) (hserved : w'.served = w.served) (hl : requests [l] = []) :
    Routed (ls ++ [l]) w' := by
  have hold {h r} (hm : .invoke h r ∈ w'.state.log) : .invoke h r ∈ w.state.log := by
    rw [hlog, List.mem_append] at hm
    exact hm.resolve_right (hes h r)
  refine ⟨by rw [hserved, requests_append, hl, List.append_nil, hI.numbered], fun h r hm => ?_,
    fun h r hm => hs.keeps_calls (hI.known h r (hold hm)), fun h r h' r' callId sdp servers hm hp hm' =>
      hI.first h r h' r' callId sdp servers (hold hm) hp (hold hm')⟩
  obtain ⟨hlt, hcommand, hnode⟩ := hI.sent h r (hold hm)
  exact ⟨hserved ▸ hlt, hcommand, by rw [rtcNodeAt_old (hI.numbered ▸ hlt), hnode]⟩

theorem step_routed {config : WebRtcConfig} {ls : List Label} {w w' : World} {l : Label} (hI : Routed ls w)
    (hs : Step config w l w') : Routed (ls ++ [l]) w' := by
  rcases hs.cases with ⟨req, waiting, s, rfl, _, hnew, hreq, rfl⟩ |
    ⟨id, point, invoked, outcome, now, s, rfl, _, _, hres, rfl⟩ | ⟨now, rfl, rfl⟩
  · obtain ⟨es, hlog, hlen, hes⟩ := hreq.sends
    have hold {h r} (hm : .invoke h r ∈ s.log) : .invoke h r ∈ w.state.log ∨ .invoke h r ∈ es := by
      rwa [hlog, List.mem_append] at hm
    -- the call of an accept sent by this request is new, so no command has named it
    have hfresh {h r h' r' callId sdp servers} (hm : .invoke h r ∈ es) (hp : r.params = .accept callId sdp servers)
        (hm' : .invoke h' r' ∈ w.state.log) (hid : InvokeParams.callId r'.params = callId) : False := by
      have hknown := hI.known h' r' hm'
      rw [hid, (hes h r hm).2.2.2.1 callId sdp servers hp, hnew] at hknown
      cases hknown
    refine ⟨by rw [requests_append, List.length_append, ← hI.numbered]; rfl, fun h r hm => ?_,
      fun h r hm => ?_, fun h r h' r' callId sdp servers hm hp hm' hid => ?_⟩
    · rcases hold hm with hm | hm
      · obtain ⟨hlt, hcommand, hnode⟩ := hI.sent h r hm
        exact ⟨Nat.lt_succ_of_lt hlt, hcommand, by rw [rtcNodeAt_old (hI.numbered ▸ hlt), hnode]⟩
      · obtain ⟨rfl, hcommand, hnode, _⟩ := hes h r hm
        exact ⟨Nat.lt_succ_self _, hcommand, by rw [hI.numbered, rtcNodeAt_new, hnode]⟩
    · rcases hold hm with hm | hm
      · exact hs.keeps_calls (hI.known h r hm)
      · exact (hes h r hm).2.2.2.2.1
    · rcases hold hm with hm | hm <;> rcases hold hm' with hm' | hm'
      · exact hI.first h r h' r' callId sdp servers hm hp hm' hid
      · rw [(hes h' r' hm').1]
        exact .inr (hI.sent h r hm).1
      · exact (hfresh hm hp hm' hid).elim
      · obtain ⟨e, rfl⟩ := List.length_eq_one_iff.mp
          (Nat.le_antisymm hlen (List.length_pos_of_mem hm))
        have he := (List.mem_singleton.mp hm').trans (List.mem_singleton.mp hm).symm
        rw [Effect.invoke.injEq] at he
        exact .inl he
  · obtain ⟨es, hlog, hes⟩ := hres.sends
    exact hI.quiet hs hlog hes rfl rfl
  · have hlog : (w.stop now).state.log = w.state.log ++ [] :=
      (stop_log now w.state).trans (List.append_nil _).symm
    exact hI.quiet hs hlog (fun _ _ hm => absurd hm List.not_mem_nil) rfl rfl

theorem run_routed {config : WebRtcConfig} {ls : List Label} {w : World} (h : (system config).Run ls w) : Routed ls w := by
  refine h.invariant (M := system config) (I := Routed) ?_ fun _ _ _ _ _ hI hs => step_routed hI hs
  rintro w rfl
  exact ⟨rfl, nofun, nofun, nofun⟩

/-- **Where commands go.** Every command goes to the node listed first with the
capability when it is sent; a call has one accept, every other command of the call
comes after it, and a command of the call reaches the accept's node exactly when that
node is then listed first. -/
theorem commands_routed {config : WebRtcConfig} {ls : List Label} {w : World} (hrun : (system config).Run ls w) :
    (∀ h r, .invoke h r ∈ w.state.log → rtcNodeAt ls h = some r.nodeId) ∧
    ∀ h r callId sdp servers, .invoke h r ∈ w.state.log → r.params = .accept callId sdp servers →
      (∀ h' r' sdp' servers', .invoke h' r' ∈ w.state.log → r'.params = .accept callId sdp' servers' →
        h' = h ∧ r' = r) ∧
      (∀ h' r', .invoke h' r' ∈ w.state.log → InvokeParams.callId r'.params = callId →
        (h' = h ∧ r' = r ∨ h < h') ∧ (r'.nodeId = r.nodeId ↔ rtcNodeAt ls h' = some r.nodeId)) ∧
      ((∀ h' n, rtcNodeAt ls h' = some n → n = r.nodeId) → ∀ h' r', .invoke h' r' ∈ w.state.log →
        r'.nodeId = r.nodeId) := by
  have hI := run_routed hrun
  refine ⟨fun h r hm => (hI.sent h r hm).2.2, fun h r callId sdp servers hm hp =>
    ⟨fun h' r' sdp' servers' hm' hp' => hI.once hm hp hm' hp', fun h' r' hm' hid =>
      ⟨hI.first h r h' r' callId sdp servers hm hp hm' hid, ?_⟩,
      fun hone h' r' hm' => hone h' r'.nodeId (hI.sent h' r' hm').2.2⟩⟩
  rw [(hI.sent h' r' hm').2.2, Option.some.injEq]

/-- The hangup of the call once a second node has connected and is listed first. -/
def demoHangup : Request :=
  { method := .hangup, params := some (.obj [("callId", .str demoCall)])
    registry := some [⟨"n2", ["webrtc"]⟩, demoNode], uuid := "u", key := "k", now := 2 }

/-- The plugin after it sent that hangup. -/
def demoHungUp : World := (demoWaiting.resume 0 (.start demoCall) demoAnswer 1).request demoConfig demoHangup

theorem demoHungUp_run : (system demoConfig).Run
    [.request demoStart, .resume 0 demoAnswer 1, .request demoHangup] demoHungUp :=
  (((System.Run.nil rfl).snoc demoWaiting_step).snoc (demoWaiting_resume demoAnswer nofun 1)).snoc
    (.request (by decide) rfl)

/-- A second node that is listed first gets the hangup of the first node's call. -/
theorem hangup_misrouted :
    ¬ ∀ config ls w, (system config).Run ls w → ∀ h r h' r' callId sdp servers, .invoke h r ∈ w.state.log →
      r.params = .accept callId sdp servers → .invoke h' r' ∈ w.state.log →
      InvokeParams.callId r'.params = callId → r'.nodeId = r.nodeId := by
  intro hall
  have hlog : demoHungUp.state.log =
      [.invoke 0 ⟨"n1", "rtc.call.accept", .accept demoCall "offer" defaultIceServers, 15000, "k"⟩,
        .respond 0 true (.started demoCall (some (.str "answer")) (.arr []) defaultIceServers),
        .invoke 1 ⟨"n2", "rtc.call.hangup", .hangup demoCall "user", 15000, "k"⟩] := rfl
  have hsame := hall demoConfig _ demoHungUp demoHungUp_run 0 _ 1 _ demoCall "offer" defaultIceServers
    (hlog ▸ List.mem_cons_self) rfl (hlog ▸ List.mem_cons_of_mem _ (List.mem_cons_of_mem _ List.mem_cons_self)) rfl
  exact absurd hsame (by decide)

theorem commands_routed_misrouted :
    let ls : List Label := [.request demoStart, .resume 0 demoAnswer 1, .request demoHangup]
    rtcNodeAt ls 0 = some "n1" ∧ rtcNodeAt ls 1 = some "n2" ∧ rtcNodeAt ls 1 ≠ some "n1" := by
  intro ls
  have haccept : .invoke 0 ⟨"n1", "rtc.call.accept", .accept demoCall "offer" defaultIceServers, 15000, "k"⟩ ∈
      demoHungUp.state.log := List.mem_cons_self
  have hhangup : .invoke 1 ⟨"n2", "rtc.call.hangup", .hangup demoCall "user", 15000, "k"⟩ ∈ demoHungUp.state.log :=
    List.mem_cons_of_mem _ (List.mem_cons_of_mem _ List.mem_cons_self)
  obtain ⟨hrouted, hcall⟩ := commands_routed demoHungUp_run
  obtain ⟨_, hcommands, _⟩ := hcall 0 _ demoCall "offer" defaultIceServers haccept rfl
  have hother := (hcommands 1 _ hhangup rfl).2.not.mp (by decide)
  exact ⟨hrouted 0 _ haccept, hrouted 1 _ hhangup, hother⟩

end RtcPlugin.Plugin
