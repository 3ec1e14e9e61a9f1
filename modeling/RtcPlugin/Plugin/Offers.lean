import RtcPlugin.Plugin.Affinity
import RtcPlugin.Plugin.Config

/-! The offers that the plugin passes on.

Only an enabled plugin with a valid configuration offers a call to a node. It passes on the
offer of the start request, trimmed, which is never empty, with the servers of its
configuration; and the call's record keeps that offer (`run_offered`). -/
namespace RtcPlugin.Plugin

open CallOrchestrator (Op)

/-- What a start asks for. -/
def offer (req : Request) : String := jsTrim (stringParam req.params "sdp" "")

def sessionKey (req : Request) : String := jsTrim (stringParam req.params "sessionKey" "")

/-- A configuration with which calls are taken. -/
def Serves (config : WebRtcConfig) : Prop := config.enabled = true ∧ validateWebRtcConfig config = []

/-- A start that is not declined. -/
structure TakenUp (config : WebRtcConfig) (h : Nat) (req : Request) (s s' : State) : Prop where
  serves : Serves config
  offer : Plugin.offer req ≠ ""
  run : ∃ nodes, req.registry = some nodes ∧
    s' = State.emit {s with orchestrator := s.orchestrator.started ⟨Plugin.offer req, sessionKey req⟩ req.uuid req.now}
      (invocation h nodes (.accept req.uuid (Plugin.offer req) s.orchestrator.options.iceServers) req.key)

theorem rtcCallStart_takes (config : WebRtcConfig) (h : Nat) (req : Request) (s : State) :
    ∃ waiting s', rtcCallStart config h req s = .ok waiting s' ∧
      ((∃ message, s' = s.emit [.respond h false (.error message)]) ∨ TakenUp config h req s s') := by
  unfold rtcCallStart
  by_cases hen : config.enabled = true
  · cases hv : validateWebRtcConfig config with
    | cons e es => exact ⟨none, _, by simp [hen]; rfl, .inl ⟨_, rfl⟩⟩
    | nil =>
      cases hr : req.registry with
      | none => exact ⟨none, _, by simp [hen]; rfl, .inl ⟨_, rfl⟩⟩
      | some nodes =>
        generalize hsdp : jsTrim (stringParam req.params "sdp" "") = sdp
        generalize hkey : jsTrim (stringParam req.params "sessionKey" "") = key
        by_cases hp : sdp = "" ∨ key = ""
        · exact ⟨none, _, by simp [hen, hp]; rfl, .inl ⟨_, rfl⟩⟩
        · by_cases hadm : s.orchestrator.activeCalls < s.orchestrator.options.maxConcurrentCalls ∧
              ¬ s.orchestrator.Busy key
          · have hstart := CallOrchestrator.startCall_admitted s.orchestrator ⟨sdp, key⟩ req.uuid req.now hadm.1 hadm.2
            have hinvoke (t : State) : invokeRtcNode h nodes "rtc.call.accept"
                (.accept req.uuid sdp s.orchestrator.options.iceServers) req.key t =
                .ok (findRtcNode nodes).isSome (t.emit
                  (invocation h nodes (.accept req.uuid sdp s.orchestrator.options.iceServers) req.key)) :=
              invokeRtcNode_run h nodes (.accept req.uuid sdp s.orchestrator.options.iceServers) req.key t
            have htaken : TakenUp config h req s _ :=
              ⟨⟨hen, hv⟩, show offer req ≠ "" from fun he => hp (.inl (hsdp.symm.trans he)), nodes, hr, rfl⟩
            refine ⟨some ⟨.start req.uuid, (findRtcNode nodes).isSome⟩, _, ?_, .inr htaken⟩
            rw [show offer req = sdp from hsdp, show sessionKey req = key from hkey]
            simp [hen, hp, hstart, hinvoke]
          · obtain ⟨e, he⟩ := CallOrchestrator.startCall_error s.orchestrator ⟨sdp, key⟩ req.uuid req.now hadm
            exact ⟨none, _, by simp [hen, hp, he], .inl ⟨e, rfl⟩⟩
  · exact ⟨none, _, by simp [hen]; rfl, .inl ⟨_, rfl⟩⟩

/-- The invokes that a step adds to the log. -/
def Sends (w w' : World) (h : Nat) (r : InvokeRequest) : Prop :=
  ∃ es, w'.state.log = w.state.log ++ es ∧ .invoke h r ∈ es

/-- An accept goes out for a start that is taken up. -/
theorem Step.offers {config : WebRtcConfig} {w w' : World} {l : Label} (hs : Step config w l w') {h : Nat}
    {r : InvokeRequest} (hsends : Sends w w' h r) {id sdp : String} {servers : List IceServer}
    (hr : r.params = .accept id sdp servers) :
    ∃ req, l = .request req ∧ req.method = .start ∧ req.uuid = id ∧ TakenUp config w.served req w.state w'.state ∧
      sdp = offer req ∧ servers = w.state.orchestrator.options.iceServers := by
  obtain ⟨es, hlog, hmem⟩ := hsends
  cases l with
  | request req =>
    cases hm : req.method with
    | start =>
      cases hs with
      | request hne hnew =>
        obtain ⟨waiting, s', hrun, htaken⟩ := rtcCallStart_takes config w.served req w.state
        have hstate : (w.request config req).state = s' := by
          have hhandle : handle config w.served req = rtcCallStart config w.served req := by
            unfold handle
            rw [hm]
          unfold World.request
          rw [hhandle, hrun]
        rw [hstate] at hlog
        obtain ⟨message, rfl⟩ | htaken := htaken
        · obtain rfl := List.append_cancel_left hlog
          cases List.mem_singleton.mp hmem
        · obtain ⟨nodes, -, hs'⟩ := htaken.run
          have hinvoked : .invoke h r ∈ invocation w.served nodes
              (.accept req.uuid (offer req) w.state.orchestrator.options.iceServers) req.key := by
            rw [hs'] at hlog
            rwa [List.append_cancel_left hlog]
          obtain ⟨-, hparams, -, -⟩ := mem_invocation hinvoked
          rw [hr] at hparams
          injection hparams with hid hsdp hservers
          exact ⟨req, rfl, hm, hid.symm, hstate ▸ htaken, hsdp, hservers⟩
    | ice | hangup | status =>
      obtain ⟨waiting, s', -, -, hreq, rfl⟩ := hs.requested
      cases hreq with
      | declined | reported | untold =>
        obtain rfl := List.append_cancel_left hlog
        cases List.mem_singleton.mp hmem
      | started hstart => rw [hm] at hstart; cases hstart
      | told hf =>
        obtain rfl := List.append_cancel_left hlog
        obtain ⟨-, hparams, -, -⟩ := mem_invocation hmem
        rw [hr] at hparams
        cases hf <;> cases hparams
  | resume id outcome now =>
    obtain ⟨_, _, s', -, -, hres, rfl⟩ := hs.resumed
    obtain ⟨es', hlog', hnone⟩ := hres.sends
    obtain rfl := List.append_cancel_left (hlog.symm.trans hlog')
    exact absurd hmem (hnone h r)
  | stop now =>
    cases hs
    have hsame : w.state.log ++ es = w.state.log ++ [] :=
      hlog.symm.trans ((stop_log now w.state).trans (List.append_nil _).symm)
    obtain rfl := List.append_cancel_left hsame
    cases hmem

/-! ### A call keeps its offer -/

theorem record_offer {now : Int} {c c' : RtcCallRecord} {op : Op} (h : CallOrchestrator.RecordStep now c op c') :
    c'.offerSdp = c.offerSdp := by
  cases h <;> rfl

theorem Step.keeps_offer {config : WebRtcConfig} {w w' : World} {l : Label} (hs : Step config w l w') {id : String}
    {c : RtcCallRecord} (hc : w.state.orchestrator.getCall id = some c) :
    ∃ c', w'.state.orchestrator.getCall id = some c' ∧ c'.offerSdp = c.offerSdp := by
  obtain ⟨es, hes, -⟩ := hs.refines
  refine hes.related (M := CallOrchestrator.system (options config))
    (R := fun o o' => ∀ c, o.getCall id = some c → ∃ c', o'.getCall id = some c' ∧ c'.offerSdp = c.offerSdp)
    (fun _ c hc => ⟨c, hc, rfl⟩) ?_ ?_ c hc
  · intro _ _ _ h₁ h₂ c hc
    obtain ⟨c₁, hc₁, ho₁⟩ := h₁ c hc
    obtain ⟨c₂, hc₂, ho₂⟩ := h₂ c₁ hc₁
    exact ⟨c₂, hc₂, ho₂.trans ho₁⟩
  · intro o e o' hstep c hc
    obtain ⟨hfresh, ⟨-, hdoes⟩ | ⟨-, rfl⟩⟩ := CallOrchestrator.Step.does hstep
    · by_cases hid : id = e.op.callId
      · subst hid
        obtain ⟨hc', -⟩ | ⟨c', hc', hrec⟩ := hdoes.self hfresh hc
        · exact ⟨c, hc', rfl⟩
        · exact ⟨c', hc', record_offer hrec⟩
      · exact ⟨c, (hdoes.other hid).trans hc, rfl⟩
    · exact ⟨c, hc, rfl⟩

/-! ### Runs -/

/-- What lies behind an accept: the start it is for, and the call that keeps its offer. -/
structure Offered (config : WebRtcConfig) (ls : List Label) (w : World) (id sdp : String) (servers : List IceServer) :
    Prop where
  serves : Serves config
  asked : ∃ req, .request req ∈ ls ∧ req.method = .start ∧ req.uuid = id ∧ sdp = offer req
  nonempty : sdp ≠ ""
  servers : servers = config.iceServers
  kept : ∃ c, w.state.orchestrator.getCall id = some c ∧ c.offerSdp = sdp

theorem run_iceServers {config : WebRtcConfig} {ls : List Label} {w : World} (h : (system config).Run ls w) :
    w.state.orchestrator.options.iceServers = config.iceServers := by
  obtain ⟨_, hh⟩ := run_refines h
  rw [CallOrchestrator.run_options hh]
  rfl

theorem Step.log {config : WebRtcConfig} {w w' : World} {l : Label} (hs : Step config w l w') :
    ∃ es, w'.state.log = w.state.log ++ es := by
  obtain ⟨req, waiting, s, rfl, -, -, hreq, rfl⟩ | ⟨id, point, invoked, outcome, now, s, rfl, -, -, hres, rfl⟩ | ⟨now, rfl, rfl⟩ :=
    hs.cases
  · obtain ⟨es, hlog, -⟩ := hreq.sends
    exact ⟨es, hlog⟩
  · obtain ⟨es, hlog, -⟩ := hres.sends
    exact ⟨es, hlog⟩
  · exact ⟨[], (stop_log now w.state).trans (List.append_nil _).symm⟩

theorem run_offered {config : WebRtcConfig} {ls : List Label} {w : World} (h : (system config).Run ls w) :
    ∀ h' r id sdp servers, .invoke h' r ∈ w.state.log → r.params = .accept id sdp servers →
      Offered config ls w id sdp servers := by
  refine h.invariant (M := system config) (I := fun ls w => ∀ h' r id sdp servers, .invoke h' r ∈ w.state.log →
    r.params = .accept id sdp servers → Offered config ls w id sdp servers) ?_ ?_
  · rintro w rfl h' r id sdp servers hmem
    cases hmem
  · intro ls w l w' hrun hI hs h' r id sdp servers hmem hr
    obtain ⟨es, hlog⟩ := Step.log hs
    have hold : .invoke h' r ∈ w.state.log ∨ .invoke h' r ∈ es := List.mem_append.mp (hlog ▸ hmem)
    obtain hold | hnew := hold
    · obtain ⟨hserves, ⟨req, hreq, hask⟩, hne, hservers, c, hc, hoffer⟩ := hI h' r id sdp servers hold hr
      obtain ⟨c', hc', hkept⟩ := Step.keeps_offer hs hc
      exact ⟨hserves, ⟨req, List.mem_append_left _ hreq, hask⟩, hne, hservers, c', hc', hkept.trans hoffer⟩
    · obtain ⟨req, rfl, hm, rfl, htaken, rfl, rfl⟩ := Step.offers hs ⟨es, hlog, hnew⟩ hr
      refine ⟨htaken.serves, ⟨req, List.mem_append_right _ (List.mem_singleton_self _), hm, rfl, rfl⟩, htaken.offer,
        run_iceServers hrun, CallOrchestrator.newCall ⟨offer req, sessionKey req⟩ req.uuid req.now, ?_, rfl⟩
      obtain ⟨nodes, -, hs'⟩ := htaken.run
      rw [hs']
      exact KeyMap.get?_set_self ..

end RtcPlugin.Plugin
