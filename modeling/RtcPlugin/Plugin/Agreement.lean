import Mathlib.Data.Finset.Basic
import RtcPlugin.Plugin.Affinity
import RtcPlugin.Plugin.StartCall

/-! The plugin and its node: which calls exist.

The node runs every delivered invoke in a goroutine of its own, so commands are
executed in any order, and the plugin's wait for one may end before the command
does. Commands are under way from the moment they are sent until they take
effect. A peer is accounted for while its call is live or a hangup for it is
under way; `Safe` says which steps keep it so. -/
namespace RtcPlugin.Agreement

open CallOrchestrator (Op)
open Plugin (EndedCall)

structure World where
  plugin : Plugin.World
  /-- The commands under way at the node, by the number of their handler. -/
  inflight : KeyMap Nat InvokeParams
  /-- Whether a finished command succeeded. -/
  finished : KeyMap Nat Bool
  peers : Finset String

/-- What a command does to the node's peers when it takes effect. -/
inductive Executes : InvokeParams → Bool → Finset String → Finset String → Prop where
  | accepted {callId sdp servers peers} :
      Executes (.accept callId sdp servers) true peers (insert callId peers)
  | refused {callId sdp servers peers} : Executes (.accept callId sdp servers) false peers peers
  | candidate {callId candidate ok peers} : (ok = true → callId ∈ peers) →
      Executes (.remoteCandidate callId candidate) ok peers peers
  | hungUp {callId reason peers} : Executes (.hangup callId reason) true peers (peers.erase callId)

inductive Label where
  | plugin (l : Plugin.Label)
  | execute (h : Nat) (ok : Bool)
  /-- The connection of a peer failed or was closed. -/
  | lost (callId : String)

/-- The commands under way with those among the effects. -/
def send (inflight : KeyMap Nat InvokeParams) (es : List Effect) : KeyMap Nat InvokeParams :=
  es.foldl (fun m e => match e with
    | .invoke h r => m.set h r.params
    | .respond .. => m) inflight

/-- What the plugin did since its log was `log`. -/
def news (log : List Effect) (p : Plugin.World) : List Effect := p.state.log.drop log.length

/-- A wait succeeds only once its command has. -/
def Heard (w : World) : Plugin.Label → Prop
  | .resume h (.resolved r) _ => r.ok = true → w.finished.get? h = some true
  | _ => True

/-- Every node that is listed is the one node. -/
inductive Step (config : WebRtcConfig) (w : World) : Label → World → Prop where
  | plugin {l p} : Plugin.Step config w.plugin l p → Heard w l →
      Step config w (.plugin l) {w with plugin := p, inflight := send w.inflight (news w.plugin.state.log p)}
  | execute {h ok params peers} : w.inflight.get? h = some params → Executes params ok w.peers peers →
      Step config w (.execute h ok)
        {w with inflight := w.inflight.delete h, finished := w.finished.set h ok, peers := peers}
  | lost {callId} : Step config w (.lost callId) {w with peers := w.peers.erase callId}

def system (config : WebRtcConfig) : System World Label where
  init := fun w => w = ⟨.new config, .empty, .empty, ∅⟩
  step := Step config

/-- No handler runs and no command is under way. -/
def Quiescent (w : World) : Prop :=
  (∀ h, w.plugin.pending.get? h = none) ∧ ∀ h, w.inflight.get? h = none

def LiveCall (w : World) (callId : String) : Prop :=
  ∃ c, w.plugin.state.orchestrator.getCall callId = some c ∧ c.live = true

/-- The node holds connections of live calls only. -/
def Agree (w : World) : Prop := ∀ callId ∈ w.peers, LiveCall w callId

def HangupSent (w : World) (callId : String) : Prop :=
  ∃ h reason, w.inflight.get? h = some (.hangup callId reason)

/-- The steps that leave no peer behind: an accept takes effect while its call is
live or a hangup for it is still to come; a shutdown finds no live call with a
peer; a start is refused only if its call has no peer; and a hangup of a call with
a peer finds the node. -/
def Safe (w : World) : Label → Prop
  | .plugin (.request req) => req.method = .hangup → req.registry.bind Plugin.findRtcNode = none →
      ¬ (stringParam req.params "callId" "" ∈ w.peers ∧ LiveCall w (stringParam req.params "callId" ""))
  | .plugin (.resume h outcome _) => ∀ callId invoked v, w.plugin.pending.get? h = some ⟨.start callId, invoked⟩ →
      outcome.decoded = .ok v → v.truthy = false → ¬ (callId ∈ w.peers ∧ LiveCall w callId)
  | .plugin (.stop _) => ∀ callId, ¬ (callId ∈ w.peers ∧ LiveCall w callId)
  | .execute h ok => ∀ callId sdp servers, w.inflight.get? h = some (.accept callId sdp servers) → ok = true →
      LiveCall w callId ∨ HangupSent w callId
  | .lost _ => True

/-! ### The commands under way -/

section Send
variable {m : KeyMap Nat InvokeParams} {es : List Effect}

theorem send_other {n : Nat} (hes : ∀ h r, .invoke h r ∈ es → h = n) {h : Nat} (hh : h ≠ n) :
    (send m es).get? h = m.get? h := by
  unfold send
  induction es generalizing m with
  | nil => rfl
  | cons e rest ih =>
    rw [List.foldl_cons, ih fun h r hm => hes h r (List.mem_cons_of_mem _ hm)]
    cases e with
    | respond => rfl
    | invoke h' r =>
      have hn := hes h' r List.mem_cons_self
      exact KeyMap.get?_set_ne m r.params (hn ▸ hh)

theorem send_mem {h : Nat} {params : InvokeParams} (hm : (send m es).get? h = some params) :
    m.get? h = some params ∨ ∃ r, .invoke h r ∈ es ∧ r.params = params := by
  unfold send at hm
  induction es generalizing m with
  | nil => exact .inl hm
  | cons e rest ih =>
    rw [List.foldl_cons] at hm
    rcases ih hm with hm | ⟨r, hr, hp⟩
    · cases e with
      | respond => exact .inl hm
      | invoke h' r =>
        rw [KeyMap.get?_set] at hm
        split at hm
        · next hh => exact .inr ⟨r, hh ▸ List.mem_cons_self, Option.some.inj hm⟩
        · exact .inl hm
    · exact .inr ⟨r, List.mem_cons_of_mem _ hr, hp⟩

theorem send_invocation {h : Nat} {nodes : List NodeSession} {node : NodeSession} (params : InvokeParams)
    (key : String) (hn : Plugin.findRtcNode nodes = some node) :
    (send m (Plugin.invocation h nodes params key)).get? h = some params := by
  unfold send Plugin.invocation
  rw [hn]
  exact KeyMap.get?_set_self ..

end Send

theorem news_eq {log es : List Effect} {p : Plugin.World} (h : p.state.log = log ++ es) : news log p = es := by
  unfold news
  rw [h, List.drop_left]

/-- Only a request sends commands, under the number of its handler. -/
theorem news_invoke {config : WebRtcConfig} {w p : Plugin.World} {l : Plugin.Label} (hs : Plugin.Step config w l p)
    {h : Nat} {r : InvokeRequest} (hm : .invoke h r ∈ news w.state.log p) : h = w.served ∧ h < p.served ∧
      (p.state.orchestrator.getCall (Plugin.InvokeParams.callId r.params)).isSome = true ∧
      ∀ callId reason, r.params = .hangup callId reason → EndedCall p.state.orchestrator callId := by
  rcases hs.cases with ⟨req, waiting, s, rfl, _, _, hreq, rfl⟩ |
    ⟨id, point, invoked, outcome, now, s, rfl, _, _, hres, rfl⟩ | ⟨now, rfl, rfl⟩
  · obtain ⟨es, hlog, _, hes⟩ := hreq.sends
    rw [news_eq hlog] at hm
    obtain ⟨hh, _, _, _, hknown, hhangup⟩ := hes h r hm
    exact ⟨hh, hh ▸ Nat.lt_succ_self _, hknown, hhangup⟩
  · obtain ⟨es, hlog, hes⟩ := hres.sends
    rw [news_eq hlog] at hm
    exact absurd hm (hes h r)
  · rw [news_eq ((Plugin.stop_log now w.state).trans (List.append_nil _).symm)] at hm
    exact absurd hm List.not_mem_nil

/-! ### What every run keeps -/

/-- Handlers' numbers are taken in order, and peers and offers belong to calls. -/
structure Known (w : World) : Prop where
  numbered : ∀ h params, w.inflight.get? h = some params → h < w.plugin.served
  offered : ∀ h callId sdp servers, w.inflight.get? h = some (.accept callId sdp servers) →
    (w.plugin.state.orchestrator.getCall callId).isSome = true
  peered : ∀ callId ∈ w.peers, (w.plugin.state.orchestrator.getCall callId).isSome = true
  hungUp : ∀ h callId reason, w.inflight.get? h = some (.hangup callId reason) →
    EndedCall w.plugin.state.orchestrator callId

theorem Known.sent_kept {config : WebRtcConfig} {w : World} {p : Plugin.World} {l : Plugin.Label} (hK : Known w)
    (hs : Plugin.Step config w.plugin l p) {h : Nat} {params : InvokeParams} (hm : w.inflight.get? h = some params) :
    (send w.inflight (news w.plugin.state.log p)).get? h = some params := by
  have hne : h ≠ w.plugin.served := Nat.ne_of_lt (hK.numbered h params hm)
  rw [send_other (fun h' r hm' => (news_invoke hs hm').1) hne, hm]

theorem step_known {config : WebRtcConfig} {w w' : World} {l : Label} (hK : Known w) (hs : Step config w l w') :
    Known w' := by
  cases hs with
  | @plugin l p hp _ =>
    refine ⟨fun h params hm => ?_, fun h callId sdp servers hm => ?_,
      fun callId hc => hp.keeps_calls (hK.peered callId hc), fun h callId reason hm => ?_⟩
    · rcases send_mem hm with hm | ⟨r, hm, _⟩
      · exact Nat.lt_of_lt_of_le (hK.numbered h params hm) hp.served_le
      · exact (news_invoke hp hm).2.1
    · rcases send_mem hm with hm | ⟨r, hm, hr⟩
      · exact hp.keeps_calls (hK.offered h callId sdp servers hm)
      · have hknown := (news_invoke hp hm).2.2.1
        rwa [hr] at hknown
    · rcases send_mem hm with hm | ⟨r, hm, hr⟩
      · exact hp.keeps_ended (hK.hungUp h callId reason hm)
      · exact (news_invoke hp hm).2.2.2 callId reason hr
  | @execute h ok params peers hm hex =>
    refine ⟨fun h' params' hm' => hK.numbered h' params' (KeyMap.get?_delete_some hm').2,
      fun h' callId sdp servers hm' => hK.offered h' callId sdp servers (KeyMap.get?_delete_some hm').2,
      fun callId hc => ?_,
      fun h' callId reason hm' => hK.hungUp h' callId reason (KeyMap.get?_delete_some hm').2⟩
    cases hex with
    | @accepted callId' sdp servers =>
      rcases Finset.mem_insert.mp hc with rfl | hc
      · exact hK.offered h _ sdp servers hm
      · exact hK.peered callId hc
    | refused | candidate => exact hK.peered callId hc
    | hungUp => exact hK.peered callId (Finset.mem_of_mem_erase hc)
  | lost =>
    exact {hK with peered := fun callId hc => hK.peered callId (Finset.mem_of_mem_erase hc)}

theorem run_known {config : WebRtcConfig} {w : World} {ls : List Label} (h : (system config).Run ls w) :
    Known w := by
  refine h.invariant (I := fun _ w => Known w) (fun w hw => ?_) fun _ _ _ _ _ hK hs => step_known hK hs
  subst hw
  exact {numbered := nofun, offered := nofun, peered := fun _ hc => absurd hc (Finset.notMem_empty _), hungUp := nofun}

/-- The plugin's part of a run is a run of the plugin. -/
theorem steps_plugin {config : WebRtcConfig} {w w' : World} {ls : List Label} (h : (system config).Steps w ls w') :
    ∃ ls', (Plugin.system config).Steps w.plugin ls' w'.plugin := by
  refine h.related (R := fun w w' => ∃ ls', (Plugin.system config).Steps w.plugin ls' w'.plugin)
    (fun _ => ⟨[], .nil⟩) (fun _ _ _ ⟨_, h₁⟩ ⟨_, h₂⟩ => ⟨_, h₁.append h₂⟩) fun w l w' hs => ?_
  cases hs with
  | plugin hp _ => exact ⟨_, .single hp⟩
  | execute _ _ | lost => exact ⟨[], .nil⟩

theorem run_plugin {config : WebRtcConfig} {w : World} {ls : List Label} (h : (system config).Run ls w) :
    ∃ ls', (Plugin.system config).Run ls' w.plugin := by
  obtain ⟨w₀, h₀, hs⟩ := h
  obtain ⟨ls', hls⟩ := steps_plugin hs
  subst h₀
  exact ⟨ls', _, rfl, hls⟩

/-! ### Safe steps leave no peer behind -/

/-- Every peer's call is live, or its hangup is under way. -/
def Covered (w : World) : Prop := ∀ callId ∈ w.peers, LiveCall w callId ∨ HangupSent w callId

/-- A call is still live after a plugin step, or its hangup has been sent. -/
def Kept (w : World) (p : Plugin.World) (callId : String) : Prop :=
  (∃ c, p.state.orchestrator.getCall callId = some c ∧ c.live = true) ∨
    ∃ h reason, (send w.inflight (news w.plugin.state.log p)).get? h = some (.hangup callId reason)

/-- What a forwarding request does to a live call. -/
theorem forwards_kept {req : Request} {o o' : CallOrchestrator} {op : Op} {params : InvokeParams}
    {await : Plugin.Await} (hf : Plugin.Forwards req op params await) (hex : op.exec req.now o = .ok () o')
    {callId : String} {c : RtcCallRecord} (hc : o.getCall callId = some c) (hl : c.live = true) :
    (∃ c, o'.getCall callId = some c ∧ c.live = true) ∨
      req.method = .hangup ∧ stringParam req.params "callId" "" = callId ∧
        ∃ reason, params = .hangup callId reason := by
  have hdoes := CallOrchestrator.exec_does hex
  cases hf with
  | candidate => exact .inl (Plugin.Does.live hdoes trivial id hc hl)
  | @hangup callId' reason hm hid =>
    by_cases he : callId' = callId
    · subst he
      exact .inr ⟨hm, hid, reason, rfl⟩
    · exact .inl (Plugin.Does.live hdoes trivial he hc hl)

theorem request_kept {config : WebRtcConfig} {w : World} {p : Plugin.World} {req : Request}
    (hp : Plugin.Step config w.plugin (.request req) p) (hsafe : Safe w (.plugin (.request req))) {callId : String}
    (hpeer : callId ∈ w.peers) (hlive : LiveCall w callId) : Kept w p callId := by
  obtain ⟨waiting, s, _, hnew, hreq, rfl⟩ := hp.requested
  have ⟨c, hc, hl⟩ := hlive
  -- a hangup of this call that reaches no node is not safe
  have hreached (hm : req.method = .hangup) (hid : stringParam req.params "callId" "" = callId)
      (hnone : req.registry.bind Plugin.findRtcNode = none) : False :=
    hsafe hm hnone (hid ▸ ⟨hpeer, hlive⟩)
  cases hreq with
  | declined | reported => exact .inl hlive
  | started =>
    have hne : callId ≠ req.uuid := fun he => by
      rw [he, hnew] at hc
      cases hc
    exact .inl ⟨c, (KeyMap.get?_set_ne _ _ hne).trans hc, hl⟩
  | untold hf hr hex =>
    rcases forwards_kept hf hex hc hl with hkept | ⟨hm, hid, _⟩
    · exact .inl hkept
    · exact (hreached hm hid (by rw [hr]; rfl)).elim
  | @told nodes _ params _ o hf hr hex =>
    rcases forwards_kept hf hex hc hl with hkept | ⟨hm, hid, reason, rfl⟩
    · exact .inl hkept
    · cases hn : Plugin.findRtcNode nodes with
      | none => exact (hreached hm hid (by rw [hr]; exact hn)).elim
      | some node =>
        refine .inr ⟨w.plugin.served, reason, ?_⟩
        rw [news_eq rfl]
        exact send_invocation _ _ hn

theorem resume_kept {config : WebRtcConfig} {w : World} {p : Plugin.World} {h : Nat} {outcome : InvokeOutcome}
    {now : Int} (hp : Plugin.Step config w.plugin (.resume h outcome now) p)
    (hsafe : Safe w (.plugin (.resume h outcome now))) {callId : String} (hpeer : callId ∈ w.peers)
    (hlive : LiveCall w callId) : Kept w p callId := by
  obtain ⟨point, invoked, s, hwait, _, hres, rfl⟩ := hp.resumed
  have ⟨c, hc, hl⟩ := hlive
  cases hres with
  | rejected | forwarded | late => exact .inl hlive
  | @settled callId' v o hd hex =>
    have hdoes := CallOrchestrator.exec_does hex
    by_cases hv : v.truthy = true
    · rw [show Plugin.settlement callId' v = _ from if_pos hv] at hdoes
      exact .inl (Plugin.Does.live hdoes trivial id hc hl)
    · rw [show Plugin.settlement callId' v = _ from if_neg hv] at hdoes
      refine .inl (Plugin.Does.live hdoes trivial ?_ hc hl)
      rintro rfl
      exact hsafe _ invoked v hwait hd (Bool.eq_false_iff.mpr hv) ⟨hpeer, hlive⟩

theorem step_covered {config : WebRtcConfig} {w w' : World} {l : Label} (hK : Known w) (hI : Covered w)
    (hs : Step config w l w') (hsafe : Safe w l) : Covered w' := by
  cases hs with
  | @plugin l p hp _ =>
    intro callId hc
    rcases hI callId hc with hlive | ⟨h, reason, hsent⟩
    · cases l with
      | request req => exact request_kept hp hsafe hc hlive
      | resume h outcome now => exact resume_kept hp hsafe hc hlive
      | stop now => exact absurd ⟨hc, hlive⟩ (hsafe callId)
    · exact .inr ⟨h, reason, hK.sent_kept hp hsent⟩
  | @execute h ok params peers hm hex =>
    -- another command under way stays under way
    have hstill {callId} (hI' : LiveCall w callId ∨ HangupSent w callId)
        (hne : ∀ reason, params ≠ .hangup callId reason) :
        LiveCall w callId ∨ ∃ h' reason, (w.inflight.delete h).get? h' = some (.hangup callId reason) := by
      rcases hI' with hlive | ⟨h', reason, hsent⟩
      · exact .inl hlive
      · have hh : h' ≠ h := fun he => by
          rw [he, hm] at hsent
          exact hne reason (Option.some.inj hsent)
        exact .inr ⟨h', reason, (KeyMap.get?_delete_ne _ hh).trans hsent⟩
    intro callId hc
    cases hex with
    | @accepted callId' sdp servers =>
      refine hstill ?_ nofun
      rcases Finset.mem_insert.mp hc with rfl | hc
      · exact hsafe _ sdp servers hm rfl
      · exact hI callId hc
    | refused | candidate => exact hstill (hI callId hc) nofun
    | hungUp =>
      obtain ⟨hne, hc⟩ := Finset.mem_erase.mp hc
      refine hstill (hI callId hc) fun reason he => ?_
      cases he
      exact hne rfl
  | lost => exact fun callId hc => hI callId (Finset.mem_of_mem_erase hc)

theorem run_covered {config : WebRtcConfig} {w : World} {ls : List Label}
    (h : ((system config).restrict Safe).Run ls w) : Covered w := by
  refine h.invariant (I := fun _ w => Covered w) (fun w hw => ?_)
    fun _ _ _ _ hrun hI hs => step_covered (run_known hrun.of_restrict) hI hs.1 hs.2
  subst hw
  exact fun _ hc => absurd hc (Finset.notMem_empty _)

/-! ### An unsafe step leaves a peer behind -/

/-- A peer whose call has ended and whose hangup will not come. -/
def Orphan (w : World) (callId : String) : Prop :=
  callId ∈ w.peers ∧ ¬ HangupSent w callId ∧ EndedCall w.plugin.state.orchestrator callId

theorem live_not_ended {w : World} {callId : String} (hlive : LiveCall w callId) :
    ¬ EndedCall w.plugin.state.orchestrator callId := by
  rintro ⟨c, hc, ht⟩
  obtain ⟨c', hc', hl⟩ := hlive
  obtain rfl := Option.some.inj (hc.symm.trans hc')
  exact live_not_terminal hl ht

theorem send_quiet {m : KeyMap Nat InvokeParams} {es : List Effect} (hes : ∀ h r, .invoke h r ∉ es) :
    send m es = m := by
  unfold send
  induction es generalizing m with
  | nil => rfl
  | cons e rest ih =>
    rw [List.foldl_cons, ih fun h r hm => hes h r (List.mem_cons_of_mem _ hm)]
    cases e with
    | respond => rfl
    | invoke h r => exact absurd List.mem_cons_self (hes h r)

/-- A plugin step that ends the live call of a peer and sends nothing leaves an orphan. -/
theorem ended_orphan {w : World} {p : Plugin.World} {callId : String} (hK : Known w) (hpeer : callId ∈ w.peers)
    (hlive : LiveCall w callId) (hquiet : ∀ h r, .invoke h r ∉ news w.plugin.state.log p)
    (hend : EndedCall p.state.orchestrator callId) :
    Orphan {w with plugin := p, inflight := send w.inflight (news w.plugin.state.log p)} callId := by
  refine ⟨hpeer, ?_, hend⟩
  rintro ⟨h, reason, hm⟩
  rw [send_quiet hquiet] at hm
  exact live_not_ended hlive (hK.hungUp h callId reason hm)

theorem request_orphan {config : WebRtcConfig} {w : World} {p : Plugin.World} {req : Request} {ls : List Plugin.Label}
    (hK : Known w) (hrun : (Plugin.system config).Run ls w.plugin)
    (hp : Plugin.Step config w.plugin (.request req) p) (hm : req.method = .hangup)
    (hnone : req.registry.bind Plugin.findRtcNode = none)
    (hpeer : stringParam req.params "callId" "" ∈ w.peers)
    (hlive : LiveCall w (stringParam req.params "callId" "")) :
    Orphan {w with plugin := p, inflight := send w.inflight (news w.plugin.state.log p)}
      (stringParam req.params "callId" "") := by
  obtain ⟨c, hc, hl⟩ := hlive
  have hne : stringParam req.params "callId" "" ≠ "" := fun he => by
    obtain ⟨_, hh⟩ := Plugin.run_refines hrun
    rw [he, CallOrchestrator.getCall, (CallOrchestrator.run_admitted hh).named] at hc
    cases hc
  obtain ⟨o, hex, hend⟩ := Plugin.endCall_ends hc
    (show (if stringParam req.params "reason" "user" = "user" then RtcCallState.hangupUser
      else .hangupNode).terminal = true by split <;> rfl) (stringParam req.params "reason" "user") req.now
  obtain ⟨waiting, s, hhandle, rfl, hquiet⟩ := Plugin.rtcCallHangup_run (h := w.plugin.served) rfl hne hex
  cases hp
  have hstate : (w.plugin.request config req).state = s := by
    simp only [Plugin.World.request, Plugin.handle, hm, hhandle]
  refine ended_orphan hK hpeer ⟨c, hc, hl⟩ ?_ ?_
  · unfold news
    rw [hstate]
    exact hquiet hnone
  · rw [hstate]
    exact hend

theorem resume_orphan {w : World} {h : Nat} {outcome : InvokeOutcome} {now : Int} {s : Plugin.State}
    {callId : String} {v : Json} (hK : Known w)
    (hres : Plugin.Resumed h outcome now w.plugin.state (.start callId) s) (hd : outcome.decoded = .ok v)
    (hv : v.truthy = false) (hpeer : callId ∈ w.peers) (hlive : LiveCall w callId) {p : Plugin.World}
    (hp : p.state = s) :
    Orphan {w with plugin := p, inflight := send w.inflight (news w.plugin.state.log p)} callId := by
  obtain ⟨c, hc, hl⟩ := hlive
  obtain ⟨o, hex, hend⟩ := Plugin.endCall_ends hc (show RtcCallState.error.terminal = true from rfl)
    (Plugin.errDetail v) now
  have hop : Plugin.settlement callId v = .setError callId (Plugin.errDetail v) := if_neg (by rw [hv]; decide)
  have hex' : (Op.setError callId (Plugin.errDetail v)).exec now w.plugin.state.orchestrator = .ok () o := hex
  obtain ⟨es, hlog, hes⟩ := hres.sends
  refine ended_orphan hK hpeer ⟨c, hc, hl⟩ ?_ ?_
  · rw [news_eq (hp ▸ hlog)]
    exact hes
  · rcases Plugin.resume_settled hd hres with ⟨o', ho', hs⟩ | ⟨_, herr, _⟩
    · rw [hop, hex'] at ho'
      cases ho'
      rw [hp, hs]
      exact hend
    · rw [hop, hex'] at herr
      cases herr

theorem unsafe_orphan {config : WebRtcConfig} {w w' : World} {ls : List Label} {l : Label}
    (hrun : (system config).Run ls w) (hs : Step config w l w') (hbad : ¬ Safe w l) :
    ∃ callId, Orphan w' callId := by
  have hK := run_known hrun
  obtain ⟨ls', hrun'⟩ := run_plugin hrun
  cases hs with
  | @plugin l p hp _ =>
    cases l with
    | request req =>
      simp only [Safe, not_forall, not_not] at hbad
      obtain ⟨hm, hnone, hpeer, hlive⟩ := hbad
      exact ⟨_, request_orphan hK hrun' hp hm hnone hpeer hlive⟩
    | resume h outcome now =>
      obtain ⟨point, invoked, s, hwait, _, hres, rfl⟩ := hp.resumed
      simp only [Safe, not_forall, not_not] at hbad
      obtain ⟨callId, invoked', v, hwait', hd, hv, hpeer, hlive⟩ := hbad
      cases hwait.symm.trans hwait'
      exact ⟨callId, resume_orphan hK hres hd hv hpeer hlive rfl⟩
    | stop now =>
      simp only [Safe, not_forall, not_not] at hbad
      obtain ⟨callId, hpeer, hlive⟩ := hbad
      cases hp
      refine ⟨callId, ended_orphan hK hpeer hlive ?_ ?_⟩
      · rw [news_eq ((Plugin.stop_log now w.plugin.state).trans (List.append_nil _).symm)]
        exact fun _ _ => List.not_mem_nil
      · obtain ⟨c, hc, _⟩ := hlive
        obtain ⟨o, hstop, hcalls⟩ := Plugin.stop_run now (Plugin.run_keyed hrun')
        refine ⟨Plugin.shutDown now c, ?_, Plugin.shutDown_terminal now c⟩
        rw [Plugin.World.stop, hstop]
        exact (hcalls callId).trans (by rw [hc]; rfl)
  | @execute h ok params peers hm hex =>
    simp only [Safe, not_forall, not_or] at hbad
    obtain ⟨callId, sdp, servers, hm', rfl, hlive, hsent⟩ := hbad
    obtain rfl := Option.some.inj (hm.symm.trans hm')
    cases hex
    obtain ⟨c, hc⟩ := Option.isSome_iff_exists.mp (hK.offered h callId sdp servers hm)
    refine ⟨callId, Finset.mem_insert_self _ _, ?_, c, hc, ?_⟩
    · rintro ⟨h', reason, hh⟩
      exact hsent ⟨h', reason, (KeyMap.get?_delete_some hh).2⟩
    · by_contra ht
      exact hlive ⟨c, hc, by simpa [RtcCallRecord.live] using ht⟩
  | lost => exact absurd trivial hbad

/-! ### Everything under way can finish -/

/-- A step that only finishes what is under way. -/
def Finishes : Label → Prop
  | .plugin (.resume ..) | .execute .. => True
  | _ => False

theorem finishing_orphan {config : WebRtcConfig} {w w' : World} {l : Label} (hs : Step config w l w')
    (hl : Finishes l) {callId : String} (ho : Orphan w callId) : Orphan w' callId := by
  obtain ⟨hpeer, hsent, hend⟩ := ho
  cases hs with
  | @plugin l p hp _ =>
    cases l with
    | request | stop => exact hl.elim
    | resume h outcome now =>
      refine ⟨hpeer, ?_, hp.keeps_ended hend⟩
      rintro ⟨h', reason, hm⟩
      obtain ⟨point, invoked, s, _, _, hres, rfl⟩ := hp.resumed
      obtain ⟨es, hlog, hes⟩ := hres.sends
      rw [news_eq hlog, send_quiet hes] at hm
      exact hsent ⟨h', reason, hm⟩
  | @execute h ok params peers hm hex =>
    refine ⟨?_, fun ⟨h', reason, hm'⟩ => hsent ⟨h', reason, (KeyMap.get?_delete_some hm').2⟩, hend⟩
    cases hex with
    | accepted => exact Finset.mem_insert_of_mem hpeer
    | refused | candidate => exact hpeer
    | hungUp =>
      refine Finset.mem_erase.mpr ⟨?_, hpeer⟩
      rintro rfl
      exact hsent ⟨h, _, hm⟩
  | lost => exact hl.elim

/-- How much is under way. -/
def World.load (w : World) : Nat := w.inflight.entries.length + w.plugin.pending.entries.length

theorem execute_finishes (config : WebRtcConfig) {w : World} {h : Nat} {params : InvokeParams}
    (hm : w.inflight.get? h = some params) :
    ∃ l w', Step config w l w' ∧ Finishes l ∧ w'.load < w.load := by
  have hex : ∃ ok peers, Executes params ok w.peers peers := by
    cases params with
    | accept => exact ⟨false, _, .refused⟩
    | remoteCandidate => exact ⟨false, _, .candidate nofun⟩
    | hangup => exact ⟨true, _, .hungUp⟩
  obtain ⟨ok, peers, hex⟩ := hex
  exact ⟨.execute h ok, _, .execute hm hex, trivial, Nat.add_lt_add_right (KeyMap.length_delete_lt hm) _⟩

theorem resume_finishes (config : WebRtcConfig) {w : World} {h : Nat} {waiting : Plugin.Waiting}
    (hm : w.plugin.pending.get? h = some waiting) :
    ∃ l w', Step config w l w' ∧ Finishes l ∧ w'.load < w.load := by
  have houtcome : ∃ outcome, (waiting.invoked = true ↔ outcome ≠ .noNode) ∧
      Heard w (.resume h outcome 0) := by
    by_cases hi : waiting.invoked = true
    · exact ⟨.rejected "timeout", iff_of_true hi (fun he => by cases he), trivial⟩
    · exact ⟨.noNode, iff_of_false hi (fun hne => hne rfl), trivial⟩
  obtain ⟨outcome, hi, hheard⟩ := houtcome
  have hp : Plugin.Step config w.plugin (.resume h outcome 0) (w.plugin.resume h waiting.point outcome 0) :=
    .resume hm hi
  refine ⟨_, _, .plugin hp hheard, trivial, ?_⟩
  obtain ⟨point, invoked, s, _, _, hres, hw⟩ := hp.resumed
  obtain ⟨es, hlog, hes⟩ := hres.sends
  rw [World.load, World.load, hw, news_eq hlog, send_quiet hes]
  exact Nat.add_lt_add_left (KeyMap.length_delete_lt hm) _

/-- Every world can come to rest, and then has the orphans it had. -/
theorem drain (config : WebRtcConfig) (w : World) : ∃ ls w', (system config).Steps w ls w' ∧ Quiescent w' ∧
    ∀ callId, Orphan w callId → Orphan w' callId := by
  induction hn : w.load using Nat.strong_induction_on generalizing w with
  | _ n ih =>
    have hstep (h : ∃ l w', Step config w l w' ∧ Finishes l ∧ w'.load < w.load) :
        ∃ ls w', (system config).Steps w ls w' ∧ Quiescent w' ∧ ∀ callId, Orphan w callId → Orphan w' callId := by
      obtain ⟨l, w₁, hs, hl, hlt⟩ := h
      obtain ⟨ls, w', hsteps, hq, ho⟩ := ih w₁.load (hn ▸ hlt) w₁ rfl
      exact ⟨_, w', hsteps.cons hs, hq, fun callId h => ho callId (finishing_orphan hs hl h)⟩
    rcases w.inflight.empty_or_entry with hempty | ⟨h, params, hm⟩
    · rcases w.plugin.pending.empty_or_entry with hidle | ⟨h, waiting, hm⟩
      · exact ⟨[], w, .nil, ⟨hidle, hempty⟩, fun _ => id⟩
      · exact hstep (resume_finishes config hm)
    · exact hstep (execute_finishes config hm)

/-- **Which runs keep plugin and node agreed.** After a run of safe steps, the node
at rest holds connections of live calls only; and after any run, every step that is
not safe can come to a rest where the node holds the connection of an ended call. -/
theorem agreement (config : WebRtcConfig) :
    (∀ ls w, ((system config).restrict Safe).Run ls w → Quiescent w → Agree w) ∧
    ∀ ls w l w', (system config).Run ls w → Step config w l w' → ¬ Safe w l →
      ∃ ls' w'', (system config).Steps w' ls' w'' ∧ Quiescent w'' ∧ ¬ Agree w'' := by
  refine ⟨fun ls w hrun hq callId hc => ?_, fun ls w l w' hrun hs hbad => ?_⟩
  · rcases run_covered hrun callId hc with hlive | ⟨h, reason, hsent⟩
    · exact hlive
    · rw [hq.2 h] at hsent
      cases hsent
  · obtain ⟨callId, ho⟩ := unsafe_orphan hrun hs hbad
    obtain ⟨ls', w'', hsteps, hq, horphan⟩ := drain config w'
    obtain ⟨hpeer, _, hend⟩ := horphan callId ho
    exact ⟨ls', w'', hsteps, hq, fun hagree => live_not_ended (hagree callId hpeer) hend⟩

/-- The plugin after the node answered its call. -/
def demoAnswered : Plugin.World := Plugin.demoWaiting.resume 0 (.start Plugin.demoCall) Plugin.demoAnswer 1

/-- The call of the one start, after the node answered it. -/
def demoConnected : World := ⟨demoAnswered, .empty, KeyMap.empty.set 0 true, {Plugin.demoCall}⟩

theorem demoConnected_run : ((system Plugin.demoConfig).restrict Safe).Run
    [.plugin (.request Plugin.demoStart), .execute 0 true, .plugin (.resume 0 Plugin.demoAnswer 1)] demoConnected := by
  have hstart : Step Plugin.demoConfig ⟨.new Plugin.demoConfig, .empty, .empty, ∅⟩ (.plugin (.request Plugin.demoStart))
      ⟨Plugin.demoWaiting, KeyMap.empty.set 0 (.accept Plugin.demoCall "offer" defaultIceServers), .empty, ∅⟩ :=
    .plugin Plugin.demoWaiting_step trivial
  have haccept : Step Plugin.demoConfig
      ⟨Plugin.demoWaiting, KeyMap.empty.set 0 (.accept Plugin.demoCall "offer" defaultIceServers), .empty, ∅⟩ (.execute 0 true)
      ⟨Plugin.demoWaiting, .empty, KeyMap.empty.set 0 true, {Plugin.demoCall}⟩ :=
    .execute rfl .accepted
  have hanswer : Step Plugin.demoConfig ⟨Plugin.demoWaiting, .empty, KeyMap.empty.set 0 true, {Plugin.demoCall}⟩
      (.plugin (.resume 0 Plugin.demoAnswer 1)) demoConnected :=
    .plugin (Plugin.demoWaiting_resume Plugin.demoAnswer nofun 1) fun _ => rfl
  have hnew := System.Run.nil (M := (system Plugin.demoConfig).restrict Safe) rfl
  refine ((hnew.snoc ⟨hstart, fun hm => ?_⟩).snoc ⟨haccept, fun callId sdp servers hm _ => ?_⟩).snoc
    ⟨hanswer, fun callId invoked v _ hd hv => ?_⟩
  · cases hm
  · cases hm
    exact .inl ⟨_, rfl, rfl⟩
  · cases hd
    cases hv

/-- The hangup of that call, with the one node listed. -/
def demoEnd : Request := {Plugin.demoHangup with registry := some [Plugin.demoNode]}

/-- The plugin after the node answered the hangup. -/
def demoEnded : Plugin.World :=
  (demoAnswered.request Plugin.demoConfig demoEnd).resume 1 .hangup (.resolved {ok := true}) 3

/-- The call was hung up and the node closed its connection. -/
def demoHungUp : World :=
  ⟨demoEnded, .empty, (KeyMap.empty.set 0 true).set 1 true, ({Plugin.demoCall} : Finset String).erase Plugin.demoCall⟩

theorem demoHungUp_run : ((system Plugin.demoConfig).restrict Safe).Run
    [.plugin (.request Plugin.demoStart), .execute 0 true, .plugin (.resume 0 Plugin.demoAnswer 1),
      .plugin (.request demoEnd), .execute 1 true, .plugin (.resume 1 (.resolved {ok := true}) 3)] demoHungUp := by
  have hend : Step Plugin.demoConfig demoConnected (.plugin (.request demoEnd))
      ⟨demoAnswered.request Plugin.demoConfig demoEnd, KeyMap.empty.set 1 (.hangup Plugin.demoCall "user"),
        KeyMap.empty.set 0 true, {Plugin.demoCall}⟩ :=
    .plugin (.request (by decide) rfl) trivial
  have hclose : Step Plugin.demoConfig
      ⟨demoAnswered.request Plugin.demoConfig demoEnd, KeyMap.empty.set 1 (.hangup Plugin.demoCall "user"),
        KeyMap.empty.set 0 true, {Plugin.demoCall}⟩ (.execute 1 true)
      ⟨demoAnswered.request Plugin.demoConfig demoEnd, .empty, (KeyMap.empty.set 0 true).set 1 true,
        ({Plugin.demoCall} : Finset String).erase Plugin.demoCall⟩ :=
    .execute rfl .hungUp
  have htold : Step Plugin.demoConfig
      ⟨demoAnswered.request Plugin.demoConfig demoEnd, .empty, (KeyMap.empty.set 0 true).set 1 true,
        ({Plugin.demoCall} : Finset String).erase Plugin.demoCall⟩
      (.plugin (.resume 1 (.resolved {ok := true}) 3)) demoHungUp :=
    .plugin (@Plugin.Step.resume Plugin.demoConfig _ 1 ⟨.hangup, true⟩ _ 3 rfl (iff_of_true rfl nofun)) fun _ => rfl
  refine ((demoConnected_run.snoc ⟨hend, fun _ hnone => ?_⟩).snoc ⟨hclose, fun callId sdp servers hm => ?_⟩).snoc
    ⟨htold, fun callId invoked v hp => ?_⟩
  · cases hnone
  · cases hm
  · cases hp

/-- The answered call is live where its peer is, and the hung up call has none left. -/
theorem agreement_hungUp : LiveCall demoConnected Plugin.demoCall ∧ Agree demoHungUp :=
  ⟨(agreement Plugin.demoConfig).1 _ demoConnected demoConnected_run ⟨fun _ => rfl, fun _ => rfl⟩ Plugin.demoCall
      (Finset.mem_singleton_self _),
    (agreement Plugin.demoConfig).1 _ demoHungUp demoHungUp_run ⟨fun _ => rfl, fun _ => rfl⟩⟩

/-- A call was accepted and answered; then the service stopped. -/
def demoStopped : World := ⟨demoAnswered.stop fun _ => 2, .empty, KeyMap.empty.set 0 true, {Plugin.demoCall}⟩

theorem demoStopped_run : (system Plugin.demoConfig).Run
    [.plugin (.request Plugin.demoStart), .execute 0 true, .plugin (.resume 0 Plugin.demoAnswer 1),
      .plugin (.stop fun _ => 2)] demoStopped :=
  demoConnected_run.of_restrict.snoc (.plugin .stop trivial)

/-- The stop ends the call in the plugin and tells the node nothing. -/
theorem stop_abandons_peer :
    ¬ ∀ config ls w, (system config).Run ls w → Quiescent w → Agree w := by
  intro hall
  have hq : Quiescent demoStopped := ⟨fun _ => rfl, fun _ => rfl⟩
  obtain ⟨c, hc, hl⟩ := hall Plugin.demoConfig _ demoStopped demoStopped_run hq Plugin.demoCall
    (Finset.mem_singleton_self _)
  have hstate : (demoStopped.plugin.state.orchestrator.getCall Plugin.demoCall).map RtcCallRecord.live =
      some false := rfl
  rw [hc, Option.map_some, hl] at hstate
  cases hstate

end RtcPlugin.Agreement
