import RtcPlugin.Plugin.Agreement
import RtcPlugin.Plugin.HeldCalls

/-! An answered call has its connection.

A node may hold connections of calls that ended. The other way round nothing is missing: a
start is answered only once its accept took effect at the node, and no hangup is sent for a
call that has not ended. So a call that is connecting has its connection, and what is
forwarded for it finds the connection, unless that was lost (`answered_connected`). -/
namespace RtcPlugin.Agreement

open CallOrchestrator (Op)
open Plugin (EndedCall)

variable {config : WebRtcConfig} {ls : List Label} {l : Label} {w w' : World} {callId : String}

/-! ### What connects a call -/

/-- A call gets connected only by the start that waits for it, and only by a result. -/
theorem resumed_connecting {h : Nat} {outcome : InvokeOutcome} {now : Int} {s s' : Plugin.State} {point : Plugin.Await}
    (hres : Plugin.Resumed h outcome now s point s') {c c' : RtcCallRecord}
    (hc : s.orchestrator.getCall callId = some c) (hst : c.state ≠ .connecting)
    (hc' : s'.orchestrator.getCall callId = some c') (hst' : c'.state = .connecting) :
    point = .start callId ∧ ∃ r, outcome = .resolved r ∧ r.ok = true := by
  have hsame (h : s'.orchestrator.getCall callId = s.orchestrator.getCall callId) : False := by
    rw [h, hc] at hc'
    cases hc'
    exact hst hst'
  cases hres with
  | rejected | forwarded | late => exact (hsame rfl).elim
  | @settled id v o hd hex =>
    by_cases hid : callId = id
    · subst hid
      by_cases hv : v.truthy = true
      · refine ⟨rfl, ?_⟩
        cases outcome with
        | noNode =>
          cases hd
          cases hv
        | rejected => cases hd
        | resolved r =>
          refine ⟨r, rfl, ?_⟩
          by_contra hok
          have hnull : decodeInvokeResult r = .null := if_neg hok
          rw [InvokeOutcome.decoded, hnull] at hd
          cases hd
          cases hv
      · rw [show Plugin.settlement callId v = _ from if_neg hv] at hex
        have hset : o.getCall callId = some c' := hc'
        obtain ⟨-, hkept⟩ | ⟨-, hended⟩ := Plugin.endCall_told hex hc
        · exact (hsame (hkept.trans hc.symm)).elim
        · rw [hset] at hended
          cases hended
          cases hst'
    · have hnamed : callId ≠ (Plugin.settlement id v).callId := by
        unfold Plugin.settlement
        split <;> exact hid
      exact (hsame ((CallOrchestrator.exec_does hex).other hnamed)).elim

/-! ### Where the accept took effect -/

/-- The call's accept took effect in the run, and the connection it made is there as long as
the call has not ended and the connection was not lost. -/
structure Accepted (config : WebRtcConfig) (ls : List Label) (w : World) (callId : String) : Prop where
  call : (w.plugin.state.orchestrator.getCall callId).isSome = true
  accepted : ∃ before h w₁ w₂ after, ls = before ++ .execute h true :: after ∧ (system config).Run before w₁ ∧
    (∃ sdp servers, w₁.inflight.get? h = some (.accept callId sdp servers)) ∧ Step config w₁ (.execute h true) w₂ ∧
    (system config).Steps w₂ after w ∧ (.lost callId ∉ after → LiveCall w callId → callId ∈ w.peers)

theorem ended_or_live (h : (w.plugin.state.orchestrator.getCall callId).isSome = true) :
    EndedCall w.plugin.state.orchestrator callId ∨ LiveCall w callId := by
  obtain ⟨c, hc⟩ := Option.isSome_iff_exists.mp h
  cases ht : c.state.terminal with
  | true => exact .inl ⟨c, hc, ht⟩
  | false => exact .inr ⟨c, hc, by rw [RtcCallRecord.live, ht]; rfl⟩

/-- A step of the plugin or of the node takes no connection of a call that goes on. -/
theorem step_keeps_peer (hK : Known w) (hs : Step config w l w')
    (hcall : (w.plugin.state.orchestrator.getCall callId).isSome = true) (hlive : LiveCall w' callId)
    (hlost : l ≠ .lost callId) (hpeer : LiveCall w callId → callId ∈ w.peers) : callId ∈ w'.peers := by
  cases hs with
  | plugin hp _ =>
    rcases ended_or_live hcall with hended | hbefore
    · exact absurd (hp.keeps_ended hended) (live_not_ended hlive)
    · exact hpeer hbefore
  | @execute h ok params peers hm hex =>
    have hmem : callId ∈ w.peers := hpeer hlive
    cases hex with
    | accepted => exact Finset.mem_insert_of_mem hmem
    | refused | candidate => exact hmem
    | hungUp =>
      refine Finset.mem_erase.mpr ⟨?_, hmem⟩
      rintro rfl
      -- a hangup is under way only for a call that has ended
      exact live_not_ended hlive (hK.hungUp h _ _ hm)
  | @lost id => exact Finset.mem_erase.mpr ⟨fun he => hlost (he ▸ rfl), hpeer hlive⟩

theorem Accepted.step (hK : Known w) (h : Accepted config ls w callId) (hs : Step config w l w') :
    Accepted config (ls ++ [l]) w' callId := by
  obtain ⟨hcall, before, n, w₁, w₂, after, hsplit, hrun, hsent, hexecuted, hsteps, hpeer⟩ := h
  refine ⟨?_, before, n, w₁, w₂, after ++ [l], ?_, hrun, hsent, hexecuted, hsteps.snoc hs, fun hlost hlive => ?_⟩
  · cases hs with
    | plugin hp _ => exact hp.keeps_calls hcall
    | execute | lost => exact hcall
  · rw [hsplit, List.append_assoc, List.cons_append]
  · rw [List.mem_append, not_or] at hlost
    refine step_keeps_peer hK hs hcall hlive (fun he => hlost.2 ?_) (hpeer hlost.1)
    rw [he]
    exact List.mem_singleton_self _

/-- An accept that takes effect makes the connection. -/
theorem Accepted.executed (hrun : (system config).Run ls w) {h : Nat} {sdp : String} {servers : List IceServer}
    (hsent : w.inflight.get? h = some (.accept callId sdp servers)) (hs : Step config w (.execute h true) w') :
    Accepted config (ls ++ [.execute h true]) w' callId := by
  have hcall := (run_known hrun).offered h callId sdp servers hsent
  refine ⟨?_, ls, h, w, w', [], rfl, hrun, ⟨sdp, servers, hsent⟩, hs, .nil, fun _ _ => ?_⟩
  · cases hs with
    | execute => exact hcall
  · cases hs with
    | execute hm hex =>
      cases hsent.symm.trans hm
      cases hex
      exact Finset.mem_insert_self _ _

/-! ### Answers wait for accepts -/

/-- What a start waits for is its accept, and once that succeeded, or the call is connecting, the
accept took effect. -/
structure Answered (config : WebRtcConfig) (ls : List Label) (w : World) : Prop where
  unfinished : ∀ h, w.plugin.served ≤ h → w.finished.get? h = none
  asked : ∀ h callId invoked params, w.plugin.pending.get? h = some ⟨.start callId, invoked⟩ →
    w.inflight.get? h = some params → ∃ sdp servers, params = .accept callId sdp servers
  succeeded : ∀ h callId invoked, w.plugin.pending.get? h = some ⟨.start callId, invoked⟩ →
    w.finished.get? h = some true → Accepted config ls w callId
  connecting : ∀ callId c, w.plugin.state.orchestrator.getCall callId = some c → c.state = .connecting →
    Accepted config ls w callId

/-- A start that waits waited before, or has just sent its accept. -/
theorem step_waits {w p : Plugin.World} {l : Plugin.Label} (hp : Plugin.Step config w l p) {h : Nat} {invoked : Bool}
    (hwait : p.pending.get? h = some ⟨.start callId, invoked⟩) : w.pending.get? h = some ⟨.start callId, invoked⟩ ∨
      h = w.served ∧ ∀ r, .invoke h r ∈ news w.state.log p → ∃ sdp servers, r.params = .accept callId sdp servers := by
  obtain ⟨req, waiting, s, rfl, -, -, hreq, rfl⟩ | ⟨id, point, invoked', outcome, now, s, rfl, -, -, -, rfl⟩ | ⟨now, rfl, rfl⟩ :=
    hp.cases
  · cases waiting with
    | none => exact .inl hwait
    | some waiting =>
      obtain ⟨rfl, hself⟩ | ⟨-, hold⟩ := KeyMap.get?_set_some hwait
      · refine .inr ⟨rfl, fun r hr => ?_⟩
        subst hself
        cases hreq with
        | @started nodes params _ _ _ _ =>
          rw [news_eq rfl] at hr
          exact ⟨_, _, (Plugin.mem_invocation hr).2.1⟩
        | told hf _ _ => cases hf
      · exact .inl hold
  · exact .inl (KeyMap.get?_delete_some hwait).2
  · exact .inl hwait

/-- A step that connects a call resumes the start that waits for it, with a result. -/
theorem step_connects {w p : Plugin.World} {ls : List Plugin.Label} {l : Plugin.Label} (hrun : (Plugin.system config).Run ls w)
    (hp : Plugin.Step config w l p) {c c' : RtcCallRecord} (hc : w.state.orchestrator.getCall callId = some c)
    (hst : c.state ≠ .connecting) (hc' : p.state.orchestrator.getCall callId = some c') (hst' : c'.state = .connecting) :
    ∃ h r now invoked, l = .resume h (.resolved r) now ∧ r.ok = true ∧ w.pending.get? h = some ⟨.start callId, invoked⟩ := by
  have hrecord := Plugin.Step.record hrun hp hc
  rw [hc'] at hrecord
  obtain hsame | ⟨op, now, c'', -, hasks, htold, hc''⟩ | ⟨now, -, hstopped⟩ := hrecord
  · cases hsame
    exact absurd hst' hst
  · cases hc''
    cases htold with
    | ended | candidate => exact absurd hst' hst
    | hungUp =>
      dsimp only at hst'
      split at hst' <;> cases hst'
    | failed => cases hst'
    | answered hinit =>
      cases hasks with
      | @answer h invoked outcome now' _ _ hwait =>
        obtain ⟨point, invoked', s, hwait', -, hres, rfl⟩ := hp.resumed
        obtain ⟨rfl, r, rfl, hok⟩ := resumed_connecting hres hc hst hc' hst'
        exact ⟨h, r, now', invoked', rfl, hok, hwait'⟩
  · cases hstopped
    have hterminal := Plugin.shutDown_terminal now c
    rw [hst'] at hterminal
    cases hterminal

theorem Answered.plugin (hrun : (system config).Run ls w) (hI : Answered config ls w) {l : Plugin.Label} {p : Plugin.World}
    (hp : Plugin.Step config w.plugin l p) (hheard : Heard w l) :
    Answered config (ls ++ [.plugin l]) {w with plugin := p, inflight := send w.inflight (news w.plugin.state.log p)} := by
  have hK := run_known hrun
  have hs : Step config w (.plugin l) {w with plugin := p, inflight := send w.inflight (news w.plugin.state.log p)} :=
    .plugin hp hheard
  obtain ⟨ls', hrun'⟩ := run_plugin hrun
  constructor
  · exact fun h hle => hI.unfinished h (Nat.le_trans hp.served_le hle)
  · intro h callId invoked params hwait hsent
    rcases step_waits hp hwait with hold | ⟨rfl, hnew⟩
    · rcases send_mem hsent with hsent | ⟨r, hr, -⟩
      · exact hI.asked h callId invoked params hold hsent
      · -- the numbers of new handlers are new
        rw [(news_invoke hp hr).1, ((Plugin.run_served hrun').future _ (Nat.le_refl _)).1] at hold
        cases hold
    · rcases send_mem hsent with hsent | ⟨r, hr, rfl⟩
      · exact absurd (hK.numbered _ _ hsent) (Nat.lt_irrefl _)
      · exact hnew r hr
  · intro h callId invoked hwait hdone
    rcases step_waits hp hwait with hold | ⟨rfl, -⟩
    · exact (hI.succeeded h callId invoked hold hdone).step hK hs
    · exact nomatch (hI.unfinished _ (Nat.le_refl _)).symm.trans hdone
  · intro callId c' hc' hst'
    cases hget : w.plugin.state.orchestrator.getCall callId with
    | none =>
      obtain ⟨params, now, rfl⟩ := Plugin.Step.created hrun' hp hget hc'
      cases hst'
    | some c =>
      by_cases hst : c.state = .connecting
      · exact (hI.connecting callId c hget hst).step hK hs
      · obtain ⟨h, r, now, invoked, rfl, hok, hwait⟩ := step_connects hrun' hp hget hst hc' hst'
        exact (hI.succeeded h callId invoked hwait (hheard hok)).step hK hs

theorem step_answered (hrun : (system config).Run ls w) (hI : Answered config ls w) (hs : Step config w l w') :
    Answered config (ls ++ [l]) w' := by
  have hK := run_known hrun
  cases hs with
  | plugin hp hheard => exact hI.plugin hrun hp hheard
  | @execute h ok params peers hm hex =>
    have hs : Step config w (.execute h ok) _ := .execute hm hex
    constructor
    · intro h' hle
      have hne : h' ≠ h := Nat.ne_of_gt (Nat.lt_of_lt_of_le (hK.numbered h params hm) hle)
      exact (KeyMap.get?_set_ne _ _ hne).trans (hI.unfinished h' hle)
    · exact fun h' callId invoked params' hwait hsent =>
        hI.asked h' callId invoked params' hwait (KeyMap.get?_delete_some hsent).2
    · intro h' callId invoked hwait hdone
      obtain ⟨rfl, rfl⟩ | ⟨-, hold⟩ := KeyMap.get?_set_some hdone
      · obtain ⟨sdp, servers, rfl⟩ := hI.asked h' callId invoked params hwait hm
        exact .executed hrun hm hs
      · exact (hI.succeeded h' callId invoked hwait hold).step hK hs
    · exact fun callId c hc hst => (hI.connecting callId c hc hst).step hK hs
  | @lost id =>
    have hs : Step config w (.lost id) {w with peers := w.peers.erase id} := .lost
    exact ⟨hI.unfinished, hI.asked, fun h callId invoked hwait hdone => (hI.succeeded h callId invoked hwait hdone).step hK hs,
      fun callId c hc hst => (hI.connecting callId c hc hst).step hK hs⟩

theorem run_answered (h : (system config).Run ls w) : Answered config ls w := by
  refine h.invariant (I := fun ls w => Answered config ls w) (fun w hw => ?_) fun _ _ _ _ hrun hI hs => step_answered hrun hI hs
  subst hw
  exact ⟨fun _ _ => rfl, nofun, nofun, nofun⟩

/-- **An answered call has its connection.** In every run of the plugin and its node, with
commands executed in any order and waits that end before them, a call that is connecting had
its accept take effect once the node had it, and the connection that made is there unless it
was lost since. -/
theorem answered_connected (hrun : (system config).Run ls w) {c : RtcCallRecord}
    (hc : w.plugin.state.orchestrator.getCall callId = some c) (hst : c.state = .connecting) :
    ∃ before h w₁ w₂ after, ls = before ++ .execute h true :: after ∧ (system config).Run before w₁ ∧
      (∃ sdp servers, w₁.inflight.get? h = some (.accept callId sdp servers)) ∧ Step config w₁ (.execute h true) w₂ ∧
      (system config).Steps w₂ after w ∧ (.lost callId ∉ after → callId ∈ w.peers) := by
  obtain ⟨-, before, h, w₁, w₂, after, hsplit, hbefore, hsent, hexecuted, hafter, hpeer⟩ := (run_answered hrun).connecting _ c hc hst
  have hlive : LiveCall w callId := ⟨c, hc, by rw [RtcCallRecord.live, hst]; rfl⟩
  exact ⟨before, h, w₁, w₂, after, hsplit, hbefore, hsent, hexecuted, hafter, fun hlost => hpeer hlost hlive⟩

theorem answered_connected_demo : ∃ before h after,
    [.plugin (.request Plugin.demoStart), .execute 0 true, .plugin (.resume 0 Plugin.demoAnswer 1)] =
      before ++ Label.execute h true :: after ∧ (.lost Plugin.demoCall ∉ after → Plugin.demoCall ∈ demoConnected.peers) := by
  have hcall : demoConnected.plugin.state.orchestrator.getCall Plugin.demoCall =
      some ⟨Plugin.demoCall, "s1", .connecting, "offer", some (.str "answer"), 0, none, none, none, [], [], []⟩ := rfl
  obtain ⟨before, h, _, _, after, hsplit, -, -, -, -, hpeer⟩ := answered_connected demoConnected_run.of_restrict hcall rfl
  exact ⟨before, h, after, hsplit, hpeer⟩

end RtcPlugin.Agreement
