import RtcPlugin.Plugin.Affinity

/-! Candidates: what a record keeps and what the node is told.

The orchestrator ignores a candidate of a call that has ended, but it does so
without a word: the handler goes on and sends the candidate to the node. The two
sequences of a call grow together except there, and then they stay apart, because
the record of an ended call is frozen and the log only grows. -/
namespace RtcPlugin.Plugin

open CallOrchestrator (Op)

/-- The candidates of a call that were sent to a node, in order. -/
def forwardedCandidates (callId : String) (log : List Effect) : List Json :=
  log.filterMap fun
    | .invoke _ r =>
      match r.params with
      | .remoteCandidate id candidate => if id = callId then some candidate else none
      | _ => none
    | .respond .. => none

/-- The remote candidates in the record of a call. -/
def recordedCandidates (callId : String) (o : CallOrchestrator) : List Json :=
  ((o.getCall callId).map RtcCallRecord.remoteCandidates).getD []

/-- Each call's record holds the candidates its node was told. -/
def CandidatesAgree (w : World) : Prop :=
  ∀ callId, forwardedCandidates callId w.state.log = recordedCandidates callId w.state.orchestrator

/-- No candidate of a call that had ended in `w` was recorded or sent since. -/
def EndedQuiet (w w' : World) : Prop :=
  ∀ callId, EndedCall w.state.orchestrator callId →
    forwardedCandidates callId w'.state.log = forwardedCandidates callId w.state.log ∧
      recordedCandidates callId w'.state.orchestrator = recordedCandidates callId w.state.orchestrator

/-- A candidate comes with a registry in which a node is connected. -/
def NodeListed : Label → Prop
  | .request req => req.method = .ice → (req.registry.bind findRtcNode).isSome = true
  | _ => True

/-- A candidate of a call that has ended. -/
def Late (o : CallOrchestrator) (req : Request) : Prop :=
  req.method = .ice ∧ EndedCall o (stringParam req.params "callId" "") ∧
    ∃ candidate, optGet? req.params "candidate" = some candidate ∧ candidate.truthy = true

def Timely (w : World) : Label → Prop
  | .request req => ¬ Late w.state.orchestrator req
  | _ => True

/-! ### The two sequences under the effects -/

@[simp] theorem forwardedCandidates_append (callId : String) (log es : List Effect) :
    forwardedCandidates callId (log ++ es) = forwardedCandidates callId log ++ forwardedCandidates callId es :=
  List.filterMap_append ..

theorem forwardedCandidates_invocation {h : Nat} {nodes : List NodeSession} {params : InvokeParams} {key : String}
    {callId : String} (hp : ∀ candidate, params ≠ .remoteCandidate callId candidate) :
    forwardedCandidates callId (invocation h nodes params key) = [] := by
  unfold invocation
  cases findRtcNode nodes with
  | none => rfl
  | some node =>
    cases params with
    | remoteCandidate id candidate =>
      have hid : id ≠ callId := fun he => hp candidate (by rw [he])
      simp [forwardedCandidates, hid]
    | accept | hangup => rfl

theorem forwardedCandidates_candidate {h : Nat} {nodes : List NodeSession} {key callId : String} {candidate : Json}
    (hn : (findRtcNode nodes).isSome = true) :
    forwardedCandidates callId (invocation h nodes (.remoteCandidate callId candidate) key) = [candidate] := by
  obtain ⟨node, hn⟩ := Option.isSome_iff_exists.mp hn
  simp [forwardedCandidates, invocation, hn]

theorem recordedCandidates_some {callId : String} {o : CallOrchestrator} {c : RtcCallRecord}
    (hc : o.getCall callId = some c) : recordedCandidates callId o = c.remoteCandidates := by
  rw [recordedCandidates, hc]
  rfl

theorem recordedCandidates_congr {callId : String} {o o' : CallOrchestrator}
    (h : o'.getCall callId = o.getCall callId) : recordedCandidates callId o' = recordedCandidates callId o := by
  rw [recordedCandidates, h, recordedCandidates]

/-- Only a remote candidate is recorded as one. -/
theorem RecordStep.remote {now : Int} {c c' : RtcCallRecord} {op : Op} (h : CallOrchestrator.RecordStep now c op c')
    (hop : ∀ id candidate, op ≠ .handleIceCandidate id candidate .remote) :
    c'.remoteCandidates = c.remoteCandidates := by
  cases h with
  | remoteCandidate => exact absurd rfl (hop _ _)
  | answered | localCandidate | activated | ended | said => rfl

theorem Does.recorded {now : Int} {o o' : CallOrchestrator} {op : Op} (h : CallOrchestrator.Does now o op o')
    (hfresh : CallOrchestrator.Fresh o op) (hop : ∀ id candidate, op ≠ .handleIceCandidate id candidate .remote)
    (callId : String) : recordedCandidates callId o' = recordedCandidates callId o := by
  by_cases hid : callId = op.callId
  · subst hid
    cases hc : o.getCall op.callId with
    | some c =>
      rcases h.self hfresh hc with ⟨hself, _⟩ | ⟨c', hself, hrec⟩
      · rw [recordedCandidates_some hself, recordedCandidates_some hc]
      · rw [recordedCandidates_some hself, recordedCandidates_some hc, RecordStep.remote hrec hop]
    | none =>
      cases hc' : o'.getCall op.callId with
      | none => exact recordedCandidates_congr (hc'.trans hc.symm)
      | some c' =>
        obtain ⟨params, uuid, _, rfl⟩ := h.created hc hc'
        rw [recordedCandidates_some hc', recordedCandidates, hc]
        rfl
  · exact recordedCandidates_congr (h.other hid)

/-- A candidate that the orchestrator takes is recorded unless its call has ended. -/
theorem handleIceCandidate_recorded {o o' : CallOrchestrator} {now : Int} {id : String} {candidate : Json}
    (hex : (Op.handleIceCandidate id candidate .remote).exec now o = .ok () o') :
    (EndedCall o id ∧ o' = o) ∨ ¬ EndedCall o id ∧
      recordedCandidates id o' = recordedCandidates id o ++ [candidate] := by
  simp only [Op.exec, CallOrchestrator.handleIceCandidate, Throwing.bind_run, CallOrchestrator.requireCall_run] at hex
  cases hc : o.calls.get? id with
  | none =>
    rw [hc] at hex
    cases hex
  | some c =>
    by_cases ht : c.state.terminal = true
    · simp only [hc, ht, if_true] at hex
      cases hex
      exact .inl ⟨⟨c, hc, ht⟩, rfl⟩
    · simp only [hc, ht] at hex
      cases hex
      refine .inr ⟨fun hended => ?_, ?_⟩
      · obtain ⟨c', hc', ht'⟩ := hended
        obtain rfl : c = c' := Option.some.inj (hc.symm.trans hc')
        exact ht ht'
      · rw [recordedCandidates_some hc]
        exact recordedCandidates_some (getCall_modifyCall hc _)

/-! ### One step -/

/-- What a step adds to a call's two sequences: the same candidates, unless one
comes too late, which only the node is told. -/
theorem Step.candidates {config : WebRtcConfig} {ls : List Label} {w w' : World} {l : Label}
    (hrun : (system config).Run ls w) (hs : Step config w l w') (hconn : NodeListed l) (callId : String) :
    ∃ told kept, forwardedCandidates callId w'.state.log = forwardedCandidates callId w.state.log ++ told ∧
      recordedCandidates callId w'.state.orchestrator = recordedCandidates callId w.state.orchestrator ++ kept ∧
      kept.length ≤ told.length ∧ (Timely w l → kept = told) := by
  have hsame {es : List Effect} {s : State} (hlog : s.log = w.state.log ++ es)
      (hes : forwardedCandidates callId es = [])
      (hrec : recordedCandidates callId s.orchestrator = recordedCandidates callId w.state.orchestrator) :
      ∃ told kept, forwardedCandidates callId s.log = forwardedCandidates callId w.state.log ++ told ∧
        recordedCandidates callId s.orchestrator = recordedCandidates callId w.state.orchestrator ++ kept ∧
        kept.length ≤ told.length ∧ (Timely w l → kept = told) :=
    ⟨[], [], by rw [hlog, forwardedCandidates_append, hes], by rw [hrec, List.append_nil], Nat.le_refl _,
      fun _ => rfl⟩
  rcases hs.cases with ⟨req, waiting, s, rfl, hne, hnew, hreq, rfl⟩ |
    ⟨id, point, invoked, outcome, now, s, rfl, _, _, hres, rfl⟩ | ⟨now, rfl, rfl⟩
  · cases hreq with
    | declined | reported => exact hsame rfl rfl rfl
    | @started nodes params _ _ hcap hfree =>
      exact hsame rfl (forwardedCandidates_invocation nofun)
        (Does.recorded (@CallOrchestrator.Does.started req.now _ _ params req.uuid rfl hcap hfree) ⟨hne, hnew⟩ nofun
          callId)
    | untold hf hr hex =>
      cases hf with
      | candidate hm => exact absurd (hconn hm) (by rw [hr]; exact Bool.false_ne_true)
      | hangup => exact hsame rfl rfl (Does.recorded (CallOrchestrator.exec_does hex) trivial nofun callId)
    | @told nodes _ _ _ _ hf hr hex =>
      cases hf with
      | hangup =>
        exact hsame rfl (forwardedCandidates_invocation nofun)
          (Does.recorded (CallOrchestrator.exec_does hex) trivial nofun callId)
      | @candidate id candidate hm hid hc ht =>
        by_cases hcall : callId = id
        · subst hcall
          have hn : (findRtcNode nodes).isSome = true := by
            have := hconn hm
            rwa [hr] at this
          rcases handleIceCandidate_recorded hex with ⟨hend, rfl⟩ | ⟨_, hrec⟩
          · refine ⟨[candidate], [], ?_, (List.append_nil _).symm, Nat.zero_le _, fun htimely => ?_⟩
            · show forwardedCandidates callId (_ ++ _) = _
              rw [forwardedCandidates_append, forwardedCandidates_candidate hn]
            · exact absurd ⟨hm, by rw [hid]; exact hend, candidate, hc, ht⟩ htimely
          · refine ⟨[candidate], [candidate], ?_, hrec, Nat.le_refl _, fun _ => rfl⟩
            show forwardedCandidates callId (_ ++ _) = _
            rw [forwardedCandidates_append, forwardedCandidates_candidate hn]
        · refine hsame rfl (forwardedCandidates_invocation fun x hx => hcall ?_) (recordedCandidates_congr
            ((CallOrchestrator.exec_does hex).other hcall))
          injection hx with hx
          exact hx.symm
  · cases hres with
    | rejected | forwarded | late => exact hsame rfl rfl rfl
    | @settled id' v o _ hex =>
      refine hsame rfl ?_ (Does.recorded (CallOrchestrator.exec_does hex) ?_ ?_ callId)
      · unfold reply
        split <;> rfl
      · unfold settlement
        split <;> trivial
      · unfold settlement
        split <;> exact nofun
  · obtain ⟨o, ho, hget⟩ := stop_run now (run_keyed hrun)
    refine hsame ((stop_log now w.state).trans (List.append_nil _).symm) rfl ?_
    have hstop : (w.stop now).state.orchestrator = o := by
      rw [World.stop, ho]
      rfl
    rw [hstop, recordedCandidates, hget callId, recordedCandidates]
    cases w.state.orchestrator.getCall callId with
    | none => rfl
    | some c =>
      show (shutDown now c).remoteCandidates = c.remoteCandidates
      unfold shutDown
      split <;> rfl

theorem handleIceCandidate_ended {o : CallOrchestrator} {id : String} (hend : EndedCall o id) (candidate : Json)
    (direction : Direction) : CallOrchestrator.handleIceCandidate id candidate direction o = .ok () o := by
  obtain ⟨c, hc, ht⟩ := hend
  have hc : o.calls.get? id = some c := hc
  simp [CallOrchestrator.handleIceCandidate, CallOrchestrator.requireCall_run, hc, ht]

/-- The handler does not see that the candidate was ignored. -/
theorem rtcCallIce_late {h : Nat} {req : Request} {s : State} {callId : String} {candidate : Json}
    {nodes : List NodeSession} (hid : stringParam req.params "callId" "" = callId) (hne : callId ≠ "")
    (hc : optGet? req.params "candidate" = some candidate) (ht : candidate.truthy = true)
    (hend : EndedCall s.orchestrator callId) (hr : req.registry = some nodes) :
    rtcCallIce h req s = .ok (some ⟨.ice, (findRtcNode nodes).isSome⟩)
      (s.emit (invocation h nodes (.remoteCandidate callId candidate) req.key)) := by
  have hforward := forward_run h req (.remoteCandidate callId candidate) .ice s
  rw [InvokeParams.command] at hforward
  simp [rtcCallIce, hc, hid, hne, ht, handleIceCandidate_ended hend, hforward, hr]

theorem NodeListed.node {req : Request} (hconn : NodeListed (.request req)) (hm : req.method = .ice) :
    ∃ nodes, req.registry = some nodes ∧ (findRtcNode nodes).isSome = true := by
  have hnode := hconn hm
  cases hr : req.registry with
  | none =>
    rw [hr] at hnode
    cases hnode
  | some nodes =>
    rw [hr] at hnode
    exact ⟨nodes, rfl, hnode⟩

/-- A late candidate is sent on, and no record takes it. -/
theorem Step.late {config : WebRtcConfig} {ls : List Label} {w w' : World} {l : Label}
    (hrun : (system config).Run ls w) (hs : Step config w l w') (hconn : NodeListed l) (hlate : ¬ Timely w l) :
    ∃ callId candidate,
      forwardedCandidates callId w'.state.log = forwardedCandidates callId w.state.log ++ [candidate] ∧
      recordedCandidates callId w'.state.orchestrator = recordedCandidates callId w.state.orchestrator := by
  cases hs with
  | resume | stop => exact absurd trivial hlate
  | @request req _ _ =>
    obtain ⟨hm, hend, candidate, hc, ht⟩ := not_not.mp hlate
    generalize hid : stringParam req.params "callId" "" = callId at hend
    have hne : callId ≠ "" := fun he => by
      obtain ⟨_, hh⟩ := run_refines hrun
      obtain ⟨c, hcall, _⟩ := hend
      rw [he, CallOrchestrator.getCall, (CallOrchestrator.run_admitted hh).named] at hcall
      cases hcall
    obtain ⟨nodes, hr, hn⟩ := hconn.node hm
    refine ⟨callId, candidate, ?_, ?_⟩
    all_goals simp only [World.request, handle, hm, rtcCallIce_late hid hne hc ht hend hr]
    · show forwardedCandidates callId (_ ++ _) = _
      rw [forwardedCandidates_append, forwardedCandidates_candidate hn]
    · rfl

/-! ### Whole runs -/

/-- What is recorded was told: the second sequence is never the longer one. -/
theorem run_candidates_le {config : WebRtcConfig} {ls : List Label} {w : World} (hrun : (system config).Run ls w)
    (hconn : ∀ l ∈ ls, NodeListed l) (callId : String) :
    (recordedCandidates callId w.state.orchestrator).length ≤ (forwardedCandidates callId w.state.log).length := by
  refine hrun.invariant (I := fun ls w => (∀ l ∈ ls, NodeListed l) →
      (recordedCandidates callId w.state.orchestrator).length ≤ (forwardedCandidates callId w.state.log).length)
    (fun w hw _ => ?_) (fun ls w l w' hrun ih hs hconn => ?_) hconn
  · subst hw
    exact Nat.le_refl _
  · have hlast := hconn l (List.mem_append_right _ (List.mem_singleton_self l))
    obtain ⟨told, kept, htold, hkept, hle, _⟩ := Step.candidates hrun hs hlast callId
    rw [htold, hkept, List.length_append, List.length_append]
    exact Nat.add_le_add (ih fun l hl => hconn l (List.mem_append_left _ hl)) hle

/-- Where the sequences agree after a step they did before, and nothing came late. -/
theorem Step.agreed {config : WebRtcConfig} {ls : List Label} {w w' : World} {l : Label}
    (hrun : (system config).Run ls w) (hs : Step config w l w') (hconn : ∀ l' ∈ ls ++ [l], NodeListed l')
    (hagree : CandidatesAgree w') : CandidatesAgree w ∧ Timely w l := by
  have hlast := hconn l (List.mem_append_right _ (List.mem_singleton_self l))
  have hle (callId : String) := run_candidates_le hrun (fun l hl => hconn l (List.mem_append_left _ hl)) callId
  constructor
  · intro callId
    obtain ⟨told, kept, htold, hkept, hlen, _⟩ := Step.candidates hrun hs hlast callId
    have heq := hagree callId
    rw [htold, hkept] at heq
    have hsum := congrArg List.length heq
    rw [List.length_append, List.length_append] at hsum
    have := hle callId
    exact (List.append_inj heq (by omega)).1
  · by_contra hlate
    obtain ⟨callId, candidate, htold, hkept⟩ := Step.late hrun hs hlast hlate
    have hsum := congrArg List.length (hagree callId)
    rw [htold, hkept, List.length_append, List.length_singleton] at hsum
    have := hle callId
    omega

/-- The same for any number of steps. -/
theorem steps_agreed {config : WebRtcConfig} {ls ls' : List Label} {w w' : World} (hrun : (system config).Run ls w)
    (hs : (system config).Steps w ls' w') (hconn : ∀ l ∈ ls ++ ls', NodeListed l) (hagree : CandidatesAgree w') :
    CandidatesAgree w := by
  induction hs with
  | nil => exact hagree
  | @snoc ls' l t u hs hl ih =>
    rw [← List.append_assoc] at hconn
    exact ih (fun l hl => hconn l (List.mem_append_left _ hl)) (Step.agreed (hrun.append hs) hl hconn hagree).1

/-- The candidates of an ended call stay as they are. -/
theorem steps_recorded {config : WebRtcConfig} {ls : List Label} {w w' : World} (hs : (system config).Steps w ls w')
    {callId : String} (hend : EndedCall w.state.orchestrator callId) :
    recordedCandidates callId w'.state.orchestrator = recordedCandidates callId w.state.orchestrator := by
  obtain ⟨c, hc, ht⟩ := hend
  obtain ⟨c', hc', hlater⟩ := steps_later hs hc
  rw [recordedCandidates_some hc, recordedCandidates_some hc', hlater.frozen ht]

/-- **Candidates agree.** While a node is connected, what each record holds is at
all times what its node was told, and an ended call hears of no more candidates,
exactly in the runs in which no candidate comes after the end of its call. -/
theorem candidates_agree_iff {config : WebRtcConfig} {ls : List Label} {w : World}
    (hrun : (system config).Run ls w) (hconn : ∀ l ∈ ls, NodeListed l) :
    (∀ ls₁ ls₂ w₁, ls = ls₁ ++ ls₂ → (system config).Run ls₁ w₁ → (system config).Steps w₁ ls₂ w →
      CandidatesAgree w₁ ∧ EndedQuiet w₁ w) ↔ ((system config).restrict Timely).Run ls w := by
  have hagree : CandidatesAgree w ↔ ((system config).restrict Timely).Run ls w := by
    constructor
    · refine hrun.invariant (M := system config) (I := fun ls w => (∀ l ∈ ls, NodeListed l) → CandidatesAgree w →
          ((system config).restrict Timely).Run ls w)
        (fun w hw _ _ => .nil hw) (fun ls w l w' hrun ih hs hconn hagree => ?_) hconn
      obtain ⟨hbefore, htimely⟩ := Step.agreed hrun hs hconn hagree
      exact (ih (fun l hl => hconn l (List.mem_append_left _ hl)) hbefore).snoc ⟨hs, htimely⟩
    · intro htimely
      refine htimely.invariant (I := fun ls w => (∀ l ∈ ls, NodeListed l) → CandidatesAgree w)
        (fun w hw _ callId => by subst hw; rfl) (fun ls w l w' hrun ih hs hconn callId => ?_) hconn
      have hlast := hconn l (List.mem_append_right _ (List.mem_singleton_self l))
      obtain ⟨told, kept, htold, hkept, _, hsame⟩ := Step.candidates hrun.of_restrict hs.1 hlast callId
      rw [htold, hkept, hsame hs.2, ih (fun l hl => hconn l (List.mem_append_left _ hl)) callId]
  constructor
  · intro hall
    exact hagree.mp (hall ls [] w (List.append_nil ls).symm hrun .nil).1
  · intro htimely ls₁ ls₂ w₁ hls hrun₁ hs
    subst hls
    have hafter := hagree.mpr htimely
    have hbefore := steps_agreed hrun₁ hs hconn hafter
    refine ⟨hbefore, fun callId hend => ?_⟩
    have hrec := steps_recorded hs hend
    exact ⟨by rw [hafter callId, hbefore callId, hrec], hrec⟩

/-- A candidate of the call of the one start; it is late after that hangup. -/
def demoLate : Request :=
  { method := .ice
    params := some (.obj [("callId", .str demoCall), ("candidate", .obj [("candidate", .str "candidate:1")])])
    registry := some [demoNode], uuid := "u", key := "k", now := 3 }

theorem demoLate_run : (system demoConfig).Run
    ([.request demoStart, .resume 0 demoAnswer 1, .request demoHangup] ++ [.request demoLate])
    (demoHungUp.request demoConfig demoLate) :=
  demoHungUp_run.snoc (.request (by decide) rfl)

theorem demoLate_connected :
    ∀ l ∈ ([.request demoStart, .resume 0 demoAnswer 1, .request demoHangup] ++ [.request demoLate] : List Label),
      NodeListed l := by
  intro l hl
  simp only [List.cons_append, List.nil_append, List.mem_cons, List.not_mem_nil, or_false] at hl
  obtain rfl | rfl | rfl | rfl := hl
  · exact nofun
  · trivial
  · exact nofun
  · exact fun _ => rfl

/-- The node is told a candidate of a call that has ended, and no record holds it. -/
theorem late_candidate_forwarded :
    ¬ ∀ config ls w, (system config).Run ls w → (∀ l ∈ ls, NodeListed l) →
      ∀ ls₁ ls₂ w₁, ls = ls₁ ++ ls₂ → (system config).Run ls₁ w₁ → (system config).Steps w₁ ls₂ w →
        CandidatesAgree w₁ ∧ EndedQuiet w₁ w := by
  intro hall
  have hagree := (hall demoConfig _ _ demoLate_run demoLate_connected _ [] _ (List.append_nil _).symm demoLate_run
    .nil).1 demoCall
  have htold : (forwardedCandidates demoCall (demoHungUp.request demoConfig demoLate).state.log).length = 1 := rfl
  have hkept : (recordedCandidates demoCall
      (demoHungUp.request demoConfig demoLate).state.orchestrator).length = 0 := rfl
  rw [hagree, hkept] at htold
  cases htold

/-- The plugin when that candidate came before the hangup. -/
def demoTold : World :=
  ((demoWaiting.resume 0 (.start demoCall) demoAnswer 1).request demoConfig demoLate).request demoConfig demoHangup

theorem demoTold_run : ((system demoConfig).restrict Timely).Run
    [.request demoStart, .resume 0 demoAnswer 1, .request demoLate, .request demoHangup] demoTold := by
  have hcall : (demoWaiting.resume 0 (.start demoCall) demoAnswer 1).state.orchestrator.getCall demoCall =
      some ⟨demoCall, "s1", .connecting, "offer", some (.str "answer"), 0, none, none, none, [], [], []⟩ := rfl
  have hlive : Timely (demoWaiting.resume 0 (.start demoCall) demoAnswer 1) (.request demoLate) := by
    rintro ⟨-, ⟨c, hc, hended⟩, -⟩
    have hid : stringParam demoLate.params "callId" "" = demoCall := rfl
    rw [hid, hcall] at hc
    cases hc
    cases hended
  have hnew := System.Run.nil (M := (system demoConfig).restrict Timely) rfl
  have hstarted := hnew.snoc ⟨demoWaiting_step, fun hlate => by cases hlate.1⟩
  have hanswered := hstarted.snoc ⟨demoWaiting_resume demoAnswer nofun 1, trivial⟩
  exact (hanswered.snoc ⟨.request (by decide) rfl, hlive⟩).snoc
    ⟨.request (by decide) rfl, fun hlate => by cases hlate.1⟩

/-- The late candidate is outside the condition; told in time, it is recorded too. -/
theorem candidates_agree_iff_late :
    ¬ ((system demoConfig).restrict Timely).Run
        ([.request demoStart, .resume 0 demoAnswer 1, .request demoHangup] ++ [.request demoLate])
        (demoHungUp.request demoConfig demoLate) ∧
      (recordedCandidates demoCall demoTold.state.orchestrator).length = 1 := by
  constructor
  · intro htimely
    have hall := (candidates_agree_iff demoLate_run demoLate_connected).mpr htimely
    have hagree := (hall _ [] _ (List.append_nil _).symm demoLate_run .nil).1 demoCall
    have htold : (forwardedCandidates demoCall (demoHungUp.request demoConfig demoLate).state.log).length = 1 := rfl
    rw [hagree] at htold
    cases htold
  · have hconn : ∀ l ∈ ([.request demoStart, .resume 0 demoAnswer 1, .request demoLate, .request demoHangup] :
        List Label), NodeListed l := by
      intro l hl
      simp only [List.mem_cons, List.not_mem_nil, or_false] at hl
      obtain rfl | rfl | rfl | rfl := hl
      · exact nofun
      · trivial
      · exact fun _ => rfl
      · exact nofun
    have hall := (candidates_agree_iff demoTold_run.of_restrict hconn).mpr demoTold_run
    have hagree := (hall _ [] _ (List.append_nil _).symm demoTold_run.of_restrict .nil).1 demoCall
    have htold : (forwardedCandidates demoCall demoTold.state.log).length = 1 := rfl
    rwa [hagree] at htold

end RtcPlugin.Plugin
