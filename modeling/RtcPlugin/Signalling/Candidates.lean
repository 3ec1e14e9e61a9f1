import RtcPlugin.Plugin.LateCandidates
import RtcPlugin.Signalling.Answers

/-! The way of a candidate from the page to the node's WebRTC library.

The plugin sends on what a request for a call brings, in the order of the requests, and only
for a call that it knows; what it sends is written and read once more on the way. Both nodes
then give their libraries the text, the media id and the media index of the candidate that the
page's peer reported (`candidates_arrive`); its user name fragment goes to neither. -/
namespace RtcPlugin.Signalling
open Plugin (World Label Step forwardedCandidates invocation)

/-- The candidates that requests bring for a call, in order. -/
def asked (callId : String) (ls : List Label) : List Json :=
  (Plugin.requests ls).filterMap fun req =>
    if req.method = .ice ∧ stringParam req.params "callId" "" = callId then optGet? req.params "candidate" else none

theorem asked_append (callId : String) (ls ls' : List Label) : asked callId (ls ++ ls') = asked callId ls ++ asked callId ls' := by
  rw [asked, Plugin.requests_append, List.filterMap_append]
  rfl

theorem asked_request {req : Request} {callId : String} {candidate : Json} (hm : req.method = .ice)
    (hid : stringParam req.params "callId" "" = callId) (hc : optGet? req.params "candidate" = some candidate) :
    asked callId [.request req] = [candidate] := by
  simp [asked, Plugin.requests, hm, hid, hc]

/-! ### The plugin -/

/-- The candidates that the entries of a log tell the nodes. -/
theorem forwarded_nil {callId : String} {es : List Effect}
    (h : ∀ h r candidate, .invoke h r ∈ es → r.params ≠ .remoteCandidate callId candidate) :
    forwardedCandidates callId es = [] := by
  refine List.filterMap_eq_nil_iff.mpr fun e he => ?_
  cases e with
  | respond => rfl
  | invoke h' r =>
    cases hp : r.params with
    | accept | hangup => simp [hp]
    | remoteCandidate id candidate =>
      have hne : id ≠ callId := by
        rintro rfl
        exact h h' r candidate he hp
      simp [hp, hne]

/-- A request that brings a candidate for a call that is known. -/
structure Brings (w' : World) (req : Request) (callId : String) (candidate : Json) : Prop where
  method : req.method = .ice
  call : stringParam req.params "callId" "" = callId
  brought : optGet? req.params "candidate" = some candidate
  known : (w'.state.orchestrator.getCall callId).isSome = true

theorem recordedCandidates_none {callId : String} {o : CallOrchestrator} (h : o.getCall callId = none) :
    Plugin.recordedCandidates callId o = [] := by
  rw [Plugin.recordedCandidates, h]
  rfl

/-- What a step adds to the log tells of no candidate, or it is one that the step's request brings. -/
theorem tells {config : WebRtcConfig} {w w' : World} {l : Label} (hs : Step config w l w') :
    ∃ es, w'.state.log = w.state.log ++ es ∧
      ((∀ h r callId candidate, .invoke h r ∈ es → r.params ≠ .remoteCandidate callId candidate) ∨
        ∃ req nodes callId candidate, l = .request req ∧ Brings w' req callId candidate ∧
          es = invocation w.served nodes (.remoteCandidate callId candidate) req.key) := by
  obtain ⟨req, waiting, s, rfl, -, -, hreq, rfl⟩ | ⟨id, point, invoked, outcome, now, s, rfl, -, -, hres, rfl⟩ | ⟨now, rfl, rfl⟩ :=
    hs.cases
  · cases hreq with
    | declined | reported | untold =>
      exact ⟨_, rfl, .inl fun h r callId candidate hm => nomatch List.mem_singleton.mp hm⟩
    | started =>
      refine ⟨_, rfl, .inl fun h r callId candidate hm hr => ?_⟩
      exact nomatch (Plugin.mem_invocation hm).2.1.symm.trans hr
    | @told nodes _ _ _ _ hf _ hex =>
      cases hf with
      | hangup =>
        refine ⟨_, rfl, .inl fun h r callId candidate hm hr => ?_⟩
        exact nomatch (Plugin.mem_invocation hm).2.1.symm.trans hr
      | @candidate callId candidate hm hid hc _ =>
        refine ⟨_, rfl, .inr ⟨req, nodes, callId, candidate, rfl, ⟨hm, hid, hc, ?_⟩, rfl⟩⟩
        obtain ⟨⟨c, hcall, -⟩, rfl⟩ | ⟨-, hrec⟩ := Plugin.handleIceCandidate_recorded hex
        · exact Option.isSome_iff_exists.mpr ⟨c, hcall⟩
        · -- a record that holds a candidate is there
          refine Option.isSome_iff_ne_none.mpr fun hnone => ?_
          have hempty := recordedCandidates_none hnone
          exact List.append_ne_nil_of_right_ne_nil _ (List.cons_ne_nil _ _) (hrec.symm.trans hempty)
  · obtain ⟨es, hlog, hnone⟩ := hres.sends
    exact ⟨es, hlog, .inl fun h r _ _ hm => absurd hm (hnone h r)⟩
  · exact ⟨[], (Plugin.stop_log now w.state).trans (List.append_nil _).symm, .inl nofun⟩

/-- The candidates that a call's node is told are some of those asked for it, in their order. -/
theorem step_asked {config : WebRtcConfig} {ls : List Label} {w w' : World} {l : Label} (hs : Step config w l w')
    {callId : String} (h : (forwardedCandidates callId w.state.log).Sublist (asked callId ls)) :
    (forwardedCandidates callId w'.state.log).Sublist (asked callId (ls ++ [l])) := by
  obtain ⟨es, hlog, hes⟩ := tells hs
  rw [hlog, Plugin.forwardedCandidates_append, asked_append]
  refine h.append ?_
  obtain hnone | ⟨req, nodes, id, candidate, rfl, hbrings, rfl⟩ := hes
  · rw [forwarded_nil fun h r candidate => hnone h r callId candidate]
    exact List.nil_sublist _
  · by_cases hid : id = callId
    · subst hid
      rw [asked_request hbrings.method hbrings.call hbrings.brought]
      cases hnode : Plugin.findRtcNode nodes with
      | none =>
        rw [show invocation w.served nodes (.remoteCandidate id candidate) req.key = [] by simp [invocation, hnode]]
        exact List.nil_sublist _
      | some node =>
        rw [Plugin.forwardedCandidates_candidate (Option.isSome_iff_exists.mpr ⟨node, hnode⟩)]
    · rw [Plugin.forwardedCandidates_invocation fun c hc => hid (InvokeParams.remoteCandidate.inj hc).1]
      exact List.nil_sublist _

theorem run_asked {config : WebRtcConfig} {ls : List Label} {w : World} (h : (Plugin.system config).Run ls w) (callId : String) :
    (forwardedCandidates callId w.state.log).Sublist (asked callId ls) := by
  refine h.invariant (M := Plugin.system config)
    (I := fun ls w => (forwardedCandidates callId w.state.log).Sublist (asked callId ls)) ?_ fun _ _ _ _ _ hI hs => step_asked hs hI
  rintro w rfl
  exact List.nil_sublist _

/-- Behind each candidate there is a request that brought it, and the call is known. -/
theorem run_brought {config : WebRtcConfig} {ls : List Label} {w : World} (h : (Plugin.system config).Run ls w) :
    ∀ h' r callId candidate, .invoke h' r ∈ w.state.log → r.params = .remoteCandidate callId candidate →
      ∃ req, .request req ∈ ls ∧ Brings w req callId candidate := by
  refine h.invariant (M := Plugin.system config) (I := fun ls w => ∀ h' r callId candidate, .invoke h' r ∈ w.state.log →
    r.params = .remoteCandidate callId candidate → ∃ req, .request req ∈ ls ∧ Brings w req callId candidate) ?_ ?_
  · rintro w rfl h' r callId candidate hmem
    cases hmem
  · intro ls w l w' _ hI hs h' r callId candidate hmem hr
    obtain ⟨es, hlog, hes⟩ := tells hs
    obtain hold | hnew := List.mem_append.mp (hlog ▸ hmem)
    · obtain ⟨req, hreq, hbrings⟩ := hI h' r callId candidate hold hr
      exact ⟨req, List.mem_append_left _ hreq, hbrings.method, hbrings.call, hbrings.brought,
        Plugin.Step.keeps_calls hs hbrings.known⟩
    · obtain hnone | ⟨req, nodes, id, c, rfl, hbrings, rfl⟩ := hes
      · exact absurd hr (hnone h' r callId candidate hnew)
      · obtain ⟨rfl, rfl⟩ := InvokeParams.remoteCandidate.inj ((Plugin.mem_invocation hnew).2.1.symm.trans hr)
        exact ⟨req, List.mem_append_right _ (List.mem_singleton_self _), hbrings⟩

/-! ### The nodes -/

/-- What the libraries of the two nodes get from the text of a candidate's params. -/
structure CandidateArrives (id : String) (c : Node.ICECandidate) (text : String) : Prop where
  go : ∃ p, Node.unmarshalParams Node.RemoteCandidateInput.targets {} (some text) = some p ∧ p.callId = id ∧ p.candidate = c
  ts : ∃ v init, TsNode.GatewayNodeClient.parseParams (some (.str text)) = some v ∧ v.get? "callId" = some (.str id) ∧
    TsNode.candidateInit (v.get? "candidate") = some init ∧ TsNode.SameCandidate c init

/-- What one library gets is what a reader of the three members takes. -/
theorem candidate?_of_same {v : Json} {c : Node.ICECandidate} {init : TsNode.CandidateInit}
    (hinit : TsNode.candidateInit (some v) = some init) (h : TsNode.SameCandidate c init) : candidate? v = some c := by
  have hmembers : init = ⟨v.get? "candidate", present (v.get? "sdpMid"), present (v.get? "sdpMLineIndex")⟩ := by
    cases v with
    | null => cases hinit
    | _ => exact (Option.some.inj hinit).symm
  obtain ⟨hcandidate, hmid, hindex⟩ := h
  subst hmembers
  obtain ⟨candidate, mid, index⟩ := c
  have hstring : (v.get? "sdpMid").bind Json.asString? = mid := by
    cases hw : v.get? "sdpMid" with
    | none => cases mid with
      | none => rfl
      | some s => simp [hw, present] at hmid
    | some w => cases w <;> cases mid <;> simp_all [present, Json.asString?]
  have hnatural : (v.get? "sdpMLineIndex").bind TsNode.natural? = index := by
    cases hw : v.get? "sdpMLineIndex" with
    | none => cases index with
      | none => rfl
      | some n => simp [hw, present] at hindex
    | some w => cases w <;> cases index <;> simp_all [present, TsNode.natural?]
  unfold candidate?
  rw [show v.get? "candidate" = some (.str candidate) from hcandidate]
  exact congrArg some (congrArg₂ (Node.ICECandidate.mk candidate) hstring hnatural)

/-- A candidate of the documented shape, as the scripting language holds it, arrives. -/
theorem candidate_arrives {candidate : Json} (id : String) (hcarries : Go.carries TsNode.candidateMembers candidate = true)
    (hnative : candidate.Native) (hdepth : candidate.depth < Go.maxNestingDepth) : ∃ c, candidate? candidate = some c ∧
      CandidateArrives id c (String.ofList (paramsJson (.remoteCandidate id candidate)).stringify) := by
  have hparams : (paramsJson (.remoteCandidate id candidate)).Native :=
    Json.native_obj ["callId", "candidate"] rfl (by decide +kernel) ⟨trivial, hnative, trivial⟩
  have hparse := TsNode.parse_written hparams
  have hfold : Go.foldName "callId" ≠ Go.foldName "candidate" := by decide +kernel
  have hmembers (ok : Json → Bool) (hok : ok candidate = true) :
      Go.carries [⟨"callId", true, Go.isString⟩, ⟨"candidate", true, ok⟩] (paramsJson (.remoteCandidate id candidate)) = true := by
    simp [paramsJson, Go.carries, Go.isString, hok, hfold, Ne.symm hfold]
  have hparamsDepth : (paramsJson (.remoteCandidate id candidate)).depth ≤ Go.maxNestingDepth :=
    Nat.succ_le_of_lt (max_lt (Nat.zero_lt_succ _) (max_lt hdepth (Nat.zero_lt_succ _)))
  obtain ⟨p, init, hp, hinit, hid, hsame⟩ := (TsNode.inputs_alike hparse hparams hparamsDepth).2 (hmembers _ hcarries)
  refine ⟨p.candidate, candidate?_of_same hinit hsame, ⟨p, hp, ?_, rfl⟩, _, init, ?_, rfl, hinit, hsame⟩
  · exact (Json.str.inj (Option.some.inj hid)).symm
  · exact parseParams_written hparams

/-- **Candidates arrive**: what the plugin tells the nodes of a call are candidates that requests
brought for it, in the order of the requests, and only of a call that it knows. A candidate of the
documented shape reaches the WebRTC library of either node with the text, the media id and the
media index that were reported. -/
theorem candidates_arrive {config : WebRtcConfig} {ls : List Label} {w : World} (h : (Plugin.system config).Run ls w)
    (id : String) :
    (forwardedCandidates id w.state.log).Sublist (asked id ls) ∧
    ∀ h' r candidate, .invoke h' r ∈ w.state.log → r.params = .remoteCandidate id candidate →
      (∃ req, .request req ∈ ls ∧ Brings w req id candidate) ∧
      (Go.carries TsNode.candidateMembers candidate = true → candidate.Native → candidate.depth < Go.maxNestingDepth →
        ∃ c, candidate? candidate = some c ∧ CandidateArrives id c (String.ofList (paramsJson r.params).stringify)) := by
  refine ⟨run_asked h id, fun h' r candidate hmem hr => ⟨run_brought h h' r id candidate hmem hr, fun hcarries hnative hdepth => ?_⟩⟩
  rw [hr]
  exact candidate_arrives id hcarries hnative hdepth

def demoReported : Json :=
  .obj [("candidate", .str "candidate:1"), ("sdpMid", .str "0"), ("sdpMLineIndex", .num ⟨0, 0, true⟩), ("usernameFragment", .null)]

/-- A candidate that comes while the start still waits. -/
def demoIce : Request :=
  { method := .ice
    params := some (.obj [("callId", .str Plugin.demoCall), ("candidate", demoReported)])
    registry := some [Plugin.demoNode], uuid := "u", key := "i", now := 1 }

theorem demoReported_native : demoReported.Native :=
  Json.native_obj ["candidate", "sdpMid", "sdpMLineIndex", "usernameFragment"] rfl (by decide +kernel)
    ⟨trivial, trivial, ⟨fun _ => rfl, fun h => absurd rfl h, by decide⟩, trivial, trivial⟩

/-- Both libraries get the candidate, its user name fragment aside. -/
theorem candidates_arrive_early : ∃ h' r, .invoke h' r ∈ (Plugin.demoWaiting.request Plugin.demoConfig demoIce).state.log ∧
    CandidateArrives Plugin.demoCall ⟨"candidate:1", some "0", some 0⟩ (String.ofList (paramsJson r.params).stringify) := by
  have hrun : (Plugin.system Plugin.demoConfig).Run ([.request Plugin.demoStart] ++ [.request demoIce])
      (Plugin.demoWaiting.request Plugin.demoConfig demoIce) :=
    ((System.Run.nil rfl).snoc Plugin.demoWaiting_step).snoc (.request (by decide) rfl)
  have hmem : .invoke 1 ⟨"n1", "rtc.call.remote_candidate", .remoteCandidate Plugin.demoCall demoReported, 15000, "i"⟩ ∈
      (Plugin.demoWaiting.request Plugin.demoConfig demoIce).state.log := List.mem_cons_of_mem _ List.mem_cons_self
  obtain ⟨-, harrives⟩ := (candidates_arrive hrun Plugin.demoCall).2 1 _ demoReported hmem rfl
  obtain ⟨c, hc, harrives⟩ := harrives (by decide +kernel) demoReported_native (by decide +kernel)
  obtain rfl : ⟨"candidate:1", some "0", some 0⟩ = c := Option.some.inj (hc.symm.trans (by decide +kernel)).symm
  exact ⟨1, _, hmem, harrives⟩

end RtcPlugin.Signalling
