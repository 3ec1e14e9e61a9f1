import RtcPlugin.Browser.Responses
import RtcPlugin.Plugin.StartCall
import RtcPlugin.Signalling.Offers

/-! The way of an answer from the node's WebRTC library back to the page.

Either node writes its answer and its candidates as JSON; the plugin reads them, keeps the
answer with the call and responds with both; and the start that waits at the page goes on
with both (`answers_arrive`), whichever peer the page has by then. -/
namespace RtcPlugin.Signalling
open Plugin (World Label Step responses)
open Browser (Tab StartResult)

/-! ### Results -/

/-- The candidate that a reader of the three members takes. -/
def candidate? (v : Json) : Option Node.ICECandidate :=
  match v.get? "candidate" with
  | some (.str candidate) =>
    some ⟨candidate, (v.get? "sdpMid").bind Json.asString?, (v.get? "sdpMLineIndex").bind TsNode.natural?⟩
  | _ => none

/-- The result of an accept, however its numbers are written: both nodes' results are such
(`go_answers`, `ts_answers`). -/
structure Answers (v : Json) (answerSdp : String) (candidates : List Node.ICECandidate) : Prop where
  answerSdp : v.get? "answerSdp" = some (.str answerSdp)
  candidates : v.get? "candidates" = some .null ∧ candidates = [] ∨
    ∃ elems, v.get? "candidates" = some (.arr elems) ∧ elems.mapM candidate? = some candidates

theorem mapM_map {α : Type} {f : α → Json} {read : Json → Option α} (h : ∀ a, read (f a) = some a) (as : List α) :
    (as.map f).mapM read = some as := by
  induction as with
  | nil => rfl
  | cons a as ih =>
    rw [List.map_cons, List.mapM_cons, h, ih]
    rfl

theorem go_candidate (c : Node.ICECandidate) : candidate? c.toJson = some c := by
  obtain ⟨candidate, mid, index⟩ := c
  cases mid <;> cases index <;>
    simp [candidate?, Node.ICECandidate.toJson, Json.get?, List.lookup_cons, Json.asString?, TsNode.natural?]

theorem ts_candidate (c : Node.ICECandidate) : candidate? (TsNode.candidateJson c) = some c := by
  obtain ⟨candidate, mid, index⟩ := c
  cases mid <;> cases index <;>
    simp [candidate?, TsNode.candidateJson, Json.get?, List.lookup_cons, Json.asString?, TsNode.natural?]

/-- The Go node writes no candidates as `null`. -/
theorem go_answers (r : Node.AcceptCallResult) : Answers r.toJson r.answerSdp r.candidates := by
  refine ⟨rfl, ?_⟩
  show (some (if r.candidates.isEmpty then Json.null else .arr (r.candidates.map Node.ICECandidate.toJson)) = some .null ∧ _) ∨
    ∃ elems, some (if r.candidates.isEmpty then Json.null else .arr _) = some (.arr elems) ∧ _
  cases hcandidates : r.candidates with
  | nil => exact .inl ⟨rfl, rfl⟩
  | cons c cs => exact .inr ⟨_, rfl, mapM_map go_candidate (c :: cs)⟩

theorem ts_answers (r : TsNode.CreatePeerResult) : Answers r.toJson r.answerSdp r.candidates :=
  ⟨rfl, .inr ⟨_, rfl, mapM_map ts_candidate r.candidates⟩⟩

/-! ### The plugin -/

theorem Answers.truthy {v : Json} {answerSdp : String} {candidates : List Node.ICECandidate}
    (h : Answers v answerSdp candidates) : v.truthy = true := by
  have hget := h.answerSdp
  cases v with
  | obj => rfl
  | _ => cases hget

/-- The list of candidates that the plugin responds with. -/
theorem Answers.listed {v : Json} {answerSdp : String} {candidates : List Node.ICECandidate} (h : Answers v answerSdp candidates) :
    ∃ elems, nullish (v.get? "candidates") (.arr []) = .arr elems ∧ elems.mapM candidate? = some candidates := by
  obtain ⟨hnull, rfl⟩ | ⟨elems, helems, hread⟩ := h.candidates
  · rw [hnull]
    exact ⟨[], rfl, rfl⟩
  · rw [helems]
    exact ⟨elems, rfl, hread⟩

/-- The payload of the response to a start. -/
def startedJson (callId : String) (answerSdp : Option Json) (candidates : Json) (iceServers : List IceServer) : Json :=
  .obj (("callId", .str callId) :: (answerSdp.map fun a => ("answerSdp", a)).toList ++
    [("candidates", candidates), ("iceServers", .arr (iceServers.map IceServer.toJson))])

/-- The plugin has the answer of its call, and responds with it and with the candidates. -/
structure Passed (h : Nat) (id answerSdp : String) (elems : List Json) (iceServers : List IceServer) (w : World) : Prop where
  kept : ∃ c, w.state.orchestrator.getCall id = some c ∧ c.state = .connecting ∧ c.answerSdp = some (.str answerSdp)
  responded : responses h w.state.log = [(true, .started id (some (.str answerSdp)) (.arr elems) iceServers)]

theorem resume_passes {config : WebRtcConfig} {ls : List Label} {w w' : World} (h : (Plugin.system config).Run ls w)
    {h' : Nat} {id text answerSdp : String} {candidates : List Node.ICECandidate} {v : Json} {payload : Option Json} {now : Int}
    (hp : w.pending.get? h' = some ⟨.start id, true⟩) (hv : Answers v answerSdp candidates)
    (hparse : Json.parse text = some v)
    (hs : Step config w (.resume h' (.resolved {ok := true, payload := payload, payloadJSON := some text}) now) w') :
    (∃ elems, elems.mapM candidate? = some candidates ∧ Passed h' id answerSdp elems config.iceServers w') ∨
      Plugin.EndedCall w.state.orchestrator id ∧ ∃ message, responses h' w'.state.log = [(false, .error message)] := by
  have hlog := (Plugin.run_served h).waiting h' (by rw [hp]; rfl)
  obtain ⟨c, hc, hunanswered⟩ := (Plugin.run_holding h).own h' id true hp
  have hne : text ≠ "" := by
    rintro rfl
    cases hparse
  have hdecoded : (InvokeOutcome.resolved {ok := true, payload := payload, payloadJSON := some text}).decoded = .ok v := by
    show Except.ok (decodeInvokeResult _) = _
    simp [decodeInvokeResult, hne, hparse]
  obtain ⟨point, invoked, s, hp', -, hres, rfl⟩ := hs.resumed
  obtain ⟨rfl, rfl⟩ : point = .start id ∧ invoked = true := by simpa using hp'.symm.trans hp
  have hrun := CallOrchestrator.handleAnswer_run w.state.orchestrator id (v.get? "answerSdp")
  rw [show w.state.orchestrator.calls.get? id = some c from hc] at hrun
  have hop : Plugin.settlement id v = .handleAnswer id (v.get? "answerSdp") := if_pos hv.truthy
  obtain ⟨o, hex, rfl⟩ | ⟨message, hex, rfl⟩ := Plugin.resume_settled hdecoded hres
  · rw [hop] at hex
    have hex : CallOrchestrator.handleAnswer id (v.get? "answerSdp") w.state.orchestrator = .ok () o := hex
    by_cases hinit : c.state = .initiating
    · have hok := hex.symm.trans (hrun.trans (if_pos hinit))
      injection hok with _ ho
      obtain ⟨elems, helems, hread⟩ := hv.listed
      have hservers : o.options.iceServers = config.iceServers := ho ▸ Plugin.run_iceServers h
      have hreply : Plugin.reply h' id v o.options.iceServers =
          .respond h' true (.started id (some (.str answerSdp)) (.arr elems) config.iceServers) := by
        rw [Plugin.reply, if_pos hv.truthy, hv.answerSdp, helems, hservers]
      refine .inl ⟨elems, hread, ⟨{c with answerSdp := v.get? "answerSdp", state := .connecting}, ?_, rfl, hv.answerSdp⟩, ?_⟩
      · rw [ho]
        exact Plugin.getCall_modifyCall hc _
      · rw [hreply]
        exact Plugin.responses_emit hlog _ _
    · cases hex.symm.trans (hrun.trans (if_neg hinit))
  · rw [hop] at hex
    have hex : CallOrchestrator.handleAnswer id (v.get? "answerSdp") w.state.orchestrator = .error message w.state.orchestrator := hex
    by_cases hinit : c.state = .initiating
    · cases hex.symm.trans (hrun.trans (if_pos hinit))
    · exact .inr ⟨⟨c, hc, hunanswered.resolve_left hinit⟩, message,
        Plugin.responses_emit (o := w.state.orchestrator) hlog _ _⟩

/-! ### The page -/

/-- The frame of a response with that payload. -/
structure Responds (frame : Json) (req : String) (payload : Json) : Prop where
  type : frame.get? "type" = some (.str "res")
  id : frame.get? "id" = some (.str req)
  ok : frame.get? "ok" = some (.bool true)
  payload : frame.get? "payload" = some payload

/-- The start that waits at the page goes on with the answer. -/
theorem onMessage_answered {t : Tab} {req : String} {p : Nat} (hwaits : t.requests.pending.get? req = some (.rtc (.start p)))
    {text fresh id answerSdp : String} {frame : Json} {elems : List Json} {iceServers : List IceServer}
    (hparse : Json.parse text = some frame)
    (hframe : Responds frame req (startedJson id (some (.str answerSdp)) (.arr elems) iceServers)) :
    (t.onMessage text fresh).client = t.client.onStartResponse p (some ⟨id, some (.str answerSdp), some (.arr elems)⟩) := by
  have hresult : Tab.startResult? (some (startedJson id (some (.str answerSdp)) (.arr elems) iceServers)) =
      some ⟨id, some (.str answerSdp), some (.arr elems)⟩ := rfl
  have houtcome : Tab.responseOutcome t.client.page frame =
      .resolved (some (startedJson id (some (.str answerSdp)) (.arr elems) iceServers)) := by
    unfold Tab.responseOutcome
    rw [hframe.ok, hframe.payload]
    rfl
  unfold Tab.onMessage
  rw [hparse]
  show (t.handleFrame frame fresh).client = _
  unfold Tab.handleFrame
  rw [hframe.type]
  show (t.handleResponse frame).client = _
  unfold Tab.handleResponse
  rw [hframe.id]
  dsimp only
  rw [hwaits]
  dsimp only
  rw [houtcome, ← hresult]
  rfl

/-- **Answers arrive**: when a start resumes with what a node returned, the call had ended
meanwhile and the page is told so; or the call keeps the answer, and the start that waits at
the page goes on with exactly this answer and exactly the candidates of the node. -/
theorem answers_arrive {config : WebRtcConfig} {ls : List Label} {w w' : World} (h : (Plugin.system config).Run ls w)
    {h' : Nat} {id text answerSdp : String} {candidates : List Node.ICECandidate} {v : Json} {payload : Option Json} {now : Int}
    (hp : w.pending.get? h' = some ⟨.start id, true⟩) (hv : Answers v answerSdp candidates)
    (hparse : Json.parse text = some v)
    (hs : Step config w (.resume h' (.resolved {ok := true, payload := payload, payloadJSON := some text}) now) w') :
    (∃ elems, elems.mapM candidate? = some candidates ∧ Passed h' id answerSdp elems config.iceServers w' ∧
      ∀ (t : Tab) (req : String) (p : Nat) (text fresh : String) (frame : Json),
        t.requests.pending.get? req = some (.rtc (.start p)) → Json.parse text = some frame →
        Responds frame req (startedJson id (some (.str answerSdp)) (.arr elems) config.iceServers) →
        (t.onMessage text fresh).client =
          t.client.onStartResponse p (some ⟨id, some (.str answerSdp), some (.arr elems)⟩) ∧
        ∀ page : Browser.Page, page.candidates (some (.arr elems)) = some elems) ∨
      Plugin.EndedCall w.state.orchestrator id ∧ ∃ message, responses h' w'.state.log = [(false, .error message)] := by
  obtain ⟨elems, hread, hpassed⟩ | hended := resume_passes h hp hv hparse hs
  · refine .inl ⟨elems, hread, hpassed, fun t req p text fresh frame hwaits hparse hframe => ⟨?_, fun page => ?_⟩⟩
    · exact onMessage_answered hwaits hparse hframe
    · cases page <;> rfl
  · exact .inr hended

/-- What the Go node returns when it found one candidate. -/
def demoResult : Node.AcceptCallResult := ⟨"v=0", [⟨"candidate:1", some "0", some 0⟩]⟩

theorem demoResult_native : demoResult.toJson.Native := by
  refine Json.native_obj ["answerSdp", "candidates"] rfl (by decide +kernel) ⟨trivial, ⟨?_, trivial⟩, trivial⟩
  exact Json.native_obj ["candidate", "sdpMid", "sdpMLineIndex"] rfl (by decide +kernel)
    ⟨trivial, trivial, ⟨fun _ => rfl, fun h => absurd rfl h, by decide⟩, trivial⟩

/-- The same candidate as the TypeScript node returns it. -/
def demoTsResult : TsNode.CreatePeerResult := ⟨"v=0", [⟨"candidate:1", some "0", some 0⟩]⟩

theorem demoTsResult_native : demoTsResult.toJson.Native := by
  refine Json.native_obj ["answerSdp", "candidates"] rfl (by decide +kernel) ⟨trivial, ⟨?_, trivial⟩, trivial⟩
  exact Json.native_obj ["candidate", "sdpMid", "sdpMLineIndex"] rfl (by decide +kernel)
    ⟨trivial, trivial, ⟨fun _ => rfl, fun h => absurd rfl h, by decide⟩, trivial⟩

/-- The one call as the Go node answers it, and as the TypeScript node does. -/
theorem answers_arrive_live :
    (∃ w' elems, elems.mapM candidate? = some demoResult.candidates ∧ Passed 0 Plugin.demoCall "v=0" elems defaultIceServers w') ∧
      ∃ w' elems, elems.mapM candidate? = some demoTsResult.candidates ∧
        Passed 0 Plugin.demoCall "v=0" elems defaultIceServers w' := by
  have hrun : (Plugin.system Plugin.demoConfig).Run [.request Plugin.demoStart] Plugin.demoWaiting :=
    (System.Run.nil rfl).snoc Plugin.demoWaiting_step
  have hp : Plugin.demoWaiting.pending.get? 0 = some ⟨.start Plugin.demoCall, true⟩ := rfl
  have hresult {v : Json} {candidates : List Node.ICECandidate} (hv : Answers v "v=0" candidates) (hnative : v.Native) :
      ∃ w' elems, elems.mapM candidate? = some candidates ∧ Passed 0 Plugin.demoCall "v=0" elems defaultIceServers w' := by
    have hs := Plugin.demoWaiting_resume
      (.resolved {ok := true, payload := none, payloadJSON := some (String.ofList v.stringify)}) nofun 1
    obtain ⟨elems, hread, hpassed, -⟩ | ⟨⟨c, hc, hterminal⟩, -⟩ :=
      answers_arrive hrun hp hv (TsNode.parse_written hnative) hs
    · exact ⟨_, elems, hread, hpassed⟩
    · obtain rfl : _ = c := Option.some.inj hc
      cases hterminal
  exact ⟨hresult (go_answers demoResult) demoResult_native, hresult (ts_answers demoTsResult) demoTsResult_native⟩

end RtcPlugin.Signalling
