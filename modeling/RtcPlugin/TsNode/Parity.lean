import RtcPlugin.Go.Decode
import RtcPlugin.Node.CrashFree
import RtcPlugin.TsNode.Commands
import RtcPlugin.TsNode.Wire

/-! The results of the two nodes for the same invoke.

Both get the same payload, and the WebRTC library does the same for both
(`SameOutcome`). The Go node refuses what it does not dispatch, `rtc.call.speak`
included, where the TypeScript node resolves; what both dispatch they answer alike
unless the Go node cannot decode the params or slices a short identifier
(`answers_alike`). -/
namespace RtcPlugin.TsNode
open Go (Member carries isString)

/-! ### Params -/

def isOptionalString : Json → Bool
  | .str _ | .null => true
  | _ => false

/-- `string | string[]` -/
def isUrls : Json → Bool
  | .str _ => true
  | .arr elems => elems.all isString
  | _ => false

def iceServerMembers : List Member :=
  [⟨"urls", true, isUrls⟩, ⟨"username", false, isString⟩, ⟨"credential", false, isString⟩]

def isIceServers : Json → Bool
  | .arr elems => elems.all (carries iceServerMembers)
  | .null => true
  | _ => false

/-- An `RTCIceCandidateInit`; its line index is an unsigned short. -/
def candidateMembers : List Member :=
  [⟨"candidate", true, isString⟩, ⟨"sdpMid", false, isOptionalString⟩, ⟨"sdpMLineIndex", false, Go.takesUint16⟩]

/-- The fields of a command that either node knows. -/
def membersOf : String → Option (List Member)
  | "rtc.call.accept" => some [⟨"callId", true, isString⟩, ⟨"offerSdp", true, isString⟩, ⟨"iceServers", false, isIceServers⟩]
  | "rtc.call.remote_candidate" => some [⟨"callId", true, isString⟩, ⟨"candidate", true, carries candidateMembers⟩]
  | "rtc.call.hangup" => some [⟨"callId", true, isString⟩, ⟨"reason", false, isString⟩]
  | "rtc.call.speak" => some [⟨"callId", true, isString⟩, ⟨"text", true, isString⟩]
  | _ => none

/-- The params carry the fields of their command. A command that neither node knows has none. -/
def CarriesFields (command : String) (params : Option Json) : Prop :=
  ∀ spec, membersOf command = some spec → ∃ v, params = some v ∧ carries spec v = true

def invokeMembers : List Member := [⟨"id", true, isString⟩, ⟨"command", true, isString⟩, ⟨"paramsJSON", true, isString⟩]

/-! ### Outcomes -/

/-- The WebRTC operations of a command come to the same in both nodes: the same answer,
ok, or a failure. -/
structure SameOutcome (ops : Operations) (o : Node.Outcome) (params : Option Json) : Prop where
  accept : match ops.acceptCall (optGet? params "callId") (optGet? params "offerSdp") (optGet? params "iceServers") with
    | .ok result => o.failure = none ∧ o.localDescription = some result.answerSdp ∧ o.candidates = result.candidates
    | .error _ => o.failure ≠ none
  remoteCandidate : match ops.addRemoteCandidate (optGet? params "callId") (optGet? params "candidate") with
    | .ok () => o.peerFound = true ∧ o.addCandidateError = none
    | .error _ => o.peerFound = false ∨ o.addCandidateError ≠ none

/-! ### Results -/

def hasError (payload : Option Json) : Bool := (optGet? payload "error").isSome

/-- The results agree in the identifier, the flag and in whether there is an error. -/
def Alike (t : InvokeResult) : Go.Checked (Option Node.InvokeResult) → Prop
  | .ok (some r) => t.id = .str r.id ∧ t.ok = r.ok ∧ hasError t.payloadJSON = hasError (some r.payloadJSON)
  | _ => False

/-- The operation of the command fails. -/
def Fails (ops : Operations) (command : String) (params : Option Json) : Prop :=
  (command = "rtc.call.accept" ∧
    ∃ text, ops.acceptCall (optGet? params "callId") (optGet? params "offerSdp") (optGet? params "iceServers") = .error text) ∨
  command = "rtc.call.remote_candidate" ∧
    ∃ text, ops.addRemoteCandidate (optGet? params "callId") (optGet? params "candidate") = .error text

/-- Both nodes dispatch the command; the params nest no deeper than the Go node decodes,
or the operation fails anyway; and the identifier of an accept has eight bytes. -/
def Dispatched (ops : Operations) (command : String) (params : Option Json) : Prop :=
  command ∈ ["rtc.call.accept", "rtc.call.remote_candidate", "rtc.call.hangup"] ∧ ∃ v, params = some v ∧
    if v.depth ≤ Go.maxNestingDepth then
      command = "rtc.call.accept" → ∀ id, v.get? "callId" = some (.str id) → 8 ≤ id.utf8ByteSize
    else Fails ops command params

section
variable {e : Setup} {ops : Operations} {o : Node.Outcome} {command text id deviceId : String} {v : Json}

/-! ### What the Go node decodes -/

theorem takesString_of {w : Json} (h : isString w = true) : Go.takesString w = true := by
  cases w with
  | str => rfl
  | _ => cases h

theorem takesAny_urls {w : Json} (h : isUrls w = true) : Go.takesAny w = true := by
  have helems : ∀ elems : List Json, (elems.all isString) = true → Go.takesAnyElems elems = true := by
    intro elems hall
    induction elems with
    | nil => rfl
    | cons w rest ih =>
      rw [List.all_cons, Bool.and_eq_true] at hall
      cases w with
      | str => simpa [Go.takesAnyElems, Go.takesAny] using ih hall.2
      | _ => cases hall.1
  cases w with
  | str => rfl
  | arr elems => simpa [Go.takesAny] using helems elems h
  | _ => cases h

theorem iceServer_takes : Go.Takes Node.ICEServer.fields iceServerMembers :=
  .check (s := ⟨"urls", true, isUrls⟩)
    (.check (s := ⟨"username", false, isString⟩)
      (.check (s := ⟨"credential", false, isString⟩) .nil (by simp [iceServerMembers]) fun _ => takesString_of)
      (by simp [iceServerMembers]) fun _ => takesString_of)
    (by simp [iceServerMembers]) fun _ => takesAny_urls

theorem candidate_takes : Go.Takes Node.Candidate.fields candidateMembers :=
  .check (s := ⟨"candidate", true, isString⟩)
    (.check (s := ⟨"sdpMid", false, isOptionalString⟩)
      (.check (s := ⟨"sdpMLineIndex", false, Go.takesUint16⟩) .nil (by simp [candidateMembers]) fun _ h => h)
      (by simp [candidateMembers]) fun _ h => h)
    (by simp [candidateMembers]) fun _ => takesString_of

theorem takesSlice_iceServers {w : Json} (h : isIceServers w = true) :
    Go.takesSlice (Go.takesStruct Node.ICEServer.fields) w = true := by
  cases w with
  | arr elems =>
    simp only [isIceServers, List.all_eq_true] at h
    simp only [Go.takesSlice, List.all_eq_true]
    exact fun w hw => Go.decodeStruct_isSome iceServer_takes (h w hw) ()
  | null => rfl
  | _ => cases h

theorem invokeRequest_takes : Go.Takes Node.InvokeRequest.fields invokeMembers :=
  .string (s := ⟨"id", true, isString⟩)
    (.string (s := ⟨"command", true, isString⟩)
      (.string (s := ⟨"paramsJSON", true, isString⟩) .nil (by simp [invokeMembers]) fun _ h => h)
      (by simp [invokeMembers]) fun _ h => h)
    (by simp [invokeMembers]) fun _ h => h

/-- Both nodes read the same request. -/
theorem invokeRequest_reads {payload : Json} (h : carries invokeMembers payload = true) : ∃ req : Node.InvokeRequest,
    Go.decodeStruct Node.InvokeRequest.fields {} payload = some req ∧ payload.get? "id" = some (.str req.id) ∧
      payload.get? "command" = some (.str req.command) ∧ payload.get? "paramsJSON" = some (.str req.paramsJSON) := by
  obtain ⟨req, hreq⟩ := Option.isSome_iff_exists.mp (Go.decodeStruct_isSome invokeRequest_takes h {})
  refine ⟨req, hreq, ?_, ?_, ?_⟩
  · apply Go.decodeStruct_get Node.InvokeRequest.id invokeRequest_takes h _ _ _ hreq
    · exact .self (.string (.string .nil (by decide) fun _ _ => rfl) (by decide) fun _ _ => rfl) fun _ _ => rfl
    · exact ⟨_, List.mem_cons_self, rfl⟩
    · exact ⟨⟨"id", true, isString⟩, by simp [invokeMembers], rfl, rfl, fun _ h => h⟩
  · apply Go.decodeStruct_get Node.InvokeRequest.command invokeRequest_takes h _ _ _ hreq
    · exact .string (.self (.string .nil (by decide) fun _ _ => rfl) fun _ _ => rfl) (by decide) fun _ _ => rfl
    · exact ⟨_, List.mem_cons_of_mem _ List.mem_cons_self, rfl⟩
    · exact ⟨⟨"command", true, isString⟩, by simp [invokeMembers], rfl, rfl, fun _ h => h⟩
  · apply Go.decodeStruct_get Node.InvokeRequest.paramsJSON invokeRequest_takes h _ _ _ hreq
    · exact .string (.string (.self .nil fun _ _ => rfl) (by decide) fun _ _ => rfl) (by decide) fun _ _ => rfl
    · exact ⟨_, List.mem_cons_of_mem _ (List.mem_cons_of_mem _ List.mem_cons_self), rfl⟩
    · exact ⟨⟨"paramsJSON", true, isString⟩, by simp [invokeMembers], rfl, rfl, fun _ h => h⟩

theorem accept_takes : Go.Takes Node.AcceptCallParams.fields
    [⟨"callId", true, isString⟩, ⟨"offerSdp", true, isString⟩, ⟨"iceServers", false, isIceServers⟩] :=
  .string (s := ⟨"callId", true, isString⟩)
    (.string (s := ⟨"offerSdp", true, isString⟩)
      (.check (s := ⟨"iceServers", false, isIceServers⟩) .nil (by simp) fun _ => takesSlice_iceServers)
      (by simp) fun _ h => h)
    (by simp) fun _ h => h

theorem accept_callId {p : Node.AcceptCallParams} (h : carries
      [⟨"callId", true, isString⟩, ⟨"offerSdp", true, isString⟩, ⟨"iceServers", false, isIceServers⟩] v = true)
    (hp : Go.decodeStruct Node.AcceptCallParams.fields {} v = some p) : v.get? "callId" = some (.str p.callId) := by
  apply Go.decodeStruct_get Node.AcceptCallParams.callId accept_takes h _ _ _ hp
  · exact .self (.string (.check .nil (by decide)) (by decide) fun _ _ => rfl) fun _ _ => rfl
  · exact ⟨_, List.mem_cons_self, rfl⟩
  · exact ⟨_, List.mem_cons_self, rfl, rfl, fun _ h => h⟩

theorem remoteCandidate_takes : Go.Takes Node.RemoteCandidateParams.fields
    [⟨"callId", true, isString⟩, ⟨"candidate", true, carries candidateMembers⟩] :=
  .string (s := ⟨"callId", true, isString⟩)
    (.check (s := ⟨"candidate", true, carries candidateMembers⟩) .nil (by simp)
      fun _ h => Go.decodeStruct_isSome candidate_takes h ())
    (by simp) fun _ h => h

theorem hangup_takes : Go.Takes Node.HangupParams.fields
    [⟨"callId", true, isString⟩, ⟨"reason", false, isString⟩] :=
  .string (s := ⟨"callId", true, isString⟩)
    (.check (s := ⟨"reason", false, isString⟩) .nil (by simp) fun _ => takesString_of) (by simp) fun _ h => h

theorem unmarshalParams_eq {T : Type} (fields : List (Go.StructField T)) (zero : T) (h : Json.parse text = some v) :
    Node.unmarshalParams fields zero (some text) =
      if v.depth ≤ Go.maxNestingDepth then Go.decodeStruct fields zero v else none := by
  have hscan : Go.scan text.toList = if v.depth ≤ Go.maxNestingDepth then some v else none := by
    unfold Go.scan
    rw [show Json.parseChars text.toList = some v from h]
    by_cases hdepth : v.depth ≤ Go.maxNestingDepth <;> simp [Option.filter, hdepth]
  show (Go.scan text.toList).bind _ = _
  rw [hscan]
  split <;> rfl

/-! ### Commands -/

/-- How the Go node answers a request. -/
def goResult (deviceId id : String) (result : Go.Checked (Except String Json)) : Go.Checked (Option Node.InvokeResult) :=
  result.map fun r => some (Node.invokeResult deviceId id r)

theorem alike_value (u : Option Json) (g : Go.Checked (Except String Json)) :
    Alike (GatewayNodeClient.reportResult e (.str id) (.value u)) (goResult deviceId id g) ↔
      ∃ w, g = .ok (.ok w) ∧ hasError u = hasError (some w) := by
  match g with
  | .ok (.ok w) => simp [Alike, goResult, GatewayNodeClient.reportResult, Node.invokeResult, Except.map]
  | .ok (.error text) => simp [Alike, goResult, GatewayNodeClient.reportResult, Node.invokeResult, Except.map]
  | .error p => simp [Alike, goResult, Except.map]

theorem alike_rejected (message : String) (g : Go.Checked (Except String Json)) :
    Alike (GatewayNodeClient.reportResult e (.str id) (.rejected message)) (goResult deviceId id g) ↔
      ∃ text, g = .ok (.error text) := by
  match g with
  | .ok (.ok w) => simp [Alike, goResult, GatewayNodeClient.reportResult, Node.invokeResult, Except.map]
  | .ok (.error text) =>
    simp [Alike, goResult, GatewayNodeClient.reportResult, Node.invokeResult, Except.map, hasError, optGet?, Json.get?]
  | .error p => simp [Alike, goResult, Except.map]

theorem acceptCall_eq (p : Node.AcceptCallParams) (o : Node.Outcome) : Node.acceptCall p o =
    if 8 ≤ p.callId.utf8ByteSize then
      match o.failure with
      | some (step, text) => .ok (.error s!"{step.text}: {text}")
      | none => (Go.deref o.localDescription).map fun answer => .ok ⟨answer, o.candidates⟩
    else .error .sliceBounds := by
  unfold Node.acceptCall Go.slicePrefix
  split
  · cases o.failure with
    | some f => rfl
    | none => cases o.localDescription <;> rfl
  · rfl

/-- What the Go node does with an accept whose params decode. -/
theorem goAccept_eq {p : Node.AcceptCallParams} (hparse : Json.parse text = some v)
    (hp : Go.decodeStruct Node.AcceptCallParams.fields {} v = some p) :
    Node.handleCommand "rtc.call.accept" (some text) o =
      if v.depth ≤ Go.maxNestingDepth then (Node.acceptCall p o).map fun r => r.map Node.AcceptCallResult.toJson
      else .ok (.error s!"parse accept params: {o.parseError}") := by
  unfold Node.handleCommand
  rw [if_pos rfl, unmarshalParams_eq _ _ hparse]
  by_cases hdepth : v.depth ≤ Go.maxNestingDepth
  · rw [if_pos hdepth, if_pos hdepth, hp]
    show (Node.acceptCall p o >>= fun r => .ok (r.map Node.AcceptCallResult.toJson)) = _
    cases Node.acceptCall p o <;> rfl
  · rw [if_neg hdepth, if_neg hdepth]

theorem accept_alike (hparse : Json.parse text = some v) (hcarries : carries
      [⟨"callId", true, isString⟩, ⟨"offerSdp", true, isString⟩, ⟨"iceServers", false, isIceServers⟩] v = true)
    (hsame : SameOutcome ops o (some v)) :
    Alike (GatewayNodeClient.reportResult e (.str id) (handleCommand ops "rtc.call.accept" (some v)))
        (goResult deviceId id (Node.handleCommand "rtc.call.accept" (some text) o)) ↔
      Dispatched ops "rtc.call.accept" (some v) := by
  obtain ⟨p, hp⟩ := Option.isSome_iff_exists.mp (Go.decodeStruct_isSome accept_takes hcarries {})
  have hid := accept_callId hcarries hp
  have hlong : Dispatched ops "rtc.call.accept" (some v) ↔
      if v.depth ≤ Go.maxNestingDepth then 8 ≤ p.callId.utf8ByteSize else Fails ops "rtc.call.accept" (some v) := by
    simp [Dispatched, hid]
  have hsame := hsame.accept
  rw [hlong, goAccept_eq hparse hp]
  cases hop : ops.acceptCall (optGet? (some v) "callId") (optGet? (some v) "offerSdp") (optGet? (some v) "iceServers") with
  | ok result =>
    have hts : handleCommand ops "rtc.call.accept" (some v) = .value (some result.toJson) := by simp [handleCommand, hop]
    rw [hop] at hsame
    obtain ⟨hfailure, hdescription, -⟩ := hsame
    rw [hts, alike_value, acceptCall_eq, hfailure, hdescription]
    by_cases hdepth : v.depth ≤ Go.maxNestingDepth
    · rw [if_pos hdepth, if_pos hdepth]
      by_cases hsize : 8 ≤ p.callId.utf8ByteSize
      · rw [if_pos hsize]
        exact iff_of_true ⟨_, rfl, rfl⟩ hsize
      · rw [if_neg hsize]
        exact iff_of_false (fun ⟨_, heq, _⟩ => (nomatch heq)) hsize
    · rw [if_neg hdepth, if_neg hdepth]
      refine iff_of_false (fun ⟨_, heq, _⟩ => (nomatch heq)) ?_
      simp [Fails, hop]
  | error message =>
    have hts : handleCommand ops "rtc.call.accept" (some v) = .rejected message := by simp [handleCommand, hop]
    rw [hop] at hsame
    obtain ⟨⟨step, why⟩, hfailure⟩ := Option.ne_none_iff_exists'.mp hsame
    rw [hts, alike_rejected, acceptCall_eq, hfailure]
    by_cases hdepth : v.depth ≤ Go.maxNestingDepth
    · rw [if_pos hdepth, if_pos hdepth]
      by_cases hsize : 8 ≤ p.callId.utf8ByteSize
      · rw [if_pos hsize]
        exact iff_of_true ⟨_, rfl⟩ hsize
      · rw [if_neg hsize]
        exact iff_of_false (fun ⟨_, heq⟩ => (nomatch heq)) hsize
    · rw [if_neg hdepth, if_neg hdepth]
      exact iff_of_true ⟨_, rfl⟩ (.inl ⟨rfl, message, hop⟩)

/-- No identifier is sliced for the other commands. -/
theorem dispatched_iff (hmem : command ∈ ["rtc.call.accept", "rtc.call.remote_candidate", "rtc.call.hangup"])
    (hne : command ≠ "rtc.call.accept") : Dispatched ops command (some v) ↔
      v.depth ≤ Go.maxNestingDepth ∨ Fails ops command (some v) := by
  constructor
  · rintro ⟨-, v', hv, h⟩
    obtain rfl := Option.some.inj hv
    split at h
    · next hdepth => exact .inl hdepth
    · exact .inr h
  · intro h
    refine ⟨hmem, v, rfl, ?_⟩
    split
    · exact fun heq => absurd heq hne
    · next hdepth => exact h.resolve_left hdepth

theorem remoteCandidate_alike (hparse : Json.parse text = some v)
    (hcarries : carries [⟨"callId", true, isString⟩, ⟨"candidate", true, carries candidateMembers⟩] v = true)
    (hsame : SameOutcome ops o (some v)) :
    Alike (GatewayNodeClient.reportResult e (.str id) (handleCommand ops "rtc.call.remote_candidate" (some v)))
        (goResult deviceId id (Node.handleCommand "rtc.call.remote_candidate" (some text) o)) ↔
      Dispatched ops "rtc.call.remote_candidate" (some v) := by
  obtain ⟨callId, hp⟩ := Option.isSome_iff_exists.mp (Go.decodeStruct_isSome remoteCandidate_takes hcarries "")
  have hsame := hsame.remoteCandidate
  have hgo : Node.handleCommand "rtc.call.remote_candidate" (some text) o =
      if v.depth ≤ Go.maxNestingDepth then .ok ((Node.addRemoteCandidate callId o).map fun _ => Node.okResult)
      else .ok (.error s!"parse candidate params: {o.parseError}") := by
    unfold Node.handleCommand
    rw [if_neg (by decide), if_pos rfl, unmarshalParams_eq _ _ hparse]
    by_cases hdepth : v.depth ≤ Go.maxNestingDepth
    · rw [if_pos hdepth, if_pos hdepth, hp]
    · rw [if_neg hdepth, if_neg hdepth]
  rw [hgo, dispatched_iff (by simp) (by decide)]
  cases hop : ops.addRemoteCandidate (optGet? (some v) "callId") (optGet? (some v) "candidate") with
  | ok u =>
    have hts : handleCommand ops "rtc.call.remote_candidate" (some v) = okResult := by simp [handleCommand, hop]
    rw [hop] at hsame
    obtain ⟨hfound, hadded⟩ := hsame
    have hadd : Node.addRemoteCandidate callId o = .ok () := by simp [Node.addRemoteCandidate, hfound, hadded]
    rw [hts, okResult, alike_value, hadd]
    by_cases hdepth : v.depth ≤ Go.maxNestingDepth
    · rw [if_pos hdepth]
      exact iff_of_true ⟨_, rfl, rfl⟩ (.inl hdepth)
    · rw [if_neg hdepth]
      refine iff_of_false (fun ⟨_, heq, _⟩ => (nomatch heq)) ?_
      simp [Fails, hop, hdepth]
  | error message =>
    have hts : handleCommand ops "rtc.call.remote_candidate" (some v) = .rejected message := by simp [handleCommand, hop]
    have hfails : Fails ops "rtc.call.remote_candidate" (some v) := .inr ⟨rfl, message, hop⟩
    rw [hop] at hsame
    have hadd : ∃ why, Node.addRemoteCandidate callId o = .error why := by
      unfold Node.addRemoteCandidate
      cases hfound : o.peerFound with
      | false => exact ⟨_, rfl⟩
      | true =>
        obtain ⟨why, hwhy⟩ := Option.ne_none_iff_exists'.mp (hsame.resolve_left (by simp [hfound]))
        exact ⟨why, by simp [hwhy]⟩
    obtain ⟨why, hadd⟩ := hadd
    rw [hts, alike_rejected, hadd]
    by_cases hdepth : v.depth ≤ Go.maxNestingDepth
    · rw [if_pos hdepth]
      exact iff_of_true ⟨_, rfl⟩ (.inr hfails)
    · rw [if_neg hdepth]
      exact iff_of_true ⟨_, rfl⟩ (.inr hfails)

theorem hangup_alike (hparse : Json.parse text = some v)
    (hcarries : carries [⟨"callId", true, isString⟩, ⟨"reason", false, isString⟩] v = true) :
    Alike (GatewayNodeClient.reportResult e (.str id) (handleCommand ops "rtc.call.hangup" (some v)))
        (goResult deviceId id (Node.handleCommand "rtc.call.hangup" (some text) o)) ↔
      Dispatched ops "rtc.call.hangup" (some v) := by
  obtain ⟨callId, hp⟩ := Option.isSome_iff_exists.mp (Go.decodeStruct_isSome hangup_takes hcarries "")
  have hclosed : Node.closePeer callId o = .ok () := by
    cases hclose : Node.closePeer callId o with
    | ok u => rfl
    | error p =>
      have hok := Node.closePeer_isOk callId o
      rw [hclose] at hok
      cases hok
  have hgo : Node.handleCommand "rtc.call.hangup" (some text) o =
      if v.depth ≤ Go.maxNestingDepth then .ok (.ok Node.okResult)
      else .ok (.error s!"parse hangup params: {o.parseError}") := by
    unfold Node.handleCommand
    rw [if_neg (by decide), if_neg (by decide), if_pos rfl, unmarshalParams_eq _ _ hparse]
    by_cases hdepth : v.depth ≤ Go.maxNestingDepth
    · rw [if_pos hdepth, if_pos hdepth, hp]
      show (Node.closePeer callId o >>= fun _ => (.ok (.ok Node.okResult) : Go.Checked (Except String Json))) = _
      rw [hclosed]
      rfl
    · rw [if_neg hdepth, if_neg hdepth]
  have hts : handleCommand ops "rtc.call.hangup" (some v) = okResult := rfl
  rw [hgo, hts, okResult, alike_value, dispatched_iff (by simp) (by decide)]
  by_cases hdepth : v.depth ≤ Go.maxNestingDepth
  · rw [if_pos hdepth]
    exact iff_of_true ⟨_, rfl, rfl⟩ (.inl hdepth)
  · rw [if_neg hdepth]
    refine iff_of_false (fun ⟨_, heq, _⟩ => (nomatch heq)) ?_
    simp [Fails, hdepth]

/-- What the Go node does not dispatch it refuses. -/
theorem goUnknown_eq (h : command ∉ ["rtc.call.accept", "rtc.call.remote_candidate", "rtc.call.hangup"])
    (raw : Option String) : Node.handleCommand command raw o = .ok (.error s!"unknown command: {command}") := by
  simp only [List.mem_cons, List.not_mem_nil, or_false, not_or] at h
  unfold Node.handleCommand
  rw [if_neg h.1, if_neg h.2.1, if_neg h.2.2]

theorem speak_eq (hcarries : carries [⟨"callId", true, isString⟩, ⟨"text", true, isString⟩] v = true) :
    handleCommand ops "rtc.call.speak" (some v) = okResult := by
  obtain ⟨said, hsaid⟩ := Go.carries_get hcarries (s := ⟨"text", true, isString⟩) (by simp) rfl fun _ h => h
  have htext : optGet? (some v) "text" = some (.str said) := hsaid
  simp [handleCommand, htext, sliceError]

theorem speak_alike (hcarries : carries [⟨"callId", true, isString⟩, ⟨"text", true, isString⟩] v = true) (raw : Option String) :
    ¬ Alike (GatewayNodeClient.reportResult e (.str id) (handleCommand ops "rtc.call.speak" (some v)))
      (goResult deviceId id (Node.handleCommand "rtc.call.speak" raw o)) := by
  rw [speak_eq hcarries, okResult, alike_value, goUnknown_eq (by decide)]
  exact fun ⟨_, heq, _⟩ => (nomatch heq)

/-- The TypeScript node resolves with an error for a command it does not know. -/
theorem tsUnknown_eq (h : membersOf command = none) (params : Option Json) : handleCommand ops command params =
    .value (some (.obj [("error", .str s!"unknown command: {command}")])) := by
  unfold membersOf at h
  unfold handleCommand
  split <;> simp_all

theorem unknown_alike (h : membersOf command = none) (params : Option Json) (raw : Option String) :
    ¬ Alike (GatewayNodeClient.reportResult e (.str id) (handleCommand ops command params))
      (goResult deviceId id (Node.handleCommand command raw o)) := by
  have hnot : command ∉ ["rtc.call.accept", "rtc.call.remote_candidate", "rtc.call.hangup"] := by
    intro hmem
    simp only [List.mem_cons, List.not_mem_nil, or_false] at hmem
    obtain rfl | rfl | rfl := hmem <;> cases h
  rw [tsUnknown_eq h, alike_value, goUnknown_eq hnot]
  exact fun ⟨_, heq, _⟩ => (nomatch heq)

/-- The two dispatchers on the same params. -/
theorem command_alike (hfields : CarriesFields command (GatewayNodeClient.parseParams (some (.str text))))
    (hsame : SameOutcome ops o (GatewayNodeClient.parseParams (some (.str text)))) :
    Alike (GatewayNodeClient.reportResult e (.str id)
        (handleCommand ops command (GatewayNodeClient.parseParams (some (.str text)))))
      (goResult deviceId id (Node.handleCommand command (if text ≠ "" then some text else none) o)) ↔
      Dispatched ops command (GatewayNodeClient.parseParams (some (.str text))) := by
  cases hspec : membersOf command with
  | none =>
    refine iff_of_false (unknown_alike hspec _ _) fun ⟨hmem, _⟩ => ?_
    simp only [List.mem_cons, List.not_mem_nil, or_false] at hmem
    obtain rfl | rfl | rfl := hmem <;> cases hspec
  | some spec =>
    obtain ⟨v, hv, hcarries⟩ := hfields spec hspec
    have hne : text ≠ "" := by
      rintro rfl
      cases hv
    have hparse : Json.parse text = some v := by
      simpa [GatewayNodeClient.parseParams, hne] using hv
    rw [hv] at hsame ⊢
    rw [if_pos hne]
    unfold membersOf at hspec
    split at hspec
    · obtain rfl := Option.some.inj hspec
      exact accept_alike hparse hcarries hsame
    · obtain rfl := Option.some.inj hspec
      exact remoteCandidate_alike hparse hcarries hsame
    · obtain rfl := Option.some.inj hspec
      exact hangup_alike hparse hcarries
    · obtain rfl := Option.some.inj hspec
      exact iff_of_false (speak_alike hcarries _) fun ⟨hmem, _⟩ => absurd hmem (by decide)
    · cases hspec

end

open GatewayNodeClient

/-- The TypeScript client takes in the invoke of a payload. -/
theorem handleInvokeRequest_receives {e : Setup} (hon : e.opts.onInvoke = true) {payload : Json} {id command text : String}
    (hid : payload.get? "id" = some (.str id)) (hcommand : payload.get? "command" = some (.str command))
    (htext : payload.get? "paramsJSON" = some (.str text)) (hne : id ≠ "" ∧ command ≠ "") (c : GatewayNodeClient) (s : Nat) :
    GatewayNodeClient.handleInvokeRequest e c s (some payload) =
      c.receive ⟨s, .str id, .str command, parseParams (some (.str text)), none⟩ := by
  have hid : optGet? (some payload) "id" = some (.str id) := hid
  have hcommand : optGet? (some payload) "command" = some (.str command) := hcommand
  have htext : optGet? (some payload) "paramsJSON" = some (.str text) := htext
  simp [GatewayNodeClient.handleInvokeRequest, hid, hcommand, htext, Json.truthy, hne, hon, receive]

/-- The goroutine of the Go client answers the same invoke. -/
theorem goInvoke_eq (deviceId : String) {payload : Json} {o : Node.Outcome} {id command text : String}
    (hpayload : carries invokeMembers payload = true) (hid : payload.get? "id" = some (.str id))
    (hcommand : payload.get? "command" = some (.str command)) (htext : payload.get? "paramsJSON" = some (.str text))
    (hne : id ≠ "" ∧ command ≠ "") : Node.handleInvokeRequest deviceId payload o =
      goResult deviceId id (Node.handleCommand command (if text ≠ "" then some text else none) o) := by
  obtain ⟨req, hreq, hreqId, hreqCommand, hreqText⟩ := invokeRequest_reads hpayload
  obtain rfl : id = req.id := Json.str.inj (Option.some.inj (hid.symm.trans hreqId))
  obtain rfl : command = req.command := Json.str.inj (Option.some.inj (hcommand.symm.trans hreqCommand))
  obtain rfl : text = req.paramsJSON := Json.str.inj (Option.some.inj (htext.symm.trans hreqText))
  have hrequest : Node.invokeRequest payload = some req := by
    simp [Node.invokeRequest, hreq, Option.filter, hne]
  unfold Node.handleInvokeRequest goResult
  rw [hrequest]
  show (Node.handleCommand _ _ o >>= fun result => .ok (some (Node.invokeResult deviceId req.id result))) = _
  cases Node.handleCommand req.command (if req.paramsJSON ≠ "" then some req.paramsJSON else none) o <;> rfl

/-- **The nodes answer an invoke alike exactly where both dispatch its command** and the
Go node gets through its params. -/
theorem answers_alike {e : Setup} {ops : Operations} {o : Node.Outcome} {payload : Json} {id command text : String}
    (hon : e.opts.onInvoke = true) (hpayload : carries invokeMembers payload = true)
    (hid : payload.get? "id" = some (.str id)) (hcommand : payload.get? "command" = some (.str command))
    (htext : payload.get? "paramsJSON" = some (.str text)) (hne : id ≠ "" ∧ command ≠ "")
    (hfields : CarriesFields command (parseParams (some (.str text))))
    (hsame : SameOutcome ops o (parseParams (some (.str text)))) (c : GatewayNodeClient) (s : Nat) (deviceId : String) :
    ∃ inv, GatewayNodeClient.handleInvokeRequest e c s (some payload) = c.receive inv ∧
      inv.command = .str command ∧ inv.params = parseParams (some (.str text)) ∧
      ∀ c' t w, c'.current = some w → ∃ r,
        (onInvokeSettled e c' t inv (handleCommand ops command inv.params)).traffic.results = c'.traffic.results ++ [r] ∧
          (Alike r (Node.handleInvokeRequest deviceId payload o) ↔ Dispatched ops command inv.params) := by
  refine ⟨_, handleInvokeRequest_receives hon hid hcommand htext hne c s, rfl, rfl, fun c' t w hw => ?_⟩
  refine ⟨reportResult e (.str id) (handleCommand ops command (parseParams (some (.str text)))), ?_, ?_⟩
  · rw [onInvokeSettled_eq]
    exact attemptResult_results e (c := c'.mark t _ _) hw t _ _
  · rw [goInvoke_eq deviceId hpayload hid hcommand htext hne]
    exact command_alike hfields hsame

def demoOperations : Operations := ⟨fun _ _ _ => .ok ⟨"v=0", []⟩, fun _ _ => .ok ()⟩

def demoOutcome : Node.Outcome := ⟨"", none, some "v=0", [], true, none⟩

def demoPayload (command text : String) : Json := .obj [("id", .str "i"), ("command", .str command), ("paramsJSON", .str text)]

def hangupParams : String := "\x7b\"callId\":\"7c9e6679\",\"reason\":\"user\"\x7d"

def speakParams : String := "\x7b\"callId\":\"7c9e6679\",\"text\":\"hello\"\x7d"

theorem demo_same (params : Option Json) : SameOutcome demoOperations demoOutcome params := ⟨⟨rfl, rfl, rfl⟩, rfl, rfl⟩

/-- The payload of an invoke with the given params. -/
theorem demo_payload (command text : String) : ∃ payload, carries invokeMembers payload = true ∧
    payload.get? "id" = some (.str "i") ∧ payload.get? "command" = some (.str command) ∧
      payload.get? "paramsJSON" = some (.str text) := by
  refine ⟨demoPayload command text, ?_, rfl, rfl, rfl⟩
  have hid : Go.foldName "id" ≠ Go.foldName "command" ∧ Go.foldName "id" ≠ Go.foldName "paramsJSON" ∧
      Go.foldName "command" ≠ Go.foldName "paramsJSON" := by decide
  simp [carries, invokeMembers, demoPayload, isString, hid, Ne.symm hid.1, Ne.symm hid.2.1, Ne.symm hid.2.2]

theorem demo_open : ∃ c : GatewayNodeClient, c.current = some 0 ∧ c.traffic.results = [] :=
  ⟨new.start.onOpen 0, rfl, rfl⟩

/-- A hangup, which an open client reports as the Go node does. -/
theorem answers_alike_hangup : ∃ payload c inv r, payload.get? "command" = some (.str "rtc.call.hangup") ∧
    (onInvokeSettled demo c 0 inv (handleCommand demoOperations "rtc.call.hangup" inv.params)).traffic.results = [r] ∧
      Alike r (Node.handleInvokeRequest "node" payload demoOutcome) := by
  have hany : (parseParams (some (.str hangupParams))).any (fun v => decide (v.depth ≤ Go.maxNestingDepth) &&
      carries [⟨"callId", true, isString⟩, ⟨"reason", false, isString⟩] v) = true := by decide +kernel
  obtain ⟨v, hv, hboth⟩ := (Option.any_eq_true _ _).mp hany
  obtain ⟨hdepth, hcarries⟩ := Bool.and_eq_true_iff.mp hboth
  have hfields : CarriesFields "rtc.call.hangup" (parseParams (some (.str hangupParams))) := by
    intro spec hspec
    obtain rfl := Option.some.inj hspec
    exact ⟨v, hv, hcarries⟩
  obtain ⟨payload, hpayload, hid, hcommand, htext⟩ := demo_payload "rtc.call.hangup" hangupParams
  obtain ⟨c, hc, hempty⟩ := demo_open
  obtain ⟨inv, -, -, hparams, hsettles⟩ := answers_alike (e := demo) rfl hpayload hid hcommand htext
    ⟨by decide, by decide⟩ hfields (demo_same _) c 0 "node"
  obtain ⟨r, hr, halike⟩ := hsettles c 0 0 hc
  rw [hempty] at hr
  refine ⟨payload, c, inv, r, hcommand, hr, halike.mpr ?_⟩
  rw [hparams, hv]
  exact (dispatched_iff (by simp) (by decide)).mpr (.inl (of_decide_eq_true hdepth))

/-- `rtc.call.speak` with its fields: the TypeScript node resolves, the Go node does not
know the command. -/
theorem speak_unknown_to_go : ¬ ∀ (e : Setup) (ops : Operations) (o : Node.Outcome) (payload : Json)
    (id command text : String), e.opts.onInvoke = true → carries invokeMembers payload = true →
    payload.get? "id" = some (.str id) → payload.get? "command" = some (.str command) →
    payload.get? "paramsJSON" = some (.str text) → id ≠ "" ∧ command ≠ "" → command ∈ commands →
    CarriesFields command (parseParams (some (.str text))) → SameOutcome ops o (parseParams (some (.str text))) →
    ∀ (c : GatewayNodeClient) (t w : Nat) (inv : Invoke) (r : InvokeResult) (deviceId : String), c.current = some w →
      inv.id = .str id → inv.params = parseParams (some (.str text)) →
      (onInvokeSettled e c t inv (handleCommand ops command inv.params)).traffic.results = c.traffic.results ++ [r] →
      Alike r (Node.handleInvokeRequest deviceId payload o) := by
  intro hall
  have hany : (parseParams (some (.str speakParams))).any
      (carries [⟨"callId", true, isString⟩, ⟨"text", true, isString⟩]) = true := by decide +kernel
  obtain ⟨v, hv, hcarries⟩ := (Option.any_eq_true _ _).mp hany
  obtain ⟨payload, hpayload, hid, hcommand, htext⟩ := demo_payload "rtc.call.speak" speakParams
  have hspeak := hall demo demoOperations demoOutcome payload "i" "rtc.call.speak" speakParams rfl hpayload hid hcommand
    htext ⟨by decide, by decide⟩ (by decide)
  have hgo := goInvoke_eq "node" (o := demoOutcome) hpayload hid hcommand htext ⟨by decide, by decide⟩
  rw [hv] at hspeak
  have hfields : CarriesFields "rtc.call.speak" (some v) := by
    intro spec hspec
    obtain rfl := Option.some.inj hspec
    exact ⟨v, rfl, hcarries⟩
  obtain ⟨c, hc, -⟩ := demo_open
  have hresults : (onInvokeSettled demo c 0 ⟨0, .str "i", .str "rtc.call.speak", some v, none⟩
      (handleCommand demoOperations "rtc.call.speak" (some v))).traffic.results =
        c.traffic.results ++ [reportResult demo (.str "i") (handleCommand demoOperations "rtc.call.speak" (some v))] := by
    rw [onInvokeSettled_eq]
    exact attemptResult_results demo (c := c.mark 0 _ _) (w := 0) hc 0 _ _
  have halike := hspeak hfields (demo_same _) c 0 0 ⟨0, .str "i", .str "rtc.call.speak", some v, none⟩ _ "node" hc rfl rfl
    hresults
  rw [hgo] at halike
  exact speak_alike hcarries _ halike

end RtcPlugin.TsNode
