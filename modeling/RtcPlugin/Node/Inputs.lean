import RtcPlugin.Go.Targets
import RtcPlugin.Node.Gateway

/-! What a command hands to the WebRTC library.

The params of `rtc.call.accept` and `rtc.call.remote_candidate` with all that they hold, and
what `AcceptCall` and `AddRemoteCandidate` make of them. `AcceptCallParams` and the call
identifier of `RemoteCandidateParams` are views of these: they decode alike
(`accept_view`, `remoteCandidate_view`). -/
namespace RtcPlugin.Node
open RtcPlugin.Go

structure ICEServer where
  urls : Option Json := none
  username : String := ""
  credential : String := ""

def ICEServer.targets : List (StructField ICEServer) :=
  [.replace "urls" decodeAny fun v s => {s with urls := v},
   .string "username" fun u s => {s with username := u},
   .string "credential" fun c s => {s with credential := c}]

structure AcceptCallInput extends AcceptCallParams where
  iceServers : Slice ICEServer := {}

def AcceptCallInput.targets : List (StructField AcceptCallInput) :=
  [.string "callId" fun s p => {p with callId := s},
   .string "offerSdp" fun s p => {p with offerSdp := s},
   .slice "iceServers" AcceptCallInput.iceServers (fun s p => {p with iceServers := s}) {} ICEServer.targets]

def ICECandidate.targets : List (StructField ICECandidate) :=
  [.string "candidate" fun s c => {c with candidate := s},
   .replace "sdpMid" decodeStringPointer fun m c => {c with sdpMid := m},
   .replace "sdpMLineIndex" decodeUint16Pointer fun i c => {c with sdpMLineIndex := i}]

structure RemoteCandidateInput where
  callId : String := ""
  candidate : ICECandidate := ⟨"", none, none⟩

def RemoteCandidateInput.targets : List (StructField RemoteCandidateInput) :=
  [.string "callId" fun s p => {p with callId := s},
   .struct "candidate" RemoteCandidateInput.candidate (fun c p => {p with candidate := c}) ICECandidate.targets]

/-- A server of `webrtc.Configuration`. -/
structure LibraryServer where
  urls : List String
  username : String := ""
  credential : String := ""
  deriving DecidableEq, Repr

/-- The type switch over `s.URLs`. -/
def ICEServer.urlList (s : ICEServer) : List String :=
  match s.urls with
  | some (.str url) => [url]
  | some (.arr elems) => elems.filterMap Json.asString?
  | _ => []

/-- The servers that the connection gets: a default one, and the given ones that have URLs. -/
def configuration (servers : List ICEServer) : List LibraryServer :=
  ⟨["stun:stun.l.google.com:19302"], "", ""⟩ ::
    (servers.map fun s => ⟨s.urlList, s.username, s.credential⟩).filter fun s => !s.urls.isEmpty

/-- The description that `SetRemoteDescription` gets. -/
def remoteOffer (offerSdp : String) : String :=
  match offerSdp.toList.getLast? with
  | none | some '\n' => offerSdp
  | some _ => offerSdp ++ "\r\n"

/-! ### Views -/

theorem string_view {T S : Type} (view : T → S) (name : String) {set : String → T → T} {set' : String → S → S}
    (h : ∀ s t, view (set s t) = set' s (view t)) : Views view (.string name set) (.string name set') where
  name := rfl
  decode := by
    intro v t
    cases v with
    | str s => exact congrArg some (h s t)
    | _ => rfl

/-- A field whose value the view leaves out. -/
theorem check_view {T S : Type} {view : T → S} {f : StructField T} {ok : Json → Bool}
    (hsome : ∀ v t, (f.decode v t).isSome = ok v) (hsame : ∀ v t t', f.decode v t = some t' → view t' = view t) :
    Views view f (.check f.name ok) where
  name := rfl
  decode := by
    intro v t
    show _ = if ok v = true then some (view t) else none
    rw [← hsome v t]
    cases hdecode : f.decode v t with
    | none => rfl
    | some t' =>
      rw [Option.map_some, hsame v t t' hdecode]
      rfl

theorem replace_isSome {T α : Type} (name : String) {decode : Json → Option α} (set : α → T → T) {ok : Json → Bool}
    (h : ∀ v, (decode v).isSome = ok v) (v : Json) (t : T) : ((StructField.replace name decode set).decode v t).isSome = ok v := by
  show ((decode v).map _).isSome = _
  rw [Option.isSome_map, h]

theorem isSome_guard {α : Type} (b : Bool) (a : α) : (if b = true then some a else none).isSome = b := by
  cases b <;> rfl

theorem decodeAny_isSome (v : Json) : (decodeAny v).isSome = takesAny v := by
  cases v with
  | null | bool | str => simp [decodeAny, takesAny]
  | num | arr | obj => exact isSome_guard ..

theorem string_isSome {T : Type} (name : String) (set : String → T → T) (v : Json) (t : T) :
    ((StructField.string name set).decode v t).isSome = takesString v := by
  cases v <;> rfl

theorem decodeStringPointer_isSome (v : Json) : (decodeStringPointer v).isSome = takesString v := by
  cases v <;> rfl

theorem decodeUint16Pointer_isSome (v : Json) : (decodeUint16Pointer v).isSome = takesUint16 v := by
  cases v with
  | num d => exact isSome_guard ..
  | bool | null | str | arr | obj => rfl

theorem iceServer_view : List.Forall₂ (Views fun _ : ICEServer => ()) ICEServer.targets ICEServer.fields :=
  .cons (check_view (replace_isSome _ _ decodeAny_isSome) fun _ _ _ _ => rfl)
    (.cons (check_view (string_isSome _ _) fun _ _ _ _ => rfl)
      (.cons (check_view (string_isSome _ _) fun _ _ _ _ => rfl) .nil))

theorem candidate_view : List.Forall₂ (Views fun _ : ICECandidate => ()) ICECandidate.targets Candidate.fields :=
  .cons (check_view (string_isSome _ _) fun _ _ _ _ => rfl)
    (.cons (check_view (replace_isSome _ _ decodeStringPointer_isSome) fun _ _ _ _ => rfl)
      (.cons (check_view (replace_isSome _ _ decodeUint16Pointer_isSome) fun _ _ _ _ => rfl) .nil))

/-- What a struct takes, by its view. -/
theorem takesStruct_view {T : Type} {fields : List (StructField T)} {others : List (StructField Unit)}
    (h : List.Forall₂ (Views fun _ => ()) fields others) (v : Json) (t : T) :
    (decodeStruct fields t v).isSome = takesStruct others v := by
  unfold takesStruct
  rw [← decodeStruct_view h v t, Option.isSome_map]

theorem accept_fields : List.Forall₂ (Views AcceptCallInput.toAcceptCallParams) AcceptCallInput.targets
    AcceptCallParams.fields := by
  refine .cons (string_view _ _ fun _ _ => rfl) (.cons (string_view _ _ fun _ _ => rfl) (.cons ?_ .nil))
  refine check_view (fun v t => ?_) fun v t t' h => ?_
  · show ((decodeSlice ICEServer.targets {} t.iceServers v).map _).isSome = _
    rw [Option.isSome_map]
    exact decodeSlice_isSome (takesStruct_view iceServer_view) _ v
  · obtain ⟨s, -, rfl⟩ := Option.map_eq_some_iff.mp h
    rfl

theorem remoteCandidate_fields : List.Forall₂ (Views RemoteCandidateInput.callId) RemoteCandidateInput.targets
    RemoteCandidateParams.fields := by
  refine .cons (string_view _ _ fun _ _ => rfl) (.cons ?_ .nil)
  refine check_view (fun v t => ?_) fun v t t' h => ?_
  · show ((decodeStruct ICECandidate.targets t.candidate v).map _).isSome = _
    rw [Option.isSome_map]
    exact takesStruct_view candidate_view v _
  · obtain ⟨c, -, rfl⟩ := Option.map_eq_some_iff.mp h
    rfl

/-- The params of an accept are those that `handleCommand` decodes, with their servers. -/
theorem accept_view (raw : Option String) :
    (unmarshalParams AcceptCallInput.targets {} raw).map AcceptCallInput.toAcceptCallParams =
      unmarshalParams AcceptCallParams.fields {} raw := by
  unfold unmarshalParams unmarshal
  cases raw with
  | none => rfl
  | some text =>
    show ((scan text.toList).bind _).map _ = (scan text.toList).bind _
    cases scan text.toList with
    | none => rfl
    | some v => exact decodeStruct_view accept_fields v {}

theorem remoteCandidate_view (raw : Option String) :
    (unmarshalParams RemoteCandidateInput.targets {} raw).map RemoteCandidateInput.callId =
      unmarshalParams RemoteCandidateParams.fields "" raw := by
  unfold unmarshalParams unmarshal
  cases raw with
  | none => rfl
  | some text =>
    show ((scan text.toList).bind _).map _ = (scan text.toList).bind _
    cases scan text.toList with
    | none => rfl
    | some v => exact decodeStruct_view remoteCandidate_fields v {}

end RtcPlugin.Node
