import RtcPlugin.Json.ToText
import RtcPlugin.Node.Inputs
import RtcPlugin.TsNode.Parity

/-! What the two nodes hand to their WebRTC libraries.

For the same params the Go node gives its library the offer and the servers that the
TypeScript node gives to its own, but for a default server, servers without URLs and a line
end; and both add the same candidate (`inputs_alike`). -/
namespace RtcPlugin.TsNode
open Go (Member carries isString Sets)

/-! ### The TypeScript node -/

/-- A server of the configuration of an `RTCPeerConnection`. -/
structure PeerServer where
  urls : Option Json
  username : Option Json
  credential : Option Json

def peerServer : Json → Option PeerServer
  | .null => none
  | s => some ⟨s.get? "urls", s.get? "username", s.get? "credential"⟩

/-- `(iceServers ?? this.options.iceServers ?? []).map(…)`, where the options have none; nothing
where it throws. -/
def peerServers : Option Json → Option (List PeerServer)
  | none | some .null => some []
  | some (.arr elems) => elems.mapM peerServer
  | some _ => none

/-- What an `RTCIceCandidate` is made of. -/
structure CandidateInit where
  candidate : Option Json
  sdpMid : Option Json
  sdpMLineIndex : Option Json

/-- Nothing where `addRemoteCandidate` throws. -/
def candidateInit : Option Json → Option CandidateInit
  | none | some .null => none
  | some c => some ⟨c.get? "candidate", present (c.get? "sdpMid"), present (c.get? "sdpMLineIndex")⟩

/-! ### The same for both -/

/-- The server as the other library has it. -/
def PeerServer.library (s : PeerServer) : Node.LibraryServer :=
  ⟨Node.ICEServer.urlList {urls := s.urls}, (s.username.bind Json.asString?).getD "",
    (s.credential.bind Json.asString?).getD ""⟩

/-- The number that digits stand for. -/
def natural? : Json → Option Nat
  | .num d => if d.plain then some (d.mantissa.natAbs * 10 ^ d.exponent.natAbs) else none
  | _ => none

structure SameCandidate (c : Node.ICECandidate) (init : CandidateInit) : Prop where
  candidate : init.candidate = some (.str c.candidate)
  sdpMid : init.sdpMid = c.sdpMid.map Json.str
  sdpMLineIndex : init.sdpMLineIndex.map natural? = c.sdpMLineIndex.map some

def acceptMembers : List Member := [⟨"callId", true, isString⟩, ⟨"offerSdp", true, isString⟩, ⟨"iceServers", false, isIceServers⟩]

def remoteCandidateMembers : List Member := [⟨"callId", true, isString⟩, ⟨"candidate", true, carries candidateMembers⟩]

theorem get_native {members : List (String × Json)} (h : Json.NativeMembers members) {name : String} {w : Json}
    (hw : (Json.obj members).get? name = some w) : w.Native := by
  have hmem : (name, w) ∈ members := List.mem_reverse.mp (Go.lookup_mem hw)
  clear hw
  induction members with
  | nil => cases hmem
  | cons m rest ih =>
    obtain rfl | hrest := List.mem_cons.mp hmem
    · exact h.1
    · exact ih h.2 hrest

/-- A member that is there is one that is allowed. -/
theorem carries_ok {spec : List Member} {members : List (String × Json)} (h : carries spec (.obj members) = true)
    {s : Member} (hs : s ∈ spec) {w : Json} (hw : (Json.obj members).get? s.name = some w) : s.ok w = true := by
  obtain ⟨_, heq, hm, -⟩ := Go.carries_obj h
  obtain rfl := Json.obj.inj heq
  exact (hm _ (List.mem_reverse.mp (Go.lookup_mem hw)) s hs rfl).2

/-- A member that is required is there. -/
theorem carries_some {spec : List Member} {members : List (String × Json)} (h : carries spec (.obj members) = true)
    {s : Member} (hs : s ∈ spec) (hrequired : s.required = true) : ∃ w, (Json.obj members).get? s.name = some w := by
  obtain ⟨_, heq, -, hreq⟩ := Go.carries_obj h
  obtain rfl := Json.obj.inj heq
  obtain ⟨m, hmem, hkey⟩ := hreq s hs hrequired
  cases hlookup : members.reverse.lookup s.name with
  | some w => exact ⟨w, hlookup⟩
  | none =>
    have hne := List.lookup_eq_none_iff.mp hlookup m (List.mem_reverse.mpr hmem)
    simp [hkey] at hne

/-! ### Servers -/

section
open Node (ICEServer)

theorem server_takes : Go.Takes ICEServer.targets iceServerMembers := .of_views Node.iceServer_view iceServer_takes

theorem urls_sets : Sets ICEServer.targets "urls" ICEServer.urls fun v _ => Go.decodeAny v :=
  .replace (.otherString (.otherString .nil (by decide) fun _ _ => rfl) (by decide) fun _ _ => rfl) fun _ _ => rfl

theorem username_sets : Sets ICEServer.targets "username" ICEServer.username Go.decodeString :=
  .otherReplace (.string (.otherString .nil (by decide) fun _ _ => rfl) fun _ _ => rfl) (by decide) fun _ _ => rfl

theorem credential_sets : Sets ICEServer.targets "credential" ICEServer.credential Go.decodeString :=
  .otherReplace (.otherString (.string .nil fun _ _ => rfl) (by decide) fun _ _ => rfl) (by decide) fun _ _ => rfl

/-- An optional string is the empty one where it is missing. -/
theorem optional_string {o : Option Json} {s : String} (hok : ∀ w, o = some w → isString w = true)
    (h : o.elim (s = "") fun w => Go.decodeString w "" = some s) : s = (o.bind Json.asString?).getD "" := by
  cases o with
  | none => exact h
  | some w =>
    have hw := hok w rfl
    cases w with
    | str => exact (Option.some.inj h).symm
    | _ => cases hw

theorem server_alike {v : Json} (hv : carries iceServerMembers v = true) (hnative : v.Native) {s : ICEServer}
    (h : Go.decodeStruct ICEServer.targets {} v = some s) :
    ∃ q, peerServer v = some q ∧ q.library = ⟨s.urlList, s.username, s.credential⟩ := by
  obtain ⟨members, rfl, -⟩ := Go.carries_obj hv
  refine ⟨_, rfl, ?_⟩
  have hurls : (Json.obj members).get? "urls" = s.urls := by
    obtain ⟨w, hw⟩ := carries_some hv (s := ⟨"urls", true, isUrls⟩) (by simp [iceServerMembers]) rfl
    have hok := carries_ok hv (s := ⟨"urls", true, isUrls⟩) (by simp [iceServerMembers]) hw
    have hset := Go.decodeStruct_member urls_sets server_takes ⟨_, List.mem_cons_self, rfl⟩ hv hnative.1 h
    rw [hw, Option.elim_some] at hset
    have hany : Go.decodeAny w = some (some w) := by
      have htakes := takesAny_urls hok
      cases w with
      | str => rfl
      | arr => exact if_pos htakes
      | _ => cases hok
    exact hw.trans (Option.some.inj (hany.symm.trans hset))
  have husername := Go.decodeStruct_member username_sets server_takes
    ⟨_, List.mem_cons_of_mem _ List.mem_cons_self, rfl⟩ hv hnative.1 h
  have hcredential := Go.decodeStruct_member credential_sets server_takes
    ⟨_, List.mem_cons_of_mem _ (List.mem_cons_of_mem _ List.mem_cons_self), rfl⟩ hv hnative.1 h
  have hname := optional_string (fun w hw =>
    carries_ok hv (s := ⟨"username", false, isString⟩) (by simp [iceServerMembers]) hw) husername
  have hcred := optional_string (fun w hw =>
    carries_ok hv (s := ⟨"credential", false, isString⟩) (by simp [iceServerMembers]) hw) hcredential
  unfold PeerServer.library
  rw [hurls, hname, hcred]
  rfl

theorem servers_alike {elems : List Json} (helems : ∀ w ∈ elems, carries iceServerMembers w = true)
    (hnative : Json.NativeElems elems) {servers : List ICEServer}
    (h : elems.mapM (Go.decodeStruct ICEServer.targets {}) = some servers) :
    ∃ qs, elems.mapM peerServer = some qs ∧ qs.map PeerServer.library = servers.map fun s => ⟨s.urlList, s.username, s.credential⟩ := by
  induction elems generalizing servers with
  | nil =>
    obtain rfl := Option.some.inj h
    exact ⟨[], rfl, rfl⟩
  | cons v rest ih =>
    rw [List.mapM_cons] at h
    obtain ⟨s, hs, h⟩ := Option.bind_eq_some_iff.mp h
    obtain ⟨ss, hss, h⟩ := Option.bind_eq_some_iff.mp h
    obtain rfl := Option.some.inj h
    obtain ⟨q, hq, hlib⟩ := server_alike (helems v List.mem_cons_self) hnative.1 hs
    obtain ⟨qs, hqs, hlibs⟩ := ih (fun w hw => helems w (List.mem_cons_of_mem _ hw)) hnative.2 hss
    refine ⟨q :: qs, ?_, ?_⟩
    · rw [List.mapM_cons, hq, hqs]
      rfl
    · rw [List.map_cons, List.map_cons, hlib, hlibs]

end

/-! ### Params -/

section
variable {v : Json} {text : String}

theorem servers_sets : Sets Node.AcceptCallInput.targets "iceServers" Node.AcceptCallInput.iceServers
    fun v old => Go.decodeSlice Node.ICEServer.targets {} old v := by
  refine .otherString (.otherString (Sets.nil.here rfl fun v t t' h => ?_) (by decide) fun _ _ => rfl) (by decide)
    fun _ _ => rfl
  obtain ⟨s, hs, rfl⟩ := Option.map_eq_some_iff.mp h
  exact hs

theorem candidate_sets : Sets Node.RemoteCandidateInput.targets "candidate" Node.RemoteCandidateInput.candidate
    fun v old => Go.decodeStruct Node.ICECandidate.targets old v := by
  refine .otherString (Sets.nil.here rfl fun v t t' h => ?_) (by decide) fun _ _ => rfl
  obtain ⟨c, hc, rfl⟩ := Option.map_eq_some_iff.mp h
  exact hc

theorem input_takes : Go.Takes Node.AcceptCallInput.targets acceptMembers := .of_views Node.accept_fields accept_takes

theorem remoteInput_takes : Go.Takes Node.RemoteCandidateInput.targets remoteCandidateMembers :=
  .of_views Node.remoteCandidate_fields remoteCandidate_takes

theorem accept_offerSdp {p : Node.AcceptCallParams} (h : carries acceptMembers v = true)
    (hp : Go.decodeStruct Node.AcceptCallParams.fields {} v = some p) : v.get? "offerSdp" = some (.str p.offerSdp) := by
  apply Go.decodeStruct_get Node.AcceptCallParams.offerSdp accept_takes h _ _ _ hp
  · exact .string (.self (.check .nil (by decide)) fun _ _ => rfl) (by decide) fun _ _ => rfl
  · exact ⟨_, List.mem_cons_of_mem _ List.mem_cons_self, rfl⟩
  · exact ⟨_, List.mem_cons_of_mem _ List.mem_cons_self, rfl, rfl, fun _ h => h⟩

theorem acceptServers_alike {members : List (String × Json)} (h : carries acceptMembers (.obj members) = true)
    (hnative : (Json.obj members).Native) {p : Node.AcceptCallInput}
    (hp : Go.decodeStruct Node.AcceptCallInput.targets {} (.obj members) = some p) :
    ∃ qs, peerServers ((Json.obj members).get? "iceServers") = some qs ∧
      qs.map PeerServer.library = p.iceServers.elems.map fun s => ⟨s.urlList, s.username, s.credential⟩ := by
  have hset := Go.decodeStruct_member servers_sets input_takes
    ⟨_, List.mem_cons_of_mem _ (List.mem_cons_of_mem _ List.mem_cons_self), rfl⟩ h hnative.1 hp
  cases hw : (Json.obj members).get? "iceServers" with
  | none =>
    rw [hw, Option.elim_none] at hset
    exact ⟨[], rfl, by rw [hset]; rfl⟩
  | some w =>
    rw [hw, Option.elim_some] at hset
    have hok := carries_ok h (s := ⟨"iceServers", false, isIceServers⟩) (by simp [acceptMembers]) hw
    have hwnative := get_native hnative.2.2 hw
    cases w with
    | null =>
      have hnone : p.iceServers = {} := (Option.some.inj hset).symm
      exact ⟨[], rfl, by rw [hnone]; rfl⟩
    | arr elems =>
      cases elems with
      | nil =>
        have hnone : p.iceServers = {} := (Option.some.inj hset).symm
        exact ⟨[], rfl, by rw [hnone]; rfl⟩
      | cons e rest =>
        obtain ⟨servers, hservers, hnew⟩ := Option.map_eq_some_iff.mp hset
        have hdecoded : (e :: rest).mapM (Go.decodeStruct Node.ICEServer.targets {}) = some servers :=
          (Go.decodeElems_nil _ _ _).symm.trans hservers
        obtain ⟨qs, hqs, hlib⟩ := servers_alike (List.all_eq_true.mp hok) hwnative hdecoded
        exact ⟨qs, hqs, by rw [hlib, ← hnew]⟩
    | _ => cases hok

/-- Both libraries get the same candidate. -/
theorem candidate_alike {w : Json} (h : carries candidateMembers w = true) (hnative : w.Native) {c : Node.ICECandidate}
    (hc : Go.decodeStruct Node.ICECandidate.targets ⟨"", none, none⟩ w = some c) :
    ∃ init, candidateInit (some w) = some init ∧ SameCandidate c init := by
  have htakes : Go.Takes Node.ICECandidate.targets candidateMembers := .of_views Node.candidate_view candidate_takes
  have hcandidate : Sets Node.ICECandidate.targets "candidate" Node.ICECandidate.candidate Go.decodeString :=
    .string (.otherReplace (.otherReplace .nil (by decide) fun _ _ => rfl) (by decide) fun _ _ => rfl) fun _ _ => rfl
  have hmid : Sets Node.ICECandidate.targets "sdpMid" Node.ICECandidate.sdpMid fun v _ => Go.decodeStringPointer v :=
    .otherString (.replace (.otherReplace .nil (by decide) fun _ _ => rfl) fun _ _ => rfl) (by decide) fun _ _ => rfl
  have hindex : Sets Node.ICECandidate.targets "sdpMLineIndex" Node.ICECandidate.sdpMLineIndex
      fun v _ => Go.decodeUint16Pointer v :=
    .otherString (.otherReplace (.replace .nil fun _ _ => rfl) (by decide) fun _ _ => rfl) (by decide) fun _ _ => rfl
  obtain ⟨members, rfl, -⟩ := Go.carries_obj h
  refine ⟨_, rfl, ⟨?_, ?_, ?_⟩⟩
  · obtain ⟨w, hw⟩ := carries_some h (s := ⟨"candidate", true, isString⟩) (by simp [candidateMembers]) rfl
    have hok := carries_ok h (s := ⟨"candidate", true, isString⟩) (by simp [candidateMembers]) hw
    have hset := Go.decodeStruct_member hcandidate htakes ⟨_, List.mem_cons_self, rfl⟩ h hnative.1 hc
    rw [hw, Option.elim_some] at hset
    cases w with
    | str text =>
      obtain rfl : text = c.candidate := Option.some.inj hset
      exact hw
    | _ => cases hok
  · have hset := Go.decodeStruct_member hmid htakes ⟨_, List.mem_cons_of_mem _ List.mem_cons_self, rfl⟩ h hnative.1 hc
    show present ((Json.obj members).get? "sdpMid") = _
    cases hw : (Json.obj members).get? "sdpMid" with
    | none =>
      rw [hw, Option.elim_none] at hset
      rw [hset]
      rfl
    | some w =>
      rw [hw, Option.elim_some] at hset
      have hok := carries_ok h (s := ⟨"sdpMid", false, isOptionalString⟩) (by simp [candidateMembers]) hw
      cases w with
      | str text =>
        rw [← Option.some.inj hset]
        rfl
      | null =>
        rw [← Option.some.inj hset]
        rfl
      | _ => cases hok
  · have hset := Go.decodeStruct_member hindex htakes
      ⟨_, List.mem_cons_of_mem _ (List.mem_cons_of_mem _ List.mem_cons_self), rfl⟩ h hnative.1 hc
    show (present ((Json.obj members).get? "sdpMLineIndex")).map natural? = _
    cases hw : (Json.obj members).get? "sdpMLineIndex" with
    | none =>
      rw [hw, Option.elim_none] at hset
      rw [hset]
      rfl
    | some w =>
      rw [hw, Option.elim_some] at hset
      have hok := carries_ok h (s := ⟨"sdpMLineIndex", false, Go.takesUint16⟩) (by simp [candidateMembers]) hw
      cases w with
      | num d =>
        have hplain : d.plain = true := (Bool.and_eq_true_iff.mp hok).1
        have hsome : Go.decodeUint16Pointer (.num d) = some (some (d.mantissa.natAbs * 10 ^ d.exponent.natAbs)) := if_pos hok
        rw [← Option.some.inj (hsome.symm.trans hset)]
        show some (natural? (.num d)) = _
        rw [natural?, if_pos hplain]
        rfl
      | null =>
        rw [← Option.some.inj hset]
        rfl
      | _ => cases hok

/-- **Both nodes hand the same on to their libraries**: the same offer and the same servers,
but for a default one and those without URLs; and the same candidate. -/
theorem inputs_alike (hparse : Json.parse text = some v) (hnative : v.Native) (hdepth : v.depth ≤ Go.maxNestingDepth) :
    (carries acceptMembers v = true → ∃ p qs,
      Node.unmarshalParams Node.AcceptCallInput.targets {} (some text) = some p ∧
      peerServers (v.get? "iceServers") = some qs ∧
      v.get? "callId" = some (.str p.callId) ∧ v.get? "offerSdp" = some (.str p.offerSdp) ∧
      Node.configuration p.iceServers.elems =
        ⟨["stun:stun.l.google.com:19302"], "", ""⟩ :: (qs.map PeerServer.library).filter fun s => !s.urls.isEmpty) ∧
    (carries remoteCandidateMembers v = true → ∃ p init,
      Node.unmarshalParams Node.RemoteCandidateInput.targets {} (some text) = some p ∧
      candidateInit (v.get? "candidate") = some init ∧
      v.get? "callId" = some (.str p.callId) ∧ SameCandidate p.candidate init) := by
  refine ⟨fun h => ?_, fun h => ?_⟩
  · obtain ⟨p, hp⟩ := Option.isSome_iff_exists.mp (Go.decodeStruct_isSome input_takes h {})
    have hview : Go.decodeStruct Node.AcceptCallParams.fields {} v = some p.toAcceptCallParams := by
      rw [show ({} : Node.AcceptCallParams) = ({} : Node.AcceptCallInput).toAcceptCallParams from rfl,
        ← Go.decodeStruct_view Node.accept_fields, hp]
      rfl
    obtain ⟨members, rfl, -⟩ := Go.carries_obj h
    obtain ⟨qs, hqs, hlib⟩ := acceptServers_alike h hnative hp
    refine ⟨p, qs, ?_, hqs, accept_callId h hview, accept_offerSdp h hview, ?_⟩
    · rw [unmarshalParams_eq _ _ hparse, if_pos hdepth, hp]
    · rw [hlib]
      rfl
  · obtain ⟨p, hp⟩ := Option.isSome_iff_exists.mp (Go.decodeStruct_isSome remoteInput_takes h {})
    obtain ⟨members, rfl, -⟩ := Go.carries_obj h
    obtain ⟨w, hw⟩ := carries_some h (s := ⟨"candidate", true, carries candidateMembers⟩)
      (by simp [remoteCandidateMembers]) rfl
    have hok := carries_ok h (s := ⟨"candidate", true, carries candidateMembers⟩) (by simp [remoteCandidateMembers]) hw
    have hset := Go.decodeStruct_member candidate_sets remoteInput_takes ⟨_, List.mem_cons_of_mem _ List.mem_cons_self, rfl⟩
      h hnative.1 hp
    rw [hw, Option.elim_some] at hset
    obtain ⟨init, hinit, hsame⟩ := candidate_alike hok (get_native hnative.2.2 hw) hset
    have hcallId : Sets Node.RemoteCandidateInput.targets "callId" Node.RemoteCandidateInput.callId Go.decodeString := by
      refine .string (Sets.nil.there (by decide) fun v t t' h => ?_) fun _ _ => rfl
      obtain ⟨c, -, rfl⟩ := Option.map_eq_some_iff.mp h
      rfl
    refine ⟨p, init, ?_, hw ▸ hinit, ?_, hsame⟩
    · rw [unmarshalParams_eq _ _ hparse, if_pos hdepth, hp]
    · obtain ⟨text, htext⟩ := Go.carries_get h (s := ⟨"callId", true, isString⟩) (by simp [remoteCandidateMembers]) rfl
        fun _ h => h
      have hid := Go.decodeStruct_member hcallId remoteInput_takes ⟨_, List.mem_cons_self, rfl⟩ h hnative.1 hp
      rw [htext, Option.elim_some] at hid
      obtain rfl : text = p.callId := Option.some.inj hid
      exact htext

end

/-- Params as they were written. -/
theorem parse_written {v : Json} (h : v.Native) : Json.parse (String.ofList v.stringify) = some v := by
  show Json.parseChars (String.ofList v.stringify).toList = some v
  rw [String.toList_ofList]
  exact Json.parseChars_stringify h

def demoAccept : Json :=
  .obj [("callId", .str "7c9e6679-7425-40de-944b-e07fc1f90ae7"), ("offerSdp", .str "v=0"),
    ("iceServers", .arr [.obj [("urls", .arr [.str "turn:a", .str "turn:b"]), ("username", .str "u")], .obj [("urls", .arr [])]])]

def demoCandidate : Json :=
  .obj [("callId", .str "7c9e6679-7425-40de-944b-e07fc1f90ae7"),
    ("candidate", .obj [("candidate", .str "candidate:1"), ("sdpMid", .null), ("sdpMLineIndex", .num ⟨0, 0, true⟩)])]

theorem demoAccept_native : demoAccept.Native := by
  refine Json.native_obj ["callId", "offerSdp", "iceServers"] rfl (by decide +kernel) ⟨trivial, trivial, ⟨?_, ?_, trivial⟩, trivial⟩
  · exact Json.native_obj ["urls", "username"] rfl (by decide +kernel) ⟨⟨trivial, trivial, trivial⟩, trivial, trivial⟩
  · exact Json.native_obj ["urls"] rfl (by decide +kernel) ⟨trivial, trivial⟩

theorem demoCandidate_native : demoCandidate.Native := by
  refine Json.native_obj ["callId", "candidate"] rfl (by decide +kernel) ⟨trivial, ?_, trivial⟩
  exact Json.native_obj ["candidate", "sdpMid", "sdpMLineIndex"] rfl (by decide +kernel)
    ⟨trivial, trivial, ⟨fun _ => rfl, fun h => absurd rfl h, by decide⟩, trivial⟩

/-- Two servers, of which the one without URLs is left out; and a candidate. -/
theorem inputs_alike_written :
    (∃ p qs, Node.unmarshalParams Node.AcceptCallInput.targets {} (some (String.ofList demoAccept.stringify)) = some p ∧
      peerServers (demoAccept.get? "iceServers") = some qs ∧ p.offerSdp = "v=0" ∧
      Node.configuration p.iceServers.elems =
        [⟨["stun:stun.l.google.com:19302"], "", ""⟩, ⟨["turn:a", "turn:b"], "u", ""⟩]) ∧
    ∃ p init, candidateInit (demoCandidate.get? "candidate") = some init ∧
      Node.unmarshalParams Node.RemoteCandidateInput.targets {} (some (String.ofList demoCandidate.stringify)) = some p ∧
      SameCandidate p.candidate init := by
  obtain ⟨p, qs, hp, hqs, -, hoffer, hconfig⟩ :=
    (inputs_alike (parse_written demoAccept_native) demoAccept_native (by decide +kernel)).1 (by decide +kernel)
  obtain ⟨p', init, hp', hinit, -, hsame⟩ :=
    (inputs_alike (parse_written demoCandidate_native) demoCandidate_native (by decide +kernel)).2 (by decide +kernel)
  refine ⟨⟨p, qs, hp, hqs, ?_, ?_⟩, p', init, hinit, hp', hsame⟩
  · have htext : demoAccept.get? "offerSdp" = some (.str "v=0") := rfl
    simpa using hoffer.symm.trans htext
  · have hservers : peerServers (demoAccept.get? "iceServers") = some
        [⟨some (.arr [.str "turn:a", .str "turn:b"]), some (.str "u"), none⟩, ⟨some (.arr []), none, none⟩] := rfl
    obtain rfl := Option.some.inj (hqs.symm.trans hservers)
    exact hconfig

end RtcPlugin.TsNode
