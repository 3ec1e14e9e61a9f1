import Mathlib.Data.List.DropRight
import RtcPlugin.Plugin.Offers
import RtcPlugin.TsNode.Inputs

/-! The way of an offer from a start request to the node's WebRTC library.

The plugin trims the offer and sends it as part of JSON params; the Go node ends it with a
line end again, the TypeScript node takes it as it is. Whatever the runs of the plugin, what
a node's library gets is the trimmed offer of one start request, and the servers of the
plugin's configuration (`offers_arrive`). -/
namespace RtcPlugin.Signalling
open Plugin (offer)

/-- What the gateway writes for the node. -/
def paramsJson : InvokeParams → Json
  | .accept callId offerSdp iceServers => .obj [("callId", .str callId), ("offerSdp", .str offerSdp),
      ("iceServers", .arr (iceServers.map IceServer.toJson))]
  | .remoteCandidate callId candidate => .obj [("callId", .str callId), ("candidate", candidate)]
  | .hangup callId reason => .obj [("callId", .str callId), ("reason", .str reason)]

/-! ### Trimmed texts -/

theorem jsTrim_toList (s : String) : (jsTrim s).toList = (s.toList.dropWhile isJsSpace).rdropWhile isJsSpace :=
  String.toList_ofList

/-- A trimmed text does not end in a line end. -/
theorem jsTrim_last (s : String) {c : Char} (h : (jsTrim s).toList.getLast? = some c) : isJsSpace c = false := by
  rw [jsTrim_toList] at h
  have hne : (s.toList.dropWhile isJsSpace).rdropWhile isJsSpace ≠ [] := by
    intro hnil
    rw [hnil] at h
    cases h
  rw [List.getLast?_eq_getLast_of_ne_nil hne] at h
  have hlast := List.rdropWhile_last_not isJsSpace (s.toList.dropWhile isJsSpace) hne
  rw [Option.some.inj h] at hlast
  exact eq_false_of_ne_true hlast

/-- The Go node gives a trimmed text its line end back. -/
theorem remoteOffer_jsTrim {s : String} (h : jsTrim s ≠ "") : Node.remoteOffer (jsTrim s) = jsTrim s ++ "\r\n" := by
  unfold Node.remoteOffer
  split
  · next hnone =>
    rw [List.getLast?_eq_none_iff, String.toList_eq_nil_iff] at hnone
    exact absurd hnone h
  · next hlast => exact absurd (jsTrim_last s hlast) (by decide)
  · rfl

/-! ### Servers of a configuration -/

/-- A server of the configuration as the Go node's library gets it. -/
def libraryServer (s : IceServer) : Node.LibraryServer :=
  ⟨match s.urls with
    | .one url => [url]
    | .many urls => urls, s.username.getD "", s.credential.getD ""⟩

def peerServer (s : IceServer) : TsNode.PeerServer :=
  ⟨some s.urls.toJson, s.username.map Json.str, s.credential.map Json.str⟩

theorem nativeElems_map {α : Type} {f : α → Json} (h : ∀ a, (f a).Native) (as : List α) : Json.NativeElems (as.map f) := by
  induction as with
  | nil => trivial
  | cons a as ih => exact ⟨h a, ih⟩

theorem depthElems_map {α : Type} {f : α → Json} {n : Nat} (h : ∀ a, (f a).depth ≤ n) (as : List α) :
    Json.depthElems (as.map f) ≤ n := by
  induction as with
  | nil => exact Nat.zero_le n
  | cons a as ih => exact max_le (h a) ih

theorem urls_native (urls : Urls) : urls.toJson.Native := by
  cases urls with
  | one => trivial
  | many urls => exact nativeElems_map (f := .str) (fun _ => trivial) urls

theorem urls_isUrls (urls : Urls) : TsNode.isUrls urls.toJson = true := by
  cases urls with
  | one => rfl
  | many urls =>
    show (urls.map Json.str).all Go.isString = true
    simp [Go.isString]

theorem urls_depth (urls : Urls) : urls.toJson.depth ≤ 1 := by
  cases urls with
  | one => exact Nat.zero_le 1
  | many urls => exact Nat.succ_le_succ (depthElems_map (fun _ => Nat.le_refl 0) urls)

/-- A server as JSON, by what it has. -/
theorem server_members (s : IceServer) : ∃ members, s.toJson = .obj members ∧
    (members.map Prod.fst = ["urls"] ∨ members.map Prod.fst = ["urls", "username"] ∨
      members.map Prod.fst = ["urls", "credential"] ∨ members.map Prod.fst = ["urls", "username", "credential"]) ∧
    (Json.obj members).get? "urls" = some s.urls.toJson ∧
    (Json.obj members).get? "username" = s.username.map Json.str ∧
    (Json.obj members).get? "credential" = s.credential.map Json.str ∧
    ∀ m ∈ members, m = ("urls", s.urls.toJson) ∨ ∃ text, m.1 ∈ ["username", "credential"] ∧ m.2 = .str text := by
  refine ⟨_, rfl, ?_⟩
  cases s.username <;> cases s.credential <;> simp [Json.get?, List.lookup_cons]

theorem server_native (s : IceServer) : s.toJson.Native := by
  obtain ⟨members, he, hnames, -, -, -, hvalues⟩ := server_members s
  have hnative : Json.NativeMembers members := by
    refine Json.nativeMembers_of_forall fun m hm => ?_
    obtain rfl | ⟨text, -, htext⟩ := hvalues m hm
    · exact urls_native s.urls
    · rw [htext]
      trivial
  rw [he]
  obtain hn | hn | hn | hn := hnames <;> exact Json.native_obj _ hn (by decide +kernel) hnative

theorem server_depth (s : IceServer) : s.toJson.depth ≤ 2 := by
  obtain ⟨members, he, -, -, -, -, hvalues⟩ := server_members s
  have hdepth : ∀ members : List (String × Json), (∀ m ∈ members, m.2.depth ≤ 1) → Json.depthMembers members ≤ 1 := by
    intro members h
    induction members with
    | nil => exact Nat.zero_le 1
    | cons m rest ih => exact max_le (h m List.mem_cons_self) (ih fun m' hm' => h m' (List.mem_cons_of_mem _ hm'))
  rw [he]
  refine Nat.succ_le_succ (hdepth members fun m hm => ?_)
  obtain rfl | ⟨text, -, htext⟩ := hvalues m hm
  · exact urls_depth s.urls
  · rw [htext]
    exact Nat.zero_le 1

theorem server_carries (s : IceServer) : Go.carries TsNode.iceServerMembers s.toJson = true := by
  have hurls := urls_isUrls s.urls
  have hfold : Go.foldName "urls" ≠ Go.foldName "username" ∧ Go.foldName "urls" ≠ Go.foldName "credential" ∧
      Go.foldName "username" ≠ Go.foldName "credential" := by decide +kernel
  unfold IceServer.toJson
  cases s.username <;> cases s.credential <;>
    simp [Go.carries, TsNode.iceServerMembers, hurls, Go.isString, hfold, Ne.symm hfold.1, Ne.symm hfold.2.1, Ne.symm hfold.2.2]

theorem peerServer_toJson (s : IceServer) : TsNode.peerServer s.toJson = some (peerServer s) := by
  obtain ⟨members, he, -, hurls, husername, hcredential, -⟩ := server_members s
  rw [he]
  show some _ = _
  rw [hurls, husername, hcredential]
  rfl

theorem peerServer_library (s : IceServer) : (peerServer s).library = libraryServer s := by
  unfold TsNode.PeerServer.library peerServer libraryServer
  have hstr : ∀ o : Option String, ((o.map Json.str).bind Json.asString?).getD "" = o.getD "" := by
    intro o
    cases o <;> rfl
  rw [hstr, hstr]
  cases s.urls with
  | one => rfl
  | many urls =>
    have hall : (urls.map Json.str).filterMap Json.asString? = urls := by
      simp [List.filterMap_map, Function.comp_def, Json.asString?]
    exact congrArg (fun urls => (⟨urls, _, _⟩ : Node.LibraryServer)) hall

/-! ### Offers -/

/-- What the libraries of the two nodes get from the text of an accept's params. -/
structure Arrives (servers : List IceServer) (id sdp text : String) : Prop where
  go : ∃ p, Node.unmarshalParams Node.AcceptCallInput.targets {} (some text) = some p ∧ p.callId = id ∧
    Node.remoteOffer p.offerSdp = sdp ++ "\r\n" ∧
    Node.configuration p.iceServers.elems =
      ⟨["stun:stun.l.google.com:19302"], "", ""⟩ :: (servers.map libraryServer).filter fun s => !s.urls.isEmpty
  ts : ∃ v, TsNode.GatewayNodeClient.parseParams (some (.str text)) = some v ∧ v.get? "callId" = some (.str id) ∧
    v.get? "offerSdp" = some (.str sdp) ∧ TsNode.peerServers (v.get? "iceServers") = some (servers.map peerServer)

theorem accept_native (id sdp : String) (servers : List IceServer) : (paramsJson (.accept id sdp servers)).Native :=
  Json.native_obj ["callId", "offerSdp", "iceServers"] rfl (by decide +kernel)
    ⟨trivial, trivial, nativeElems_map server_native servers, trivial⟩

theorem accept_depth (id sdp : String) (servers : List IceServer) :
    (paramsJson (.accept id sdp servers)).depth ≤ Go.maxNestingDepth := by
  have hservers : (Json.arr (servers.map IceServer.toJson)).depth ≤ 3 := Nat.succ_le_succ (depthElems_map server_depth servers)
  have hdepth : (paramsJson (.accept id sdp servers)).depth ≤ 4 :=
    Nat.succ_le_succ (max_le (Nat.zero_le 3) (max_le (Nat.zero_le 3) (max_le hservers (Nat.zero_le 3))))
  exact hdepth.trans (by decide)

theorem accept_carries (id sdp : String) (servers : List IceServer) :
    Go.carries TsNode.acceptMembers (paramsJson (.accept id sdp servers)) = true := by
  have hfold : Go.foldName "callId" ≠ Go.foldName "offerSdp" ∧ Go.foldName "callId" ≠ Go.foldName "iceServers" ∧
      Go.foldName "offerSdp" ≠ Go.foldName "iceServers" := by decide +kernel
  have hservers : TsNode.isIceServers (.arr (servers.map IceServer.toJson)) = true := by
    show (servers.map IceServer.toJson).all (Go.carries TsNode.iceServerMembers) = true
    simp [server_carries]
  simp [paramsJson, Go.carries, TsNode.acceptMembers, Go.isString, hservers, hfold, Ne.symm hfold.1, Ne.symm hfold.2.1,
    Ne.symm hfold.2.2]

theorem peerServers_map (servers : List IceServer) :
    TsNode.peerServers (some (.arr (servers.map IceServer.toJson))) = some (servers.map peerServer) := by
  show (servers.map IceServer.toJson).mapM TsNode.peerServer = _
  induction servers with
  | nil => rfl
  | cons s rest ih =>
    rw [List.map_cons, List.mapM_cons, peerServer_toJson, ih]
    rfl

theorem parseParams_written {v : Json} (h : v.Native) :
    TsNode.GatewayNodeClient.parseParams (some (.str (String.ofList v.stringify))) = some v := by
  have hparse := TsNode.parse_written h
  have htext : String.ofList v.stringify ≠ "" := by
    intro hempty
    rw [hempty] at hparse
    cases hparse
  rw [TsNode.GatewayNodeClient.parseParams, if_neg htext]
  exact hparse

/-- A trimmed offer arrives. -/
theorem accept_arrives {id sdp : String} (servers : List IceServer) (hsdp : ∃ s, sdp = jsTrim s) (hne : sdp ≠ "") :
    Arrives servers id sdp (String.ofList (paramsJson (.accept id sdp servers)).stringify) := by
  have hparse := TsNode.parse_written (accept_native id sdp servers)
  obtain ⟨p, qs, hp, hqs, hid, hoffer, hconfig⟩ :=
    (TsNode.inputs_alike hparse (accept_native id sdp servers) (accept_depth id sdp servers)).1 (accept_carries id sdp servers)
  have hservers : qs = servers.map peerServer := Option.some.inj (hqs.symm.trans (peerServers_map servers))
  refine ⟨⟨p, hp, ?_, ?_, ?_⟩, paramsJson (.accept id sdp servers), ?_, rfl, rfl, peerServers_map servers⟩
  · exact (Json.str.inj (Option.some.inj hid)).symm
  · obtain ⟨s, rfl⟩ := hsdp
    rw [← Json.str.inj (Option.some.inj hoffer)]
    exact remoteOffer_jsTrim hne
  · rw [hconfig, hservers, List.map_map]
    simp only [Function.comp_def, peerServer_library]
  · exact parseParams_written (accept_native id sdp servers)

/-- **Offers arrive**: every accept that the plugin sends is the only one of its call. It is sent
for one start request, by a plugin that is enabled and has a valid configuration, and what the
WebRTC library of a node then gets is the trimmed offer of that request, which is not empty
and which the call keeps, and the configured servers. -/
theorem offers_arrive {config : WebRtcConfig} {ls : List Plugin.Label} {w : Plugin.World} (h : (Plugin.system config).Run ls w)
    {h' : Nat} {r : InvokeRequest} {id sdp : String} {servers : List IceServer} (hmem : .invoke h' r ∈ w.state.log)
    (hr : r.params = .accept id sdp servers) :
    Plugin.Serves config ∧
    (∃ req, .request req ∈ ls ∧ req.method = .start ∧ req.uuid = id ∧ sdp = offer req) ∧ sdp ≠ "" ∧
    (∃ c, w.state.orchestrator.getCall id = some c ∧ c.offerSdp = sdp) ∧
    (∀ h'' r' sdp' servers', .invoke h'' r' ∈ w.state.log → r'.params = .accept id sdp' servers' → h'' = h' ∧ r' = r) ∧
    Arrives config.iceServers id sdp (String.ofList (paramsJson r.params).stringify) := by
  obtain ⟨hserves, hasked, hne, rfl, hkept⟩ := Plugin.run_offered h h' r id sdp servers hmem hr
  refine ⟨hserves, hasked, hne, hkept, fun h'' r' sdp' servers' hmem' hr' => ?_, ?_⟩
  · exact (Plugin.run_routed h).once hmem hr hmem' hr'
  · obtain ⟨req, -, -, -, hoffer⟩ := hasked
    rw [hr]
    exact accept_arrives config.iceServers ⟨_, hoffer⟩ hne

/-- The accept of one start. -/
theorem offers_arrive_once : ∃ h' r, .invoke h' r ∈ Plugin.demoWaiting.state.log ∧
    Arrives defaultIceServers Plugin.demoCall "offer" (String.ofList (paramsJson r.params).stringify) := by
  have hmem : .invoke 0 ⟨"n1", "rtc.call.accept", .accept Plugin.demoCall "offer" defaultIceServers, 15000, "k"⟩ ∈
      Plugin.demoWaiting.state.log := List.mem_cons_self
  have hrun : (Plugin.system Plugin.demoConfig).Run [.request Plugin.demoStart] Plugin.demoWaiting :=
    (System.Run.nil rfl).snoc Plugin.demoWaiting_step
  exact ⟨0, _, hmem, (offers_arrive hrun hmem rfl).2.2.2.2.2⟩

end RtcPlugin.Signalling
