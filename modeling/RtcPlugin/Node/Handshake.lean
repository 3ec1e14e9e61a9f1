import RtcPlugin.Auth.Payload
import RtcPlugin.Go.Decode
import RtcPlugin.Node.CrashFree

/-! Which message decides the node's handshake.

The node takes the message after its connect request for the answer to it, whatever
that message's type and identifier. `handshake_correlated` says which messages that
may be, where only the response to the request is to decide. -/
namespace RtcPlugin.Node
open RtcPlugin.Go RtcPlugin.Auth

/-! ### The connect request -/

/-- What a client is made with, and what its device signs. -/
structure GatewayClientConfig where
  deviceId : String
  publicKeyBase64URL : String
  signPayload : String → String
  token : String
  displayName : String
  caps : List String
  commands : List String
  goos : String

structure ConnectDevice where
  id : String
  publicKey : String
  signature : String
  signedAt : TimeValue
  nonce : String

structure ConnectParams where
  minProtocol : Nat
  maxProtocol : Nat
  clientId : String
  displayName : String
  version : String
  platform : String
  mode : String
  role : String
  caps : List String
  commands : List String
  device : ConnectDevice
  auth : Option String

structure RequestFrame where
  type : String
  id : String
  method : String
  params : ConnectParams

def connectRequest (g : GatewayClientConfig) (signedAtMs : TimeValue) (reqID nonce : String) : RequestFrame :=
  let authPayload := handshakePayload ⟨g.deviceId, signedAtMs, g.token, nonce, g.goos⟩
  { type := "req"
    id := reqID
    method := "connect"
    params :=
      { minProtocol := 3
        maxProtocol := 3
        clientId := "node-host"
        displayName := g.displayName
        version := "2026.3.8"
        platform := g.goos
        mode := "node"
        role := "node"
        caps := g.caps
        commands := g.commands
        device := ⟨g.deviceId, g.publicKeyBase64URL, g.signPayload authPayload, signedAtMs, nonce⟩
        auth := if g.token ≠ "" then some g.token else none } }

/-- The process, with the connect request it has sent. -/
structure Connecting where
  process : Process
  request : Option RequestFrame

namespace Connecting

section
variable (g : GatewayClientConfig) (signedAtMs : TimeValue) (reqID : String)

def start : Connecting := ⟨.start g.deviceId, none⟩

/-- The request follows the challenge. -/
def receive (c : Connecting) (data : List UInt8) : Connecting :=
  match c.process.phase, readChallenge data with
  | .challenge, .ok (.ok nonce) => ⟨c.process.receive data, some (connectRequest g signedAtMs reqID nonce)⟩
  | _, _ => {c with process := c.process.receive data}

/-- `Connect`, over the messages the gateway sends. -/
def connect (messages : List (List UInt8)) : Connecting := messages.foldl (receive g signedAtMs reqID) (start g)

end

def Accepted (c : Connecting) : Prop := c.process.phase = .reading

/-- The response is yet to come. -/
def Waiting (c : Connecting) : Prop := c.process.phase = .response

/-- A response frame whose identifier is that of the request sent. -/
def Answers (c : Connecting) (resp : ResponseFrame) : Prop :=
  resp.type = "res" ∧ ∃ request, c.request = some request ∧ resp.id = request.id

end Connecting

/-! ### Frames -/

/-- The nonce that a decoded challenge carries. -/
def EventFrame.nonce? (ev : EventFrame) : Option String :=
  ev.payload.bind (decodeStruct [.string "nonce" fun s _ => s] "")

def IsChallenge (data : List UInt8) : Prop :=
  ∃ ev, unmarshal EventFrame.fields {} (runes data) = some ev ∧ ev.type = "event" ∧ ev.event = "connect.challenge" ∧
    ∃ nonce, ev.nonce? = some nonce

instance (data : List UInt8) : Decidable (IsChallenge data) :=
  decidable_of_iff ((unmarshal EventFrame.fields {} (runes data)).any (fun ev =>
      ev.type == "event" && ev.event == "connect.challenge" && ev.nonce?.isSome) = true) <| by
    simp [IsChallenge, Option.any_eq_true, Option.isSome_iff_exists, and_assoc]

def IsEvent (data : List UInt8) : Prop :=
  ∃ ev, unmarshal EventFrame.fields {} (runes data) = some ev ∧ ev.type = "event"

instance (data : List UInt8) : Decidable (IsEvent data) :=
  decidable_of_iff ((unmarshal EventFrame.fields {} (runes data)).any (·.type == "event") = true) <| by
    simp [IsEvent, Option.any_eq_true]

def IsResponse (data : List UInt8) (resp : ResponseFrame) : Prop :=
  unmarshal ResponseFrame.fields {} (runes data) = some resp

/-- The handshake is decided by the response to its request: what is to hold where
`messages` follow the challenge. -/
structure Correlated (g : GatewayClientConfig) (signedAtMs : TimeValue) (reqID : String) (challenge : List UInt8)
    (messages : List (List UInt8)) : Prop where
  /-- Behind any number of events, the response decides. -/
  decided : ∀ events data resp, messages = events ++ [data] → (∀ e ∈ events, IsEvent e) → IsResponse data resp →
    (Connecting.connect g signedAtMs reqID (challenge :: events)).Answers resp →
    ((Connecting.connect g signedAtMs reqID (challenge :: messages)).Accepted ↔ resp.ok = true)
  /-- Events alone leave the handshake waiting. -/
  waiting : ∀ events rest, messages = events ++ rest → (∀ e ∈ events, IsEvent e) →
    (Connecting.connect g signedAtMs reqID (challenge :: events)).Waiting
  /-- Only the response is taken for an acceptance. -/
  accepted : ∀ before data after, messages = before ++ data :: after →
    (Connecting.connect g signedAtMs reqID (challenge :: before)).Waiting →
    (Connecting.connect g signedAtMs reqID (challenge :: (before ++ [data]))).Accepted →
    ∃ resp, IsResponse data resp ∧ (Connecting.connect g signedAtMs reqID (challenge :: before)).Answers resp

/-- The first message behind the challenge is no event, and is the response to the
request if it says `ok`. -/
def Direct (reqID : String) : List (List UInt8) → Prop
  | [] => True
  | data :: _ => ¬ IsEvent data ∧ ∀ resp, IsResponse data resp → resp.ok = true → resp.type = "res" ∧ resp.id = reqID

/-! ### A frame has one type -/

theorem EventFrame.reads_type : Reads EventFrame.fields "type" EventFrame.type :=
  .self (.string (.raw .nil (by decide) fun _ _ => rfl) (by decide) fun _ _ => rfl) fun _ _ => rfl

theorem ResponseFrame.reads_type : Reads ResponseFrame.fields "type" ResponseFrame.type :=
  .self (.string (.bool (.raw (.pointer .nil (by decide) fun _ _ => rfl) (by decide) fun _ _ => rfl) (by decide)
    fun _ _ => rfl) (by decide) fun _ _ => rfl) fun _ _ => rfl

theorem EventFrame.type_text {members : List (String × Json)} {ev : EventFrame}
    (h : decodeMembers EventFrame.fields members {} = some ev) : ev.type = lastText "type" members "" :=
  decodeMembers_text reads_type (by simp only [EventFrame.fields, List.forall_mem_cons]; decide)
    ⟨_, List.mem_cons_self, rfl⟩ h

theorem ResponseFrame.type_text {members : List (String × Json)} {resp : ResponseFrame}
    (h : decodeMembers ResponseFrame.fields members {} = some resp) : resp.type = lastText "type" members "" :=
  decodeMembers_text reads_type (by simp only [ResponseFrame.fields, List.forall_mem_cons]; decide)
    ⟨_, List.mem_cons_self, rfl⟩ h

/-- Both structs read the same type off a frame. -/
theorem IsEvent.type {data : List UInt8} (hevent : IsEvent data) {resp : ResponseFrame} (h : IsResponse data resp) :
    resp.type = "event" := by
  obtain ⟨ev, hev, htype⟩ := hevent
  obtain ⟨v, hv, hdecode⟩ := Option.bind_eq_some_iff.mp hev
  obtain ⟨v', hv', hdecode'⟩ := Option.bind_eq_some_iff.mp h
  obtain rfl := Option.some.inj (hv.symm.trans hv')
  cases v with
  | obj members => rw [ResponseFrame.type_text hdecode', ← EventFrame.type_text hdecode, htype]
  | null =>
    obtain rfl := Option.some.inj hdecode
    exact absurd htype (by decide)
  | _ => cases hdecode

/-! ### What one message does -/

theorem readChallenge_ok {data : List UInt8} (h : IsChallenge data) : ∃ nonce, readChallenge data = .ok (.ok nonce) := by
  obtain ⟨ev, hev, -, hname, nonce, hdecode⟩ := h
  obtain ⟨payload, hpayload, hnonce⟩ := Option.bind_eq_some_iff.mp hdecode
  refine ⟨nonce, ?_⟩
  simp only [readChallenge, hev, hname, hpayload, ne_eq, not_true_eq_false, if_false]
  have hderef (f : Json → Checked (Except HandshakeError String)) : (deref (some payload) >>= f) = f payload := rfl
  rw [hderef, hnonce]

namespace Connecting

variable {g : GatewayClientConfig} {signedAtMs : TimeValue} {reqID : String}

theorem connect_challenge (g : GatewayClientConfig) (signedAtMs : TimeValue) (reqID : String) {challenge : List UInt8}
    (h : IsChallenge challenge) : ∃ nonce, connect g signedAtMs reqID [challenge] =
      ⟨{Process.start g.deviceId with phase := .response}, some (connectRequest g signedAtMs reqID nonce)⟩ := by
  obtain ⟨nonce, hread⟩ := readChallenge_ok h
  refine ⟨nonce, ?_⟩
  simp [connect, receive, start, Process.start, Process.receive, hread]

theorem answers_challenge {challenge : List UInt8} (h : IsChallenge challenge) (resp : ResponseFrame) :
    (connect g signedAtMs reqID [challenge]).Answers resp ↔ resp.type = "res" ∧ resp.id = reqID := by
  obtain ⟨nonce, hconnect⟩ := connect_challenge g signedAtMs reqID h
  rw [hconnect]
  simp [Answers, connectRequest]

theorem waiting_challenge {challenge : List UInt8} (h : IsChallenge challenge) :
    (connect g signedAtMs reqID [challenge]).Waiting := by
  obtain ⟨nonce, hconnect⟩ := connect_challenge g signedAtMs reqID h
  rw [hconnect]
  rfl

/-- Whatever comes while the client waits is read as the response. -/
theorem receive_waiting {c : Connecting} (h : c.Waiting) (data : List UInt8) :
    (c.receive g signedAtMs reqID data).process.phase =
      match readConnectResponse data with
      | .error e => .ended (some e)
      | .ok () => .reading := by
  have hphase : c.process.phase = .response := h
  simp only [receive, hphase, Process.receive]
  cases readConnectResponse data <;> rfl

theorem receive_accepted {c : Connecting} (h : c.Waiting) (data : List UInt8) :
    (c.receive g signedAtMs reqID data).Accepted ↔ ∃ resp, IsResponse data resp ∧ resp.ok = true := by
  rw [Accepted, receive_waiting h, readConnectResponse]
  cases hresp : unmarshal ResponseFrame.fields {} (runes data) with
  | none => simp [IsResponse, hresp]
  | some resp => cases hok : resp.ok <;> simp [IsResponse, hresp, hok]

/-- Behind messages that left the client waiting, a message is an acceptance if it says `ok`. -/
theorem accepted_next {messages : List (List UInt8)} (h : (connect g signedAtMs reqID messages).Waiting)
    (data : List UInt8) : (connect g signedAtMs reqID (messages ++ [data])).Accepted ↔
      ∃ resp, IsResponse data resp ∧ resp.ok = true := by
  rw [connect, List.foldl_append]
  exact receive_accepted h data

/-- Nothing awaits the first two messages any more. -/
def Settled (c : Connecting) : Prop := c.process.phase ≠ .challenge ∧ c.process.phase ≠ .response

theorem receive_settles {c : Connecting} (h : c.Waiting) (data : List UInt8) :
    (c.receive g signedAtMs reqID data).Settled := by
  rw [Settled, receive_waiting h]
  cases readConnectResponse data <;> simp

theorem receive_settled {c : Connecting} (h : c.Settled) (data : List UInt8) :
    (c.receive g signedAtMs reqID data).Settled := by
  obtain ⟨hchallenge, hresponse⟩ := h
  cases hphase : c.process.phase with
  | challenge => exact absurd hphase hchallenge
  | response => exact absurd hphase hresponse
  | reading => simp [Settled, receive, Process.receive, hphase]
  | ended e => simp [Settled, receive, Process.receive, hphase]

theorem settled_foldl {c : Connecting} (h : c.Settled) (messages : List (List UInt8)) :
    (messages.foldl (receive g signedAtMs reqID) c).Settled := by
  induction messages generalizing c with
  | nil => exact h
  | cons data rest ih => exact ih (receive_settled h data)

/-- The first message behind the challenge ends the handshake. -/
theorem settled_second {challenge : List UInt8} (h : IsChallenge challenge) (data : List UInt8)
    (rest : List (List UInt8)) : (connect g signedAtMs reqID (challenge :: data :: rest)).Settled :=
  settled_foldl (receive_settles (waiting_challenge h) data) rest

theorem Settled.not_waiting {c : Connecting} (h : c.Settled) : ¬ c.Waiting := h.2

end Connecting

/-! ### The law, and where it holds -/

section
variable {g : GatewayClientConfig} {signedAtMs : TimeValue} {reqID : String} {challenge : List UInt8}

theorem Correlated.direct {messages : List (List UInt8)} (hc : IsChallenge challenge)
    (h : Correlated g signedAtMs reqID challenge messages) : Direct reqID messages := by
  cases messages with
  | nil => trivial
  | cons data rest =>
    constructor
    · intro hevent
      have hwaiting := h.waiting [data] rest rfl (by simpa using hevent)
      exact (Connecting.settled_second hc data []).not_waiting hwaiting
    · intro resp hresp hok
      have hwaiting : (Connecting.connect g signedAtMs reqID [challenge]).Waiting := Connecting.waiting_challenge hc
      have haccepted := (Connecting.accepted_next hwaiting data).mpr ⟨resp, hresp, hok⟩
      obtain ⟨resp', hresp', hanswers⟩ := h.accepted [] data rest rfl hwaiting haccepted
      obtain rfl := Option.some.inj (hresp'.symm.trans hresp)
      exact (Connecting.answers_challenge hc _).mp hanswers

theorem Direct.no_event {data : List UInt8} {rest events tail : List (List UInt8)}
    (h : Direct reqID (data :: rest)) (hsplit : data :: rest = events ++ tail) (hevents : ∀ e ∈ events, IsEvent e) :
    events = [] := by
  cases events with
  | nil => rfl
  | cons e events =>
    obtain ⟨rfl, -⟩ := List.cons.inj hsplit
    exact absurd (hevents data List.mem_cons_self) h.1

theorem Direct.correlated {messages : List (List UInt8)} (hc : IsChallenge challenge) (h : Direct reqID messages) :
    Correlated g signedAtMs reqID challenge messages := by
  cases messages with
  | nil =>
    refine ⟨fun events data resp hsplit => ?_, fun events rest hsplit _ => ?_, fun before data after hsplit => ?_⟩
    · exact absurd hsplit (by simp)
    · obtain ⟨rfl, -⟩ := List.nil_eq_append_iff.mp hsplit
      exact Connecting.waiting_challenge hc
    · exact absurd hsplit (by simp)
  | cons first rest =>
    refine ⟨fun events data resp hsplit hevents hresp _ => ?_, fun events tail hsplit hevents => ?_,
      fun before data after hsplit hwaiting haccepted => ?_⟩
    · obtain rfl := h.no_event hsplit hevents
      obtain ⟨rfl, rfl⟩ := List.cons.inj hsplit
      have hwaiting : (Connecting.connect g signedAtMs reqID [challenge]).Waiting := Connecting.waiting_challenge hc
      have hnext := Connecting.accepted_next hwaiting first
      constructor
      · intro haccepted
        obtain ⟨resp', hresp', hok⟩ := hnext.mp haccepted
        obtain rfl := Option.some.inj (hresp'.symm.trans hresp)
        exact hok
      · intro hok
        exact hnext.mpr ⟨resp, hresp, hok⟩
    · obtain rfl := h.no_event hsplit hevents
      exact Connecting.waiting_challenge hc
    · cases before with
      | nil =>
        obtain ⟨rfl, -⟩ := List.cons.inj hsplit
        obtain ⟨resp, hresp, hok⟩ := (Connecting.accepted_next hwaiting first).mp haccepted
        exact ⟨resp, hresp, (Connecting.answers_challenge hc resp).mpr (h.2 resp hresp hok)⟩
      | cons d before => exact absurd hwaiting (Connecting.settled_second hc d before).not_waiting

/-- **The handshake is decided by the response to its request exactly where that
response comes first**: no event before it, and no other frame that says `ok`. -/
theorem handshake_correlated (hc : IsChallenge challenge) (messages : List (List UInt8)) :
    Correlated g signedAtMs reqID challenge messages ↔ Direct reqID messages :=
  ⟨fun h => h.direct hc, fun h => h.correlated hc⟩

/-- Behind events, the response decides only where there were none. -/
theorem correlated_behind_events (hc : IsChallenge challenge) {events : List (List UInt8)} {data : List UInt8}
    {resp : ResponseFrame} (hevents : ∀ e ∈ events, IsEvent e) (hresp : IsResponse data resp) (htype : resp.type = "res")
    (hid : resp.id = reqID) : Correlated g signedAtMs reqID challenge (events ++ [data]) ↔ events = [] := by
  constructor
  · intro h
    cases events with
    | nil => rfl
    | cons e events => exact absurd (hevents e List.mem_cons_self) (h.direct hc).1
  · intro h
    subst h
    refine Direct.correlated hc ⟨fun hevent => ?_, fun resp' hresp' _ => ?_⟩
    · exact absurd (htype.symm.trans (hevent.type hresp)) (by decide)
    · obtain rfl := Option.some.inj (hresp'.symm.trans hresp)
      exact ⟨htype, hid⟩

end

/-- The state of the handshake is that of the process. -/
theorem connect_process (g : GatewayClientConfig) (signedAtMs : TimeValue) (reqID : String)
    (messages : List (List UInt8)) :
    (Connecting.connect g signedAtMs reqID messages).process = messages.foldl Process.receive (.start g.deviceId) := by
  have hfoldl (c : Connecting) : (messages.foldl (Connecting.receive g signedAtMs reqID) c).process =
      messages.foldl Process.receive c.process := by
    induction messages generalizing c with
    | nil => rfl
    | cons data rest ih =>
      rw [List.foldl_cons, List.foldl_cons, ih]
      congr 1
      simp only [Connecting.receive]
      split <;> rfl
  exact hfoldl _

/-! ### An event between the challenge and the response -/

def nodeConfig : GatewayClientConfig := ⟨"node", "", id, "", "RTC Node", ["rtc.media"], [], "linux"⟩

/-- An event frame with further members. -/
def tickFrame (more : String) : List UInt8 :=
  Process.bytes ("\x7b\"type\":\"event\",\"event\":\"tick\"" ++ more ++ "\x7d")

def connecting (messages : List (List UInt8)) : Connecting :=
  .connect nodeConfig ⟨1741420800000, by decide⟩ "1" (Process.challengeFrame :: messages)

/-- The response to the request, right behind the challenge. -/
theorem handshake_correlated_consent :
    Correlated nodeConfig ⟨1741420800000, by decide⟩ "1" Process.challengeFrame [Process.consentFrame] :=
  (handshake_correlated (by decide +kernel) [Process.consentFrame]).mpr
    ⟨by decide +kernel, fun resp hresp _ => by
      have hread : (unmarshal ResponseFrame.fields {} (runes Process.consentFrame)).all
        (fun resp => resp.type == "res" && resp.id == "1") = true := by decide +kernel
      rw [hresp] at hread
      simpa using hread⟩

/-- One event fails the handshake that the response would have completed, and one that
says `ok` completes it. -/
theorem event_decides : IsChallenge Process.challengeFrame ∧ IsEvent (tickFrame "") ∧
    ¬ Correlated nodeConfig ⟨1741420800000, by decide⟩ "1" Process.challengeFrame [tickFrame "", Process.consentFrame] ∧
      (connecting [tickFrame ""]).process.phase = .ended (some (.rejected "unknown error")) ∧
      (connecting [tickFrame ",\"ok\":true"]).process.phase = .reading := by
  refine ⟨by decide +kernel, by decide +kernel, fun h => ?_, by decide +kernel, by decide +kernel⟩
  have hwaiting := h.waiting [tickFrame ""] [Process.consentFrame] rfl (by decide +kernel)
  exact absurd (show (connecting [tickFrame ""]).process.phase = .response from hwaiting) (by decide +kernel)

end RtcPlugin.Node
