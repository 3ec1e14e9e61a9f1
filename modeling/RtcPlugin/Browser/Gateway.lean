import RtcPlugin.Browser.Client
import RtcPlugin.Json.Parse
import RtcPlugin.Json.ToText
import RtcPlugin.System.Promises
import RtcPlugin.System.Simulation
import RtcPlugin.TsNode.WebSocket

/-! The browser page and its connection to the gateway.

A `Tab` is the page with its sockets and the requests that wait for a response. Its voice
call is the `Client`, which only knows whether the socket is open; what it asks to be sent
goes out here under a fresh identifier, and what it waits for comes in as a frame. The page
has one socket or the timer for the next one, and never two (`one_link`). -/
namespace RtcPlugin.Browser
open TsNode (WebSocket ReadyState)

/-- What a request asks for. -/
inductive Body where
  | connect (nonce : Option Json)
  | chatSend (text : String)
  | rtc (r : Request)
  deriving Repr

/-- A frame of type `req`. -/
structure RequestFrame where
  id : String
  body : Body
  deriving Repr

inductive Outcome where
  | resolved (payload : Option Json)
  | rejected (message : List Char)
  /-- The error for it could not be made: nothing will settle it. -/
  | dropped
  deriving Repr

/-- The clicks and the events of a call's connection; the rest comes from the gateway. -/
def Client.Label.isLocal : Client.Label → Bool
  | .startResponse .. | .callEnded | .serverEnds _ | .socket _ => false
  | _ => true

structure Tab where
  client : Client
  ws : Option Nat
  sockets : Nat → WebSocket RequestFrame
  created : Nat
  /-- The calls of `setTimeout(connectGateway, 3000)` that have not run. -/
  timers : Nat
  requests : Promises String Body Outcome
  /-- The identifiers drawn so far. -/
  issued : List String

namespace Tab
open Client (Label)

/-- `ws.readyState === WebSocket.OPEN`, on a socket that may be null. -/
def isOpen (t : Tab) : Bool := t.ws.any fun s => (t.sockets s).readyState = .open

def setSocket (t : Tab) (s : Nat) (w : WebSocket RequestFrame) : Tab :=
  {t with sockets := Function.update t.sockets s w}

/-- The client's flag is whether the socket is open. -/
def sync (t : Tab) : Tab := {t with client := {t.client with ws := t.isOpen}}

def connectGateway (t : Tab) : Tab :=
  {t.setSocket t.created .new with ws := some t.created, created := t.created + 1}.sync

/-- The page once its script has run. -/
def new (page : Page) : Tab :=
  connectGateway ⟨.new page false, none, fun _ => .absent, 0, 0, ⟨.empty, []⟩, []⟩

/-- `sendRequest`: the promise of one that is not sent is rejected at once. -/
def sendRequest (t : Tab) (id : String) (body : Body) : Tab :=
  match t.ws with
  | none => t
  | some s =>
    if (t.sockets s).readyState = .open then
      {t.setSocket s {t.sockets s with sent := (t.sockets s).sent ++ [⟨id, body⟩]} with
        requests := t.requests.add id body, issued := t.issued ++ [id]}
    else t

/-- What the call logic has sent meanwhile goes out. -/
def absorb (t : Tab) (c : Client) (id : String) : Tab :=
  match c.sent.drop t.client.sent.length with
  | [] => {t with client := c}
  | r :: _ => {t with client := c}.sendRequest id (.rtc r)

/-! ### Frames -/

/-- `frame.error?.message ?? frame.payload?.error ?? "Request failed"`, where the one page
does not look into the payload. -/
def failure (page : Page) (frame : Json) : Json :=
  let inPayload := match page with
    | .html => present (optGet? (frame.get? "payload") "error")
    | .app => none
  ((present (optGet? (frame.get? "error") "message")).or inPayload).getD (.str "Request failed")

def responseOutcome (page : Page) (frame : Json) : Outcome :=
  if optTruthy (frame.get? "ok") then .resolved (frame.get? "payload")
  else
    match (failure page frame).toText with
    | some message => .rejected message
    | none => .dropped

/-- What `startCall` takes from the payload; it throws where there is none. -/
def startResult? : Option Json → Option StartResult
  | none | some .null => none
  | some payload => some ⟨((payload.get? "callId").bind Json.asString?).getD "", payload.get? "answerSdp",
      payload.get? "candidates"⟩

/-- The part of the page that awaits the promise. -/
def resume (t : Tab) (body : Body) (outcome : Outcome) : Tab :=
  match body, outcome with
  | .rtc (.start p), .resolved payload => {t with client := t.client.onStartResponse p (startResult? payload)}
  | .rtc (.start p), .rejected _ => {t with client := t.client.onStartResponse p none}
  | _, _ => t

def handleResponse (t : Tab) (frame : Json) : Tab :=
  match frame.get? "id" with
  | some (.str id) =>
    match t.requests.pending.get? id with
    | some body =>
      let outcome := responseOutcome t.client.page frame
      {t with requests := t.requests.settle id outcome}.resume body outcome
    | none => t
  | _ => t

/-- `index.html` answers a challenge that has a nonce, `app.ts` every one that has a payload. -/
def handleChallenge (t : Tab) (payload : Option Json) (id : String) : Tab :=
  match t.client.page with
  | .html =>
    let nonce := optGet? payload "nonce"
    if optTruthy nonce then t.sendRequest id (.connect nonce) else t
  | .app =>
    match payload with
    | none | some .null => t
    | some payload => t.sendRequest id (.connect (payload.get? "nonce"))

/-- The events of the chat and the transcript change nothing here. -/
def handleEvent (t : Tab) (frame : Json) (id : String) : Tab :=
  match frame.get? "event" with
  | some (.str "connect.challenge") => t.handleChallenge (frame.get? "payload") id
  | some (.str "rtc.call.ended") => {t with client := t.client.handleCallEnded}
  | _ => t

def handleFrame (t : Tab) (frame : Json) (id : String) : Tab :=
  match frame.get? "type" with
  | some (.str "event") => t.handleEvent frame id
  | some (.str "res") => t.handleResponse frame
  | _ => t

/-- `ws.onmessage`: what throws in it is logged. -/
def onMessage (t : Tab) (text : String) (id : String) : Tab :=
  match Json.parse text with
  | some frame => t.handleFrame frame id
  | none => t

/-! ### The connection -/

def onOpen (t : Tab) (s : Nat) : Tab := (t.setSocket s {t.sockets s with readyState := .open}).sync

def onClosing (t : Tab) (s : Nat) : Tab := (t.setSocket s {t.sockets s with readyState := .closing}).sync

/-- `ws.onclose`: the requests that wait go on waiting. -/
def onClose (t : Tab) (s : Nat) : Tab :=
  {t.setSocket s {t.sockets s with readyState := .closed} with ws := none, timers := t.timers + 1}.sync

def onTimer (t : Tab) : Tab := {t with timers := t.timers - 1}.connectGateway

inductive Event where
  /-- A click, or what the browser tells a call; `id` is the identifier a request gets. -/
  | page (l : Label) (id : String)
  /-- The chat's form is submitted. -/
  | submit (text : String) (id : String)
  | opened (s : Nat)
  | message (s : Nat) (text : String) (id : String)
  /-- The other side starts to close. -/
  | closing (s : Nat)
  | closed (s : Nat)
  | timer
  deriving Repr

/-- `crypto.randomUUID` draws what was not drawn before, and `new WebSocket` does not throw
(as it would on a URL that is none, which the page's address may hold). -/
inductive Step (t : Tab) : Event → Tab → Prop where
  | page {l c id} : l.isLocal = true → Client.Step t.client l c → id ∉ t.issued → Step t (.page l id) (t.absorb c id)
  | submit {text id} : text ≠ "" → id ∉ t.issued → Step t (.submit text id) (t.sendRequest id (.chatSend text))
  | opened {s} : (t.sockets s).readyState = .connecting → Step t (.opened s) (t.onOpen s)
  | message {s text id} : (t.sockets s).readyState = .open → id ∉ t.issued →
      Step t (.message s text id) (t.onMessage text id)
  | closing {s} : (t.sockets s).readyState = .open → Step t (.closing s) (t.onClosing s)
  | closed {s} : (t.sockets s).readyState ≠ .closed → Step t (.closed s) (t.onClose s)
  | timer : 0 < t.timers → Step t .timer t.onTimer

def system (page : Page) : System Tab Event where
  init := (· = new page)
  step := Step

/-- A start that succeeds is answered with the identifier of its call, as the plugin does. -/
def Named (t : Tab) : Event → Prop
  | .message _ text _ => ∀ frame id p payload, Json.parse text = some frame → frame.get? "type" = some (.str "res") →
      frame.get? "id" = some (.str id) → t.requests.pending.get? id = some (.rtc (.start p)) →
      optTruthy (frame.get? "ok") = true → frame.get? "payload" = some payload → payload ≠ .null →
      ∃ callId, payload.get? "callId" = some (.str callId) ∧ callId ≠ ""
  | _ => True

end Tab

/-! ### What calls leave alone -/

namespace Client

/-- What only the connection changes. -/
def setting (c : Client) : Page × Bool := (c.page, c.ws)

@[simp] theorem cleanupCall_setting (c : Client) : c.cleanupCall.setting = c.setting := by
  unfold cleanupCall
  split <;> rfl

@[simp] theorem fail_setting (c : Client) (i : Nat) : (c.fail i).setting = c.setting := cleanupCall_setting _

theorem getD_sendRequest_setting (c : Client) (r : Request) : ((c.sendRequest r).getD c).setting = c.setting := by
  obtain ⟨sent, he⟩ := getD_sendRequest c r
  rw [he]
  rfl

theorem invoke_setting (c : Client) (i : Nat) (call : PeerCall) (stage : Stage) :
    (c.invoke i call stage).setting = c.setting := by
  obtain ⟨-, he⟩ | ⟨p, -, ⟨-, he⟩ | ⟨-, he⟩⟩ := invoke_cases c i call stage
  · rw [he, fail_setting]
  · rw [he]
    rfl
  · rw [he, fail_setting]
    rfl

theorem addCandidates_setting (c : Client) (i : Nat) (rest : List Json) : (c.addCandidates i rest).setting = c.setting := by
  cases rest with
  | nil => rfl
  | cons v rest => exact invoke_setting ..

theorem onStartResponse_setting (c : Client) (i : Nat) (result : Option StartResult) :
    (c.onStartResponse i result).setting = c.setting := by
  cases result with
  | none => exact fail_setting c i
  | some r => exact invoke_setting ..

theorem step_setting {c c' : Client} {l : Label} (hl : l.isLocal = true) (hs : Step c l c') : c'.setting = c.setting := by
  cases hs with
  | callClick =>
    unfold startCall
    split <;> rfl
  | hangupClick =>
    unfold hangup
    split
    · rw [cleanupCall_setting, getD_sendRequest_setting]
    · rw [cleanupCall_setting]
  | media =>
    unfold onMedia
    split
    · rfl
    · rw [fail_setting]
  | offer =>
    unfold onOffer
    split
    · rfl
    · rw [fail_setting]
  | localDescription =>
    unfold onLocalDescription
    split
    · split
      · next hsend =>
        rw [sendRequest_eq hsend]
        rfl
      · rw [fail_setting]
    · rw [fail_setting]
  | answer =>
    unfold onAnswer
    split
    · split
      · rw [addCandidates_setting]
      · rw [fail_setting]
    · rw [fail_setting]
  | candidate =>
    unfold onCandidateAdded
    split
    · rw [addCandidates_setting]
    · rw [fail_setting]
  | iceCandidate =>
    unfold onIceCandidate
    split
    · rw [getD_sendRequest_setting]
    · rfl
  | connectionState =>
    unfold onConnectionStateChange
    split
    · exact cleanupCall_setting c
    · rfl
  | startResponse | callEnded | serverEnds | socket => cases hl

end Client

namespace Tab

/-! ### One link -/

/-- The connection, without what was sent on it. -/
def link (t : Tab) : Option Nat × (Nat → ReadyState) × Nat × Nat × Page × Bool :=
  (t.ws, fun s => (t.sockets s).readyState, t.created, t.timers, t.client.setting)

theorem isOpen_eq (t : Tab) : t.isOpen = t.link.1.any fun s => t.link.2.1 s = .open := rfl

theorem sendRequest_link (t : Tab) (id : String) (body : Body) : (t.sendRequest id body).link = t.link := by
  unfold sendRequest
  split
  · rfl
  · next s _ =>
    split
    · refine Prod.ext rfl (Prod.ext (funext fun s' => ?_) rfl)
      show (Function.update t.sockets s _ s').readyState = (t.sockets s').readyState
      by_cases hs : s' = s
      · rw [hs, Function.update_self]
      · rw [Function.update_of_ne hs]
    · rfl

theorem client_link (t : Tab) {c : Client} (h : c.setting = t.client.setting) : {t with client := c}.link = t.link :=
  Prod.ext rfl (Prod.ext rfl (Prod.ext rfl (Prod.ext rfl h)))

theorem absorb_link (t : Tab) {c : Client} (h : c.setting = t.client.setting) (id : String) : (t.absorb c id).link = t.link := by
  unfold absorb
  split
  · exact client_link t h
  · rw [sendRequest_link]
    exact client_link t h

theorem resume_link (t : Tab) (body : Body) (outcome : Outcome) : (t.resume body outcome).link = t.link := by
  unfold resume
  split
  · exact client_link t (Client.onStartResponse_setting ..)
  · exact client_link t (Client.onStartResponse_setting ..)
  · rfl

theorem handleResponse_link (t : Tab) (frame : Json) : (t.handleResponse frame).link = t.link := by
  unfold handleResponse
  split
  · split
    · exact resume_link _ _ _
    · rfl
  · rfl

theorem handleChallenge_link (t : Tab) (payload : Option Json) (id : String) : (t.handleChallenge payload id).link = t.link := by
  unfold handleChallenge
  split
  · dsimp only
    split
    · exact sendRequest_link ..
    · rfl
  · split
    · rfl
    · rfl
    · exact sendRequest_link ..

theorem onMessage_link (t : Tab) (text : String) (id : String) : (t.onMessage text id).link = t.link := by
  unfold onMessage
  split
  · next frame _ =>
    unfold handleFrame
    split
    · unfold handleEvent
      split
      · exact handleChallenge_link ..
      · exact client_link t (Client.cleanupCall_setting _)
      · rfl
    · exact handleResponse_link ..
    · rfl
  · rfl

/-- One socket that is not closed, which is the one in use, or the timer for the next one. -/
structure Linked (t : Tab) : Prop where
  current : ∀ s, (t.sockets s).readyState ≠ .closed ↔ t.ws = some s
  timers : t.timers = if t.ws.isSome then 0 else 1
  made : ∀ s, t.ws = some s → s < t.created
  flag : t.client.ws = t.isOpen

theorem Linked.ofSame {t t' : Tab} (h : Linked t) (hlink : t'.link = t.link) : Linked t' := by
  have hws : t'.ws = t.ws := congrArg Prod.fst hlink
  have hready : ∀ s, (t'.sockets s).readyState = (t.sockets s).readyState := congrFun (congrArg (·.2.1) hlink)
  refine ⟨fun s => ?_, ?_, fun s hs => ?_, ?_⟩
  · rw [hready, hws]
    exact h.current s
  · rw [hws]
    exact (congrArg (·.2.2.2.1) hlink).trans h.timers
  · rw [show t'.created = t.created from congrArg (·.2.2.1) hlink]
    exact h.made s (hws ▸ hs)
  · rw [isOpen_eq, hlink, ← isOpen_eq, ← h.flag]
    exact congrArg (·.2.2.2.2.2) hlink

theorem setSocket_readyState (t : Tab) (s : Nat) (w : WebSocket RequestFrame) (s' : Nat) :
    ((t.setSocket s w).sockets s').readyState = if s' = s then w.readyState else (t.sockets s').readyState := by
  by_cases h : s' = s
  · rw [if_pos h, h]
    exact congrArg WebSocket.readyState (Function.update_self ..)
  · rw [if_neg h]
    exact congrArg WebSocket.readyState (Function.update_of_ne h ..)

theorem Linked.setReadyState {t : Tab} (h : Linked t) {s : Nat} (hs : (t.sockets s).readyState ≠ .closed)
    {r : ReadyState} (hr : r ≠ .closed) : Linked (t.setSocket s {t.sockets s with readyState := r}).sync := by
  refine ⟨fun s' => ?_, h.timers, h.made, rfl⟩
  show ((t.setSocket s _).sockets s').readyState ≠ .closed ↔ t.ws = some s'
  rw [setSocket_readyState]
  split
  · next heq => exact iff_of_true hr (heq ▸ (h.current s).mp hs)
  · exact h.current s'

theorem Linked.onClose {t : Tab} (h : Linked t) {s : Nat} (hs : (t.sockets s).readyState ≠ .closed) :
    Linked (t.onClose s) := by
  have hws := (h.current s).mp hs
  refine ⟨fun s' => ?_, ?_, ?_, rfl⟩
  · show ((t.setSocket s _).sockets s').readyState ≠ .closed ↔ none = some s'
    refine iff_of_false ?_ (by simp)
    rw [setSocket_readyState]
    split
    · simp
    · next hne =>
      intro hs'
      exact hne (Option.some.inj (((h.current s').mp hs').symm.trans hws))
  · show t.timers + 1 = 1
    rw [h.timers, hws]
    rfl
  · intro s' hs'
    cases hs'

theorem connectGateway_linked {t : Tab} (hclosed : ∀ s, (t.sockets s).readyState = .closed) (htimers : t.timers = 0) :
    Linked t.connectGateway := by
  refine ⟨fun s => ?_, htimers, ?_, rfl⟩
  · show ((t.setSocket t.created .new).sockets s).readyState ≠ .closed ↔ some t.created = some s
    rw [setSocket_readyState]
    split
    · next heq => exact iff_of_true (by simp [WebSocket.new]) (heq ▸ rfl)
    · next hne => exact iff_of_false (fun hs => hs (hclosed s)) fun heq => hne (Option.some.inj heq).symm
  · intro s hs
    obtain rfl : t.created = s := Option.some.inj hs
    exact Nat.lt_succ_self _

theorem Linked.onTimer {t : Tab} (h : Linked t) (ht : 0 < t.timers) : Linked t.onTimer := by
  have hnone : t.ws = none := by
    cases hws : t.ws with
    | none => rfl
    | some s =>
      have htimers := h.timers
      rw [hws] at htimers
      exact absurd htimers (Nat.pos_iff_ne_zero.mp ht)
  refine connectGateway_linked (t := {t with timers := t.timers - 1}) (fun s => ?_) ?_
  · by_contra hs
    have hcur := (h.current s).mp hs
    rw [hnone] at hcur
    cases hcur
  · show t.timers - 1 = 0
    rw [h.timers, hnone]
    rfl

theorem new_linked (page : Page) : Linked (new page) := connectGateway_linked (fun _ => rfl) rfl

theorem step_linked {t t' : Tab} {e : Event} (h : Linked t) (hs : Step t e t') : Linked t' := by
  cases hs with
  | page hl hstep _ => exact h.ofSame (absorb_link t (Client.step_setting hl hstep) _)
  | submit => exact h.ofSame (sendRequest_link ..)
  | opened hready => exact h.setReadyState (by simp [hready]) (by simp)
  | message => exact h.ofSame (onMessage_link ..)
  | closing hready => exact h.setReadyState (by simp [hready]) (by simp)
  | closed hready => exact h.onClose hready
  | timer ht => exact h.onTimer ht

theorem run_linked {page : Page} {es : List Event} {t : Tab} (h : (system page).Run es t) : Linked t := by
  refine h.invariant (M := system page) (I := fun _ t => Linked t) ?_ fun _ _ _ _ _ hI hs => step_linked hI hs
  rintro t rfl
  exact new_linked page

/-- **One socket at a time**: the page holds the only socket that is not closed, or it
has none and one timer for the next. -/
theorem one_link {page : Page} {es : List Event} {t : Tab} (h : (system page).Run es t) :
    (∃ s, t.ws = some s ∧ t.timers = 0 ∧ ∀ s', (t.sockets s').readyState ≠ .closed ↔ s' = s) ∨
      t.ws = none ∧ t.timers = 1 ∧ ∀ s, (t.sockets s).readyState = .closed := by
  have hlinked := run_linked h
  have htimers := hlinked.timers
  cases hws : t.ws with
  | some s =>
    rw [hws] at htimers
    refine .inl ⟨s, rfl, htimers, fun s' => ?_⟩
    rw [hlinked.current s', hws]
    exact ⟨fun heq => (Option.some.inj heq).symm, fun heq => congrArg some heq.symm⟩
  | none =>
    rw [hws] at htimers
    refine .inr ⟨rfl, htimers, fun s => ?_⟩
    by_contra hs
    have hcur := (hlinked.current s).mp hs
    rw [hws] at hcur
    cases hcur

/-- A connection that is lost, and the timer after it. -/
theorem one_link_lost : ∃ t, (system .html).Run [.opened 0, .closed 0] t ∧
    ((∃ s, t.ws = some s ∧ t.timers = 0 ∧ ∀ s', (t.sockets s').readyState ≠ .closed ↔ s' = s) ∨
      t.ws = none ∧ t.timers = 1 ∧ ∀ s, (t.sockets s).readyState = .closed) ∧ t.ws = none := by
  have h₀ : (system .html).Run [] (new .html) := .nil rfl
  have h₁ := h₀.snoc (show Step _ (.opened 0) _ from .opened rfl)
  have h₂ := h₁.snoc (show Step _ (.closed 0) _ from .closed (by decide))
  exact ⟨_, h₂, one_link h₂, rfl⟩

end Tab
end RtcPlugin.Browser
