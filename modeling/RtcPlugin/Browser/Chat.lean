import RtcPlugin.Browser.Gateway
import RtcPlugin.Stream.Threads

/-! The browser page's chat.

The assistant's answer comes in pieces, while the user writes and speaks and requests
fail. `app.ts` is sent what is new and keeps a buffer; `index.html` is sent the whole
text so far each time. A `Window` is the page with its messages, over any run of the
page: what they show is what was said, in the order in which it began (`chat_shown`). -/
namespace RtcPlugin.Browser

inductive ChatRole where
  | user | assistant | system
  deriving DecidableEq, Repr

/-- A `div` of class `message`. -/
structure Message where
  role : ChatRole
  text : List Char
  deriving DecidableEq, Repr

structure Chat where
  page : Page
  messages : List Message
  /-- The place of `currentAssistantMessage`, or of `currentAssistantEl`. -/
  current : Option Nat
  assistantBuffer : List Char
  deriving Repr

/-- What happens in a chat: a message, a piece of an answer, or the end of one. -/
abbrev Said := Action Message (List Char)

namespace Chat

/-- `index.html` says so if the page was opened without a token. -/
def new (page : Page) (token : Bool) : Chat where
  page := page
  messages := match page with
    | .html => if token then [] else [⟨.system, "No token found. Add #token=YOUR_TOKEN to the URL.".toList⟩]
    | .app => []
  current := none
  assistantBuffer := []

def appendMessage (c : Chat) (role : ChatRole) (text : List Char) : Chat :=
  {c with messages := c.messages ++ [⟨role, text⟩]}

def setText (c : Chat) (i : Nat) (text : List Char) : Chat :=
  {c with messages := c.messages.modify i fun m => {m with text := text}}

/-- The message that a piece belongs to. -/
def openMessage (c : Chat) : Chat × Nat :=
  match c.current with
  | some i => (c, i)
  | none =>
    ({c with messages := c.messages ++ [⟨.assistant, []⟩], current := some c.messages.length, assistantBuffer := []},
      c.messages.length)

/-- A value without a text throws, after its message was made. -/
def appendAssistantDelta (c : Chat) (text : Json) : Chat :=
  let (c, i) := c.openMessage
  match text.toText with
  | none => c
  | some text =>
    match c.page with
    | .app => {c with assistantBuffer := c.assistantBuffer ++ text}.setText i (c.assistantBuffer ++ text)
    | .html => c.setText i text

def finalizeAssistantMessage (c : Chat) : Chat := {c with current := none, assistantBuffer := []}

/-- What is heard is a message once it is final. -/
def showTranscript (c : Chat) (text : Json) (isInterim : Bool) : Chat :=
  match text.toText with
  | none => c
  | some text => if !isInterim then c.appendMessage .user text else c

/-! ### Frames -/

/-- `c.type === "text"`, which throws on null. -/
def isText : Json → Option Bool
  | .null => none
  | c => some ((c.get? "type").bind Json.asString? = some "text")

/-- The text of a part in a `join("")`. -/
def partText (c : Json) : Option (List Char) :=
  match c.get? "text" with
  | none => some []
  | some v => v.elemText

/-- `content.filter((c) => c.type === "text").map((c) => c.text).join("")`, unless it throws. -/
def contentText : Json → Option (List Char)
  | .arr elems => do
    let parts ← elems.filterM isText
    let texts ← parts.mapM partText
    return texts.flatten
  | _ => none

/-- `p.message?.content`, if it is truthy. -/
def content? (p : Option Json) : Option Json := (optGet? (optGet? p "message") "content").filter Json.truthy

/-- The event `chat`, which `index.html` listens to. -/
def handleChat (c : Chat) (p : Option Json) : Chat :=
  let state := (optGet? p "state").bind Json.asString?
  if state = some "delta" then
    match content? p with
    | none => c
    | some content =>
      match contentText content with
      | none => c
      | some text => if text ≠ [] then c.appendAssistantDelta (.str (String.ofList text)) else c
  else if state = some "final" then
    match content? p with
    | none => c.finalizeAssistantMessage
    | some content =>
      match contentText content with
      | none => c
      | some text =>
        (if text ≠ [] then c.appendAssistantDelta (.str (String.ofList text)) else c).finalizeAssistantMessage
  else if state = some "error" then
    match (((optGet? p "errorMessage").filter Json.truthy).getD (.str "unknown error")).toText with
    | none => c
    | some message => (c.appendMessage .system ("Error: ".toList ++ message)).finalizeAssistantMessage
  else c

def handleTranscript (c : Chat) (p : Option Json) : Chat :=
  match (optGet? p "text").filter Json.truthy with
  | none => c
  | some text => c.showTranscript text ((present (optGet? p "isInterim")).getD (.bool true)).truthy

/-- The events that the chat is about. -/
def handleEvent (c : Chat) (frame : Json) : Chat :=
  let event := (frame.get? "event").bind Json.asString?
  let p := frame.get? "payload"
  if event = some "rtc.transcript" then c.handleTranscript p
  else
    match c.page with
    | .app =>
      if event = some "chat.delta" then
        match (optGet? p "text").filter Json.truthy with
        | none => c
        | some text => c.appendAssistantDelta text
      else if event = some "chat.done" then c.finalizeAssistantMessage
      else c
    | .html => if event = some "chat" then c.handleChat p else c

/-- A `chat.send` that was rejected. -/
def sendFailed (c : Chat) (message : List Char) : Chat :=
  c.appendMessage (match c.page with
    | .html => .system
    | .app => .assistant) ("Error: ".toList ++ message)

/-- `index.html` tells how its `connect` went. -/
def connectFailed (c : Chat) (message : List Char) : Chat :=
  match c.page with
  | .html => c.appendMessage .system ("Connection failed: ".toList ++ message)
  | .app => c

def connected (c : Chat) (result : Option Json) : Chat :=
  match c.page with
  | .html =>
    if (optGet? result "type").bind Json.asString? = some "hello-ok" then
      c.appendMessage .system "Connected to OpenClaw Gateway".toList
    else c
  | .app => c

/-- The part of the chat that awaits a request. -/
def resume (c : Chat) (body : Body) (outcome : Outcome) : Chat :=
  match body, outcome with
  | .chatSend _, .rejected message => c.sendFailed message
  | .connect _, .rejected message => c.connectFailed message
  | .connect _, .resolved payload => c.connected payload
  | _, _ => c

/-- What a frame does to the chat of a page. -/
def onFrame (c : Chat) (t : Tab) (frame : Json) : Chat :=
  match (frame.get? "type").bind Json.asString? with
  | some "event" =>
    -- the request that answers a challenge is rejected at once if the socket is not open
    if (frame.get? "event").bind Json.asString? = some "connect.challenge" ∧
        optTruthy (optGet? (frame.get? "payload") "nonce") ∧ !t.isOpen then c.connectFailed "Not connected".toList
    else c.handleEvent frame
  | some "res" =>
    match ((frame.get? "id").bind Json.asString?).bind t.requests.pending.get? with
    | some body => c.resume body (Tab.responseOutcome t.client.page frame)
    | none => c
  | _ => c

/-- What an event of the page does to its chat. -/
def on (c : Chat) (t : Tab) : Tab.Event → Chat
  | .submit text _ =>
    let c := c.appendMessage .user text.toList
    if t.isOpen then c else c.sendFailed "Not connected".toList
  | .message _ text _ =>
    match Json.parse text with
    | some frame => c.onFrame t frame
    | none => c
  | _ => c

/-! ### What is said -/

def saidDelta (text : Json) : Said := .piece (text.toText.getD [])

def saidTranscript (p : Option Json) : List Said :=
  match ((optGet? p "text").filter Json.truthy).bind Json.toText with
  | none => []
  | some text => if !((present (optGet? p "isInterim")).getD (.bool true)).truthy then [.whole ⟨.user, text⟩] else []

/-- The text in a `chat` event, if it is not empty. -/
def saidContent (text : List Char) : List Said := if text ≠ [] then [.piece text] else []

def saidChat (p : Option Json) : List Said :=
  let state := (optGet? p "state").bind Json.asString?
  if state = some "delta" then (((content? p).bind contentText).map saidContent).getD []
  else if state = some "final" then
    match (content? p).map contentText with
    | none => [.close]
    | some none => []
    | some (some text) => saidContent text ++ [.close]
  else if state = some "error" then
    match (((optGet? p "errorMessage").filter Json.truthy).getD (.str "unknown error")).toText with
    | none => []
    | some message => [.whole ⟨.system, "Error: ".toList ++ message⟩, .close]
  else []

def saidEvent (page : Page) (frame : Json) : List Said :=
  let event := (frame.get? "event").bind Json.asString?
  let p := frame.get? "payload"
  if event = some "rtc.transcript" then saidTranscript p
  else
    match page with
    | .app =>
      if event = some "chat.delta" then (((optGet? p "text").filter Json.truthy).map saidDelta).toList
      else if event = some "chat.done" then [.close]
      else []
    | .html => if event = some "chat" then saidChat p else []

def saidSendFailed (page : Page) (message : List Char) : Said :=
  .whole ⟨if page = .html then .system else .assistant, "Error: ".toList ++ message⟩

def saidConnectFailed (page : Page) (message : List Char) : List Said :=
  if page = .html then [.whole ⟨.system, "Connection failed: ".toList ++ message⟩] else []

def saidConnected (page : Page) (result : Option Json) : List Said :=
  if page = .html ∧ (optGet? result "type").bind Json.asString? = some "hello-ok" then
    [.whole ⟨.system, "Connected to OpenClaw Gateway".toList⟩]
  else []

def saidOutcome (page : Page) (body : Body) (outcome : Outcome) : List Said :=
  match body, outcome with
  | .chatSend _, .rejected message => [saidSendFailed page message]
  | .connect _, .rejected message => saidConnectFailed page message
  | .connect _, .resolved payload => saidConnected page payload
  | _, _ => []

def saidFrame (page : Page) (t : Tab) (frame : Json) : List Said :=
  match (frame.get? "type").bind Json.asString? with
  | some "event" =>
    if (frame.get? "event").bind Json.asString? = some "connect.challenge" ∧
        optTruthy (optGet? (frame.get? "payload") "nonce") ∧ !t.isOpen then saidConnectFailed page "Not connected".toList
    else saidEvent page frame
  | some "res" =>
    match ((frame.get? "id").bind Json.asString?).bind t.requests.pending.get? with
    | some body => saidOutcome page body (Tab.responseOutcome t.client.page frame)
    | none => []
  | _ => []

/-- What an event of the page says. -/
def said (page : Page) (t : Tab) : Tab.Event → List Said
  | .submit text _ =>
    .whole ⟨.user, text.toList⟩ :: if t.isOpen then [] else [saidSendFailed page "Not connected".toList]
  | .message _ text _ => ((Json.parse text).map (saidFrame page t)).getD []
  | _ => []

end Chat

/-- The message for the pieces of an answer: all of them, or the last one, which repeats the others. -/
def Page.answer : Page → List (List Char) → Message
  | .app, pieces => ⟨.assistant, pieces.flatten⟩
  | .html, pieces => ⟨.assistant, Action.latest pieces⟩

namespace Chat

/-- The chat shows these items, and the open one is where they say. -/
structure Shows (c : Chat) (t : Thread Message (List Char)) : Prop where
  messages : c.messages = t.items
  current : c.current = t.current.map Prod.fst
  answer : ∀ i pieces, t.current = some (i, pieces) →
    t.items[i]? = some (c.page.answer pieces) ∧ (c.page = .app → c.assistantBuffer = pieces.flatten)

/-- The chat has said what was to be said. -/
structure Tells (c : Chat) (actions : List Said) (c' : Chat) : Prop where
  page : c'.page = c.page
  shows : ∀ t, Shows c t → Shows c' (t.run c.page.answer actions)

variable {c c' c'' : Chat} {t : Thread Message (List Char)}

theorem Tells.nil (c : Chat) : Tells c [] c := ⟨rfl, fun _ h => h⟩

theorem Tells.append {a b : List Said} (h : Tells c a c') (h' : Tells c' b c'') : Tells c (a ++ b) c'' := by
  refine ⟨h'.page.trans h.page, fun t ht => ?_⟩
  have := h'.shows _ (h.shows t ht)
  rwa [h.page, ← Thread.run_append] at this

theorem appendMessage_tells (c : Chat) (role : ChatRole) (text : List Char) :
    Tells c [.whole ⟨role, text⟩] (c.appendMessage role text) := by
  refine ⟨rfl, fun t h => ⟨congrArg (· ++ [_]) h.messages, h.current, fun i pieces hi => ?_⟩⟩
  obtain ⟨hanswer, hbuffer⟩ := h.answer i pieces hi
  have hlt := (List.getElem?_eq_some_iff.mp hanswer).1
  exact ⟨(List.getElem?_append_left hlt).trans hanswer, hbuffer⟩

theorem finalize_tells (c : Chat) : Tells c [.close] c.finalizeAssistantMessage :=
  ⟨rfl, fun _ h => ⟨h.messages, rfl, nofun⟩⟩

/-- Where there is no open item, an empty one is opened. -/
def opened (page : Page) (t : Thread Message (List Char)) : Thread Message (List Char) :=
  match t.current with
  | some _ => t
  | none => ⟨t.items ++ [page.answer []], some (t.items.length, [])⟩

theorem opened_step (page : Page) (t : Thread Message (List Char)) (piece : List Char) :
    (opened page t).step page.answer (.piece piece) = t.step page.answer (.piece piece) := by
  obtain ⟨items, _ | current⟩ := t
  · have hset : (items ++ [page.answer []]).set items.length (page.answer [piece]) = items ++ [page.answer [piece]] := by
      rw [List.set_append_right _ _ (Nat.le_refl _), Nat.sub_self]
      rfl
    show Thread.mk ((items ++ [page.answer []]).set items.length (page.answer [piece])) _ = _
    rw [hset]
    rfl
  · rfl

theorem answer_nil (page : Page) : page.answer [] = ⟨.assistant, []⟩ := by
  cases page <;> rfl

/-- The message of a piece is the open item. -/
theorem openMessage_shows (h : Shows c t) : c.openMessage.1.page = c.page ∧ Shows c.openMessage.1 (opened c.page t) ∧
    ∃ pieces, (opened c.page t).current = some (c.openMessage.2, pieces) := by
  obtain ⟨items, current⟩ := t
  cases current with
  | none =>
    have hcurrent : c.current = none := h.current
    have hmessages : c.messages = items := h.messages
    rw [openMessage, hcurrent]
    refine ⟨rfl, ⟨?_, congrArg (fun l => some (List.length l)) hmessages, ?_⟩, [], ?_⟩
    · show c.messages ++ [⟨.assistant, []⟩] = items ++ [c.page.answer []]
      rw [hmessages, answer_nil]
    · rintro i pieces ⟨⟩
      exact ⟨List.getElem?_concat_length, fun _ => rfl⟩
    · rw [hmessages]
      rfl
  | some current =>
    obtain ⟨i, pieces⟩ := current
    have hcurrent : c.current = some i := h.current
    rw [openMessage, hcurrent]
    exact ⟨rfl, h, pieces, rfl⟩

/-- The text of the open item is replaced. -/
theorem setText_shows {i : Nat} {pieces : List (List Char)} (h : Shows c t) (hi : t.current = some (i, pieces))
    (piece text : List Char) (buffer : List Char) (htext : c.page.answer (pieces ++ [piece]) = ⟨.assistant, text⟩)
    (hbuffer : c.page = .app → buffer = (pieces ++ [piece]).flatten) :
    Shows ({c with assistantBuffer := buffer}.setText i text) (t.step c.page.answer (.piece piece)) := by
  obtain ⟨items, current⟩ := t
  cases hi
  obtain ⟨hanswer, -⟩ := h.answer i pieces rfl
  have hmessages : c.messages = items := h.messages
  have hmodify : c.messages.modify i (fun m => {m with text := text}) = items.set i ⟨.assistant, text⟩ := by
    rw [hmessages, List.modify_eq_set_getElem?, hanswer]
    cases c.page <;> rfl
  refine ⟨?_, h.current, ?_⟩
  · rw [← htext] at hmodify
    exact hmodify
  · rintro j pieces' ⟨⟩
    exact ⟨List.getElem?_set_self (List.getElem?_eq_some_iff.mp hanswer).1, hbuffer⟩

/-- A piece without a text changes nothing in `app.ts`. -/
theorem silent_shows {i : Nat} {pieces : List (List Char)} (h : Shows c t) (hi : t.current = some (i, pieces))
    (happ : c.page = .app) : Shows c (t.step c.page.answer (.piece [])) := by
  obtain ⟨items, current⟩ := t
  cases hi
  obtain ⟨hanswer, hbuffer⟩ := h.answer i pieces rfl
  have hsame : c.page.answer (pieces ++ [[]]) = c.page.answer pieces := by
    rw [happ, Page.answer, Page.answer, List.flatten_append, List.flatten_singleton, List.append_nil]
  have hset : items.set i (c.page.answer (pieces ++ [[]])) = items := by
    obtain ⟨hlt, hget⟩ := List.getElem?_eq_some_iff.mp hanswer
    rw [hsame, ← hget, List.set_getElem_self]
  refine ⟨h.messages.trans hset.symm, h.current, ?_⟩
  rintro j pieces' ⟨⟩
  refine ⟨?_, fun _ => ?_⟩
  · show (items.set i _)[i]? = _
    rw [hset, hsame, hanswer]
  · rw [hbuffer happ, List.flatten_append, List.flatten_singleton, List.append_nil]

theorem delta_tells (c : Chat) (text : Json) (htext : c.page = .html → ∃ s, text = .str s) :
    Tells c [saidDelta text] (c.appendAssistantDelta text) := by
  have hpage : (c.appendAssistantDelta text).page = c.page := by
    have hopen : c.openMessage.1.page = c.page := by
      unfold openMessage
      split <;> rfl
    unfold appendAssistantDelta
    dsimp only
    split
    · exact hopen
    · split <;> exact hopen
  refine ⟨hpage, fun t h => ?_⟩
  obtain ⟨hopen, hshows, pieces, hcurrent⟩ := openMessage_shows h
  show Shows _ (t.step c.page.answer (saidDelta text))
  rw [saidDelta, ← opened_step]
  unfold appendAssistantDelta
  dsimp only
  generalize c.openMessage = message at hopen hshows hcurrent
  obtain ⟨⟨page, messages, current, buffer⟩, i⟩ := message
  obtain rfl : page = c.page := hopen
  dsimp only at hcurrent ⊢
  cases htoText : text.toText with
  | none =>
    refine silent_shows hshows hcurrent ?_
    cases hhtml : c.page with
    | app => rfl
    | html =>
      obtain ⟨s, rfl⟩ := htext hhtml
      rw [Json.toText] at htoText
      cases htoText
  | some piece =>
    have hbuffer := (hshows.answer _ _ hcurrent).2
    have hflatten : (pieces ++ [piece]).flatten = pieces.flatten ++ piece := by
      rw [List.flatten_append, List.flatten_singleton]
    have hset (text : List Char) (buffer' : List Char) := setText_shows hshows hcurrent piece text buffer'
    dsimp only at hbuffer hset
    generalize c.page = page at hbuffer hset
    cases page with
    | app =>
      have happended : buffer ++ piece = (pieces ++ [piece]).flatten := by rw [hflatten, hbuffer rfl]
      exact hset _ _ (congrArg (Message.mk .assistant) happended.symm) fun _ => happended
    | html =>
      refine hset piece buffer (congrArg (Message.mk .assistant) List.getLastD_concat) fun happ => ?_
      cases happ

/-! ### Every event -/

theorem transcript_tells (c : Chat) (p : Option Json) : Tells c (saidTranscript p) (c.handleTranscript p) := by
  unfold handleTranscript saidTranscript
  cases (optGet? p "text").filter Json.truthy with
  | none => exact .nil c
  | some text =>
    simp only [Option.bind_some]
    unfold showTranscript
    cases text.toText with
    | none => exact .nil c
    | some message =>
      dsimp only
      split
      · exact appendMessage_tells c .user message
      · exact .nil c

theorem content_tells (c : Chat) (text : List Char) : Tells c (saidContent text)
    (if text ≠ [] then c.appendAssistantDelta (.str (String.ofList text)) else c) := by
  have hdelta := delta_tells c (.str (String.ofList text)) fun _ => ⟨_, rfl⟩
  have hpiece : saidDelta (.str (String.ofList text)) = .piece text := by
    rw [saidDelta, Json.toText, Option.getD_some, String.toList_ofList]
  rw [hpiece] at hdelta
  unfold saidContent
  split
  · exact hdelta
  · exact .nil c

theorem chat_tells (c : Chat) (p : Option Json) : Tells c (saidChat p) (c.handleChat p) := by
  unfold handleChat saidChat
  dsimp only
  split
  · cases content? p with
    | none => exact .nil c
    | some content =>
      simp only [Option.bind_some]
      cases contentText content with
      | none => exact .nil c
      | some text => exact content_tells c text
  · split
    · cases content? p with
      | none => exact finalize_tells c
      | some content =>
        simp only [Option.map_some]
        cases contentText content with
        | none => exact .nil c
        | some text => exact (content_tells c text).append (finalize_tells _)
    · split
      · cases (((optGet? p "errorMessage").filter Json.truthy).getD (.str "unknown error")).toText with
        | none => exact .nil c
        | some message => exact (appendMessage_tells c .system _).append (finalize_tells _)
      · exact .nil c

theorem event_tells (c : Chat) (frame : Json) : Tells c (saidEvent c.page frame) (c.handleEvent frame) := by
  unfold handleEvent saidEvent
  dsimp only
  split
  · exact transcript_tells c _
  · cases hpage : c.page with
    | app =>
      dsimp only
      split
      · cases (optGet? (frame.get? "payload") "text").filter Json.truthy with
        | none => exact .nil c
        | some text => exact delta_tells c text fun hhtml => by rw [hpage] at hhtml; cases hhtml
      · split
        · exact finalize_tells c
        · exact .nil c
    | html =>
      dsimp only
      split
      · exact chat_tells c _
      · exact .nil c

theorem sendFailed_tells (c : Chat) (message : List Char) :
    Tells c [saidSendFailed c.page message] (c.sendFailed message) := by
  unfold saidSendFailed sendFailed
  cases c.page <;> exact appendMessage_tells c _ _

theorem connectFailed_tells (c : Chat) (message : List Char) :
    Tells c (saidConnectFailed c.page message) (c.connectFailed message) := by
  unfold saidConnectFailed connectFailed
  cases c.page with
  | html => exact appendMessage_tells c _ _
  | app => exact .nil c

theorem connected_tells (c : Chat) (result : Option Json) : Tells c (saidConnected c.page result) (c.connected result) := by
  unfold saidConnected connected
  cases c.page with
  | html =>
    simp only [true_and]
    split
    · exact appendMessage_tells c _ _
    · exact .nil c
  | app => exact .nil c

theorem resume_tells (c : Chat) (body : Body) (outcome : Outcome) :
    Tells c (saidOutcome c.page body outcome) (c.resume body outcome) := by
  cases body with
  | chatSend text =>
    cases outcome with
    | rejected message => exact sendFailed_tells c message
    | resolved | dropped => exact .nil c
  | connect nonce =>
    cases outcome with
    | rejected message => exact connectFailed_tells c message
    | resolved payload => exact connected_tells c payload
    | dropped => exact .nil c
  | rtc r => exact .nil c

theorem frame_tells (c : Chat) (t : Tab) (frame : Json) : Tells c (saidFrame c.page t frame) (c.onFrame t frame) := by
  unfold saidFrame onFrame
  split
  · split
    · exact connectFailed_tells c _
    · exact event_tells c frame
  · split
    · exact resume_tells c _ _
    · exact .nil c
  · exact .nil c

theorem on_tells (c : Chat) (t : Tab) (e : Tab.Event) : Tells c (said c.page t e) (c.on t e) := by
  cases e with
  | submit text id =>
    have huser := appendMessage_tells c .user text.toList
    unfold said on
    cases t.isOpen with
    | true => exact huser
    | false => exact huser.append (sendFailed_tells (c.appendMessage .user text.toList) _)
  | message s text id =>
    unfold said on
    dsimp only
    cases Json.parse text with
    | none => exact .nil c
    | some frame => exact frame_tells c t frame
  | page | opened | closing | closed | timer => exact .nil c

end Chat

/-! ### The page with its chat -/

/-- `said` is what was said so far. -/
structure Window where
  tab : Tab
  chat : Chat
  said : List Said

namespace Window

/-- The page opened with a token or without one. -/
def new (page : Page) (token : Bool) : Window :=
  ⟨.new page, .new page token, (Chat.new page token).messages.map .whole⟩

def system (page : Page) (token : Bool) : System Window Tab.Event where
  init := (· = new page token)
  step w e w' := Tab.Step w.tab e w'.tab ∧ w'.chat = w.chat.on w.tab e ∧ w'.said = w.said ++ Chat.said w.chat.page w.tab e

variable {page : Page} {token : Bool}

theorem new_shows (page : Page) (token : Bool) :
    (new page token).chat.Shows (Thread.new.run page.answer (new page token).said) := by
  cases page with
  | app => exact ⟨rfl, rfl, nofun⟩
  | html => cases token <;> exact ⟨rfl, rfl, nofun⟩

theorem run_shows {es : List Tab.Event} {w : Window} (h : (system page token).Run es w) :
    w.chat.page = page ∧ w.chat.Shows (Thread.new.run page.answer w.said) := by
  refine h.invariant (I := fun _ w => w.chat.page = page ∧ w.chat.Shows (Thread.new.run page.answer w.said)) ?_ ?_
  · rintro w rfl
    exact ⟨rfl, new_shows page token⟩
  · rintro es w e w' - ⟨hpage, hshows⟩ ⟨-, hchat, hsaid⟩
    have htells := w.chat.on_tells w.tab e
    rw [← hchat] at htells
    refine ⟨htells.page.trans hpage, ?_⟩
    have := htells.shows _ (hpage ▸ hshows)
    rw [hsaid, Thread.run_append]
    rwa [hpage] at this ⊢

/-- **The page shows what was said**: each message once, in the order in which they began, and each
answer as the message of its own pieces, whatever was said and whatever the connection did in
between. -/
theorem chat_shown {es : List Tab.Event} {w : Window} (h : (system page token).Run es w) :
    w.chat.messages = Action.shown page.answer w.said := by
  rw [(run_shows h).2.messages, Thread.run_shown]

/-- A page without a token whose first message could not be sent. -/
theorem chat_shown_unsent : ∃ w, (system .html false).Run [.submit "hi" "a"] w ∧
    w.chat.messages = Action.shown Page.html.answer w.said ∧ w.chat.messages.map (·.role) = [.system, .user, .system] := by
  have hrun : (system .html false).Run [.submit "hi" "a"] ⟨_, (Chat.new .html false).on (.new .html) (.submit "hi" "a"), _⟩ :=
    .snoc (.nil rfl) ⟨.submit (by decide) List.not_mem_nil, rfl, rfl⟩
  exact ⟨_, hrun, chat_shown hrun, by decide⟩

end Window

end RtcPlugin.Browser
