import RtcPlugin.Browser.Chat

/-! One conversation on both browser pages.

The user types and speaks, and the assistant answers in pieces. Each page gets the same
conversation in its own events, `app.ts` with what is new of an answer and `index.html`
with all of it so far, and both show the same messages (`pages_alike`); what is empty
neither of them shows. -/
namespace RtcPlugin.Browser

/-- What the user says. -/
inductive Utterance where
  | typed (text : List Char)
  | heard (text : List Char)

/-- What a page gets: the trimmed text of its form, or an event. -/
inductive Input where
  | submit (text : List Char)
  | event (frame : Json)

namespace Chat

def input (c : Chat) : Input → Chat
  | .submit text => if text = [] then c else c.appendMessage .user text
  | .event frame => c.handleEvent frame

def inputs (c : Chat) (inputs : List Input) : Chat := inputs.foldl input c

end Chat

def string (text : List Char) : Json := .str (String.ofList text)

def eventFrame (event : String) (payload : List (String × Json)) : Json :=
  .obj [("type", .str "event"), ("event", .str event), ("payload", .obj payload)]

/-- The utterance as it comes to either page. -/
def Utterance.input : Utterance → Input
  | .typed text => .submit text
  | .heard text => .event (eventFrame "rtc.transcript" [("text", string text), ("isInterim", .bool false)])

/-- The events of `app.ts`: what is new in an answer, and its end. -/
def appInput : Action Utterance (List Char) → Input
  | .whole u => u.input
  | .piece text => .event (eventFrame "chat.delta" [("text", string text)])
  | .close => .event (eventFrame "chat.done" [])

/-- The events of `index.html`: the text of an answer so far, in parts, and its end. -/
def htmlInput : Action Utterance (List Char) → Input
  | .whole u => u.input
  | .piece text => .event (eventFrame "chat" [("state", .str "delta"), ("message", .obj [("role", .str "assistant"),
      ("content", .arr [.obj [("type", .str "text"), ("text", string text)]])])])
  | .close => .event (eventFrame "chat" [("state", .str "final")])

def Page.input : Page → Action Utterance (List Char) → Input
  | .app => appInput
  | .html => htmlInput

def Utterance.message : Utterance → Message
  | .typed text | .heard text => ⟨.user, text⟩

/-- What is in it for the chat. -/
def saying : Action Utterance (List Char) → Said
  | .whole u => .whole u.message
  | .piece text => .piece text
  | .close => .close

/-- The pages pass over what is empty. -/
def notEmpty : Said → Bool := Action.told fun m => !m.text.isEmpty

theorem string_truthy {text : List Char} (h : text ≠ []) : (string text).truthy = true := by
  refine bne_iff_ne.mpr fun he => h ?_
  have := congrArg String.toList he
  rwa [String.toList_ofList] at this

theorem string_toText (text : List Char) : (string text).toText = some text := by
  rw [string, Json.toText, String.toList_ofList]

/-- A text that is not empty is not passed over. -/
theorem text_read {payload : Option Json} {text : List Char} (hget : optGet? payload "text" = some (string text))
    (hne : text ≠ []) : (optGet? payload "text").filter Json.truthy = some (string text) := by
  rw [hget]
  exact Option.filter_eq_some_iff.mpr ⟨rfl, string_truthy hne⟩

theorem heard_said {page : Page} (text : List Char) :
    Chat.saidEvent page (eventFrame "rtc.transcript" [("text", string text), ("isInterim", .bool false)]) =
      [.whole ⟨.user, text⟩].filter notEmpty := by
  show Chat.saidTranscript (some (.obj [("text", string text), ("isInterim", .bool false)])) = _
  cases text with
  | nil => rfl
  | cons x xs =>
    have htext := @text_read (some (.obj [("text", string (x :: xs)), ("isInterim", .bool false)])) (x :: xs) rfl
      (List.cons_ne_nil x xs)
    rw [Chat.saidTranscript, htext, Option.bind_some, string_toText]
    rfl

theorem app_said (text : List Char) :
    Chat.saidEvent .app (eventFrame "chat.delta" [("text", string text)]) = [.piece text].filter notEmpty := by
  show ((((optGet? (some (.obj [("text", string text)])) "text").filter Json.truthy).map Chat.saidDelta).toList) = _
  cases text with
  | nil => rfl
  | cons x xs =>
    have htext := @text_read (some (.obj [("text", string (x :: xs))])) (x :: xs) rfl (List.cons_ne_nil x xs)
    rw [htext, Option.map_some, Chat.saidDelta, string_toText]
    rfl

theorem html_said (text : List Char) :
    Chat.saidEvent .html (eventFrame "chat" [("state", .str "delta"), ("message", .obj [("role", .str "assistant"),
      ("content", .arr [.obj [("type", .str "text"), ("text", string text)]])])]) = [.piece text].filter notEmpty := by
  have htype : Chat.isText (.obj [("type", .str "text"), ("text", string text)]) = some true := rfl
  have hpart : Chat.partText (.obj [("type", .str "text"), ("text", string text)]) = some text := by
    show (string text).elemText = some text
    rw [string, Json.elemText]
    · exact string_toText text
    · intro hnull
      cases hnull
  have hcontent : Chat.contentText (.arr [.obj [("type", .str "text"), ("text", string text)]]) = some text := by
    simp [Chat.contentText, List.filterM, htype, hpart]
  show (((some (Json.arr [.obj [("type", .str "text"), ("text", string text)]])).bind Chat.contentText).map
    Chat.saidContent).getD [] = _
  rw [Option.bind_some, hcontent, Option.map_some, Option.getD_some]
  cases text <;> rfl

theorem typed_tells (c : Chat) (text : List Char) :
    c.Tells ([.whole ⟨.user, text⟩].filter notEmpty) (c.input (.submit text)) := by
  cases text with
  | nil => exact .nil c
  | cons x xs => exact c.appendMessage_tells .user (x :: xs)

theorem heard_tells (c : Chat) {frame : Json} {actions : List Said} (h : Chat.saidEvent c.page frame = actions) :
    c.Tells actions (c.input (.event frame)) := h ▸ c.event_tells frame

theorem input_tells (c : Chat) (action : Action Utterance (List Char)) :
    c.Tells ([saying action].filter notEmpty) (c.input (c.page.input action)) := by
  cases hpage : c.page with
  | app =>
    cases action with
    | whole u =>
      cases u with
      | typed text => exact typed_tells c text
      | heard text => exact heard_tells c (heard_said text)
    | piece text => exact heard_tells c (hpage ▸ app_said text)
    | close => exact heard_tells c (hpage ▸ rfl)
  | html =>
    cases action with
    | whole u =>
      cases u with
      | typed text => exact typed_tells c text
      | heard text => exact heard_tells c (heard_said text)
    | piece text => exact heard_tells c (hpage ▸ html_said text)
    | close => exact heard_tells c (hpage ▸ rfl)

theorem inputs_tell (conversation : List (Action Utterance (List Char))) (c : Chat) :
    c.Tells ((conversation.map saying).filter notEmpty) (c.inputs (conversation.map c.page.input)) := by
  induction conversation generalizing c with
  | nil => exact .nil c
  | cons action conversation ih =>
    have htells := input_tells c action
    have hih := ih (c.input (c.page.input action))
    rw [htells.page] at hih
    have happend := htells.append hih
    rwa [← List.filter_append] at happend

/-- What a page shows of a conversation. -/
theorem inputs_shown (page : Page) (conversation : List (Action Utterance (List Char))) :
    ((Chat.new page true).inputs (conversation.map page.input)).messages =
      Action.shown page.answer ((conversation.map saying).filter notEmpty) := by
  have hshows : (Chat.new page true).Shows Thread.new := by
    cases page <;> exact ⟨rfl, rfl, nofun⟩
  have hshown := ((inputs_tell conversation (Chat.new page true)).shows _ hshows).messages
  exact hshown.trans (Thread.run_shown _)

theorem saying_cumulate (sofar : List Char) (conversation : List (Action Utterance (List Char))) :
    (Action.cumulate sofar conversation).map saying = Action.cumulate sofar (conversation.map saying) := by
  induction conversation generalizing sofar with
  | nil => rfl
  | cons action conversation ih =>
    cases action with
    | whole u => exact congrArg _ (ih sofar)
    | piece text => exact congrArg _ (ih (sofar ++ text))
    | close => exact congrArg _ (ih [])

/-- **Both pages show one conversation the same way**: `app.ts`, which is sent what is new of an
answer, and `index.html`, which is sent all of it each time. -/
theorem pages_alike (conversation : List (Action Utterance (List Char))) :
    ((Chat.new .app true).inputs (conversation.map appInput)).messages =
      ((Chat.new .html true).inputs ((Action.cumulate [] conversation).map htmlInput)).messages := by
  have happ := inputs_shown .app conversation
  have hhtml := inputs_shown .html (Action.cumulate [] conversation)
  rw [saying_cumulate] at hhtml
  exact (happ.trans (Action.shown_cumulate _ (Message.mk .assistant) _).symm).trans hhtml.symm

/-- An answer in two pieces, with a word of the user and an empty piece between them. -/
example :
    ((Chat.new .app true).inputs ([.piece ['a'], .whole (.typed ['x']), .piece [], .piece ['b'], .close].map appInput)).messages =
      [⟨.assistant, ['a', 'b']⟩, ⟨.user, ['x']⟩] := inputs_shown .app _

end RtcPlugin.Browser
