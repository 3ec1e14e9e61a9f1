import RtcPlugin.Json.ToText
import RtcPlugin.System.Throwing
import RtcPlugin.Text.Utf8
import RtcPlugin.TsNode.VolcClient
import RtcPlugin.TsNode.VolcFrames

/-! What the speech client makes of a message.

Most of the parsing is inside a `try`, and what goes wrong there becomes an error
event. An error frame is read before it: one that says it is JSON and is not throws
out of the message handler (`messages_handled`). -/
namespace RtcPlugin.TsNode
open Audio (Buffer)

/-- The two kinds of error that the engine itself throws here. -/
inductive EngineError where
  | syntaxError
  | typeError
  deriving DecidableEq, Repr

inductive VolcEvent where
  | asr (text : Json) (isInterim : Bool)
  | ttsAudio (audio : Buffer)
  | asrEnded
  | sessionStarted
  | error (message : List Char)
  | raw (json : Json)
  deriving Repr

def VolcEvent.isError : VolcEvent → Bool
  | .error _ => true
  | _ => false

def base64Value? (c : Char) : Option Nat :=
  if 'A' ≤ c ∧ c ≤ 'Z' then some (c.toNat - 'A'.toNat)
  else if 'a' ≤ c ∧ c ≤ 'z' then some (c.toNat - 'a'.toNat + 26)
  else if c.isDigit then some (c.toNat - '0'.toNat + 52)
  else if c = '+' ∨ c = '-' then some 62
  else if c = '/' ∨ c = '_' then some 63
  else none

/-- Bytes from groups of six bits, the bits that fill no byte left out. -/
def base64Bytes : List Nat → Buffer
  | a :: b :: c :: d :: rest =>
    toByte (a * 4 + b / 16) :: toByte (b * 16 + c / 4) :: toByte (c * 64 + d) :: base64Bytes rest
  | [a, b, c] => [toByte (a * 4 + b / 16), toByte (b * 16 + c / 4)]
  | [a, b] => [toByte (a * 4 + b / 16)]
  | _ => []

/-- `Buffer.from(s, "base64")`: an `=` ends it, and characters of neither alphabet are passed over. -/
def fromBase64 (s : String) : Buffer := base64Bytes ((s.toList.takeWhile (· ≠ '=')).filterMap base64Value?)

/-- The client, and the events it emitted. -/
structure Receiver where
  client : VolcRealtimeClient
  emitted : List VolcEvent

def emit (e : VolcEvent) : Throwing Receiver Unit := modify fun r => {r with emitted := r.emitted ++ [e]}

section
variable (words : EngineError → String)

/-- `v ?? other` -/
def orElse (v : Option Json) (other : String) : Json :=
  match v with
  | none | some .null => .str other
  | some v => v

/-- `emitEvent({ type: "error", error: new Error(msg) })` -/
def emitError (msg : Json) : Throwing Receiver Unit :=
  match msg.toText with
  | some message => emit (.error message)
  | none => throw (words .typeError)

/-- `if (json.audio && typeof json.audio === "string")`, and the event. -/
def emitAudio (audio : Option Json) : Throwing Receiver Unit :=
  match audio with
  | some (.str audio) => if audio ≠ "" then emit (.ttsAudio (fromBase64 audio)) else pure ()
  | _ => pure ()

def handleJsonEvent (json : Json) : Throwing Receiver Unit :=
  match json with
  | .null => throw (words .typeError)
  | json =>
    let event := (json.get? "event").bind Json.asString?
    if event = some "ASRResponse" then
      let isInterim := match json.get? "is_final" with
        | some (.bool true) => false
        | _ => true
      emit (.asr (orElse (json.get? "text") "") isInterim)
    else if event = some "ASREnded" then emit .asrEnded
    else if event = some "SessionStarted" then emit .sessionStarted
    else if event = some "TTSResponse" then emitAudio (json.get? "audio")
    else if event = some "Error" then emitError words (orElse (json.get? "message") "Unknown Volcano error")
    else emit (.raw json)

/-- `JSON.parse(payload.toString("utf8"))` -/
def parsePayload (payload : Buffer) : Throwing Receiver Json :=
  match Json.parseChars (Utf8.decode payload) with
  | some json => pure json
  | none => throw (words .syntaxError)

/-- The body of the `try`. -/
def handlePayload (payload : Buffer) : Throwing Receiver Unit := do
  let json ← parsePayload words payload
  handleJsonEvent words json

def handleFrame : Frame → Throwing Receiver Unit
  | ⟨msgType, serialization, payload⟩ =>
    if msgType = MSG_ERROR_SERVER then do
      let text ← if serialization = SERIAL_JSON then Json.stringify <$> parsePayload words payload
        else pure (Utf8.decode payload)
      emit (.error ("Volcano API error: ".toList ++ text))
    else if msgType = MSG_AUDIO_ONLY_SERVER then emit (.ttsAudio payload)
    else if serialization = SERIAL_JSON then
      tryCatch (handlePayload words payload) fun err => emit (.error ("Failed to parse server JSON: ".toList ++ err.toList))
    else pure ()

def handleMessage (data : Buffer) : Throwing Receiver Unit :=
  match readFrame data with
  | .error _ => throw "RangeError"
  | .ok none => pure ()
  | .ok (some frame) => handleFrame words frame

end

/-! ### Messages -/

/-- The frame says that its payload is JSON, and it is no JSON text, or `null`. -/
def Malformed (data : Buffer) : Prop :=
  ∃ msgType payload, readFrame data = .ok (some ⟨msgType, SERIAL_JSON, payload⟩) ∧ msgType ≠ MSG_AUDIO_ONLY_SERVER ∧
    (Json.parseChars (Utf8.decode payload) = none ∨ Json.parseChars (Utf8.decode payload) = some .null)

/-- The handler returns, with one event at most, an error event for a malformed
message, and the client as it was. -/
def Handled (words : EngineError → String) (client : VolcRealtimeClient) (data : Buffer) : Prop :=
  ∃ events, handleMessage words data ⟨client, []⟩ = .ok () ⟨client, events⟩ ∧ events.length ≤ 1 ∧
    (Malformed data → ∀ e ∈ events, e.isError = true)

/-- An error frame that says it is JSON and is not. -/
def BadErrorFrame (data : Buffer) : Prop :=
  ∃ payload, readFrame data = .ok (some ⟨MSG_ERROR_SERVER, SERIAL_JSON, payload⟩) ∧
    Json.parseChars (Utf8.decode payload) = none

/-- One event, or none, or a throw before any. -/
def EmitsOnce (x : Throwing Receiver Unit) : Prop := ∀ client,
  (∃ events, x ⟨client, []⟩ = .ok () ⟨client, events⟩ ∧ events.length ≤ 1) ∨ ∃ err, x ⟨client, []⟩ = .error err ⟨client, []⟩

theorem emitsOnce_emit (e : VolcEvent) : EmitsOnce (emit e) := fun _ => .inl ⟨[e], rfl, Nat.le_refl 1⟩

theorem emitsOnce_pure : EmitsOnce (pure ()) := fun _ => .inl ⟨[], rfl, Nat.zero_le 1⟩

theorem emitsOnce_throw (err : String) : EmitsOnce (throw err) := fun _ => .inr ⟨err, rfl⟩

theorem EmitsOnce.ite {c : Prop} [Decidable c] {x y : Throwing Receiver Unit} (hx : EmitsOnce x) (hy : EmitsOnce y) :
    EmitsOnce (if c then x else y) := by
  split
  · exact hx
  · exact hy

theorem emitsOnce_emitAudio (audio : Option Json) : EmitsOnce (emitAudio audio) := by
  unfold emitAudio
  split
  · exact (emitsOnce_emit _).ite emitsOnce_pure
  · exact emitsOnce_pure

section
variable (words : EngineError → String)

theorem emitsOnce_emitError (msg : Json) : EmitsOnce (emitError words msg) := by
  unfold emitError
  split
  · exact emitsOnce_emit _
  · exact emitsOnce_throw _

theorem emitsOnce_handleJsonEvent (json : Json) : EmitsOnce (handleJsonEvent words json) := by
  unfold handleJsonEvent
  split
  · exact emitsOnce_throw _
  · exact (emitsOnce_emit _).ite <| (emitsOnce_emit _).ite <| (emitsOnce_emit _).ite <|
      (emitsOnce_emitAudio _).ite <| (emitsOnce_emitError words _).ite <| emitsOnce_emit _

theorem parsePayload_none {payload : Buffer} (h : Json.parseChars (Utf8.decode payload) = none) (r : Receiver) :
    parsePayload words payload r = .error (words .syntaxError) r := by
  unfold parsePayload
  rw [h]
  rfl

theorem parsePayload_some {payload : Buffer} {json : Json} (h : Json.parseChars (Utf8.decode payload) = some json)
    (r : Receiver) : parsePayload words payload r = .ok json r := by
  unfold parsePayload
  rw [h]
  rfl

theorem emitsOnce_handlePayload (payload : Buffer) : EmitsOnce (handlePayload words payload) := by
  intro client
  unfold handlePayload
  rw [Throwing.bind_run]
  cases h : Json.parseChars (Utf8.decode payload) with
  | none =>
    rw [parsePayload_none words h]
    exact .inr ⟨_, rfl⟩
  | some json =>
    rw [parsePayload_some words h]
    exact emitsOnce_handleJsonEvent words json client

/-- What is no JSON text, or `null`, throws inside the `try`. -/
theorem handlePayload_malformed {payload : Buffer} (h : Json.parseChars (Utf8.decode payload) = none ∨
    Json.parseChars (Utf8.decode payload) = some .null) (r : Receiver) : ∃ err, handlePayload words payload r = .error err r := by
  unfold handlePayload
  rw [Throwing.bind_run]
  obtain h | h := h
  · rw [parsePayload_none words h]
    exact ⟨_, rfl⟩
  · rw [parsePayload_some words h]
    exact ⟨_, rfl⟩

/-- What the `try` catches becomes an error event. -/
theorem catch_run (payload : Buffer) (client : VolcRealtimeClient) : ∃ events,
    tryCatch (handlePayload words payload) (fun err => emit (.error ("Failed to parse server JSON: ".toList ++ err.toList)))
        ⟨client, []⟩ = .ok () ⟨client, events⟩ ∧ events.length ≤ 1 ∧
      (Json.parseChars (Utf8.decode payload) = none ∨ Json.parseChars (Utf8.decode payload) = some .null →
        ∀ e ∈ events, e.isError = true) := by
  rw [Throwing.tryCatch_run]
  obtain ⟨events, hok, hlen⟩ | ⟨err, herr⟩ := emitsOnce_handlePayload words payload client
  · refine ⟨events, by rw [hok], hlen, fun hbad => ?_⟩
    obtain ⟨err, herr⟩ := handlePayload_malformed words hbad ⟨client, []⟩
    rw [hok] at herr
    cases herr
  · refine ⟨[_], by rw [herr]; rfl, Nat.le_refl 1, fun _ e he => ?_⟩
    rw [List.mem_singleton.mp he]
    rfl

theorem handled_of_one {client : VolcRealtimeClient} {data : Buffer} {e : VolcEvent}
    (h : handleMessage words data ⟨client, []⟩ = .ok () ⟨client, [e]⟩) (herror : Malformed data → e.isError = true) :
    Handled words client data :=
  ⟨[e], h, Nat.le_refl 1, fun hbad _ he => List.mem_singleton.mp he ▸ herror hbad⟩

theorem handled_of_none {client : VolcRealtimeClient} {data : Buffer}
    (h : handleMessage words data ⟨client, []⟩ = .ok () ⟨client, []⟩) : Handled words client data :=
  ⟨[], h, Nat.zero_le 1, fun _ _ he => nomatch he⟩

/-- A frame that is no error frame is handled. -/
theorem handled_frame (client : VolcRealtimeClient) {data : Buffer} {frame : Frame}
    (hread : readFrame data = .ok (some frame)) (herror : frame.msgType ≠ MSG_ERROR_SERVER) :
    Handled words client data := by
  obtain ⟨msgType, serialization, payload⟩ := frame
  have hrun : handleMessage words data = handleFrame words ⟨msgType, serialization, payload⟩ := by
    unfold handleMessage
    rw [hread]
  rw [handleFrame, if_neg herror] at hrun
  by_cases haudio : msgType = MSG_AUDIO_ONLY_SERVER
  · rw [if_pos haudio] at hrun
    refine handled_of_one words (e := .ttsAudio payload) (by rw [hrun]; rfl) fun hbad => ?_
    obtain ⟨msgType', payload', hread', haudio', _⟩ := hbad
    cases hread.symm.trans hread'
    exact absurd haudio haudio'
  · rw [if_neg haudio] at hrun
    by_cases hjson : serialization = SERIAL_JSON
    · rw [if_pos hjson] at hrun
      obtain ⟨events, hok, hlen, hbad⟩ := catch_run words payload client
      refine ⟨events, by rw [hrun, hok], hlen, fun hmal => hbad ?_⟩
      obtain ⟨msgType', payload', hread', _, hpayload⟩ := hmal
      cases hread.symm.trans hread'
      exact hpayload
    · rw [if_neg hjson] at hrun
      exact handled_of_none words (by rw [hrun]; rfl)

/-- An error frame is handled if its text is JSON, or need not be. -/
theorem handled_error (client : VolcRealtimeClient) {data : Buffer} {serialization : Nat} {payload : Buffer}
    (hread : readFrame data = .ok (some ⟨MSG_ERROR_SERVER, serialization, payload⟩))
    (hok : serialization = SERIAL_JSON → Json.parseChars (Utf8.decode payload) ≠ none) : Handled words client data := by
  have hrun : handleMessage words data = handleFrame words ⟨MSG_ERROR_SERVER, serialization, payload⟩ := by
    unfold handleMessage
    rw [hread]
  rw [handleFrame, if_pos rfl] at hrun
  by_cases hjson : serialization = SERIAL_JSON
  · obtain ⟨json, hparse⟩ := Option.ne_none_iff_exists'.mp (hok hjson)
    refine handled_of_one words (e := .error ("Volcano API error: ".toList ++ json.stringify)) ?_ fun _ => rfl
    rw [hrun, if_pos hjson, Throwing.bind_run, Throwing.map_run, parsePayload_some words hparse]
    rfl
  · refine handled_of_one words (e := .error ("Volcano API error: ".toList ++ Utf8.decode payload)) ?_ fun _ => rfl
    rw [hrun, if_neg hjson]
    rfl

theorem not_handled {client : VolcRealtimeClient} {data : Buffer} (h : BadErrorFrame data) : ¬ Handled words client data := by
  obtain ⟨payload, hread, hparse⟩ := h
  intro hhandled
  obtain ⟨events, hok, _⟩ := hhandled
  have hrun : handleMessage words data ⟨client, []⟩ = .error (words .syntaxError) ⟨client, []⟩ := by
    unfold handleMessage
    rw [hread]
    dsimp only
    rw [handleFrame, if_pos rfl, if_pos rfl, Throwing.bind_run, Throwing.map_run, parsePayload_none words hparse]
  rw [hrun] at hok
  cases hok

/-- **Every message is handled** but an error frame that says it is JSON and is not. -/
theorem messages_handled (client : VolcRealtimeClient) (data : Buffer) :
    Handled words client data ↔ ¬ BadErrorFrame data := by
  refine ⟨fun h hbad => not_handled words hbad h, fun h => ?_⟩
  obtain hshort | hlong := Nat.lt_or_ge data.length 8
  · refine handled_of_none words ?_
    have hread : readFrame data = .ok none := if_pos hshort
    unfold handleMessage
    rw [hread]
    rfl
  · obtain ⟨size, payload, _, hread, _⟩ := readFrame_total hlong
    by_cases herror : highNibble data 1 = MSG_ERROR_SERVER
    · rw [herror] at hread
      refine handled_error words client hread fun hjson hparse => h ⟨payload, ?_, hparse⟩
      rw [hread, hjson]
    · exact handled_frame words client hread herror

end

/-- An error frame whose JSON payload is the letter x. -/
theorem error_frame_throws : ¬ ∀ (words : EngineError → String) (client : VolcRealtimeClient) (data : Buffer),
    Handled words client data := by
  intro h
  refine not_handled (fun _ => "") ?_ (h (fun _ => "") (.new ⟨"", "", none, none⟩) [0x11, 0xF0, 0x10, 0, 0, 0, 0, 1, 0x78])
  exact ⟨[0x78], rfl, by decide⟩

end RtcPlugin.TsNode
