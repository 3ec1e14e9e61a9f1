import RtcPlugin.Json.Stringify
import RtcPlugin.System.Simulation
import RtcPlugin.Text.Utf8
import RtcPlugin.TsNode.VolcClient
import RtcPlugin.TsNode.VolcFrames

/-! The bytes that the speech client sends.

`VolcWire` is the client down to the buffers that its sockets are given. A payload that
is too long for its header throws before anything is sent; otherwise the client does
what the client of messages does, and every message is read off its buffer again
(`wire_read_back`). -/
namespace RtcPlugin.TsNode
open Audio (Buffer RangeError)

/-! ### Payloads -/

def audioConfig : Json :=
  .obj [
    ("input", .obj [("encoding", .str "pcm"), ("sample_rate", .num ⟨16, 3, true⟩), ("channels", .num ⟨1, 0, true⟩)]),
    ("output", .obj [("encoding", .str "ogg_opus"), ("sample_rate", .num ⟨24, 3, true⟩)])]

def startSessionPayload (model speaker : String) : Json :=
  .obj [("event", .str "StartSession"),
    ("params", .obj [("model", .str model), ("speaker", .str speaker), ("audio_config", audioConfig)])]

def chatTTSTextPayload (text : String) : Json := .obj [("event", .str "ChatTTSText"), ("text", .str text)]

def finishSessionPayload : Json := .obj [("event", .str "FinishSession")]

/-- The argument of `sendJsonFrame`, where a message is sent as JSON. -/
def VolcFrame.payload? : VolcFrame → Option Json
  | .startSession model speaker => some (startSessionPayload model speaker)
  | .audio _ => none
  | .chatTTSText text => some (chatTTSTextPayload text)
  | .finishSession => some finishSessionPayload

/-- `Buffer.from(JSON.stringify(payload), "utf8")`, or the audio itself. -/
def VolcFrame.payloadBuf : VolcFrame → Buffer
  | .audio pcm => pcm
  | f => Utf8.encode ((f.payload?.getD .null).stringify)

def VolcFrame.encode : VolcFrame → Except RangeError Buffer
  | .audio pcm => sendAudioFrame pcm
  | f => sendJsonFrame f.payloadBuf

/-- The message that a payload was made of. -/
def VolcFrame.ofJson (json : Json) : Option VolcFrame :=
  match (json.get? "event").bind Json.asString? with
  | some "StartSession" => do
    let params ← json.get? "params"
    let model ← (params.get? "model").bind Json.asString?
    let speaker ← (params.get? "speaker").bind Json.asString?
    some (.startSession model speaker)
  | some "ChatTTSText" => ((json.get? "text").bind Json.asString?).map .chatTTSText
  | some "FinishSession" => some .finishSession
  | _ => none

/-- The message that is read off a buffer. -/
def VolcFrame.decode (data : Buffer) : Option VolcFrame :=
  match readFrame data with
  | .ok (some f) =>
    if f.msgType = MSG_AUDIO_ONLY_CLIENT ∧ f.serialization = SERIAL_NONE then some (.audio f.payload)
    else if f.msgType = MSG_FULL_CLIENT ∧ f.serialization = SERIAL_JSON then
      (Json.parseChars (Utf8.decode f.payload)).bind ofJson
    else none
  | _ => none

/-- The message that a call sends. -/
def VolcRealtimeClient.Call.frame? (config : VolcClientConfig) : VolcRealtimeClient.Call → Option VolcFrame
  | .startSession options => some (.startSession ((options.bind (·.model)).getD "O")
      (((options.bind (·.speaker)).or config.speaker).getD "zh_female_cancan_mars_bigtts"))
  | .sendAudio pcm => some (.audio pcm)
  | .sendTtsText text => some (.chatTTSText text)
  | .finishSession => some .finishSession
  | .connect | .disconnect => none

/-! ### Messages are read off their buffers -/

theorem audioConfig_native : audioConfig.Native := by
  have hone : (⟨1, 0, true⟩ : Decimal).Canonical := ⟨by decide, by decide, by decide⟩
  have hlow : (⟨16, 3, true⟩ : Decimal).Canonical := ⟨by decide, by decide, by decide⟩
  have hhigh : (⟨24, 3, true⟩ : Decimal).Canonical := ⟨by decide, by decide, by decide⟩
  have hinput : (Json.obj [("encoding", .str "pcm"), ("sample_rate", .num ⟨16, 3, true⟩),
      ("channels", .num ⟨1, 0, true⟩)]).Native :=
    Json.native_obj ["encoding", "sample_rate", "channels"] rfl (by decide)
      ⟨trivial, hlow, hone, trivial⟩
  have houtput : (Json.obj [("encoding", .str "ogg_opus"), ("sample_rate", .num ⟨24, 3, true⟩)]).Native :=
    Json.native_obj ["encoding", "sample_rate"] rfl (by decide) ⟨trivial, hhigh, trivial⟩
  exact Json.native_obj ["input", "output"] rfl (by decide) ⟨hinput, houtput, trivial⟩

/-- The payloads are objects as the scripting language holds them. -/
theorem VolcFrame.payload_native {f : VolcFrame} {payload : Json} (h : f.payload? = some payload) : payload.Native := by
  cases f with
  | startSession model speaker =>
    cases h
    have hparams : (Json.obj [("model", .str model), ("speaker", .str speaker), ("audio_config", audioConfig)]).Native :=
      Json.native_obj ["model", "speaker", "audio_config"] rfl (by decide) ⟨trivial, trivial, audioConfig_native, trivial⟩
    exact Json.native_obj ["event", "params"] rfl (by decide) ⟨trivial, hparams, trivial⟩
  | audio pcm => cases h
  | chatTTSText text =>
    cases h
    exact Json.native_obj ["event", "text"] rfl (by decide) ⟨trivial, trivial, trivial⟩
  | finishSession =>
    cases h
    exact Json.native_obj ["event"] rfl (by decide) ⟨trivial, trivial⟩

theorem VolcFrame.ofJson_payload {f : VolcFrame} {payload : Json} (h : f.payload? = some payload) :
    ofJson payload = some f := by
  cases f with
  | audio pcm => cases h
  | _ =>
    cases h
    rfl

/-- A payload as JSON is read off its bytes. -/
theorem VolcFrame.parse_payloadBuf {f : VolcFrame} {payload : Json} (h : f.payload? = some payload) :
    Json.parseChars (Utf8.decode f.payloadBuf) = some payload := by
  have hbuf : f.payloadBuf = Utf8.encode payload.stringify := by
    cases f with
    | audio pcm => cases h
    | _ =>
      cases h
      rfl
  rw [hbuf, Utf8.decode_encode]
  exact Json.parseChars_stringify (payload_native h)

/-- A buffer is a header and the payload. -/
theorem VolcFrame.encode_eq (f : VolcFrame) :
    f.payload? = none ∧ f = .audio f.payloadBuf ∧ f.encode = frame MSG_AUDIO_ONLY_CLIENT SERIAL_NONE f.payloadBuf ∨
      (∃ payload, f.payload? = some payload) ∧ f.encode = frame MSG_FULL_CLIENT SERIAL_JSON f.payloadBuf := by
  cases f with
  | audio pcm => exact .inl ⟨rfl, rfl, rfl⟩
  | _ => exact .inr ⟨⟨_, rfl⟩, rfl⟩

/-- The size of a longer payload does not fit into the header. -/
theorem frame_long {msgType serialization : Nat} {payload : Buffer} (h : 2 ^ 32 ≤ payload.length) :
    frame msgType serialization payload = .error .value := by
  unfold frame buildHeader Buffer.writeUInt32BE
  rw [if_pos h]
  rfl

/-- What was encoded is read back. -/
theorem VolcFrame.decode_encode (f : VolcFrame) :
    2 ^ 32 ≤ f.payloadBuf.length ∧ f.encode = .error .value ∨ ∃ data, f.encode = .ok data ∧ decode data = some f := by
  have hread : ∀ msgType serialization, msgType < 16 → serialization < 16 → f.payloadBuf.length < 2 ^ 32 →
      ∃ data, frame msgType serialization f.payloadBuf = .ok data ∧
        readFrame data = .ok (some ⟨msgType, serialization, f.payloadBuf⟩) := by
    intro msgType serialization ht hs hlen
    obtain ⟨data, hdata, hread⟩ := readFrame_frame ht hs hlen
    exact ⟨data, hdata, List.append_nil data ▸ hread []⟩
  rcases Nat.lt_or_ge f.payloadBuf.length (2 ^ 32) with hlen | hlen
  · refine .inr ?_
    obtain ⟨-, hf, he⟩ | ⟨⟨payload, hp⟩, he⟩ := f.encode_eq
    · obtain ⟨data, hdata, hread⟩ := hread MSG_AUDIO_ONLY_CLIENT SERIAL_NONE (by decide) (by decide) hlen
      refine ⟨data, he.trans hdata, ?_⟩
      unfold decode
      rw [hread, hf]
      rfl
    · obtain ⟨data, hdata, hread⟩ := hread MSG_FULL_CLIENT SERIAL_JSON (by decide) (by decide) hlen
      refine ⟨data, he.trans hdata, ?_⟩
      unfold decode
      rw [hread]
      dsimp only
      rw [if_neg (by decide), if_pos ⟨rfl, rfl⟩, parse_payloadBuf hp]
      exact ofJson_payload hp
  · refine .inl ⟨hlen, ?_⟩
    obtain ⟨-, -, he⟩ | ⟨-, he⟩ := f.encode_eq
    · exact he.trans (frame_long hlen)
    · exact he.trans (frame_long hlen)

theorem VolcFrame.decode_of_encode {f : VolcFrame} {data : Buffer} (h : f.encode = .ok data) : decode data = some f := by
  obtain ⟨-, he⟩ | ⟨data', he, hdecode⟩ := f.decode_encode
  · cases h.symm.trans he
  · cases h.symm.trans he
    exact hdecode

theorem VolcFrame.long_of_encode {f : VolcFrame} {e : RangeError} (h : f.encode = .error e) :
    2 ^ 32 ≤ f.payloadBuf.length := by
  obtain ⟨hlen, -⟩ | ⟨data, he, -⟩ := f.decode_encode
  · exact hlen
  · cases h.symm.trans he

/-- What a call throws. -/
inductive VolcError where
  | error (message : String)
  | rangeError (e : RangeError)
  deriving DecidableEq, Repr

structure VolcWire where
  config : VolcClientConfig
  ws : Option Nat
  sessionActive : Bool
  sockets : Nat → WebSocket Buffer
  created : Nat

namespace VolcWire
open VolcRealtimeClient (Call Label)

def new (config : VolcClientConfig) : VolcWire := ⟨config, none, false, fun _ => .absent, 0⟩

def setSocket (v : VolcWire) (s : Nat) (w : WebSocket Buffer) : VolcWire :=
  {v with sockets := Function.update v.sockets s w}

def connect (v : VolcWire) : VolcWire :=
  {v.setSocket v.created .new with ws := some v.created, created := v.created + 1}

/-- `this.ws?.send(frame)` -/
def send (v : VolcWire) (frame : Buffer) : Except VolcError VolcWire :=
  match v.ws with
  | none => .ok v
  | some s =>
    match (v.sockets s).send frame with
    | some w => .ok (v.setSocket s w)
    | none => .error (.error "WebSocket is not open: readyState 0 (CONNECTING)")

/-- The buffer is made before it is sent. -/
def sendFrame (v : VolcWire) (frame : VolcFrame) : Except VolcError VolcWire := do
  let data ← frame.encode.mapError .rangeError
  v.send data

def isConnected (v : VolcWire) : Bool := v.ws.any fun s => (v.sockets s).readyState = .open

def startSession (v : VolcWire) (options : Option VolcSessionOptions) : Except VolcError VolcWire := do
  if !v.isConnected then throw (.error "Not connected")
  let model := (options.bind (·.model)).getD "O"
  let speaker := ((options.bind (·.speaker)).or v.config.speaker).getD "zh_female_cancan_mars_bigtts"
  let v ← v.sendFrame (.startSession model speaker)
  return {v with sessionActive := true}

def sendAudio (v : VolcWire) (pcm : Buffer) : Except VolcError VolcWire :=
  if v.ws.isNone || !v.sessionActive then .ok v else v.sendFrame (.audio pcm)

def sendTtsText (v : VolcWire) (text : String) : Except VolcError VolcWire :=
  if v.ws.isNone || !v.sessionActive then .ok v else v.sendFrame (.chatTTSText text)

def finishSession (v : VolcWire) : Except VolcError VolcWire :=
  if v.ws.isNone || !v.sessionActive then .ok v
  else do
    let v ← v.sendFrame .finishSession
    return {v with sessionActive := false}

def disconnect (v : VolcWire) : VolcWire :=
  match v.ws with
  | some s => {v.setSocket s (v.sockets s).close with sessionActive := false, ws := none}
  | none => {v with sessionActive := false}

def onOpen (v : VolcWire) (s : Nat) : VolcWire := v.setSocket s {v.sockets s with readyState := .open}

def onClose (v : VolcWire) (s : Nat) : VolcWire :=
  {v.setSocket s {v.sockets s with readyState := .closed} with sessionActive := false, ws := none}

def run (v : VolcWire) : Call → Except VolcError VolcWire
  | .connect => .ok v.connect
  | .startSession options => v.startSession options
  | .sendAudio pcm => v.sendAudio pcm
  | .sendTtsText text => v.sendTtsText text
  | .finishSession => v.finishSession
  | .disconnect => .ok v.disconnect

/-- A call that throws has changed nothing. -/
inductive Step (v : VolcWire) : Label → VolcWire → Prop where
  | call {c v'} : v.run c = .ok v' → Step v (.call c) v'
  | throws {c e} : v.run c = .error e → Step v (.call c) v
  | opened {s} : (v.sockets s).readyState = .connecting → Step v (.opened s) (v.onOpen s)
  | closing {s} : (v.sockets s).readyState = .open →
      Step v (.closing s) (v.setSocket s {v.sockets s with readyState := .closing})
  | closed {s} : (v.sockets s).readyState ≠ .closed → Step v (.closed s) (v.onClose s)

def system (config : VolcClientConfig) : System VolcWire Label where
  init := (· = new config)
  step := Step

/-! ### The client of messages -/

/-- A socket with the buffers of the messages of another, one for one. -/
structure Carried (b : WebSocket Buffer) (w : WebSocket VolcFrame) : Prop where
  readyState : b.readyState = w.readyState
  sent : List.Forall₂ (fun data frame => VolcFrame.encode frame = .ok data) b.sent w.sent

structure Carries (config : VolcClientConfig) (v : VolcWire) (u : VolcRealtimeClient) : Prop where
  wire : v.config = config
  client : u.config = config
  ws : v.ws = u.ws
  sessionActive : v.sessionActive = u.sessionActive
  created : v.created = u.created
  sockets : ∀ s, Carried (v.sockets s) (u.sockets s)

/-- How a call that may send a message goes, beside the same call of the other client. -/
inductive Alike (config : VolcClientConfig) (frame? : Option VolcFrame) : Except VolcError VolcWire → Except String VolcRealtimeClient → Prop where
  | ok {v u} : Carries config v u → Alike config frame? (.ok v) (.ok u)
  | throws {e e'} : Alike config frame? (.error e) (.error e')
  | tooLong {frame e r} : frame? = some frame → 2 ^ 32 ≤ frame.payloadBuf.length → Alike config frame? (.error (.rangeError e)) r

theorem Carried.close {b : WebSocket Buffer} {w : WebSocket VolcFrame} (h : Carried b w) : Carried b.close w.close := by
  refine ⟨?_, by simpa using h.sent⟩
  have hready := h.readyState
  unfold WebSocket.close
  rw [hready]
  split
  · exact hready
  · rfl

/-- A buffer goes out, is dropped or throws where its message does. -/
theorem Carried.send {b : WebSocket Buffer} {w : WebSocket VolcFrame} (h : Carried b w) {data : Buffer}
    {frame : VolcFrame} (he : frame.encode = .ok data) :
    b.send data = none ∧ w.send frame = none ∨
      ∃ b' w', b.send data = some b' ∧ w.send frame = some w' ∧ Carried b' w' := by
  have hready := h.readyState
  unfold WebSocket.send
  rw [hready]
  cases hw : w.readyState with
  | connecting => exact .inl ⟨rfl, rfl⟩
  | «open» => exact .inr ⟨_, _, rfl, rfl, rfl, List.rel_append h.sent (.cons he .nil)⟩
  | closing => exact .inr ⟨_, _, rfl, rfl, h⟩
  | closed => exact .inr ⟨_, _, rfl, rfl, h⟩

variable {config : VolcClientConfig} {v v' : VolcWire} {u : VolcRealtimeClient}

theorem Carries.setSocket (h : Carries config v u) (s : Nat) {b : WebSocket Buffer} {w : WebSocket VolcFrame}
    (hs : Carried b w) : Carries config (v.setSocket s b) (u.setSocket s w) := by
  refine ⟨h.wire, h.client, h.ws, h.sessionActive, h.created, fun s' => ?_⟩
  show Carried (Function.update v.sockets s b s') (Function.update u.sockets s w s')
  by_cases hs' : s' = s
  · rw [hs', Function.update_self, Function.update_self]
    exact hs
  · rw [Function.update_of_ne hs', Function.update_of_ne hs']
    exact h.sockets s'

theorem Carries.setReadyState (h : Carries config v u) (s : Nat) (r : ReadyState) :
    Carries config (v.setSocket s {v.sockets s with readyState := r}) (u.setSocket s {u.sockets s with readyState := r}) :=
  h.setSocket s ⟨rfl, (h.sockets s).sent⟩

theorem Carries.withSession (h : Carries config v u) (active : Bool) :
    Carries config {v with sessionActive := active} {u with sessionActive := active} :=
  ⟨h.wire, h.client, h.ws, rfl, h.created, h.sockets⟩

theorem Carries.isConnected (h : Carries config v u) : v.isConnected = u.isConnected := by
  unfold VolcWire.isConnected VolcRealtimeClient.isConnected
  rw [h.ws]
  exact congrArg (u.ws.any ·) (funext fun s => by rw [(h.sockets s).readyState])

/-- A message goes out, or not, in both. -/
theorem sendFrame_alike (h : Carries config v u) (frame : VolcFrame) :
    Alike config (some frame) (v.sendFrame frame) (u.send frame) := by
  unfold VolcWire.sendFrame
  cases he : frame.encode with
  | error e => exact .tooLong rfl (VolcFrame.long_of_encode he)
  | ok data =>
    show Alike config (some frame) (v.send data) (u.send frame)
    unfold VolcWire.send VolcRealtimeClient.send
    rw [h.ws]
    cases u.ws with
    | none => exact .ok h
    | some s =>
      dsimp only
      obtain ⟨hb, hw⟩ | ⟨b', w', hb, hw, hcarried⟩ := (h.sockets s).send he
      · rw [hb, hw]
        exact .throws
      · rw [hb, hw]
        exact .ok (h.setSocket s hcarried)

/-- A frame that is only sent in a session. -/
theorem gated_alike (h : Carries config v u) (frame : VolcFrame) :
    Alike config (some frame) (if v.ws.isNone || !v.sessionActive then .ok v else v.sendFrame frame)
      (if u.ws.isNone || !u.sessionActive then .ok u else u.send frame) := by
  rw [h.ws, h.sessionActive]
  split
  · exact .ok h
  · exact sendFrame_alike h frame

theorem Alike.andThen {frame? : Option VolcFrame} {r : Except VolcError VolcWire}
    {r' : Except String VolcRealtimeClient} (h : Alike config frame? r r') (active : Bool) :
    Alike config frame? (r >>= fun v => pure {v with sessionActive := active})
      (r' >>= fun u => pure {u with sessionActive := active}) := by
  cases h with
  | ok h => exact .ok (h.withSession active)
  | throws => exact .throws
  | tooLong hframe hlong => exact .tooLong hframe hlong

theorem startSession_alike (h : Carries config v u) (options : Option VolcSessionOptions) :
    Alike config ((Call.startSession options).frame? config) (v.startSession options) (u.startSession options) := by
  unfold VolcWire.startSession VolcRealtimeClient.startSession
  rw [h.isConnected, h.wire, h.client]
  cases u.isConnected with
  | false => exact .throws
  | true => exact (sendFrame_alike h _).andThen true

theorem finishSession_alike (h : Carries config v u) : Alike config (some .finishSession) v.finishSession u.finishSession := by
  unfold VolcWire.finishSession VolcRealtimeClient.finishSession
  rw [h.ws, h.sessionActive]
  split
  · exact .ok h
  · exact (sendFrame_alike h _).andThen false

theorem connect_carries (h : Carries config v u) : Carries config v.connect u.connect := by
  have h' := h.setSocket v.created (b := .new) (w := .new) ⟨rfl, .nil⟩
  rw [h.created] at h'
  refine ⟨h'.wire, h'.client, ?_, h'.sessionActive, ?_, ?_⟩
  · exact congrArg some h.created
  · exact congrArg (· + 1) h.created
  · intro s
    show Carried (Function.update v.sockets v.created _ s) _
    rw [h.created]
    exact h'.sockets s

theorem disconnect_carries (h : Carries config v u) : Carries config v.disconnect u.disconnect := by
  unfold VolcWire.disconnect VolcRealtimeClient.disconnect
  rw [h.ws]
  cases u.ws with
  | none => exact ⟨h.wire, h.client, rfl, rfl, h.created, h.sockets⟩
  | some s =>
    have h' := h.setSocket s (h.sockets s).close
    exact ⟨h'.wire, h'.client, rfl, rfl, h'.created, h'.sockets⟩

theorem run_alike (h : Carries config v u) (c : Call) : Alike config (c.frame? config) (v.run c) (u.run c) := by
  cases c with
  | connect => exact .ok (connect_carries h)
  | startSession options => exact startSession_alike h options
  | sendAudio pcm => exact gated_alike h _
  | sendTtsText text => exact gated_alike h _
  | finishSession => exact finishSession_alike h
  | disconnect => exact .ok (disconnect_carries h)

/-- The label of the same step, or none where the message of a call is too long. -/
def Unsent (config : VolcClientConfig) (l : Label) (ls : List Label) : Prop :=
  ls = [l] ∨ ls = [] ∧ ∃ c frame, l = .call c ∧ c.frame? config = some frame ∧ 2 ^ 32 ≤ frame.payloadBuf.length

theorem step_carries {l : Label} (h : Carries config v u) (hs : Step v l v') :
    ∃ ls u', Unsent config l ls ∧ (VolcRealtimeClient.system config).Steps u ls u' ∧ Carries config v' u' := by
  cases hs with
  | @call c _ hrun =>
    have halike := run_alike h c
    rw [hrun] at halike
    generalize hr : u.run c = r at halike
    cases halike with
    | ok h' => exact ⟨_, _, .inl rfl, .single (.call hr), h'⟩
  | @throws c e hrun =>
    have halike := run_alike h c
    rw [hrun] at halike
    generalize hr : u.run c = r at halike
    cases halike with
    | throws => exact ⟨_, _, .inl rfl, .single (.throws hr), h⟩
    | tooLong hframe hlong => exact ⟨[], u, .inr ⟨rfl, c, _, rfl, hframe, hlong⟩, .nil, h⟩
  | @opened s hready =>
    rw [(h.sockets s).readyState] at hready
    exact ⟨_, _, .inl rfl, .single (.opened hready), h.setReadyState s .open⟩
  | @closing s hready =>
    rw [(h.sockets s).readyState] at hready
    exact ⟨_, _, .inl rfl, .single (.closing hready), h.setReadyState s .closing⟩
  | @closed s hready =>
    rw [(h.sockets s).readyState] at hready
    have h' := h.setReadyState s .closed
    exact ⟨_, _, .inl rfl, .single (.closed hready), h'.wire, h'.client, rfl, rfl, h'.created, h'.sockets⟩

theorem simulation (config : VolcClientConfig) :
    System.Simulation (system config) (VolcRealtimeClient.system config) (Carries config) (Unsent config) where
  init := by
    rintro v rfl
    exact ⟨.new config, rfl, rfl, rfl, rfl, rfl, rfl, fun _ => ⟨rfl, .nil⟩⟩
  step := fun _ _ _ _ h hs => step_carries h hs

/-- **What is sent is read back**: a run of the client is a run of the client of messages,
but for calls whose payload is too long, and every socket has the buffers of its
messages, each of them read as its message. -/
theorem wire_read_back {config : VolcClientConfig} {ls : List Label} {v : VolcWire} (h : (system config).Run ls v) :
    ∃ lss u, List.Forall₂ (Unsent config) ls lss ∧ (VolcRealtimeClient.system config).Run lss.flatten u ∧
      v.ws = u.ws ∧ v.sessionActive = u.sessionActive ∧ ∀ s, (v.sockets s).readyState = (u.sockets s).readyState ∧
        List.Forall₂ (fun data frame => VolcFrame.encode frame = .ok data ∧ VolcFrame.decode data = some frame)
          (v.sockets s).sent (u.sockets s).sent := by
  obtain ⟨lss, u, hls, hrun, hcarries⟩ := (simulation config).run h
  refine ⟨lss, u, hls, hrun, hcarries.ws, hcarries.sessionActive, fun s => ⟨(hcarries.sockets s).readyState, ?_⟩⟩
  exact (hcarries.sockets s).sent.imp fun _ _ he => ⟨he, VolcFrame.decode_of_encode he⟩

theorem startSession_ok {v : VolcWire} {s : Nat} {options : Option VolcSessionOptions} {frame : VolcFrame}
    {data : Buffer} (hws : v.ws = some s) (hopen : (v.sockets s).readyState = .open)
    (hframe : (Call.startSession options).frame? v.config = some frame) (he : frame.encode = .ok data) :
    v.startSession options =
      .ok {v.setSocket s {v.sockets s with sent := (v.sockets s).sent ++ [data]} with sessionActive := true} := by
  have hconn : v.isConnected = true := by
    unfold isConnected
    rw [hws]
    exact decide_eq_true hopen
  have hsend : v.sendFrame frame = .ok (v.setSocket s {v.sockets s with sent := (v.sockets s).sent ++ [data]}) := by
    unfold sendFrame
    rw [he]
    show v.send data = _
    unfold send
    rw [hws]
    dsimp only
    rw [WebSocket.send_open hopen]
  unfold startSession
  rw [hconn]
  obtain rfl := Option.some.inj hframe
  exact congrArg (· >>= fun v => pure {v with sessionActive := true}) hsend

/-- A session that is started. -/
theorem wire_read_back_started : ∃ (v : VolcWire) (lss : List (List Label)) (u : VolcRealtimeClient),
    List.Forall₂ (Unsent VolcRealtimeClient.demoConfig) [.call .connect, .opened 0, .call (.startSession none)] lss ∧
    (VolcRealtimeClient.system VolcRealtimeClient.demoConfig).Run lss.flatten u ∧ v.ws = u.ws ∧
      v.sessionActive = u.sessionActive ∧ (∀ s, (v.sockets s).readyState = (u.sockets s).readyState ∧
        List.Forall₂ (fun data frame => VolcFrame.encode frame = .ok data ∧ VolcFrame.decode data = some frame)
          (v.sockets s).sent (u.sockets s).sent) ∧
      (v.sockets 0).sent.map VolcFrame.decode = [some (.startSession "O" "zh_female_cancan_mars_bigtts")] := by
  obtain ⟨data, he, hdecode⟩ := (VolcFrame.startSession "O" "zh_female_cancan_mars_bigtts").decode_encode.resolve_left
    fun h => absurd h.1 (by decide +kernel)
  let v := ((new VolcRealtimeClient.demoConfig).connect).onOpen 0
  have hrun : v.startSession none = .ok _ := startSession_ok rfl rfl rfl he
  have h₀ : (system VolcRealtimeClient.demoConfig).Run [] (new VolcRealtimeClient.demoConfig) := .nil rfl
  have h₁ := h₀.snoc (show Step _ (.call .connect) _ from .call rfl)
  have h₂ := h₁.snoc (show Step _ (.opened 0) v from .opened rfl)
  have h₃ := h₂.snoc (show Step _ (.call (.startSession none)) _ from .call hrun)
  obtain ⟨lss, u, hls, hu, hws, hactive, hsockets⟩ := wire_read_back h₃
  refine ⟨_, lss, u, hls, hu, hws, hactive, hsockets, ?_⟩
  show [data].map VolcFrame.decode = _
  rw [List.map_singleton, hdecode]

end VolcWire
end RtcPlugin.TsNode
