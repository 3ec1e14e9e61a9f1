import RtcPlugin.Audio.Buffer
import RtcPlugin.System.Run
import RtcPlugin.TsNode.WebSocket

/-! The speech client and the sockets it makes.

Every `connect` makes a socket, and the handlers of all of them act on the same two
fields, `ws` and `sessionActive`. A session belongs to the socket it was started on
as long as no `connect` comes during a session and no old socket's close event comes
once there is a new one (`sessions_tied`). -/
namespace RtcPlugin.TsNode
open Audio (Buffer)

structure VolcClientConfig where
  appId : String
  accessKey : String
  resourceId : Option String
  speaker : Option String
  deriving DecidableEq, Repr

structure VolcSessionOptions where
  model : Option String
  speaker : Option String
  deriving DecidableEq, Repr

inductive VolcFrame where
  | startSession (model speaker : String)
  | audio (pcm : Buffer)
  | chatTTSText (text : String)
  | finishSession
  deriving DecidableEq, Repr

def VolcFrame.startsSession : VolcFrame → Bool
  | .startSession .. => true
  | _ => false

structure VolcRealtimeClient where
  config : VolcClientConfig
  ws : Option Nat
  sessionActive : Bool
  sockets : Nat → WebSocket VolcFrame
  created : Nat

namespace VolcRealtimeClient

def new (config : VolcClientConfig) : VolcRealtimeClient := ⟨config, none, false, fun _ => .absent, 0⟩

def setSocket (v : VolcRealtimeClient) (s : Nat) (w : WebSocket VolcFrame) : VolcRealtimeClient :=
  {v with sockets := Function.update v.sockets s w}

/-- Up to the promise that the open event resolves. -/
def connect (v : VolcRealtimeClient) : VolcRealtimeClient :=
  {v.setSocket v.created .new with ws := some v.created, created := v.created + 1}

/-- `this.ws?.send(frame)` -/
def send (v : VolcRealtimeClient) (frame : VolcFrame) : Except String VolcRealtimeClient :=
  match v.ws with
  | none => .ok v
  | some s =>
    match (v.sockets s).send frame with
    | some w => .ok (v.setSocket s w)
    | none => .error "WebSocket is not open: readyState 0 (CONNECTING)"

def isConnected (v : VolcRealtimeClient) : Bool := v.ws.any fun s => (v.sockets s).readyState = .open

def startSession (v : VolcRealtimeClient) (options : Option VolcSessionOptions) : Except String VolcRealtimeClient := do
  if !v.isConnected then throw "Not connected"
  let model := (options.bind (·.model)).getD "O"
  let speaker := ((options.bind (·.speaker)).or v.config.speaker).getD "zh_female_cancan_mars_bigtts"
  let v ← v.send (.startSession model speaker)
  return {v with sessionActive := true}

def sendAudio (v : VolcRealtimeClient) (pcm : Buffer) : Except String VolcRealtimeClient :=
  if v.ws.isNone || !v.sessionActive then .ok v else v.send (.audio pcm)

def sendTtsText (v : VolcRealtimeClient) (text : String) : Except String VolcRealtimeClient :=
  if v.ws.isNone || !v.sessionActive then .ok v else v.send (.chatTTSText text)

def finishSession (v : VolcRealtimeClient) : Except String VolcRealtimeClient :=
  if v.ws.isNone || !v.sessionActive then .ok v
  else do
    let v ← v.send .finishSession
    return {v with sessionActive := false}

def disconnect (v : VolcRealtimeClient) : VolcRealtimeClient :=
  match v.ws with
  | some s => {v.setSocket s (v.sockets s).close with sessionActive := false, ws := none}
  | none => {v with sessionActive := false}

/-- The open event of a socket: only the promise of its `connect` hears of it. -/
def onOpen (v : VolcRealtimeClient) (s : Nat) : VolcRealtimeClient :=
  v.setSocket s {v.sockets s with readyState := .open}

/-- The close event of a socket. -/
def onClose (v : VolcRealtimeClient) (s : Nat) : VolcRealtimeClient :=
  {v.setSocket s {v.sockets s with readyState := .closed} with sessionActive := false, ws := none}

inductive Call where
  | connect
  | startSession (options : Option VolcSessionOptions)
  | sendAudio (pcm : Buffer)
  | sendTtsText (text : String)
  | finishSession
  | disconnect
  deriving DecidableEq, Repr

def run (v : VolcRealtimeClient) : Call → Except String VolcRealtimeClient
  | .connect => .ok v.connect
  | .startSession options => v.startSession options
  | .sendAudio pcm => v.sendAudio pcm
  | .sendTtsText text => v.sendTtsText text
  | .finishSession => v.finishSession
  | .disconnect => .ok v.disconnect

inductive Label where
  | call (c : Call)
  | opened (s : Nat)
  /-- The other side starts to close. -/
  | closing (s : Nat)
  | closed (s : Nat)
  deriving DecidableEq, Repr

/-- A call that throws has changed nothing. -/
inductive Step (v : VolcRealtimeClient) : Label → VolcRealtimeClient → Prop where
  | call {c v'} : v.run c = .ok v' → Step v (.call c) v'
  | throws {c e} : v.run c = .error e → Step v (.call c) v
  | opened {s} : (v.sockets s).readyState = .connecting → Step v (.opened s) (v.onOpen s)
  | closing {s} : (v.sockets s).readyState = .open →
      Step v (.closing s) (v.setSocket s {v.sockets s with readyState := .closing})
  | closed {s} : (v.sockets s).readyState ≠ .closed → Step v (.closed s) (v.onClose s)

def system (config : VolcClientConfig) : System VolcRealtimeClient Label where
  init := (· = new config)
  step := Step

/-! ### Sessions -/

/-- Everything sent on a socket comes after a session was started on it. -/
def InSession (sent : List VolcFrame) : Prop :=
  ∀ before frame after, sent = before ++ frame :: after →
    frame.startsSession = true ∨ ∃ start ∈ before, start.startsSession = true

/-- A session is active on the socket it was started on. -/
structure Tied (v : VolcRealtimeClient) : Prop where
  active : v.sessionActive = true →
    ∃ s, v.ws = some s ∧ ∃ start ∈ (v.sockets s).sent, start.startsSession = true
  sent : ∀ s, InSession (v.sockets s).sent

/-- The close event of a socket that is not `ws` changes neither field. -/
def Unmoved (v : VolcRealtimeClient) (l : Label) (v' : VolcRealtimeClient) : Prop :=
  ∀ s, l = .closed s → v.ws ≠ some s → v'.ws = v.ws ∧ v'.sessionActive = v.sessionActive

/-- No `connect` during a session, and no close event of another socket than `ws`
while there is one. -/
def Settled (v : VolcRealtimeClient) : Label → Prop
  | .call .connect => v.sessionActive = false
  | .closed s => v.ws = some s ∨ v.ws = none
  | _ => True

theorem InSession.nil : InSession [] := by
  intro before frame after h
  cases before <;> cases h

theorem InSession.snoc {sent : List VolcFrame} (h : InSession sent) {frame : VolcFrame}
    (hf : frame.startsSession = true ∨ ∃ start ∈ sent, start.startsSession = true) : InSession (sent ++ [frame]) := by
  intro before f after heq
  rcases List.eq_nil_or_concat after with rfl | ⟨init, last, rfl⟩
  · obtain ⟨rfl, hfe⟩ := List.append_inj' heq rfl
    cases hfe
    exact hf
  · rw [List.concat_eq_append, ← List.cons_append, ← List.append_assoc] at heq
    exact h before f init (List.append_inj' heq rfl).1

/-- A frame goes out on the current socket or nowhere. -/
theorem send_ok {v v' : VolcRealtimeClient} {frame : VolcFrame} (h : v.send frame = .ok v') :
    v' = v ∨ ∃ s, v.ws = some s ∧ v' = v.setSocket s {v.sockets s with sent := (v.sockets s).sent ++ [frame]} := by
  unfold send at h
  split at h
  · exact .inl (Except.ok.inj h).symm
  · next s hs =>
    split at h
    · next w hw =>
      rcases WebSocket.send_cases hw with rfl | rfl
      · exact .inr ⟨s, hs, (Except.ok.inj h).symm⟩
      · refine .inl ?_
        rw [← Except.ok.inj h, setSocket, Function.update_eq_self]
    · cases h

theorem setSocket_sent (v : VolcRealtimeClient) (s : Nat) (w : WebSocket VolcFrame) (s' : Nat) :
    ((v.setSocket s w).sockets s').sent = if s' = s then w.sent else (v.sockets s').sent := by
  by_cases h : s' = s
  · rw [if_pos h, h]
    exact congrArg WebSocket.sent (Function.update_self ..)
  · rw [if_neg h]
    exact congrArg WebSocket.sent (Function.update_of_ne h ..)

/-- Frames that go out in a session keep it. -/
theorem Tied.send {v v' : VolcRealtimeClient} {frame : VolcFrame} (h : Tied v)
    (hf : frame.startsSession = true ∨ v.sessionActive = true) (hsend : v.send frame = .ok v') : Tied v' := by
  rcases send_ok hsend with rfl | ⟨s, hs, rfl⟩
  · exact h
  · refine ⟨fun hactive => ?_, fun s' => ?_⟩
    · obtain ⟨s', hs', start, hstart, hst⟩ := h.active hactive
      obtain rfl : s = s' := Option.some.inj (hs.symm.trans hs')
      refine ⟨s, hs, start, ?_, hst⟩
      rw [setSocket_sent, if_pos rfl]
      exact List.mem_append_left _ hstart
    · rw [setSocket_sent]
      by_cases hs' : s' = s
      · subst hs'
        rw [if_pos rfl]
        refine (h.sent s').snoc (hf.imp_right fun hactive => ?_)
        obtain ⟨s'', hs'', hstart⟩ := h.active hactive
        obtain rfl : s' = s'' := Option.some.inj (hs.symm.trans hs'')
        exact hstart
      · rw [if_neg hs']
        exact h.sent s'

/-- Ready states are of no account, and neither is a session that ends. -/
theorem Tied.ofSame {v v' : VolcRealtimeClient} (h : Tied v) (hsent : ∀ s, (v'.sockets s).sent = (v.sockets s).sent)
    (hfields : v'.sessionActive = false ∨ v'.ws = v.ws ∧ v'.sessionActive = v.sessionActive) : Tied v' := by
  refine ⟨fun hactive => ?_, fun s => hsent s ▸ h.sent s⟩
  rcases hfields with hoff | ⟨hws, hact⟩
  · rw [hoff] at hactive
    cases hactive
  · obtain ⟨s, hs, hstart⟩ := h.active (hact ▸ hactive)
    exact ⟨s, hws.trans hs, (hsent s).symm ▸ hstart⟩

theorem Tied.setSocket {v : VolcRealtimeClient} (h : Tied v) {s : Nat} {w : WebSocket VolcFrame}
    (hw : w.sent = (v.sockets s).sent) : Tied (v.setSocket s w) := by
  refine h.ofSame (fun s' => ?_) (.inr ⟨rfl, rfl⟩)
  rw [setSocket_sent]
  split
  · next hs => rw [hw, hs]
  · rfl

theorem isConnected_eq {v : VolcRealtimeClient} (h : v.isConnected = true) :
    ∃ s, v.ws = some s ∧ (v.sockets s).readyState = .open := by
  unfold isConnected at h
  cases hws : v.ws with
  | none =>
    rw [hws] at h
    cases h
  | some s =>
    rw [hws] at h
    exact ⟨s, rfl, of_decide_eq_true h⟩

theorem startSession_tied {v v' : VolcRealtimeClient} {options : Option VolcSessionOptions} (h : Tied v)
    (hrun : v.startSession options = .ok v') : Tied v' := by
  unfold startSession at hrun
  by_cases hconn : v.isConnected = true
  · rw [hconn] at hrun
    obtain ⟨s, hs, hopen⟩ := isConnected_eq hconn
    generalize (options.bind (·.model)).getD "O" = model at hrun
    generalize ((options.bind (·.speaker)).or v.config.speaker).getD "zh_female_cancan_mars_bigtts" = speaker at hrun
    have hsend : v.send (.startSession model speaker) =
        .ok (v.setSocket s {v.sockets s with sent := (v.sockets s).sent ++ [.startSession model speaker]}) := by
      unfold send
      rw [hs]
      dsimp only
      rw [WebSocket.send_open hopen]
    have htied := h.send (.inl rfl) hsend
    simp only [Bool.not_true, Bool.false_eq_true, if_false, hsend] at hrun
    obtain rfl := Except.ok.inj hrun
    refine ⟨fun _ => ⟨s, hs, .startSession model speaker, ?_, rfl⟩, htied.sent⟩
    show _ ∈ (((v.setSocket s _).sockets s).sent)
    rw [setSocket_sent, if_pos rfl]
    exact List.mem_append_right _ (List.mem_singleton_self _)
  · rw [eq_false_of_ne_true hconn] at hrun
    cases hrun

/-- A frame that is only sent in a session. -/
theorem gated_tied {v v' : VolcRealtimeClient} {frame : VolcFrame} (h : Tied v)
    (hrun : (if v.ws.isNone || !v.sessionActive then .ok v else v.send frame) = .ok v') : Tied v' := by
  split at hrun
  · cases hrun
    exact h
  · next hc =>
    refine h.send (.inr ?_) hrun
    simp only [Bool.or_eq_true, Bool.not_eq_true', not_or, Bool.not_eq_false] at hc
    exact hc.2

theorem finishSession_tied {v v' : VolcRealtimeClient} (h : Tied v) (hrun : v.finishSession = .ok v') : Tied v' := by
  unfold finishSession at hrun
  split at hrun
  · cases hrun
    exact h
  · next hc =>
    cases hsend : v.send .finishSession with
    | error e =>
      rw [hsend] at hrun
      cases hrun
    | ok v₁ =>
      rw [hsend] at hrun
      cases hrun
      simp only [Bool.or_eq_true, Bool.not_eq_true', not_or, Bool.not_eq_false] at hc
      exact (h.send (.inr hc.2) hsend).ofSame (fun _ => rfl) (.inl rfl)

theorem disconnect_tied {v : VolcRealtimeClient} (h : Tied v) : Tied v.disconnect := by
  unfold disconnect
  split
  · next s _ => exact (h.setSocket (s := s) (WebSocket.close_sent _)).ofSame (fun _ => rfl) (.inl rfl)
  · exact h.ofSame (fun _ => rfl) (.inl rfl)

/-- A new socket has nothing on it. -/
theorem connect_tied {v : VolcRealtimeClient} (h : Tied v) (hidle : v.sessionActive = false) : Tied v.connect := by
  refine ⟨fun hactive => ?_, fun s => ?_⟩
  · have hfalse : v.sessionActive = true := hactive
    rw [hidle] at hfalse
    cases hfalse
  · show InSession (((v.setSocket v.created .new).sockets s).sent)
    rw [setSocket_sent]
    split
    · exact .nil
    · exact h.sent s

theorem step_tied {v v' : VolcRealtimeClient} {l : Label} (h : Tied v) (hs : Step v l v') (hc : Settled v l) :
    Tied v' := by
  cases hs with
  | @call c _ hrun =>
    cases c with
    | connect =>
      cases hrun
      exact connect_tied h hc
    | startSession options => exact startSession_tied h hrun
    | sendAudio pcm => exact gated_tied h hrun
    | sendTtsText text => exact gated_tied h hrun
    | finishSession => exact finishSession_tied h hrun
    | disconnect =>
      cases hrun
      exact disconnect_tied h
  | throws => exact h
  | opened => exact h.setSocket rfl
  | closing => exact h.setSocket rfl
  | @closed s _ =>
    have h' : Tied (v.setSocket s {v.sockets s with readyState := .closed}) := h.setSocket rfl
    exact h'.ofSame (fun _ => rfl) (.inl rfl)

theorem run_tied {config : VolcClientConfig} {ls : List Label} {v : VolcRealtimeClient}
    (h : ((system config).restrict Settled).Run ls v) : Tied v := by
  apply h.invariant (M := (system config).restrict Settled) (I := fun _ v => Tied v)
  · rintro v rfl
    refine ⟨fun hactive => ?_, fun s => .nil⟩
    cases hactive
  · intro ls v l v' _ hI hs
    exact step_tied hI hs.1 hs.2

/-- A session without a socket does not exist, so a late close event of an old socket
finds nothing to clear. -/
theorem step_unmoved {v v' : VolcRealtimeClient} {l : Label} (h : Tied v) (hs : Step v l v') (hc : Settled v l) :
    Unmoved v l v' := by
  rintro s rfl hne
  cases hs with
  | closed _ =>
    rcases hc with hcur | hnone
    · exact absurd hcur hne
    · refine ⟨hnone.symm, ?_⟩
      show false = v.sessionActive
      cases hactive : v.sessionActive with
      | false => rfl
      | true =>
        obtain ⟨s', hs', _⟩ := h.active hactive
        exact absurd (hnone.symm.trans hs') (Option.some_ne_none s').symm

/-- The new socket of a `connect` has no session on it. -/
theorem settled_of_tied {v v' : VolcRealtimeClient} {l : Label} (hs : Step v l v') (ht : Tied v')
    (hu : Unmoved v l v') : Settled v l := by
  cases hs with
  | @call c _ hrun =>
    cases c with
    | connect =>
      cases hrun
      show v.sessionActive = false
      by_contra hactive
      obtain ⟨s, hs, start, hstart, _⟩ := ht.active (Bool.of_not_eq_false hactive)
      obtain rfl : v.created = s := Option.some.inj hs
      have hsent : ((v.connect).sockets v.created).sent = [] := by
        show ((v.setSocket v.created .new).sockets v.created).sent = []
        rw [setSocket_sent, if_pos rfl]
        rfl
      rw [hsent] at hstart
      cases hstart
    | _ => trivial
  | @throws c e hrun =>
    cases c with
    | connect => cases hrun
    | _ => trivial
  | opened => trivial
  | closing => trivial
  | @closed s _ =>
    by_cases hcur : v.ws = some s
    · exact .inl hcur
    · exact .inr (hu s rfl hcur).1.symm

/-- **Sessions stay with their sockets** in every run of settled steps, and a step that
is not settled breaks that. -/
theorem sessions_tied {config : VolcClientConfig} {ls : List Label} {v : VolcRealtimeClient}
    (h : ((system config).restrict Settled).Run ls v) :
    Tied v ∧ ∀ l v', Step v l v' → (Tied v' ∧ Unmoved v l v' ↔ Settled v l) :=
  ⟨run_tied h, fun _ _ hs =>
    ⟨fun hgood => settled_of_tied hs hgood.1 hgood.2,
      fun hc => ⟨step_tied (run_tied h) hs hc, step_unmoved (run_tied h) hs hc⟩⟩⟩

def demoConfig : VolcClientConfig := ⟨"app", "key", none, none⟩

/-- One session with a frame of audio. -/
theorem sessions_audio : ∃ v, ((system demoConfig).restrict Settled).Run
    [.call .connect, .opened 0, .call (.startSession none), .call (.sendAudio [0, 0])] v ∧ Tied v ∧
      v.sessionActive = true := by
  have h₀ : ((system demoConfig).restrict Settled).Run [] (new demoConfig) := .nil rfl
  have h₁ := h₀.snoc ⟨show Step _ (.call .connect) _ from .call rfl, rfl⟩
  have h₂ := h₁.snoc ⟨show Step _ (.opened 0) _ from .opened rfl, trivial⟩
  have h₃ := h₂.snoc ⟨show Step _ (.call (.startSession none)) _ from .call rfl, trivial⟩
  have h₄ := h₃.snoc ⟨show Step _ (.call (.sendAudio [0, 0])) _ from .call rfl, trivial⟩
  exact ⟨_, h₄, (sessions_tied h₄).1, rfl⟩

/-- A second `connect` during a session: audio goes out on a socket without one. -/
theorem session_outlives_socket : ¬ ∀ config ls v, (system config).Run ls v →
    Tied v ∧ ∀ l v', Step v l v' → Unmoved v l v' := by
  intro hall
  have h₀ : (system demoConfig).Run [] (new demoConfig) := .nil rfl
  have h₁ := h₀.snoc (show Step _ (.call .connect) _ from .call rfl)
  have h₂ := h₁.snoc (show Step _ (.opened 0) _ from .opened rfl)
  have h₃ := h₂.snoc (show Step _ (.call (.startSession none)) _ from .call rfl)
  have h₄ := h₃.snoc (show Step _ (.call .connect) _ from .call rfl)
  have h₅ := h₄.snoc (show Step _ (.opened 1) _ from .opened rfl)
  have h₆ := h₅.snoc (show Step _ (.call (.sendAudio [0, 0])) _ from .call rfl)
  rcases (hall _ _ _ h₆).1.sent 1 [] (.audio [0, 0]) [] rfl with hstart | ⟨start, hmem, _⟩
  · cases hstart
  · cases hmem

end VolcRealtimeClient
end RtcPlugin.TsNode
