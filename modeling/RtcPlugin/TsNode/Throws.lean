import RtcPlugin.System.Run
import RtcPlugin.System.Throwing
import RtcPlugin.TsNode.Wire

/-! The gateway client's message handler, with what throws in it.

The handler catches what a frame's handling throws, and keeps what was written before: a
challenge sets its flag before its payload is read, and a response leaves the map before
its error message is. `handleFrame_received` says what a frame comes to. So a step is one
of the client that nothing throws in, or one of two that a throw cut short (`Step.cases`);
where nothing throws the two clients are one (`Step.of_handles`). -/
namespace RtcPlugin.TsNode
open Auth (TimeValue)

namespace GatewayNodeClient

/-! ### Challenges -/

def IsChallenge (frame : Json) : Prop :=
  frame.get? "type" = some (.str "event") ∧ frame.get? "event" = some (.str "connect.challenge")

section
variable {e : Setup} {c : GatewayNodeClient}

theorem onMessage_other {s : Nat} {frame : Json} {now : TimeValue} {X : Type} {f : GatewayNodeClient → X} (hf : Steady f)
    (hc : ¬ IsChallenge frame) : f (onMessage e c s (some frame) now) = f c := by
  show f (handleFrame e c s frame now) = f c
  unfold handleFrame
  split
  · next htype =>
    unfold handleEvent
    split
    · next hevent => exact absurd ⟨htype, hevent⟩ hc
    · exact handleInvokeRequest_steady e hf ..
    · rfl
  · exact handleResponse_steady e hf ..
  · rfl

theorem onMessage_challenge {s : Nat} {frame : Json} {now : TimeValue} (hc : IsChallenge frame) :
    onMessage e c s (some frame) now = handleChallenge e c s (frame.get? "payload") now := by
  simp only [onMessage, handleFrame, hc.1, handleEvent, hc.2]

end

/-! ### The message handler -/

namespace Scripted

section
variable (e : Setup) (signs : String → Bool)

/-- `v.name` -/
def property (v : Option Json) (name : String) : Throwing GatewayNodeClient (Option Json) :=
  match v with
  | none | some .null => throw "TypeError"
  | some v => pure (v.get? name)

def textOf : Json → String
  | .str s => s
  | v => e.text v

/-- `String(v)` -/
def stringOf (v : Json) : Throwing GatewayNodeClient String :=
  if v.toText.isSome then pure (textOf e v) else throw "TypeError"

/-- An element as `join` reads it. -/
def joined : Option Json → Throwing GatewayNodeClient String
  | none | some .null => pure ""
  | some v => stringOf e v

def authPayload (nonce : String) (signedAtMs : TimeValue) : String :=
  Auth.challengePayload ⟨e.deviceId, signedAtMs, e.opts.token.getD "", nonce, e.platform⟩

/-- It throws where the identity's keys are no keys. -/
def signPayload (payload : String) : Throwing GatewayNodeClient String :=
  if signs payload then pure (e.signPayload payload) else throw "Error"

def handleChallenge (s : Nat) (payload : Option Json) (now : TimeValue) : Throwing GatewayNodeClient Unit := do
  let c ← get
  if c.connectSent then pure ()
  else do
    modify fun c => {c with connectSent := true}
    let nonce ← property payload "nonce"
    let text ← joined e nonce
    let _ ← signPayload e signs (authPayload e text now)
    modify fun c => attempt e c (.connect s) "connect" (.connect (connectParams e nonce now))

/-- `new Error(frame.error?.message ?? "request failed")` -/
def responseError (frame : Json) : Throwing GatewayNodeClient String :=
  match optGet? (frame.get? "error") "message" with
  | none | some .null => pure "request failed"
  | some v => stringOf e v

/-- The response of a promise that waits. -/
def answer (id : String) (waiter : Waiter) (frame : Json) : Throwing GatewayNodeClient Unit := do
  modify fun c => {c with pending := c.pending.delete id}
  if optTruthy (frame.get? "ok") then
    modify fun c => resume e (c.settle id (.resolved (frame.get? "payload"))) waiter (.resolved (frame.get? "payload"))
  else do
    let message ← responseError e frame
    modify fun c => resume e (c.settle id (.rejected message)) waiter (.rejected message)

def handleResponse (frame : Json) : Throwing GatewayNodeClient Unit := do
  let c ← get
  match frame.get? "id" with
  | some (.str id) =>
    match c.pending.get? id with
    | some waiter => answer e id waiter frame
    | none => pure ()
  | _ => pure ()

def handleEvent (s : Nat) (frame : Json) (now : TimeValue) : Throwing GatewayNodeClient Unit :=
  match frame.get? "event" with
  | some (.str "connect.challenge") => handleChallenge e signs s (frame.get? "payload") now
  | some (.str "node.invoke.request") => modify fun c => handleInvokeRequest e c s (frame.get? "payload")
  | _ => pure ()

def handleFrame (s : Nat) (frame : Json) (now : TimeValue) : Throwing GatewayNodeClient Unit := do
  let type ← property (some frame) "type"
  match type with
  | some (.str "event") => handleEvent e signs s frame now
  | some (.str "res") => handleResponse e frame
  | _ => pure ()

/-- The body of the `try`. -/
def received (s : Nat) (frame : Option Json) (now : TimeValue) : Throwing GatewayNodeClient Unit :=
  match frame with
  | some frame => handleFrame e signs s frame now
  | none => throw "SyntaxError"

/-- What was thrown is only reported. -/
def onMessage (c : GatewayNodeClient) (s : Nat) (frame : Option Json) (now : TimeValue) : GatewayNodeClient :=
  match received e signs s frame now c with
  | .ok _ c | .error _ c => c

def Throws (c : GatewayNodeClient) (s : Nat) (frame : Option Json) (now : TimeValue) : Prop :=
  ∃ error c', received e signs s frame now c = .error error c'

/-- The other events are as they were. -/
inductive Step (c : GatewayNodeClient) : Label → GatewayNodeClient → Prop where
  | message {s frame now} : c.sockets s = .open ∨ c.sockets s = .closing →
      Step c (.message s frame now) (onMessage e signs c s frame now)
  | other {l c'} : (∀ s frame now, l ≠ .message s frame now) → GatewayNodeClient.Step e c l c' → Step c l c'

/-! ### What a frame comes to -/

/-- A value that `String` converts, or nothing to convert. -/
def Converts (v : Option Json) : Bool := v.all fun v => v.toText.isSome

/-- There is a payload, its nonce converts, and the keys sign. -/
def Answerable (payload : Option Json) (now : TimeValue) : Prop :=
  ∃ v, payload = some v ∧ v ≠ .null ∧ Converts (v.get? "nonce") = true ∧
    signs (authPayload e (nonceText e (v.get? "nonce")) now) = true

/-- The error message of a response. -/
def messageOf (frame : Json) : Option Json := optGet? (frame.get? "error") "message"

/-- A frame that is handled to its end. -/
structure Handles (c : GatewayNodeClient) (frame : Json) (now : TimeValue) : Prop where
  challenge : IsChallenge frame → c.connectSent = false → Answerable e signs (frame.get? "payload") now
  response : ∀ id waiter, responds? frame = some id → c.pending.get? id = some waiter →
    optTruthy (frame.get? "ok") = false → Converts (messageOf frame) = true

theorem stringOf_run (v : Json) (c : GatewayNodeClient) :
    stringOf e v c = if v.toText.isSome then .ok (textOf e v) c else .error "TypeError" c := by
  rw [stringOf, Throwing.ite_run]
  rfl

theorem joined_run (v : Option Json) (c : GatewayNodeClient) :
    joined e v c = if Converts v then .ok (nonceText e v) c else .error "TypeError" c := by
  cases v with
  | none => rfl
  | some v =>
    cases v with
    | null => simp [joined, Converts, Json.toText, nonceText]
    | _ => exact stringOf_run e _ c

theorem responseError_run (frame : Json) (c : GatewayNodeClient) : responseError e frame c =
    if Converts (messageOf frame) then .ok (errorMessage e frame) c else .error "TypeError" c := by
  rw [responseError, errorMessage, messageOf]
  cases hmessage : optGet? (frame.get? "error") "message" with
  | none => simp [Converts]
  | some v =>
    cases v with
    | null => simp [Converts, Json.toText]
    | _ => exact stringOf_run e _ c

theorem handleChallenge_sent {c : GatewayNodeClient} (h : c.connectSent = true) (s : Nat) (payload : Option Json)
    (now : TimeValue) : handleChallenge e signs s payload now c = .ok () c := by
  simp [handleChallenge, h]

theorem handleChallenge_answers {c : GatewayNodeClient} (h : c.connectSent = false) {s : Nat} {payload : Option Json}
    {now : TimeValue} (ha : Answerable e signs payload now) :
    handleChallenge e signs s payload now c = .ok () (GatewayNodeClient.handleChallenge e c s payload now) := by
  obtain ⟨v, rfl, hv, hconverts, hsigns⟩ := ha
  simp [handleChallenge, GatewayNodeClient.handleChallenge, h, property, joined_run, hconverts, signPayload, hsigns,
    attempt]

/-- What is not answered throws behind the flag. -/
theorem handleChallenge_throws {c : GatewayNodeClient} (h : c.connectSent = false) {s : Nat} {payload : Option Json}
    {now : TimeValue} (ha : ¬ Answerable e signs payload now) :
    ∃ error, handleChallenge e signs s payload now c = .error error {c with connectSent := true} := by
  have hproperty : (property payload "nonce" : Throwing GatewayNodeClient _) = throw "TypeError" ∨
      ∃ v, payload = some v ∧ v ≠ .null ∧ property payload "nonce" = pure (v.get? "nonce") := by
    cases payload with
    | none => exact .inl rfl
    | some v => cases v <;> first | exact .inl rfl | exact .inr ⟨_, rfl, by simp, rfl⟩
  obtain hthrow | ⟨v, rfl, hv, hget⟩ := hproperty
  · exact ⟨"TypeError", by simp [handleChallenge, h, hthrow]⟩
  · by_cases hconverts : Converts (v.get? "nonce") = true
    · have hsigns : signs (authPayload e (nonceText e (v.get? "nonce")) now) = false :=
        Bool.eq_false_iff.mpr fun hsigns => ha ⟨v, rfl, hv, hconverts, hsigns⟩
      exact ⟨"Error", by simp [handleChallenge, h, hget, joined_run, hconverts, signPayload, hsigns]⟩
    · exact ⟨"TypeError", by simp [handleChallenge, h, hget, joined_run, hconverts]⟩

theorem answer_run (c : GatewayNodeClient) {id : String} {waiter : Waiter} {frame : Json} :
    answer e id waiter frame c =
      if optTruthy (frame.get? "ok") = true ∨ Converts (messageOf frame) = true then
        .ok () (resume e (c.conclude id (responseOutcome e frame)) waiter (responseOutcome e frame))
      else .error "TypeError" {c with pending := c.pending.delete id} := by
  by_cases hok : optTruthy (frame.get? "ok") = true
  · simp [answer, hok, responseOutcome, conclude]
  · by_cases hconverts : Converts (messageOf frame) = true
    · simp [answer, hok, hconverts, responseOutcome, conclude, responseError_run]
    · simp [answer, hok, hconverts, responseError_run]

/-- What a frame does. -/
inductive Received (c : GatewayNodeClient) (s : Nat) (frame : Json) (now : TimeValue) :
    EStateM.Result String GatewayNodeClient Unit → Prop where
  | handled : Handles e signs c frame now →
      Received c s frame now (.ok () (GatewayNodeClient.onMessage e c s (some frame) now))
  | refused {error} : frame = .null → Received c s frame now (.error error c)
  | unanswerable {error} : IsChallenge frame → c.connectSent = false → ¬ Answerable e signs (frame.get? "payload") now →
      Received c s frame now (.error error {c with connectSent := true})
  | unreadable {id waiter error} : responds? frame = some id → c.pending.get? id = some waiter →
      optTruthy (frame.get? "ok") = false → Converts (messageOf frame) = false →
      Received c s frame now (.error error {c with pending := c.pending.delete id})

/-- A frame that is neither a challenge nor the response of a promise is handled. -/
theorem handles_other {c : GatewayNodeClient} {frame : Json} {now : TimeValue} (hc : ¬ IsChallenge frame)
    (hr : ∀ id waiter, responds? frame = some id → c.pending.get? id ≠ some waiter) : Handles e signs c frame now :=
  ⟨fun h => absurd h hc, fun id waiter hid hw => absurd hw (hr id waiter hid)⟩

theorem not_challenge {frame : Json} (h : frame.get? "type" = some (.str "res")) : ¬ IsChallenge frame := by
  intro hc
  have heq := h.symm.trans hc.1
  simp at heq

theorem onMessage_res (c : GatewayNodeClient) (s : Nat) {frame : Json} (now : TimeValue)
    (htype : frame.get? "type" = some (.str "res")) :
    GatewayNodeClient.onMessage e c s (some frame) now = GatewayNodeClient.handleResponse e c frame := by
  simp only [GatewayNodeClient.onMessage, GatewayNodeClient.handleFrame, htype]

theorem handleResponse_received (c : GatewayNodeClient) (s : Nat) {frame : Json} (now : TimeValue)
    (htype : frame.get? "type" = some (.str "res")) :
    Received e signs c s frame now (handleResponse e frame c) := by
  have hmessage := onMessage_res e c s now htype
  by_cases hwaits : ∃ id waiter, responds? frame = some id ∧ c.pending.get? id = some waiter
  · obtain ⟨id, waiter, hid, hw⟩ := hwaits
    have hmember : frame.get? "id" = some (.str id) := by
      rw [responds?_response htype] at hid
      split at hid
      · next heq => rw [heq, Option.some.inj hid]
      · cases hid
    have hrun : handleResponse e frame c = answer e id waiter frame c := by simp [handleResponse, hmember, hw]
    rw [hrun, answer_run]
    split
    · next hfine =>
      rw [← @onMessage_response e c s frame now id waiter hid hw]
      refine .handled ⟨fun hc => absurd hc (not_challenge htype), fun _ _ _ _ hok => ?_⟩
      exact hfine.resolve_left (by simp [hok])
    · next hthrows =>
      obtain ⟨hok, hconverts⟩ := not_or.mp hthrows
      exact .unreadable hid hw (Bool.eq_false_iff.mpr hok) (Bool.eq_false_iff.mpr hconverts)
  · have hnone : ∀ id waiter, responds? frame = some id → c.pending.get? id ≠ some waiter :=
      fun id waiter hid hw => hwaits ⟨id, waiter, hid, hw⟩
    have hrun : handleResponse e frame c = .ok () (GatewayNodeClient.handleResponse e c frame) := by
      rw [responds?_response htype] at hnone
      cases hid : frame.get? "id" with
      | none => simp [handleResponse, GatewayNodeClient.handleResponse, hid]
      | some v =>
        cases v with
        | str id =>
          rw [hid] at hnone
          have hw : c.pending.get? id = none := Option.eq_none_iff_forall_ne_some.mpr fun waiter => hnone id waiter rfl
          simp [handleResponse, GatewayNodeClient.handleResponse, hid, hw]
        | _ => simp [handleResponse, GatewayNodeClient.handleResponse, hid]
    rw [hrun, ← hmessage]
    exact .handled (handles_other e signs (not_challenge htype) hnone)

theorem handleChallenge_received {c : GatewayNodeClient} {s : Nat} {frame : Json} {now : TimeValue}
    (hc : IsChallenge frame) :
    Received e signs c s frame now (handleChallenge e signs s (frame.get? "payload") now c) := by
  have hmessage : GatewayNodeClient.onMessage e c s (some frame) now =
      GatewayNodeClient.handleChallenge e c s (frame.get? "payload") now := onMessage_challenge hc
  have hresponds : responds? frame = none := by simp [responds?, hc.1]
  have hresponse : ∀ id waiter, responds? frame = some id → c.pending.get? id = some waiter →
      optTruthy (frame.get? "ok") = false → Converts (messageOf frame) = true := by
    intro id waiter hid
    rw [hresponds] at hid
    cases hid
  by_cases hsent : c.connectSent = true
  · have hsame : GatewayNodeClient.onMessage e c s (some frame) now = c := by
      rw [hmessage]
      simp [GatewayNodeClient.handleChallenge, hsent]
    have hhandled : Received e signs c s frame now (.ok () (GatewayNodeClient.onMessage e c s (some frame) now)) :=
      .handled ⟨fun _ hunsent => absurd (hsent.symm.trans hunsent) (by decide), hresponse⟩
    rw [hsame] at hhandled
    rwa [handleChallenge_sent e signs hsent]
  · have hunsent : c.connectSent = false := Bool.eq_false_iff.mpr hsent
    by_cases ha : Answerable e signs (frame.get? "payload") now
    · rw [handleChallenge_answers e signs hunsent ha, ← hmessage]
      exact .handled ⟨fun _ _ => ha, hresponse⟩
    · obtain ⟨error, hthrows⟩ := handleChallenge_throws e signs hunsent (s := s) ha
      rw [hthrows]
      exact .unanswerable hc hunsent ha

theorem handleEvent_eq {s : Nat} {frame : Json} {now : TimeValue}
    (hc : frame.get? "event" ≠ some (.str "connect.challenge")) : handleEvent e signs s frame now =
      modify fun c => GatewayNodeClient.handleEvent e c s frame now := by
  rw [handleEvent]
  split
  · next hevent => exact absurd hevent hc
  · next hevent => simp only [GatewayNodeClient.handleEvent, hevent]
  · next hinvoke =>
    have hsame : (fun c => GatewayNodeClient.handleEvent e c s frame now) = id := by
      funext c
      rw [GatewayNodeClient.handleEvent]
      split <;> simp_all
    rw [hsame]
    rfl

/-- A frame of another kind does what it did, and does not throw. -/
theorem received_other {c : GatewayNodeClient} {s : Nat} {frame : Json} {now : TimeValue} (hc : ¬ IsChallenge frame)
    (hr : frame.get? "type" ≠ some (.str "res"))
    (hrun : handleFrame e signs s frame now c = .ok () (GatewayNodeClient.handleFrame e c s frame now)) :
    Received e signs c s frame now (handleFrame e signs s frame now c) := by
  rw [hrun]
  refine .handled (handles_other e signs hc fun id waiter hid => ?_)
  simp only [responds?] at hid
  split at hid
  · next htype _ => exact absurd htype hr
  · cases hid

theorem handleFrame_received (c : GatewayNodeClient) (s : Nat) (frame : Json) (now : TimeValue) :
    Received e signs c s frame now (handleFrame e signs s frame now c) := by
  by_cases hnull : frame = .null
  · subst hnull
    exact .refused rfl
  · have hproperty : (property (some frame) "type" : Throwing GatewayNodeClient _) = pure (frame.get? "type") := by
      cases frame <;> first | rfl | exact absurd rfl hnull
    by_cases hres : frame.get? "type" = some (.str "res")
    · have hrun : handleFrame e signs s frame now c = handleResponse e frame c := by
        simp [handleFrame, hproperty, hres]
      rw [hrun]
      exact handleResponse_received e signs c s now hres
    · by_cases hc : IsChallenge frame
      · have hrun : handleFrame e signs s frame now c = handleChallenge e signs s (frame.get? "payload") now c := by
          simp [handleFrame, hproperty, hc.1, handleEvent, hc.2]
        rw [hrun]
        exact handleChallenge_received e signs hc
      · apply received_other e signs hc hres
        by_cases htype : frame.get? "type" = some (.str "event")
        · have hevent := @handleEvent_eq e signs s frame now fun hevent => hc ⟨htype, hevent⟩
          simp [handleFrame, hproperty, htype, hevent, GatewayNodeClient.handleFrame]
        · have hnone : (match frame.get? "type" with
              | some (.str "event") => handleEvent e signs s frame now
              | some (.str "res") => handleResponse e frame
              | _ => pure ()) = pure () := by
            split <;> simp_all
          have hsame : GatewayNodeClient.handleFrame e c s frame now = c := by
            rw [GatewayNodeClient.handleFrame]
            split <;> simp_all
          rw [hsame, handleFrame, hproperty, pure_bind, hnone]
          rfl

/-- `null` throws and changes nothing. -/
theorem handles_null (c : GatewayNodeClient) (now : TimeValue) : Handles e signs c .null now :=
  handles_other e signs (fun h => nomatch h.1) fun _ _ h => nomatch h

/-- A frame that is handled is handled as if nothing could throw. -/
theorem onMessage_handles {c : GatewayNodeClient} {frame : Json} {now : TimeValue} (h : Handles e signs c frame now)
    (s : Nat) : onMessage e signs c s (some frame) now = GatewayNodeClient.onMessage e c s (some frame) now := by
  have hreceived := handleFrame_received e signs c s frame now
  generalize hrun : handleFrame e signs s frame now c = result at hreceived
  simp only [onMessage, received, hrun]
  cases hreceived with
  | handled => rfl
  | refused hnull =>
    subst hnull
    rfl
  | unanswerable hc hunsent ha => exact absurd (h.challenge hc hunsent) ha
  | unreadable hid hw hok hconverts => exact absurd (hconverts.symm.trans (h.response _ _ hid hw hok)) (by decide)

/-- What a throw leaves of the handling of a frame. -/
inductive Thrown (c : GatewayNodeClient) (frame : Json) (now : TimeValue) : GatewayNodeClient → Prop where
  | challenge : IsChallenge frame → c.connectSent = false → ¬ Answerable e signs (frame.get? "payload") now →
      Thrown c frame now {c with connectSent := true}
  | response {id waiter} : responds? frame = some id → c.pending.get? id = some waiter →
      optTruthy (frame.get? "ok") = false → Converts (messageOf frame) = false →
      Thrown c frame now {c with pending := c.pending.delete id}

/-- A step whose frame, if any, is handled to its end. -/
def Finishes (c : GatewayNodeClient) : Label → Prop
  | .message _ (some frame) now => Handles e signs c frame now
  | _ => True

/-- The client's runs. -/
def client : System GatewayNodeClient Label where
  init := (· = new)
  step := Step e signs

variable {e signs} {c c' : GatewayNodeClient} {l : Label}

theorem step_message {s : Nat} {frame : Option Json} {now : TimeValue} (h : Step e signs c (.message s frame now) c') :
    c' = onMessage e signs c s frame now := by
  cases h with
  | message => rfl
  | other hl => exact absurd rfl (hl s frame now)

/-- A step is one in which nothing is thrown, or the rest of one. -/
theorem Step.cases (h : Step e signs c l c') : GatewayNodeClient.Step e c l c' ∧ Finishes e signs c l ∨
    ∃ s frame now, l = .message s (some frame) now ∧ Thrown e signs c frame now c' := by
  cases h with
  | other hl h =>
    refine .inl ⟨h, ?_⟩
    cases l with
    | message s frame now => exact absurd rfl (hl s frame now)
    | _ => trivial
  | @message s frame now hs =>
    cases frame with
    | none => exact .inl ⟨.message hs, trivial⟩
    | some frame =>
      have hreceived := handleFrame_received e signs c s frame now
      generalize hrun : handleFrame e signs s frame now c = result at hreceived
      simp only [onMessage, received, hrun]
      cases hreceived with
      | handled hhandles => exact .inl ⟨.message hs, hhandles⟩
      | refused hnull =>
        subst hnull
        exact .inl ⟨.message hs, handles_null e signs c now⟩
      | unanswerable hc hunsent ha => exact .inr ⟨s, frame, now, rfl, .challenge hc hunsent ha⟩
      | unreadable hid hw hok hconverts => exact .inr ⟨s, frame, now, rfl, .response hid hw hok hconverts⟩

/-- Where nothing is thrown the step is one of this client. -/
theorem Step.of_handles (h : GatewayNodeClient.Step e c l c') (hfinishes : Finishes e signs c l) : Step e signs c l c' := by
  cases h with
  | @message s frame now hs =>
    cases frame with
    | none => exact .message hs
    | some frame =>
      rw [← onMessage_handles e signs hfinishes s]
      exact .message hs
  | start hzero => exact .other nofun (.start hzero)
  | opened hs => exact .other nofun (.opened hs)
  | error hs => exact .other nofun (.error hs)
  | closing hs => exact .other nofun (.closing hs)
  | closed hs => exact .other nofun (.closed hs)
  | timer htimer => exact .other nofun (.timer htimer)
  | stop => exact .other nofun .stop
  | request => exact .other nofun .request
  | settled hinv hrun => exact .other nofun (.settled hinv hrun)

/-- A throw changes nothing that connects, responses and invokes leave alone. -/
theorem Step.calm (h : Step e signs c l c') : GatewayNodeClient.Step e c l c' ∨
    (∃ s frame now, l = .message s frame now) ∧ ∀ {X : Type} {f : GatewayNodeClient → X}, Undisturbed f → f c' = f c := by
  obtain ⟨h, -⟩ | ⟨s, frame, now, rfl, hthrown⟩ := h.cases
  · exact .inl h
  · refine .inr ⟨⟨s, some frame, now, rfl⟩, fun hf => ?_⟩
    cases hthrown with
    | challenge => exact hf.flag c
    | response => exact hf.fields c _ c.drawn c.invokes c.received c.settled

theorem step_single (h : c.link.Single) (hs : Step e signs c l c') : c'.link.Single := by
  obtain hs | ⟨-, hsame⟩ := hs.calm
  · exact GatewayNodeClient.step_single h hs
  · exact hsame link_undisturbed ▸ h

theorem run_single {ls : List Label} (h : (client e signs).Run ls c) : c.link.Single := by
  apply h.invariant (I := fun _ c => c.link.Single)
  · rintro c rfl
    exact new_single
  · exact fun _ _ _ _ _ => step_single

end

/-! ### Frames that are handled -/

/-- The demo client's keys sign. -/
def keysSign (_ : String) : Bool := true

theorem demoNonce_converts : Converts ((Json.obj [("nonce", .str "n")]).get? "nonce") = true := by
  show (Json.toText (.str "n")).isSome = true
  rw [Json.toText]
  rfl

theorem demoChallenge_handles (c : GatewayNodeClient) : Handles demo keysSign c demoChallenge demoTime := by
  refine ⟨fun _ _ => ⟨.obj [("nonce", .str "n")], rfl, by simp, demoNonce_converts, rfl⟩, fun _ _ hid => ?_⟩
  cases (show responds? demoChallenge = none from rfl).symm.trans hid

theorem demoInvoke_handles (c : GatewayNodeClient) : Handles demo keysSign c demoInvoke demoTime := by
  apply handles_other
  · intro hc
    have heq : "node.invoke.request" = "connect.challenge" := Json.str.inj (Option.some.inj hc.2)
    exact absurd heq (by decide)
  · intro id waiter hid
    cases (show responds? demoInvoke = none from rfl).symm.trans hid

/-- A response without an error message. -/
theorem resFrame_handles (c : GatewayNodeClient) (id : String) (ok : Bool) : Handles demo keysSign c (resFrame id ok) demoTime :=
  ⟨fun hc => absurd hc (not_challenge rfl), fun _ _ _ _ _ => rfl⟩

end Scripted

end GatewayNodeClient
end RtcPlugin.TsNode
