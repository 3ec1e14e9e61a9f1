import RtcPlugin.Node.Gateway

/-! Which gateway input ends the node's process.

Two expressions of the node's own code are not guarded: the handshake follows the
payload of the challenge, and `AcceptCall` slices the call identifier for its log
tag. Everything else returns a result or an error, whatever the bytes. -/
namespace RtcPlugin.Node
open RtcPlugin.Go

/-- The challenge decodes, and has no payload. -/
def MissingPayload (data : List UInt8) : Prop :=
  ∃ ev, unmarshal EventFrame.fields {} (runes data) = some ev ∧ ev.event = "connect.challenge" ∧ ev.payload = none

/-- An accept is to be handled whose call identifier has less than eight bytes. -/
def ShortCallId (command : String) (raw : Option String) : Prop :=
  command = "rtc.call.accept" ∧ ∃ p, unmarshalParams AcceptCallParams.fields {} raw = some p ∧ p.callId.utf8ByteSize < 8

/-- A local description that was set can be read. -/
def Outcome.Described (o : Outcome) : Prop := o.failure = none → o.localDescription.isSome = true

theorem readChallenge_isOk (data : List UInt8) : (readChallenge data).isOk = true ↔ ¬ MissingPayload data := by
  unfold readChallenge MissingPayload
  cases hev : unmarshal EventFrame.fields {} (runes data) with
  | none => simp
  | some ev =>
    by_cases hname : ev.event = "connect.challenge"
    · simp only [hname]
      rw [if_neg (by simp), isOk_bind, isOk_deref]
      · cases hp : ev.payload <;> simp [hname, hp]
      · intro payload
        split <;> rfl
    · simp [hname]

/-- Once its tag is sliced, an accept returns. -/
theorem acceptCall_isOk {o : Outcome} (ho : o.Described) (params : AcceptCallParams) :
    (acceptCall params o).isOk = true ↔ 8 ≤ params.callId.utf8ByteSize := by
  unfold acceptCall
  rw [isOk_bind, isOk_slicePrefix, decide_eq_true_iff]
  intro tag
  cases hf : o.failure with
  | some f => rfl
  | none =>
    show (deref o.localDescription >>= _).isOk = true
    rw [isOk_bind (fun _ => rfl), isOk_deref]
    exact ho hf

theorem closePeer_isOk (callId : String) (o : Outcome) : (closePeer callId o).isOk = true := by
  unfold closePeer
  split
  · rfl
  · rw [isOk_bind (fun _ => rfl)]
    exact isOk_slicePrefix_min callId 8

theorem handleCommand_isOk {o : Outcome} (ho : o.Described) (command : String) (raw : Option String) :
    (handleCommand command raw o).isOk = true ↔ ¬ ShortCallId command raw := by
  unfold handleCommand ShortCallId
  by_cases hc : command = "rtc.call.accept"
  · rw [if_pos hc]
    cases hp : unmarshalParams AcceptCallParams.fields {} raw with
    | none => simp
    | some p =>
      show (acceptCall p o >>= _).isOk = true ↔ _
      rw [isOk_bind (fun _ => rfl), acceptCall_isOk ho]
      simp [hc]
  · simp only [hc, false_and, not_false_eq_true, iff_true, if_false]
    split
    · split <;> rfl
    · split
      · split
        · rfl
        · show (closePeer _ o >>= _).isOk = true
          rw [isOk_bind (fun _ => rfl), closePeer_isOk]
      · rfl

theorem handleInvokeRequest_isOk {o : Outcome} (ho : o.Described) (deviceId : String) (raw : Json) :
    (handleInvokeRequest deviceId raw o).isOk = true ↔
      ∀ req, invokeRequest raw = some req →
        ¬ ShortCallId req.command (if req.paramsJSON ≠ "" then some req.paramsJSON else none) := by
  unfold handleInvokeRequest
  cases hreq : invokeRequest raw with
  | none => simp
  | some req =>
    show (handleCommand _ _ o >>= _).isOk = true ↔ _
    rw [isOk_bind (fun _ => rfl), handleCommand_isOk ho]
    simp

namespace Process

/-- The condition on one step: the challenge, where one is read, has a payload, and
an accept that is handled names its call with at least eight bytes. -/
def Guarded (n : Process) : Label → Prop
  | .message data => n.phase = .challenge → ¬ MissingPayload data
  | .readError => True
  | .handle k _ => ∀ raw req, n.invokes[k]? = some raw → invokeRequest raw = some req →
      ¬ ShortCallId req.command (if req.paramsJSON ≠ "" then some req.paramsJSON else none)

def Label.Described : Label → Prop
  | .handle _ o => o.Described
  | .message _ | .readError => True

theorem receive_crashed {n : Process} (hrun : n.crashed = none) (data : List UInt8) :
    (n.receive data).crashed = none ↔ n.Guarded (.message data) := by
  unfold receive Guarded
  cases hphase : n.phase with
  | challenge =>
    have hok := readChallenge_isOk data
    cases hread : readChallenge data with
    | error panic => simpa [hread] using hok
    | ok result =>
      rw [hread] at hok
      cases result <;> simpa [hrun] using hok
  | response =>
    cases readConnectResponse data <;> simp [hrun]
  | reading => simp [hrun]
  | ended e => simp [hrun]

theorem readFails_crashed {n : Process} (hrun : n.crashed = none) : n.readFails.crashed = none := by
  unfold readFails
  split <;> exact hrun

theorem handle_crashed {n : Process} (hrun : n.crashed = none) {o : Outcome} (ho : o.Described) {k : Nat} {raw : Json}
    (hk : n.invokes[k]? = some raw) : (n.handle k raw o).crashed = none ↔ n.Guarded (.handle k o) := by
  have hok := handleInvokeRequest_isOk ho n.deviceId raw
  have hguard : n.Guarded (.handle k o) ↔ (handleInvokeRequest n.deviceId raw o).isOk = true := by
    rw [hok]
    unfold Guarded
    constructor
    · intro h req hreq
      exact h raw req hk hreq
    · intro h raw' req hk' hreq
      obtain rfl := Option.some.inj (hk.symm.trans hk')
      exact h req hreq
  rw [hguard]
  unfold handle
  cases handleInvokeRequest n.deviceId raw o <;> simp [hrun]

/-- A step leaves the process running exactly where it is guarded. -/
theorem step_guarded {n n' : Process} {l : Label} (hd : l.Described) (h : Step n l n') :
    n'.crashed = none ↔ n.Guarded l := by
  cases h with
  | message hrun => exact receive_crashed hrun _
  | readError hrun => exact iff_of_true (readFails_crashed hrun) trivial
  | handle hrun hk => exact handle_crashed hrun hd hk

theorem step_running {n n' : Process} {l : Label} (h : Step n l n') : n.crashed = none := by
  cases h <;> assumption

theorem guarded_running {deviceId : String} {ls : List Label} {n : Process} (hlib : ∀ l ∈ ls, l.Described)
    (h : ((system deviceId).restrict Guarded).Run ls n) : n.crashed = none := by
  have hI : (∀ l ∈ ls, l.Described) → n.crashed = none := by
    refine h.invariant (I := fun ls n => (∀ l ∈ ls, l.Described) → n.crashed = none) ?_ ?_
    · intro n hn _
      obtain rfl : n = start deviceId := hn
      rfl
    · intro ls n l n' _ _ hstep hlib
      have hl : l.Described := hlib l (List.mem_append_right _ (List.mem_singleton_self l))
      exact (step_guarded hl hstep.1).mpr hstep.2
  exact hI hlib

/-- A running process has stopped at no step before. -/
theorem running_guarded {deviceId : String} {ls : List Label} {n : Process} (hlib : ∀ l ∈ ls, l.Described)
    (h : (system deviceId).Run ls n) (hn : n.crashed = none) : ((system deviceId).restrict Guarded).Run ls n := by
  have hI : (∀ l ∈ ls, l.Described) → n.crashed = none → ((system deviceId).restrict Guarded).Run ls n := by
    refine h.invariant (I := fun ls n => (∀ l ∈ ls, l.Described) → n.crashed = none →
      ((system deviceId).restrict Guarded).Run ls n) ?_ ?_
    · intro n hinit _ _
      exact .nil hinit
    · intro ls n l n' _ ih hstep hlib hn'
      have hl : l.Described := hlib l (List.mem_append_right _ (List.mem_singleton_self l))
      have hbefore := ih (fun l' hl' => hlib l' (List.mem_append_left _ hl')) (step_running hstep)
      exact hbefore.snoc ⟨hstep, (step_guarded hl hstep).mp hn'⟩
  exact hI hlib hn

/-- **The process survives exactly the runs whose steps are guarded**, whatever bytes
the gateway sends and in whatever order the invokes run. -/
theorem crash_free {deviceId : String} {ls : List Label} {n : Process} (hlib : ∀ l ∈ ls, l.Described)
    (h : (system deviceId).Run ls n) : n.crashed = none ↔ ((system deviceId).restrict Guarded).Run ls n :=
  ⟨running_guarded hlib h, guarded_running hlib⟩

/-! ### The handshake and one accept -/

def bytes (text : String) : List UInt8 := text.toUTF8.toList

def challengeFrame : List UInt8 :=
  bytes "\x7b\"type\":\"event\",\"event\":\"connect.challenge\",\"payload\":\x7b\"nonce\":\"n\"\x7d\x7d"

def bareChallengeFrame : List UInt8 := bytes "\x7b\"type\":\"event\",\"event\":\"connect.challenge\"\x7d"

def consentFrame : List UInt8 := bytes "\x7b\"type\":\"res\",\"id\":\"1\",\"ok\":true\x7d"

/-- An accept with the given params. -/
def acceptFrame (paramsJSON : String) : List UInt8 :=
  bytes ("\x7b\"type\":\"event\",\"event\":\"node.invoke.request\",\"payload\":\x7b\"id\":\"i\"," ++
    "\"command\":\"rtc.call.accept\",\"paramsJSON\":\"" ++ paramsJSON ++ "\"\x7d\x7d")

def acceptedOutcome : Outcome := ⟨"", none, some "v=0", [], false, none⟩

/-- The process once the accept's goroutine is to run. -/
def accepting (paramsJSON : String) : Process :=
  (((start "node").receive challengeFrame).receive consentFrame).receive (acceptFrame paramsJSON)

def acceptLabels (paramsJSON : String) : List Label :=
  [.message challengeFrame, .message consentFrame, .message (acceptFrame paramsJSON), .handle 0 acceptedOutcome]

theorem acceptLabels_described (paramsJSON : String) : ∀ l ∈ acceptLabels paramsJSON, l.Described := by
  simp [acceptLabels, Label.Described, Outcome.Described, acceptedOutcome]

theorem accepting_run (paramsJSON : String) (h : (accepting paramsJSON).crashed = none)
    (hraw : (accepting paramsJSON).invokes[0]?.isSome = true) :
    (system "node").Run (acceptLabels paramsJSON)
      ((accepting paramsJSON).handle 0 ((accepting paramsJSON).invokes[0]?.get hraw) acceptedOutcome) := by
  have h₀ : (system "node").Run [] (start "node") := .nil rfl
  have h₁ := h₀.snoc (show Step _ (.message challengeFrame) _ from .message rfl)
  have h₂ := h₁.snoc (show Step _ (.message consentFrame) _ from .message (by decide +kernel))
  have h₃ := h₂.snoc (show Step _ (.message (acceptFrame paramsJSON)) _ from .message (by decide +kernel))
  exact h₃.snoc (.handle h (Option.some_get hraw).symm)

def longParams : String := "\x7b\\\"callId\\\":\\\"call-0001\\\"\x7d"

/-- An accept whose call identifier is long enough for the tag. -/
theorem crash_free_accept : ∃ n, (n.crashed = none ↔
    ((system "node").restrict Guarded).Run (acceptLabels longParams) n) ∧ n.crashed = none :=
  have hrun := accepting_run longParams (by decide +kernel) (by decide +kernel)
  ⟨_, crash_free (acceptLabels_described longParams) hrun, by decide +kernel⟩

/-- A challenge without a payload, and an accept without a call identifier. -/
theorem gateway_input_panics :
    (¬ ∀ deviceId ls n, (∀ l ∈ ls, l.Described) → (system deviceId).Run ls n → n.crashed ≠ some .nilDereference) ∧
      ¬ ∀ deviceId ls n, (∀ l ∈ ls, l.Described) → (system deviceId).Run ls n → n.crashed ≠ some .sliceBounds := by
  constructor
  · intro hall
    have h₀ : (system "node").Run [] (start "node") := .nil rfl
    have h₁ := h₀.snoc (show Step _ (.message bareChallengeFrame) _ from .message rfl)
    exact hall _ _ _ (by simp [Label.Described]) h₁ (by decide +kernel)
  · intro hall
    have hrun := accepting_run "\x7b\x7d" (by decide +kernel) (by decide +kernel)
    exact hall _ _ _ (acceptLabels_described _) hrun (by decide +kernel)

end Process
end RtcPlugin.Node
