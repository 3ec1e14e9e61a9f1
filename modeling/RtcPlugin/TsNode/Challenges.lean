import RtcPlugin.TsNode.Throws

/-! What a bad challenge leaves behind.

A connection survives a challenge that it can answer on an open socket, and a refusal
whose message it can read; `challenge_law` says that these are all the frames it needs
to be spared. -/
namespace RtcPlugin.TsNode
open Auth (TimeValue)

/-! ### The connects -/

def Waiter.isConnect : Waiter → Bool
  | .connect _ => true
  | _ => false

/-- What the connects of a client depend on. -/
structure Board where
  link : Link
  connectSent : Bool
  /-- The connect requests that went out. -/
  frames : List Sent

namespace Board

def connects (b : Board) (s : Nat) : List Sent := b.frames.filter (·.socket = s)

/-- At most one connect goes out on a socket, and `connectSent` says whether one did on
the last. -/
structure Tidy (b : Board) : Prop where
  live : ∀ s, b.link.sockets s = .open ∨ b.link.sockets s = .connecting → b.link.ws = some s
  last : ∀ s, b.link.ws = some s → s + 1 = b.link.created
  once : ∀ s, (b.connects s).length ≤ 1
  below : ∀ s, b.link.created ≤ s → b.connects s = []
  unsent : b.connectSent = false → ∀ s, s + 1 = b.link.created → b.connects s = []
  backed : b.connectSent = true → ∃ s, s + 1 = b.link.created ∧ b.connects s ≠ []

/-- The socket was lost, or never came to be. -/
theorem Tidy.relink {b : Board} (h : b.Tidy) (k : Link) (hcreated : k.created = b.link.created)
    (hlive : ∀ s, k.sockets s = .open ∨ k.sockets s = .connecting → k.ws = some s)
    (hws : ∀ s, k.ws = some s → b.link.ws = some s) : Tidy {b with link := k} where
  live := hlive
  last := fun s hs => (h.last s (hws s hs)).trans hcreated.symm
  once := h.once
  below := fun s hs => h.below s (hcreated ▸ hs)
  unsent := fun hsent s hs => h.unsent hsent s (hs.trans hcreated)
  backed := fun hsent => by
    obtain ⟨s, hs, hne⟩ := h.backed hsent
    exact ⟨s, hs.trans hcreated.symm, hne⟩

/-- A connect on the last socket, which had none. -/
theorem Tidy.connect {b : Board} (h : b.Tidy) {w : Nat} (hw : b.link.ws = some w) (hunsent : b.connectSent = false)
    {m : Sent} (hm : m.socket = w) : Tidy {b with connectSent := true, frames := b.frames ++ [m]} := by
  have hlast := h.last w hw
  have hself : connects {b with connectSent := true, frames := b.frames ++ [m]} w = [m] := by
    show (b.frames ++ [m]).filter (·.socket = w) = [m]
    rw [List.filter_append, show b.frames.filter (·.socket = w) = [] from h.unsent hunsent w hlast]
    simp [hm]
  have hother : ∀ s, s ≠ w → connects {b with connectSent := true, frames := b.frames ++ [m]} s = b.connects s := by
    intro s hs
    show (b.frames ++ [m]).filter (·.socket = s) = b.frames.filter (·.socket = s)
    simp [List.filter_append, hm, Ne.symm hs]
  refine ⟨h.live, h.last, fun s => ?_, fun s hs => ?_, (nomatch ·), fun _ => ⟨w, hlast, by simp [hself]⟩⟩
  · by_cases hs : s = w
    · simp [hs, hself]
    · rw [hother s hs]
      exact h.once s
  · have hs : b.link.created ≤ s := hs
    rw [hother s (by omega)]
    exact h.below s hs

end Board

namespace GatewayNodeClient

def board (c : GatewayNodeClient) : Board := ⟨c.link, c.connectSent, c.sent.filter (·.sender.isConnect)⟩

theorem board_steady : Steady board where
  fields _ _ _ _ _ _ := rfl
  sent c m hm := by
    have hfilter : m.sender.isConnect = false := by
      cases hsender : m.sender with
      | connect s => exact absurd hsender (hm s)
      | _ => rfl
    simp [board, link, hfilter]

theorem new_tidy : new.board.Tidy where
  live := by simp [new, board, link]
  last := by simp [new, board, link]
  once := by simp [new, board, Board.connects]
  below := by simp [new, board, Board.connects]
  unsent := by simp [new, board, Board.connects]
  backed := by simp [new, board]

section
variable {e : Setup} {c c' : GatewayNodeClient}

theorem setReadyState_tidy {s : Nat} {state : ReadyState} (h : c.board.Tidy) (hws : state = .open → c.ws = some s)
    (hstate : state ≠ .connecting) : (c.setReadyState s state).board.Tidy := by
  refine h.relink (c.setReadyState s state).link rfl (fun s' hs' => ?_) fun _ hs => hs
  by_cases hss : s' = s
  · subst hss
    have hself : (c.setReadyState s' state).link.sockets s' = state := Function.update_self ..
    rw [hself] at hs'
    exact hws (hs'.resolve_right hstate)
  · have hother : (c.setReadyState s state).link.sockets s' = c.sockets s' := Function.update_of_ne hss ..
    rw [hother] at hs'
    exact h.live s' hs'

theorem start_tidy (h : c.board.Tidy) (hws : c.ws = none) : c.start.board.Tidy := by
  unfold start
  split
  · exact h
  · refine ⟨fun s hs => ?_, fun s hs => ?_, h.once, fun s hs => ?_, fun _ s hs => ?_, fun hsent => nomatch hsent⟩
    · by_cases hsc : s = c.created
      · exact congrArg some hsc.symm
      · have hold : c.sockets s = .open ∨ c.sockets s = .connecting := by
          simpa [board, link, setReadyState, Function.update_of_ne hsc] using hs
        exact absurd ((h.live s hold).symm.trans hws) (Option.some_ne_none s)
    · obtain rfl := Option.some.inj hs
      rfl
    · exact h.below s (Nat.le_of_succ_le hs)
    · exact h.below s (Nat.le_of_eq (Nat.succ.inj hs).symm)

/-- Without `ws` no socket is live. -/
theorem lost_tidy (h : c.board.Tidy) (k : Link) (hcreated : k.created = c.created) (hws : k.ws = none)
    (hdead : ∀ s, k.sockets s ≠ .open ∧ k.sockets s ≠ .connecting) : Board.Tidy {c.board with link := k} :=
  h.relink k hcreated (fun s hs => absurd hs (not_or.mpr (hdead s))) fun s hs => absurd (hws.symm.trans hs)
    (Option.some_ne_none s).symm

theorem onClose_tidy {s : Nat} (h : c.board.Tidy) (hl : c.link.Single) (hs : c.sockets s ≠ .closed) (code : Nat) :
    (onClose e c s code).board.Tidy := by
  have hboard : (onClose e c s code).board = {c.board with link := (onClose e c s code).link} := by
    rw [onClose_eq]
    unfold scheduleReconnect
    split <;> rfl
  have hsockets : (onClose e c s code).sockets = Function.update c.sockets s .closed := by
    rw [onClose_eq]
    unfold scheduleReconnect
    split <;> rfl
  rw [hboard]
  refine lost_tidy h _ (onClose_created e c s code) (onClose_ws e c s code) fun s' => ?_
  show (onClose e c s code).sockets s' ≠ .open ∧ (onClose e c s code).sockets s' ≠ .connecting
  rw [hsockets]
  by_cases hss : s' = s
  · simp [hss]
  · rw [Function.update_of_ne hss]
    -- a live socket would be `ws`, as `s` is
    refine not_or.mp fun hlive => ?_
    have hws : c.ws = some s' := h.live s' hlive
    obtain heq | hclosed := hl.only s hs
    · exact hss (Option.some.inj (hws.symm.trans heq))
    · exact absurd ((hl.stopped hclosed).1.symm.trans hws) (Option.some_ne_none s').symm

theorem dropSocket_dead (h : ∀ s, c.sockets s = .open ∨ c.sockets s = .connecting → c.ws = some s) (s : Nat) :
    c.dropSocket.sockets s ≠ .open ∧ c.dropSocket.sockets s ≠ .connecting := by
  refine not_or.mp fun hlive => ?_
  cases hws : c.ws with
  | none =>
    have hsame : c.dropSocket.sockets s = c.sockets s := by simp [dropSocket, hws]
    rw [hsame] at hlive
    exact absurd (hws.symm.trans (h s hlive)) (Option.some_ne_none s).symm
  | some w =>
    have hdrop : c.dropSocket.sockets = Function.update c.sockets w (if c.sockets w = .closed then .closed else .closing) := by
      simp [dropSocket, hws, setReadyState]
    rw [hdrop] at hlive
    by_cases hsw : s = w
    · rw [hsw, Function.update_self] at hlive
      split at hlive <;> simp at hlive
    · rw [Function.update_of_ne hsw] at hlive
      exact hsw (Option.some.inj ((h s hlive).symm.trans hws))

theorem stop_tidy (h : c.board.Tidy) : (stop e c).board.Tidy := by
  have hboard : (stop e c).board = {c.board with link := (stop e c).link} := by
    have htraffic : (stop e c).sent = c.sent := congrArg Traffic.sent (stop_traffic e c)
    have hsent : (stop e c).connectSent = c.connectSent := by
      rw [stop_eq]
      show ({c with closed := true}.clearReconnect.dropSocket).connectSent = _
      unfold dropSocket clearReconnect
      split <;> split <;> rfl
    rw [board, board, htraffic, hsent]
  rw [hboard]
  refine lost_tidy h _ (congrArg Link.created (stop_link e c)) (congrArg Link.ws (stop_link e c)) fun s => ?_
  have hsockets := congrFun (congrArg Link.sockets (stop_link e c)) s
  have hclear := clearReconnect_link {c with closed := true}
  rw [hsockets]
  refine dropSocket_dead (c := {c with closed := true}.clearReconnect) (fun s hlive => ?_) s
  have hsame : {c with closed := true}.clearReconnect.sockets = c.sockets := congrArg Link.sockets hclear
  have hws : {c with closed := true}.clearReconnect.ws = c.ws := congrArg Link.ws hclear
  rw [hsame] at hlive
  exact hws.trans (h.live s hlive)

/-! ### One event -/

/-- A challenge that is read finds the socket open, if none was answered before. -/
def Heard (c : GatewayNodeClient) : Label → Prop
  | .message _ (some frame) _ => IsChallenge frame → c.connectSent = false →
      (∃ v, frame.get? "payload" = some v ∧ v ≠ .null) ∧ c.current.isSome = true
  | _ => True

/-- The first challenge that is read asks for the connect. -/
theorem handleChallenge_eq {s : Nat} {v : Json} {now : TimeValue} (hunsent : c.connectSent = false) (hv : v ≠ .null) :
    handleChallenge e c s (some v) now = attempt e {c with connectSent := true} (.connect s) "connect"
      (.connect (connectParams e (v.get? "nonce") now)) := by
  unfold handleChallenge
  rw [if_neg (by simp [hunsent])]
  split
  · next hnone => cases hnone
  · next hnull => exact absurd (Option.some.inj hnull) hv
  · next hsome =>
    obtain rfl := Option.some.inj hsome
    rfl

theorem issue_board (c : GatewayNodeClient) (w s : Nat) (method : String) (params : Params) :
    (issue e c w (.connect s) method params).board =
      {c.board with frames := c.board.frames ++ [⟨w, .connect s, ⟨e.randomUUID c.drawn, method, params⟩⟩]} := by
  simp [board, issue, link, Waiter.isConnect]

theorem message_tidy {s : Nat} {frame : Json} {now : TimeValue} (h : c.board.Tidy)
    (hheard : Heard c (.message s (some frame) now)) : (onMessage e c s (some frame) now).board.Tidy := by
  by_cases hc : IsChallenge frame
  · rw [onMessage_challenge hc]
    by_cases hsent : c.connectSent = true
    · have hsame : handleChallenge e c s (frame.get? "payload") now = c := by simp [handleChallenge, hsent]
      rw [hsame]
      exact h
    · have hunsent : c.connectSent = false := Bool.eq_false_iff.mpr hsent
      obtain ⟨⟨v, hpayload, hv⟩, hcurrent⟩ := hheard hc hunsent
      obtain ⟨w, hw⟩ := Option.isSome_iff_exists.mp hcurrent
      have hw' : current {c with connectSent := true} = some w := hw
      rw [hpayload, handleChallenge_eq hunsent hv, attempt_some e hw']
      rw [issue_board]
      exact h.connect (current_eq.mp hw).1 hunsent rfl
  · rw [onMessage_other board_steady hc]
    exact h

/-- What a challenge does, the payload aside. -/
theorem handleChallenge_cases (e : Setup) (c : GatewayNodeClient) (s : Nat) (payload : Option Json) (now : TimeValue) :
    c.connectSent = true ∧ handleChallenge e c s payload now = c ∨
      handleChallenge e c s payload now = {c with connectSent := true} ∨
      ∃ w params, handleChallenge e c s payload now =
        issue e {c with connectSent := true} w (.connect s) "connect" (.connect params) := by
  unfold handleChallenge
  split
  · next hsent => exact .inl ⟨hsent, rfl⟩
  · split
    · exact .inr (.inl rfl)
    · exact .inr (.inl rfl)
    · next v _ =>
      obtain ⟨-, heq⟩ | ⟨w, -, heq⟩ := attempt_cases e {c with connectSent := true} (.connect s) "connect"
        (.connect (connectParams e (v.get? "nonce") now))
      · exact .inr (.inl heq)
      · exact .inr (.inr ⟨w, _, heq⟩)

/-- Every challenge leaves the flag set. -/
theorem challenge_sent {s : Nat} {frame : Json} {now : TimeValue} (hc : IsChallenge frame) :
    (onMessage e c s (some frame) now).connectSent = true := by
  rw [onMessage_challenge hc]
  obtain ⟨hsent, heq⟩ | heq | ⟨w, params, heq⟩ := handleChallenge_cases e c s (frame.get? "payload") now
  · rw [heq, hsent]
  · rw [heq]
  · rw [heq]
    rfl

theorem prefix_of_board (h : c'.board.frames = c.board.frames) : c.board.frames <+: c'.board.frames :=
  h ▸ List.prefix_rfl

theorem handleChallenge_frames (c : GatewayNodeClient) (s : Nat) (payload : Option Json) (now : TimeValue) :
    c.board.frames <+: (handleChallenge e c s payload now).board.frames := by
  obtain ⟨-, heq⟩ | heq | ⟨w, params, heq⟩ := handleChallenge_cases e c s payload now
  · exact prefix_of_board (congrArg (fun c => c.board.frames) heq)
  · exact prefix_of_board (congrArg (fun c => c.board.frames) heq)
  · rw [heq, issue_board]
    exact List.prefix_append ..

theorem step_tidy {l : Label} (h : c.board.Tidy) (hl : c.link.Single) (hs : Step e c l c') (hheard : Heard c l) :
    c'.board.Tidy := by
  cases hs with
  | start hzero => exact start_tidy h (ws_none_of_zero hl hzero)
  | opened hs => exact setReadyState_tidy h (fun _ => h.live _ (.inr hs)) (by decide)
  | @message s frame now =>
    cases frame with
    | none => exact h
    | some frame => exact message_tidy h hheard
  | error => exact h
  | closing => exact setReadyState_tidy h (fun hstate => nomatch hstate) (by decide)
  | closed hs => exact onClose_tidy h hl hs _
  | @timer handle delay htimer =>
    have hfired : board {c with timers := c.timers.filter (·.1 ≠ handle), reconnectTimer := none} =
      {c.board with link := {c.link with timers := c.timers.filter (·.1 ≠ handle), reconnectTimer := none}} := rfl
    refine start_tidy ?_ (show c.ws = none from ws_none_of_timer hl htimer)
    rw [hfired]
    exact h.relink _ rfl h.live fun _ hs => hs
  | stop => exact stop_tidy h
  | request => exact (caller_steady e board_steady ..).symm ▸ h
  | settled => exact (onInvokeSettled_steady e board_steady ..).symm ▸ h

/-- The connects that went out stay. -/
theorem step_frames {l : Label} (hs : Step e c l c') : c.board.frames <+: c'.board.frames := by
  have htraffic : c'.traffic = c.traffic → c.board.frames <+: c'.board.frames := by
    intro heq
    exact prefix_of_board (congrArg (fun k => k.sent.filter (·.sender.isConnect)) heq)
  cases hs with
  | start => exact htraffic (start_traffic c)
  | opened | error | closing => exact List.prefix_rfl
  | @message s frame now =>
    cases frame with
    | none => exact List.prefix_rfl
    | some frame =>
      by_cases hc : IsChallenge frame
      · rw [onMessage_challenge hc]
        exact handleChallenge_frames ..
      · exact prefix_of_board (congrArg Board.frames (onMessage_other board_steady hc))
  | closed => exact htraffic (onClose_traffic ..)
  | timer => exact htraffic (start_traffic _)
  | stop => exact htraffic (stop_traffic ..)
  | request => exact prefix_of_board (congrArg Board.frames (caller_steady e board_steady ..))
  | settled => exact prefix_of_board (congrArg Board.frames (onInvokeSettled_steady e board_steady ..))

theorem step_connects {l : Label} (hs : Step e c l c') {s : Nat} (hne : c.board.connects s ≠ []) :
    c'.board.connects s ≠ [] := by
  obtain ⟨more, heq⟩ := (step_frames hs).filter (fun m => decide (m.socket = s))
  intro hnil
  exact hne (List.append_eq_nil_iff.mp (heq.trans hnil)).1

end

/-! ### Every run -/

namespace Scripted

/-- A challenge whose payload has a string for its nonce. -/
def isWellFormed (frame : Json) : Bool :=
  (frame.get? "type").bind Json.asString? == some "event" &&
    (frame.get? "event").bind Json.asString? == some "connect.challenge" &&
    ((optGet? (frame.get? "payload") "nonce").bind Json.asString?).isSome

theorem asString_some {v : Option Json} {s : String} (h : v.bind Json.asString? = some s) : v = some (.str s) := by
  obtain ⟨v, rfl, hv⟩ := Option.bind_eq_some_iff.mp h
  cases v <;> simp [Json.asString?] at hv
  rw [hv]

theorem isWellFormed_challenge {frame : Json} (h : isWellFormed frame = true) : IsChallenge frame := by
  simp only [isWellFormed, Bool.and_eq_true, beq_iff_eq] at h
  exact ⟨asString_some h.1.1, asString_some h.1.2⟩

/-- A client, with the sockets on which a well-formed challenge came while they were open. -/
structure Listener where
  client : GatewayNodeClient
  challenged : List Nat

/-- What an event adds to these sockets. -/
def Listener.notes (t : Listener) : Label → List Nat
  | .message s (some frame) _ => if isWellFormed frame && t.client.sockets s = .open then [s] else []
  | _ => []

/-- A bad challenge has not poisoned the connection. -/
structure Listener.Unpoisoned (t : Listener) : Prop where
  answered : ∀ s ∈ t.challenged, (t.client.board.connects s).length = 1
  backed : t.client.connectSent = true →
    ∃ m ∈ t.client.sent, m.sender.isConnect = true ∧ m.socket + 1 = t.client.created

section
variable (e : Setup) (signs : String → Bool)

def system : System Listener Label where
  init := (· = ⟨new, []⟩)
  step t l t' := Step e signs t.client l t'.client ∧ t'.challenged = t.challenged ++ t.notes l

/-- What throws leaves the flag and the map alone. -/
def Atomic (t : Listener) (l : Label) (t' : Listener) : Prop :=
  ∀ s frame now, l = .message s frame now → Throws e signs t.client s frame now →
    t'.client.connectSent = t.client.connectSent ∧ t'.client.pending = t.client.pending

/-- The condition on one event: the challenge that is to be answered can be, on an open
socket, and the message of a refusal converts. -/
def Sound (t : Listener) : Label → Prop
  | .message _ (some frame) now => Handles e signs t.client frame now ∧
      (IsChallenge frame → t.client.connectSent = false → t.client.current.isSome = true)
  | _ => True

variable {e signs} {t t' : Listener} {l : Label}

/-- A sound event is one of the client that nothing throws in. -/
theorem Sound.step (hs : Step e signs t.client l t'.client) (hsound : Sound e signs t l) :
    GatewayNodeClient.Step e t.client l t'.client := by
  generalize t'.client = c' at hs
  cases hs with
  | @message s frame now hstate =>
    cases frame with
    | none => exact .message hstate
    | some frame =>
      rw [onMessage_handles e signs hsound.1]
      exact .message hstate
  | other _ hs => exact hs

theorem Sound.heard (h : Sound e signs t l) : Heard t.client l := by
  cases l with
  | message s frame now =>
    cases frame with
    | none => trivial
    | some frame =>
      intro hc hunsent
      obtain ⟨v, hpayload, hv, -, -⟩ := h.1.challenge hc hunsent
      exact ⟨⟨v, hpayload, hv⟩, h.2 hc hunsent⟩
  | _ => trivial

/-- What holds along a run of sound events. -/
structure Good (t : Listener) : Prop where
  single : t.client.link.Single
  tidy : t.client.board.Tidy
  answered : ∀ s ∈ t.challenged, t.client.board.connects s ≠ []

theorem Good.unpoisoned (h : Good t) : t.Unpoisoned := by
  refine ⟨fun s hs => ?_, fun hsent => ?_⟩
  · have hone := h.tidy.once s
    have hpos := List.length_pos_iff.mpr (h.answered s hs)
    omega
  · obtain ⟨s, hlast, hne⟩ := h.tidy.backed hsent
    obtain ⟨m, hm⟩ := List.exists_mem_of_ne_nil _ hne
    obtain ⟨hframe, hsocket⟩ := List.mem_filter.mp hm
    obtain ⟨hmem, hconnect⟩ := List.mem_filter.mp hframe
    refine ⟨m, hmem, hconnect, ?_⟩
    rw [of_decide_eq_true hsocket]
    exact hlast

/-- A challenge that came on an open socket was answered on it. -/
theorem answered_new (h : Good t) (hs : (system e signs).step t l t') (hsound : Sound e signs t l)
    (htidy : t'.client.board.Tidy) {s : Nat} (hmem : s ∈ t.notes l) : t'.client.board.connects s ≠ [] := by
  have hstep := Sound.step hs.1 hsound
  generalize t'.client = c' at hstep htidy ⊢
  cases hstep with
  | @message s' frame now hstate =>
    cases frame with
    | none => cases hmem
    | some frame =>
      simp only [Listener.notes] at hmem
      split at hmem
      · next hnoted =>
        simp only [Bool.and_eq_true, decide_eq_true_eq] at hnoted
        obtain rfl := List.mem_singleton.mp hmem
        obtain ⟨w, hlast, hne⟩ := htidy.backed (challenge_sent (isWellFormed_challenge hnoted.1))
        have hlink := onMessage_undisturbed e link_undisturbed t.client s (some frame) now
        have hs : s + 1 = t.client.created := h.tidy.last s (h.tidy.live s (.inl hnoted.2))
        have hw : w + 1 = t.client.created := hlast.trans (congrArg Link.created hlink)
        obtain rfl : w = s := by omega
        exact hne
      · cases hmem
  | _ => cases hmem

theorem step_good (h : Good t) (hs : (system e signs).step t l t') (hsound : Sound e signs t l) : Good t' := by
  have hstep := Sound.step hs.1 hsound
  have htidy := step_tidy h.tidy h.single hstep hsound.heard
  refine ⟨step_single h.single hs.1, htidy, fun s hmem => ?_⟩
  rw [hs.2] at hmem
  obtain hold | hnew := List.mem_append.mp hmem
  · exact step_connects hstep (h.answered s hold)
  · exact answered_new h hs hsound htidy hnew

theorem run_good {ls : List Label} (h : ((system e signs).restrict (Sound e signs)).Run ls t) : Good t := by
  apply h.invariant (I := fun _ t => Good t)
  · intro t ht
    obtain rfl : t = ⟨GatewayNodeClient.new, []⟩ := ht
    exact ⟨new_single, new_tidy, fun s hs => nomatch hs⟩
  · exact fun _ _ _ _ _ hgood hstep => step_good hgood hstep.1 hstep.2

/-! ### Exactly the sound events -/

theorem Sound.atomic (hs : (system e signs).step t l t') (hsound : Sound e signs t l) : Atomic e signs t l t' := by
  intro s frame now hl hthrows
  subst hl
  obtain ⟨error, c', hrun⟩ := hthrows
  have hclient := step_message hs.1
  have hsame : t'.client = t.client := by
    cases frame with
    | none => exact hclient
    | some frame =>
      have hreceived := handleFrame_received e signs t.client s frame now
      have hrun : handleFrame e signs s frame now t.client = .error error c' := hrun
      rw [hclient, onMessage]
      simp only [received]
      rw [hrun] at hreceived ⊢
      cases hreceived with
      | refused => rfl
      | unanswerable hc hunsent ha => exact absurd (hsound.1.challenge hc hunsent) ha
      | unreadable hid hw hok hconverts =>
        exact absurd (hconverts.symm.trans (hsound.1.response _ _ hid hw hok)) (by decide)
  rw [hsame]
  exact ⟨rfl, rfl⟩

/-- The challenge that set the flag found an open socket. -/
theorem open_of_unpoisoned {s : Nat} {frame : Json} {now : TimeValue} (h : Good t) (hu : t'.Unpoisoned)
    (hc : IsChallenge frame) (hunsent : t.client.connectSent = false) (ha : Answerable e signs (frame.get? "payload") now)
    (hclient : t'.client = GatewayNodeClient.onMessage e t.client s (some frame) now) :
    t.client.current.isSome = true := by
  by_contra hnone
  have hcurrent : current {t.client with connectSent := true} = none := Option.not_isSome_iff_eq_none.mp hnone
  obtain ⟨v, hpayload, hv, -, -⟩ := ha
  have hsame : t'.client = {t.client with connectSent := true} := by
    rw [hclient, onMessage_challenge hc, hpayload, handleChallenge_eq hunsent hv, attempt, request, hcurrent]
    rfl
  obtain ⟨m, hm, hconnect, hlast⟩ := hu.backed (by rw [hsame])
  rw [hsame] at hm hlast
  have hmem : m ∈ t.client.board.connects m.socket :=
    List.mem_filter.mpr ⟨List.mem_filter.mpr ⟨hm, hconnect⟩, decide_eq_true rfl⟩
  rw [h.tidy.unsent hunsent m.socket hlast] at hmem
  cases hmem

/-- A next event after which nothing is poisoned was sound. -/
theorem sound_of_unpoisoned (h : Good t) (hs : (system e signs).step t l t') (hu : t'.Unpoisoned)
    (ha : Atomic e signs t l t') : Sound e signs t l := by
  cases l with
  | message s frame now =>
    cases frame with
    | none => trivial
    | some frame =>
      have hclient := step_message hs.1
      have hhandles : Handles e signs t.client frame now := by
        have hreceived := handleFrame_received e signs t.client s frame now
        generalize hrun : handleFrame e signs s frame now t.client = result at hreceived
        cases hreceived with
        | handled hhandles => exact hhandles
        | refused hnull => exact hnull ▸ handles_null e signs t.client now
        | unanswerable hc hunsent =>
          have hkept := (ha s (some frame) now rfl ⟨_, _, hrun⟩).1
          have hset : t'.client.connectSent = true := by simp [hclient, onMessage, received, hrun]
          exact absurd (hset.symm.trans (hkept.trans hunsent)) (by decide)
        | @unreadable id waiter _ _ hw =>
          have hkept := (ha s (some frame) now rfl ⟨_, _, hrun⟩).2
          have hdeleted : t'.client.pending = t.client.pending.delete id := by simp [hclient, onMessage, received, hrun]
          rw [← hkept, hdeleted, KeyMap.get?_delete_self] at hw
          cases hw
      refine ⟨hhandles, fun hc hunsent => ?_⟩
      rw [onMessage_handles e signs hhandles] at hclient
      exact open_of_unpoisoned h hu hc hunsent (hhandles.challenge hc hunsent) hclient
  | _ => trivial

/-- **A bad challenge poisons the connection exactly where the event is not sound.**
Along sound events every well-formed challenge on an open socket is answered once, the
flag says that a connect went out, and what throws changes neither the flag nor the map. -/
theorem challenge_law {ls : List Label} (h : ((system e signs).restrict (Sound e signs)).Run ls t) :
    t.Unpoisoned ∧ ∀ l t', (system e signs).step t l t' →
      (t'.Unpoisoned ∧ Atomic e signs t l t' ↔ Sound e signs t l) := by
  have hgood := run_good h
  refine ⟨hgood.unpoisoned, fun l t' hs => ⟨fun hkept => sound_of_unpoisoned hgood hs hkept.1 hkept.2, fun hsound => ?_⟩⟩
  exact ⟨(step_good hgood hs hsound).unpoisoned, hsound.atomic hs⟩

end

/-! ### One bad frame -/

/-- A challenge without a payload. -/
def bareChallenge : Json := .obj [("type", .str "event"), ("event", .str "connect.challenge")]

def opened : GatewayNodeClient := new.start.onOpen 0

theorem opened_run : ((system demo keysSign).restrict (Sound demo keysSign)).Run [.start, .opened 0] ⟨opened, []⟩ := by
  have h₀ : ((system demo keysSign).restrict (Sound demo keysSign)).Run [] ⟨new, []⟩ := .nil rfl
  have h₁ := h₀.snoc (show (System.restrict _ _).step _ .start ⟨new.start, []⟩ from
    ⟨⟨.other (fun _ _ _ h => nomatch h) (.start rfl), rfl⟩, trivial⟩)
  exact h₁.snoc ⟨⟨.other (fun _ _ _ h => nomatch h) (.opened rfl), rfl⟩, trivial⟩

/-- The client that got a frame on its first socket. -/
def hearing (frame : Json) : GatewayNodeClient := onMessage demo keysSign opened 0 (some frame) demoTime

theorem demoChallenge_sound : Sound demo keysSign ⟨opened, []⟩ (.message 0 (some demoChallenge) demoTime) :=
  ⟨demoChallenge_handles _, fun _ _ => rfl⟩

/-- A well-formed challenge is answered. -/
theorem challenge_law_demo : ∃ t : Listener, t.Unpoisoned ∧ t.challenged = [0] := by
  have hrun := opened_run.snoc (show (System.restrict _ _).step _ _ ⟨hearing demoChallenge, [0]⟩ from
    ⟨⟨.message (.inl rfl), by decide +kernel⟩, demoChallenge_sound⟩)
  exact ⟨_, (challenge_law hrun).1, rfl⟩

/-- Behind a challenge without a payload the well-formed one is not answered, though the
flag is set; and the first changed the flag while it threw. -/
theorem bare_challenge_poisons :
    (¬ ∀ e signs ls t, (system e signs).Run ls t → t.Unpoisoned) ∧
      ¬ ∀ e signs ls t l t', (system e signs).Run ls t → (system e signs).step t l t' → Atomic e signs t l t' := by
  have hstep : (system demo keysSign).step ⟨opened, []⟩ (.message 0 (some bareChallenge) demoTime)
      ⟨hearing bareChallenge, []⟩ := ⟨.message (.inl rfl), by decide +kernel⟩
  constructor
  · intro hall
    have hrun := opened_run.of_restrict.snoc hstep
    obtain ⟨m, hm, -⟩ := (hall _ _ _ _ hrun).backed rfl
    cases hm
  · intro hall
    have hatomic := hall _ _ _ _ _ _ opened_run.of_restrict hstep
    exact absurd (hatomic 0 _ _ rfl ⟨"TypeError", _, rfl⟩).1 (by decide)

end Scripted
end GatewayNodeClient
end RtcPlugin.TsNode
