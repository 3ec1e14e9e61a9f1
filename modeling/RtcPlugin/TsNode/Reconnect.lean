import RtcPlugin.TsNode.Throws

/-! Reconnecting: one socket at a time, later each time, and never after a stop.

A client that lost its socket arms one timer, and its delay doubles up to half a minute
until a socket opens. `Paced` ties the back-off to the attempts made so far, and `Active`
says that a client which is not stopped does not rest without one; `reconnect_law` is what
every run keeps. -/
namespace RtcPlugin.TsNode
open Auth (TimeValue)

namespace GatewayNodeClient

/-- The delay in front of an attempt when `k` others failed. -/
def reconnectDelay (k : Nat) : Nat := min (1000 * 2 ^ k) 30000

theorem reconnectDelay_succ (k : Nat) : reconnectDelay (k + 1) = min (reconnectDelay k * 2) 30000 := by
  simp only [reconnectDelay, Nat.pow_succ]
  omega

/-- What an event does to the number of attempts since a socket opened. -/
def countAttempt (k : Nat) : Label → Nat
  | .opened _ => 0
  | .timer _ => k + 1
  | _ => k

/-- The reconnect attempts since a socket last opened, or since the start. -/
def attempts (ls : List Label) : Nat := ls.foldl countAttempt 0

theorem attempts_snoc (ls : List Label) (l : Label) : attempts (ls ++ [l]) = countAttempt (attempts ls) l := by
  simp [attempts]

/-! ### The back-off -/

/-- A client after `k` attempts. -/
structure Paced (k : Nat) (c : GatewayNodeClient) : Prop where
  alone : ∀ s s', c.sockets s ≠ .closed → c.sockets s' ≠ .closed → s = s'
  clear : c.timers ≠ [] → ∀ s, c.sockets s = .closed
  armed : ∀ handle delay, (handle, delay) ∈ c.timers → delay = reconnectDelay k ∧ c.backoffMs = reconnectDelay (k + 1)
  idle : c.timers = [] → c.closed = false → c.backoffMs = reconnectDelay k

/-- The fields of a `Paced` client. -/
structure Pace where
  sockets : Nat → ReadyState
  timers : List (Nat × Nat)
  backoffMs : Nat
  closed : Bool

def pace (c : GatewayNodeClient) : Pace := ⟨c.sockets, c.timers, c.backoffMs, c.closed⟩

theorem pace_undisturbed : Undisturbed pace where
  fields _ _ _ _ _ _ := rfl
  sent _ _ _ := rfl
  connects _ _ := rfl
  flag _ := rfl

theorem Paced.of_pace {k : Nat} {c c' : GatewayNodeClient} (h : Paced k c) (heq : c'.pace = c.pace) : Paced k c' := by
  obtain ⟨hsockets, htimers, hbackoff, hclosed⟩ := Pace.mk.inj heq
  constructor
  · rw [hsockets]
    exact h.alone
  · rw [hsockets, htimers]
    exact h.clear
  · rw [htimers, hbackoff]
    exact h.armed
  · rw [htimers, hbackoff, hclosed]
    exact h.idle

/-- No timer is armed. -/
theorem paced_of_nil {k : Nat} {c : GatewayNodeClient} (htimers : c.timers = [])
    (halone : ∀ s s', c.sockets s ≠ .closed → c.sockets s' ≠ .closed → s = s')
    (hbackoff : c.closed = false → c.backoffMs = reconnectDelay k) : Paced k c where
  alone := halone
  clear := fun hne => absurd htimers hne
  armed := by simp [htimers]
  idle := fun _ => hbackoff

theorem new_paced : Paced 0 new := paced_of_nil rfl (by simp [new]) fun _ => rfl

/-- Where a socket is not closed, no timer is armed. -/
theorem Paced.timers {k : Nat} {c : GatewayNodeClient} {s : Nat} (h : Paced k c) (hs : c.sockets s ≠ .closed) :
    c.timers = [] := by
  by_contra hne
  exact hs (h.clear hne s)

theorem closed_of_idle {c : GatewayNodeClient} (hl : c.link.Single) (hws : c.ws = none) (hclosed : c.closed = false)
    (s : Nat) : c.sockets s = .closed := by
  by_contra hne
  obtain heq | heq := hl.only s hne
  · exact absurd (heq.symm.trans hws) (Option.some_ne_none s)
  · exact absurd (heq.symm.trans hclosed) (by decide)

/-- A socket is made where every other is closed. -/
theorem start_paced {k : Nat} {c : GatewayNodeClient} (h : Paced k c) (htimers : c.timers = [])
    (hidle : c.closed = false → ∀ s, c.sockets s = .closed) : Paced k c.start := by
  unfold start
  split
  · exact h
  · next hclosed =>
    have hnew : ∀ s, (c.setReadyState c.created .connecting).sockets s ≠ .closed → s = c.created := by
      intro s hs
      by_contra hne
      exact hs ((Function.update_of_ne hne ..).trans (hidle (by simpa using hclosed) s))
    exact paced_of_nil htimers (fun s s' hs hs' => (hnew s hs).trans (hnew s' hs').symm) (h.idle htimers)

theorem setReadyState_paced {k : Nat} {c : GatewayNodeClient} {s : Nat} (h : Paced k c) (hs : c.sockets s ≠ .closed)
    (state : ReadyState) : Paced k (c.setReadyState s state) := by
  refine ⟨fun a b ha hb => ?_, fun hne => absurd (h.timers hs) hne, h.armed, h.idle⟩
  have hunclosed (a : Nat) (ha : (c.setReadyState s state).sockets a ≠ .closed) : c.sockets a ≠ .closed := by
    by_cases has : a = s
    · exact has ▸ hs
    · simpa [setReadyState, Function.update_of_ne has] using ha
  exact h.alone a b (hunclosed a ha) (hunclosed b hb)

/-- An open ends the count. -/
theorem onOpen_paced {k : Nat} {c : GatewayNodeClient} {s : Nat} (h : Paced k c) (hs : c.sockets s ≠ .closed) :
    Paced 0 (c.onOpen s) :=
  paced_of_nil (h.timers hs) (setReadyState_paced h hs .open).alone fun _ => rfl

/-- The socket that closes was the only one. -/
theorem closed_of_alone {k : Nat} {c : GatewayNodeClient} {s : Nat} (h : Paced k c) (hs : c.sockets s ≠ .closed)
    (s' : Nat) : (c.setReadyState s .closed).sockets s' = .closed := by
  by_cases hss : s' = s
  · rw [hss]
    exact Function.update_self ..
  · by_contra hne
    have hne' : c.sockets s' ≠ .closed := by simpa [setReadyState, Function.update_of_ne hss] using hne
    exact hss (h.alone s' s hne' hs)

theorem scheduleReconnect_paced {k : Nat} {c : GatewayNodeClient} (htimers : c.timers = [])
    (hall : ∀ s, c.sockets s = .closed) (hbackoff : c.closed = false → c.backoffMs = reconnectDelay k) :
    Paced k c.scheduleReconnect := by
  unfold scheduleReconnect
  split
  · exact paced_of_nil htimers (fun s _ hs => absurd (hall s) hs) hbackoff
  · next hclosed =>
    have hbackoff := hbackoff (by simpa using hclosed)
    refine ⟨fun s _ hs => absurd (hall s) hs, fun _ => hall, fun handle delay hmem => ?_, fun hnil => ?_⟩
    · have hmem : (handle, delay) ∈ c.timers ++ [(c.armed, c.backoffMs)] := hmem
      rw [htimers, List.nil_append, List.mem_singleton, Prod.mk.injEq] at hmem
      refine ⟨hmem.2.trans hbackoff, ?_⟩
      rw [reconnectDelay_succ, ← hbackoff]
    · exact absurd hnil (List.append_ne_nil_of_right_ne_nil _ (List.cons_ne_nil _ _))

theorem onClose_paced {e : Setup} {k : Nat} {c : GatewayNodeClient} {s : Nat} (h : Paced k c)
    (hs : c.sockets s ≠ .closed) (code : Nat) : Paced k (onClose e c s code) := by
  have htimers : c.timers = [] := h.timers hs
  rw [onClose_eq]
  exact scheduleReconnect_paced htimers (closed_of_alone h hs) (h.idle htimers)

/-- The armed timer is the only one. -/
theorem fired_timers {c : GatewayNodeClient} {handle delay : Nat} (hl : c.link.Single)
    (htimer : (handle, delay) ∈ c.timers) : c.timers.filter (·.1 ≠ handle) = [] := by
  obtain hnone | ⟨handle', delay', hone, -⟩ := hl.timer
  · rw [show c.timers = [] from hnone] at htimer
    cases htimer
  · have hone : c.timers = [(handle', delay')] := hone
    rw [hone] at htimer
    obtain rfl : handle = handle' := congrArg Prod.fst (List.mem_singleton.mp htimer)
    simp [hone]

theorem onTimer_paced {k : Nat} {c : GatewayNodeClient} {handle delay : Nat} (h : Paced k c) (hl : c.link.Single)
    (htimer : (handle, delay) ∈ c.timers) : Paced (k + 1) (c.onTimer handle) := by
  have htimers := fired_timers hl htimer
  have hbackoff := (h.armed handle delay htimer).2
  have hfired : Paced (k + 1) {c with timers := c.timers.filter (·.1 ≠ handle), reconnectTimer := none} :=
    paced_of_nil htimers h.alone fun _ => hbackoff
  exact start_paced hfired htimers fun _ => h.clear (List.ne_nil_of_mem htimer)

/-- A stop leaves no socket that it did not find. -/
theorem stop_sockets {e : Setup} {c : GatewayNodeClient} {s : Nat} (h : (stop e c).sockets s ≠ .closed) :
    c.sockets s ≠ .closed := by
  intro hs
  have hlink := congrArg Link.sockets (stop_link e c)
  have hclear := congrArg Link.sockets (clearReconnect_link {c with closed := true})
  exact h ((congrFun hlink s).trans (dropSocket_sockets ((congrFun hclear s).trans hs)))

theorem stop_closed (e : Setup) (c : GatewayNodeClient) : (stop e c).closed = true :=
  congrArg Link.closed (stop_link e c)

theorem stop_paced {e : Setup} {k : Nat} {c : GatewayNodeClient} (h : Paced k c) (hl : c.link.Single) :
    Paced k (stop e c) := by
  have htimers : (stop e c).timers = [] := ((stop_single (e := e) hl).stopped (stop_closed e c)).2
  refine paced_of_nil htimers (fun s s' hs hs' => h.alone s s' (stop_sockets hs) (stop_sockets hs')) fun hopen => ?_
  exact absurd ((stop_closed e c).symm.trans hopen) (by decide)

theorem step_paced {e : Setup} {k : Nat} {c c' : GatewayNodeClient} {l : Label} (h : Paced k c) (hl : c.link.Single)
    (hs : Step e c l c') : Paced (countAttempt k l) c' := by
  cases hs with
  | start hzero => exact start_paced h (hl.begun hzero) (closed_of_idle hl (ws_none_of_zero hl hzero))
  | opened hs => exact onOpen_paced h (by rw [hs]; decide)
  | message => exact h.of_pace (onMessage_undisturbed e pace_undisturbed ..)
  | error => exact h
  | closing hs => exact setReadyState_paced h (by rw [hs]; decide) .closing
  | closed hs => exact onClose_paced h hs _
  | timer htimer => exact onTimer_paced h hl htimer
  | stop => exact stop_paced h hl
  | request => exact h.of_pace (caller_steady e pace_undisturbed.toSteady ..)
  | settled => exact h.of_pace (onInvokeSettled_steady e pace_undisturbed.toSteady ..)

namespace Scripted

variable {e : Setup} {signs : String → Bool} {c c' : GatewayNodeClient} {ls : List Label} {l : Label}

theorem step_paced {k : Nat} (h : Paced k c) (hl : c.link.Single) (hs : Step e signs c l c') : Paced (countAttempt k l) c' := by
  obtain hs | ⟨⟨s, frame, now, rfl⟩, hsame⟩ := hs.calm
  · exact GatewayNodeClient.step_paced h hl hs
  · exact h.of_pace (hsame pace_undisturbed)

theorem run_paced (h : (client e signs).Run ls c) : Paced (attempts ls) c := by
  apply h.invariant (I := fun ls c => Paced (attempts ls) c)
  · intro c hc
    obtain rfl : c = new := hc
    exact new_paced
  · intro ls c l c' hrun hp hstep
    rw [attempts_snoc]
    exact step_paced hp (run_single hrun) hstep

end Scripted

/-! ### After a stop -/

/-- A stopped client, with the sockets and timers it has made. -/
def Ended (created armed : Nat) (c : GatewayNodeClient) : Prop :=
  c.closed = true ∧ c.timers = [] ∧ c.created = created ∧ c.armed = armed

theorem ended_undisturbed (created armed : Nat) : Undisturbed (Ended created armed) where
  fields _ _ _ _ _ _ := rfl
  sent _ _ _ := rfl
  connects _ _ := rfl
  flag _ := rfl

theorem clearReconnect_armed (c : GatewayNodeClient) : c.clearReconnect.armed = c.armed := by
  unfold clearReconnect
  split <;> rfl

theorem dropSocket_armed (c : GatewayNodeClient) : c.dropSocket.armed = c.armed := by
  unfold dropSocket
  split <;> rfl

theorem stop_armed (e : Setup) (c : GatewayNodeClient) : (stop e c).armed = c.armed := by
  rw [stop_eq]
  exact (dropSocket_armed _).trans (clearReconnect_armed _)

theorem stop_ended {e : Setup} {c : GatewayNodeClient} {created armed : Nat} (h : Ended created armed c) :
    Ended created armed (stop e c) := by
  obtain ⟨-, htimers, hcreated, harmed⟩ := h
  have hlink := stop_link e c
  have hclear : {c with closed := true}.clearReconnect.timers = [] := clearReconnect_timers (.inl htimers)
  exact ⟨stop_closed e c, (congrArg Link.timers hlink).trans hclear, (congrArg Link.created hlink).trans hcreated,
    (stop_armed e c).trans harmed⟩

theorem scheduleReconnect_ended {c : GatewayNodeClient} {created armed : Nat} (h : Ended created armed c) :
    Ended created armed c.scheduleReconnect := by
  rw [scheduleReconnect, if_pos h.1]
  exact h

/-- A stopped client makes no socket and arms no timer. -/
theorem step_ended {e : Setup} {c c' : GatewayNodeClient} {l : Label} {created armed : Nat} (h : Ended created armed c)
    (hs : Step e c l c') : Ended created armed c' := by
  cases hs with
  | start =>
    rw [start, if_pos h.1]
    exact h
  | opened | error | closing => exact h
  | message => exact (onMessage_undisturbed e (ended_undisturbed created armed) ..).symm ▸ h
  | closed =>
    rw [onClose_eq]
    exact scheduleReconnect_ended h
  | timer htimer =>
    rw [h.2.1] at htimer
    cases htimer
  | stop => exact stop_ended h
  | request => exact (caller_steady e (ended_undisturbed created armed).toSteady ..).symm ▸ h
  | settled => exact (onInvokeSettled_steady e (ended_undisturbed created armed).toSteady ..).symm ▸ h

namespace Scripted

variable {e : Setup} {signs : String → Bool} {c c' : GatewayNodeClient} {ls : List Label} {l : Label}

theorem step_ended {created armed : Nat} (h : Ended created armed c) (hs : Step e signs c l c') : Ended created armed c' := by
  obtain hs | ⟨-, hsame⟩ := hs.calm
  · exact GatewayNodeClient.step_ended h hs
  · exact (hsame (ended_undisturbed created armed)).symm ▸ h

/-- A stop is kept. -/
theorem stop_step (hs : Step e signs c .stop c') : c'.closed = true := by
  obtain hs | ⟨⟨s, frame, now, he⟩, -⟩ := hs.calm
  · cases hs
    exact stop_closed e c
  · cases he

theorem run_ended (h : (client e signs).Run ls c) : .stop ∈ ls → Ended c.created c.armed c := by
  apply h.invariant (I := fun ls c => .stop ∈ ls → Ended c.created c.armed c)
  · exact fun _ _ hmem => absurd hmem List.not_mem_nil
  · intro ls c l c' hrun ih hstep hmem
    have hclosed : c'.closed = true := by
      obtain hold | hnew := List.mem_append.mp hmem
      · exact (step_ended (ih hold) hstep).1
      · obtain rfl := List.mem_singleton.mp hnew
        exact stop_step hstep
    exact ⟨hclosed, ((run_single (hrun.snoc hstep)).stopped hclosed).2, rfl, rfl⟩

end Scripted

/-! ### Never at rest -/

/-- A stopped client, or one with a socket or a timer. -/
def Active (c : GatewayNodeClient) : Prop := c.closed = true ∨ (∃ s, c.sockets s ≠ .closed) ∨ c.timers ≠ []

theorem active_undisturbed : Undisturbed Active where
  fields _ _ _ _ _ _ := rfl
  sent _ _ _ := rfl
  connects _ _ := rfl
  flag _ := rfl

theorem setReadyState_active (c : GatewayNodeClient) (s : Nat) {state : ReadyState} (hstate : state ≠ .closed) :
    Active (c.setReadyState s state) := by
  have hself : (c.setReadyState s state).sockets s = state := Function.update_self ..
  exact .inr (.inl ⟨s, hself.trans_ne hstate⟩)

/-- A start makes a socket. -/
theorem start_active (c : GatewayNodeClient) : Active c.start := by
  unfold start
  split
  · next hclosed => exact .inl hclosed
  · exact setReadyState_active c c.created (by decide)

/-- A lost socket arms the timer. -/
theorem scheduleReconnect_active (c : GatewayNodeClient) : Active c.scheduleReconnect := by
  unfold scheduleReconnect
  split
  · next hclosed => exact .inl hclosed
  · exact .inr (.inr (List.append_ne_nil_of_right_ne_nil _ (List.cons_ne_nil _ _)))

theorem step_active {e : Setup} {c c' : GatewayNodeClient} {l : Label} (h : l = .start ∨ Active c) (hs : Step e c l c') :
    Active c' := by
  have hkept (hl : l ≠ .start) : Active c := h.resolve_left hl
  cases hs with
  | start => exact start_active c
  | @opened s => exact setReadyState_active c s (by decide)
  | message => exact (onMessage_undisturbed e active_undisturbed ..).symm ▸ hkept nofun
  | error => exact hkept nofun
  | @closing s => exact setReadyState_active c s (by decide)
  | closed =>
    rw [onClose_eq]
    exact scheduleReconnect_active _
  | timer => exact start_active _
  | stop => exact .inl (stop_closed e c)
  | request => exact (caller_steady e active_undisturbed.toSteady ..).symm ▸ hkept nofun
  | settled => exact (onInvokeSettled_steady e active_undisturbed.toSteady ..).symm ▸ hkept nofun

/-- Sockets come from a start or a timer, timers from a close. -/
structure Makes (c : GatewayNodeClient) (l : Label) (c' : GatewayNodeClient) : Prop where
  sockets : c'.created = c.created ∨ c'.created = c.created + 1 ∧ (l = .start ∨ ∃ handle, l = .timer handle)
  timers : c'.armed = c.armed ∨ c'.armed = c.armed + 1 ∧ ∃ s code, l = .closed s code
  stops : l ≠ .stop → c'.closed = c.closed

/-- What an event may make. -/
structure Making where
  created : Nat
  armed : Nat
  closed : Bool

def making (c : GatewayNodeClient) : Making := ⟨c.created, c.armed, c.closed⟩

theorem making_undisturbed : Undisturbed making where
  fields _ _ _ _ _ _ := rfl
  sent _ _ _ := rfl
  connects _ _ := rfl
  flag _ := rfl

theorem Makes.of_same {c c' : GatewayNodeClient} {l : Label} (h : c'.making = c.making) : Makes c l c' := by
  obtain ⟨hcreated, harmed, hclosed⟩ := Making.mk.inj h
  exact ⟨.inl hcreated, .inl harmed, fun _ => hclosed⟩

theorem start_making (c : GatewayNodeClient) : c.start.making = c.making ∨ c.start.making = {c.making with created := c.created + 1} := by
  unfold start
  split
  · exact .inl rfl
  · exact .inr rfl

theorem start_makes {c c₀ : GatewayNodeClient} {l : Label} (h : c₀.making = c.making) (hl : l = .start ∨ ∃ handle, l = .timer handle) :
    Makes c l c₀.start := by
  obtain ⟨hcreated, harmed, hclosed⟩ := Making.mk.inj h
  obtain hsame | hnew := start_making c₀
  · exact .of_same (hsame.trans h)
  · obtain ⟨hcreated', harmed', hclosed'⟩ := Making.mk.inj hnew
    exact ⟨.inr ⟨hcreated'.trans (congrArg (· + 1) hcreated), hl⟩, .inl (harmed'.trans harmed), fun _ => hclosed'.trans hclosed⟩

theorem step_makes {e : Setup} {c c' : GatewayNodeClient} {l : Label} (hs : Step e c l c') : Makes c l c' := by
  cases hs with
  | start => exact start_makes rfl (.inl rfl)
  | opened | error | closing => exact .of_same rfl
  | message => exact .of_same (onMessage_undisturbed e making_undisturbed ..)
  | @closed s code =>
    rw [onClose_eq]
    unfold scheduleReconnect
    split
    · exact .of_same rfl
    · exact ⟨.inl rfl, .inr ⟨rfl, s, code, rfl⟩, fun _ => rfl⟩
  | @timer handle => exact start_makes rfl (.inr ⟨handle, rfl⟩)
  | stop => exact ⟨.inl (congrArg Link.created (stop_link e c)), .inl (stop_armed e c), fun hne => absurd rfl hne⟩
  | request => exact .of_same (caller_steady e making_undisturbed.toSteady ..)
  | settled => exact .of_same (onInvokeSettled_steady e making_undisturbed.toSteady ..)

namespace Scripted

variable {e : Setup} {signs : String → Bool} {c c' : GatewayNodeClient} {ls : List Label} {l : Label}

theorem step_active (h : l = .start ∨ Active c) (hs : Step e signs c l c') : Active c' := by
  obtain hs | ⟨⟨s, frame, now, rfl⟩, hsame⟩ := hs.calm
  · exact GatewayNodeClient.step_active h hs
  · exact (hsame active_undisturbed).symm ▸ h.resolve_left nofun

theorem step_makes (hs : Step e signs c l c') : Makes c l c' := by
  obtain hs | ⟨-, hsame⟩ := hs.calm
  · exact GatewayNodeClient.step_makes hs
  · exact .of_same (hsame making_undisturbed)

theorem run_active (h : (client e signs).Run ls c) : .start ∈ ls → Active c := by
  apply h.invariant (I := fun ls c => .start ∈ ls → Active c)
  · exact fun _ _ hmem => absurd hmem List.not_mem_nil
  · intro ls c l c' _ ih hstep hmem
    obtain hold | hnew := List.mem_append.mp hmem
    · exact step_active (.inr (ih hold)) hstep
    · exact step_active (.inl (List.mem_singleton.mp hnew).symm) hstep

theorem run_unstopped (h : (client e signs).Run ls c) : .stop ∉ ls → c.closed = false := by
  apply h.invariant (I := fun ls c => .stop ∉ ls → c.closed = false)
  · rintro c rfl -
    rfl
  · intro ls c l c' _ ih hstep hnone
    obtain ⟨hold, hnew⟩ := not_or.mp (List.mem_append.not.mp hnone)
    exact ((step_makes hstep).stops fun he => hnew (List.mem_singleton.mpr he.symm)).trans (ih hold)

end Scripted

/-! ### Every run -/

/-- What the events `ls` leave of the sockets and of the reconnect timer. -/
structure Reconnecting (ls : List Label) (c : GatewayNodeClient) : Prop where
  alone : ∀ s s', c.sockets s ≠ .closed → c.sockets s' ≠ .closed → s = s'
  between : ∀ s, c.sockets s ≠ .closed → c.timers = []
  single : c.timers.length ≤ 1
  delay : ∀ handle delay, (handle, delay) ∈ c.timers → delay = min (1000 * 2 ^ attempts ls) 30000
  /-- The timer's expiry is an attempt. -/
  attempt : ∀ handle delay, (handle, delay) ∈ c.timers → (c.onTimer handle).created = c.created + 1
  /-- Without a socket an attempt is to come. -/
  awaited : .start ∈ ls → .stop ∉ ls → (∀ s, c.sockets s = .closed) →
    ∃ handle, c.timers = [(handle, min (1000 * 2 ^ attempts ls) 30000)]

theorem run_reconnecting {e : Setup} {signs : String → Bool} {ls : List Label} {c : GatewayNodeClient}
    (h : (Scripted.client e signs).Run ls c) : Reconnecting ls c := by
  have hp := Scripted.run_paced h
  have hl := Scripted.run_single h
  have hdelay (handle delay : Nat) (hmem : (handle, delay) ∈ c.timers) := (hp.armed handle delay hmem).1
  refine ⟨hp.alone, fun s hs => hp.timers hs, ?_, hdelay, ?_, fun hstart hstop hnone => ?_⟩
  · obtain hnone | ⟨handle, delay, hone, -⟩ := hl.timer
    · simp [show c.timers = [] from hnone]
    · simp [show c.timers = [(handle, delay)] from hone]
  · intro handle delay hmem
    have hopen : c.closed ≠ true := by
      intro hclosed
      rw [show c.timers = [] from (hl.stopped hclosed).2] at hmem
      cases hmem
    simp only [onTimer, start, if_neg hopen]
  · have htimers : c.timers ≠ [] := by
      obtain hclosed | ⟨s, hs⟩ | htimers := Scripted.run_active h hstart
      · exact absurd (hclosed.symm.trans (Scripted.run_unstopped h hstop)) (by decide)
      · exact absurd (hnone s) hs
      · exact htimers
    obtain hempty | ⟨handle, delay, hone, -⟩ := hl.timer
    · exact absurd hempty htimers
    · have hone : c.timers = [(handle, delay)] := hone
      obtain rfl := hdelay handle delay (hone ▸ List.mem_singleton_self _)
      exact ⟨handle, hone⟩

/-- **One socket at a time, and none after a stop**: in every run there is at most one
socket that is not closed, a timer only without one, and its delay doubles with every
attempt. A started client without a socket has that timer until it is stopped; only the
start and the timer make sockets, and only a close arms the timer. Behind a stop no socket
is made and no timer is armed. -/
theorem reconnect_law {e : Setup} {signs : String → Bool} {ls : List Label} {c : GatewayNodeClient}
    (h : (Scripted.client e signs).Run ls c) :
    Reconnecting ls c ∧ (∀ l c', Scripted.Step e signs c l c' → Makes c l c') ∧
      (.stop ∈ ls → c.timers = [] ∧ ∀ ls' c', (Scripted.client e signs).Steps c ls' c' →
        c'.created = c.created ∧ c'.armed = c.armed ∧ c'.timers = []) := by
  refine ⟨run_reconnecting h, fun _ _ => Scripted.step_makes, fun hstop => ?_⟩
  refine ⟨(Scripted.run_ended h hstop).2.1, fun ls' c' hsteps => ?_⟩
  obtain ⟨-, htimers, hcreated, harmed⟩ := hsteps.invariant (fun _ _ _ => Scripted.step_ended) (Scripted.run_ended h hstop)
  exact ⟨hcreated, harmed, htimers⟩

/-- Two sockets that do not open, each with its timer, and a stop. -/
theorem failing_run : ∃ c₁ c₂ c₃, (Scripted.client demo Scripted.keysSign).Run [.start, .error 0, .closed 0 1006] c₁ ∧
    (Scripted.client demo Scripted.keysSign).Run [.start, .error 0, .closed 0 1006, .timer 0, .error 1, .closed 1 1006] c₂ ∧
    (Scripted.client demo Scripted.keysSign).Run
      [.start, .error 0, .closed 0 1006, .timer 0, .error 1, .closed 1 1006, .stop] c₃ ∧
    (∀ s, c₁.sockets s = .closed) ∧ ∀ s, c₂.sockets s = .closed := by
  have h₀ : (Scripted.client demo Scripted.keysSign).Run [] new := .nil rfl
  have h₁ := h₀.snoc (Scripted.Step.of_handles (l := .start) (.start rfl) trivial)
  have h₂ := h₁.snoc (Scripted.Step.of_handles (l := .error 0) (.error (by decide)) trivial)
  have h₃ := h₂.snoc (Scripted.Step.of_handles (l := .closed 0 1006) (.closed (by decide)) trivial)
  have h₄ := h₃.snoc (Scripted.Step.of_handles (l := .timer 0) (.timer (show (0, 1000) ∈ _ by decide)) trivial)
  have h₅ := h₄.snoc (Scripted.Step.of_handles (l := .error 1) (.error (by decide)) trivial)
  have h₆ := h₅.snoc (Scripted.Step.of_handles (l := .closed 1 1006) (.closed (by decide)) trivial)
  have h₇ := h₆.snoc (Scripted.Step.of_handles (l := .stop) .stop trivial)
  have hall {ls : List Label} {c : GatewayNodeClient} (h : (Scripted.client demo Scripted.keysSign).Run ls c)
      (htimers : c.timers ≠ []) : ∀ s, c.sockets s = .closed := (Scripted.run_paced h).clear htimers
  exact ⟨_, _, _, h₃, h₆, h₇, hall h₃ (by decide), hall h₆ (by decide)⟩

/-- The first attempt is to come after a second, the next after two, and none behind the stop. -/
theorem reconnect_law_failing : ∃ c₁ c₂ c₃ handle₁ handle₂,
    (Scripted.client demo Scripted.keysSign).Run [.start, .error 0, .closed 0 1006] c₁ ∧ c₁.timers = [(handle₁, 1000)] ∧
    (Scripted.client demo Scripted.keysSign).Run [.start, .error 0, .closed 0 1006, .timer 0, .error 1, .closed 1 1006] c₂ ∧
    c₂.timers = [(handle₂, 2000)] ∧
    (Scripted.client demo Scripted.keysSign).Run
      [.start, .error 0, .closed 0 1006, .timer 0, .error 1, .closed 1 1006, .stop] c₃ ∧ c₃.timers = [] := by
  obtain ⟨c₁, c₂, c₃, h₁, h₂, h₃, hnone₁, hnone₂⟩ := failing_run
  obtain ⟨handle₁, htimers₁⟩ := (reconnect_law h₁).1.awaited (by simp) (by simp) hnone₁
  obtain ⟨handle₂, htimers₂⟩ := (reconnect_law h₂).1.awaited (by simp) (by simp) hnone₂
  exact ⟨c₁, c₂, c₃, handle₁, handle₂, h₁, htimers₁, h₂, htimers₂, h₃, ((reconnect_law h₃).2.2 (by simp)).1⟩

end GatewayNodeClient
end RtcPlugin.TsNode
