import RtcPlugin.System.Update
import RtcPlugin.TsNode.Throws

/-! Which frame is the first on a socket, and where results go.

`request` asks only whether the current socket is open. So nothing but the order of
events puts the connect first: a completion of `onInvoke` may find a socket that was
made after its invoke came (`result_on_next_socket`). The runs whose steps are
`Orderly` are those that keep the order (`connect_first`). -/
namespace RtcPlugin.TsNode

/-- The connect of a socket is its first frame, and results go where their invokes
came. -/
structure Traffic.ConnectFirst (k : Traffic) : Prop where
  first : ∀ s m rest, k.wire s = m :: rest → m.sender = .connect s ∧ m.frame.method = "connect"
  results : ∀ m ∈ k.sent, ∀ r, m.result? = some r → ∃ t inv, m.sender.invoke? = some t ∧ k.invokes t = some inv ∧
    inv.socket = m.socket ∧ inv.id = r.id

namespace GatewayNodeClient

section
variable {e : Setup} {c c' : GatewayNodeClient}

/-- A request finds something on the open socket, and a completion the socket of its
invoke. -/
def Orderly (e : Setup) (c : GatewayNodeClient) (l : Label) : Prop :=
  ∀ w, c.current = some w → match l with
    | .request .. => c.wire w ≠ []
    | .settled t _ => c.wire w ≠ [] ∧ ∀ inv, c.invokes t = some inv → inv.socket = w
    | .message s (some frame) _ => e.opts.onInvoke = false → (invokeOf s frame).isSome → c.wire w ≠ []
    | _ => True

/-- What holds along an orderly run. -/
structure Greeted (c : GatewayNodeClient) : Prop where
  ordered : c.traffic.ConnectFirst
  numbered : ∀ t inv, c.invokes t = some inv → t < c.received
  below : ∀ m ∈ c.sent, m.socket < c.created
  unsent : c.connectSent = false → ∀ w, c.ws = some w → c.wire w = []
  reports : ∀ id t, c.pending.get? id = some (.report t) → ∃ inv w, c.invokes t = some inv ∧ c.ws = some w ∧
    inv.socket = w ∧ c.wire w ≠ []

theorem new_greeted : Greeted new where
  ordered := ⟨fun _ _ _ h => (nomatch h), fun _ h => (nomatch h)⟩
  numbered _ _ h := nomatch h
  below _ h := nomatch h
  unsent _ _ h := nomatch h
  reports _ _ h := nomatch h

/-! ### Frames -/

/-- Invokes may be added and marked. -/
theorem Greeted.with_invokes {f : Nat → Option Invoke} {n : Nat} (h : Greeted c)
    (hf : ∀ t inv, c.invokes t = some inv → ∃ inv', f t = some inv' ∧ inv'.socket = inv.socket ∧ inv'.id = inv.id)
    (hn : ∀ t inv, f t = some inv → t < n) : Greeted {c with invokes := f, received := n} where
  ordered := by
    refine ⟨h.ordered.first, fun m hm r hr => ?_⟩
    obtain ⟨t, inv, ht, hinv, hsocket, hid⟩ := h.ordered.results m hm r hr
    obtain ⟨inv', hinv', hsocket', hid'⟩ := hf t inv hinv
    exact ⟨t, inv', ht, hinv', hsocket'.trans hsocket, hid'.trans hid⟩
  numbered := hn
  below := h.below
  unsent := h.unsent
  reports id t hw := by
    obtain ⟨inv, w, hinv, hws, hsocket, hwire⟩ := h.reports id t hw
    obtain ⟨inv', hinv', hsocket', -⟩ := hf t inv hinv
    exact ⟨inv', w, hinv', hws, hsocket'.trans hsocket, hwire⟩

theorem Greeted.receive (h : Greeted c) (new : Invoke) : Greeted (c.receive new) := by
  apply h.with_invokes
  · exact fun t inv hinv => ⟨inv, receive_invokes new hinv h.numbered, rfl, rfl⟩
  · intro t inv hinv
    obtain ⟨ht, -⟩ | ⟨-, hold⟩ := update_put hinv
    · omega
    · have hlt := h.numbered t inv hold
      omega

theorem Greeted.mark {t : Nat} {inv : Invoke} (h : Greeted c) (hinv : c.invokes t = some inv) (returned : Returned) :
    Greeted (c.mark t inv returned) := by
  apply h.with_invokes
  · intro t' inv' hinv'
    by_cases ht : t' = t
    · subst ht
      obtain rfl : inv = inv' := Option.some.inj (hinv.symm.trans hinv')
      exact ⟨_, mark_invokes_self .., rfl, rfl⟩
    · exact ⟨inv', (mark_invokes_ne c ht inv returned).trans hinv', rfl, rfl⟩
  · intro t' inv' hinv'
    obtain ⟨ht, -⟩ | ⟨-, hold⟩ := update_put hinv'
    · exact ht ▸ h.numbered t inv hinv
    · exact h.numbered t' inv' hold

theorem Greeted.connectSent (h : Greeted c) : Greeted {c with connectSent := true} :=
  {h with unsent := fun hfalse => nomatch hfalse}

theorem Greeted.conclude (h : Greeted c) (id : String) (outcome : Outcome) :
    Greeted (c.conclude id outcome) :=
  {h with reports := fun id' t hw => h.reports id' t (KeyMap.get?_delete_some hw).2}

/-! ### Requests -/

/-- A frame goes out behind others, or is the connect. -/
theorem Greeted.issue {w : Nat} {sender : Waiter} {method : String} {params : Params} (h : Greeted c)
    (hsingle : c.link.Single) (hw : c.current = some w) (hsent : c.connectSent = true)
    (hfirst : c.wire w ≠ [] ∨ sender = .connect w ∧ method = "connect")
    (hresult : ∀ r, params = .invokeResult r → ∃ t inv, sender.invoke? = some t ∧ c.invokes t = some inv ∧
      inv.socket = w ∧ inv.id = r.id)
    (hreport : ∀ t, sender = .report t → c.wire w ≠ [] ∧ ∃ inv, c.invokes t = some inv ∧ inv.socket = w) :
    Greeted (issue e c w sender method params) where
  ordered := by
    constructor
    · intro s m rest hs
      have hs : (GatewayNodeClient.issue e c w sender method params).wire s = m :: rest := hs
      by_cases hsw : s = w
      · subst hsw
        rw [wire_issue_self] at hs
        cases hwire : c.wire s with
        | nil =>
          rw [hwire] at hs
          obtain rfl := (List.cons.inj hs).1
          exact hfirst.resolve_left fun hne => hne hwire
        | cons m' rest' =>
          rw [hwire] at hs
          obtain rfl := (List.cons.inj hs).1
          exact h.ordered.first s _ _ hwire
      · rw [wire_issue_ne e c hsw] at hs
        exact h.ordered.first s m rest hs
    · intro m hm r hr
      obtain hold | hnew := List.mem_append.mp hm
      · exact h.ordered.results m hold r hr
      · obtain rfl := List.mem_singleton.mp hnew
        apply hresult r
        cases params with
        | invokeResult r' => exact congrArg _ (Option.some.inj hr)
        | _ => cases hr
  numbered := h.numbered
  below := by
    intro m hm
    obtain hold | hnew := List.mem_append.mp hm
    · exact h.below m hold
    · obtain rfl := List.mem_singleton.mp hnew
      exact hsingle.known w (current_eq.mp hw).1
  unsent := fun hfalse => absurd (hsent.symm.trans hfalse) (by decide)
  reports := by
    intro id t hid
    have hws := (current_eq.mp hw).1
    have hkept : (GatewayNodeClient.issue e c w sender method params).wire w ≠ [] := by
      rw [wire_issue_self]
      simp
    obtain heq | hold := issue_pending e hid
    · obtain ⟨-, inv, hinv, hsocket⟩ := hreport t heq.symm
      exact ⟨inv, w, hinv, hws, hsocket, hkept⟩
    · obtain ⟨inv, w', hinv, hws', hsocket, -⟩ := h.reports id t hold
      obtain rfl : w = w' := Option.some.inj (hws.symm.trans hws')
      exact ⟨inv, w, hinv, hws, hsocket, hkept⟩

/-- Behind another frame `connectSent` is set. -/
theorem Greeted.sent_of_wire {w : Nat} (h : Greeted c) (hw : c.current = some w) (hwire : c.wire w ≠ []) :
    c.connectSent = true := by
  by_contra hsent
  exact hwire (h.unsent (Bool.eq_false_iff.mpr hsent) w (current_eq.mp hw).1)

/-- A result goes out on the socket of its invoke, behind another frame. -/
theorem Greeted.attemptResult {t : Nat} {inv : Invoke} (h : Greeted c) (hsingle : c.link.Single) (hinv : c.invokes t = some inv)
    (hsocket : ∀ w, c.current = some w → c.wire w ≠ [] ∧ inv.socket = w) (returned : Returned) :
    Greeted (attemptResult e c t inv.id returned) := by
  obtain ⟨-, heq⟩ | ⟨w, hw, heq⟩ := attempt_cases e c (reportSender t returned) "node.invoke.result"
    (.invokeResult (reportResult e inv.id returned))
  · unfold GatewayNodeClient.attemptResult
    rw [heq]
    exact h
  · unfold GatewayNodeClient.attemptResult
    rw [heq]
    obtain ⟨hwire, hsw⟩ := hsocket w hw
    apply h.issue hsingle hw (h.sent_of_wire hw hwire) (.inl hwire)
    · intro r hr
      have hid : inv.id = r.id := by
        cases hr
        cases returned <;> rfl
      exact ⟨t, inv, by cases returned <;> rfl, hinv, hsw, hid⟩
    · intro t' ht'
      cases returned with
      | value v =>
        cases ht'
        exact ⟨hwire, inv, hinv, hsw⟩
      | _ => cases ht'

/-! ### Steps -/

/-- The socket that is made has nothing on it. -/
theorem Greeted.start (h : Greeted c) (hws : c.ws = none) : Greeted c.start := by
  have hreport : ∀ id t, c.pending.get? id ≠ some (.report t) := by
    intro id t hid
    obtain ⟨_, w, -, hw, -⟩ := h.reports id t hid
    exact absurd (hws.symm.trans hw) (Option.some_ne_none w).symm
  simp only [GatewayNodeClient.start]
  split
  · exact h
  · refine ⟨h.ordered, h.numbered, ?_, ?_, ?_⟩
    · exact fun m hm => Nat.lt_succ_of_lt (h.below m hm)
    · intro _ w hw
      obtain rfl := Option.some.inj hw
      apply List.filter_eq_nil_iff.mpr
      intro m hm
      have hlt := h.below m hm
      simp only [decide_eq_true_eq]
      omega
    · exact fun id t hid => absurd hid (hreport id t)

/-- Without a socket nothing waits. -/
theorem Greeted.dropped (h : Greeted c) (htraffic : c'.traffic = c.traffic) (hcreated : c'.created = c.created)
    (hws : c'.ws = none) (hpending : c'.pending = .empty) : Greeted c' where
  ordered := htraffic ▸ h.ordered
  numbered t inv hinv := by
    have hinvokes : c'.invokes = c.invokes := congrArg Traffic.invokes htraffic
    have hreceived : c'.received = c.received := congrArg Traffic.received htraffic
    rw [hreceived]
    exact h.numbered t inv (hinvokes ▸ hinv)
  below m hm := by
    have hsent : c'.sent = c.sent := congrArg Traffic.sent htraffic
    rw [hcreated]
    exact h.below m (hsent ▸ hm)
  unsent _ w hw := absurd (hws.symm.trans hw) (Option.some_ne_none w).symm
  reports id t hid := by
    rw [hpending, KeyMap.get?_empty] at hid
    cases hid

theorem Greeted.resume (h : Greeted c) (hsingle : c.link.Single) {id : String} {waiter : Waiter}
    (hid : c.pending.get? id = some waiter) (outcome : Outcome) :
    Greeted (resume e (c.conclude id outcome) waiter outcome) := by
  obtain heq | ⟨t, inv, message, rfl, -, hinv, heq⟩ :=
    resume_attempt e (c.conclude id outcome) waiter outcome
  · rw [heq]
    exact h.conclude id outcome
  · rw [heq]
    apply (h.conclude id outcome).attemptResult hsingle hinv
    intro w hw
    have hws : c.ws = some w := (current_eq.mp hw).1
    obtain ⟨inv', w', hinv', hws', hsocket, hwire⟩ := h.reports id t hid
    obtain rfl : w = w' := Option.some.inj (hws.symm.trans hws')
    obtain rfl : inv = inv' := Option.some.inj (hinv.symm.trans hinv')
    exact ⟨hwire, hsocket⟩

theorem Greeted.message {s : Nat} {frame : Json} {now : Auth.TimeValue} (h : Greeted c) (hsingle : c.link.Single)
    (hs : c.sockets s ≠ .closed) (horderly : Orderly e c (.message s (some frame) now))
    (hhandled : Handled e c s frame c') : Greeted c' := by
  have hsw : ∀ w, c.current = some w → s = w := fun w => current_of_unclosed hsingle hs
  cases hhandled with
  | ignored => exact h
  | challenged => exact h.connectSent
  | @connects p _ =>
    obtain ⟨-, heq⟩ | ⟨w, hw, heq⟩ := attempt_cases e {c with connectSent := true} (.connect s) "connect" (.connect p)
    · rw [heq]
      exact h.connectSent
    · rw [heq]
      obtain rfl := hsw w hw
      exact h.connectSent.issue hsingle hw rfl (.inr ⟨rfl, rfl⟩) (fun _ hr => nomatch hr) (fun _ ht => nomatch ht)
  | invoked => exact h.receive _
  | @unhandled inv hinv hoff =>
    have hreceived : (c.receive inv).invokes c.received = some inv := Function.update_self ..
    apply ((h.receive inv).mark hreceived noHandler).attemptResult hsingle (mark_invokes_self ..)
    intro w hw
    refine ⟨horderly w hw hoff (Option.isSome_of_eq_some hinv), ?_⟩
    exact (invokeOf_new hinv).1.trans (hsw w hw)
  | answered _ hw => exact h.resume hsingle hw _

theorem step_greeted {l : Label} (h : Greeted c) (hsingle : c.link.Single) (hs : Step e c l c') (horderly : Orderly e c l) :
    Greeted c' := by
  cases hs with
  | start hzero => exact h.start (ws_none_of_zero hsingle hzero)
  | opened => exact ⟨h.ordered, h.numbered, h.below, h.unsent, h.reports⟩
  | @message s frame now hs =>
    have hs : c.sockets s ≠ .closed := by obtain hs | hs := hs <;> simp [hs]
    cases frame with
    | none => exact h
    | some frame => exact h.message hsingle hs horderly (onMessage_handled e c s frame now)
  | error => exact h
  | closing => exact ⟨h.ordered, h.numbered, h.below, h.unsent, h.reports⟩
  | @closed s code =>
    apply h.dropped (onClose_traffic e c s code) (onClose_created e c s code) (onClose_ws e c s code)
    exact congrArg Promises.pending (onClose_promises e c s code).1
  | @timer handle delay htimer =>
    have hfired : Greeted {c with timers := c.timers.filter (·.1 ≠ handle), reconnectTimer := none} :=
      ⟨h.ordered, h.numbered, h.below, h.unsent, h.reports⟩
    have hws : c.ws = none := ws_none_of_timer hsingle htimer
    exact hfired.start hws
  | stop =>
    apply h.dropped (stop_traffic e c) (congrArg Link.created (stop_link e c)) (congrArg Link.ws (stop_link e c))
    exact congrArg Promises.pending (stop_promises e c).1
  | @request method params =>
    show Greeted (attempt e c .caller method (.other params))
    obtain ⟨-, heq⟩ | ⟨w, hw, heq⟩ := attempt_cases e c .caller method (.other params)
    · rw [heq]
      exact h
    · rw [heq]
      have hwire : c.wire w ≠ [] := horderly w hw
      apply h.issue hsingle hw (h.sent_of_wire hw hwire) (.inl hwire)
      · exact fun _ hr => nomatch hr
      · exact fun _ ht => nomatch ht
  | @settled t inv returned hinv _ =>
    rw [onInvokeSettled_eq]
    apply (h.mark hinv returned).attemptResult hsingle (mark_invokes_self ..)
    intro w hw
    obtain ⟨hwire, hsocket⟩ := horderly w hw
    exact ⟨hwire, hsocket inv hinv⟩

/-! ### Steps out of order -/

/-- A frame that is no connect went out behind another. -/
theorem wire_of_first {w : Nat} {sender : Waiter} {method : String} {params : Params} (hw : c.current = some w)
    (hsender : ∀ s, sender ≠ .connect s) (hfirst : (attempt e c sender method params).traffic.ConnectFirst) :
    c.wire w ≠ [] := by
  intro hnil
  rw [attempt_some e hw] at hfirst
  have hwire := wire_issue_self e c w sender method params
  rw [hnil] at hwire
  exact hsender w (hfirst.first w _ _ hwire).1

/-- A result went out on the socket of its invoke. -/
theorem socket_of_first {w t : Nat} {id : Json} {returned : Returned} (hw : c.current = some w)
    (hfirst : (attemptResult e c t id returned).traffic.ConnectFirst) : ∃ inv, c.invokes t = some inv ∧ inv.socket = w := by
  rw [attemptResult, attempt_some e hw] at hfirst
  obtain ⟨t', inv, ht', hinv, hsocket, -⟩ := hfirst.results _ (List.mem_append_right _ (List.mem_singleton_self _)) _ rfl
  have htt : t = t' := by cases returned <;> exact Option.some.inj ht'
  exact ⟨inv, htt ▸ hinv, hsocket⟩

theorem step_orderly {l : Label} (hs : Step e c l c') (hfirst : c'.traffic.ConnectFirst) : Orderly e c l := by
  intro w hw
  cases hs with
  | request => exact wire_of_first hw (fun s => by simp) hfirst
  | @settled t inv returned hinv _ =>
    rw [onInvokeSettled_eq] at hfirst
    have hw' : (c.mark t inv returned).current = some w := hw
    refine ⟨wire_of_first (c := c.mark t inv returned) hw (reportSender_ne t returned) hfirst, fun inv' hinv' => ?_⟩
    obtain ⟨_, hmarked, hsocket⟩ := socket_of_first hw' hfirst
    rw [mark_invokes_self] at hmarked
    obtain rfl := Option.some.inj hmarked
    obtain rfl : inv = inv' := Option.some.inj (hinv.symm.trans hinv')
    exact hsocket
  | @message s frame now _ =>
    cases frame with
    | none => trivial
    | some frame =>
      intro hoff hrequest
      obtain ⟨inv, hinv⟩ := Option.isSome_iff_exists.mp hrequest
      rw [onMessage_unhandled e hinv hoff] at hfirst
      exact wire_of_first (c := (c.receive inv).mark c.received inv noHandler) hw (reportSender_ne _ _) hfirst
  | _ => trivial

/-! ### What throws -/

theorem invokeOf_challenge {s : Nat} {frame : Json} (h : IsChallenge frame) : invokeOf s frame = none := by
  simp [invokeOf, h.1, h.2]

theorem invokeOf_response {s : Nat} {frame : Json} {id : String} (h : responds? frame = some id) : invokeOf s frame = none := by
  simp only [responds?] at h
  split at h
  · next htype _ => simp [invokeOf, htype]
  · cases h

namespace Scripted

variable {signs : String → Bool} {l : Label}

theorem Thrown.invokes {s : Nat} {frame : Json} {now : Auth.TimeValue} (h : Thrown e signs c frame now c') :
    invokeOf s frame = none := by
  cases h with
  | challenge hc => exact invokeOf_challenge hc
  | response hid => exact invokeOf_response hid

theorem Thrown.greeted {frame : Json} {now : Auth.TimeValue} (h : Thrown e signs c frame now c') (hgreeted : Greeted c) :
    Greeted c' := by
  cases h with
  | challenge => exact hgreeted.connectSent
  | response => exact {hgreeted with reports := fun id t hw => hgreeted.reports id t (KeyMap.get?_delete_some hw).2}

theorem step_greeted (h : Greeted c) (hsingle : c.link.Single) (hs : Step e signs c l c') (horderly : Orderly e c l) :
    Greeted c' := by
  obtain ⟨hs, -⟩ | ⟨s, frame, now, rfl, hthrown⟩ := hs.cases
  · exact GatewayNodeClient.step_greeted h hsingle hs horderly
  · exact hthrown.greeted h

theorem run_greeted {ls : List Label} (h : ((client e signs).restrict (Orderly e)).Run ls c) : Greeted c := by
  apply h.invariant (I := fun _ c => Greeted c)
  · rintro c rfl
    exact new_greeted
  · exact fun _ _ _ _ hrun hI hs => step_greeted hI (run_single hrun.of_restrict) hs.1 hs.2

/-- A frame whose handling throws asks for nothing. -/
theorem step_orderly (hs : Step e signs c l c') (hfirst : c'.traffic.ConnectFirst) : Orderly e c l := by
  obtain ⟨hs, -⟩ | ⟨s, frame, now, rfl, hthrown⟩ := hs.cases
  · exact GatewayNodeClient.step_orderly hs hfirst
  · intro w _ _ hrequest
    rw [hthrown.invokes] at hrequest
    cases hrequest

end Scripted

end

/-- **Connect is the first frame on every socket, and results go where their invokes
came**, exactly as long as the steps are orderly. -/
theorem connect_first {e : Setup} {signs : String → Bool} {ls : List Label} {c : GatewayNodeClient}
    (h : ((Scripted.client e signs).restrict (Orderly e)).Run ls c) :
    c.traffic.ConnectFirst ∧ ∀ l c', Scripted.Step e signs c l c' → (c'.traffic.ConnectFirst ↔ Orderly e c l) := by
  have hgreeted := Scripted.run_greeted h
  refine ⟨hgreeted.ordered, fun l c' hs => ⟨Scripted.step_orderly hs, fun horderly => ?_⟩⟩
  exact (Scripted.step_greeted hgreeted (Scripted.run_single h.of_restrict) hs horderly).ordered

/-- A challenge, an invoke and its result on one socket. -/
theorem connect_first_invoke : ∃ c, ((Scripted.client demo Scripted.keysSign).restrict (Orderly demo)).Run [.start, .opened 0,
      .message 0 (some demoChallenge) demoTime, .message 0 (some demoInvoke) demoTime, .settled 0 (.value none)] c ∧
    c.traffic.ConnectFirst ∧ c.traffic.results.map InvokeResult.ok = [true] := by
  have h₀ : ((Scripted.client demo Scripted.keysSign).restrict (Orderly demo)).Run [] new := .nil rfl
  have h₁ := h₀.snoc ⟨Scripted.Step.of_handles (l := .start) (.start rfl) trivial, fun _ _ => trivial⟩
  have h₂ := h₁.snoc ⟨Scripted.Step.of_handles (l := .opened 0) (.opened rfl) trivial, fun _ _ => trivial⟩
  have h₃ := h₂.snoc ⟨Scripted.Step.of_handles (l := .message 0 (some demoChallenge) demoTime) (.message (.inl rfl))
    (Scripted.demoChallenge_handles _), fun _ _ hoff => nomatch hoff⟩
  have h₄ := h₃.snoc ⟨Scripted.Step.of_handles (l := .message 0 (some demoInvoke) demoTime) (.message (.inl rfl))
    (Scripted.demoInvoke_handles _), fun _ _ hoff => nomatch hoff⟩
  have h₅ := h₄.snoc ⟨Scripted.Step.of_handles (l := .settled 0 (.value none)) (.settled rfl rfl) trivial, by
    intro w hw
    obtain rfl : 0 = w := Option.some.inj hw
    refine ⟨List.cons_ne_nil _ _, fun inv hinv => ?_⟩
    obtain rfl := Option.some.inj hinv
    rfl⟩
  exact ⟨_, h₅, (connect_first h₅).1, rfl⟩

/-- The invoke of a socket that closed is answered on the next one, before its
connect. -/
theorem result_on_next_socket : ¬ ∀ e signs ls c, (Scripted.client e signs).Run ls c → c.traffic.ConnectFirst := by
  intro hall
  have h₀ : (Scripted.client demo Scripted.keysSign).Run [] new := .nil rfl
  have h₁ := h₀.snoc (Scripted.Step.of_handles (l := .start) (.start rfl) trivial)
  have h₂ := h₁.snoc (Scripted.Step.of_handles (l := .opened 0) (.opened rfl) trivial)
  have h₃ := h₂.snoc (Scripted.Step.of_handles (l := .message 0 (some demoChallenge) demoTime) (.message (.inl rfl))
    (Scripted.demoChallenge_handles _))
  have h₄ := h₃.snoc (Scripted.Step.of_handles (l := .message 0 (some demoInvoke) demoTime) (.message (.inl rfl))
    (Scripted.demoInvoke_handles _))
  have h₅ := h₄.snoc (Scripted.Step.of_handles (l := .closed 0 1006) (.closed (by decide)) trivial)
  have h₆ := h₅.snoc (Scripted.Step.of_handles (l := .timer 0) (.timer (List.mem_singleton_self _)) trivial)
  have h₇ := h₆.snoc (Scripted.Step.of_handles (l := .opened 1) (.opened rfl) trivial)
  have h₈ := h₇.snoc (Scripted.Step.of_handles (l := .settled 0 (.value none)) (.settled rfl rfl) trivial)
  have hfirst := (hall _ _ _ _ h₈).first 1 _ _ rfl
  cases hfirst.1

end GatewayNodeClient
end RtcPlugin.TsNode
