import RtcPlugin.System.Update
import RtcPlugin.TsNode.Throws

/-! One result per invoke.

The `try` of `handleInvokeRequest` spans the handler, the encoding of its value and the
acknowledgement of the report, so a report that was sent may be followed by a failure
(`refused_report`). Where the gateway refuses no report, every value can be encoded and
no identifier is used again, an invoke has one result at most (`one_result`). A refusal
whose message cannot be read throws before the report's promise is rejected, and so does
no harm here. -/
namespace RtcPlugin.TsNode
open Auth (TimeValue)

def Returned.serializable : Returned → Bool
  | .unserializable _ => false
  | _ => true

namespace Traffic

/-- No identifier is answered twice, and a result says what became of its invoke. -/
structure OneResult (k : Traffic) : Prop where
  once : (k.results.map InvokeResult.id).Nodup
  flag : ∀ m ∈ k.sent, ∀ r, m.result? = some r → ∃ t inv returned, m.sender.invoke? = some t ∧
    k.invokes t = some inv ∧ inv.id = r.id ∧ inv.returned = some returned ∧ (r.ok = true ↔ returned.resolved = true)

/-- No invoke with this identifier still runs, and none has a result. -/
def Unused (k : Traffic) (id : Json) : Prop :=
  (∀ t inv, k.invokes t = some inv → inv.id = id → inv.returned ≠ none) ∧ ∀ r ∈ k.results, r.id ≠ id

/-- What holds while identifiers are not used again. -/
structure Answering (k : Traffic) : Prop where
  one : k.OneResult
  numbered : ∀ t inv, k.invokes t = some inv → t < k.received
  running : ∀ t inv, k.invokes t = some inv → inv.returned = none → ∀ r ∈ k.results, r.id ≠ inv.id
  apart : ∀ t t' inv inv', k.invokes t = some inv → k.invokes t' = some inv' → inv.returned = none →
    inv'.returned = none → inv.id = inv'.id → t = t'

def receive (k : Traffic) (inv : Invoke) : Traffic :=
  {k with invokes := Function.update k.invokes k.received (some inv), received := k.received + 1}

def mark (k : Traffic) (t : Nat) (inv : Invoke) (returned : Returned) : Traffic :=
  {k with invokes := Function.update k.invokes t (some {inv with returned := some returned})}

variable {k : Traffic} {t : Nat} {inv : Invoke} {m : Sent} {r : InvokeResult}

/-- The results so far keep their invokes. -/
theorem OneResult.update {new : Invoke} {n : Nat} (h : k.OneResult)
    (hnew : ∀ inv returned, k.invokes t = some inv → inv.returned ≠ some returned) :
    OneResult {k with invokes := Function.update k.invokes t (some new), received := n} := by
  refine ⟨h.once, fun m hm r hr => ?_⟩
  obtain ⟨t', inv', returned, ht', hinv', hid, hret, hok⟩ := h.flag m hm r hr
  have hne : t' ≠ t := by
    rintro rfl
    exact hnew inv' returned hinv' hret
  exact ⟨t', inv', returned, ht', (Function.update_of_ne hne ..).trans hinv', hid, hret, hok⟩

theorem Answering.receive (h : k.Answering) (hunused : k.Unused inv.id) : (k.receive inv).Answering where
  one := by
    apply h.one.update
    intro inv' _ hinv'
    have hlt := h.numbered _ _ hinv'
    omega
  numbered t' inv' hinv' := by
    show t' < k.received + 1
    obtain ⟨rfl, -⟩ | ⟨-, hold⟩ := update_put hinv'
    · omega
    · have hlt := h.numbered t' inv' hold
      omega
  running t' inv' hinv' hrun := by
    obtain ⟨-, rfl⟩ | ⟨-, hold⟩ := update_put hinv'
    · exact hunused.2
    · exact h.running t' inv' hold hrun
  apart t₁ t₂ inv₁ inv₂ h₁ h₂ hrun₁ hrun₂ hid := by
    obtain ⟨rfl, rfl⟩ | ⟨-, hold₁⟩ := update_put h₁
    · obtain ⟨rfl, -⟩ | ⟨-, hold₂⟩ := update_put h₂
      · rfl
      · exact absurd hrun₂ (hunused.1 t₂ inv₂ hold₂ hid.symm)
    · obtain ⟨-, rfl⟩ | ⟨-, hold₂⟩ := update_put h₂
      · exact absurd hrun₁ (hunused.1 t₁ inv₁ hold₁ hid)
      · exact h.apart t₁ t₂ inv₁ inv₂ hold₁ hold₂ hrun₁ hrun₂ hid

/-- An invoke that returned runs no more, and nobody else uses its identifier. -/
theorem Answering.mark (h : k.Answering) (hinv : k.invokes t = some inv) (hrun : inv.returned = none) (returned : Returned) :
    (k.mark t inv returned).Answering ∧ (k.mark t inv returned).Unused inv.id := by
  constructor
  · constructor
    · apply h.one.update
      intro inv' returned' hinv' hret
      obtain rfl : inv = inv' := Option.some.inj (hinv.symm.trans hinv')
      rw [hrun] at hret
      cases hret
    · intro t' inv' hinv'
      obtain ⟨rfl, -⟩ | ⟨-, hold⟩ := update_put hinv'
      · exact h.numbered t' inv hinv
      · exact h.numbered t' inv' hold
    · intro t' inv' hinv' hrun'
      obtain ⟨-, rfl⟩ | ⟨-, hold⟩ := update_put hinv'
      · cases hrun'
      · exact h.running t' inv' hold hrun'
    · intro t₁ t₂ inv₁ inv₂ h₁ h₂ hrun₁ hrun₂ hid
      obtain ⟨-, rfl⟩ | ⟨-, hold₁⟩ := update_put h₁
      · cases hrun₁
      · obtain ⟨-, rfl⟩ | ⟨-, hold₂⟩ := update_put h₂
        · cases hrun₂
        · exact h.apart t₁ t₂ inv₁ inv₂ hold₁ hold₂ hrun₁ hrun₂ hid
  · refine ⟨fun t' inv' hinv' hid hrun' => ?_, h.running t inv hinv hrun⟩
    obtain ⟨-, rfl⟩ | ⟨hne, hold⟩ := update_put hinv'
    · cases hrun'
    · exact hne (h.apart t' t inv' inv hold hinv hrun' hrun hid)

theorem Answering.add_other (h : k.Answering) (hm : m.result? = none) : (k.add m).Answering := by
  have hresults : (k.add m).results = k.results := by
    rw [results_add, hm]
    exact List.append_nil _
  refine ⟨⟨hresults ▸ h.one.once, fun m' hm' r hr => ?_⟩, h.numbered, hresults ▸ h.running, h.apart⟩
  obtain hold | hnew := List.mem_append.mp hm'
  · exact h.one.flag m' hold r hr
  · obtain rfl := List.mem_singleton.mp hnew
    rw [hm] at hr
    cases hr

theorem Answering.add_result {returned : Returned} (h : k.Answering) (hunused : k.Unused r.id)
    (ht : m.sender.invoke? = some t) (hm : m.result? = some r) (hinv : k.invokes t = some inv)
    (hret : inv.returned = some returned) (hid : inv.id = r.id) (hok : r.ok = true ↔ returned.resolved = true) :
    (k.add m).Answering := by
  have hresults : (k.add m).results = k.results ++ [r] := by
    rw [results_add, hm]
    rfl
  refine ⟨⟨?_, fun m' hm' r' hr' => ?_⟩, h.numbered, fun t' inv' hinv' hrun => ?_, h.apart⟩
  · rw [hresults, List.map_append]
    apply List.Nodup.append h.one.once (List.nodup_singleton _)
    intro id hold hnew
    obtain rfl := List.mem_singleton.mp hnew
    obtain ⟨r', hr', heq⟩ := List.mem_map.mp hold
    exact hunused.2 r' hr' heq
  · obtain hold | hnew := List.mem_append.mp hm'
    · exact h.one.flag m' hold r' hr'
    · obtain rfl := List.mem_singleton.mp hnew
      obtain rfl : r = r' := Option.some.inj (hm.symm.trans hr')
      exact ⟨t, inv, returned, ht, hinv, hid, hret, hok⟩
  · intro r' hr' heq
    rw [hresults] at hr'
    obtain hold | hnew := List.mem_append.mp hr'
    · exact h.running t' inv' hinv' hrun r' hold heq
    · obtain rfl := List.mem_singleton.mp hnew
      exact hunused.1 t' inv' hinv' heq.symm hrun

end Traffic

namespace GatewayNodeClient

section
variable {e : Setup} {c c' : GatewayNodeClient}

/-- While the socket is open, no report is refused with a message that can be read, and
what a handler returns can be encoded. -/
def Answered (c : GatewayNodeClient) : Label → Prop
  | .message _ (some frame) _ => ∀ id t, responds? frame = some id → c.pending.get? id = some (.report t) →
      optTruthy (frame.get? "ok") = false → Scripted.Converts (Scripted.messageOf frame) = true → c.current = none
  | .settled _ returned => c.current ≠ none → returned.serializable = true
  | _ => True

/-- The gateway does not use an identifier again. -/
def Distinct (c : GatewayNodeClient) : Label → Prop
  | .message s (some frame) _ => ∀ inv, invokeOf s frame = some inv → c.traffic.Unused inv.id
  | _ => True

def Accepted (c : GatewayNodeClient) (l : Label) : Prop := Answered c l ∧ Distinct c l

structure Kept (c : GatewayNodeClient) : Prop where
  traffic : c.traffic.Answering
  reported : ∀ id t, c.pending.get? id = some (.report t) → ∃ inv, c.invokes t = some inv ∧
    ∃ r ∈ c.traffic.results, r.id = inv.id

theorem new_kept : Kept new where
  traffic := ⟨⟨List.nodup_nil, fun _ h => (nomatch h)⟩, fun _ _ h => (nomatch h), fun _ _ h => (nomatch h),
    fun _ _ _ _ h => (nomatch h)⟩
  reported _ _ h := nomatch h

theorem Kept.receive {inv : Invoke} (h : Kept c) (hunused : c.traffic.Unused inv.id) : Kept (c.receive inv) where
  traffic := h.traffic.receive hunused
  reported id t hid := by
    obtain ⟨inv', hinv', hr⟩ := h.reported id t hid
    exact ⟨inv', receive_invokes inv hinv' h.traffic.numbered, hr⟩

theorem Kept.mark {t : Nat} {inv : Invoke} (h : Kept c) (hinv : c.invokes t = some inv) (hrun : inv.returned = none)
    (returned : Returned) : Kept (c.mark t inv returned) where
  traffic := (h.traffic.mark hinv hrun returned).1
  reported id t' hid := by
    obtain ⟨inv', hinv', hr⟩ := h.reported id t' hid
    by_cases ht : t' = t
    · subst ht
      obtain rfl : inv = inv' := Option.some.inj (hinv.symm.trans hinv')
      exact ⟨_, mark_invokes_self .., hr⟩
    · exact ⟨inv', (mark_invokes_ne c ht inv returned).trans hinv', hr⟩

/-- A request that is no report. -/
theorem Kept.attempt_other {sender : Waiter} {method : String} {params : Params} (h : Kept c)
    (hsender : ∀ t, sender ≠ .report t) (hparams : ∀ r, params ≠ .invokeResult r) :
    Kept (attempt e c sender method params) := by
  obtain ⟨-, heq⟩ | ⟨w, -, heq⟩ := attempt_cases e c sender method params
  · rw [heq]
    exact h
  · rw [heq]
    have hnone : Sent.result? ⟨w, sender, ⟨e.randomUUID c.drawn, method, params⟩⟩ = none := by
      cases params with
      | invokeResult r => exact absurd rfl (hparams r)
      | _ => rfl
    refine ⟨h.traffic.add_other hnone, fun id t hid => ?_⟩
    have hold := (issue_pending e hid).resolve_left fun hreport => hsender t hreport.symm
    obtain ⟨inv, hinv, r, hr, heq⟩ := h.reported id t hold
    exact ⟨inv, hinv, r, (Traffic.results_add c.traffic _).symm ▸ List.mem_append_left _ hr, heq⟩

/-- An invoke returns, and its result goes out. -/
theorem Kept.settled {t : Nat} {inv : Invoke} (h : Kept c) (hinv : c.invokes t = some inv) (hrun : inv.returned = none)
    {returned : Returned} (hencodes : c.current ≠ none → returned.serializable = true) :
    Kept (attemptResult e (c.mark t inv returned) t inv.id returned) := by
  obtain ⟨-, hunused⟩ := h.traffic.mark hinv hrun returned
  have hmarked := h.mark hinv hrun returned
  have hinv' := mark_invokes_self c t inv returned
  unfold attemptResult
  obtain ⟨-, heq⟩ | ⟨w, hw, heq⟩ := attempt_cases e (c.mark t inv returned) (reportSender t returned) "node.invoke.result"
    (.invokeResult (reportResult e inv.id returned))
  · rw [heq]
    exact hmarked
  · rw [heq]
    have hencodes : returned.serializable = true := hencodes fun hnone => by
      rw [show (c.mark t inv returned).current = none from hnone] at hw
      cases hw
    have hsender : (reportSender t returned).invoke? = some t := by cases returned <;> rfl
    have hid : inv.id = (reportResult e inv.id returned).id := by cases returned <;> rfl
    have hok : (reportResult e inv.id returned).ok = true ↔ returned.resolved = true := by
      cases returned with
      | unserializable => cases hencodes
      | _ => simp [reportResult, Returned.resolved]
    rw [hid] at hunused
    refine ⟨hmarked.traffic.add_result hunused hsender rfl hinv' rfl hid hok, fun id t' hget => ?_⟩
    have hresults := Traffic.results_add (c.mark t inv returned).traffic ⟨w, reportSender t returned,
      ⟨e.randomUUID c.drawn, "node.invoke.result", .invokeResult (reportResult e inv.id returned)⟩⟩
    obtain heq | hold := issue_pending e hget
    · have htt : t = t' := by
        cases returned with
        | value => exact (Waiter.report.inj heq).symm
        | _ => cases heq
      refine ⟨{inv with returned := some returned}, htt ▸ hinv', reportResult e inv.id returned, ?_, hid.symm⟩
      exact hresults.symm ▸ List.mem_append_right _ (List.mem_singleton_self _)
    · obtain ⟨inv', hinv', r, hr, heq⟩ := hmarked.reported id t' hold
      exact ⟨inv', hinv', r, hresults.symm ▸ List.mem_append_left _ hr, heq⟩

theorem Kept.conclude (h : Kept c) (id : String) (outcome : Outcome) :
    Kept (c.conclude id outcome) :=
  ⟨h.traffic, fun id' t hget => h.reported id' t (KeyMap.get?_delete_some hget).2⟩

/-- The events of sockets and timers. -/
theorem Kept.congr (h : Kept c) (htraffic : c'.traffic = c.traffic)
    (hpending : c'.pending = c.pending ∨ c'.pending = .empty) : Kept c' := by
  refine ⟨htraffic ▸ h.traffic, fun id t hget => ?_⟩
  obtain heq | heq := hpending
  · have hinvokes : c'.invokes = c.invokes := congrArg Traffic.invokes htraffic
    rw [heq] at hget
    rw [hinvokes, htraffic]
    exact h.reported id t hget
  · rw [heq, KeyMap.get?_empty] at hget
    cases hget

theorem Kept.message {signs : String → Bool} {s : Nat} {frame : Json} {now : TimeValue} (h : Kept c)
    (hread : Scripted.Handles e signs c frame now) (haccepted : Accepted c (.message s (some frame) now))
    (hhandled : Handled e c s frame c') : Kept c' := by
  obtain ⟨hrefused, hunused⟩ := haccepted
  cases hhandled with
  | ignored => exact h
  | challenged => exact h.congr rfl (.inl rfl)
  | connects =>
    have hsent : Kept {c with connectSent := true} := h.congr rfl (.inl rfl)
    exact hsent.attempt_other (fun _ => by simp) (fun _ => by simp)
  | invoked hinv => exact h.receive (hunused _ hinv)
  | @unhandled inv hinv _ =>
    have hreceived : (c.receive inv).invokes c.received = some inv := Function.update_self ..
    exact (h.receive (hunused _ hinv)).settled hreceived (invokeOf_new hinv).2 fun _ => rfl
  | @answered id waiter hid hw =>
    obtain heq | ⟨t, inv, message, rfl, hrejected, -, heq⟩ :=
      resume_attempt e (c.conclude id (responseOutcome e frame)) waiter
        (responseOutcome e frame)
    · rw [heq]
      exact h.conclude id _
    · -- the report was refused on no open socket
      have hok : optTruthy (frame.get? "ok") = false := by
        unfold responseOutcome at hrejected
        split at hrejected
        · cases hrejected
        · next hok => exact Bool.eq_false_iff.mpr hok
      have hnone : (c.conclude id (responseOutcome e frame)).current = none :=
        hrefused id t hid hw hok (hread.response id _ hid hw hok)
      rw [heq, attemptResult_none e hnone]
      exact h.conclude id _

theorem step_kept {signs : String → Bool} {l : Label} (h : Kept c) (hs : Step e c l c')
    (hfinishes : Scripted.Finishes e signs c l) (haccepted : Accepted c l) : Kept c' := by
  cases hs with
  | start => exact h.congr (start_traffic c) (.inl (congrArg Promises.pending (start_promises c).1))
  | opened => exact h.congr rfl (.inl rfl)
  | @message s frame now _ =>
    cases frame with
    | none => exact h
    | some frame => exact h.message hfinishes haccepted (onMessage_handled e c s frame now)
  | error => exact h
  | closing => exact h.congr rfl (.inl rfl)
  | @closed s code =>
    exact h.congr (onClose_traffic e c s code) (.inr (congrArg Promises.pending (onClose_promises e c s code).1))
  | @timer handle _ _ =>
    have hfired : Kept {c with timers := c.timers.filter (·.1 ≠ handle), reconnectTimer := none} := h.congr rfl (.inl rfl)
    exact hfired.congr (start_traffic _) (.inl (congrArg Promises.pending (start_promises _).1))
  | stop => exact h.congr (stop_traffic e c) (.inr (congrArg Promises.pending (stop_promises e c).1))
  | @request method params =>
    show Kept (attempt e c .caller method (.other params))
    exact h.attempt_other (fun _ => by simp) (fun _ => by simp)
  | @settled t inv returned hinv hrun =>
    rw [onInvokeSettled_eq]
    exact h.settled hinv hrun haccepted.1

/-! ### Steps that break it -/

/-- A refused report and a value that cannot be encoded show at once. -/
theorem step_answered {l : Label} (h : Kept c) (hs : Step e c l c') (hone : c'.traffic.OneResult) : Answered c l := by
  cases hs with
  | @message s frame now _ =>
    cases frame with
    | none => trivial
    | some frame =>
      intro id t hid hget hok _
      by_contra hne
      obtain ⟨w, hw⟩ := Option.ne_none_iff_exists'.mp hne
      obtain ⟨inv, hinv, r, hr, hrid⟩ := h.reported id t hget
      have hw : (c.conclude id (responseOutcome e frame)).current = some w := hw
      have hinv : (c.conclude id (responseOutcome e frame)).invokes t = some inv := hinv
      rw [onMessage_response e hid hget, resume_refused e hinv hok] at hone
      have hnodup := hone.once
      rw [attemptResult_results e hw, List.map_append, List.nodup_append] at hnodup
      exact hnodup.2.2 inv.id (List.mem_map.mpr ⟨r, hr, hrid⟩) inv.id (List.mem_singleton_self _) rfl
  | @settled t inv returned hinv _ =>
    intro hne
    obtain ⟨w, hw⟩ := Option.ne_none_iff_exists'.mp hne
    cases returned with
    | unserializable message =>
      have hw : (c.mark t inv (.unserializable message)).current = some w := hw
      rw [onInvokeSettled_eq, attemptResult, attempt_some e hw] at hone
      obtain ⟨t', inv', returned', ht', hinv', -, hret, hok⟩ :=
        hone.flag _ (List.mem_append_right _ (List.mem_singleton_self _)) _ rfl
      obtain rfl : t = t' := Option.some.inj ht'
      obtain rfl := Option.some.inj ((mark_invokes_self c t inv _).symm.trans hinv')
      obtain rfl := Option.some.inj hret
      exact absurd (hok.mpr rfl) (by simp [reportResult])
    | _ => rfl
  | _ => trivial

/-! ### What throws -/

namespace Scripted

variable {signs : String → Bool} {l : Label}

theorem Thrown.kept {frame : Json} {now : TimeValue} (h : Thrown e signs c frame now c') (hkept : Kept c) : Kept c' := by
  cases h with
  | challenge => exact hkept.congr rfl (.inl rfl)
  | response => exact ⟨hkept.traffic, fun id t hget => hkept.reported id t (KeyMap.get?_delete_some hget).2⟩

theorem step_kept (h : Kept c) (hs : Step e signs c l c') (haccepted : Accepted c l) : Kept c' := by
  obtain ⟨hs, hfinishes⟩ | ⟨s, frame, now, rfl, hthrown⟩ := hs.cases
  · exact GatewayNodeClient.step_kept h hs hfinishes haccepted
  · exact hthrown.kept h

theorem run_kept {ls : List Label} (h : ((client e signs).restrict Accepted).Run ls c) : Kept c := by
  apply h.invariant (I := fun _ c => Kept c)
  · rintro c rfl
    exact new_kept
  · exact fun _ _ _ _ _ hI hs => step_kept hI hs.1 hs.2

/-- The refusal that throws is none that can be read. -/
theorem step_answered (h : Kept c) (hs : Step e signs c l c') (hone : c'.traffic.OneResult) : Answered c l := by
  obtain ⟨hs, -⟩ | ⟨s, frame, now, rfl, hthrown⟩ := hs.cases
  · exact GatewayNodeClient.step_answered h hs hone
  · intro id t hid _ _ hconverts
    cases hthrown with
    | challenge hc =>
      have hnone : responds? frame = none := by simp [responds?, hc.1]
      cases hnone.symm.trans hid
    | response _ _ _ hthrows => exact absurd (hthrows.symm.trans hconverts) (by decide)

end Scripted

end

/-- **An invoke has one result at most, and its flag says whether `onInvoke` resolved**,
as long as the steps are accepted. -/
theorem one_result {e : Setup} {signs : String → Bool} {ls : List Label} {c : GatewayNodeClient}
    (h : ((Scripted.client e signs).restrict Accepted).Run ls c) :
    c.traffic.OneResult ∧ ∀ l c', Scripted.Step e signs c l c' → c'.traffic.OneResult → Answered c l :=
  ⟨(Scripted.run_kept h).traffic.one, fun _ _ => Scripted.step_answered (Scripted.run_kept h)⟩

/-- A report that the gateway acknowledges. -/
theorem one_result_acknowledged : ∃ c, ((Scripted.client demo Scripted.keysSign).restrict Accepted).Run [.start, .opened 0,
      .message 0 (some demoInvoke) demoTime, .settled 0 (.value none),
      .message 0 (some (resFrame "0" true)) demoTime] c ∧
    c.traffic.OneResult ∧ c.traffic.results.map InvokeResult.ok = [true] := by
  have h₀ : ((Scripted.client demo Scripted.keysSign).restrict Accepted).Run [] new := .nil rfl
  have h₁ := h₀.snoc ⟨Scripted.Step.of_handles (l := .start) (.start rfl) trivial, trivial, trivial⟩
  have h₂ := h₁.snoc ⟨Scripted.Step.of_handles (l := .opened 0) (.opened rfl) trivial, trivial, trivial⟩
  have h₃ := h₂.snoc ⟨Scripted.Step.of_handles (l := .message 0 (some demoInvoke) demoTime) (.message (.inl rfl))
    (Scripted.demoInvoke_handles _), fun _ _ hid => (nomatch hid), fun _ _ => ⟨fun _ _ h => (nomatch h), fun _ h => (nomatch h)⟩⟩
  have h₄ := h₃.snoc ⟨Scripted.Step.of_handles (l := .settled 0 (.value none)) (.settled rfl rfl) trivial, fun _ => rfl, trivial⟩
  have h₅ := h₄.snoc ⟨Scripted.Step.of_handles (l := .message 0 (some (resFrame "0" true)) demoTime) (.message (.inl rfl))
    (Scripted.resFrame_handles _ _ _), fun _ _ _ _ hok => (nomatch hok), fun _ hinv => (nomatch hinv)⟩
  exact ⟨_, h₅, (one_result h₅).1, rfl⟩

/-- The gateway refuses the report of a handler that resolved: a second result says
that it failed. -/
theorem refused_report : ¬ ∀ e signs ls c, (Scripted.client e signs).Run ls c → c.traffic.OneResult := by
  intro hall
  have h₀ : (Scripted.client demo Scripted.keysSign).Run [] new := .nil rfl
  have h₁ := h₀.snoc (Scripted.Step.of_handles (l := .start) (.start rfl) trivial)
  have h₂ := h₁.snoc (Scripted.Step.of_handles (l := .opened 0) (.opened rfl) trivial)
  have h₃ := h₂.snoc (Scripted.Step.of_handles (l := .message 0 (some demoChallenge) demoTime) (.message (.inl rfl))
    (Scripted.demoChallenge_handles _))
  have h₄ := h₃.snoc (Scripted.Step.of_handles (l := .message 0 (some demoInvoke) demoTime) (.message (.inl rfl))
    (Scripted.demoInvoke_handles _))
  have h₅ := h₄.snoc (Scripted.Step.of_handles (l := .settled 0 (.value none)) (.settled rfl rfl) trivial)
  have h₆ := h₅.snoc (Scripted.Step.of_handles (l := .message 0 (some (resFrame "00" false)) demoTime) (.message (.inl rfl))
    (Scripted.resFrame_handles _ _ _))
  have hids := (hall _ _ _ _ h₆).once
  have hnodup : ([.str "i", .str "i"] : List Json).Nodup := hids
  simp at hnodup

end GatewayNodeClient
end RtcPlugin.TsNode
