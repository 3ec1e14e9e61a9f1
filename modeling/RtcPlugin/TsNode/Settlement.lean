import RtcPlugin.TsNode.Throws

/-! How the promises of `request` settle.

A step keeps every promise's standing, so the first label after a request that has an
outcome for it is the one that settles it (`settlement`). The exception is a refusal whose
message cannot be read: its promise has left the map when the reading throws, and nobody
settles it any more (`unreadable_refusal`). -/
namespace RtcPlugin.TsNode.GatewayNodeClient
open Auth (TimeValue)
open Promises

/-- The message of a refusal, if it has one, can be read. -/
def Readable (c : GatewayNodeClient) : Label → Prop
  | .message _ (some frame) _ => ∀ id waiter, responds? frame = some id → c.pending.get? id = some waiter →
      optTruthy (frame.get? "ok") = false → Scripted.Converts (Scripted.messageOf frame) = true
  | _ => True

/-- The map holds the requests that are not settled, and no request is settled twice. -/
structure Accounted (e : Setup) (c : GatewayNodeClient) : Prop where
  pending : ∀ id, (∃ waiter, c.pending.get? id = some waiter) ↔
    ∃ n, n < c.drawn ∧ id = e.randomUUID n ∧ c.promises.outcomes id = []
  once : ∀ id, (c.promises.outcomes id).length ≤ 1
  issued : ∀ id, c.promises.outcomes id ≠ [] → ∃ n, n < c.drawn ∧ id = e.randomUUID n

/-- Identifiers not drawn yet stand for no request. -/
def Undrawn (e : Setup) (c : GatewayNodeClient) : Prop :=
  ∀ id, (∀ n, n < c.drawn → id ≠ e.randomUUID n) → c.promises.Stands id .unissued

/-- Closes and stops. -/
def Label.flushes : Label → Bool
  | .closed .. | .stop => true
  | _ => false

namespace Scripted

section
variable {e : Setup} {signs : String → Bool} {c c' : GatewayNodeClient} {l : Label}

/-! ### One step -/

/-- A challenge that throws settles and issues nothing. -/
theorem step_promises (h : Step e signs c l c') (hread : Readable c l) : Draws e (l.applied e c.promises) c.drawn c' := by
  obtain ⟨h, -⟩ | ⟨s, frame, now, rfl, hthrown⟩ := h.cases
  · exact GatewayNodeClient.step_promises e h
  · cases hthrown with
    | challenge hc =>
      have hnone : responds? frame = none := by simp [responds?, hc.1]
      have happlied : (Label.message s (some frame) now).applied e c.promises = c.promises := by
        simp only [Label.applied, hnone]
      rw [happlied]
      exact .inl ⟨rfl, rfl⟩
    | response hid hw hok hthrows => exact absurd (hthrows.symm.trans (hread _ _ hid hw hok)) (by decide)

theorem flushes_pending (h : Step e signs c l c') (hl : l.flushes = true) : c'.pending = .empty := by
  obtain ⟨h, -⟩ | ⟨s, frame, now, rfl, -⟩ := h.cases
  · cases h with
    | closed => exact congrArg Promises.pending (onClose_promises ..).1
    | stop => exact congrArg Promises.pending (stop_promises ..).1
    | _ => cases hl
  · cases hl

/-! ### Standings -/

theorem Undrawn.of_le (h : Undrawn e c) {n : Nat} (hn : c.drawn ≤ n) : c.promises.Stands (e.randomUUID n) .unissued := by
  apply h
  intro m hm heq
  have := e.fresh heq
  omega

theorem next_unissued (o : Option Outcome) : (Standing.unissued : Standing Outcome).next o = .unissued := by
  cases o <;> rfl

theorem step_undrawn (h : Undrawn e c) (hs : Step e signs c l c') (hread : Readable c l) : Undrawn e c' := by
  intro id hid
  rcases step_promises hs hread with ⟨hp, hd⟩ | ⟨waiter, hp, hd⟩
  · rw [hd] at hid
    rw [hp]
    exact next_unissued (l.outcome e id) ▸ applied_stands e (h id hid) l
  · rw [hd] at hid
    rw [hp]
    apply stands_add_ne
    · exact next_unissued (l.outcome e id) ▸ applied_stands e (h id fun n hn => hid n (Nat.lt_succ_of_lt hn)) l
    · exact hid c.drawn (Nat.lt_succ_self _)

theorem run_undrawn {ls : List Label} (h : ((client e signs).restrict Readable).Run ls c) : Undrawn e c := by
  apply h.invariant (I := fun _ c => Undrawn e c)
  · rintro c rfl id _
    exact ⟨rfl, rfl⟩
  · exact fun _ _ _ _ _ hI hs => step_undrawn hI hs.1 hs.2

/-- A request that was issued stands as its labels say. -/
theorem step_stands {n : Nat} {st : Standing Outcome} (hs : Step e signs c l c') (hread : Readable c l) (hn : n < c.drawn)
    (h : c.promises.Stands (e.randomUUID n) st) :
    c'.promises.Stands (e.randomUUID n) (st.next (l.outcome e (e.randomUUID n))) ∧ n < c'.drawn := by
  have happ := applied_stands e h l
  rcases step_promises hs hread with ⟨hp, hd⟩ | ⟨waiter, hp, hd⟩
  · rw [hp, hd]
    exact ⟨happ, hn⟩
  · rw [hp, hd]
    refine ⟨stands_add_ne happ (fun heq => ?_) waiter, by omega⟩
    have := e.fresh heq
    omega

/-- The request a step issues waits. -/
theorem step_issues {n : Nat} (h : Undrawn e c) (hs : Step e signs c l c') (hread : Readable c l) (hn : c.drawn ≤ n)
    (hn' : n < c'.drawn) : c'.promises.Stands (e.randomUUID n) .waiting := by
  rcases step_promises hs hread with ⟨_, hd⟩ | ⟨waiter, hp, hd⟩
  · omega
  · obtain rfl : n = c.drawn := by omega
    rw [hp]
    apply stands_add_self
    exact next_unissued (l.outcome e _) ▸ applied_stands e (Undrawn.of_le h hn) l

/-- How a request stands after some events: the first that has an outcome settles it. -/
def verdict (e : Setup) (id : String) (ls : List Label) : Standing Outcome :=
  match ls.findSome? (Label.outcome e id) with
  | some o => .settled o
  | none => .waiting

theorem verdict_snoc (id : String) (ls : List Label) (l : Label) :
    verdict e id (ls ++ [l]) = (verdict e id ls).next (l.outcome e id) := by
  unfold verdict
  rw [List.findSome?_append]
  cases ls.findSome? (Label.outcome e id) with
  | some o => rfl
  | none =>
    rw [Option.none_or, List.findSome?_singleton]
    cases l.outcome e id <;> rfl

theorem steps_verdict {s : GatewayNodeClient} {after : List Label} {n : Nat}
    (h : ((client e signs).restrict Readable).Steps s after c) (hn : n < s.drawn)
    (hs : s.promises.Stands (e.randomUUID n) .waiting) :
    c.promises.Stands (e.randomUUID n) (verdict e (e.randomUUID n) after) ∧ n < c.drawn := by
  induction h with
  | nil => exact ⟨hs, hn⟩
  | @snoc ls l t u _ hl ih =>
    rw [verdict_snoc]
    exact step_stands hl.1 hl.2 ih.2 ih.1

/-- A request is issued by one of the steps. -/
theorem run_stands {ls : List Label} (h : ((client e signs).restrict Readable).Run ls c) {n : Nat} (hn : n < c.drawn) :
    ∃ st, st ≠ .unissued ∧ c.promises.Stands (e.randomUUID n) st := by
  refine h.invariant (I := fun _ c => ∀ n, n < c.drawn → ∃ st, st ≠ .unissued ∧
    c.promises.Stands (e.randomUUID n) st) ?_ ?_ n hn
  · rintro c rfl n hn
    exact absurd hn (Nat.not_lt_zero n)
  · intro ls c l c' hrun hI hs n hn
    by_cases hold : n < c.drawn
    · obtain ⟨st, hst, hstands⟩ := hI n hold
      refine ⟨_, ?_, (step_stands hs.1 hs.2 hold hstands).1⟩
      cases st with
      | unissued => exact absurd rfl hst
      | waiting => cases l.outcome e (e.randomUUID n) <;> simp [Standing.next]
      | settled o => simp [Standing.next]
    · exact ⟨.waiting, by simp, step_issues (run_undrawn hrun) hs.1 hs.2 (Nat.le_of_not_lt hold) hn⟩

/-! ### The account -/

theorem run_accounted {ls : List Label} (h : ((client e signs).restrict Readable).Run ls c) : Accounted e c := by
  have hundrawn := run_undrawn h
  refine ⟨fun id => ⟨?_, ?_⟩, fun id => ?_, fun id hout => ?_⟩
  · rintro ⟨waiter, hw⟩
    by_contra hnone
    push Not at hnone
    by_cases hid : ∃ n, n < c.drawn ∧ id = e.randomUUID n
    · obtain ⟨n, hn, rfl⟩ := hid
      obtain ⟨st, hst, hstands⟩ := run_stands h hn
      exact hnone n hn rfl ((hstands.waiting_iff hst).mp ⟨waiter, hw⟩)
    · have hget := (hundrawn id fun n hn heq => hid ⟨n, hn, heq⟩).1
      exact absurd (hw.symm.trans hget) (Option.some_ne_none waiter)
  · rintro ⟨n, hn, rfl, hout⟩
    obtain ⟨st, hst, hstands⟩ := run_stands h hn
    exact (hstands.waiting_iff hst).mpr hout
  · by_cases hid : ∃ n, n < c.drawn ∧ id = e.randomUUID n
    · obtain ⟨n, hn, rfl⟩ := hid
      obtain ⟨st, _, hstands⟩ := run_stands h hn
      cases st <;> rw [hstands.2] <;> simp
    · rw [(hundrawn id fun n hn heq => hid ⟨n, hn, heq⟩).2]
      exact Nat.zero_le _
  · by_contra hnone
    exact hout (hundrawn id fun n hn heq => hnone ⟨n, hn, heq⟩).2

/-- A promise that left the map while its message was read is missing from then on. -/
theorem readable_of_accounted (h : Accounted e c) (hs : Step e signs c l c') (h' : Accounted e c') : Readable c l := by
  obtain ⟨-, hfinishes⟩ | ⟨s, frame, now, rfl, hthrown⟩ := hs.cases
  · cases l with
    | message s frame now =>
      cases frame with
      | none => trivial
      | some frame => exact hfinishes.response
    | _ => trivial
  · cases hthrown with
    | challenge hc =>
      intro id waiter hid
      have hnone : responds? frame = none := by simp [responds?, hc.1]
      cases hnone.symm.trans hid
    | @response id waiter _ hw =>
      obtain ⟨n, hn, heq, hout⟩ := (h.pending id).mp ⟨waiter, hw⟩
      obtain ⟨waiter', hw'⟩ := (h'.pending id).mpr ⟨n, hn, heq, hout⟩
      exact absurd (KeyMap.get?_delete_some hw').1 (fun hne => hne rfl)

end

end Scripted

/-- **A request settles at most once, exactly as long as refusals can be read**: by the first
event after it that is a response with its identifier, a close or a stop, and as that event
says; the map holds the requests that are not settled. -/
theorem settlement {e : Setup} {signs : String → Bool} {ls : List Label} {c : GatewayNodeClient}
    (h : ((Scripted.client e signs).restrict Readable).Run ls c) :
    Accounted e c ∧
      (∀ l c', Scripted.Step e signs c l c' → l.flushes = true → c'.pending = .empty) ∧
      (∀ l s after c', Scripted.Step e signs c l s → Readable c l →
        ((Scripted.client e signs).restrict Readable).Steps s after c' → ∀ n, c.drawn ≤ n → n < s.drawn →
          c'.promises.outcomes (e.randomUUID n) = (after.findSome? (Label.outcome e (e.randomUUID n))).toList) ∧
      ∀ l c', Scripted.Step e signs c l c' → (Accounted e c' ↔ Readable c l) := by
  have haccounted := Scripted.run_accounted h
  refine ⟨haccounted, fun _ _ => Scripted.flushes_pending, fun l s after c' hl hread hafter n hn hn' => ?_, fun l c' hs => ?_⟩
  · have hwaits := Scripted.step_issues (Scripted.run_undrawn h) hl hread hn hn'
    have hstands := (Scripted.steps_verdict hafter hn' hwaits).1
    unfold Scripted.verdict at hstands
    cases hv : after.findSome? (Label.outcome e (e.randomUUID n)) with
    | none =>
      rw [hv] at hstands
      exact hstands.2
    | some o =>
      rw [hv] at hstands
      exact hstands.2
  · refine ⟨Scripted.readable_of_accounted haccounted hs, fun hread => ?_⟩
    exact Scripted.run_accounted (h.snoc (M := (Scripted.client e signs).restrict Readable) ⟨hs, hread⟩)

/-- The client whose caller waits for a first response. -/
def asked : GatewayNodeClient := issue demo (new.start.onOpen 0) 0 .caller "status" (.other none)

theorem asked_run : ((Scripted.client demo Scripted.keysSign).restrict Readable).Run [.start, .opened 0] (new.start.onOpen 0) ∧
    Scripted.Step demo Scripted.keysSign (new.start.onOpen 0) (.request "status" none) asked := by
  have h₀ : ((Scripted.client demo Scripted.keysSign).restrict Readable).Run [] new := .nil rfl
  have h₁ := h₀.snoc ⟨Scripted.Step.of_handles (l := .start) (.start rfl) trivial, trivial⟩
  have h₂ := h₁.snoc ⟨Scripted.Step.of_handles (l := .opened 0) (.opened rfl) trivial, trivial⟩
  exact ⟨h₂, Scripted.Step.of_handles (l := .request "status" none) .request trivial⟩

/-- Of a response and the close after it, the response settles. -/
theorem settlement_answered : ∃ c, (Scripted.client demo Scripted.keysSign).Steps asked
      [.message 0 (some (resFrame "0" true)) demoTime, .closed 0 1006] c ∧
    c.promises.outcomes "0" = [.resolved none] ∧ c.pending = .empty := by
  obtain ⟨hrun, hreq⟩ := asked_run
  have hread : Readable asked (.message 0 (some (resFrame "0" true)) demoTime) := fun _ _ _ _ hok => (nomatch hok)
  have hanswer := Scripted.Step.of_handles (c := asked) (l := .message 0 (some (resFrame "0" true)) demoTime) (.message (.inl rfl))
    (Scripted.resFrame_handles _ _ _)
  have hclose : Scripted.Step demo Scripted.keysSign
      (GatewayNodeClient.onMessage demo asked 0 (some (resFrame "0" true)) demoTime) (.closed 0 1006) _ :=
    Scripted.Step.of_handles (.closed (by decide)) trivial
  have h₀ : ((Scripted.client demo Scripted.keysSign).restrict Readable).Steps asked [] asked := .nil
  have h₁ := h₀.snoc ⟨hanswer, hread⟩
  have h₂ := h₁.snoc ⟨hclose, trivial⟩
  have hanswered := (hrun.snoc ⟨hreq, trivial⟩).append h₁
  exact ⟨_, h₂.of_restrict, (settlement hrun).2.2.1 _ _ _ _ hreq trivial h₂ 0 (by decide) (by decide),
    (settlement hanswered).2.1 _ _ hclose rfl⟩

/-- A refusal whose message is an object with a `toString` that is no function. -/
def unreadableFrame (id : String) : Json :=
  .obj [("type", .str "res"), ("id", .str id), ("ok", .bool false),
    ("error", .obj [("message", .obj [("toString", .num ⟨1, 0, true⟩)])])]

/-- The refused request leaves the map and is never settled. -/
theorem unreadable_refusal : ¬ ∀ e signs ls c, (Scripted.client e signs).Run ls c → Accounted e c := by
  intro hall
  obtain ⟨hrun, hreq⟩ := asked_run
  have hasked := hrun.of_restrict.snoc hreq
  have hrefused : Scripted.Step demo Scripted.keysSign asked (.message 0 (some (unreadableFrame "0")) demoTime) _ :=
    .message (.inl rfl)
  have hread := Scripted.readable_of_accounted (hall _ _ _ _ hasked) hrefused (hall _ _ _ _ (hasked.snoc hrefused))
  have hconverts : (Json.toText (.obj [("toString", .num ⟨1, 0, true⟩)])).isSome = true := hread "0" .caller rfl rfl rfl
  rw [Json.toText] at hconverts
  cases hconverts

end RtcPlugin.TsNode.GatewayNodeClient
