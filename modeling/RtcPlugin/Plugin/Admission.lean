import RtcPlugin.Plugin.Orchestrator

/-! Admission: slots and sessions.

The session check of `startCall` looks only at the latest call of its session.
It is sound because every live call is the latest of its session, which no
method can undo: `Admitted` is that invariant with the slot bound, `step_admitted`
keeps it over one method and `run_admitted` over every run. -/
namespace RtcPlugin.CallOrchestrator

/-- The session and the call of a start that succeeded. -/
def Event.started? (e : Event) : Option (String × String) :=
  match e.op, e.threw with
  | .startCall params uuid, none => some (params.sessionKey, uuid)
  | _, _ => none

/-- The call most recently started for a session. -/
def lastStarted (sessionKey : String) (history : List Event) : Option String :=
  (history.filterMap Event.started?).reverse.lookup sessionKey

theorem started?_eq_none {e : Event} (h : e.op.isStart = false ∨ e.threw ≠ none) : e.started? = none := by
  obtain ⟨op, now, threw⟩ := e
  cases op <;> cases threw <;> simp_all [Event.started?, Op.isStart]

theorem lastStarted_snoc (k : String) (history : List Event) (e : Event) :
    lastStarted k (history ++ [e]) = match e.started? with
      | some (k', id) => if k = k' then some id else lastStarted k history
      | none => lastStarted k history := by
  unfold lastStarted
  rw [List.filterMap_append, List.filterMap_cons, List.filterMap_nil]
  cases e.started? with
  | none => simp
  | some p =>
    obtain ⟨k', id⟩ := p
    simp only [List.reverse_append, List.reverse_singleton, List.singleton_append, List.lookup_cons]
    by_cases hk : k = k'
    · simp [hk]
    · have hk' : (k == k') = false := beq_eq_false_iff_ne.mpr hk
      simp [hk, hk']

/-- Every live call is the latest of its session, and the live calls fit the slots. -/
structure Admitted (history : List Event) (o : CallOrchestrator) : Prop where
  keyed : ∀ id c, o.calls.get? id = some c → c.callId = id
  named : o.calls.get? "" = none
  latest : ∀ k, o.sessionCallMap.get? k = lastStarted k history
  known : ∀ k id, o.sessionCallMap.get? k = some id → ∃ c, o.calls.get? id = some c ∧ c.sessionKey = k
  current : ∀ id c, o.calls.get? id = some c → c.live = true →
    o.sessionCallMap.get? c.sessionKey = some id
  bounded : o.activeCalls ≤ o.options.maxConcurrentCalls

/-- What every guarded change keeps: the identity of the record, and that an
ended call stays ended. -/
theorem RecordStep.keeps {now : Int} {c c' : RtcCallRecord} {op : Op} (h : RecordStep now c op c') :
    c'.callId = c.callId ∧ c'.sessionKey = c.sessionKey ∧ (c'.live = true → c.live = true) := by
  cases h with
  | answered hs => exact ⟨rfl, rfl, fun _ => by rw [RtcCallRecord.live, hs]; rfl⟩
  | localCandidate hl | remoteCandidate hl | ended hl _ _ => exact ⟨rfl, rfl, fun _ => hl⟩
  | activated hs =>
    refine ⟨rfl, rfl, fun _ => ?_⟩
    rcases hs with hs | hs <;> rw [RtcCallRecord.live, hs] <;> rfl
  | said => exact ⟨rfl, rfl, id⟩

/-- A busy session is one whose latest call is live. -/
theorem Admitted.busy_iff {history : List Event} {o : CallOrchestrator} (h : Admitted history o)
    (k : String) : o.Busy k ↔ ∃ id c, o.calls.get? id = some c ∧ c.sessionKey = k ∧ c.live = true := by
  constructor
  · rintro ⟨c, hc, hl⟩
    unfold getCallBySession at hc
    cases hs : o.sessionCallMap.get? k with
    | none => simp [hs] at hc
    | some id =>
      obtain ⟨c', hc', hk⟩ := h.known k id hs
      by_cases hid : id = ""
      · simp [hs, hid] at hc
      · have : c' = c := by simpa [hs, hid, hc'] using hc
        exact ⟨id, c, this ▸ hc', this ▸ hk, hl⟩
  · rintro ⟨id, c, hc, rfl, hl⟩
    have hid : id ≠ "" := fun he => by
      rw [he, h.named] at hc
      cases hc
    exact ⟨c, by simp [getCallBySession, h.current id c hc hl, hid, hc], hl⟩

theorem started_admitted {history : List Event} {o : CallOrchestrator} (h : Admitted history o)
    {params : StartCallParams} {uuid : String} (now : Int) (hne : uuid ≠ "")
    (hnew : o.calls.get? uuid = none) (hcap : o.activeCalls < o.options.maxConcurrentCalls)
    (hfree : ¬ o.Busy params.sessionKey) :
    Admitted (history ++ [⟨.startCall params uuid, now, none⟩]) (o.started params uuid now) := by
  have hcalls (id : String) : (o.started params uuid now).calls.get? id =
      if id = uuid then some (newCall params uuid now) else o.calls.get? id := KeyMap.get?_set ..
  have hmap (k : String) : (o.started params uuid now).sessionCallMap.get? k =
      if k = params.sessionKey then some uuid else o.sessionCallMap.get? k := KeyMap.get?_set ..
  refine ⟨fun id c hc => ?_, ?_, fun k => ?_, fun k id hs => ?_, fun id c hc hl => ?_, ?_⟩
  · rw [hcalls] at hc
    split at hc
    · next he => rw [← Option.some.inj hc, he]; rfl
    · exact h.keyed id c hc
  · rw [hcalls, if_neg (Ne.symm hne), h.named]
  · rw [hmap, lastStarted_snoc, h.latest]
    rfl
  · rw [hmap] at hs
    split at hs
    · next he =>
      obtain rfl := Option.some.inj hs
      exact ⟨_, by rw [hcalls, if_pos rfl], he.symm⟩
    · obtain ⟨c, hc, hk⟩ := h.known k id hs
      have hid : id ≠ uuid := fun he => by
        rw [he, hnew] at hc
        cases hc
      exact ⟨c, by rw [hcalls, if_neg hid, hc], hk⟩
  · rw [hcalls] at hc
    rw [hmap]
    split at hc
    · next he => rw [← Option.some.inj hc, he]; exact if_pos rfl
    · -- an older live call is not of this session: the session was free
      have hk : c.sessionKey ≠ params.sessionKey := fun he =>
        hfree ((h.busy_iff _).mpr ⟨id, c, hc, he, hl⟩)
      rw [if_neg hk]
      exact h.current id c hc hl
  · show (o.calls.set uuid (newCall params uuid now)).values.countP RtcCallRecord.live ≤ _
    rw [KeyMap.countP_values_new _ hnew]
    exact Nat.succ_le_of_lt hcap

theorem changed_admitted {history : List Event} {o : CallOrchestrator} (h : Admitted history o) {e : Event}
    (he : e.started? = none) {id : String} {c : RtcCallRecord} {f : RtcCallRecord → RtcCallRecord}
    (hc : o.calls.get? id = some c) (hstep : RecordStep e.now c e.op (f c)) :
    Admitted (history ++ [e]) (o.modifyCall id f) := by
  obtain ⟨hid, hkey, hlive⟩ := hstep.keeps
  have hself : (o.modifyCall id f).calls.get? id = some (f c) := by
    show (o.calls.modify id f).get? id = _
    rw [KeyMap.get?_modify_self, hc]
    rfl
  have hother {id' : String} (hne : id' ≠ id) : (o.modifyCall id f).calls.get? id' = o.calls.get? id' :=
    KeyMap.get?_modify_ne _ _ hne
  have hnamed : id ≠ "" := fun he => by
    rw [he, h.named] at hc
    cases hc
  refine ⟨fun id' c' hc' => ?_, ?_, fun k => ?_, fun k id' hs => ?_, fun id' c' hc' hl => ?_, ?_⟩
  · by_cases hne : id' = id
    · rw [hne, hself] at hc'
      rw [← Option.some.inj hc', hid, hne]
      exact h.keyed id c hc
    · exact h.keyed id' c' (hother hne ▸ hc')
  · rw [hother (Ne.symm hnamed), h.named]
  · rw [lastStarted_snoc, he]
    exact h.latest k
  · obtain ⟨c', hc', hk⟩ := h.known k id' hs
    by_cases hne : id' = id
    · rw [hne, hc] at hc'
      exact ⟨f c, by rw [hne, hself], by rw [hkey, Option.some.inj hc', hk]⟩
    · exact ⟨c', by rw [hother hne, hc'], hk⟩
  · by_cases hne : id' = id
    · rw [hne, hself] at hc'
      obtain rfl := Option.some.inj hc'
      rw [hkey, hne]
      exact h.current id c hc (hlive hl)
    · exact h.current id' c' (hother hne ▸ hc') hl
  · have hcount := KeyMap.countP_values_modify RtcCallRecord.live f hc
    have hb : o.calls.values.countP RtcCallRecord.live ≤ o.options.maxConcurrentCalls := h.bounded
    show (o.calls.modify id f).values.countP RtcCallRecord.live ≤ o.options.maxConcurrentCalls
    by_cases hl : (f c).live = true
    · simp only [hl, hlive hl, if_true] at hcount
      omega
    · simp only [hl, Bool.false_eq_true, if_false] at hcount
      by_cases hl' : c.live = true <;>
        simp only [hl', Bool.false_eq_true, if_true, if_false] at hcount <;> omega

/-- One method keeps the invariant, whatever it is called with. -/
theorem step_admitted {history : List Event} {o o' : CallOrchestrator} {e : Event}
    (h : Admitted history o) (hstep : Step o e o') : Admitted (history ++ [e]) o' := by
  have hquiet (he : e.started? = none) : Admitted (history ++ [e]) o :=
    { h with latest := fun k => by rw [lastStarted_snoc, he]; exact h.latest k }
  obtain ⟨hfresh, ⟨hok, hdoes⟩ | ⟨hthrew, rfl⟩⟩ := hstep.does
  · cases hdoes with
    | nothing hop => exact hquiet (started?_eq_none (.inl (Op.isStart_of_ignorable hop)))
    | started hop hcap hfree =>
      obtain ⟨op, now, threw⟩ := e
      subst hok
      subst hop
      exact started_admitted h now hfresh.1 hfresh.2 hcap hfree
    | changed hc hrec => exact changed_admitted h (started?_eq_none (.inl hrec.isStart)) hc hrec
  · exact hquiet (started?_eq_none (.inr hthrew))

theorem new_admitted (options : OrchestratorOptions) : Admitted [] (new options) where
  keyed := fun _ _ h => nomatch h
  named := rfl
  latest := fun _ => rfl
  known := fun _ _ h => nomatch h
  current := fun _ _ h => nomatch h
  bounded := Nat.zero_le _

theorem run_admitted {options : OrchestratorOptions} {history : List Event} {o : CallOrchestrator}
    (h : (system options).Run history o) : Admitted history o :=
  h.invariant (fun _ hs => hs ▸ new_admitted options) fun _ _ _ _ _ hI hstep => step_admitted hI hstep

theorem run_options {options : OrchestratorOptions} {history : List Event} {o : CallOrchestrator}
    (h : (system options).Run history o) : o.options = options := by
  refine h.invariant (I := fun _ s => s.options = options) (fun _ hs => hs ▸ rfl)
    fun _ s _ t _ hI hstep => ?_
  obtain ⟨_, ⟨_, hdoes⟩ | ⟨_, rfl⟩⟩ := Step.does hstep
  · cases hdoes <;> exact hI
  · exact hI

/-- **Slots and sessions over every run.** Never more live calls than slots, one
live call per session, every session mapped to its most recent call, which is
the live one when there is one; and a start is admitted exactly when a slot is
free and its session has no live call. -/
theorem admission {options : OrchestratorOptions} {history : List Event} {o : CallOrchestrator}
    (h : (system options).Run history o) :
    o.activeCalls ≤ options.maxConcurrentCalls ∧
    (∀ id₁ id₂ c₁ c₂, o.getCall id₁ = some c₁ → o.getCall id₂ = some c₂ → c₁.live = true → c₂.live = true →
      c₁.sessionKey = c₂.sessionKey → id₁ = id₂ ∧ c₁ = c₂) ∧
    (∀ k, o.sessionCallMap.get? k = lastStarted k history) ∧
    (∀ k id, o.sessionCallMap.get? k = some id → ∃ c, o.getCall id = some c ∧ c.callId = id ∧ c.sessionKey = k) ∧
    (∀ id c, o.getCall id = some c → c.live = true → o.getCallBySession c.sessionKey = some c) ∧
    ∀ params uuid now, (∃ c o', startCall params uuid now o = .ok c o') ↔
      o.activeCalls < options.maxConcurrentCalls ∧
        ¬ ∃ id c, o.getCall id = some c ∧ c.sessionKey = params.sessionKey ∧ c.live = true := by
  have hA := run_admitted h
  have hopt := run_options h
  refine ⟨hopt ▸ hA.bounded, fun id₁ id₂ c₁ c₂ h₁ h₂ l₁ l₂ hk => ?_, hA.latest, fun k id hs => ?_,
    fun id c hc hl => ?_, fun params uuid now => ?_⟩
  · have e₁ := hA.current id₁ c₁ h₁ l₁
    rw [hk, hA.current id₂ c₂ h₂ l₂] at e₁
    obtain rfl := Option.some.inj e₁
    exact ⟨rfl, Option.some.inj (h₁.symm.trans h₂)⟩
  · obtain ⟨c, hc, hk⟩ := hA.known k id hs
    exact ⟨c, hc, hA.keyed id c hc, hk⟩
  · have hid : id ≠ "" := fun he => by
      rw [getCall, he, hA.named] at hc
      cases hc
    simp only [getCallBySession, hA.current id c hc hl, ne_eq, hid, not_false_eq_true, if_true]
    exact hc
  · rw [startCall_ok_iff, hopt, hA.busy_iff]
    rfl

/-- One slot: the first `startCall` returns, its session maps to its call, and a second one throws. -/
theorem admission_one_slot : ∃ c o, startCall ⟨"offer", "s1"⟩ "c1" 0 (new {maxConcurrentCalls := 1}) = .ok c o ∧
    o.sessionCallMap.get? "s1" = some "c1" ∧ ¬ ∃ c' o', startCall ⟨"offer", "s2"⟩ "c2" 1 o = .ok c' o' := by
  have hempty : (system {maxConcurrentCalls := 1}).Run [] (new {maxConcurrentCalls := 1}) := .nil rfl
  obtain ⟨c, o, hstart⟩ := ((admission hempty).2.2.2.2.2 ⟨"offer", "s1"⟩ "c1" 0).mpr
    ⟨by decide, fun ⟨_, _, hc, _⟩ => nomatch hc⟩
  have hexec : Op.exec 0 (.startCall ⟨"offer", "s1"⟩ "c1") (new {maxConcurrentCalls := 1}) = .ok () o := by
    simp only [Op.exec, Throwing.discard_run, hstart]
  have hstep : Step (new {maxConcurrentCalls := 1}) ⟨.startCall ⟨"offer", "s1"⟩ "c1", 0, none⟩ o :=
    .returned ⟨by decide, rfl⟩ hexec
  have hrun := hempty.snoc hstep
  have hlatest : o.sessionCallMap.get? "s1" = some "c1" := (admission hrun).2.2.1 "s1"
  refine ⟨c, o, hstart, hlatest, fun hsecond => ?_⟩
  have hfree := (((admission hrun).2.2.2.2.2 ⟨"offer", "s2"⟩ "c2" 1).mp hsecond).1
  have hcall : o.activeCalls = 1 := by
    cases hstart
    rfl
  rw [hcall] at hfree
  exact absurd hfree (by decide)

end RtcPlugin.CallOrchestrator
