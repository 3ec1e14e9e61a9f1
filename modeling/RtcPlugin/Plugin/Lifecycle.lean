import RtcPlugin.Plugin.Orchestrator

/-! The life of one call over whole runs.

A record only grows older: `Later` relates it to itself after any number of
method calls. Its time stamps, its end and its answer record what happened to it
(`Recorded`), and a method touches the record it names and no other. -/
namespace RtcPlugin

/-- initiating < connecting < active < terminal -/
def RtcCallState.rank : RtcCallState → Nat
  | .initiating => 0
  | .connecting => 1
  | .active => 2
  | .hangupUser | .hangupNode | .timeout | .error => 3

theorem RtcCallState.rank_terminal {s : RtcCallState} (h : s.terminal = true) : s.rank = 3 := by
  cases s <;> first | rfl | cases h

theorem RtcCallState.rank_le (s : RtcCallState) : s.rank ≤ 3 := by
  cases s <;> decide

theorem live_not_terminal {c : RtcCallRecord} (h : c.live = true) : c.state.terminal ≠ true := by
  simpa [RtcCallRecord.live] using h

namespace CallOrchestrator

/-- A record and the same record later. -/
structure Later (c c' : RtcCallRecord) : Prop where
  forward : c.state.rank ≤ c'.state.rank
  frozen : c.state.terminal = true → c' = {c with transcript := c'.transcript}
  connected : c.connectedAt.isSome = true → c'.connectedAt.isSome = true

theorem Later.refl (c : RtcCallRecord) : Later c c := ⟨Nat.le_refl _, fun _ => rfl, id⟩

theorem Later.trans {c c' c'' : RtcCallRecord} (h : Later c c') (h' : Later c' c'') : Later c c'' where
  forward := Nat.le_trans h.forward h'.forward
  frozen := fun ht => by
    have hc' := h.frozen ht
    have hc'' := h'.frozen (by rw [hc']; exact ht)
    rw [hc'', hc']
  connected := fun hc => h'.connected (h.connected hc)

theorem RecordStep.later {now : Int} {c c' : RtcCallRecord} {op : Op} (h : RecordStep now c op c') :
    Later c c' := by
  cases h with
  | answered hs =>
    refine ⟨by simp [hs, RtcCallState.rank], fun ht => ?_, id⟩
    rw [hs] at ht
    cases ht
  | localCandidate hl | remoteCandidate hl =>
    exact ⟨Nat.le_refl _, fun ht => absurd ht (live_not_terminal hl), id⟩
  | activated hs =>
    refine ⟨?_, fun ht => ?_, fun _ => rfl⟩
    · rcases hs with hs | hs <;> simp [hs, RtcCallState.rank]
    · rcases hs with hs | hs <;> rw [hs] at ht <;> cases ht
  | ended hl hst _ =>
    refine ⟨?_, fun ht => absurd ht (live_not_terminal hl), id⟩
    rw [RtcCallState.rank_terminal hst]
    exact c.state.rank_le
  | said => exact ⟨Nat.le_refl _, fun _ => rfl, id⟩

/-! ### Frame -/

theorem Does.other {now : Int} {o o' : CallOrchestrator} {op : Op} (h : Does now o op o') {id : String}
    (hid : id ≠ op.callId) : o'.getCall id = o.getCall id := by
  cases h with
  | nothing _ => rfl
  | started hop _ _ =>
    subst hop
    exact KeyMap.get?_set_ne _ _ hid
  | changed _ _ => exact KeyMap.get?_modify_ne _ _ hid

/-- Only an admitted start writes the session map. -/
theorem Does.sessions {now : Int} {o o' : CallOrchestrator} {op : Op} (h : Does now o op o')
    (hop : op.isStart = false) : o'.sessionCallMap = o.sessionCallMap := by
  cases h with
  | nothing _ | changed _ _ => rfl
  | started he _ _ =>
    subst he
    cases hop

/-- The record an operation names, before and after. -/
theorem Does.self {now : Int} {o o' : CallOrchestrator} {op : Op} (h : Does now o op o')
    (hfresh : Fresh o op) {c : RtcCallRecord} (hc : o.getCall op.callId = some c) :
    o'.getCall op.callId = some c ∧ op.ignorable = true ∨
      ∃ c', o'.getCall op.callId = some c' ∧ RecordStep now c op c' := by
  cases h with
  | nothing hop => exact .inl ⟨hc, hop⟩
  | started hop _ _ =>
    subst hop
    rw [getCall, Op.callId, hfresh.2] at hc
    cases hc
  | @changed c₁ f hc₁ hrec =>
    have hcc : c₁ = c := Option.some.inj (hc₁.symm.trans hc)
    subst hcc
    refine .inr ⟨f c₁, ?_, hrec⟩
    show (o.calls.modify op.callId f).get? op.callId = _
    rw [KeyMap.get?_modify_self, hc₁]
    rfl

/-- A call that an operation creates is the new call of an admitted start. -/
theorem Does.created {now : Int} {o o' : CallOrchestrator} {op : Op} (h : Does now o op o')
    (hnone : o.getCall op.callId = none) {c : RtcCallRecord} (hc : o'.getCall op.callId = some c) :
    ∃ params uuid, op = .startCall params uuid ∧ c = newCall params uuid now := by
  cases h with
  | nothing _ =>
    rw [hnone] at hc
    cases hc
  | @started params uuid hop _ _ =>
    subst hop
    have hself : (o.started params uuid now).getCall uuid = some (newCall params uuid now) :=
      KeyMap.get?_set_self ..
    exact ⟨params, uuid, rfl, Option.some.inj (hc.symm.trans hself)⟩
  | changed hc₁ _ =>
    rw [getCall, hc₁] at hnone
    cases hnone

theorem Step.later {o o' : CallOrchestrator} {e : Event} (h : Step o e o') {id : String} {c : RtcCallRecord}
    (hc : o.getCall id = some c) : ∃ c', o'.getCall id = some c' ∧ Later c c' := by
  obtain ⟨hfresh, ⟨_, hdoes⟩ | ⟨_, rfl⟩⟩ := h.does
  · by_cases hid : id = e.op.callId
    · subst hid
      rcases hdoes.self hfresh hc with ⟨hc', _⟩ | ⟨c', hc', hrec⟩
      · exact ⟨c, hc', .refl c⟩
      · exact ⟨c', hc', hrec.later⟩
    · exact ⟨c, by rw [hdoes.other hid, hc], .refl c⟩
  · exact ⟨c, hc, .refl c⟩

/-- A call survives any number of method calls and only grows older. -/
theorem steps_later {options : OrchestratorOptions} {o o' : CallOrchestrator} {es : List Event}
    (h : (system options).Steps o es o') {id : String} {c : RtcCallRecord} (hc : o.getCall id = some c) :
    ∃ c', o'.getCall id = some c' ∧ Later c c' := by
  induction h with
  | nil => exact ⟨c, hc, .refl c⟩
  | snoc _ hstep ih =>
    obtain ⟨c', hc', hl⟩ := ih
    obtain ⟨c'', hc'', hl'⟩ := Step.later hstep hc'
    exact ⟨c'', hc'', hl.trans hl'⟩

/-! ### What the record remembers -/

/-- The answers that `handleAnswer` accepted for a call. -/
def answers (id : String) (history : List Event) : List (Option Json) :=
  history.filterMap fun e => match e.op, e.threw with
    | .handleAnswer id' answerSdp, none => if id' = id then some answerSdp else none
    | _, _ => none

/-- The answers an event adds for a call. -/
theorem answers_snoc (id : String) (history : List Event) (e : Event) :
    answers id (history ++ [e]) = answers id history ++ answers id [e] := by
  unfold answers
  rw [List.filterMap_append]

theorem answers_eq_nil {id : String} {e : Event}
    (h : e.threw ≠ none ∨ e.op.callId ≠ id ∨ ∀ id a, e.op ≠ .handleAnswer id a) : answers id [e] = [] := by
  obtain ⟨op, now, threw⟩ := e
  rcases h with h | h | h
  · cases threw with
    | none => exact absurd rfl h
    | some _ => cases op <;> rfl
  · cases op <;> cases threw <;> first | rfl | exact (by simpa [answers, Op.callId] using h)
  · cases op <;> cases threw <;> first | rfl | exact absurd rfl (h _ _)

/-- A live call has no end, an ended one has both its time and its reason; only a
call that was active has a connection time; a call still initiating was not
answered, and any call was answered at most once. -/
structure Recorded (history : List Event) (id : String) (c : RtcCallRecord) : Prop where
  endedAt : c.endedAt.isSome = c.state.terminal
  endReason : c.endReason.isSome = c.state.terminal
  unconnected : c.state.rank < 2 → c.connectedAt = none
  connected : c.state = .active → c.connectedAt.isSome = true
  unanswered : c.state = .initiating → answers id history = []
  answered : answers id history = [] ∧ c.answerSdp = none ∨
    ∃ a, answers id history = [a] ∧ c.answerSdp = a

theorem newCall_recorded {history : List Event} (params : StartCallParams) (uuid : String) (now : Int)
    (h : answers uuid history = []) : Recorded history uuid (newCall params uuid now) where
  endedAt := rfl
  endReason := rfl
  unconnected := fun _ => rfl
  connected := nofun
  unanswered := fun _ => h
  answered := .inl ⟨h, rfl⟩

/-- An event that accepts no answer for the call changes nothing of its history. -/
theorem Recorded.later {history : List Event} {id : String} {c : RtcCallRecord} {e : Event}
    (h : Recorded history id c) (he : answers id [e] = []) : Recorded (history ++ [e]) id c := by
  have happ : answers id (history ++ [e]) = answers id history := by
    rw [answers_snoc, he, List.append_nil]
  exact {h with
    unanswered := fun hs => happ ▸ h.unanswered hs
    answered := happ ▸ h.answered}

theorem RecordStep.recorded {history : List Event} {e : Event} {c c' : RtcCallRecord}
    (h : Recorded history e.op.callId c) (hthrew : e.threw = none) (hrec : RecordStep e.now c e.op c') :
    Recorded (history ++ [e]) e.op.callId c' := by
  obtain ⟨op, now, threw⟩ := e
  subst hthrew
  have hquiet (hop : ∀ id a, op ≠ .handleAnswer id a) : Recorded (history ++ [⟨op, now, none⟩]) op.callId c :=
    h.later (answers_eq_nil (.inr (.inr hop)))
  cases hrec with
  | @answered id a hs =>
    have hnone : answers id history = [] := h.unanswered hs
    have hone : answers id (history ++ [⟨.handleAnswer id a, now, none⟩]) = [a] := by
      rw [answers_snoc, hnone]
      simp [answers]
    have ht : c.state.terminal = false := by rw [hs]; rfl
    exact
      { endedAt := by rw [h.endedAt, ht]; rfl
        endReason := by rw [h.endReason, ht]; rfl
        unconnected := fun _ => h.unconnected (by rw [hs]; decide)
        connected := nofun
        unanswered := nofun
        answered := .inr ⟨a, hone, rfl⟩ }
  | localCandidate _ | remoteCandidate _ | said =>
    obtain ⟨h₁, h₂, h₃, h₄, h₅, h₆⟩ := hquiet nofun
    exact ⟨h₁, h₂, h₃, h₄, h₅, h₆⟩
  | activated hs =>
    obtain ⟨h₁, h₂, h₃, h₄, h₅, h₆⟩ := hquiet nofun
    have ht : c.state.terminal = false := by rcases hs with hs | hs <;> rw [hs] <;> rfl
    exact
      { endedAt := by rw [h₁, ht]; rfl
        endReason := by rw [h₂, ht]; rfl
        unconnected := fun hr => absurd hr (Nat.lt_irrefl 2)
        connected := fun _ => rfl
        unanswered := nofun
        answered := h₆ }
  | @ended id _ st reason hl hst hop =>
    obtain ⟨h₁, h₂, h₃, h₄, h₅, h₆⟩ := hquiet (by rcases hop with rfl | rfl | rfl <;> nofun)
    have hrank : st.rank = 3 := RtcCallState.rank_terminal hst
    have hne (s : RtcCallState) (hs : s.terminal = false) : st ≠ s := fun he => by
      rw [he, hs] at hst
      cases hst
    exact
      { endedAt := hst.symm
        endReason := hst.symm
        unconnected := fun hr => absurd hr (by show ¬ st.rank < 2; omega)
        connected := fun hs => absurd hs (hne _ rfl)
        unanswered := fun hs => absurd hs (hne _ rfl)
        answered := h₆ }

theorem answers_eq_nil_of_ignorable {id : String} {e : Event} (h : e.op.ignorable = true ∨ e.op.isStart = true) :
    answers id [e] = [] :=
  answers_eq_nil (.inr (.inr fun id a he => by rcases h with h | h <;> rw [he] at h <;> cases h))

theorem step_recorded {history : List Event} {o o' : CallOrchestrator} {e : Event}
    (hnew : ∀ id, o.getCall id = none → answers id history = [])
    (hrec : ∀ id c, o.getCall id = some c → Recorded history id c) (h : Step o e o') (id : String)
    (c' : RtcCallRecord) (hc' : o'.getCall id = some c') : Recorded (history ++ [e]) id c' := by
  obtain ⟨hfresh, ⟨hok, hdoes⟩ | ⟨hthrew, rfl⟩⟩ := h.does
  · by_cases hid : id = e.op.callId
    · subst hid
      cases hc : o.getCall e.op.callId with
      | none =>
        obtain ⟨params, uuid, hop, rfl⟩ := hdoes.created hc hc'
        rw [hop]
        refine newCall_recorded params uuid e.now ?_
        have huuid : uuid = e.op.callId := by rw [hop]; rfl
        rw [answers_snoc, answers_eq_nil_of_ignorable (.inr (by rw [hop]; rfl)), huuid, hnew _ hc]
        rfl
      | some c =>
        rcases hdoes.self hfresh hc with ⟨hself, hop⟩ | ⟨c'', hself, hstep⟩
        · obtain rfl := Option.some.inj (hself.symm.trans hc')
          exact (hrec _ _ hc).later (answers_eq_nil_of_ignorable (.inl hop))
        · obtain rfl := Option.some.inj (hself.symm.trans hc')
          exact hstep.recorded (hrec _ _ hc) hok
    · rw [hdoes.other hid] at hc'
      exact (hrec id c' hc').later (answers_eq_nil (.inr (.inl (Ne.symm hid))))
  · exact (hrec id c' hc').later (answers_eq_nil (.inl hthrew))

/-- A call that does not exist yet has no history. -/
theorem step_unborn {history : List Event} {o o' : CallOrchestrator} {e : Event}
    (hnew : ∀ id, o.getCall id = none → answers id history = []) (h : Step o e o') (id : String)
    (hnone : o'.getCall id = none) : answers id (history ++ [e]) = [] := by
  have hbefore : o.getCall id = none := by
    cases hc : o.getCall id with
    | none => rfl
    | some c =>
      obtain ⟨c', hc', _⟩ := h.later hc
      rw [hnone] at hc'
      cases hc'
  rw [answers_snoc, hnew id hbefore, List.nil_append]
  obtain ⟨_, ⟨_, hdoes⟩ | ⟨hthrew, _⟩⟩ := h.does
  · by_cases hid : e.op.callId = id
    · subst hid
      cases hdoes with
      | nothing hop => exact answers_eq_nil_of_ignorable (.inl hop)
      | started hop _ _ => exact answers_eq_nil_of_ignorable (.inr (by rw [hop]; rfl))
      | changed hc _ =>
        rw [getCall, hc] at hbefore
        cases hbefore
    · exact answers_eq_nil (.inr (.inl hid))
  · exact answers_eq_nil (.inl hthrew)

theorem run_recorded {options : OrchestratorOptions} {history : List Event} {o : CallOrchestrator}
    (h : (system options).Run history o) :
    (∀ id, o.getCall id = none → answers id history = []) ∧
      ∀ id c, o.getCall id = some c → Recorded history id c := by
  refine h.invariant (I := fun history o => (∀ id, o.getCall id = none → answers id history = []) ∧
    ∀ id c, o.getCall id = some c → Recorded history id c) (fun _ hs => ?_)
    fun history o e o' _ hI hstep => ⟨step_unborn hI.1 hstep, step_recorded hI.1 hI.2 hstep⟩
  subst hs
  exact ⟨fun _ _ => rfl, fun _ _ hc => nomatch hc⟩

/-- Only becoming active gives a record its connection time. -/
theorem RecordStep.connects {now : Int} {c c' : RtcCallRecord} {op : Op} (h : RecordStep now c op c')
    (hconn : c'.connectedAt.isSome = true) : c.connectedAt.isSome = true ∨ c'.state = .active := by
  cases h with
  | activated _ => exact .inr rfl
  | _ => exact .inl hconn

/-- The call was active in some state of the run. -/
def WasActive (options : OrchestratorOptions) (history : List Event) (o : CallOrchestrator) (id : String) :
    Prop :=
  ∃ before after o₁ c₁, history = before ++ after ∧ (system options).Run before o₁ ∧
    (system options).Steps o₁ after o ∧ o₁.getCall id = some c₁ ∧ c₁.state = .active

/-- A call has a connection time only if it was active at some point of the run. -/
theorem run_active {options : OrchestratorOptions} {history : List Event} {o : CallOrchestrator}
    (h : (system options).Run history o) {id : String} {c : RtcCallRecord} (hc : o.getCall id = some c)
    (hconn : c.connectedAt.isSome = true) :
    WasActive options history o id := by
  obtain ⟨o₀, h₀, hs⟩ := h
  induction hs generalizing c with
  | nil =>
    subst h₀
    cases hc
  | @snoc ls e o o' hs hstep ih =>
    have hrun : (system options).Run ls o := ⟨o₀, h₀, hs⟩
    have hearlier {c₁ : RtcCallRecord} (hc₁ : o.getCall id = some c₁)
        (hconn₁ : c₁.connectedAt.isSome = true) : WasActive options (ls ++ [e]) o' id := by
      obtain ⟨before, after, o₁, c₂, rfl, h₁, h₂, h₃⟩ := ih hc₁ hconn₁
      exact ⟨before, after ++ [e], o₁, c₂, List.append_assoc .., h₁, h₂.snoc hstep, h₃⟩
    obtain ⟨hfresh, ⟨_, hdoes⟩ | ⟨_, rfl⟩⟩ := Step.does hstep
    · by_cases hid : id = e.op.callId
      · subst hid
        cases hc₁ : o.getCall e.op.callId with
        | none =>
          obtain ⟨_, _, _, rfl⟩ := hdoes.created hc₁ hc
          cases hconn
        | some c₁ =>
          rcases hdoes.self hfresh hc₁ with ⟨hself, _⟩ | ⟨c₂, hself, hrec⟩
          · rw [hself] at hc
            exact hearlier hc₁ (Option.some.inj hc ▸ hconn)
          · obtain rfl := Option.some.inj (hself.symm.trans hc)
            rcases hrec.connects hconn with hconn₁ | hactive
            · exact hearlier hc₁ hconn₁
            · exact ⟨ls ++ [e], [], o', c₂, (List.append_nil _).symm, hrun.snoc hstep, .nil, hc, hactive⟩
      · exact hearlier (hdoes.other hid ▸ hc) hconn
    · exact hearlier hc hconn

/-! ### Time stamps -/

/-- The stamps of a record are in order and not after `n`. -/
structure Stamped (n : Int) (c : RtcCallRecord) : Prop where
  started : c.startedAt ≤ n
  connected : ∀ t, c.connectedAt = some t → c.startedAt ≤ t ∧ t ≤ n
  ended : ∀ t, c.endedAt = some t → c.startedAt ≤ t ∧ t ≤ n ∧ ∀ t', c.connectedAt = some t' → t' ≤ t

theorem Stamped.mono {m n : Int} {c : RtcCallRecord} (h : Stamped m c) (hmn : m ≤ n) : Stamped n c where
  started := Int.le_trans h.started hmn
  connected := fun t ht => ⟨(h.connected t ht).1, Int.le_trans (h.connected t ht).2 hmn⟩
  ended := fun t ht => ⟨(h.ended t ht).1, Int.le_trans (h.ended t ht).2.1 hmn, (h.ended t ht).2.2⟩

theorem RecordStep.stamped {now : Int} {c c' : RtcCallRecord} {op : Op} (h : RecordStep now c op c')
    (hs : Stamped now c) (hlive : c.endedAt.isSome = c.state.terminal) : Stamped now c' := by
  cases h with
  | answered _ | localCandidate _ | remoteCandidate _ | said => exact ⟨hs.started, hs.connected, hs.ended⟩
  | activated hst =>
    have hnone : c.endedAt = none := by
      have ht : c.state.terminal = false := by rcases hst with hst | hst <;> rw [hst] <;> rfl
      simpa [ht] using hlive
    refine ⟨hs.started, fun t ht => ?_, fun t ht => ?_⟩
    · obtain rfl := Option.some.inj ht
      exact ⟨hs.started, Int.le_refl _⟩
    · rw [show c.endedAt = some t from ht] at hnone
      cases hnone
  | ended _ _ _ =>
    refine ⟨hs.started, hs.connected, fun t ht => ?_⟩
    obtain rfl := Option.some.inj ht
    exact ⟨hs.started, Int.le_refl _, fun t' ht' => (hs.connected t' ht').2⟩

/-- The clock readings of a history never go back. -/
def Clocked (history : List Event) : Prop := history.Pairwise fun e e' => e.now ≤ e'.now

/-- With a clock that never goes back, every record's stamps are in order. -/
theorem run_stamped {options : OrchestratorOptions} {history : List Event} {o : CallOrchestrator}
    (h : (system options).Run history o) : Clocked history → ∀ id c n, o.getCall id = some c →
      (∀ e ∈ history, e.now ≤ n) → Stamped n c := by
  refine h.invariant (I := fun history o => Clocked history → ∀ id c n, o.getCall id = some c →
    (∀ e ∈ history, e.now ≤ n) → Stamped n c) (fun _ hs _ _ _ _ hc => by subst hs; cases hc)
    fun history o e o' hrun hI hstep hclock id c n hc hn => ?_
  obtain ⟨hclock, _, hlast⟩ := List.pairwise_append.mp hclock
  have hnow : ∀ e' ∈ history, e'.now ≤ e.now := fun e' he' => hlast e' he' e (List.mem_singleton_self _)
  have hen : e.now ≤ n := hn e (List.mem_append_right _ (List.mem_singleton_self _))
  obtain ⟨hfresh, ⟨_, hdoes⟩ | ⟨_, rfl⟩⟩ := Step.does hstep
  · by_cases hid : id = e.op.callId
    · subst hid
      refine Stamped.mono ?_ hen
      cases hc₁ : o.getCall e.op.callId with
      | none =>
        obtain ⟨_, _, _, rfl⟩ := hdoes.created hc₁ hc
        exact {started := Int.le_refl _, connected := nofun, ended := nofun}
      | some c₁ =>
        have hs₁ := hI hclock _ c₁ e.now hc₁ hnow
        rcases hdoes.self hfresh hc₁ with ⟨hself, _⟩ | ⟨c₂, hself, hrec⟩
        · exact Option.some.inj (hself.symm.trans hc) ▸ hs₁
        · obtain rfl := Option.some.inj (hself.symm.trans hc)
          exact hrec.stamped hs₁ ((run_recorded hrun).2 _ _ hc₁).endedAt
    · exact (hI hclock id c e.now (hdoes.other hid ▸ hc) hnow).mono hen
  · exact (hI hclock id c e.now hc hnow).mono hen

/-- Some reading is the latest of a history. -/
theorem now_bounded (history : List Event) : ∃ n, ∀ e ∈ history, e.now ≤ n := by
  induction history with
  | nil => exact ⟨0, nofun⟩
  | cons e rest ih =>
    obtain ⟨n, hn⟩ := ih
    refine ⟨max e.now n, fun e' he' => ?_⟩
    rcases List.mem_cons.mp he' with rfl | he'
    · exact Int.le_max_left _ _
    · exact Int.le_trans (hn e' he') (Int.le_max_right _ _)

/-! ### The law -/

/-- Whatever happens from `o` on, a call keeps existing, moves forward only, and
once it ended only its transcript still changes. -/
def OnlyForward (options : OrchestratorOptions) (o : CallOrchestrator) : Prop :=
  ∀ after o', (system options).Steps o after o' → ∀ id c, o.getCall id = some c →
    ∃ c', o'.getCall id = some c' ∧ c.state.rank ≤ c'.state.rank ∧
      (c.state.terminal = true → c' = {c with transcript := c'.transcript})

/-- The fields of a record tell what happened to the call. -/
structure Truthful (options : OrchestratorOptions) (history : List Event) (o : CallOrchestrator) (id : String)
    (c : RtcCallRecord) : Prop where
  endedAt : c.endedAt.isSome = true ↔ c.state.terminal = true
  endReason : c.endReason.isSome = true ↔ c.state.terminal = true
  connectedAt : c.connectedAt.isSome = true ↔ WasActive options history o id
  /-- The answer is that of the one `handleAnswer` that succeeded. -/
  answered : (answers id history).length ≤ 1 ∧ c.answerSdp = (answers id history).head?.join
  /-- With answers that are strings, as the method declares, a success shows. -/
  answerSdp : (∀ a ∈ answers id history, ∃ sdp, a = some (.str sdp)) →
    (c.answerSdp.isSome = true ↔ (answers id history).length = 1)
  clock : Clocked history → (∀ t, c.connectedAt = some t ∨ c.endedAt = some t → c.startedAt ≤ t) ∧
    ∀ t t', c.connectedAt = some t → c.endedAt = some t' → t ≤ t'

/-- **The life of every call over every run.** Calls move forward only and freeze
when they end; their fields tell what happened to them; an operation touches the
record it names and, unless it is an admitted start, no session; an operation that
throws changes nothing. -/
theorem lifecycle {options : OrchestratorOptions} {history : List Event} {o : CallOrchestrator}
    (h : (system options).Run history o) :
    OnlyForward options o ∧
    (∀ id c, o.getCall id = some c → Truthful options history o id c) ∧
    ∀ e o', Step o e o' →
      (∀ id, id ≠ e.op.callId → o'.getCall id = o.getCall id) ∧
      ((e.op.isStart = false ∨ e.threw ≠ none) → o'.sessionCallMap = o.sessionCallMap) ∧
      (e.threw ≠ none → o' = o) := by
  refine ⟨fun after o' hs id c hc => ?_, fun id c hc => ?_, fun e o' hstep => ?_⟩
  · obtain ⟨c', hc', hl⟩ := steps_later hs hc
    exact ⟨c', hc', hl.forward, hl.frozen⟩
  · have hr := (run_recorded h).2 id c hc
    refine ⟨by rw [hr.endedAt], by rw [hr.endReason], ⟨run_active h hc, ?_⟩, ?_, fun hstr => ?_,
      fun hclock => ?_⟩
    · rintro ⟨before, after, o₁, c₁, rfl, h₁, h₂, hc₁, hactive⟩
      obtain ⟨c', hc', hl⟩ := steps_later h₂ hc₁
      obtain rfl := Option.some.inj (hc'.symm.trans hc)
      exact hl.connected (((run_recorded h₁).2 id c₁ hc₁).connected hactive)
    · rcases hr.answered with ⟨hnil, ha⟩ | ⟨a, hone, ha⟩
      · rw [hnil, ha]
        exact ⟨Nat.zero_le _, rfl⟩
      · rw [hone, ha]
        exact ⟨Nat.le_refl _, rfl⟩
    · rcases hr.answered with ⟨hnil, ha⟩ | ⟨a, hone, ha⟩
      · simp [hnil, ha]
      · obtain ⟨sdp, rfl⟩ := hstr a (by rw [hone]; exact List.mem_singleton_self _)
        simp [hone, ha]
    · obtain ⟨n, hn⟩ := now_bounded history
      have hst := run_stamped h hclock id c n hc hn
      refine ⟨fun t ht => ?_, fun t t' ht ht' => (hst.ended t' ht').2.2 t ht⟩
      rcases ht with ht | ht
      · exact (hst.connected t ht).1
      · exact (hst.ended t ht).1
  · obtain ⟨_, ⟨hok, hdoes⟩ | ⟨_, rfl⟩⟩ := hstep.does
    · refine ⟨fun id hid => hdoes.other hid, fun hq => ?_, fun ht => absurd hok ht⟩
      rcases hq with hq | hq
      · exact hdoes.sessions hq
      · exact absurd hok hq
    · exact ⟨fun _ _ => rfl, fun _ => rfl, fun _ => rfl⟩

theorem lifecycle_answered_call :
    let o := (new {}).started ⟨"offer", "s1"⟩ "c1" 0
    let o' := o.modifyCall "c1" fun c => {c with answerSdp := some (.str "answer"), state := .connecting}
    let history : List Event :=
      [⟨.startCall ⟨"offer", "s1"⟩ "c1", 0, none⟩, ⟨.handleAnswer "c1" (some (.str "answer")), 5, none⟩]
    ∃ c, o'.getCall "c1" = some c ∧ Truthful {} history o' "c1" c := by
  intro o o' history
  have hstart : Step (new {}) ⟨.startCall ⟨"offer", "s1"⟩ "c1", 0, none⟩ o :=
    Step.start 0 ⟨by decide, rfl⟩ (by decide) (fun ⟨_, hc, _⟩ => nomatch hc)
  have hanswer : Step o ⟨.handleAnswer "c1" (some (.str "answer")), 5, none⟩ o' :=
    .returned trivial (by rw [Op.exec, handleAnswer_run]; rfl)
  have hrun : (system {}).Run history o' := ((System.Run.nil rfl).snoc hstart).snoc hanswer
  exact ⟨_, rfl, (lifecycle hrun).2.1 "c1" _ rfl⟩

end CallOrchestrator
end RtcPlugin
