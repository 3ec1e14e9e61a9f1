import RtcPlugin.Node.Shutdown
import RtcPlugin.System.Update

/-! Requests that await their responses.

Any number of goroutines are in `sendRequest`, one reads responses, and one may close
the client. They share the map of pending requests: whoever takes an entry out is the
only one to use its channel. `request_correlation` says when a call that returned has
also left the map. -/
namespace RtcPlugin.Node

/-- How `sendRequest` returns. -/
inductive Exit where
  | encodeError
  | writeError
  | response
  | connectionClosed
  | timeout
  deriving DecidableEq, Repr

/-- Where a call of `sendRequest` stands, once its channel is registered. -/
inductive CallPhase where
  | encoding
  | writing
  | waiting
  /-- About to delete its entry. -/
  | deleting (exit : Exit)
  | returned (exit : Exit)
  deriving DecidableEq, Repr

structure Call (P : Type) where
  id : String
  params : P
  phase : CallPhase

/-- Where the goroutine that reads responses stands. -/
inductive Reader where
  | reading
  /-- `handleResponse` has taken a channel out of `pending`. -/
  | answering (ch : Nat)
  | returned
  deriving DecidableEq, Repr

/-- Calls are numbered, and a channel has the number of its call. -/
structure Requests (P : Type) where
  pending : KeyMap String Nat
  chans : Nat → Chan
  /-- How many values wait in a channel. -/
  buffered : Nat → Nat
  calls : Nat → Option (Call P)
  called : Nat
  reader : Reader
  closed : Bool
  panicked : Bool

namespace Requests

variable {P : Type}

def new : Requests P :=
  { pending := .empty
    chans := fun _ => ⟨0, false⟩
    buffered := fun _ => 0
    calls := fun _ => none
    called := 0
    reader := .reading
    closed := false
    panicked := false }

def goto (r : Requests P) (n : Nat) (call : Call P) (phase : CallPhase) : Requests P :=
  {r with calls := Function.update r.calls n (some {call with phase := phase})}

/-- `sendRequest` up to the end of its critical section. -/
def register (r : Requests P) (id : String) (params : P) : Requests P :=
  {r with
    pending := r.pending.set id r.called
    calls := Function.update r.calls r.called (some ⟨id, params, .encoding⟩)
    called := r.called + 1}

/-- `handleResponse` up to the end of its critical section. -/
def handleResponse (r : Requests P) (id : String) : Requests P :=
  match r.pending.get? id with
  | some ch => {r with pending := r.pending.delete id, reader := .answering ch}
  | none => r

/-- The critical section of `Close`. -/
def close (r : Requests P) : Requests P :=
  match closeAll r.chans r.pending.values with
  | some chans => {r with chans := chans, pending := .empty, closed := true}
  | none => {r with panicked := true}

inductive Label (P : Type) where
  | call (id : String) (params : P)
  | encode (n : Nat)
  | write (n : Nat) (ok : Bool)
  | timeout (n : Nat)
  | delete (n : Nat)
  | receive (n : Nat)
  | response (id : String)
  | answer
  | readError
  | close

section
variable (marshals : P → Bool)

inductive Step (r : Requests P) : Label P → Requests P → Prop where
  | call {id params} : (∀ n call, r.calls n = some call → call.id ≠ id) → Step r (.call id params) (r.register id params)
  | encode {n call} : r.calls n = some call → call.phase = .encoding →
      Step r (.encode n) (r.goto n call (if marshals call.params then .writing else .returned .encodeError))
  | write {n call ok} : r.calls n = some call → call.phase = .writing →
      Step r (.write n ok) (r.goto n call (if ok then .waiting else .deleting .writeError))
  | timeout {n call} : r.calls n = some call → call.phase = .waiting →
      Step r (.timeout n) (r.goto n call (.deleting .timeout))
  | delete {n call exit} : r.calls n = some call → call.phase = .deleting exit →
      Step r (.delete n) ({r with pending := r.pending.delete call.id}.goto n call (.returned exit))
  | receive {n call} : r.calls n = some call → call.phase = .waiting → 0 < r.buffered n →
      Step r (.receive n)
        ({r with buffered := Function.update r.buffered n (r.buffered n - 1)}.goto n call (.returned .response))
  | receiveClosed {n call} : r.calls n = some call → call.phase = .waiting → r.buffered n = 0 →
      (r.chans n).closed = true → Step r (.receive n) (r.goto n call (.returned .connectionClosed))
  | response {id} : r.reader = .reading → Step r (.response id) (r.handleResponse id)
  /-- A full channel would block. -/
  | answer {ch} : r.reader = .answering ch → (r.chans ch).closed = false → r.buffered ch = 0 →
      Step r .answer {r with
        chans := Function.update r.chans ch {r.chans ch with sent := (r.chans ch).sent + 1}
        buffered := Function.update r.buffered ch 1
        reader := .reading}
  | answerClosed {ch} : r.reader = .answering ch → (r.chans ch).closed = true →
      Step r .answer {r with panicked := true}
  | readError : r.reader = .reading → Step r .readError {r with reader := .returned}
  | close : r.closed = false → Step r .close r.close

/-- A panic ends the process. -/
def system : System (Requests P) (Label P) where
  init := (· = new)
  step r l r' := r.panicked = false ∧ Step marshals r l r'

end

/-! ### What is to hold -/

/-- One use of every channel, and no entry of a call that returned. -/
structure Exact (r : Requests P) : Prop where
  calm : r.panicked = false
  once : ∀ ch, (r.chans ch).sent + (r.chans ch).closed.toNat ≤ 1
  /-- The send of `handleResponse` is never on a closed channel, nor does it block. -/
  ready : ∀ ch, r.reader = .answering ch → (r.chans ch).closed = false ∧ r.buffered ch = 0
  removed : ∀ n call exit, r.calls n = some call → call.phase = .returned exit → r.pending.get? call.id = none

/-- Params that do not encode are those of a request that has left the map. -/
def Clean (marshals : P → Bool) (r : Requests P) : Label P → Prop
  | .encode n => ∀ call, r.calls n = some call → marshals call.params = false → r.pending.get? call.id = none
  | _ => True

/-- What holds in every run: an entry is the only way to its channel. -/
structure Owned (r : Requests P) : Prop where
  calm : r.panicked = false
  entry : ∀ id n, r.pending.get? id = some n → r.chans n = ⟨0, false⟩ ∧ ∃ call, r.calls n = some call ∧ call.id = id
  held : ∀ ch, r.reader = .answering ch → r.chans ch = ⟨0, false⟩ ∧ (∀ id, r.pending.get? id ≠ some ch) ∧ ch < r.called
  once : ∀ ch, (r.chans ch).sent + (r.chans ch).closed.toNat ≤ 1
  filled : ∀ ch, r.buffered ch ≤ (r.chans ch).sent
  fresh : ∀ n, r.called ≤ n → r.calls n = none ∧ r.chans n = ⟨0, false⟩
  unique : ∀ n m a b, r.calls n = some a → r.calls m = some b → a.id = b.id → n = m

theorem new_owned : Owned (new : Requests P) where
  calm := rfl
  entry := by simp [new]
  held := by simp [new]
  once := by simp [new]
  filled := by simp [new]
  fresh := by simp [new]
  unique := by simp [new]

/-! ### The calls -/

section
variable {r r' : Requests P} {n : Nat} {call : Call P}

theorem Owned.below (h : Owned r) (hcall : r.calls n = some call) : n < r.called := by
  by_contra hle
  rw [(h.fresh n (Nat.le_of_not_lt hle)).1] at hcall
  cases hcall

/-- The call of an identifier, before and after a step of a call. -/
theorem goto_call {m : Nat} {a : Call P} {phase : CallPhase} (hcall : r.calls n = some call)
    (ha : (r.goto n call phase).calls m = some a) : ∃ b, r.calls m = some b ∧ b.id = a.id := by
  obtain ⟨rfl, rfl⟩ | ⟨-, hold⟩ := update_put ha
  · exact ⟨call, hcall, rfl⟩
  · exact ⟨a, hold, rfl⟩

theorem goto_kept {m : Nat} {b : Call P} {phase : CallPhase} (hcall : r.calls n = some call) (hb : r.calls m = some b) :
    ∃ a, (r.goto n call phase).calls m = some a ∧ a.id = b.id := by
  by_cases hm : m = n
  · subst hm
    obtain rfl := Option.some.inj (hcall.symm.trans hb)
    exact ⟨_, Function.update_self .., rfl⟩
  · exact ⟨b, (Function.update_of_ne hm ..).trans hb, rfl⟩

theorem Owned.goto (h : Owned r) (hcall : r.calls n = some call) (phase : CallPhase) : Owned (r.goto n call phase) where
  calm := h.calm
  entry := by
    intro id m hid
    obtain ⟨hfresh, b, hb, hbid⟩ := h.entry id m hid
    obtain ⟨a, ha, haid⟩ := goto_kept hcall hb
    exact ⟨hfresh, a, ha, haid.trans hbid⟩
  held := h.held
  once := h.once
  filled := h.filled
  fresh := by
    intro m hm
    have hne : m ≠ n := fun heq => absurd (h.below hcall) (Nat.not_lt.mpr (heq ▸ hm))
    exact ⟨(Function.update_of_ne hne ..).trans (h.fresh m hm).1, (h.fresh m hm).2⟩
  unique := by
    intro m k a b ha hb heq
    obtain ⟨a', ha', haid⟩ := goto_call hcall ha
    obtain ⟨b', hb', hbid⟩ := goto_call hcall hb
    exact h.unique m k a' b' ha' hb' (haid.trans (heq.trans hbid.symm))

theorem Owned.delete (h : Owned r) (id : String) : Owned {r with pending := r.pending.delete id} where
  calm := h.calm
  entry := fun id' m hid => h.entry id' m (KeyMap.get?_delete_some hid).2
  held := fun ch hch => ⟨(h.held ch hch).1, fun id' hid => (h.held ch hch).2.1 id' (KeyMap.get?_delete_some hid).2,
    (h.held ch hch).2.2⟩
  once := h.once
  filled := h.filled
  fresh := h.fresh
  unique := h.unique

/-- A value is received. -/
theorem Owned.take (h : Owned r) : Owned {r with buffered := Function.update r.buffered n (r.buffered n - 1)} where
  calm := h.calm
  entry := h.entry
  held := h.held
  once := h.once
  filled := by
    intro ch
    by_cases hch : ch = n
    · subst hch
      have hle := h.filled ch
      simp only [Function.update_self]
      omega
    · simpa [Function.update_of_ne hch] using h.filled ch
  fresh := h.fresh
  unique := h.unique

theorem Owned.register {id : String} {params : P} (h : Owned r)
    (hfresh : ∀ n call, r.calls n = some call → call.id ≠ id) : Owned (r.register id params) where
  calm := h.calm
  entry := by
    intro id' m hid
    obtain ⟨rfl, rfl⟩ | ⟨hne, hold⟩ := KeyMap.get?_set_some hid
    · exact ⟨(h.fresh _ (Nat.le_refl _)).2, _, Function.update_self .., rfl⟩
    · obtain ⟨hchan, b, hb, hbid⟩ := h.entry id' m hold
      have hm : m ≠ r.called := fun heq => absurd (h.below hb) (by omega)
      exact ⟨hchan, b, (Function.update_of_ne hm ..).trans hb, hbid⟩
  held := by
    intro ch hch
    obtain ⟨hchan, hnone, hlt⟩ := h.held ch hch
    refine ⟨hchan, fun id' hid => ?_, Nat.lt_succ_of_lt hlt⟩
    obtain ⟨-, rfl⟩ | ⟨-, hold⟩ := KeyMap.get?_set_some hid
    · exact Nat.lt_irrefl _ hlt
    · exact hnone id' hold
  once := h.once
  filled := h.filled
  fresh := by
    intro m hm
    have hm : r.called + 1 ≤ m := hm
    have hne : m ≠ r.called := by omega
    obtain ⟨hcalls, hchan⟩ := h.fresh m (by omega)
    exact ⟨(Function.update_of_ne hne ..).trans hcalls, hchan⟩
  unique := by
    intro m k a b ha hb heq
    obtain ⟨rfl, rfl⟩ | ⟨-, ha⟩ := update_put ha
    · obtain ⟨rfl, rfl⟩ | ⟨-, hb⟩ := update_put hb
      · rfl
      · exact absurd heq.symm (hfresh _ _ hb)
    · obtain ⟨rfl, rfl⟩ | ⟨-, hb⟩ := update_put hb
      · exact absurd heq (hfresh _ _ ha)
      · exact h.unique m k a b ha hb heq

/-! ### The reader and `Close` -/

theorem Owned.apart (h : Owned r) {id₁ id₂ : String} {ch : Nat} (h₁ : r.pending.get? id₁ = some ch)
    (h₂ : r.pending.get? id₂ = some ch) : id₁ = id₂ := by
  obtain ⟨-, a, ha, rfl⟩ := h.entry id₁ ch h₁
  obtain ⟨-, b, hb, rfl⟩ := h.entry id₂ ch h₂
  obtain rfl := Option.some.inj (ha.symm.trans hb)
  rfl

theorem Owned.handleResponse (h : Owned r) (id : String) : Owned (r.handleResponse id) := by
  unfold Requests.handleResponse
  cases hid : r.pending.get? id with
  | none => exact h
  | some ch =>
    obtain ⟨hchan, call, hcall, -⟩ := h.entry id ch hid
    refine {h.delete id with held := fun ch' hch' => ?_}
    obtain rfl := Reader.answering.inj hch'
    refine ⟨hchan, fun id' hid' => ?_, h.below hcall⟩
    obtain ⟨hne, hold⟩ := KeyMap.get?_delete_some hid'
    exact hne (h.apart hold hid)

theorem Owned.answer {ch : Nat} (h : Owned r) (hch : r.reader = .answering ch) : Owned {r with
    chans := Function.update r.chans ch {r.chans ch with sent := (r.chans ch).sent + 1}
    buffered := Function.update r.buffered ch 1
    reader := .reading} := by
  obtain ⟨hchan, hnone, hlt⟩ := h.held ch hch
  have hother {m : Nat} (hm : m ≠ ch) :
      Function.update r.chans ch {r.chans ch with sent := (r.chans ch).sent + 1} m = r.chans m := Function.update_of_ne hm ..
  refine ⟨h.calm, fun id m hid => ?_, nofun, fun m => ?_, fun m => ?_, fun m hm => ?_, h.unique⟩
  · have hm : m ≠ ch := fun heq => hnone id (heq ▸ hid)
    exact ⟨(hother hm).trans (h.entry id m hid).1, (h.entry id m hid).2⟩
  · by_cases hm : m = ch
    · simp [hm, hchan]
    · simpa [hother hm] using h.once m
  · by_cases hm : m = ch
    · simp [hm, hchan]
    · simpa [hother hm, Function.update_of_ne hm] using h.filled m
  · have hm' : r.called ≤ m := hm
    have hne : m ≠ ch := by omega
    exact ⟨(h.fresh m hm').1, (hother hne).trans (h.fresh m hm').2⟩

theorem closeAll_sent {chans chans' : Nat → Chan} {l : List Nat} (h : closeAll chans l = some chans') (ch : Nat) :
    (chans' ch).sent = (chans ch).sent := by
  induction l generalizing chans with
  | nil =>
    cases h
    rfl
  | cons c rest ih =>
    rw [closeAll] at h
    split at h
    · cases h
    · rw [ih h]
      by_cases hch : ch = c
      · rw [hch, Function.update_self]
      · rw [Function.update_of_ne hch]

/-- `Close` closes what is registered, each channel once. -/
theorem Owned.close (h : Owned r) : Owned r.close := by
  have hopen : ∀ ch ∈ r.pending.values, r.chans ch = ⟨0, false⟩ := by
    intro ch hch
    obtain ⟨id, hid⟩ := KeyMap.mem_values.mp hch
    exact (h.entry id ch hid).1
  obtain ⟨chans', hrun, hclosed, hframe⟩ := closeAll_open (KeyMap.values_nodup fun _ _ _ => h.apart)
    (fun ch hch => congrArg Chan.closed (hopen ch hch))
  have hheld {ch : Nat} (hnone : ∀ id, r.pending.get? id ≠ some ch) : chans' ch = r.chans ch := by
    refine hframe ch fun hmem => ?_
    obtain ⟨id, hid⟩ := KeyMap.mem_values.mp hmem
    exact hnone id hid
  unfold Requests.close
  rw [hrun]
  refine ⟨h.calm, nofun, fun ch hch => ?_, fun ch => ?_, fun ch => ?_, fun n hn => ?_, h.unique⟩
  · obtain ⟨hchan, hnone, hlt⟩ := h.held ch hch
    exact ⟨(hheld hnone).trans hchan, nofun, hlt⟩
  · by_cases hmem : ch ∈ r.pending.values
    · have hsent := closeAll_sent hrun ch
      rw [hopen ch hmem] at hsent
      simp [hsent, hclosed ch hmem]
    · show (chans' ch).sent + (chans' ch).closed.toNat ≤ 1
      rw [hframe ch hmem]
      exact h.once ch
  · exact Nat.le_trans (h.filled ch) (Nat.le_of_eq (closeAll_sent hrun ch).symm)
  · have hnone : ∀ id, r.pending.get? id ≠ some n := by
      intro id hid
      obtain ⟨-, call, hcall, -⟩ := h.entry id n hid
      exact absurd (h.below hcall) (Nat.not_lt.mpr hn)
    exact ⟨(h.fresh n hn).1, (hheld hnone).trans (h.fresh n hn).2⟩

theorem step_owned {marshals : P → Bool} {l : Label P} (h : Owned r) (hs : Step marshals r l r') : Owned r' := by
  cases hs with
  | call hfresh => exact h.register hfresh
  | encode hcall => exact h.goto hcall _
  | write hcall => exact h.goto hcall _
  | timeout hcall => exact h.goto hcall _
  | delete hcall => exact (h.delete _).goto hcall _
  | receive hcall => exact h.take.goto hcall _
  | receiveClosed hcall => exact h.goto hcall _
  | response => exact h.handleResponse _
  | answer hch => exact h.answer hch
  | answerClosed hch hclosed =>
    rw [(h.held _ hch).1] at hclosed
    cases hclosed
  | readError => exact {h with held := nofun}
  | close => exact h.close

theorem run_owned {marshals : P → Bool} {ls : List (Label P)} (h : (system marshals).Run ls r) : Owned r := by
  apply h.invariant (I := fun _ r => Owned r)
  · intro r hr
    obtain rfl : r = new := hr
    exact new_owned
  · exact fun _ _ _ _ _ howned hs => step_owned howned hs.2

/-! ### The map without the calls that returned -/

/-- A call that returned has left the map. -/
def Removed (r : Requests P) : Prop :=
  ∀ n call exit, r.calls n = some call → call.phase = .returned exit → r.pending.get? call.id = none

theorem Owned.exact (h : Owned r) (hr : Removed r) : Exact r where
  calm := h.calm
  once := h.once
  ready := by
    intro ch hch
    have hchan := (h.held ch hch).1
    have hfilled := h.filled ch
    rw [hchan] at hfilled
    exact ⟨congrArg Chan.closed hchan, Nat.le_zero.mp hfilled⟩
  removed := hr

/-- The map only loses entries, and the call that moves does not return from it. -/
theorem removed_goto {phase : CallPhase} (hr : Removed r) (hcall : r.calls n = some call)
    (hphase : ∀ exit, phase = .returned exit → r.pending.get? call.id = none) : Removed (r.goto n call phase) := by
  intro m a exit ha hexit
  obtain ⟨rfl, rfl⟩ | ⟨-, hold⟩ := update_put ha
  · exact hphase exit hexit
  · exact hr m a exit hold hexit

theorem removed_shrink {pending : KeyMap String Nat} (hr : Removed r)
    (hsub : ∀ id, r.pending.get? id = none → pending.get? id = none) : Removed {r with pending := pending} :=
  fun n call exit hcall hexit => hsub call.id (hr n call exit hcall hexit)

/-- A used channel has no entry. -/
theorem Owned.no_entry (h : Owned r) (hcall : r.calls n = some call) (hused : r.chans n ≠ ⟨0, false⟩) :
    r.pending.get? call.id = none := by
  by_contra hsome
  obtain ⟨m, hm⟩ := Option.ne_none_iff_exists'.mp hsome
  obtain ⟨hchan, a, ha, haid⟩ := h.entry call.id m hm
  obtain rfl := h.unique m n a call ha hcall haid
  exact hused hchan

theorem step_removed {marshals : P → Bool} {l : Label P} (h : Owned r) (hr : Removed r) (hs : Step marshals r l r')
    (hclean : Clean marshals r l) : Removed r' := by
  cases hs with
  | @call id params hfresh =>
    intro m a exit ha hexit
    obtain ⟨rfl, rfl⟩ | ⟨-, hold⟩ := update_put ha
    · cases hexit
    · exact (KeyMap.get?_set_ne _ _ (hfresh m a hold)).trans (hr m a exit hold hexit)
  | @encode n call hcall =>
    refine removed_goto hr hcall fun exit hphase => hclean call hcall ?_
    by_contra hmarshals
    rw [if_pos (by simpa using hmarshals)] at hphase
    cases hphase
  | @write n call ok hcall =>
    refine removed_goto hr hcall fun exit hphase => ?_
    cases ok <;> cases hphase
  | timeout hcall => exact removed_goto hr hcall nofun
  | @delete n call exit hcall =>
    have hshrunk := removed_shrink hr fun id hid => KeyMap.get?_delete_none hid call.id
    exact removed_goto hshrunk hcall fun _ _ => KeyMap.get?_delete_self ..
  | @receive n call hcall _ hfull =>
    have htaken : Removed {r with buffered := Function.update r.buffered n (r.buffered n - 1)} := hr
    refine removed_goto htaken hcall fun _ _ => h.no_entry hcall fun hchan => ?_
    have hfilled := h.filled n
    rw [hchan] at hfilled
    exact absurd hfull (Nat.not_lt.mpr hfilled)
  | receiveClosed hcall _ _ hclosed =>
    refine removed_goto hr hcall fun _ _ => h.no_entry hcall fun hchan => ?_
    rw [hchan] at hclosed
    cases hclosed
  | @response id =>
    unfold Requests.handleResponse
    split
    · exact removed_shrink hr fun id' hid => KeyMap.get?_delete_none hid id
    · exact hr
  | answer => exact hr
  | answerClosed => exact hr
  | readError => exact hr
  | close =>
    unfold Requests.close
    split
    · exact removed_shrink hr fun _ _ => rfl
    · exact hr

theorem run_removed {marshals : P → Bool} {ls : List (Label P)}
    (h : ((system marshals).restrict (Clean marshals)).Run ls r) : Removed r := by
  apply h.invariant (I := fun _ r => Removed r)
  · intro r hr n call exit hcall
    obtain rfl : r = new := hr
    cases hcall
  · exact fun _ _ _ _ hrun hr hs => step_removed (run_owned hrun.of_restrict) hr hs.1.2 hs.2

/-- An encoding that failed behind its entry left the entry there. -/
theorem clean_of_removed {marshals : P → Bool} {l : Label P} (hs : Step marshals r l r') (hr : Removed r') :
    Clean marshals r l := by
  cases hs with
  | @encode n call hcall =>
    intro a ha hfails
    obtain rfl := Option.some.inj (hcall.symm.trans ha)
    rw [if_neg (by simp [hfails])] at hr
    exact hr n {call with phase := .returned .encodeError} .encodeError (Function.update_self ..) rfl
  | _ => trivial

/-- **Every channel is used once, and a call that returned has left the map**, exactly as
long as no params fail to encode while their request is registered. -/
theorem request_correlation {marshals : P → Bool} {ls : List (Label P)}
    (h : ((system marshals).restrict (Clean marshals)).Run ls r) :
    Exact r ∧ ∀ l r', (system marshals).step r l r' → (Exact r' ↔ Clean marshals r l) := by
  have howned := run_owned h.of_restrict
  have hremoved := run_removed h
  refine ⟨howned.exact hremoved, fun l r' hs => ⟨fun hexact => clean_of_removed hs.2 hexact.removed, fun hclean => ?_⟩⟩
  exact (step_owned howned hs.2).exact (step_removed howned hremoved hs.2 hclean)

/-- The channels are used once in every run; only the map is at stake. -/
theorem channels_once {marshals : P → Bool} {ls : List (Label P)} (h : (system marshals).Run ls r) :
    r.panicked = false ∧ (∀ ch, (r.chans ch).sent + (r.chans ch).closed.toNat ≤ 1) ∧
      ∀ ch, r.reader = .answering ch → ∃ r', (system marshals).step r .answer r' ∧ r'.panicked = false := by
  have howned := run_owned h
  refine ⟨howned.calm, howned.once, fun ch hch => ?_⟩
  have hchan := (howned.held ch hch).1
  have hfilled := howned.filled ch
  rw [hchan] at hfilled
  exact ⟨_, ⟨howned.calm, .answer hch (congrArg Chan.closed hchan) (Nat.le_zero.mp hfilled)⟩, howned.calm⟩

end

/-! ### One call -/

/-- Params that are a channel or a function do not encode: here all but the first. -/
def demoMarshals (params : Nat) : Bool := params == 0

theorem registered_run (params : Nat) :
    ((system demoMarshals).restrict (Clean demoMarshals)).Run [.call "r" params] (new.register "r" params) :=
  System.Run.snoc (.nil rfl) ⟨⟨rfl, .call nofun⟩, trivial⟩

/-- A request that is answered. -/
theorem request_correlation_answer : ∃ ls r, ((system demoMarshals).restrict (Clean demoMarshals)).Run ls r ∧
    Exact r ∧ (r.chans 0).sent = 1 := by
  have h₁ := registered_run 0
  have h₂ := h₁.snoc (show (System.restrict _ _).step _ (.encode 0) _ from ⟨⟨rfl, .encode rfl rfl⟩, fun call hcall hfails => by
    obtain rfl := Option.some.inj (show some _ = some call from hcall)
    cases hfails⟩)
  have h₃ := h₂.snoc (show (System.restrict _ _).step _ (.write 0 true) _ from ⟨⟨rfl, .write rfl rfl⟩, trivial⟩)
  have h₄ := h₃.snoc (show (System.restrict _ _).step _ (.response "r") _ from ⟨⟨rfl, .response rfl⟩, trivial⟩)
  have h₅ := h₄.snoc (show (System.restrict _ _).step _ .answer _ from ⟨⟨rfl, .answer rfl rfl rfl⟩, trivial⟩)
  exact ⟨_, _, h₅, (request_correlation h₅).1, rfl⟩

/-- A request whose params do not encode stays in the map. -/
theorem encode_failure_leaks : ¬ ∀ (marshals : Nat → Bool) ls r, (system marshals).Run ls r → Exact r := by
  intro hall
  have hrun := (registered_run 1).of_restrict.snoc
    (show (system demoMarshals).step _ (.encode 0) _ from ⟨rfl, .encode rfl rfl⟩)
  have hremoved := (hall _ _ _ hrun).removed 0 _ .encodeError rfl rfl
  cases hremoved

end Requests
end RtcPlugin.Node
