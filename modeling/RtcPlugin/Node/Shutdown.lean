import RtcPlugin.System.KeyMap
import RtcPlugin.System.Run

/-! How the node shuts down.

Two goroutines end the connection: `readLoop`, whose deferred function closes
`done` unless the client is closed already, and `main`, which waits for a signal
or for `done` and then calls `Close`, which closes `done` unconditionally. Each
is a program counter over the shared fields of the client; a statement that
touches a shared field is a step. Closing a closed channel panics. -/
namespace RtcPlugin.Node

/-- A response channel, of capacity one. -/
structure Chan where
  sent : Nat
  closed : Bool
  deriving DecidableEq, Repr

/-- Where `readLoop` stands. -/
inductive ReadLoop where
  | reading
  /-- `handleResponse` has taken a channel out of `pending`. -/
  | answering (ch : Nat)
  /-- The deferred function, before its test. -/
  | deferred
  /-- It found the client not closed. -/
  | closing
  | closingDone
  | returned
  deriving DecidableEq, Repr

/-- Where `main` stands, from its `select` on. -/
inductive Main where
  | waiting
  | setClosed
  | closeConn
  | closeDone
  | drain
  | returned
  deriving DecidableEq, Repr

structure Client where
  /-- Whether reads can still succeed. -/
  connected : Bool
  closed : Bool
  done : Bool
  /-- Request id to its channel. -/
  pending : KeyMap String Nat
  chans : Nat → Chan
  readLoop : ReadLoop
  main : Main
  signalled : Bool
  panicked : Bool

inductive Label where
  /-- `ReadMessage` returns a frame that is no response. -/
  | frame
  | response (id : String)
  | answer
  | readError
  | check
  | setClosed
  | closeDone
  | signal
  | main
  deriving DecidableEq, Repr

/-- `close(ch)` for every channel of the list; a closed one panics. -/
def closeAll (chans : Nat → Chan) : List Nat → Option (Nat → Chan)
  | [] => some chans
  | ch :: rest =>
    if (chans ch).closed then none
    else closeAll (Function.update chans ch {chans ch with closed := true}) rest

def Client.panic (g : Client) : Client := {g with panicked := true}

/-- The next statement of `Close`, and the wake-up before it. -/
def mainStep (g : Client) : Client :=
  match g.main with
  | .waiting => if g.signalled ∨ g.done then {g with main := .setClosed} else g
  | .setClosed => {g with closed := true, main := .closeConn}
  | .closeConn => {g with connected := false, main := .closeDone}
  | .closeDone => if g.done then g.panic else {g with done := true, main := .drain}
  | .drain =>
    match closeAll g.chans g.pending.values with
    | some chans => {g with chans := chans, pending := .empty, main := .returned}
    | none => g.panic
  | .returned => g

/-- `handleResponse` up to the end of its critical section. -/
def takePending (g : Client) (id : String) : Client :=
  match g.pending.get? id with
  | some ch => {g with pending := g.pending.delete id, readLoop := .answering ch}
  | none => g

inductive Step (g : Client) : Label → Client → Prop where
  | frame : g.readLoop = .reading → g.connected = true → Step g .frame g
  | response {id} : g.readLoop = .reading → g.connected = true → Step g (.response id) (takePending g id)
  | answer {ch} : g.readLoop = .answering ch → (g.chans ch).closed = false → (g.chans ch).sent = 0 →
      Step g .answer {g with chans := Function.update g.chans ch ⟨1, false⟩, readLoop := .reading}
  | answerClosed {ch} : g.readLoop = .answering ch → (g.chans ch).closed = true → Step g .answer g.panic
  | readError : g.readLoop = .reading → Step g .readError {g with connected := false, readLoop := .deferred}
  | check : g.readLoop = .deferred →
      Step g .check {g with readLoop := if g.closed then .returned else .closing}
  | setClosed : g.readLoop = .closing → Step g .setClosed {g with closed := true, readLoop := .closingDone}
  | closeDone : g.readLoop = .closingDone →
      Step g .closeDone (if g.done then g.panic else {g with done := true, readLoop := .returned})
  | signal : Step g .signal {g with signalled := true}
  | main : g.main ≠ .returned → (g.main = .waiting → g.signalled = true ∨ g.done = true) →
      Step g .main (mainStep g)

/-- The client as `Connect` leaves it: connected, with any requests registered. -/
structure Connected (g : Client) : Prop where
  connected : g.connected = true
  notClosed : g.closed = false
  notDone : g.done = false
  waiting : g.main = .waiting
  reading : g.readLoop = .reading
  notPanicked : g.panicked = false
  fresh : ∀ id ch, g.pending.get? id = some ch → g.chans ch = ⟨0, false⟩
  apart : ∀ id₁ id₂ ch, g.pending.get? id₁ = some ch → g.pending.get? id₂ = some ch → id₁ = id₂

/-- A panic ends the process. -/
def system : System Client Label where
  init := Connected
  step := fun g l g' => g.panicked = false ∧ Step g l g'

/-! ### Channels -/

theorem closeAll_open {chans : Nat → Chan} {l : List Nat} (hnodup : l.Nodup)
    (hopen : ∀ ch ∈ l, (chans ch).closed = false) : ∃ chans', closeAll chans l = some chans' ∧
      (∀ ch ∈ l, (chans' ch).closed = true) ∧ ∀ ch, ch ∉ l → chans' ch = chans ch := by
  induction l generalizing chans with
  | nil => exact ⟨chans, rfl, List.forall_mem_nil _, fun _ _ => rfl⟩
  | cons c rest ih =>
    rw [List.nodup_cons] at hnodup
    have hne {ch : Nat} (hch : ch ∈ rest) : ch ≠ c := fun he => hnodup.1 (he ▸ hch)
    have hopen' : ∀ ch ∈ rest, (Function.update chans c {chans c with closed := true} ch).closed = false := by
      intro ch hch
      rw [Function.update_of_ne (hne hch)]
      exact hopen ch (List.mem_cons_of_mem _ hch)
    obtain ⟨chans', hrun, hclosed, hframe⟩ := ih hnodup.2 hopen'
    refine ⟨chans', ?_, fun ch hch => ?_, fun ch hch => ?_⟩
    · rw [closeAll, if_neg (by rw [hopen c List.mem_cons_self]; decide), hrun]
    · cases List.mem_cons.mp hch with
      | inl he => rw [he, hframe c hnodup.1, Function.update_self]
      | inr hch => exact hclosed ch hch
    · rw [List.mem_cons, not_or] at hch
      rw [hframe ch hch.2, Function.update_of_ne hch.1]

/-- Registered channels are open and unused, each registered once, and the channel
that `readLoop` is about to answer is no longer registered. -/
structure Registered (g : Client) : Prop where
  fresh : ∀ id ch, g.pending.get? id = some ch → g.chans ch = ⟨0, false⟩
  apart : ∀ id₁ id₂ ch, g.pending.get? id₁ = some ch → g.pending.get? id₂ = some ch → id₁ = id₂
  held : ∀ ch, g.readLoop = .answering ch → g.chans ch = ⟨0, false⟩ ∧ ∀ id, g.pending.get? id ≠ some ch

/-- `Close` empties `pending` and closes what was in it, and cannot panic there. -/
theorem drain_run {g : Client} (hI : Registered g) (hm : g.main = .drain) : ∃ chans',
    mainStep g = {g with chans := chans', pending := .empty, main := .returned} ∧
      (∀ id ch, g.pending.get? id = some ch → (chans' ch).closed = true) ∧
      ∀ ch, (∀ id, g.pending.get? id ≠ some ch) → chans' ch = g.chans ch := by
  have hopen : ∀ ch ∈ g.pending.values, (g.chans ch).closed = false := by
    intro ch hch
    obtain ⟨id, hid⟩ := KeyMap.mem_values.mp hch
    rw [hI.fresh id ch hid]
  obtain ⟨chans', hrun, hclosed, hframe⟩ := closeAll_open (KeyMap.values_nodup hI.apart) hopen
  refine ⟨chans', by simp only [mainStep, hm, hrun], fun id ch hid => ?_, fun ch hch => ?_⟩
  · exact hclosed ch (KeyMap.mem_values.mpr ⟨id, hid⟩)
  · exact hframe ch fun hmem => (KeyMap.mem_values.mp hmem).elim hch

theorem takePending_registered {g : Client} (hI : Registered g) (id : String) :
    Registered (takePending g id) := by
  unfold takePending
  cases hid : g.pending.get? id with
  | none => exact hI
  | some ch =>
    refine ⟨fun id' ch' h => hI.fresh id' ch' (KeyMap.get?_delete_some h).2, fun id₁ id₂ ch' h₁ h₂ => ?_,
      fun ch' hch' => ?_⟩
    · exact hI.apart id₁ id₂ ch' (KeyMap.get?_delete_some h₁).2 (KeyMap.get?_delete_some h₂).2
    · cases hch'
      refine ⟨hI.fresh id ch hid, fun id' h => ?_⟩
      obtain ⟨hne, hold⟩ := KeyMap.get?_delete_some h
      exact hne (hI.apart id' id ch hold hid)

theorem mainStep_registered {g : Client} (hI : Registered g) : Registered (mainStep g) := by
  cases hm : g.main with
  | waiting =>
    unfold mainStep
    rw [hm]
    show Registered (if g.signalled ∨ g.done then {g with main := .setClosed} else g)
    split
    · exact ⟨hI.fresh, hI.apart, hI.held⟩
    · exact hI
  | setClosed | closeConn =>
    simp only [mainStep, hm]
    exact ⟨hI.fresh, hI.apart, hI.held⟩
  | closeDone =>
    simp only [mainStep, hm]
    split <;> exact ⟨hI.fresh, hI.apart, hI.held⟩
  | drain =>
    obtain ⟨chans', hrun, _, hframe⟩ := drain_run hI hm
    rw [hrun]
    refine ⟨nofun, nofun, fun ch hch => ⟨?_, nofun⟩⟩
    have hheld := hI.held ch hch
    exact (hframe ch hheld.2).trans hheld.1
  | returned =>
    simp only [mainStep, hm]
    exact hI

theorem step_registered {g g' : Client} {l : Label} (hI : Registered g) (hs : Step g l g') : Registered g' := by
  cases hs with
  | frame | signal => exact ⟨hI.fresh, hI.apart, hI.held⟩
  | response => exact takePending_registered hI _
  | @answer ch hr _ _ =>
    have hheld := hI.held ch hr
    refine ⟨fun id ch' hid => ?_, hI.apart, nofun⟩
    have hne : ch' ≠ ch := fun he => hheld.2 id (he ▸ hid)
    exact (Function.update_of_ne hne _ _).trans (hI.fresh id ch' hid)
  | answerClosed => exact ⟨hI.fresh, hI.apart, hI.held⟩
  | readError hr => exact ⟨hI.fresh, hI.apart, nofun⟩
  | check hr =>
    refine ⟨hI.fresh, hI.apart, fun ch hch => ?_⟩
    dsimp only at hch
    split at hch <;> cases hch
  | setClosed hr => exact ⟨hI.fresh, hI.apart, nofun⟩
  | closeDone hr =>
    split
    · exact ⟨hI.fresh, hI.apart, hI.held⟩
    · exact ⟨hI.fresh, hI.apart, nofun⟩
  | main => exact mainStep_registered hI

theorem run_registered {g : Client} {ls : List Label} (h : system.Run ls g) : Registered g := by
  refine h.invariant (M := system) (I := fun _ g => Registered g) (fun g h₀ => ?_)
    fun _ _ _ _ _ hI hs => step_registered hI hs.2
  refine ⟨h₀.fresh, h₀.apart, fun ch hch => ?_⟩
  rw [h₀.reading] at hch
  cases hch

/-- A closed channel stays closed. -/
theorem step_closed {g g' : Client} {l : Label} (hs : Step g l g') {ch : Nat} (hch : (g.chans ch).closed = true) :
    (g'.chans ch).closed = true := by
  have hall {chans chans' : Nat → Chan} {l : List Nat} (hrun : closeAll chans l = some chans')
      (hc : (chans ch).closed = true) : (chans' ch).closed = true := by
    induction l generalizing chans with
    | nil =>
      cases hrun
      exact hc
    | cons c rest ih =>
      rw [closeAll] at hrun
      split at hrun
      · cases hrun
      · refine ih hrun ?_
        by_cases he : ch = c
        · rw [he, Function.update_self]
        · rw [Function.update_of_ne he]
          exact hc
  cases hs with
  | frame | answerClosed | readError | check | setClosed | signal => exact hch
  | response =>
    unfold takePending
    split <;> exact hch
  | @answer ch' _ hopen _ =>
    have hne : ch ≠ ch' := by
      intro he
      rw [he, hopen] at hch
      cases hch
    exact (congrArg Chan.closed (Function.update_of_ne hne _ _)).trans hch
  | closeDone =>
    split <;> exact hch
  | main =>
    unfold mainStep
    split
    · split <;> exact hch
    · exact hch
    · exact hch
    · split <;> exact hch
    · split
      · next hrun => exact hall hrun hch
      · exact hch
    · exact hch

/-! ### With the signal first -/

/-- The deferred function of `readLoop` finds the client closed. -/
def Signalled (g : Client) : Label → Prop
  | .check => g.closed = true
  | _ => True

/-- `main` alone closes `done`, and nothing has panicked. -/
structure Orderly (g : Client) : Prop where
  alive : g.panicked = false
  notClosing : g.readLoop ≠ .closing
  notClosingDone : g.readLoop ≠ .closingDone
  done : g.done = true ↔ g.main = .drain ∨ g.main = .returned
  drained : g.main = .returned → ∀ id, g.pending.get? id = none

theorem mainStep_orderly {g : Client} (hR : Registered g) (hI : Orderly g) : Orderly (mainStep g) := by
  obtain ⟨halive, h₁, h₂, hdone, hdrained⟩ := hI
  cases hm : g.main with
  | waiting =>
    simp only [mainStep, hm]
    split
    · exact ⟨halive, h₁, h₂, by simpa [hm] using hdone, nofun⟩
    · exact ⟨halive, h₁, h₂, hdone, hdrained⟩
  | setClosed | closeConn =>
    simp only [mainStep, hm]
    exact ⟨halive, h₁, h₂, by simpa [hm] using hdone, nofun⟩
  | closeDone =>
    have hopen : g.done ≠ true := by simpa [hm] using hdone
    simp only [mainStep, hm, if_neg hopen]
    exact ⟨halive, h₁, h₂, by simp, nofun⟩
  | drain =>
    obtain ⟨chans', hrun, _, _⟩ := drain_run hR hm
    rw [hrun]
    exact ⟨halive, h₁, h₂, by simpa [hm] using hdone, fun _ _ => rfl⟩
  | returned =>
    simp only [mainStep, hm]
    exact ⟨halive, h₁, h₂, hdone, hdrained⟩

theorem step_orderly {g g' : Client} {l : Label} (hR : Registered g) (hI : Orderly g) (hs : Step g l g')
    (hc : Signalled g l) : Orderly g' := by
  obtain ⟨halive, h₁, h₂, hdone, hdrained⟩ := hI
  cases hs with
  | frame | signal => exact ⟨halive, h₁, h₂, hdone, hdrained⟩
  | @response id =>
    unfold takePending
    split
    · refine ⟨halive, nofun, nofun, hdone, fun hm id' => ?_⟩
      have hnone := hdrained hm id'
      by_cases he : id' = id
      · rw [he, KeyMap.get?_delete_self]
      · rw [KeyMap.get?_delete_ne _ he, hnone]
    · exact ⟨halive, h₁, h₂, hdone, hdrained⟩
  | answer => exact ⟨halive, nofun, nofun, hdone, hdrained⟩
  | @answerClosed ch hr hclosed =>
    rw [(hR.held ch hr).1] at hclosed
    cases hclosed
  | readError => exact ⟨halive, nofun, nofun, hdone, hdrained⟩
  | check =>
    rw [show g.closed = true from hc]
    exact ⟨halive, nofun, nofun, hdone, hdrained⟩
  | setClosed hr => exact absurd hr h₁
  | closeDone hr => exact absurd hr h₂
  | main => exact mainStep_orderly hR ⟨halive, h₁, h₂, hdone, hdrained⟩

theorem run_orderly {g : Client} {ls : List Label} (h : (system.restrict Signalled).Run ls g) : Orderly g := by
  refine h.invariant (I := fun _ g => Orderly g) (fun g h₀ => ?_) fun _ g l g' hrun hI hs =>
    step_orderly (run_registered hrun.of_restrict) hI hs.1.2 hs.2
  refine ⟨h₀.notPanicked, ?_, ?_, ?_, ?_⟩
  · rw [h₀.reading]
    decide
  · rw [h₀.reading]
    decide
  · rw [h₀.notDone, h₀.waiting]
    decide
  · rw [h₀.waiting]
    exact nofun

/-! ### With the connection lost first -/

/-- What sets `closed` comes before what closes `done`. -/
structure Flagged (g : Client) : Prop where
  main : g.main = .waiting ∨ g.main = .setClosed ∨ g.closed = true
  done : g.done = true → g.closed = true
  readLoop : g.readLoop = .closingDone → g.closed = true

theorem mainStep_flagged {g : Client} (hI : Flagged g) : Flagged (mainStep g) := by
  obtain ⟨hmain, hdone, hread⟩ := hI
  cases hm : g.main with
  | waiting =>
    simp only [mainStep, hm]
    split
    · exact ⟨.inr (.inl rfl), hdone, hread⟩
    · exact ⟨.inl hm, hdone, hread⟩
  | setClosed =>
    simp only [mainStep, hm]
    exact ⟨.inr (.inr rfl), fun _ => rfl, fun _ => rfl⟩
  | closeConn | closeDone | drain | returned =>
    have hclosed : g.closed = true := by simpa [hm] using hmain
    simp only [mainStep, hm]
    try split
    all_goals exact ⟨.inr (.inr hclosed), fun _ => hclosed, fun _ => hclosed⟩

theorem step_flagged {g g' : Client} {l : Label} (hI : Flagged g) (hs : Step g l g') : Flagged g' := by
  cases hs with
  | frame | signal | answerClosed => exact ⟨hI.main, hI.done, hI.readLoop⟩
  | response =>
    unfold takePending
    split
    · exact ⟨hI.main, hI.done, nofun⟩
    · exact hI
  | answer | readError => exact ⟨hI.main, hI.done, nofun⟩
  | check =>
    refine ⟨hI.main, hI.done, fun h => ?_⟩
    dsimp only at h
    split at h <;> cases h
  | setClosed => exact ⟨.inr (.inr rfl), fun _ => rfl, fun _ => rfl⟩
  | closeDone hr =>
    have hclosed := hI.readLoop hr
    split <;> exact ⟨.inr (.inr hclosed), fun _ => hclosed, fun _ => hclosed⟩
  | main => exact mainStep_flagged hI

theorem run_flagged {g : Client} {ls : List Label} (h : system.Run ls g) : Flagged g := by
  refine h.invariant (M := system) (I := fun _ g => Flagged g) (fun g h₀ => ?_)
    fun _ _ _ _ _ hI hs => step_flagged hI hs.2
  refine ⟨.inl h₀.waiting, fun hd => ?_, fun hr => ?_⟩
  · rw [h₀.notDone] at hd
    cases hd
  · rw [h₀.reading] at hr
    cases hr

/-- Once `done` is closed, `Close` closes it again. -/
theorem closes_again {g : Client} (halive : g.panicked = false) (hdone : g.done = true)
    (hm : g.main = .waiting ∨ g.main = .setClosed) :
    ∃ ls g', system.Steps g ls g' ∧ g'.panicked = true := by
  have hclose {g : Client} (halive : g.panicked = false) (hdone : g.done = true) (hm : g.main = .setClosed) :
      ∃ ls g', system.Steps g ls g' ∧ g'.panicked = true := by
    have h₁ : Step g .main {g with closed := true, main := .closeConn} := by
      simpa only [mainStep, hm] using Step.main (g := g) (by rw [hm]; decide) (by rw [hm]; exact nofun)
    have h₂ : Step {g with closed := true, main := .closeConn} .main
        {g with connected := false, closed := true, main := .closeDone} := .main nofun nofun
    have h₃ : Step {g with connected := false, closed := true, main := .closeDone} .main
        (Client.panic {g with connected := false, closed := true, main := .closeDone}) := by
      have h : mainStep {g with connected := false, closed := true, main := .closeDone} =
          Client.panic {g with connected := false, closed := true, main := .closeDone} := if_pos hdone
      exact h ▸ Step.main nofun nofun
    exact ⟨_, _, ((System.Steps.single (M := system) ⟨halive, h₁⟩).snoc ⟨halive, h₂⟩).snoc ⟨halive, h₃⟩, rfl⟩
  rcases hm with hm | hm
  · have hwake : mainStep g = {g with main := .setClosed} := by
      simp only [mainStep, hm, hdone, or_true, if_true]
    have hs : Step g .main {g with main := .setClosed} :=
      hwake ▸ Step.main (by rw [hm]; decide) fun _ => .inr hdone
    obtain ⟨ls, g', hsteps, hp⟩ := hclose (g := {g with main := .setClosed}) halive hdone rfl
    exact ⟨_, g', hsteps.cons ⟨halive, hs⟩, hp⟩
  · exact hclose halive hdone hm

/-- **Which shutdowns are clean.** If the deferred function of `readLoop` only ever
finds the client closed, nothing panics, `done` is closed once by `Close`, and
`Close` leaves `pending` empty and its channels closed; and any run in which it finds
the client open can go on to the second close of `done`, which panics. -/
theorem shutdown (ls : List Label) (g : Client) :
    ((system.restrict Signalled).Run ls g →
      g.panicked = false ∧ (g.main = .returned → g.done = true ∧ ∀ id, g.pending.get? id = none) ∧
        ∀ g', g.main = .drain → Step g .main g' → ∀ ls' g'', system.Steps g' ls' g'' →
          ∀ id ch, g.pending.get? id = some ch → (g''.chans ch).closed = true) ∧
    (system.Run ls g → g.panicked = false → g.closed = false → ∀ g', Step g .check g' →
      ∃ ls' g'', system.Steps g' ls' g'' ∧ g''.panicked = true) := by
  refine ⟨fun hrun => ⟨?_, ?_, fun g' hm hs ls' g'' hs' id ch hid => ?_⟩, fun hrun halive hopen g' hs => ?_⟩
  · exact (run_orderly hrun).alive
  · intro hm
    have hI := run_orderly hrun
    exact ⟨hI.done.mpr (.inr hm), hI.drained hm⟩
  · obtain ⟨chans', hdrain, hclosed, _⟩ := drain_run (run_registered hrun.of_restrict) hm
    refine hs'.invariant (M := system) (I := fun g => (g.chans ch).closed = true)
      (fun _ _ _ h hs => step_closed hs.2 h) ?_
    cases hs
    rw [hdrain]
    exact hclosed id ch hid
  · have hF := run_flagged hrun
    have hdone : g.done = false := by
      cases hd : g.done with
      | false => rfl
      | true => rw [hF.done hd] at hopen; cases hopen
    have hm : g.main = .waiting ∨ g.main = .setClosed := by simpa [hopen] using hF.main
    cases hs
    rw [if_neg (by rw [hopen]; decide)]
    have hset : Step {g with readLoop := .closing} .setClosed {g with closed := true, readLoop := .closingDone} :=
      .setClosed rfl
    have hclose : Step {g with closed := true, readLoop := .closingDone} .closeDone
        {g with closed := true, done := true, readLoop := .returned} := by
      have h := Step.closeDone (g := {g with closed := true, readLoop := .closingDone}) rfl
      rwa [if_neg (by rw [hdone]; decide)] at h
    obtain ⟨ls', g'', hsteps, hp⟩ := closes_again
      (g := {g with closed := true, done := true, readLoop := .returned}) halive rfl hm
    exact ⟨_, g'', System.Steps.cons (M := system) ⟨halive, hset⟩ (.cons ⟨halive, hclose⟩ hsteps), hp⟩

/-- An interrupted client that waits for the response to one request. -/
def demoInterrupted (connected closed done : Bool) (main : Main) : Client :=
  { connected := connected, closed := closed, done := done, pending := KeyMap.empty.set "r1" 0
    chans := fun _ => ⟨0, false⟩, readLoop := .reading, main := main, signalled := true, panicked := false }

theorem demoInterrupted_connected : Connected {demoInterrupted true false false .waiting with signalled := false} := by
  have honly {id : String} {ch : Nat} (h : (KeyMap.empty.set "r1" 0).get? id = some ch) : id = "r1" := by
    by_contra hne
    rw [KeyMap.get?_set_ne _ _ hne] at h
    cases h
  refine ⟨rfl, rfl, rfl, rfl, rfl, rfl, fun _ _ _ => rfl, fun id₁ id₂ ch h₁ h₂ => ?_⟩
  rw [honly h₁, honly h₂]

/-- A statement of `Close`. -/
theorem Step.next {g : Client} (hend : g.main ≠ .returned) (hwake : g.main ≠ .waiting) : Step g .main (mainStep g) :=
  .main hend fun hm => absurd hm hwake

theorem demoInterrupted_run : (system.restrict Signalled).Run [.signal, .main, .main, .main, .main]
    (demoInterrupted false true true .drain) := by
  have h₁ : Step {demoInterrupted true false false .waiting with signalled := false} .signal
      (demoInterrupted true false false .waiting) := .signal
  have h₂ : Step (demoInterrupted true false false .waiting) .main (demoInterrupted true false false .setClosed) :=
    .main (by decide) fun _ => .inl rfl
  have h₃ : Step (demoInterrupted true false false .setClosed) .main (demoInterrupted true true false .closeConn) :=
    .next (by decide) (by decide)
  have h₄ : Step (demoInterrupted true true false .closeConn) .main (demoInterrupted false true false .closeDone) :=
    .next (by decide) (by decide)
  have h₅ : Step (demoInterrupted false true false .closeDone) .main (demoInterrupted false true true .drain) :=
    .next (by decide) (by decide)
  have hnew := System.Run.nil (M := system.restrict Signalled) demoInterrupted_connected
  exact ((((hnew.snoc ⟨⟨rfl, h₁⟩, trivial⟩).snoc ⟨⟨rfl, h₂⟩, trivial⟩).snoc ⟨⟨rfl, h₃⟩, trivial⟩).snoc
    ⟨⟨rfl, h₄⟩, trivial⟩).snoc ⟨⟨rfl, h₅⟩, trivial⟩

/-- `Close` drains the request that still waits and returns. -/
theorem shutdown_drained : ∃ g', Step (demoInterrupted false true true .drain) .main g' ∧ g'.main = .returned ∧
    g'.panicked = false ∧ g'.done = true ∧ g'.pending.get? "r1" = none ∧ (g'.chans 0).closed = true := by
  have hs : Step (demoInterrupted false true true .drain) .main (mainStep (demoInterrupted false true true .drain)) :=
    .next (by decide) (by decide)
  obtain ⟨halive, hreturned, -⟩ := (shutdown _ _).1 (demoInterrupted_run.snoc ⟨⟨rfl, hs⟩, trivial⟩)
  obtain ⟨hdone, hdrained⟩ := hreturned rfl
  have hclosed := ((shutdown _ _).1 demoInterrupted_run).2.2 _ rfl hs _ _ .nil "r1" 0 rfl
  exact ⟨_, hs, rfl, halive, hdone, hdrained "r1", hclosed⟩

/-- A client without requests whose deferred function has closed `done`. -/
def lostClient (main : Main) (closed done : Bool) (readLoop : ReadLoop) : Client :=
  { connected := false, closed := closed, done := done, pending := .empty, chans := fun _ => ⟨0, false⟩
    readLoop := readLoop, main := main, signalled := false, panicked := false }

/-- The connection is lost before any signal. -/
theorem loss_panics : ¬ ∀ ls g, system.Run ls g → g.panicked = false := by
  intro hall
  have h₀ : Connected {lostClient .waiting false false .reading with connected := true} :=
    ⟨rfl, rfl, rfl, rfl, rfl, rfl, nofun, nofun⟩
  have h₁ : Step {lostClient .waiting false false .reading with connected := true} .readError
      (lostClient .waiting false false .deferred) := .readError rfl
  have h₂ : Step (lostClient .waiting false false .deferred) .check (lostClient .waiting false false .closing) :=
    .check rfl
  have h₃ : Step (lostClient .waiting false false .closing) .setClosed
      (lostClient .waiting true false .closingDone) := .setClosed rfl
  have h₄ : Step (lostClient .waiting true false .closingDone) .closeDone
      (lostClient .waiting true true .returned) := .closeDone rfl
  have h₅ : Step (lostClient .waiting true true .returned) .main (lostClient .setClosed true true .returned) :=
    .main nofun fun _ => .inr rfl
  have h₆ : Step (lostClient .setClosed true true .returned) .main (lostClient .closeConn true true .returned) :=
    .main nofun nofun
  have h₇ : Step (lostClient .closeConn true true .returned) .main (lostClient .closeDone true true .returned) :=
    .main nofun nofun
  have h₈ : Step (lostClient .closeDone true true .returned) .main
      (lostClient .closeDone true true .returned).panic := .main nofun nofun
  have hrun := (((((((System.Run.nil (M := system) h₀).snoc ⟨rfl, h₁⟩).snoc ⟨rfl, h₂⟩).snoc ⟨rfl, h₃⟩).snoc
    ⟨rfl, h₄⟩).snoc ⟨rfl, h₅⟩).snoc ⟨rfl, h₆⟩).snoc ⟨rfl, h₇⟩
  have hpanic := hall _ _ (hrun.snoc ⟨rfl, h₈⟩)
  cases hpanic

end RtcPlugin.Node
