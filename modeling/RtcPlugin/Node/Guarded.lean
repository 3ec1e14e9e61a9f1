import RtcPlugin.Node.Entries

/-! The manager's mutex.

A call holds it in its critical section only, and a call that waits for one it made
is past that (`Guarded`). So nobody waits for himself, and while a `ClosePeer` is
running something can go on (`goes_on`). -/
namespace RtcPlugin.Node
namespace PeerManager

/-! ### Calls that begin, connections that stay -/

/-- No call is added, or one that has still to look. -/
def Adds (pm pm' : PeerManager) : Prop :=
  pm'.closers = pm.closers ∧ pm'.spawned = pm.spawned ∨ ∃ callId cause,
    pm'.closers = Function.update pm.closers pm.spawned (some ⟨callId, cause, .lookup⟩) ∧ pm'.spawned = pm.spawned + 1

variable {pm pm' : PeerManager}

theorem adds_changeState (pm : PeerManager) (p : Nat) (c : Conn) (st : PcState) : Adds pm (pm.changeState p c st) := by
  rw [changeState]
  split
  · exact .inr ⟨_, _, rfl, rfl⟩
  · exact .inl ⟨rfl, rfl⟩

theorem adds_closePc (pm : PeerManager) (p : Nat) : Adds pm (pm.closePc p) := by
  rw [closePc]
  split
  · split
    · exact .inl ⟨rfl, rfl⟩
    · exact adds_changeState _ _ _ _
  · exact .inl ⟨rfl, rfl⟩

theorem step_adds {l : Label} (h : Step pm l pm') (hl : l.free = true) : Adds pm pm' := by
  cases h with
  | accept | register => exact .inl ⟨rfl, rfl⟩
  | acceptFails => exact adds_closePc _ _
  | stateChange => exact adds_changeState _ _ _ _
  | hangup => exact .inr ⟨_, _, rfl, rfl⟩
  | store | track | lookup | stop | close => cases hl

theorem Adds.closers (h : Adds pm pm') {k : Nat} (hk : k < pm'.spawned) :
    pm'.closers k = pm.closers k ∧ k < pm.spawned ∨
      k = pm.spawned ∧ ∃ callId cause, pm'.closers k = some ⟨callId, cause, .lookup⟩ := by
  obtain ⟨hcl, hsp⟩ | ⟨callId, cause, hcl, hsp⟩ := h
  · exact .inl ⟨by rw [hcl], hsp ▸ hk⟩
  · by_cases hne : k = pm.spawned
    · refine .inr ⟨hne, callId, cause, ?_⟩
      rw [hcl, hne, Function.update_self]
    · refine .inl ⟨by rw [hcl, Function.update_of_ne hne], ?_⟩
      omega

/-- Closing a connection changes no other one, and of this one the state. -/
theorem closePc_conn {q : Nat} {c : Conn} (hc : pm.conns q = some c) (p : Nat) :
    ∃ st, (pm.closePc p).conns q = some {c with state := st} := by
  by_cases hq : q = p
  · subst hq
    exact ⟨.closed, closePc_conns hc⟩
  · rw [closePc]
    split
    · split
      · exact ⟨c.state, hc⟩
      · rw [changeState_conns, Function.update_of_ne hq]
        exact ⟨c.state, hc⟩
    · exact ⟨c.state, hc⟩

/-- A registered connection stays registered, and an accept goes on unless it fails. -/
theorem step_conn {l : Label} (hW : WellFormed pm) (h : Step pm l pm') (hl : l.free = true) {p : Nat} {c : Conn}
    (hc : pm.conns p = some c) (hreg : c.registered = true) : ∃ c', pm'.conns p = some c' ∧ c'.registered = true ∧
      (l ≠ .acceptFails p → c.stage = .negotiating → c'.stage = .negotiating) := by
  cases h with
  | accept =>
    have hne : p ≠ pm.created := Nat.ne_of_lt (hW.created p c hc)
    exact ⟨c, (Function.update_of_ne hne _ _).trans hc, hreg, fun _ hst => hst⟩
  | @register q d hd =>
    by_cases hq : p = q
    · subst hq
      exact ⟨_, Function.update_self .., rfl, fun _ _ => rfl⟩
    · exact ⟨c, (Function.update_of_ne hq _ _).trans hc, hreg, fun _ hst => hst⟩
  | @acceptFails q =>
    obtain ⟨st, hst⟩ := closePc_conn hc q
    by_cases hq : p = q
    · subst hq
      refine ⟨{c with state := st, stage := .failed}, ?_, hreg, fun hne => absurd rfl hne⟩
      rw [setStage_eq hst]
      exact Function.update_self ..
    · exact ⟨_, (Function.update_of_ne hq _ _).trans hst, hreg, fun _ hst => hst⟩
  | @stateChange q d st hd =>
    rw [changeState_conns]
    by_cases hq : p = q
    · subst hq
      rw [hd] at hc
      cases hc
      exact ⟨_, Function.update_self .., hreg, fun _ hst => hst⟩
    · exact ⟨c, (Function.update_of_ne hq _ _).trans hc, hreg, fun _ hst => hst⟩
  | hangup => exact ⟨c, hc, hreg, fun _ hst => hst⟩
  | store | track | lookup | stop | close => cases hl

end PeerManager

namespace Locked

open PeerManager (Later)

variable {s s' : Locked} {e : Event}

/-! ### The mutex -/

/-- Who holds the mutex is in a critical section, and a call that made another one is
past it. -/
structure Guarded (s : Locked) : Prop where
  fresh : ∀ k, s.pm.spawned ≤ k → s.points k = .lock ∧ s.parent k = none
  holds : ∀ k, s.mutex = some (.closePeer k) ↔ (s.points k).inside = true
  outer : ∀ n k, s.parent n = some k → (s.points k).closed = true

theorem Guarded.lt (hG : Guarded s) {k : Nat} (h : s.points k ≠ .lock) : k < s.pm.spawned :=
  Nat.lt_of_not_le fun hle => h (hG.fresh k hle).1

theorem Guarded.child_lt (hG : Guarded s) {n k : Nat} (h : s.parent n = some k) : n < s.pm.spawned := by
  apply Nat.lt_of_not_le
  intro hle
  rw [(hG.fresh n hle).2] at h
  cases h

/-- The calls stand where they stood, and no other one has the mutex. -/
theorem Guarded.same (hG : Guarded s) (hspawned : s.pm.spawned ≤ s'.pm.spawned) (hpoints : s'.points = s.points)
    (hparent : s'.parent = s.parent)
    (hmutex : ∀ k, s'.mutex = some (.closePeer k) ↔ s.mutex = some (.closePeer k)) : Guarded s' := by
  refine ⟨fun k hk => ?_, fun k => ?_, fun n k h => ?_⟩
  · rw [hpoints, hparent]
    exact hG.fresh k (Nat.le_trans hspawned hk)
  · rw [hpoints]
    exact (hmutex k).trans (hG.holds k)
  · rw [hpoints]
    exact hG.outer n k (hparent ▸ h)

/-- One call moves on. -/
theorem Guarded.move (hG : Guarded s) {k : Nat} {point : Point} (hk : k < s.pm.spawned)
    (hspawned : s'.pm.spawned = s.pm.spawned) (hpoints : s'.points = Function.update s.points k point)
    (hparent : s'.parent = s.parent) (hself : s'.mutex = some (.closePeer k) ↔ point.inside = true)
    (hmutex : ∀ j, j ≠ k → (s'.mutex = some (.closePeer j) ↔ s.mutex = some (.closePeer j)))
    (hclosed : (s.points k).closed = true → point.closed = true) : Guarded s' := by
  constructor
  · intro j hj
    rw [hspawned] at hj
    have hne : j ≠ k := by omega
    rw [hpoints, hparent, Function.update_of_ne hne]
    exact hG.fresh j hj
  · intro j
    rw [hpoints]
    by_cases hne : j = k
    · rw [hne, Function.update_self]
      exact hself
    · rw [Function.update_of_ne hne]
      exact (hmutex j hne).trans (hG.holds j)
  · intro n j h
    rw [hpoints]
    by_cases hne : j = k
    · rw [hne, Function.update_self]
      exact hclosed (hG.outer n k (hne ▸ hparent ▸ h))
    · rw [Function.update_of_ne hne]
      exact hG.outer n j (hparent ▸ h)

theorem callback_eq {pm : PeerManager} {p n : Nat} (h : pm.callback p = some n) :
    n = pm.spawned ∧ ∃ c, pm.conns p = some c ∧ (pm.closePc p) = pm.changeState p c .closed ∧ c.registered = true := by
  rw [PeerManager.callback] at h
  split at h
  · next c hc =>
    split at h
    · next hopen =>
      refine ⟨(Option.some.inj h).symm, c, hc, ?_, hopen.2⟩
      rw [PeerManager.closePc, hc]
      exact if_neg hopen.1
    · cases h
  · cases h

/-- The calls that others made, after one more closed its connection. -/
theorem close_parent {k p n j : Nat} {waits : Bool} (h : (s.close k p waits).parent n = some j) :
    s.parent n = some j ∨ j = k ∧ s.pm.callback p = some n := by
  cases hcb : s.pm.callback p with
  | none =>
    have hsame : (s.close k p waits).parent = s.parent := by simp only [Locked.close, hcb]
    exact .inl (hsame ▸ h)
  | some m =>
    have hnew : (s.close k p waits).parent = Function.update s.parent m (some k) := by simp only [Locked.close, hcb]
    rw [hnew] at h
    obtain ⟨rfl, rfl⟩ | ⟨-, hold⟩ := update_put h
    · exact .inr ⟨rfl, rfl⟩
    · exact .inl hold

theorem Guarded.close (hG : Guarded s) {k p : Nat} (hp : s.points k = .unlocked) (waits : Bool) :
    Guarded (s.close k p waits) := by
  have hspawned : s.pm.spawned ≤ ((s.pm.closePc p).setCloser k none).spawned :=
    (PeerManager.later_closePc s.pm p).spawned
  -- The call closes before the callback it makes is one of the calls.
  have hmoved : Guarded {s with points := (s.close k p waits).points} := by
    refine hG.move (hG.lt (by rw [hp]; exact nofun)) rfl rfl rfl ?_ (fun _ _ => Iff.rfl) (fun _ => rfl)
    rw [hG.holds, hp]
    rfl
  constructor
  · intro j hj
    refine ⟨(hmoved.fresh j (Nat.le_trans hspawned hj)).1, ?_⟩
    cases hpar : (s.close k p waits).parent j with
    | none => rfl
    | some i =>
      obtain hold | ⟨-, hcb⟩ := close_parent hpar
      · rw [(hmoved.fresh j (Nat.le_trans hspawned hj)).2] at hold
        cases hold
      · obtain ⟨hn, c, hc, hclose, hreg⟩ := callback_eq hcb
        have hj' : ((s.pm.changeState p c .closed).setCloser k none).spawned ≤ j := hclose ▸ hj
        rw [PeerManager.changeState, if_pos hreg] at hj'
        exact absurd hj' (by rw [hn]; exact Nat.not_succ_le_self _)
  · exact hmoved.holds
  · intro n j h
    obtain hold | ⟨rfl, -⟩ := close_parent h
    · exact hmoved.outer n j hold
    · show (Function.update s.points j _ j).closed = true
      rw [Function.update_self]
      rfl

theorem step_guarded (hW : s.pm.WellFormed) (hG : Guarded s) (h : Step s e s') : Guarded s' := by
  have hspawned (hl : ∀ k callId found, e ≠ .lookup k callId found) : s.pm.spawned ≤ s'.pm.spawned :=
    (step_later hW h hl).spawned
  cases h with
  | free => exact hG.same (hspawned nofun) rfl rfl fun _ => Iff.rfl
  | @lock holder hnone hwants =>
    cases holder with
    | closePeer k =>
      obtain ⟨hp, closer, hk⟩ := hwants
      refine hG.move (hW.spawned k closer hk) rfl rfl rfl ⟨fun _ => rfl, fun _ => rfl⟩ ?_ ?_
      · intro j hj
        rw [hnone]
        refine ⟨fun h => ?_, nofun⟩
        cases h
        exact absurd rfl hj
      · rw [hp]
        exact nofun
    | acceptCall | onTrack | addRemoteCandidate =>
      refine hG.same (Nat.le_refl _) rfl rfl fun k => ?_
      rw [hnone]
      exact ⟨nofun, nofun⟩
  | store hm | track hm | read hm =>
    refine hG.same (hspawned nofun) rfl rfl fun k => ?_
    rw [hm]
    exact ⟨nofun, nofun⟩
  | @lookup k closer hp hk =>
    obtain ⟨-, hlook, -, -⟩ := PeerManager.lookup_same s.pm k closer
    refine hG.move (hW.spawned k closer hk) hlook rfl rfl ?_ (fun _ _ => Iff.rfl) ?_
    · refine (hG.holds k).trans ?_
      rw [hp]
      exact ⟨fun _ => rfl, fun _ => rfl⟩
    · rw [hp]
      exact nofun
  | @unlock k found hp =>
    have hmutex : s.mutex = some (.closePeer k) := (hG.holds k).mpr (by rw [hp]; rfl)
    have hout : (if found.isSome then Point.unlocked else .done).inside = false := by
      split <;> rfl
    refine hG.move (hG.lt (by rw [hp]; exact nofun)) rfl rfl rfl ?_ ?_ ?_
    · rw [hout]
      exact ⟨nofun, nofun⟩
    · intro j hj
      rw [hmutex]
      refine ⟨nofun, fun h => ?_⟩
      cases h
      exact absurd rfl hj
    · rw [hp]
      exact nofun
  | stop => exact hG.same (hspawned nofun) rfl rfl fun _ => Iff.rfl
  | close waits hp => exact hG.close hp waits
  | @returned k nested hp =>
    refine hG.move (hG.lt (by rw [hp]; exact nofun)) rfl rfl rfl ?_ (fun _ _ => Iff.rfl) (fun _ => rfl)
    refine (hG.holds k).trans ?_
    rw [hp]
    rfl

/-! ### Something can go on -/

/-- What a call has left to do, where it stands. -/
def Point.Fits : Point → Option ClosePhase → Prop
  | .lock, phase | .locked, phase => phase = some .lookup
  | .unlock found, phase => ∀ p, found = some p → ∃ entry, phase = some (.stop entry)
  | .unlocked, phase => ∃ entry, phase = some (.stop entry) ∨ phase = some (.close entry)
  | .closing _, _ | .done, _ => True

/-- Where the calls stand is where their phases are, a call waits for a later one, and
who has the mutex has the connection it wants it for. -/
structure Lively (s : Locked) : Prop where
  fits : ∀ k < s.pm.spawned, Point.Fits (s.points k) ((s.pm.closers k).map Closer.phase)
  waits : ∀ k n, s.points k = .closing (some n) → k < n ∧ n < s.pm.spawned
  accepts : ∀ p, s.mutex = some (.acceptCall p) → ∃ c, s.pm.conns p = some c ∧ c.stage = .negotiating
  tracks : ∀ p, s.mutex = some (.onTrack p) → ∃ c, s.pm.conns p = some c ∧ c.registered = true

/-- One call moves on, the others stay. -/
theorem fits_move {k : Nat} {point : Point} {v : Option Closer} (hL : Lively s)
    (hself : Point.Fits point (v.map Closer.phase)) :
    ∀ j < s.pm.spawned, Point.Fits (Function.update s.points k point j)
      ((Function.update s.pm.closers k v j).map Closer.phase) := by
  intro j hj
  by_cases hne : j = k
  · rw [hne, Function.update_self, Function.update_self]
    exact hself
  · rw [Function.update_of_ne hne, Function.update_of_ne hne]
    exact hL.fits j hj

theorem waits_move {k j n : Nat} {point : Point} (hL : Lively s)
    (h : Function.update s.points k point j = .closing (some n)) (hself : ∀ n, point ≠ .closing (some n)) :
    j < n ∧ n < s.pm.spawned := by
  by_cases hne : j = k
  · rw [hne, Function.update_self] at h
    exact absurd h (hself n)
  · rw [Function.update_of_ne hne] at h
    exact hL.waits j n h

/-- New calls stand before the mutex. -/
theorem fits_adds {pm' : PeerManager} (hG : Guarded s) (hL : Lively s) (hadds : PeerManager.Adds s.pm pm') :
    ∀ k < pm'.spawned, Point.Fits (s.points k) ((pm'.closers k).map Closer.phase) := by
  intro k hk
  obtain ⟨hcl, hlt⟩ | ⟨rfl, callId, cause, hcl⟩ := hadds.closers hk
  · rw [hcl]
    exact hL.fits k hlt
  · rw [(hG.fresh _ (Nat.le_refl _)).1, hcl]
    rfl

theorem Lively.free {l : PeerManager.Label} {pm' : PeerManager} (hW : s.pm.WellFormed) (hG : Guarded s) (hL : Lively s)
    (h : PeerManager.Step s.pm l pm') (hl : l.free = true)
    (hfails : ∀ p, l = .acceptFails p → s.mutex ≠ some (.acceptCall p)) : Lively {s with pm := pm'} := by
  have hlater := PeerManager.step_later hW h fun k hk => by rw [hk] at hl; cases hl
  have hfits := fits_adds hG hL (PeerManager.step_adds h hl)
  refine ⟨hfits, fun k n hp => ?_, fun p hm => ?_, fun p hm => ?_⟩
  · exact ⟨(hL.waits k n hp).1, Nat.lt_of_lt_of_le (hL.waits k n hp).2 hlater.spawned⟩
  · obtain ⟨c, hc, hst⟩ := hL.accepts p hm
    obtain ⟨c', hc', -, hst'⟩ := PeerManager.step_conn hW h hl hc (hW.registered p c hc (.inl hst))
    exact ⟨c', hc', hst' (fun hp => hfails p hp hm) hst⟩
  · obtain ⟨c, hc, hreg⟩ := hL.tracks p hm
    obtain ⟨c', hc', hreg', -⟩ := PeerManager.step_conn hW h hl hc hreg
    exact ⟨c', hc', hreg'⟩

theorem Lively.close (hG : Guarded s) (hL : Lively s) {k p : Nat} (hk : k < s.pm.spawned) (waits : Bool) :
    Lively (s.close k p waits) := by
  have hlater := PeerManager.later_closePc s.pm p
  have hadds := fits_adds hG hL (PeerManager.adds_closePc s.pm p)
  have hconn (q : Nat) (c : Conn) (hc : s.pm.conns q = some c) : ∃ c', (s.pm.closePc p).conns q = some c' ∧
      c'.stage = c.stage ∧ c'.registered = c.registered :=
    let ⟨_, h⟩ := PeerManager.closePc_conn hc p
    ⟨_, h, rfl, rfl⟩
  constructor
  · intro j hj
    show Point.Fits (Function.update s.points k _ j) ((Function.update (s.pm.closePc p).closers k none j).map Closer.phase)
    by_cases hne : j = k
    · rw [hne, Function.update_self]
      trivial
    · rw [Function.update_of_ne hne, Function.update_of_ne hne]
      exact hadds j hj
  · intro j n h
    have h : Function.update s.points k (.closing (if waits then s.pm.callback p else none)) j = .closing (some n) := h
    by_cases hne : j = k
    · rw [hne, Function.update_self] at h
      cases waits with
      | false => cases h
      | true =>
        obtain ⟨rfl, c, -, hclose, hreg⟩ := callback_eq (Point.closing.inj h)
        refine ⟨hne ▸ hk, ?_⟩
        show s.pm.spawned < ((s.pm.closePc p).setCloser k none).spawned
        rw [hclose, PeerManager.changeState, if_pos hreg]
        exact Nat.lt_succ_self _
    · rw [Function.update_of_ne hne] at h
      exact ⟨(hL.waits j n h).1, Nat.lt_of_lt_of_le (hL.waits j n h).2 hlater.spawned⟩
  · intro q hm
    obtain ⟨c, hc, hst⟩ := hL.accepts q hm
    obtain ⟨c', hc', hst', -⟩ := hconn q c hc
    exact ⟨c', hc', hst'.trans hst⟩
  · intro q hm
    obtain ⟨c, hc, hreg⟩ := hL.tracks q hm
    obtain ⟨c', hc', -, hreg'⟩ := hconn q c hc
    exact ⟨c', hc', hreg'.trans hreg⟩

/-- While nobody has the mutex nobody holds it for a connection. -/
theorem Lively.ofFree (hfits : ∀ k < s.pm.spawned, Point.Fits (s.points k) ((s.pm.closers k).map Closer.phase))
    (hwaits : ∀ k n, s.points k = .closing (some n) → k < n ∧ n < s.pm.spawned) (hfree : s.mutex = none) : Lively s := by
  refine ⟨hfits, hwaits, fun p hm => ?_, fun p hm => ?_⟩ <;>
  · rw [hfree] at hm
    cases hm

theorem step_lively (hW : s.pm.WellFormed) (hG : Guarded s) (hL : Lively s) (h : Step s e s') : Lively s' := by
  cases h with
  | free hl hfree hfails => exact hL.free hW hG hl hfree hfails
  | @lock holder hnone hwants =>
    cases holder with
    | closePeer k =>
      obtain ⟨hp, closer, hk⟩ := hwants
      have hfits := hL.fits k (hW.spawned k closer hk)
      rw [hp] at hfits
      refine ⟨fun j hj => ?_, fun j n h => ?_, fun _ hq => (by cases hq), fun _ hq => (by cases hq)⟩
      · have hmoved := @fits_move s k .locked (s.pm.closers k) hL hfits j hj
        rw [Function.update_eq_self] at hmoved
        exact hmoved
      · exact @waits_move s k j n .locked hL h fun _ hclosing => by cases hclosing
    | acceptCall p =>
      refine ⟨hL.fits, hL.waits, fun q hq => ?_, fun _ hq => (by cases hq)⟩
      cases hq
      exact hwants
    | onTrack p =>
      refine ⟨hL.fits, hL.waits, fun _ hq => (by cases hq), fun q hq => ?_⟩
      cases hq
      exact hwants.2
    | addRemoteCandidate => exact ⟨hL.fits, hL.waits, fun _ hq => (by cases hq), fun _ hq => (by cases hq)⟩
  | store => exact .ofFree hL.fits hL.waits rfl
  | @track p c =>
    obtain ⟨-, -, hclosers, hspawned⟩ := PeerManager.onTrack_same s.pm c.callId
    refine .ofFree (fun k hk => ?_) (fun k n hp => ?_) rfl
    · rw [hclosers]
      exact hL.fits k (hspawned ▸ hk)
    · rw [hspawned]
      exact hL.waits k n hp
  | read => exact .ofFree hL.fits hL.waits rfl
  | @lookup k closer hp hk =>
    obtain ⟨hconns, hspawned, -, -⟩ := PeerManager.lookup_same s.pm k closer
    have hself : Point.Fits (.unlock (s.pm.storedPc closer.callId)) (Option.map Closer.phase
        ((s.pm.peers.get? closer.callId).map fun entry => {closer with phase := .stop entry})) := by
      intro p hfound
      obtain ⟨entry, hentry, -⟩ := Option.map_eq_some_iff.mp hfound
      rw [hentry]
      exact ⟨entry, rfl⟩
    refine ⟨fun j hj => ?_, fun j n h => ?_, fun p hm => ?_, fun p hm => ?_⟩
    · rw [PeerManager.lookup_closers]
      exact fits_move hL hself j (hspawned ▸ hj)
    · rw [hspawned]
      exact waits_move hL h fun _ hclosing => by cases hclosing
    · rw [hconns]
      exact hL.accepts p hm
    · rw [hconns]
      exact hL.tracks p hm
  | @unlock k found hp =>
    have hout (n : Nat) : (if found.isSome then Point.unlocked else .done) ≠ .closing (some n) := by
      intro hclosing
      split at hclosing <;> cases hclosing
    have hself : Point.Fits (if found.isSome then Point.unlocked else .done) ((s.pm.closers k).map Closer.phase) := by
      have hfits := hL.fits k (hG.lt fun hlock => by rw [hp] at hlock; cases hlock)
      rw [hp] at hfits
      cases found with
      | none => trivial
      | some p =>
        obtain ⟨entry, hentry⟩ := hfits p rfl
        exact ⟨entry, .inl hentry⟩
    refine .ofFree (fun j hj => ?_) (fun j n h => @waits_move s k j n _ hL h hout) rfl
    have hmoved := @fits_move s k _ _ hL hself j hj
    rw [Function.update_eq_self] at hmoved
    exact hmoved
  | @stop k closer entry hp hk =>
    obtain ⟨hconns, hspawned, hclosers, -, -⟩ := PeerManager.stopLoopback_same s.pm entry
    refine ⟨fun j hj => ?_, fun j n h => ?_, fun p hm => ?_, fun p hm => ?_⟩
    · rw [PeerManager.setCloser_closers, hclosers]
      have hmoved := @fits_move s k .unlocked (some {closer with phase := .close entry}) hL ⟨entry, .inr rfl⟩ j
        (hspawned ▸ hj)
      rw [← hp, Function.update_eq_self] at hmoved
      exact hmoved
    · show j < n ∧ n < (s.pm.stopLoopback entry).spawned
      rw [hspawned]
      exact hL.waits j n h
    · show ∃ c, (s.pm.stopLoopback entry).conns p = some c ∧ _
      rw [hconns]
      exact hL.accepts p hm
    · show ∃ c, (s.pm.stopLoopback entry).conns p = some c ∧ _
      rw [hconns]
      exact hL.tracks p hm
  | close waits hp hk => exact hL.close hG (hW.spawned _ _ hk) waits
  | @returned k =>
    refine ⟨fun j hj => ?_, fun j n h => ?_, hL.accepts, hL.tracks⟩
    · have hmoved := @fits_move s k .done (s.pm.closers k) hL trivial j hj
      rw [Function.update_eq_self] at hmoved
      exact hmoved
    · exact @waits_move s k j n .done hL h fun _ hclosing => by cases hclosing

/-- A step of a `ClosePeer` or of who has the mutex. -/
def Event.onward : Event → Bool
  | .lock (.closePeer _) | .unlock _ | .store _ _ | .track _ | .lookup _ _ _ | .stop _ _ | .close _ _ | .returned _ => true
  | .free _ | .lock (.acceptCall _) | .lock (.onTrack _) | .lock .addRemoteCandidate => false

def GoesOn (s : Locked) : Prop := ∃ e s', e.onward = true ∧ Step s e s'

/-- Whoever has the mutex can go on. -/
theorem holder_goes_on (hG : Guarded s) (hL : Lively s) {holder : Holder} (hm : s.mutex = some holder) : GoesOn s := by
  cases holder with
  | closePeer k =>
    have hin := (hG.holds k).mp hm
    have hlt : k < s.pm.spawned := hG.lt fun hp => by rw [hp] at hin; cases hin
    have hfits := hL.fits k hlt
    cases hp : s.points k with
    | locked =>
      rw [hp] at hfits
      obtain ⟨closer, hk, hph⟩ := Option.map_eq_some_iff.mp hfits
      exact ⟨_, _, rfl, .lookup hp hk hph⟩
    | unlock found => exact ⟨_, _, rfl, .unlock hp⟩
    | lock | unlocked | closing | done =>
      rw [hp] at hin
      cases hin
  | acceptCall p =>
    obtain ⟨c, hc, hst⟩ := hL.accepts p hm
    exact ⟨_, _, rfl, .store hm hc hst⟩
  | onTrack p =>
    obtain ⟨c, hc, hreg⟩ := hL.tracks p hm
    exact ⟨_, _, rfl, .track hm hc hreg⟩
  | addRemoteCandidate => exact ⟨_, _, rfl, .read hm⟩

/-- While the mutex is free a call can go on, or the one that it waits for. -/
theorem call_goes_on (hG : Guarded s) (hL : Lively s) (hm : s.mutex = none) {k : Nat} (hk : k < s.pm.spawned)
    (hdone : s.points k ≠ .done) : GoesOn s := by
  have hfits := hL.fits k hk
  have hout : (s.points k).inside ≠ true := by
    rw [ne_eq, ← hG.holds k, hm]
    exact nofun
  cases hp : s.points k with
  | lock =>
    rw [hp] at hfits
    obtain ⟨closer, hcl, -⟩ := Option.map_eq_some_iff.mp hfits
    exact ⟨_, _, rfl, .lock hm (show s.Wants (.closePeer k) from ⟨hp, closer, hcl⟩)⟩
  | locked | unlock =>
    rw [hp] at hout
    exact absurd rfl hout
  | unlocked =>
    rw [hp] at hfits
    obtain ⟨entry, hph | hph⟩ := hfits
    · obtain ⟨closer, hcl, hph⟩ := Option.map_eq_some_iff.mp hph
      exact ⟨_, _, rfl, .stop hp hcl hph⟩
    · obtain ⟨closer, hcl, hph⟩ := Option.map_eq_some_iff.mp hph
      exact ⟨_, _, rfl, .close false hp hcl hph⟩
  | closing nested =>
    cases nested with
    | none => exact ⟨_, _, rfl, .returned hp nofun⟩
    | some n =>
      by_cases hn : s.points n = .done
      · exact ⟨_, _, rfl, .returned hp fun m hm => Option.some.inj hm ▸ hn⟩
      · obtain ⟨hlt, hspawned⟩ := hL.waits k n hp
        exact call_goes_on hG hL hm hspawned hn
  | done => exact absurd hp hdone
termination_by s.pm.spawned - k

/-- **While a `ClosePeer` is running, something can go on.** -/
theorem goes_on (hG : Guarded s) (hL : Lively s) {k : Nat} (hk : k < s.pm.spawned) (hdone : s.points k ≠ .done) :
    GoesOn s := by
  cases hm : s.mutex with
  | none => exact call_goes_on hG hL hm hk hdone
  | some holder => exact holder_goes_on hG hL hm

end Locked
end RtcPlugin.Node
