import RtcPlugin.Node.References

/-! Which connections the node keeps.

A callback knows its connection only by the call identifier, and `ClosePeer` closes
what the map has for that identifier. `Careful` is the condition on a step under
which that is the same connection, and nothing is overwritten; `Kept` is what every
run of careful steps keeps, and `Sound` what the manager is for. -/
namespace RtcPlugin.Node.PeerManager

/-- A `ClosePeer` of the call has still to look at the map. -/
def Awaited (pm : PeerManager) (callId : String) : Prop :=
  ∃ k cl, pm.closers k = some cl ∧ cl.callId = callId ∧ cl.phase = .lookup

/-- A `ClosePeer` has taken the connection out of the map. -/
def Held (pm : PeerManager) (p : Nat) : Prop :=
  ∃ k cl e, pm.closers k = some cl ∧ cl.phase.entry? = some e ∧ e.pc = p

/-- Where the callback of the connection can still run, no other connection is in
the map for its call. -/
def OwnsCall (pm : PeerManager) (p : Nat) : Prop :=
  ∀ c q, pm.conns p = some c → c.registered = true → c.state ≠ .closed → pm.storedPc c.callId = some q → q = p

/-- A connection is stored over none that is open, before its state has changed or a
`ClosePeer` of its call has looked, and while no other connection's `ClosePeer` has
still to look. A connection whose state changes owns its call. -/
def Careful (pm : PeerManager) : Label → Prop
  | .store p => ∀ c, pm.conns p = some c →
      (∀ q d, pm.storedPc c.callId = some q → pm.conns q = some d → d.state = .closed) ∧
        (c.state = .up ∨ pm.Awaited c.callId) ∧
          ∀ k cl q, pm.closers k = some cl → cl.callId = c.callId → cl.phase = .lookup → cl.cause = some q → q = p
  | .stateChange p _ | .acceptFails p => pm.OwnsCall p
  | .close k => ∀ cl e, pm.closers k = some cl → cl.phase = .close e → pm.OwnsCall e.pc
  | .accept _ | .register _ | .track _ | .hangup _ | .lookup _ | .stop _ => True

/-- What the manager owes: a `ClosePeer` that follows the state of a connection
closes no other one, and once nothing runs, a connection is closed or in the map,
and in the map only while it is up. -/
structure Sound (pm : PeerManager) : Prop where
  own : ∀ k cl p e, pm.closers k = some cl → cl.cause = some p → cl.phase.entry? = some e → e.pc = p
  closed : pm.Quiescent → ∀ p c, pm.conns p = some c →
    c.state = .closed ∨ ∃ id e, pm.peers.get? id = some e ∧ e.pc = p
  up : pm.Quiescent → ∀ id e c, pm.peers.get? id = some e → pm.conns e.pc = some c → c.state = .up

structure Kept (pm : PeerManager) : Prop where
  accounted : ∀ p c, pm.conns p = some c → c.stage = .stored →
    c.state = .closed ∨ pm.storedPc c.callId = some p ∨ pm.Held p
  watched : ∀ id p c, pm.storedPc id = some p → pm.conns p = some c → c.state = .up ∨ pm.Awaited id
  aimed : ∀ k cl p q, pm.closers k = some cl → cl.cause = some p → cl.phase = .lookup →
    pm.storedPc cl.callId = some q → q = p
  own : ∀ k cl p e, pm.closers k = some cl → cl.cause = some p → cl.phase.entry? = some e → e.pc = p

/-- Once nothing runs, the accounts come down to the map. -/
theorem Kept.sound {pm : PeerManager} (hW : WellFormed pm) (hK : Kept pm) : Sound pm := by
  refine ⟨hK.own, fun hq p c hc => ?_, fun hq id e c he hc => ?_⟩
  · have hfin := hq.1 p c hc
    cases hst : c.stage with
    | opening | negotiating => simp [hst, AcceptStage.finished] at hfin
    | failed => exact .inl (hW.failed p c hc hst)
    | stored =>
      rcases hK.accounted p c hc hst with h | h | ⟨k, cl, _, hk, _⟩
      · exact .inl h
      · obtain ⟨e, he, hpc⟩ := Option.map_eq_some_iff.mp h
        exact .inr ⟨c.callId, e, he, hpc⟩
      · exact absurd (hq.2 k) (by simp [hk])
  · have hstored : pm.storedPc id = some e.pc := by rw [storedPc, he, Option.map_some]
    rcases hK.watched id e.pc c hstored hc with h | ⟨k, cl, hk, _⟩
    · exact h
    · exact absurd (hq.2 k) (by simp [hk])

/-! ### The operations -/

theorem spawn_inv {pm : PeerManager} {callId : String} {cause : Option Nat} {k : Nat} {cl : Closer}
    (h : (pm.spawn callId cause).closers k = some cl) : pm.closers k = some cl ∨ cl = ⟨callId, cause, .lookup⟩ := by
  rcases update_some h with ⟨_, he⟩ | ⟨_, hk⟩
  · exact .inr (Option.some.inj he).symm
  · exact .inl hk

/-- Goroutines that stay keep what they await and hold. -/
theorem Awaited.mono {pm pm' : PeerManager} (hg : ∀ k cl, pm.closers k = some cl → pm'.closers k = some cl)
    {callId : String} (h : pm.Awaited callId) : pm'.Awaited callId :=
  let ⟨k, cl, hk, hcl⟩ := h
  ⟨k, cl, hg k cl hk, hcl⟩

theorem Held.mono {pm pm' : PeerManager} (hg : ∀ k cl, pm.closers k = some cl → pm'.closers k = some cl)
    {p : Nat} (h : pm.Held p) : pm'.Held p :=
  let ⟨k, cl, e, hk, hcl⟩ := h
  ⟨k, cl, e, hg k cl hk, hcl⟩

theorem Kept.spawn {pm : PeerManager} (hW : WellFormed pm) (hK : Kept pm) {callId : String} {cause : Option Nat}
    (hown : ∀ p q, cause = some p → pm.storedPc callId = some q → q = p) : Kept (pm.spawn callId cause) := by
  have hmono : ∀ k cl, pm.closers k = some cl → (pm.spawn callId cause).closers k = some cl :=
    fun k cl hk => spawn_closers hW hk
  refine ⟨fun p c hc hst => ?_, fun id p c hp hc => ?_, fun k cl p q hk hp hph hq => ?_, fun k cl p e hk hp he => ?_⟩
  · exact (hK.accounted p c hc hst).imp_right (Or.imp_right (Held.mono hmono))
  · exact (hK.watched id p c hp hc).imp_right (Awaited.mono hmono)
  · rcases spawn_inv hk with hk | rfl
    · exact hK.aimed k cl p q hk hp hph hq
    · exact hown p q hp hq
  · rcases spawn_inv hk with hk | rfl
    · exact hK.own k cl p e hk hp he
    · cases he

theorem changeState_inv {pm : PeerManager} {p : Nat} {c : Conn} {st : PcState} {k : Nat} {cl : Closer}
    (h : (pm.changeState p c st).closers k = some cl) :
    pm.closers k = some cl ∨ c.registered = true ∧ cl = ⟨c.callId, some p, .lookup⟩ := by
  unfold changeState at h
  split at h
  · next hr => exact (spawn_inv h).imp_right fun hcl => ⟨hr, hcl⟩
  · exact .inl h

/-- The callback of a stored connection is there, and calls `ClosePeer`. -/
theorem changeState_awaited {pm : PeerManager} {p : Nat} {c : Conn} {st : PcState} (hr : c.registered = true) :
    (pm.changeState p c st).Awaited c.callId := by
  unfold changeState
  rw [if_pos hr]
  exact ⟨pm.spawned, _, Function.update_self .., rfl, rfl⟩

theorem Kept.changeState {pm : PeerManager} (hW : WellFormed pm) (hK : Kept pm) {p : Nat} {c : Conn} {st : PcState}
    (hc : pm.conns p = some c) (hr : c.state.rank < st.rank) (hown : pm.OwnsCall p) :
    Kept (pm.changeState p c st) := by
  have hopen : c.state ≠ .closed := by
    intro h
    rw [h] at hr
    cases st <;> simp [PcState.rank] at hr
  have hmono : ∀ k cl, pm.closers k = some cl → (pm.changeState p c st).closers k = some cl :=
    fun k cl hk => changeState_closers hW hk
  have hmap : ∀ id, (pm.changeState p c st).storedPc id = pm.storedPc id := by
    intro id
    rw [storedPc, (changeState_same _ _ _ _).2.2, storedPc]
  refine ⟨fun q d hd hst => ?_, fun id q d hq hd => ?_, fun k cl q r hk hq hph hr => ?_, fun k cl q e hk hq he => ?_⟩
  · rw [hmap]
    rw [changeState_conns] at hd
    rcases update_some hd with ⟨rfl, he⟩ | ⟨_, hd⟩
    · cases he
      have hacc := hK.accounted q c hc hst
      exact .inr ((hacc.resolve_left hopen).imp_right (Held.mono hmono))
    · exact (hK.accounted q d hd hst).imp_right (Or.imp_right (Held.mono hmono))
  · rw [hmap] at hq
    rw [changeState_conns] at hd
    rcases update_some hd with ⟨rfl, _⟩ | ⟨_, hd⟩
    · obtain ⟨c', hc', hid, hst⟩ := hW.entry id q hq
      obtain rfl := Option.some.inj (hc.symm.trans hc')
      rw [← hid]
      exact .inr (changeState_awaited (hW.registered q c hc (.inr hst)))
    · exact (hK.watched id q d hq hd).imp_right (Awaited.mono hmono)
  · rw [hmap] at hr
    rcases changeState_inv hk with hk | ⟨hreg, rfl⟩
    · exact hK.aimed k cl q r hk hq hph hr
    · cases hq
      exact hown c r hc hreg hopen hr
  · rcases changeState_inv hk with hk | ⟨_, rfl⟩
    · exact hK.own k cl q e hk hq he
    · cases he

theorem Kept.closePc {pm : PeerManager} (hW : WellFormed pm) (hK : Kept pm) {p : Nat} (hown : pm.OwnsCall p) :
    Kept (pm.closePc p) := by
  cases hc : pm.conns p with
  | none =>
    rw [PeerManager.closePc, hc]
    exact hK
  | some c =>
    rcases closePc_cases hc with ⟨_, he⟩ | ⟨hr, he⟩
    · rw [he]
      exact hK
    · rw [he]
      exact hK.changeState hW hc hr hown

theorem unfinished_unstored {pm : PeerManager} (hW : WellFormed pm) {p : Nat} {c : Conn} (hc : pm.conns p = some c)
    (hfin : c.stage.finished = false) (id : String) : pm.storedPc id ≠ some p := by
  intro h
  obtain ⟨d, hd, _, hst⟩ := hW.entry id p h
  obtain rfl := Option.some.inj (hc.symm.trans hd)
  rw [hst] at hfin
  cases hfin

/-- A connection that is not in the map appears, or moves on without being stored. -/
theorem Kept.setConn {pm : PeerManager} (hK : Kept pm) {p : Nat} {c : Conn} (hp : ∀ id, pm.storedPc id ≠ some p)
    (hstage : c.stage ≠ .stored) : ∀ created, Kept {pm with
      conns := Function.update pm.conns p (some c), created := created} := by
  intro created
  refine ⟨fun q d hd hst => ?_, fun id q d hq hd => ?_, hK.aimed, hK.own⟩
  · rcases update_some hd with ⟨_, he⟩ | ⟨_, hd⟩
    · cases he
      exact absurd hst hstage
    · exact hK.accounted q d hd hst
  · rcases update_some hd with ⟨rfl, _⟩ | ⟨_, hd⟩
    · exact absurd hq (hp id)
    · exact hK.watched id q d hq hd

/-- The same connections and goroutines, and the same entries but for their loopbacks. -/
theorem Kept.ofSame {pm pm' : PeerManager} (hK : Kept pm) (hconns : pm'.conns = pm.conns)
    (hclosers : pm'.closers = pm.closers) (hmap : ∀ id, pm'.storedPc id = pm.storedPc id) : Kept pm' := by
  constructor
  · intro p c hc hst
    rw [hconns] at hc
    rw [hmap, Held, hclosers]
    exact hK.accounted p c hc hst
  · intro id p c hp hc
    rw [hmap] at hp
    rw [hconns] at hc
    rw [Awaited, hclosers]
    exact hK.watched id p c hp hc
  · intro k cl p q hk hp hph hq
    rw [hclosers] at hk
    rw [hmap] at hq
    exact hK.aimed k cl p q hk hp hph hq
  · rw [hclosers]
    exact hK.own

theorem Kept.store {pm : PeerManager} (hW : WellFormed pm) (hK : Kept pm) {p : Nat} {c : Conn}
    (hc : pm.conns p = some c) (hcare : pm.Careful (.store p)) :
    Kept (pm.store p c.callId) := by
  obtain ⟨hover, hup, haim⟩ := hcare c hc
  have hconns : (pm.store p c.callId).conns = Function.update pm.conns p (some {c with stage := .stored}) :=
    congrArg conns (setStage_eq hc .stored)
  refine ⟨fun q d hd hs => ?_, fun id q d hq hd => ?_, fun k cl q r hk hq hph hr => ?_, hK.own⟩
  · rw [hconns] at hd
    rw [storedPc_store]
    rcases update_some hd with ⟨rfl, he⟩ | ⟨hne, hd⟩
    · cases he
      exact .inr (.inl (if_pos rfl))
    · rcases hK.accounted q d hd hs with h | h | h
      · exact .inl h
      · by_cases hid : d.callId = c.callId
        · exact .inl (hover q d (hid ▸ h) hd)
        · rw [if_neg hid]
          exact .inr (.inl h)
      · exact .inr (.inr h)
  · rw [storedPc_store] at hq
    rw [hconns] at hd
    split at hq
    · next hid =>
      cases hq
      rw [Function.update_self] at hd
      cases hd
      rw [hid]
      exact hup
    · next hid =>
      have hqp : q ≠ p := by
        rintro rfl
        obtain ⟨c', hc', hid', _⟩ := hW.entry id q hq
        obtain rfl := Option.some.inj (hc.symm.trans hc')
        exact hid hid'.symm
      rw [Function.update_of_ne hqp] at hd
      exact hK.watched id q d hq hd
  · rw [storedPc_store] at hr
    split at hr
    · next hid =>
      cases hr
      exact (haim k cl q hk hid hph hq).symm
    · exact hK.aimed k cl q r hk hq hph hr

/-- The critical section either takes an entry out for its goroutine, or ends it. -/
theorem lookup_cases (pm : PeerManager) (k : Nat) (cl : Closer) :
    (∃ e, pm.storedPc cl.callId = some e.pc ∧
        (pm.lookup k cl).closers = Function.update pm.closers k (some {cl with phase := .stop e})) ∨
      pm.storedPc cl.callId = none ∧ (pm.lookup k cl).closers = Function.update pm.closers k none := by
  unfold lookup
  split
  · next e he => exact .inl ⟨e, congrArg (Option.map PeerEntry.pc) he, rfl⟩
  · next he => exact .inr ⟨congrArg (Option.map PeerEntry.pc) he, rfl⟩

/-- After the critical section a goroutine is as before, or is this one with the entry. -/
theorem lookup_inv {pm : PeerManager} {k k' : Nat} {cl cl' : Closer} (hk' : (pm.lookup k cl).closers k' = some cl') :
    pm.closers k' = some cl' ∨ ∃ e, pm.storedPc cl.callId = some e.pc ∧ cl' = {cl with phase := .stop e} := by
  rw [lookup_closers] at hk'
  rcases update_some hk' with ⟨_, hv⟩ | ⟨_, hk'⟩
  · obtain ⟨e, he, rfl⟩ := Option.map_eq_some_iff.mp hv
    exact .inr ⟨e, congrArg (Option.map PeerEntry.pc) he, rfl⟩
  · exact .inl hk'

theorem lookup_stays {pm : PeerManager} {k k' : Nat} {cl cl' : Closer} (hk' : pm.closers k' = some cl')
    (hne : k' ≠ k) : (pm.lookup k cl).closers k' = some cl' := by
  rw [lookup_closers, Function.update_of_ne hne, hk']

theorem setCloser_stays {pm : PeerManager} {k k' : Nat} {v : Option Closer} {cl' : Closer}
    (hk' : pm.closers k' = some cl') (hne : k' ≠ k) : (pm.setCloser k v).closers k' = some cl' := by
  rw [setCloser_closers, Function.update_of_ne hne, hk']

/-- Goroutines that stand at different places are different. -/
theorem Kept.lookup {pm : PeerManager} (hK : Kept pm) {k : Nat} {cl : Closer} (hk : pm.closers k = some cl)
    (hph : cl.phase = .lookup) : Kept (pm.lookup k cl) := by
  have hnone : cl.phase.entry? = none := by rw [hph]; rfl
  constructor
  · intro p c hc hst
    rw [(lookup_same pm k cl).1] at hc
    rcases hK.accounted p c hc hst with h | h | ⟨k', cl', e, hk', he, hpc⟩
    · exact .inl h
    · by_cases hid : c.callId = cl.callId
      · rcases lookup_cases pm k cl with ⟨e, he, hcl⟩ | ⟨he, _⟩
        · rw [hid, he] at h
          exact .inr (.inr ⟨k, _, e, (congrFun hcl k).trans (Function.update_self ..), rfl, Option.some.inj h⟩)
        · rw [hid, he] at h
          cases h
      · rw [storedPc_lookup, if_neg hid]
        exact .inr (.inl h)
    · have hne : k' ≠ k :=
        closer_ne hk hk' (ne_of_apply_ne ClosePhase.entry? (by rw [he, hnone]; exact Option.some_ne_none e))
      exact .inr (.inr ⟨k', cl', e, lookup_stays hk' hne, he, hpc⟩)
  · intro id p c hp hc
    rw [(lookup_same pm k cl).1] at hc
    rw [storedPc_lookup] at hp
    split at hp
    · cases hp
    · next hid =>
      rcases hK.watched id p c hp hc with h | ⟨k', cl', hk', hid', hph'⟩
      · exact .inl h
      · have hne : k' ≠ k := by
          intro h
          rw [h, hk] at hk'
          cases hk'
          exact hid hid'.symm
        exact .inr ⟨k', cl', lookup_stays hk' hne, hid', hph'⟩
  · intro k' cl' p q hk' hp hph' hq
    rw [storedPc_lookup] at hq
    split at hq
    · cases hq
    · rcases lookup_inv hk' with hk' | ⟨_, _, rfl⟩
      · exact hK.aimed k' cl' p q hk' hp hph' hq
      · cases hph'
  · intro k' cl' p e hk' hp he
    rcases lookup_inv hk' with hk' | ⟨e', he', rfl⟩
    · exact hK.own k' cl' p e hk' hp he
    · cases he
      exact hK.aimed k cl p e.pc hk hp hph he'

/-- A goroutine that holds an entry goes on holding it, or has closed its connection. -/
theorem Kept.setCloser {pm : PeerManager} (hK : Kept pm) {k : Nat} {cl : Closer} {v : Option Closer} {e : PeerEntry}
    (hk : pm.closers k = some cl) (hph : cl.phase.entry? = some e)
    (hv : v = none ∧ (∀ c, pm.conns e.pc = some c → c.state = .closed) ∨
      v = some {cl with phase := .close e}) : Kept (pm.setCloser k v) := by
  have hother : ∀ k' cl', (pm.setCloser k v).closers k' = some cl' →
      pm.closers k' = some cl' ∨ cl' = {cl with phase := .close e} := by
    intro k' cl' hk'
    rcases update_some hk' with ⟨_, hv'⟩ | ⟨_, hk'⟩
    · rcases hv with ⟨h, _⟩ | h
      · rw [h] at hv'
        cases hv'
      · rw [h] at hv'
        exact .inr (Option.some.inj hv').symm
    · exact .inl hk'
  constructor
  · intro p c hc hst
    rcases hK.accounted p c hc hst with h | h | ⟨k', cl', e', hk', he, hpc⟩
    · exact .inl h
    · exact .inr (.inl h)
    · by_cases hne : k' = k
      · rw [hne, hk] at hk'
        cases hk'
        rw [hph] at he
        cases he
        rcases hv with ⟨_, hclosed⟩ | hv
        · exact .inl (hclosed c (hpc ▸ hc))
        · have hself : (pm.setCloser k v).closers k = some {cl with phase := .close e} := by
            rw [setCloser_closers, Function.update_self, hv]
          exact .inr (.inr ⟨k, _, e, hself, rfl, hpc⟩)
      · exact .inr (.inr ⟨k', cl', e', setCloser_stays hk' hne, he, hpc⟩)
  · intro id p c hp hc
    rcases hK.watched id p c hp hc with h | ⟨k', cl', hk', hid', hph'⟩
    · exact .inl h
    · have hne : k' ≠ k :=
        closer_ne hk hk' (ne_of_apply_ne ClosePhase.entry? (by rw [hph', hph]; exact (Option.some_ne_none e).symm))
      exact .inr ⟨k', cl', setCloser_stays hk' hne, hid', hph'⟩
  · intro k' cl' p q hk' hp hph' hq
    rcases hother k' cl' hk' with hk' | rfl
    · exact hK.aimed k' cl' p q hk' hp hph' hq
    · cases hph'
  · intro k' cl' p e' hk' hp he
    rcases hother k' cl' hk' with hk' | rfl
    · exact hK.own k' cl' p e' hk' hp he
    · cases he
      exact hK.own k cl p e hk hp hph

/-! ### Runs -/

theorem step_kept {pm pm' : PeerManager} {l : Label} (hW : WellFormed pm) (hK : Kept pm) (h : Step pm l pm')
    (hcare : pm.Careful l) : Kept pm' := by
  cases h with
  | accept =>
    refine hK.setConn (fun id h => ?_) (by simp) _
    obtain ⟨c, hc, _⟩ := hW.entry id pm.created h
    exact Nat.lt_irrefl _ (hW.created _ c hc)
  | register hc hs => exact hK.setConn (unfinished_unstored hW hc (by rw [hs]; rfl)) (by simp) _
  | @acceptFails p c hc hs =>
    have hc' := closePc_conns hc
    rw [setStage_eq hc']
    exact (hK.closePc hW hcare).setConn (unfinished_unstored (hW.closePc hc) hc' hs) (by simp) _
  | store hc hs => exact hK.store hW hc hcare
  | stateChange hc hr => exact hK.changeState hW hc hr hcare
  | track hc hr =>
    obtain ⟨hconns, -, hclosers, -⟩ := onTrack_same pm _
    exact hK.ofSame hconns hclosers fun id => storedPc_onTrack ..
  | hangup => exact hK.spawn hW (fun p _ hp => nomatch hp)
  | lookup hk hph => exact hK.lookup hk hph
  | @stop k cl entry hk hph =>
    have hK' : Kept (pm.stopLoopback entry) := by
      unfold stopLoopback
      split
      · exact hK.ofSame rfl rfl fun _ => rfl
      · exact hK
    have hk' : (pm.stopLoopback entry).closers k = some cl := by
      rw [(stopLoopback_same pm entry).2.2.1]
      exact hk
    exact hK'.setCloser hk' (by rw [hph]; rfl) (.inr rfl)
  | @close k cl entry hk hph =>
    have hown := hcare cl entry hk hph
    apply (hK.closePc hW hown).setCloser (closePc_closers hW hk) (by rw [hph]; rfl)
    refine .inl ⟨rfl, fun c hc => ?_⟩
    cases hc' : pm.conns entry.pc with
    | none =>
      rw [PeerManager.closePc, hc', hc'] at hc
      cases hc
    | some d =>
      rw [closePc_conns hc'] at hc
      cases hc
      rfl

theorem run_kept {loopbackSec : Nat} {ls : List Label} {pm : PeerManager}
    (h : ((system loopbackSec).restrict Careful).Run ls pm) : Kept pm := by
  refine h.invariant (I := fun _ pm => Kept pm) ?_ fun _ _ _ _ hrun hK hstep => ?_
  · intro pm hpm
    obtain rfl : pm = new loopbackSec := hpm
    constructor <;> intros <;> contradiction
  · exact step_kept (run_wellFormed hrun.of_restrict) hK hstep.1 hstep.2

/-- **Where every step is careful, the manager keeps exactly the connections that
live**, and a change of state closes its own connection only. -/
theorem retention {loopbackSec : Nat} {ls : List Label} {pm : PeerManager}
    (h : ((system loopbackSec).restrict Careful).Run ls pm) : Sound pm :=
  (run_kept h).sound (run_wellFormed h.of_restrict)

/-- A call is accepted and hung up. -/
theorem retention_hangup : ∃ pm, ((system 0).restrict Careful).Run
    [.accept "call-0001", .register 0, .store 0, .hangup "call-0001", .lookup 0, .stop 0, .close 0, .lookup 1] pm ∧
      Sound pm ∧ pm.Quiescent := by
  have h₀ : ((system 0).restrict Careful).Run [] (new 0) := .nil rfl
  have h₁ := h₀.snoc ⟨show Step _ (.accept "call-0001") _ from .accept (by decide), trivial⟩
  have h₂ := h₁.snoc ⟨show Step _ (.register 0) _ from .register rfl rfl, trivial⟩
  have h₃ := h₂.snoc ⟨show Step _ (.store 0) _ from .store rfl rfl, fun c hc => by
    cases hc
    refine ⟨fun q d hq => ?_, .inl rfl, fun k cl q hk => ?_⟩
    · cases hq
    · cases hk⟩
  have h₄ := h₃.snoc ⟨show Step _ (.hangup "call-0001") _ from .hangup, trivial⟩
  have h₅ := h₄.snoc ⟨show Step _ (.lookup 0) _ from .lookup rfl rfl, trivial⟩
  have h₆ := h₅.snoc ⟨show Step _ (.stop 0) _ from .stop rfl rfl, trivial⟩
  have h₇ := h₆.snoc ⟨show Step _ (.close 0) _ from .close rfl rfl, fun cl e hk hph c q hc _ _ hq => by
    cases hk
    cases hph
    cases hc
    cases hq⟩
  have h₈ := h₇.snoc ⟨show Step _ (.lookup 1) _ from .lookup rfl rfl, trivial⟩
  refine ⟨_, h₈, retention h₈, fun p c hc => ?_, fun k => ?_⟩
  · cases p with
    | zero =>
      cases hc
      rfl
    | succ p => cases hc
  · match k with
    | 0 | 1 | k + 2 => rfl

/-- The connection fails while its accept still gathers candidates: `ClosePeer`
finds nothing in the map, and then the connection is stored. -/
theorem failed_peer_retained : ¬ ∀ loopbackSec ls pm, (system loopbackSec).Run ls pm → Sound pm := by
  intro hall
  have h₀ : (system 0).Run [] (new 0) := .nil rfl
  have h₁ := h₀.snoc (show Step _ (.accept "call-0001") _ from .accept (by decide))
  have h₂ := h₁.snoc (show Step _ (.register 0) _ from .register rfl rfl)
  have h₃ := h₂.snoc (show Step _ (.stateChange 0 .failed) _ from .stateChange rfl (by decide))
  have h₄ := h₃.snoc (show Step _ (.lookup 0) _ from .lookup rfl rfl)
  have h₅ := h₄.snoc (show Step _ (.store 0) _ from .store rfl rfl)
  have hup := (hall 0 _ _ h₅).up ⟨fun p c hc => ?_, fun k => ?_⟩ "call-0001" ⟨0, none⟩ _ rfl rfl
  · cases hup
  · cases p with
    | zero =>
      cases hc
      rfl
    | succ p => cases hc
  · cases k <;> rfl

end RtcPlugin.Node.PeerManager
