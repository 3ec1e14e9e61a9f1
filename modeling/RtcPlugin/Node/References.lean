import RtcPlugin.Node.Peers
import RtcPlugin.System.Update

/-! What the node's connections, entries and goroutines know of each other.

They refer to each other by number. `WellFormed` is what holds of these references
in every run, whatever the interleaving. -/
namespace RtcPlugin.Node

/-- The entry a `ClosePeer` has taken out of the map. -/
def ClosePhase.entry? : ClosePhase → Option PeerEntry
  | .lookup => none
  | .stop entry | .close entry => some entry

namespace PeerManager

/-- The connection in the map for a call. -/
def storedPc (pm : PeerManager) (callId : String) : Option Nat := (pm.peers.get? callId).map PeerEntry.pc

structure WellFormed (pm : PeerManager) : Prop where
  created : ∀ p c, pm.conns p = some c → p < pm.created
  spawned : ∀ k cl, pm.closers k = some cl → k < pm.spawned
  registered : ∀ p c, pm.conns p = some c → c.stage = .negotiating ∨ c.stage = .stored → c.registered = true
  failed : ∀ p c, pm.conns p = some c → c.stage = .failed → c.state = .closed
  entry : ∀ id p, pm.storedPc id = some p → ∃ c, pm.conns p = some c ∧ c.callId = id ∧ c.stage = .stored
  cause : ∀ k cl p, pm.closers k = some cl → cl.cause = some p → ∃ c, pm.conns p = some c ∧ c.callId = cl.callId

/-! ### Connections only move on -/

/-- A connection and the same connection later. -/
structure Grows (c c' : Conn) : Prop where
  callId : c'.callId = c.callId
  stored : c.stage = .stored → c'.stage = .stored

/-- `conns'` has every connection of `conns`, perhaps further on. -/
def Grown (conns conns' : Nat → Option Conn) : Prop :=
  ∀ p c, conns p = some c → ∃ c', conns' p = some c' ∧ Grows c c'

theorem grown_update {conns : Nat → Option Conn} {p : Nat} {c c' : Conn} (hc : conns p = some c) (h : Grows c c') :
    Grown conns (Function.update conns p (some c')) := by
  intro q d hd
  by_cases hq : q = p
  · subst hq
    obtain rfl := Option.some.inj (hc.symm.trans hd)
    exact ⟨c', Function.update_self .., h⟩
  · exact ⟨d, by rw [Function.update_of_ne hq, hd], rfl, id⟩

/-- Entries and callbacks keep referring to connections that exist. -/
theorem WellFormed.refer {pm : PeerManager} (hW : WellFormed pm) {conns : Nat → Option Conn}
    (hg : Grown pm.conns conns) :
    (∀ id p, pm.storedPc id = some p → ∃ c, conns p = some c ∧ c.callId = id ∧ c.stage = .stored) ∧
      ∀ k cl p, pm.closers k = some cl → cl.cause = some p → ∃ c, conns p = some c ∧ c.callId = cl.callId := by
  refine ⟨fun id p hp => ?_, fun k cl p hk hp => ?_⟩
  · obtain ⟨c, hc, hid, hst⟩ := hW.entry id p hp
    obtain ⟨c', hc', hgr⟩ := hg _ c hc
    exact ⟨c', hc', hgr.callId.trans hid, hgr.stored hst⟩
  · obtain ⟨c, hc, hid⟩ := hW.cause k cl p hk hp
    obtain ⟨c', hc', hgr⟩ := hg _ c hc
    exact ⟨c', hc', hgr.callId.trans hid⟩

theorem WellFormed.spawn {pm : PeerManager} (hW : WellFormed pm) {callId : String} {cause : Option Nat}
    (hcause : ∀ p, cause = some p → ∃ c, pm.conns p = some c ∧ c.callId = callId) :
    WellFormed (pm.spawn callId cause) := by
  refine ⟨hW.created, fun k cl hk => ?_, hW.registered, hW.failed, hW.entry, fun k cl p hk hp => ?_⟩
  · rcases update_some hk with ⟨rfl, _⟩ | ⟨_, hk⟩
    · exact Nat.lt_succ_self _
    · exact Nat.lt_succ_of_lt (hW.spawned k cl hk)
  · rcases update_some hk with ⟨_, hk⟩ | ⟨_, hk⟩
    · cases hk
      exact hcause p hp
    · exact hW.cause k cl p hk hp

theorem WellFormed.changeState {pm : PeerManager} (hW : WellFormed pm) {p : Nat} {c : Conn} {st : PcState}
    (hc : pm.conns p = some c) (hst : c.state.rank < st.rank) : WellFormed (pm.changeState p c st) := by
  have hg : Grown pm.conns (Function.update pm.conns p (some {c with state := st})) := grown_update hc ⟨rfl, id⟩
  have hW' : WellFormed {pm with conns := Function.update pm.conns p (some {c with state := st})} := by
    refine ⟨fun q d hd => ?_, hW.spawned, fun q d hd hs => ?_, fun q d hd hs => ?_, (hW.refer hg).1, (hW.refer hg).2⟩
    · rcases update_some hd with ⟨rfl, _⟩ | ⟨_, hd⟩
      · exact hW.created _ c hc
      · exact hW.created q d hd
    · rcases update_some hd with ⟨rfl, he⟩ | ⟨_, hd⟩
      · cases he
        exact hW.registered _ c hc hs
      · exact hW.registered q d hd hs
    · rcases update_some hd with ⟨rfl, he⟩ | ⟨_, hd⟩
      · cases he
        have hclosed := hW.failed _ c hc hs
        rw [hclosed] at hst
        cases st <;> simp [PcState.rank] at hst
      · exact hW.failed q d hd hs
  unfold PeerManager.changeState
  by_cases hr : c.registered = true
  · rw [if_pos hr]
    refine hW'.spawn fun q hq => ?_
    cases hq
    exact ⟨_, Function.update_self .., rfl⟩
  · rw [if_neg hr]
    exact hW'

/-- Closing a connection changes nothing, or its state. -/
theorem closePc_cases {pm : PeerManager} {p : Nat} {c : Conn} (hc : pm.conns p = some c) :
    c.state = .closed ∧ pm.closePc p = pm ∨
      c.state.rank < PcState.closed.rank ∧ pm.closePc p = pm.changeState p c .closed := by
  unfold PeerManager.closePc
  rw [hc]
  by_cases hs : c.state = .closed
  · exact .inl ⟨hs, if_pos hs⟩
  · refine .inr ⟨?_, if_neg hs⟩
    cases h : c.state with
    | up | failed => decide
    | closed => exact absurd h hs

theorem changeState_conns (pm : PeerManager) (p : Nat) (c : Conn) (st : PcState) :
    (pm.changeState p c st).conns = Function.update pm.conns p (some {c with state := st}) := by
  unfold PeerManager.changeState
  split <;> rfl

theorem changeState_same (pm : PeerManager) (p : Nat) (c : Conn) (st : PcState) :
    (pm.changeState p c st).loopbacks = pm.loopbacks ∧ (pm.changeState p c st).tracks = pm.tracks ∧
      (pm.changeState p c st).peers = pm.peers := by
  unfold changeState
  split <;> exact ⟨rfl, rfl, rfl⟩

theorem closePc_same (pm : PeerManager) (p : Nat) :
    (pm.closePc p).loopbacks = pm.loopbacks ∧ (pm.closePc p).tracks = pm.tracks ∧ (pm.closePc p).peers = pm.peers := by
  unfold PeerManager.closePc
  split
  · split
    · exact ⟨rfl, rfl, rfl⟩
    · exact changeState_same ..
  · exact ⟨rfl, rfl, rfl⟩

theorem stopLoopback_same (pm : PeerManager) (entry : PeerEntry) : (pm.stopLoopback entry).conns = pm.conns ∧
    (pm.stopLoopback entry).spawned = pm.spawned ∧ (pm.stopLoopback entry).closers = pm.closers ∧
      (pm.stopLoopback entry).peers = pm.peers ∧ (pm.stopLoopback entry).tracks = pm.tracks := by
  unfold stopLoopback
  split <;> exact ⟨rfl, rfl, rfl, rfl, rfl⟩

theorem onTrack_same (pm : PeerManager) (callId : String) : (pm.onTrack callId).conns = pm.conns ∧
    (pm.onTrack callId).created = pm.created ∧ (pm.onTrack callId).closers = pm.closers ∧
      (pm.onTrack callId).spawned = pm.spawned := by
  unfold onTrack
  split <;> exact ⟨rfl, rfl, rfl, rfl⟩

theorem lookup_same (pm : PeerManager) (k : Nat) (cl : Closer) : (pm.lookup k cl).conns = pm.conns ∧
    (pm.lookup k cl).spawned = pm.spawned ∧ (pm.lookup k cl).loopbacks = pm.loopbacks ∧
      (pm.lookup k cl).tracks = pm.tracks := by
  unfold lookup
  split <;> exact ⟨rfl, rfl, rfl, rfl⟩

/-- The calls after a lookup: this one has the entry it found, or ends. -/
theorem lookup_closers (pm : PeerManager) (k : Nat) (cl : Closer) : (pm.lookup k cl).closers = Function.update pm.closers k
    ((pm.peers.get? cl.callId).map fun entry => {cl with phase := .stop entry}) := by
  rw [lookup]
  split
  · next h => rw [h]; rfl
  · next h => rw [h]; rfl

theorem closePc_conns {pm : PeerManager} {p : Nat} {c : Conn} (hc : pm.conns p = some c) :
    (pm.closePc p).conns p = some {c with state := .closed} := by
  rcases closePc_cases hc with ⟨hs, he⟩ | ⟨_, he⟩
  · rw [he, hc, ← hs]
  · rw [he, changeState_conns, Function.update_self]

theorem WellFormed.closePc {pm : PeerManager} (hW : WellFormed pm) {p : Nat} {c : Conn} (hc : pm.conns p = some c) :
    WellFormed (pm.closePc p) := by
  rcases closePc_cases hc with ⟨_, he⟩ | ⟨hr, he⟩
  · rw [he]
    exact hW
  · rw [he]
    exact hW.changeState hc hr

/-- The stage of an accept that is not finished moves on. -/
theorem WellFormed.setConn {pm : PeerManager} (hW : WellFormed pm) {p : Nat} {c c' : Conn}
    (hc : pm.conns p = some c) (hfin : c.stage.finished = false) (hid : c'.callId = c.callId)
    (hreg : c'.stage = .negotiating ∨ c'.stage = .stored → c'.registered = true)
    (hfailed : c'.stage = .failed → c'.state = .closed) :
    WellFormed {pm with conns := Function.update pm.conns p (some c')} := by
  have hgrows : Grows c c' := ⟨hid, fun hs => by rw [hs] at hfin; cases hfin⟩
  have hg := hW.refer (grown_update hc hgrows)
  refine ⟨fun q d hd => ?_, hW.spawned, fun q d hd hs => ?_, fun q d hd hs => ?_, hg.1, hg.2⟩
  · rcases update_some hd with ⟨rfl, _⟩ | ⟨_, hd⟩
    · exact hW.created _ c hc
    · exact hW.created q d hd
  · rcases update_some hd with ⟨rfl, he⟩ | ⟨_, hd⟩
    · cases he
      exact hreg hs
    · exact hW.registered q d hd hs
  · rcases update_some hd with ⟨rfl, he⟩ | ⟨_, hd⟩
    · cases he
      exact hfailed hs
    · exact hW.failed q d hd hs

/-- Fewer closers, or the same one further on. -/
theorem WellFormed.setCloser {pm : PeerManager} (hW : WellFormed pm) {k : Nat} {cl : Closer} {v : Option Closer}
    (hk : pm.closers k = some cl) (hv : ∀ cl', v = some cl' → cl'.cause = cl.cause ∧ cl'.callId = cl.callId) :
    WellFormed (pm.setCloser k v) := by
  refine ⟨hW.created, fun k' cl' hk' => ?_, hW.registered, hW.failed, hW.entry, fun k' cl' p hk' hp => ?_⟩
  · rcases update_some hk' with ⟨rfl, _⟩ | ⟨_, hk'⟩
    · exact hW.spawned _ cl hk
    · exact hW.spawned k' cl' hk'
  · rcases update_some hk' with ⟨rfl, he⟩ | ⟨_, hk'⟩
    · obtain ⟨hc, hid⟩ := hv cl' he
      rw [hid]
      exact hW.cause _ cl p hk (hc ▸ hp)
    · exact hW.cause k' cl' p hk' hp

/-! ### The map -/

theorem storedPc_store (pm : PeerManager) (p : Nat) (callId id : String) :
    (pm.store p callId).storedPc id = if id = callId then some p else pm.storedPc id := by
  show ((pm.peers.set callId _).get? id).map PeerEntry.pc = _
  rw [KeyMap.get?_set]
  split <;> rfl

/-- The critical section of `ClosePeer` leaves no entry of its call. -/
theorem storedPc_lookup (pm : PeerManager) (k : Nat) (cl : Closer) (id : String) :
    (pm.lookup k cl).storedPc id = if id = cl.callId then none else pm.storedPc id := by
  unfold lookup
  split
  · show ((pm.peers.delete cl.callId).get? id).map PeerEntry.pc = _
    split
    · next h => rw [h, KeyMap.get?_delete_self, Option.map_none]
    · next h => rw [KeyMap.get?_delete_ne _ h, storedPc]
  · next hnone =>
    split
    · next h =>
      show (pm.peers.get? id).map PeerEntry.pc = none
      rw [h, hnone, Option.map_none]
    · rfl

/-- A track changes the loopback of an entry. -/
theorem storedPc_onTrack (pm : PeerManager) (callId id : String) :
    (pm.onTrack callId).storedPc id = pm.storedPc id := by
  unfold onTrack
  split
  · rfl
  · show ((pm.peers.modify callId _).get? id).map PeerEntry.pc = _
    by_cases h : id = callId
    · rw [h, KeyMap.get?_modify_self, storedPc, Option.map_map]
      rfl
    · rw [KeyMap.get?_modify_ne _ _ h, storedPc]

/-- The same connections and goroutines with other entries. -/
theorem WellFormed.ofStored {pm : PeerManager} (hW : WellFormed pm) {pm' : PeerManager}
    (hconns : pm'.conns = pm.conns) (hcreated : pm'.created = pm.created) (hclosers : pm'.closers = pm.closers)
    (hspawned : pm'.spawned = pm.spawned)
    (h : ∀ id p, pm'.storedPc id = some p → ∃ c, pm.conns p = some c ∧ c.callId = id ∧ c.stage = .stored) :
    WellFormed pm' := by
  constructor
  · rw [hconns, hcreated]
    exact hW.created
  · rw [hclosers, hspawned]
    exact hW.spawned
  · rw [hconns]
    exact hW.registered
  · rw [hconns]
    exact hW.failed
  · rw [hconns]
    exact h
  · rw [hconns, hclosers]
    exact hW.cause

theorem setStage_eq {pm : PeerManager} {p : Nat} {c : Conn} (hc : pm.conns p = some c) (stage : AcceptStage) :
    pm.setStage p stage = {pm with conns := Function.update pm.conns p (some {c with stage := stage})} := by
  rw [setStage, hc, Option.map_some]

theorem WellFormed.accept {pm : PeerManager} (hW : WellFormed pm) (callId : String) :
    WellFormed (pm.accept callId) := by
  have hfresh : ∀ p c, pm.conns p = some c → (pm.accept callId).conns p = some c := by
    intro p c hc
    have hne : p ≠ pm.created := Nat.ne_of_lt (hW.created p c hc)
    exact (Function.update_of_ne hne _ _).trans hc
  have hg : Grown pm.conns (pm.accept callId).conns := fun p c hc => ⟨c, hfresh p c hc, rfl, id⟩
  refine ⟨fun q d hd => ?_, hW.spawned, fun q d hd hs => ?_, fun q d hd hs => ?_, (hW.refer hg).1, (hW.refer hg).2⟩
  · rcases update_some hd with ⟨hq, _⟩ | ⟨_, hd⟩
    · rw [hq]
      exact Nat.lt_succ_self _
    · exact Nat.lt_succ_of_lt (hW.created q d hd)
  · rcases update_some hd with ⟨_, he⟩ | ⟨_, hd⟩
    · cases he
      simp at hs
    · exact hW.registered q d hd hs
  · rcases update_some hd with ⟨_, he⟩ | ⟨_, hd⟩
    · cases he
      simp at hs
    · exact hW.failed q d hd hs

theorem WellFormed.store {pm : PeerManager} (hW : WellFormed pm) {p : Nat} {c : Conn} (hc : pm.conns p = some c)
    (hst : c.stage = .negotiating) : WellFormed (pm.store p c.callId) := by
  have hreg := hW.registered p c hc (.inl hst)
  have hW' : WellFormed (pm.setStage p .stored) := by
    rw [setStage_eq hc]
    exact hW.setConn hc (by rw [hst]; rfl) rfl (fun _ => hreg) (by simp)
  refine hW'.ofStored rfl rfl rfl rfl fun id q hq => ?_
  rw [storedPc_store] at hq
  split at hq
  · next hid =>
    cases hq
    rw [setStage_eq hc]
    exact ⟨_, Function.update_self .., hid.symm, rfl⟩
  · exact hW'.entry id q hq

/-- A new goroutine does not displace another one. -/
theorem spawn_closers {pm : PeerManager} (hW : WellFormed pm) {callId : String} {cause : Option Nat} {k : Nat}
    {cl : Closer} (hk : pm.closers k = some cl) : (pm.spawn callId cause).closers k = some cl := by
  have hne : k ≠ pm.spawned := Nat.ne_of_lt (hW.spawned k cl hk)
  exact (Function.update_of_ne hne _ _).trans hk

theorem changeState_closers {pm : PeerManager} (hW : WellFormed pm) {p : Nat} {c : Conn} {st : PcState} {k : Nat}
    {cl : Closer} (hk : pm.closers k = some cl) : (pm.changeState p c st).closers k = some cl := by
  unfold changeState
  split
  · exact spawn_closers hW hk
  · exact hk

theorem closePc_closers {pm : PeerManager} (hW : WellFormed pm) {p k : Nat} {cl : Closer}
    (hk : pm.closers k = some cl) : (pm.closePc p).closers k = some cl := by
  unfold closePc
  split
  · split
    · exact hk
    · exact changeState_closers hW hk
  · exact hk

theorem step_wellFormed {pm pm' : PeerManager} {l : Label} (hW : WellFormed pm) (h : Step pm l pm') :
    WellFormed pm' := by
  cases h with
  | accept => exact hW.accept _
  | register hc hs => exact hW.setConn hc (by rw [hs]; rfl) rfl (fun _ => rfl) (by simp)
  | @acceptFails p c hc hs =>
    have hc' := closePc_conns hc
    rw [setStage_eq hc']
    exact (hW.closePc hc).setConn hc' hs rfl (by simp) (fun _ => rfl)
  | store hc hs => exact hW.store hc hs
  | stateChange hc hr => exact hW.changeState hc hr
  | track hc hr =>
    obtain ⟨hconns, hcreated, hclosers, hspawned⟩ := onTrack_same pm _
    refine hW.ofStored hconns hcreated hclosers hspawned fun id p hp => ?_
    rw [storedPc_onTrack] at hp
    exact hW.entry id p hp
  | hangup => exact hW.spawn (fun p hp => nomatch hp)
  | @lookup k cl hk hph =>
    have hmap := storedPc_lookup pm k cl
    unfold PeerManager.lookup at hmap ⊢
    split at hmap
    · next entry hentry =>
      have hW' : WellFormed (pm.setCloser k (some {cl with phase := .stop entry})) := by
        apply hW.setCloser hk
        intro cl' h
        cases h
        exact ⟨rfl, rfl⟩
      refine hW'.ofStored rfl rfl rfl rfl fun id p hp => ?_
      rw [hmap] at hp
      split at hp
      · cases hp
      · exact hW'.entry id p hp
    · exact hW.setCloser hk (fun _ h => nomatch h)
  | @stop k cl entry hk hph =>
    have hW' : WellFormed (pm.stopLoopback entry) := by
      unfold stopLoopback
      split
      · exact hW.ofStored rfl rfl rfl rfl hW.entry
      · exact hW
    have hk' : (pm.stopLoopback entry).closers k = some cl := by
      unfold stopLoopback
      split <;> exact hk
    apply hW'.setCloser hk'
    intro cl' h
    cases h
    exact ⟨rfl, rfl⟩
  | @close k cl entry hk hph =>
    have hW' : WellFormed (pm.closePc entry.pc) := by
      cases hc : pm.conns entry.pc with
      | none =>
        rw [PeerManager.closePc, hc]
        exact hW
      | some c => exact hW.closePc hc
    exact hW'.setCloser (closePc_closers hW hk) (fun _ h => nomatch h)

/-- Goroutines in different phases are different. -/
theorem closer_ne {pm : PeerManager} {k k' : Nat} {cl cl' : Closer} (hk : pm.closers k = some cl)
    (hk' : pm.closers k' = some cl') (hne : cl'.phase ≠ cl.phase) : k' ≠ k := by
  intro h
  rw [h, hk] at hk'
  cases hk'
  exact hne rfl

theorem run_wellFormed {loopbackSec : Nat} {ls : List Label} {pm : PeerManager}
    (h : (system loopbackSec).Run ls pm) : WellFormed pm := by
  refine h.invariant (I := fun _ pm => WellFormed pm) ?_ fun _ _ _ _ _ hW hstep => step_wellFormed hW hstep
  intro pm hpm
  obtain rfl : pm = new loopbackSec := hpm
  constructor <;> intros <;> contradiction

end PeerManager
end RtcPlugin.Node
