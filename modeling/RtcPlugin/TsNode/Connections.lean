import RtcPlugin.System.Update
import RtcPlugin.TsNode.PeerManager

/-! The connections of the calls.

A call's connection is held by its `acceptCall` until it is in `peers`, and closed when
it leaves `peers`. Only an awaited step that is rejected loses it (`held_resume`). -/
namespace RtcPlugin.TsNode

namespace Calls

/-- A connection was created for the call. -/
def Opened (c : Calls) (callId : String) : Prop := ∃ pc conn, c.conns pc = some conn ∧ conn.callId = callId

structure Sound (c : Calls) : Prop where
  accepting : ∀ callId stage, c.accepts callId = some stage → callId ∈ c.begun ∧ c.peers.get? callId = none
  holding : ∀ callId stage pc, c.accepts callId = some stage → stage.pc = some pc → c.conns pc = some ⟨callId, false⟩
  importing : ∀ callId, c.accepts callId = some .importing → ¬ c.Opened callId
  peers : ∀ callId pc, c.peers.get? callId = some pc → ∃ conn, c.conns pc = some conn ∧ conn.callId = callId
  conns : ∀ callId, c.Opened callId → callId ∈ c.begun
  fresh : ∀ pc, c.created ≤ pc → c.conns pc = none

/-- An open connection is in `peers` under its call, or its `acceptCall` holds it. -/
def Held (c : Calls) : Prop :=
  ∀ pc conn, c.conns pc = some conn → conn.closed = false →
    c.peers.get? conn.callId = some pc ∨ ∃ stage, c.accepts conn.callId = some stage ∧ stage.pc = some pc

variable {c : Calls} {callId callId' : String} {stage : AcceptStage}

theorem setAccept_self (c : Calls) (callId : String) (stage : Option AcceptStage) :
    (c.setAccept callId stage).accepts callId = stage := Function.update_self ..

theorem setAccept_ne (stage : Option AcceptStage) (h : callId' ≠ callId) :
    (c.setAccept callId stage).accepts callId' = c.accepts callId' := Function.update_of_ne h ..

theorem setAccept_some {next : Option AcceptStage} (h : (c.setAccept callId next).accepts callId' = some stage) :
    callId' = callId ∧ next = some stage ∨ callId' ≠ callId ∧ c.accepts callId' = some stage := update_some h

/-- An `acceptCall` that awaits its import holds no connection. -/
theorem ne_of_importing (himporting : c.accepts callId = some .importing) (hstage : c.accepts callId' = some stage)
    {pc : Nat} (hpc : stage.pc = some pc) : callId' ≠ callId := by
  intro hc
  rw [hc, himporting] at hstage
  obtain rfl := Option.some.inj hstage
  cases hpc

theorem Live.setAccept (h : c.Live callId') (stage : Option AcceptStage) (hne : callId' = callId → stage ≠ none) :
    (c.setAccept callId stage).Live callId' := by
  obtain hpeer | haccept := h
  · exact .inl hpeer
  · right
    by_cases hc : callId' = callId
    · obtain ⟨st, hst⟩ := Option.ne_none_iff_exists'.mp (hne hc)
      exact ⟨st, by rw [hc, setAccept_self, hst]⟩
    · rwa [setAccept_ne _ hc]

/-- A stage of an `acceptCall` that is running is replaced, or the `acceptCall` ends. -/
theorem Sound.setAccept (h : c.Sound) (hstage : c.accepts callId = some stage) (next : Option AcceptStage)
    (hnext : ∀ st, next = some st → st ≠ .importing ∧ st.pc = stage.pc) : (c.setAccept callId next).Sound where
  accepting := by
    intro callId' st hst
    obtain ⟨hc, -⟩ | ⟨-, hold⟩ := setAccept_some hst
    · exact hc ▸ h.accepting callId stage hstage
    · exact h.accepting callId' st hold
  holding := by
    intro callId' st pc hst hpc
    obtain ⟨hc, hst⟩ | ⟨-, hold⟩ := setAccept_some hst
    · exact hc ▸ h.holding callId stage pc hstage ((hnext st hst).2 ▸ hpc)
    · exact h.holding callId' st pc hold hpc
  importing := by
    intro callId' hst
    obtain ⟨-, hst⟩ | ⟨-, hold⟩ := setAccept_some hst
    · exact absurd rfl (hnext _ hst).1
    · exact h.importing callId' hold
  peers := h.peers
  conns := h.conns
  fresh := h.fresh

theorem Sound.acceptCall (h : c.Sound) (hnew : callId ∉ c.begun) : (c.acceptCall callId).Sound where
  accepting := by
    intro callId' st hst
    obtain ⟨hc, -⟩ | ⟨-, hold⟩ := setAccept_some hst
    · refine ⟨List.mem_cons.mpr (.inl hc), ?_⟩
      -- an entry of `peers` is of a call that began
      refine Option.eq_none_iff_forall_ne_some.mpr fun pc hpc => hnew ?_
      obtain ⟨conn, hconn, hcall⟩ := h.peers callId' pc hpc
      exact h.conns callId ⟨pc, conn, hconn, hcall.trans hc⟩
    · obtain ⟨hbegun, hpeers⟩ := h.accepting callId' st hold
      exact ⟨List.mem_cons_of_mem _ hbegun, hpeers⟩
  holding := by
    intro callId' st pc hst hpc
    obtain ⟨-, hst⟩ | ⟨-, hold⟩ := setAccept_some hst
    · obtain rfl := Option.some.inj hst
      cases hpc
    · exact h.holding callId' st pc hold hpc
  importing := by
    intro callId' hst hopened
    obtain ⟨hc, -⟩ | ⟨-, hold⟩ := setAccept_some hst
    · exact hnew (h.conns callId (hc ▸ hopened))
    · exact h.importing callId' hold hopened
  peers := h.peers
  conns := fun callId' hopened => List.mem_cons_of_mem _ (h.conns callId' hopened)
  fresh := h.fresh

/-! `acceptCall` creates its connection. -/

theorem create_accepts_self (c : Calls) (callId : String) :
    (c.resume callId .importing true).accepts callId = some (.setRemoteDescription c.created) := Function.update_self ..

theorem create_accepts (h : (c.resume callId .importing true).accepts callId' = some stage) :
    callId' = callId ∧ stage = .setRemoteDescription c.created ∨ callId' ≠ callId ∧ c.accepts callId' = some stage :=
  update_put h

theorem create_accepts_ne (h : callId' ≠ callId) :
    (c.resume callId .importing true).accepts callId' = c.accepts callId' := Function.update_of_ne h ..

theorem create_conns {pc : Nat} {conn : Connection} (h : (c.resume callId .importing true).conns pc = some conn) :
    pc = c.created ∧ conn = ⟨callId, false⟩ ∨ pc ≠ c.created ∧ c.conns pc = some conn := update_put h

theorem create_conns_self (c : Calls) (callId : String) :
    (c.resume callId .importing true).conns c.created = some ⟨callId, false⟩ := Function.update_self ..

theorem Sound.create_conns_old (h : c.Sound) {pc : Nat} {conn : Connection} (hconn : c.conns pc = some conn) :
    (c.resume callId .importing true).conns pc = some conn := update_fresh (h.fresh _ (Nat.le_refl _)) hconn _

theorem Sound.opened_create (h : c.Sound) :
    (c.resume callId .importing true).Opened callId' ↔ callId' = callId ∨ c.Opened callId' := by
  constructor
  · rintro ⟨pc, conn, hconn, hcall⟩
    obtain ⟨-, rfl⟩ | ⟨-, hold⟩ := create_conns hconn
    · exact .inl hcall.symm
    · exact .inr ⟨pc, conn, hold, hcall⟩
  · rintro (rfl | ⟨pc, conn, hconn, hcall⟩)
    · exact ⟨c.created, _, create_conns_self c callId', rfl⟩
    · exact ⟨pc, conn, h.create_conns_old hconn, hcall⟩

theorem Sound.create (h : c.Sound) (hstage : c.accepts callId = some .importing) :
    (c.resume callId .importing true).Sound where
  accepting := by
    intro callId' st hst
    obtain ⟨hc, -⟩ | ⟨-, hold⟩ := create_accepts hst
    · exact hc ▸ h.accepting callId _ hstage
    · exact h.accepting callId' st hold
  holding := by
    intro callId' st pc hst hpc
    obtain ⟨hc, rfl⟩ | ⟨-, hold⟩ := create_accepts hst
    · obtain rfl : c.created = pc := Option.some.inj hpc
      rw [hc, create_conns_self]
    · exact h.create_conns_old (h.holding callId' st pc hold hpc)
  importing := by
    intro callId' hst hopened
    obtain ⟨-, hst⟩ | ⟨hc, hold⟩ := create_accepts hst
    · cases hst
    · exact h.importing callId' hold ((h.opened_create.mp hopened).resolve_left hc)
  peers := by
    intro callId' pc hpc
    obtain ⟨conn, hconn, hcall⟩ := h.peers callId' pc hpc
    exact ⟨conn, h.create_conns_old hconn, hcall⟩
  conns := by
    intro callId' hopened
    obtain rfl | hopened := h.opened_create.mp hopened
    · exact (h.accepting callId' _ hstage).1
    · exact h.conns callId' hopened
  fresh := by
    intro pc hpc
    have hpc : c.created + 1 ≤ pc := hpc
    have hne : pc ≠ c.created := by omega
    exact (Function.update_of_ne hne ..).trans (h.fresh pc (by omega))

/-- The connection of a call that is not being accepted is put into `peers`. -/
theorem Sound.store (h : c.Sound) (hnone : c.accepts callId = none) {pc : Nat} {conn : Connection}
    (hconn : c.conns pc = some conn) (hcall : conn.callId = callId) :
    Sound {c with peers := c.peers.set callId pc} where
  accepting := by
    intro callId' st hst
    obtain ⟨hbegun, hpeers⟩ := h.accepting callId' st hst
    have hne : callId' ≠ callId := by
      rintro rfl
      exact nomatch hnone.symm.trans hst
    exact ⟨hbegun, (KeyMap.get?_set_ne _ _ hne).trans hpeers⟩
  holding := h.holding
  importing := h.importing
  peers := by
    intro callId' pc' hpc'
    obtain ⟨rfl, rfl⟩ | ⟨-, hold⟩ := KeyMap.get?_set_some hpc'
    · exact ⟨conn, hconn, hcall⟩
    · exact h.peers callId' pc' hold
  conns := h.conns
  fresh := h.fresh

theorem Sound.resume (h : c.Sound) (hstage : c.accepts callId = some stage) (ok : Bool) :
    (c.resume callId stage ok).Sound := by
  cases ok with
  | false => exact h.setAccept hstage none (by simp)
  | true =>
    cases stage with
    | importing => exact h.create hstage
    | setRemoteDescription pc => exact h.setAccept hstage _ (by simp [AcceptStage.pc])
    | createAnswer pc => exact h.setAccept hstage _ (by simp [AcceptStage.pc])
    | setLocalDescription pc =>
      exact (h.setAccept hstage none (by simp)).store (setAccept_self ..) (h.holding callId _ pc hstage rfl) rfl

theorem Sound.opened_resume (h : c.Sound) {ok : Bool} (hopened : c.Opened callId') :
    (c.resume callId stage ok).Opened callId' := by
  cases ok with
  | false => exact hopened
  | true =>
    cases stage with
    | importing => exact h.opened_create.mpr (.inr hopened)
    | setRemoteDescription | createAnswer | setLocalDescription => exact hopened

/-! `closePeer` -/

/-- The connection of a closed call is closed; another keeps its state. -/
theorem closePeer_conns (c : Calls) (callId : String) (pc : Nat) :
    (c.closePeer callId).conns pc =
      (c.conns pc).map fun conn => {conn with closed := conn.closed || decide (c.peers.get? callId = some pc)} := by
  unfold closePeer
  cases hpeer : c.peers.get? callId with
  | none => cases c.conns pc <;> simp
  | some pc' =>
    by_cases hpc : pc = pc'
    · simp [hpc]
    · simp [Function.update_of_ne hpc, Ne.symm hpc]

theorem closePeer_peers_self (c : Calls) (callId : String) : (c.closePeer callId).peers.get? callId = none := by
  unfold closePeer
  split
  · exact KeyMap.get?_delete_self ..
  · next hnone => exact hnone

theorem closePeer_peers_ne (h : callId' ≠ callId) : (c.closePeer callId).peers.get? callId' = c.peers.get? callId' := by
  unfold closePeer
  split
  · exact KeyMap.get?_delete_ne _ h
  · rfl

theorem closePeer_accepts (c : Calls) (callId : String) : (c.closePeer callId).accepts = c.accepts := by
  unfold closePeer
  split <;> rfl

theorem closePeer_begun (c : Calls) (callId : String) : (c.closePeer callId).begun = c.begun := by
  unfold closePeer
  split <;> rfl

theorem closePeer_created (c : Calls) (callId : String) : (c.closePeer callId).created = c.created := by
  unfold closePeer
  split <;> rfl

theorem opened_closePeer (c : Calls) (callId callId' : String) :
    (c.closePeer callId).Opened callId' ↔ c.Opened callId' := by
  simp [Opened, closePeer_conns]

theorem Sound.closePeer (h : c.Sound) (callId : String) : (c.closePeer callId).Sound where
  accepting := by
    intro callId' st hst
    rw [closePeer_accepts] at hst
    obtain ⟨hbegun, hpeers⟩ := h.accepting callId' st hst
    refine ⟨closePeer_begun c callId ▸ hbegun, ?_⟩
    by_cases hc : callId' = callId
    · rw [hc, closePeer_peers_self]
    · rw [closePeer_peers_ne hc, hpeers]
  holding := by
    intro callId' st pc hst hpc
    rw [closePeer_accepts] at hst
    have hconn := h.holding callId' st pc hst hpc
    -- what an `acceptCall` holds is not in `peers`
    have hpeer : c.peers.get? callId ≠ some pc := by
      intro hpeer
      obtain ⟨conn, hconn', hcall⟩ := h.peers callId pc hpeer
      obtain rfl := Option.some.inj (hconn.symm.trans hconn')
      have hcall : callId' = callId := hcall
      have hnone := (h.accepting callId' st hst).2
      rw [hcall, hpeer] at hnone
      cases hnone
    simp [closePeer_conns, hconn, hpeer]
  importing := by
    intro callId' hst
    rw [closePeer_accepts] at hst
    rw [opened_closePeer]
    exact h.importing callId' hst
  peers := by
    intro callId' pc hpc
    by_cases hc : callId' = callId
    · rw [hc, closePeer_peers_self] at hpc
      cases hpc
    · rw [closePeer_peers_ne hc] at hpc
      obtain ⟨conn, hconn, hcall⟩ := h.peers callId' pc hpc
      simp [closePeer_conns, hconn, hcall]
  conns := by
    intro callId' hopened
    rw [closePeer_begun]
    exact h.conns callId' ((opened_closePeer c callId callId').mp hopened)
  fresh := by
    intro pc hpc
    rw [closePeer_created] at hpc
    simp [closePeer_conns, h.fresh pc hpc]

/-! What is held -/

theorem Held.acceptCall (hheld : c.Held) (h : c.Sound) (hnew : callId ∉ c.begun) : (c.acceptCall callId).Held := by
  intro pc conn hconn hopen
  obtain hpeer | ⟨st, hst, hpc⟩ := hheld pc conn hconn hopen
  · exact .inl hpeer
  · have hne : conn.callId ≠ callId := fun hcall => hnew (hcall ▸ (h.accepting conn.callId st hst).1)
    exact .inr ⟨st, (setAccept_ne _ hne).trans hst, hpc⟩

/-- The `acceptCall` goes on and holds what it held. -/
theorem Held.setAccept (hheld : c.Held) (hstage : c.accepts callId = some stage) {next : AcceptStage}
    (hnext : next.pc = stage.pc) : (c.setAccept callId (some next)).Held := by
  intro pc conn hconn hopen
  obtain hpeer | ⟨st, hst, hpc⟩ := hheld pc conn hconn hopen
  · exact .inl hpeer
  · right
    by_cases hc : conn.callId = callId
    · obtain rfl := Option.some.inj (hstage.symm.trans (hc ▸ hst))
      exact ⟨next, by rw [hc, setAccept_self], hnext.trans hpc⟩
    · exact ⟨st, (setAccept_ne _ hc).trans hst, hpc⟩

theorem Held.create (hheld : c.Held) (hstage : c.accepts callId = some .importing) :
    (c.resume callId .importing true).Held := by
  intro pc conn hconn hopen
  obtain ⟨hpc, rfl⟩ | ⟨-, hconn⟩ := create_conns hconn
  · exact .inr ⟨_, create_accepts_self c callId, congrArg some hpc.symm⟩
  · obtain hpeer | ⟨st, hst, hst'⟩ := hheld pc conn hconn hopen
    · exact .inl hpeer
    · exact .inr ⟨st, (create_accepts_ne (ne_of_importing hstage hst hst')).trans hst, hst'⟩

theorem Held.store (hheld : c.Held) (h : c.Sound) {pc : Nat} (hstage : c.accepts callId = some (.setLocalDescription pc)) :
    (c.resume callId (.setLocalDescription pc) true).Held := by
  intro pc' conn hconn hopen
  have hset : (c.resume callId (.setLocalDescription pc) true).peers = c.peers.set callId pc := rfl
  have haccepts : (c.resume callId (.setLocalDescription pc) true).accepts = (c.setAccept callId none).accepts := rfl
  rw [hset, haccepts]
  obtain hpeer | ⟨st, hst, hst'⟩ := hheld pc' conn hconn hopen
  · have hne : conn.callId ≠ callId := by
      intro hcall
      rw [hcall, (h.accepting callId _ hstage).2] at hpeer
      cases hpeer
    rw [KeyMap.get?_set_ne _ _ hne]
    exact .inl hpeer
  · by_cases hc : conn.callId = callId
    · rw [hc, hstage] at hst
      obtain rfl := Option.some.inj hst
      rw [hc, KeyMap.get?_set_self]
      exact .inl hst'
    · rw [setAccept_ne _ hc]
      exact .inr ⟨st, hst, hst'⟩

/-- Whether the import is resolved or not. -/
theorem Held.imported (hheld : c.Held) (hstage : c.accepts callId = some .importing) (ok : Bool) :
    (c.resume callId .importing ok).Held := by
  cases ok with
  | true => exact hheld.create hstage
  | false =>
    intro pc conn hconn hopen
    obtain hpeer | ⟨st, hst, hst'⟩ := hheld pc conn hconn hopen
    · exact .inl hpeer
    · exact .inr ⟨st, (setAccept_ne _ (ne_of_importing hstage hst hst')).trans hst, hst'⟩

/-- A rejected step loses the connection, if there is one. -/
theorem held_resume (hheld : c.Held) (h : c.Sound) (hstage : c.accepts callId = some stage) (ok : Bool) :
    (c.resume callId stage ok).Held ↔ ok = true ∨ stage = .importing := by
  constructor
  · intro hafter
    cases ok with
    | true => exact .inl rfl
    | false =>
      right
      cases hpc : stage.pc with
      | none => cases stage <;> simp_all [AcceptStage.pc]
      | some pc =>
        have hconn := h.holding callId stage pc hstage hpc
        obtain hpeer | ⟨st, hst, -⟩ := hafter pc _ hconn rfl
        · exact nomatch (h.accepting callId stage hstage).2.symm.trans hpeer
        · exact nomatch (setAccept_self c callId none).symm.trans hst
  · intro hok
    cases stage with
    | importing => exact hheld.imported hstage ok
    | setRemoteDescription pc =>
      obtain rfl := hok.resolve_right (by simp)
      exact hheld.setAccept hstage rfl
    | createAnswer pc =>
      obtain rfl := hok.resolve_right (by simp)
      exact hheld.setAccept hstage rfl
    | setLocalDescription pc =>
      obtain rfl := hok.resolve_right (by simp)
      exact hheld.store h hstage

theorem Held.closePeer (hheld : c.Held) (callId : String) : (c.closePeer callId).Held := by
  intro pc conn hconn hopen
  rw [closePeer_conns] at hconn
  obtain ⟨conn, hconn', rfl⟩ := Option.map_eq_some_iff.mp hconn
  obtain ⟨hopen, hpeer⟩ : conn.closed = false ∧ ¬ c.peers.get? callId = some pc := by simpa using hopen
  rw [closePeer_accepts]
  obtain hp | haccept := hheld pc conn hconn' hopen
  · have hne : conn.callId ≠ callId := fun hcall => hpeer (hcall ▸ hp)
    exact .inl ((closePeer_peers_ne hne).trans hp)
  · exact .inr haccept

theorem Live.acceptCall (h : c.Live callId') (callId : String) : (c.acceptCall callId).Live callId' :=
  h.setAccept _ (fun _ => by simp)

/-- An `acceptCall` that ends without a connection is the only one that goes. -/
theorem Live.resume (h : c.Live callId') {ok : Bool} (hne : callId' = callId → ok = true) :
    (c.resume callId stage ok).Live callId' := by
  cases ok with
  | false => exact h.setAccept none (fun hc => nomatch hne hc)
  | true =>
    cases stage with
    | importing => exact h.setAccept (some (.setRemoteDescription c.created)) (fun _ => by simp)
    | setRemoteDescription pc => exact h.setAccept _ (fun _ => by simp)
    | createAnswer pc => exact h.setAccept _ (fun _ => by simp)
    | setLocalDescription pc =>
      by_cases hc : callId' = callId
      · exact .inl ⟨pc, hc ▸ KeyMap.get?_set_self ..⟩
      · obtain ⟨pc', hpeer⟩ | haccept := h.setAccept none (fun hc' => absurd hc' hc)
        · exact .inl ⟨pc', (KeyMap.get?_set_ne _ _ hc).trans hpeer⟩
        · exact .inr haccept

theorem Live.closePeer (h : c.Live callId') (hne : callId' ≠ callId) : (c.closePeer callId).Live callId' := by
  unfold Live
  rw [closePeer_accepts, closePeer_peers_ne hne]
  exact h

end Calls
end RtcPlugin.TsNode
