import RtcPlugin.TsNode.Connections
import RtcPlugin.TsNode.Loopbacks

/-! What is left of a call.

While nothing goes wrong the manager is `Held`: an open connection is in `peers` or held
by its `acceptCall`, a loopback is of a live call and a timer is of a call with a
loopback. An orderly step keeps that and no other step does (`step_held`), and where
nothing is awaited it says that the manager is clean (`Sound.clean_iff`). -/
namespace RtcPlugin.TsNode

namespace RtcPeerManager

structure Sound (m : RtcPeerManager) : Prop where
  calls : m.toCalls.Sound
  media : m.toMedia.Sound
  setups : ∀ j callId, m.setups j = some callId → m.Opened callId
  loopbacks : ∀ callId k, m.loopbacks.get? callId = some k → m.Opened callId

structure Held (m : RtcPeerManager) : Prop where
  calls : m.toCalls.Held
  loopbacks : ∀ callId k, m.loopbacks.get? callId = some k → m.Live callId
  timers : m.toMedia.Held

variable {m m' : RtcPeerManager} {callId : String}

theorem new_sound (loopbackSec : Int) : (new loopbackSec).Sound := by
  constructor
  · constructor <;> simp [new, Calls.Opened]
  · constructor <;> simp [new]
  · simp [new]
  · simp [new]

theorem new_held (loopbackSec : Int) : (new loopbackSec).Held := by
  constructor <;> simp [new, Calls.Held, Media.Held]

/-! ### One step -/

/-- A callback of a loopback touches no call. -/
theorem Sound.plays (h : m.Sound) {d : Media} (hplays : m.toMedia.Plays d) : Sound {m with toMedia := d} where
  calls := h.calls
  media := hplays.sound h.media
  setups := by
    intro j callId hj
    exact h.setups j callId (hplays.setups ▸ hj)
  loopbacks := by
    intro callId k hk
    exact h.loopbacks callId k (hplays.loopbacks ▸ hk)

theorem Held.plays (h : m.Held) {d : Media} (hplays : m.toMedia.Plays d) : Held {m with toMedia := d} where
  calls := h.calls
  loopbacks := by
    intro callId k hk
    exact h.loopbacks callId k (hplays.loopbacks ▸ hk)
  timers := hplays.held h.timers

theorem Sound.onTrack (h : m.Sound) {pc : Nat} {conn : Connection} (hconn : m.conns pc = some conn) :
    Sound {m with toMedia := m.toMedia.onTrack m.loopbackSec conn.callId} := by
  unfold Media.onTrack
  split
  · refine ⟨h.calls, ⟨h.media.loops, h.media.fresh, h.media.known, h.media.armed, h.media.owner⟩, ?_, h.loopbacks⟩
    intro j callId hj
    have hj : Function.update m.setups m.tracks (some conn.callId) j = some callId := hj
    obtain ⟨-, rfl⟩ | ⟨-, hold⟩ := update_put hj
    · exact ⟨pc, conn, hconn, rfl⟩
    · exact h.setups j callId hold
  · exact h

theorem Held.onTrack (h : m.Held) (callId : String) : Held {m with toMedia := m.toMedia.onTrack m.loopbackSec callId} := by
  unfold Media.onTrack
  split
  · exact ⟨h.calls, h.loopbacks, h.timers⟩
  · exact h

theorem Sound.startDelayedLoopback (h : m.Sound) {j : Nat} (hj : m.setups j = some callId) (ok : Bool) :
    Sound {m with toMedia := m.toMedia.startDelayedLoopback j callId ok} where
  calls := h.calls
  media := h.media.startDelayedLoopback j callId ok
  setups := by
    intro j' callId' hj'
    have hj' : Function.update m.setups j none j' = some callId' := by cases ok <;> exact hj'
    exact h.setups j' callId' (update_drop hj').2
  loopbacks := by
    intro callId' k hk
    by_cases hc : callId' = callId
    · exact hc ▸ h.setups j callId hj
    · exact h.loopbacks callId' k ((Media.startDelayedLoopback_ne hc).symm.trans hk)

/-- The loopback of a call that is not live is one too many. -/
theorem held_startDelayedLoopback (h : m.Held) (j : Nat) (ok : Bool) :
    Held {m with toMedia := m.toMedia.startDelayedLoopback j callId ok} ↔ (ok = true → m.Live callId) := by
  constructor
  · rintro hafter rfl
    exact hafter.loopbacks callId _ (Media.startDelayedLoopback_self ..)
  · intro hok
    refine ⟨h.calls, fun callId' k hk => ?_, h.timers.startDelayedLoopback j callId ok⟩
    cases ok with
    | false => exact h.loopbacks callId' k hk
    | true =>
      by_cases hc : callId' = callId
      · exact hc ▸ hok rfl
      · exact h.loopbacks callId' k ((Media.startDelayedLoopback_ne hc).symm.trans hk)

theorem Sound.acceptCall (h : m.Sound) (hnew : callId ∉ m.begun) :
    Sound {m with toCalls := m.toCalls.acceptCall callId} :=
  ⟨h.calls.acceptCall hnew, h.media, h.setups, h.loopbacks⟩

theorem Held.acceptCall (hheld : m.Held) (h : m.Sound) (hnew : callId ∉ m.begun) :
    Held {m with toCalls := m.toCalls.acceptCall callId} :=
  ⟨hheld.calls.acceptCall h.calls hnew, fun callId' k hk => (hheld.loopbacks callId' k hk).acceptCall callId, hheld.timers⟩

theorem Sound.resume (h : m.Sound) {stage : AcceptStage} (hstage : m.accepts callId = some stage) (ok : Bool) :
    Sound {m with toCalls := m.toCalls.resume callId stage ok} := by
  have hopened : ∀ callId', m.Opened callId' → (m.toCalls.resume callId stage ok).Opened callId' :=
    fun _ => h.calls.opened_resume
  exact ⟨h.calls.resume hstage ok, h.media, fun j callId' hj => hopened _ (h.setups j callId' hj),
    fun callId' k hk => hopened _ (h.loopbacks callId' k hk)⟩

theorem held_resume (hheld : m.Held) (h : m.Sound) {stage : AcceptStage} (hstage : m.accepts callId = some stage) (ok : Bool) :
    Held {m with toCalls := m.toCalls.resume callId stage ok} ↔ ok = true ∨ stage = .importing := by
  constructor
  · intro hafter
    exact (Calls.held_resume hheld.calls h.calls hstage ok).mp hafter.calls
  · intro hok
    refine ⟨(Calls.held_resume hheld.calls h.calls hstage ok).mpr hok, fun callId' k hk => ?_, hheld.timers⟩
    apply (hheld.loopbacks callId' k hk).resume
    rintro rfl
    -- a call without a connection has no loopback
    refine hok.resolve_right fun himporting => ?_
    exact h.calls.importing callId' (himporting ▸ hstage) (h.loopbacks callId' k hk)

theorem Sound.closePeer (h : m.Sound) (callId : String) : (m.closePeer callId).Sound where
  calls := h.calls.closePeer callId
  media := h.media.closePeer callId
  setups := by
    intro j callId' hj
    refine (Calls.opened_closePeer ..).mpr (h.setups j callId' ?_)
    rw [← hj]
    exact congrFun (Media.closePeer_counts m.toMedia callId).1.symm j
  loopbacks := by
    intro callId' k hk
    exact (Calls.opened_closePeer ..).mpr (h.loopbacks callId' k (Media.closePeer_loopbacks_some hk).2)

theorem held_closePeer (h : m.Held) : (m.closePeer callId).Held ↔ m.Cleared callId := by
  constructor
  · intro hafter
    by_contra hcleared
    obtain ⟨t, ht⟩ := Media.orphaned_of_not_cleared hcleared
    exact ht.not_held hafter.timers
  · intro hcleared
    refine ⟨h.calls.closePeer callId, fun callId' k hk => ?_, h.timers.closePeer hcleared⟩
    obtain ⟨hne, hk⟩ := Media.closePeer_loopbacks_some hk
    exact (h.loopbacks callId' k hk).closePeer hne

/-! `closeAll` closes the calls of a list. -/

theorem foldl_closePeer_sound (h : m.Sound) (ids : List String) : (ids.foldl closePeer m).Sound := by
  induction ids generalizing m with
  | nil => exact h
  | cons id rest ih => exact ih (h.closePeer id)

theorem foldl_closePeer_orphaned (h : m.Sound) {t : Timer} (ht : m.Orphaned t) (ids : List String) :
    (ids.foldl closePeer m).Orphaned t := by
  induction ids generalizing m with
  | nil => exact ht
  | cons id rest ih => exact ih (h.closePeer id) (ht.closePeer h.media id)

theorem foldl_closePeer_held (hheld : m.Held) (h : m.Sound) (ids : List String) :
    (ids.foldl closePeer m).Held ↔ ∀ id ∈ ids, m.Cleared id := by
  induction ids generalizing m with
  | nil => simp [hheld]
  | cons id rest ih =>
    rw [List.foldl_cons]
    by_cases hid : m.Cleared id
    · rw [ih ((held_closePeer hheld).mpr hid) (h.closePeer id), List.forall_mem_cons]
      have hrest : ∀ id', (m.closePeer id).Cleared id' ↔ m.Cleared id' := by
        intro id'
        by_cases hne : id' = id
        · subst hne
          exact iff_of_true (Media.cleared_closePeer_self hid) hid
        · exact h.media.cleared_closePeer_ne hne
      simp [hid, hrest]
    · -- what is not cleared stays armed
      obtain ⟨t, ht⟩ := Media.orphaned_of_not_cleared hid
      have hlast : (rest.foldl closePeer (m.closePeer id)).Orphaned t := foldl_closePeer_orphaned (h.closePeer id) ht rest
      exact iff_of_false (fun hafter => hlast.not_held hafter.timers) fun hall => hid (hall id (List.mem_cons_self ..))

theorem held_closeAll (hheld : m.Held) (h : m.Sound) :
    m.closeAll.Held ↔ ∀ callId pc, m.peers.get? callId = some pc → m.Cleared callId := by
  unfold closeAll
  rw [foldl_closePeer_held hheld h]
  constructor
  · intro hall callId pc hpc
    apply hall callId
    by_contra hkey
    exact nomatch (KeyMap.get?_eq_none.mpr hkey).symm.trans hpc
  · intro hall callId hkey
    cases hpc : m.peers.get? callId with
    | none => exact absurd hkey (KeyMap.get?_eq_none.mp hpc)
    | some pc => exact hall callId pc hpc

theorem step_sound {l : Label} (h : m.Sound) (hs : Step m l m') : m'.Sound := by
  cases hs with
  | acceptCall hnew => exact h.acceptCall hnew
  | awaited hstage => exact h.resume hstage _
  | track hconn => exact h.onTrack hconn
  | imported hj => exact h.startDelayedLoopback hj _
  | rtp hk => exact h.plays (Media.plays_onReceiveRtp hk)
  | timer _ hk => exact h.plays (Media.plays_fire hk _)
  | replaced hk _ => exact h.plays (Media.plays_replaced hk _ _)
  | @connectionState pc conn state _ =>
    unfold connectionStateChange
    split
    · exact h.closePeer conn.callId
    · exact h
  | closePeer => exact h.closePeer _
  | closeAll => exact foldl_closePeer_sound h _

/-- An orderly step keeps what is held, and no other step does. -/
theorem step_held {l : Label} (hheld : m.Held) (h : m.Sound) (hs : Step m l m') : m'.Held ↔ Orderly m l := by
  cases hs with
  | acceptCall hnew => exact iff_of_true (hheld.acceptCall h hnew) trivial
  | awaited hstage =>
    rw [held_resume hheld h hstage]
    simp [Orderly, hstage]
  | track => exact iff_of_true (hheld.onTrack _) trivial
  | imported hj =>
    rw [held_startDelayedLoopback hheld]
    simp [Orderly, hj]
  | rtp hk => exact iff_of_true (hheld.plays (Media.plays_onReceiveRtp hk)) trivial
  | timer _ hk => exact iff_of_true (hheld.plays (Media.plays_fire hk _)) trivial
  | replaced hk _ => exact iff_of_true (hheld.plays (Media.plays_replaced hk _ _)) trivial
  | @connectionState pc conn state hconn =>
    cases hclosing : state.closing with
    | true =>
      simp only [connectionStateChange, hclosing, if_true, held_closePeer hheld]
      simp [Orderly, hclosing, hconn]
    | false => simp [connectionStateChange, hclosing, hheld, Orderly]
  | closePeer => exact held_closePeer hheld
  | closeAll => exact held_closeAll hheld h

theorem run_sound {loopbackSec : Int} {ls : List Label} (h : (system loopbackSec).Run ls m) : m.Sound := by
  apply h.invariant (I := fun _ m => m.Sound)
  · rintro m rfl
    exact new_sound loopbackSec
  · exact fun _ _ _ _ _ hI hs => step_sound hI hs

theorem run_held {loopbackSec : Int} {ls : List Label} (h : ((system loopbackSec).restrict Orderly).Run ls m) : m.Held := by
  apply h.invariant (I := fun _ m => m.Held)
  · rintro m rfl
    exact new_held loopbackSec
  · exact fun _ _ _ _ hrun hI hs => (step_held hI (run_sound hrun.of_restrict) hs.1).mpr hs.2

/-! ### Where nothing is awaited -/

theorem Quiescent.live_iff (hq : m.Quiescent) : m.Live callId ↔ ∃ pc, m.peers.get? callId = some pc := by
  simp [Calls.Live, hq.accepts]

theorem Sound.clean_iff (h : m.Sound) (hq : m.Quiescent) : m.Clean ↔ m.Held := by
  constructor
  · intro hclean
    refine ⟨fun pc conn hconn hopen => .inl ?_, fun callId k hk => hq.live_iff.mpr (hclean.loopbacks callId k hk), hclean.timers⟩
    by_contra hpeer
    -- an entry of `peers` is under its connection's call
    have hclosed := hclean.conns pc conn hconn fun callId hp => by
      obtain ⟨conn', hconn', hcall⟩ := h.calls.peers callId pc hp
      obtain rfl := Option.some.inj (hconn.symm.trans hconn')
      exact hpeer (hcall ▸ hp)
    rw [hopen] at hclosed
    cases hclosed
  · intro hheld
    refine ⟨fun pc conn hconn hpeers => ?_, fun callId k hk => hq.live_iff.mp (hheld.loopbacks callId k hk), hheld.timers⟩
    by_contra hopen
    obtain hpeer | ⟨stage, hstage, -⟩ := hheld.calls pc conn hconn (by simpa using hopen)
    · exact hpeers conn.callId hpeer
    · exact nomatch (hq.accepts conn.callId).symm.trans hstage

/-- In a clean manager nothing runs for a call out of `peers`. -/
theorem Clean.stopped (hclean : m.Clean) (h : m.Sound) (hpeer : m.peers.get? callId = none) : m.Stopped callId := by
  have hnone : m.loopbacks.get? callId = none := by
    refine Option.eq_none_iff_forall_ne_some.mpr fun k hk => ?_
    obtain ⟨pc, hpc⟩ := hclean.loopbacks callId k hk
    exact nomatch hpeer.symm.trans hpc
  refine ⟨fun pc conn hconn hcall => hclean.conns pc conn hconn fun callId' hp => ?_, hnone, fun t ht hcall => ?_⟩
  · obtain ⟨conn', hconn', hcall'⟩ := h.calls.peers callId' pc hp
    obtain rfl := Option.some.inj (hconn.symm.trans hconn')
    rw [← hcall', hcall, hpeer] at hp
    cases hp
  · obtain ⟨k, hk⟩ := hclean.timers t ht
    rw [hcall, hnone] at hk
    cases hk

/-- **The manager cleans up**, exactly as long as the steps are orderly: where nothing is
awaited it is clean, and nothing runs for a call out of `peers`. -/
theorem cleans_up {loopbackSec : Int} {ls : List Label} (h : ((system loopbackSec).restrict Orderly).Run ls m) :
    (m.Quiescent → m.Clean ∧ ∀ callId, m.peers.get? callId = none → m.Stopped callId) ∧
      ∀ l m', Step m l m' → m'.Quiescent → (m'.Clean ↔ Orderly m l) := by
  have hsound := run_sound h.of_restrict
  have hheld := run_held h
  refine ⟨fun hq => ?_, fun l m' hs hq => ?_⟩
  · have hclean := (hsound.clean_iff hq).mpr hheld
    exact ⟨hclean, fun callId hpeer => hclean.stopped hsound hpeer⟩
  · rw [(step_sound hsound hs).clean_iff hq]
    exact step_held hheld hsound hs

/-- A call with a loopback that has recorded a packet, and is closed while it plays. -/
theorem cleans_up_looping : ∃ m, ((system 3).restrict Orderly).Run [.acceptCall "call-1", .awaited "call-1" true,
      .awaited "call-1" true, .track 0, .imported 0 true, .awaited "call-1" true, .awaited "call-1" true, .rtp 0,
      .timer 0 true, .replaced 0 true true, .closePeer "call-1"] m ∧
    m.Clean ∧ m.Stopped "call-1" ∧ m.created = 1 ∧ m.armed = 2 := by
  have h₀ : ((system 3).restrict Orderly).Run [] (new 3) := .nil rfl
  have h₁ := h₀.snoc ⟨show Step _ (.acceptCall "call-1") _ from .acceptCall (by simp [new]), trivial⟩
  have h₂ := h₁.snoc ⟨show Step _ (.awaited "call-1" true) _ from .awaited rfl, .inl rfl⟩
  have h₃ := h₂.snoc ⟨show Step _ (.awaited "call-1" true) _ from .awaited rfl, .inl rfl⟩
  have h₄ := h₃.snoc ⟨show Step _ (.track 0) _ from .track rfl, trivial⟩
  have h₅ := h₄.snoc ⟨show Step _ (.imported 0 true) _ from .imported rfl, fun _ callId hj => by
    obtain rfl : "call-1" = callId := Option.some.inj hj
    exact .inr ⟨_, rfl⟩⟩
  have h₆ := h₅.snoc ⟨show Step _ (.awaited "call-1" true) _ from .awaited rfl, .inl rfl⟩
  have h₇ := h₆.snoc ⟨show Step _ (.awaited "call-1" true) _ from .awaited rfl, .inl rfl⟩
  have h₈ := h₇.snoc ⟨show Step _ (.rtp 0) _ from .rtp rfl, trivial⟩
  have h₉ := h₈.snoc ⟨show Step _ (.timer 0 true) _ from .timer (t := ⟨0, "call-1", 0, .record⟩) (List.mem_singleton_self _) rfl, trivial⟩
  have h₁₀ := h₉.snoc ⟨show Step _ (.replaced 0 true true) _ from .replaced rfl rfl, trivial⟩
  have h₁₁ := h₁₀.snoc ⟨show Step _ (.closePeer "call-1") _ from .closePeer, fun t ht _ => by
    obtain rfl := List.mem_singleton.mp ht
    rfl⟩
  obtain ⟨hclean, hstopped⟩ := (cleans_up h₁₁).1 {
    accepts := by
      intro callId
      refine Option.eq_none_iff_forall_ne_some.mpr fun stage hstage => ?_
      obtain rfl := List.mem_singleton.mp ((run_sound h₁₁.of_restrict).calls.accepting callId stage hstage).1
      exact nomatch hstage
    setups := by
      intro j
      cases j <;> rfl
    loops := by
      intro k s hs
      cases k with
      | zero =>
        obtain rfl := Option.some.inj hs
        rfl
      | succ k => exact nomatch hs}
  exact ⟨_, h₁₁, hclean, hstopped "call-1" rfl, rfl, rfl⟩

/-- An offer that `setRemoteDescription` rejects leaves its connection open. -/
theorem rejected_offer : ¬ ∀ loopbackSec ls m, (system loopbackSec).Run ls m → m.Quiescent → m.Clean := by
  intro hall
  have h₀ : (system 0).Run [] (new 0) := .nil rfl
  have h₁ := h₀.snoc (show Step _ (.acceptCall "call-1") _ from .acceptCall (by simp [new]))
  have h₂ := h₁.snoc (show Step _ (.awaited "call-1" true) _ from .awaited rfl)
  have h₃ := h₂.snoc (show Step _ (.awaited "call-1" false) _ from .awaited rfl)
  have hclean := hall _ _ _ h₃ {
    accepts := by
      intro callId
      refine Option.eq_none_iff_forall_ne_some.mpr fun stage hstage => ?_
      obtain rfl := List.mem_singleton.mp ((run_sound h₃).calls.accepting callId stage hstage).1
      exact nomatch hstage
    setups := fun _ => rfl
    loops := fun _ _ hs => nomatch hs}
  exact nomatch hclean.conns 0 _ rfl fun callId hp => nomatch hp

end RtcPeerManager
end RtcPlugin.TsNode
