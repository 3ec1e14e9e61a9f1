import RtcPlugin.System.Update
import RtcPlugin.TsNode.PeerManager

/-! The loopbacks of the calls.

The callbacks of a loopback arm a timer only while its call has one (`Plays`). A call
that is closed keeps no timer that its loopback state knows; any other is left armed
(`orphaned_of_not_cleared`), and nothing clears it afterwards. -/
namespace RtcPlugin.TsNode

namespace Media

structure Sound (d : Media) : Prop where
  loops : ∀ callId k, d.loopbacks.get? callId = some k → ∃ s, d.loops k = some s ∧ s.callId = callId
  fresh : ∀ k, d.registered ≤ k → d.loops k = none
  known : ∀ k s handle, d.loops k = some s → s.timer = some handle → handle < d.armed
  armed : ∀ t ∈ d.timers, t.handle < d.armed
  owner : ∀ t ∈ d.timers, ∀ k s, d.loops k = some s → s.timer = some t.handle → s.callId = t.callId

/-- A timer is of a call with a loopback. -/
def Held (d : Media) : Prop := ∀ t ∈ d.timers, ∃ k, d.loopbacks.get? t.callId = some k

variable {d d' d'' : Media} {callId callId' : String} {k : Nat} {s s' : Loopback}

theorem Sound.lt_registered (h : d.Sound) (hs : d.loops k = some s) : k < d.registered := by
  by_contra hk
  rw [h.fresh k (Nat.le_of_not_lt hk)] at hs
  cases hs

theorem setLoop_self (d : Media) (k : Nat) (s : Loopback) : (d.setLoop k s).loops k = some s := Function.update_self ..

theorem setLoop_ne {k' : Nat} (h : k' ≠ k) : (d.setLoop k s).loops k' = d.loops k' := Function.update_of_ne h ..

/-- The call and the timer of a loopback stay as they are. -/
theorem Sound.setLoop (h : d.Sound) (hs : d.loops k = some s) (hcall : s'.callId = s.callId) (htimer : s'.timer = s.timer) :
    (d.setLoop k s').Sound := by
  -- every loopback was there, with the same call and timer
  have hold : ∀ k' r, (d.setLoop k s').loops k' = some r →
      ∃ r', d.loops k' = some r' ∧ r.callId = r'.callId ∧ r.timer = r'.timer := by
    intro k' r hr
    obtain ⟨rfl, rfl⟩ | ⟨-, hr⟩ := update_put hr
    · exact ⟨s, hs, hcall, htimer⟩
    · exact ⟨r, hr, rfl, rfl⟩
  constructor
  · intro callId k' hk'
    obtain ⟨r, hr, hr'⟩ := h.loops callId k' hk'
    by_cases hk : k' = k
    · obtain rfl := Option.some.inj (hs.symm.trans (hk ▸ hr))
      exact ⟨s', hk ▸ setLoop_self .., hcall.trans hr'⟩
    · exact ⟨r, (setLoop_ne hk).trans hr, hr'⟩
  · intro k' hk'
    have hk : k' ≠ k := by
      rintro rfl
      exact nomatch (h.fresh _ hk').symm.trans hs
    exact (setLoop_ne hk).trans (h.fresh k' hk')
  · intro k' r handle hr htimer'
    obtain ⟨r', hr', -, ht⟩ := hold k' r hr
    exact h.known k' r' handle hr' (ht ▸ htimer')
  · exact h.armed
  · intro t ht k' r hr htimer'
    obtain ⟨r', hr', hc, ht'⟩ := hold k' r hr
    exact hc.trans (h.owner t ht k' r' hr' (ht' ▸ htimer'))

theorem setTimeout_self (d : Media) (k : Nat) (s : Loopback) (kind : TimerKind) :
    (d.setTimeout k s kind).loops k = some {s with timer := some d.armed} := setLoop_self ..

theorem setTimeout_ne {k' : Nat} {kind : TimerKind} (h : k' ≠ k) : (d.setTimeout k s kind).loops k' = d.loops k' :=
  setLoop_ne h

theorem setTimeout_loops {k' : Nat} {r : Loopback} {kind : TimerKind} (h : (d.setTimeout k s kind).loops k' = some r) :
    k' = k ∧ r = {s with timer := some d.armed} ∨ k' ≠ k ∧ d.loops k' = some r := update_put h

/-- A loopback that is known, or a new one, arms a timer. -/
theorem Sound.setTimeout (h : d.Sound) (hk : k < d.registered) (hs : ∀ r, d.loops k = some r → r.callId = s.callId)
    (kind : TimerKind) : (d.setTimeout k s kind).Sound where
  loops := by
    intro callId k' hk'
    obtain ⟨r, hr, hcall⟩ := h.loops callId k' hk'
    by_cases hkk : k' = k
    · rw [hkk, setTimeout_self]
      exact ⟨_, rfl, (hs r (hkk ▸ hr)).symm.trans hcall⟩
    · rw [setTimeout_ne hkk]
      exact ⟨r, hr, hcall⟩
  fresh := by
    intro k' hk'
    have hk' : d.registered ≤ k' := hk'
    rw [setTimeout_ne (by omega)]
    exact h.fresh k' hk'
  known := by
    intro k' r handle hr htimer
    obtain ⟨-, rfl⟩ | ⟨-, hr⟩ := setTimeout_loops hr
    · obtain rfl := Option.some.inj htimer
      exact Nat.lt_succ_self _
    · exact Nat.lt_succ_of_lt (h.known k' r handle hr htimer)
  armed := by
    intro t ht
    obtain ht | ht := List.mem_append.mp ht
    · exact Nat.lt_succ_of_lt (h.armed t ht)
    · obtain rfl := List.mem_singleton.mp ht
      exact Nat.lt_succ_self _
  owner := by
    intro t ht k' r hr htimer
    obtain ⟨-, rfl⟩ | ⟨-, hr⟩ := setTimeout_loops hr
    · have heq : d.armed = t.handle := Option.some.inj htimer
      obtain ht | ht := List.mem_append.mp ht
      · -- the new handle is no older timer's
        have hlt := h.armed t ht
        omega
      · obtain rfl := List.mem_singleton.mp ht
        rfl
    · obtain ht | ht := List.mem_append.mp ht
      · exact h.owner t ht k' r hr htimer
      · obtain rfl := List.mem_singleton.mp ht
        exact absurd (h.known k' r _ hr htimer) (Nat.lt_irrefl _)

theorem Sound.clearTimeout (h : d.Sound) (handle : Nat) : (d.clearTimeout handle).Sound where
  loops := h.loops
  fresh := h.fresh
  known := h.known
  armed := fun t ht => h.armed t (List.mem_filter.mp ht).1
  owner := fun t ht => h.owner t (List.mem_filter.mp ht).1

theorem Held.setTimeout (h : d.Held) (hhas : d.has s.callId = true) (k : Nat) (kind : TimerKind) :
    (d.setTimeout k s kind).Held := by
  intro t ht
  obtain ht | ht := List.mem_append.mp ht
  · exact h t ht
  · obtain rfl := List.mem_singleton.mp ht
    exact Option.isSome_iff_exists.mp hhas

theorem Held.clearTimeout (h : d.Held) (handle : Nat) : (d.clearTimeout handle).Held :=
  fun t ht => h t (List.mem_filter.mp ht).1

/-! The callbacks of a loopback -/

/-- What a callback of a loopback leaves as it is. -/
structure Plays (d d' : Media) : Prop where
  loopbacks : d'.loopbacks = d.loopbacks
  setups : d'.setups = d.setups
  sound : d.Sound → d'.Sound
  held : d.Held → d'.Held

theorem Plays.refl (d : Media) : Plays d d := ⟨rfl, rfl, id, id⟩

theorem Plays.trans (h : Plays d d') (h' : Plays d' d'') : Plays d d'' :=
  ⟨h'.loopbacks.trans h.loopbacks, h'.setups.trans h.setups, h'.sound ∘ h.sound, h'.held ∘ h.held⟩

theorem plays_setLoop (hs : d.loops k = some s) (hcall : s'.callId = s.callId) (htimer : s'.timer = s.timer) :
    Plays d (d.setLoop k s') :=
  ⟨rfl, rfl, fun h => h.setLoop hs hcall htimer, id⟩

theorem plays_clearTimeout (d : Media) (handle : Nat) : Plays d (d.clearTimeout handle) :=
  ⟨rfl, rfl, fun h => h.clearTimeout handle, fun h => h.clearTimeout handle⟩

theorem plays_setTimeout (hs : d.loops k = some s') (hcall : s.callId = s'.callId) (hhas : d.has s.callId = true)
    (kind : TimerKind) : Plays d (d.setTimeout k s kind) where
  loopbacks := rfl
  setups := rfl
  sound := by
    intro h
    refine h.setTimeout (h.lt_registered hs) (fun r hr => ?_) kind
    obtain rfl := Option.some.inj (hs.symm.trans hr)
    exact hcall.symm
  held := fun h => h.setTimeout hhas k kind

theorem plays_playNext (hs : d.loops k = some s) (written : Bool) : Plays d (d.playNext k s written) := by
  unfold playNext
  split
  · split
    · next hhas => exact plays_setTimeout hs rfl hhas _
    · exact .refl d
  · next hplaying =>
    have hhas : d.has s.callId = true := by
      cases hhas : d.has s.callId with
      | true => rfl
      | false => simp [hhas] at hplaying
    split
    · exact plays_setTimeout (s := {s with i := s.i + 1}) hs rfl hhas _
    · exact .refl d

theorem plays_loopOnce (hs : d.loops k = some s) (written : Bool) : Plays d (d.loopOnce k s written) := by
  unfold loopOnce
  split
  · have hset : Plays d (d.setLoop k {s with i := 0}) := plays_setLoop hs rfl rfl
    exact hset.trans (plays_playNext (setLoop_self ..) written)
  · exact .refl d

theorem plays_recorded (hs : d.loops k = some s) : Plays d (d.recorded k s) := by
  unfold recorded
  split
  · exact plays_setLoop hs rfl rfl
  · exact plays_setLoop hs rfl rfl

theorem plays_replaced (hs : d.loops k = some s) (ok written : Bool) : Plays d (d.replaced k s ok written) := by
  have hset : Plays d (d.setLoop k {s with switching := false}) := plays_setLoop hs rfl rfl
  unfold replaced
  cases ok with
  | true => exact hset.trans (plays_loopOnce (setLoop_self ..) written)
  | false => exact hset

theorem plays_onReceiveRtp (hs : d.loops k = some s) : Plays d (d.onReceiveRtp k s) := by
  unfold onReceiveRtp
  split
  · exact plays_setLoop hs rfl rfl
  · exact .refl d

theorem plays_fire {t : Timer} (hs : d.loops t.loop = some s) (written : Bool) : Plays d (d.fire t s written) := by
  have hs' : (d.clearTimeout t.handle).loops t.loop = some s := hs
  apply (plays_clearTimeout d t.handle).trans
  unfold fire
  cases t.kind with
  | record => exact plays_recorded hs'
  | loopOnce => exact plays_loopOnce hs' written
  | playNext => exact plays_playNext hs' written

/-! A loopback is set up -/

theorem Sound.startDelayedLoopback (h : d.Sound) (j : Nat) (callId : String) (ok : Bool) :
    (d.startDelayedLoopback j callId ok).Sound := by
  cases ok with
  | false => exact ⟨h.loops, h.fresh, h.known, h.armed, h.owner⟩
  | true =>
    have hnone := h.fresh d.registered (Nat.le_refl _)
    -- counted first, then armed, then put into `loopbacks`
    have hcounted : Sound {d with setups := Function.update d.setups j none, registered := d.registered + 1} :=
      ⟨h.loops, fun k hk => h.fresh k (Nat.le_of_succ_le hk), h.known, h.armed, h.owner⟩
    have harmed := hcounted.setTimeout (s := ⟨callId, none, true, 0, 0, false⟩) (Nat.lt_succ_self d.registered)
      (fun r hr => nomatch hnone.symm.trans hr) .record
    refine ⟨fun callId' k hk => ?_, harmed.fresh, harmed.known, harmed.armed, harmed.owner⟩
    obtain ⟨hc, rfl⟩ | ⟨-, hold⟩ := KeyMap.get?_set_some hk
    · exact ⟨_, setLoop_self .., hc.symm⟩
    · exact harmed.loops callId' k hold

theorem startDelayedLoopback_self (d : Media) (j : Nat) (callId : String) :
    (d.startDelayedLoopback j callId true).loopbacks.get? callId = some d.registered := KeyMap.get?_set_self ..

theorem startDelayedLoopback_ne {j : Nat} {ok : Bool} (h : callId' ≠ callId) :
    (d.startDelayedLoopback j callId ok).loopbacks.get? callId' = d.loopbacks.get? callId' := by
  cases ok with
  | true => exact KeyMap.get?_set_ne _ _ h
  | false => rfl

theorem Held.startDelayedLoopback (h : d.Held) (j : Nat) (callId : String) (ok : Bool) :
    (d.startDelayedLoopback j callId ok).Held := by
  cases ok with
  | false => exact h
  | true =>
    intro t ht
    by_cases hc : t.callId = callId
    · rw [hc, startDelayedLoopback_self]
      exact ⟨_, rfl⟩
    · rw [startDelayedLoopback_ne hc]
      obtain ht | ht := List.mem_append.mp ht
      · exact h t ht
      · obtain rfl := List.mem_singleton.mp ht
        exact absurd rfl hc

/-! `closePeer` -/

theorem closePeer_loopbacks_self (d : Media) (callId : String) : (d.closePeer callId).loopbacks.get? callId = none := by
  unfold closePeer
  split
  · exact KeyMap.get?_delete_self ..
  · next hnone => simpa [has] using hnone

theorem closePeer_loopbacks_ne (h : callId' ≠ callId) :
    (d.closePeer callId).loopbacks.get? callId' = d.loopbacks.get? callId' := by
  unfold closePeer
  split
  · exact KeyMap.get?_delete_ne _ h
  · rfl

theorem closePeer_loopbacks_some (h : (d.closePeer callId).loopbacks.get? callId' = some k) :
    callId' ≠ callId ∧ d.loopbacks.get? callId' = some k := by
  by_cases hc : callId' = callId
  · rw [hc, closePeer_loopbacks_self] at h
    cases h
  · rw [closePeer_loopbacks_ne hc] at h
    exact ⟨hc, h⟩

theorem closePeer_timers (d : Media) (callId : String) (t : Timer) :
    t ∈ (d.closePeer callId).timers ↔ t ∈ d.timers ∧ d.timerOf callId ≠ some t.handle := by
  unfold closePeer
  split
  · cases htimer : d.timerOf callId with
    | none => simp
    | some handle =>
      simp only [clearTimeout, List.mem_filter, decide_eq_true_eq, ne_eq, Option.some.injEq]
      rw [eq_comm (a := handle)]
  · next hnone =>
    have hget : d.loopbacks.get? callId = none := by simpa [has] using hnone
    simp [timerOf, hget]

theorem closePeer_loops (d : Media) (callId : String) : (d.closePeer callId).loops = d.loops := by
  unfold closePeer
  split
  · cases d.timerOf callId <;> rfl
  · rfl

theorem closePeer_counts (d : Media) (callId : String) :
    (d.closePeer callId).setups = d.setups ∧ (d.closePeer callId).registered = d.registered ∧
      (d.closePeer callId).armed = d.armed := by
  unfold closePeer
  split
  · cases d.timerOf callId <;> exact ⟨rfl, rfl, rfl⟩
  · exact ⟨rfl, rfl, rfl⟩

theorem closePeer_timerOf_ne (h : callId' ≠ callId) : (d.closePeer callId).timerOf callId' = d.timerOf callId' := by
  unfold timerOf
  rw [closePeer_loopbacks_ne h, closePeer_loops]

theorem Sound.closePeer (h : d.Sound) (callId : String) : (d.closePeer callId).Sound := by
  obtain ⟨-, hregistered, harmed⟩ := closePeer_counts d callId
  constructor
  · intro callId' k hk
    rw [closePeer_loops]
    exact h.loops callId' k (closePeer_loopbacks_some hk).2
  · rw [closePeer_loops, hregistered]
    exact h.fresh
  · rw [closePeer_loops, harmed]
    exact h.known
  · intro t ht
    rw [harmed]
    exact h.armed t ((closePeer_timers ..).mp ht).1
  · intro t ht
    rw [closePeer_loops]
    exact h.owner t ((closePeer_timers ..).mp ht).1

/-- The timer of a call's loopback is the call's. -/
theorem Sound.owner_timerOf (h : d.Sound) {t : Timer} (ht : t ∈ d.timers) (hof : d.timerOf callId = some t.handle) :
    t.callId = callId := by
  obtain ⟨s, hs, htimer⟩ := Option.bind_eq_some_iff.mp hof
  obtain ⟨k, hk, hs⟩ := Option.bind_eq_some_iff.mp hs
  obtain ⟨s', hs', hcall⟩ := h.loops callId k hk
  obtain rfl := Option.some.inj (hs.symm.trans hs')
  exact (h.owner t ht k s hs htimer).symm.trans hcall

theorem cleared_closePeer_self (h : d.Cleared callId) : (d.closePeer callId).Cleared callId := by
  intro t ht hcall
  obtain ⟨ht, hne⟩ := (closePeer_timers ..).mp ht
  exact absurd (h t ht hcall) hne

/-- Closing a call neither clears another's timers nor forgets them. -/
theorem Sound.cleared_closePeer_ne (h : d.Sound) (hne : callId' ≠ callId) :
    (d.closePeer callId).Cleared callId' ↔ d.Cleared callId' := by
  unfold Cleared
  rw [closePeer_timerOf_ne hne]
  constructor
  · intro hcleared t ht hcall
    refine hcleared t ((closePeer_timers ..).mpr ⟨ht, fun hof => hne ?_⟩) hcall
    exact hcall.symm.trans (h.owner_timerOf ht hof)
  · intro hcleared t ht
    exact hcleared t ((closePeer_timers ..).mp ht).1

/-- A timer of a call without a loopback. -/
def Orphaned (d : Media) (t : Timer) : Prop := t ∈ d.timers ∧ d.loopbacks.get? t.callId = none

theorem Orphaned.not_held {t : Timer} (h : d.Orphaned t) : ¬ d.Held := by
  intro hheld
  obtain ⟨k, hk⟩ := hheld t h.1
  exact nomatch h.2.symm.trans hk

/-- No `closePeer` clears an orphaned timer. -/
theorem Orphaned.closePeer {t : Timer} (h : d.Orphaned t) (hsound : d.Sound) (callId : String) :
    (d.closePeer callId).Orphaned t := by
  refine ⟨(closePeer_timers ..).mpr ⟨h.1, fun hof => ?_⟩, ?_⟩
  · have hcall := hsound.owner_timerOf h.1 hof
    simp [timerOf, ← hcall, h.2] at hof
  · by_cases hc : t.callId = callId
    · rw [hc, closePeer_loopbacks_self]
    · rw [closePeer_loopbacks_ne hc, h.2]

theorem Held.closePeer (hheld : d.Held) (h : d.Cleared callId) : (d.closePeer callId).Held := by
  intro t ht
  obtain ⟨ht, hof⟩ := (closePeer_timers ..).mp ht
  have hc : t.callId ≠ callId := fun hcall => hof (h t ht hcall)
  rw [closePeer_loopbacks_ne hc]
  exact hheld t ht

theorem orphaned_of_not_cleared (h : ¬ d.Cleared callId) : ∃ t, (d.closePeer callId).Orphaned t := by
  unfold Cleared at h
  push Not at h
  obtain ⟨t, ht, rfl, hof⟩ := h
  exact ⟨t, (closePeer_timers ..).mpr ⟨ht, hof⟩, closePeer_loopbacks_self ..⟩

end Media
end RtcPlugin.TsNode
