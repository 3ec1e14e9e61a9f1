import Mathlib.Data.List.Pairwise
import RtcPlugin.TsNode.Loopbacks

/-! The timers of one loopback.

A callback leaves the timers of every other loopback as they are (`Elsewhere`). The
handles are never given twice, and a timer is of a loopback of its own call
(`Tagged`). -/
namespace RtcPlugin.TsNode

namespace Media
variable {d d' : Media} {k k' : Nat} {s : Loopback}

def timersOf (d : Media) (k : Nat) : List Timer := d.timers.filter fun t => t.loop = k

theorem timersOf_setTimeout_self (d : Media) (k : Nat) (s : Loopback) (kind : TimerKind) :
    (d.setTimeout k s kind).timersOf k = d.timersOf k ++ [⟨d.armed, s.callId, k, kind⟩] := by
  simp [timersOf, setTimeout, List.filter_append]

theorem timersOf_setTimeout_ne {kind : TimerKind} (h : k' ≠ k) : (d.setTimeout k s kind).timersOf k' = d.timersOf k' := by
  simp [timersOf, setTimeout, List.filter_append, Ne.symm h]

theorem timersOf_clearTimeout (d : Media) (handle k : Nat) :
    (d.clearTimeout handle).timersOf k = (d.timersOf k).filter fun t => t.handle ≠ handle := by
  simp only [timersOf, clearTimeout]
  rw [List.filter_comm]

/-- The one timer of a loopback is gone when it has fired. -/
theorem timersOf_fired {t : Timer} (ht : t ∈ d.timers) (hone : (d.timersOf t.loop).length ≤ 1) :
    d.timersOf t.loop = [t] ∧ (d.clearTimeout t.handle).timersOf t.loop = [] := by
  have hmem : t ∈ d.timersOf t.loop := List.mem_filter.mpr ⟨ht, decide_eq_true rfl⟩
  have hlist : d.timersOf t.loop = [t] := by
    obtain ⟨t', ht'⟩ := List.length_eq_one_iff.mp (Nat.le_antisymm hone (List.length_pos_of_mem hmem))
    rw [ht', List.mem_singleton] at hmem
    rw [ht', hmem]
  refine ⟨hlist, ?_⟩
  rw [timersOf_clearTimeout, hlist]
  simp

/-- What the callbacks of another loopback leave of this one. -/
structure Elsewhere (k : Nat) (d d' : Media) : Prop where
  loop : d'.loops k = d.loops k
  timers : d'.timersOf k = d.timersOf k
  loopbacks : d'.loopbacks = d.loopbacks

theorem Elsewhere.refl (k : Nat) (d : Media) : Elsewhere k d d := ⟨rfl, rfl, rfl⟩

theorem elsewhere_setTimeout {kind : TimerKind} (h : k' ≠ k) (hd : Elsewhere k' d d') : Elsewhere k' d (d'.setTimeout k s kind) :=
  ⟨(setTimeout_ne h).trans hd.loop, (timersOf_setTimeout_ne h).trans hd.timers, hd.loopbacks⟩

theorem elsewhere_setLoop (h : k' ≠ k) : Elsewhere k' d (d.setLoop k s) := ⟨setLoop_ne h, rfl, rfl⟩

theorem elsewhere_playNext {written : Bool} (h : k' ≠ k) (hd : Elsewhere k' d d') :
    Elsewhere k' d (d'.playNext k s written) := by
  unfold playNext
  split
  · split
    · exact elsewhere_setTimeout h hd
    · exact hd
  · split
    · exact elsewhere_setTimeout h hd
    · exact hd

theorem elsewhere_loopOnce {written : Bool} (h : k' ≠ k) (hd : Elsewhere k' d d') :
    Elsewhere k' d (d'.loopOnce k s written) := by
  unfold loopOnce
  split
  · refine elsewhere_playNext h ⟨(setLoop_ne h).trans hd.loop, hd.timers, hd.loopbacks⟩
  · exact hd

theorem elsewhere_replaced (d : Media) (s : Loopback) (ok written : Bool) (h : k' ≠ k) :
    Elsewhere k' d (d.replaced k s ok written) := by
  unfold replaced
  cases ok with
  | true => exact elsewhere_loopOnce h (elsewhere_setLoop h)
  | false => exact elsewhere_setLoop h

theorem elsewhere_onReceiveRtp (h : k' ≠ k) : Elsewhere k' d (d.onReceiveRtp k s) := by
  unfold onReceiveRtp
  split
  · exact elsewhere_setLoop h
  · exact .refl k' d

theorem elsewhere_fire (d : Media) (s : Loopback) {t : Timer} (written : Bool) (h : k' ≠ t.loop) :
    Elsewhere k' (d.clearTimeout t.handle) (d.fire t s written) := by
  unfold fire
  cases t.kind with
  | record =>
    show Elsewhere k' _ (recorded _ _ _)
    unfold recorded
    split <;> exact elsewhere_setLoop h
  | loopOnce => exact elsewhere_loopOnce h (.refl ..)
  | playNext => exact elsewhere_playNext h (.refl ..)

/-- Media that other changes to loopbacks and timers lead to. -/
inductive Moves (d : Media) : Media → Prop where
  | refl : Moves d d
  | setLoop {d' k s s'} : Moves d d' → d'.loops k = some s → s'.callId = s.callId → Moves d (d'.setLoop k s')
  | setTimeout {d' k s s' kind} : Moves d d' → d'.loops k = some s → s'.callId = s.callId → Moves d (d'.setTimeout k s' kind)
  | clearTimeout {d' handle} : Moves d d' → Moves d (d'.clearTimeout handle)

/-- The timers have handles of their own, and are of loopbacks of their call. -/
structure Tagged (d : Media) : Prop where
  named : ∀ t ∈ d.timers, ∃ s, d.loops t.loop = some s ∧ s.callId = t.callId
  below : ∀ t ∈ d.timers, t.handle < d.armed
  distinct : d.timers.Pairwise fun t t' => t.handle ≠ t'.handle

theorem Tagged.same (h : d.Tagged) {t t' : Timer} (ht : t ∈ d.timers) (ht' : t' ∈ d.timers) (hhandle : t.handle = t'.handle) :
    t = t' := by
  by_contra hne
  have hsymm : Std.Symm fun t t' : Timer => t.handle ≠ t'.handle := ⟨fun _ _ h => Ne.symm h⟩
  exact h.distinct.forall ht ht' hne hhandle

theorem Tagged.clearTimeout (h : d.Tagged) (handle : Nat) : (d.clearTimeout handle).Tagged where
  named := fun t ht => h.named t (List.mem_filter.mp ht).1
  below := fun t ht => h.below t (List.mem_filter.mp ht).1
  distinct := h.distinct.filter _

theorem Tagged.setLoop (h : d.Tagged) {s' : Loopback} (hs : ∀ r, d.loops k = some r → r.callId = s'.callId) :
    (d.setLoop k s').Tagged where
  named := by
    intro t ht
    obtain ⟨r, hr, hcall⟩ := h.named t ht
    by_cases hk : t.loop = k
    · subst hk
      exact ⟨s', setLoop_self .., (hs r hr).symm.trans hcall⟩
    · exact ⟨r, (setLoop_ne hk).trans hr, hcall⟩
  below := h.below
  distinct := h.distinct

theorem Tagged.setTimeout (h : d.Tagged) (hs : ∀ r, d.loops k = some r → r.callId = s.callId) (kind : TimerKind) :
    (d.setTimeout k s kind).Tagged := by
  have hset : (d.setLoop k {s with timer := some d.armed}).Tagged := h.setLoop hs
  constructor
  · intro t ht
    obtain ht | ht := List.mem_append.mp ht
    · exact hset.named t ht
    · obtain rfl := List.mem_singleton.mp ht
      exact ⟨_, setTimeout_self .., rfl⟩
  · intro t ht
    obtain ht | ht := List.mem_append.mp ht
    · exact Nat.lt_succ_of_lt (h.below t ht)
    · obtain rfl := List.mem_singleton.mp ht
      exact Nat.lt_succ_self _
  · refine List.pairwise_append.mpr ⟨h.distinct, List.pairwise_singleton .., fun t ht t' ht' => ?_⟩
    obtain rfl := List.mem_singleton.mp ht'
    exact Nat.ne_of_lt (h.below t ht)

theorem Tagged.moves (h : d.Tagged) (hd : d.Moves d') : d'.Tagged := by
  have hsame {d : Media} {k : Nat} {s s' : Loopback} (hs : d.loops k = some s) (hcall : s'.callId = s.callId) :
      ∀ r, d.loops k = some r → r.callId = s'.callId := by
    intro r hr
    obtain rfl := Option.some.inj (hs.symm.trans hr)
    exact hcall.symm
  induction hd with
  | refl => exact h
  | setLoop _ hs hcall ih => exact ih.setLoop (hsame hs hcall)
  | setTimeout _ hs hcall ih => exact ih.setTimeout (hsame hs hcall) _
  | clearTimeout _ ih => exact ih.clearTimeout _

theorem moves_playNext (hd : d.Moves d') (hs : d'.loops k = some s) (written : Bool) : d.Moves (d'.playNext k s written) := by
  unfold playNext
  split
  · split
    · exact hd.setTimeout hs rfl
    · exact hd
  · split
    · exact hd.setTimeout hs rfl
    · exact hd

theorem moves_loopOnce (hd : d.Moves d') (hs : d'.loops k = some s) (written : Bool) : d.Moves (d'.loopOnce k s written) := by
  have hset : d.Moves (d'.setLoop k {s with i := 0}) := hd.setLoop hs rfl
  unfold loopOnce
  split
  · exact moves_playNext hset (setLoop_self ..) written
  · exact hd

theorem moves_replaced (hs : d.loops k = some s) (ok written : Bool) : d.Moves (d.replaced k s ok written) := by
  have hset : d.Moves (d.setLoop k {s with switching := false}) := .setLoop .refl hs rfl
  unfold replaced
  cases ok with
  | true => exact moves_loopOnce hset (setLoop_self ..) written
  | false => exact hset

theorem moves_onReceiveRtp (hs : d.loops k = some s) : d.Moves (d.onReceiveRtp k s) := by
  unfold onReceiveRtp
  split
  · exact .setLoop .refl hs rfl
  · exact .refl

theorem moves_fire {t : Timer} (hs : d.loops t.loop = some s) (written : Bool) : d.Moves (d.fire t s written) := by
  have hclear : d.Moves (d.clearTimeout t.handle) := .clearTimeout .refl
  unfold fire
  cases t.kind with
  | record =>
    show d.Moves (recorded _ _ _)
    unfold recorded
    split <;> exact hclear.setLoop hs rfl
  | loopOnce => exact moves_loopOnce hclear hs written
  | playNext => exact moves_playNext hclear hs written

end Media
end RtcPlugin.TsNode
