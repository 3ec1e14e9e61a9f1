import RtcPlugin.System.KeyMap

/-! Promises that wait under a key, and the log of how they were settled.

A promise is settled by taking its key out of the map; a flush settles all that wait.
Under a key that was never added twice at most one settlement is logged, whatever the
operations (`Stands`). -/
namespace RtcPlugin

structure Promises (K V O : Type) where
  pending : KeyMap K V
  settled : List (K × O)

/-- Where a promise stands. -/
inductive Standing (O : Type) where
  | unissued
  | waiting
  | settled (o : O)

/-- Settled by `o`, if it waits. -/
def Standing.next {O : Type} (st : Standing O) (o : Option O) : Standing O :=
  match st, o with
  | .waiting, some o => .settled o
  | st, _ => st

namespace Promises

variable {K V O : Type} [DecidableEq K] {p : Promises K V O} {k k' : K} {o : O} {st : Standing O}

def add (p : Promises K V O) (k : K) (v : V) : Promises K V O := {p with pending := p.pending.set k v}

/-- Nothing where no promise waits. -/
def settle (p : Promises K V O) (k : K) (o : O) : Promises K V O :=
  match p.pending.get? k with
  | some _ => ⟨p.pending.delete k, p.settled ++ [(k, o)]⟩
  | none => p

def flush (p : Promises K V O) (o : O) : Promises K V O :=
  ⟨.empty, p.settled ++ p.pending.entries.map fun entry => (entry.1, o)⟩

/-- How the promise of a key was settled, as often as it was. -/
def outcomes (p : Promises K V O) (k : K) : List O := p.settled.filterMap fun e => if e.1 = k then some e.2 else none

def Stands (p : Promises K V O) (k : K) : Standing O → Prop
  | .unissued => p.pending.get? k = none ∧ p.outcomes k = []
  | .waiting => (∃ v, p.pending.get? k = some v) ∧ p.outcomes k = []
  | .settled o => p.pending.get? k = none ∧ p.outcomes k = [o]

theorem outcomes_append (a b : List (K × O)) (m : KeyMap K V) (k : K) :
    (⟨m, a ++ b⟩ : Promises K V O).outcomes k = (⟨m, a⟩ : Promises K V O).outcomes k ++ (⟨m, b⟩ : Promises K V O).outcomes k :=
  List.filterMap_append

theorem stands_add_self (h : Stands p k .unissued) (v : V) : Stands (p.add k v) k .waiting :=
  ⟨⟨v, KeyMap.get?_set_self ..⟩, h.2⟩

theorem stands_add_ne (h : Stands p k st) (hk : k ≠ k') (v : V) : Stands (p.add k' v) k st := by
  have hget : (p.add k' v).pending.get? k = p.pending.get? k := KeyMap.get?_set_ne _ _ hk
  cases st with
  | unissued => exact ⟨hget.trans h.1, h.2⟩
  | waiting => exact ⟨hget ▸ h.1, h.2⟩
  | settled o => exact ⟨hget.trans h.1, h.2⟩

theorem settle_none (h : p.pending.get? k = none) (o : O) : p.settle k o = p := by
  unfold settle
  rw [h]

theorem stands_settle_self (h : Stands p k st) (o : O) : Stands (p.settle k o) k (st.next (some o)) := by
  unfold settle
  cases st with
  | unissued =>
    rw [h.1]
    exact h
  | waiting =>
    obtain ⟨⟨v, hv⟩, hout⟩ := h
    rw [hv]
    refine ⟨KeyMap.get?_delete_self .., ?_⟩
    rw [outcomes_append]
    show p.outcomes k ++ _ = _
    rw [hout]
    simp [outcomes]
  | settled o' =>
    rw [h.1]
    exact h

theorem stands_settle_ne (h : Stands p k st) (hk : k ≠ k') (o : O) : Stands (p.settle k' o) k st := by
  unfold settle
  split
  · have hget : (p.pending.delete k').get? k = p.pending.get? k := KeyMap.get?_delete_ne _ hk
    have hout : (⟨p.pending.delete k', p.settled ++ [(k', o)]⟩ : Promises K V O).outcomes k = p.outcomes k := by
      rw [outcomes_append]
      simp [outcomes, Ne.symm hk]
    cases st with
    | unissued => exact ⟨hget.trans h.1, hout.trans h.2⟩
    | waiting => exact ⟨hget ▸ h.1, hout.trans h.2⟩
    | settled o' => exact ⟨hget.trans h.1, hout.trans h.2⟩
  · exact h

/-- What a flush logs under a key. -/
theorem outcomes_flush (p : Promises K V O) (k : K) (o : O) :
    (p.flush o).outcomes k = p.outcomes k ++ ((p.pending.get? k).map fun _ => o).toList := by
  have hmap : ∀ l : List (K × V), (l.map Prod.fst).Nodup →
      (l.map fun entry => (entry.1, o)).filterMap (fun e => if e.1 = k then some e.2 else none) =
        ((l.lookup k).map fun _ => o).toList := by
    intro l hl
    induction l with
    | nil => rfl
    | cons entry rest ih =>
      obtain ⟨k', v⟩ := entry
      rw [List.map_cons, List.nodup_cons] at hl
      by_cases hk : k' = k
      · -- the key occurs nowhere else
        have hrest : rest.lookup k = none := by
          rw [List.lookup_eq_none_iff]
          intro e he
          have hne : e.1 ≠ k' := fun heq => hl.1 (List.mem_map.mpr ⟨e, he, heq⟩)
          simpa [hk] using fun heq : k = e.1 => hne (heq ▸ hk.symm)
        rw [List.map_cons, List.filterMap_cons_some (by rw [if_pos hk]), ih hl.2, hrest, hk]
        simp
      · have hk' : (k == k') = false := beq_eq_false_iff_ne.mpr (Ne.symm hk)
        rw [List.map_cons, List.filterMap_cons_none (by rw [if_neg hk]), ih hl.2, List.lookup_cons, hk']
  unfold flush
  rw [outcomes_append]
  congr 1
  exact hmap _ p.pending.nodup

theorem stands_flush (h : Stands p k st) (o : O) : Stands (p.flush o) k (st.next (some o)) := by
  have hout := outcomes_flush p k o
  have hget : (p.flush o).pending.get? k = none := rfl
  cases st with
  | unissued =>
    rw [h.1, h.2] at hout
    exact ⟨hget, hout⟩
  | waiting =>
    obtain ⟨⟨v, hv⟩, hnone⟩ := h
    rw [hv, hnone] at hout
    exact ⟨hget, hout⟩
  | settled o' =>
    rw [h.1, h.2] at hout
    exact ⟨hget, hout⟩

/-- A promise that was issued waits exactly while nothing is logged for it. -/
theorem Stands.waiting_iff (h : Stands p k st) (hst : st ≠ .unissued) :
    (∃ v, p.pending.get? k = some v) ↔ p.outcomes k = [] := by
  cases st with
  | unissued => exact absurd rfl hst
  | waiting => exact ⟨fun _ => h.2, fun _ => h.1⟩
  | settled o =>
    obtain ⟨hnone, hout⟩ := h
    rw [hnone, hout]
    simp

end Promises
end RtcPlugin
