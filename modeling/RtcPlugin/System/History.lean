import Mathlib.Data.List.Nodup

/-! Histories that grow at their end.

What happened in an order is a sublist of the history. What a kind of event speaks
of is a partial function of the event; that it never speaks of the same thing twice
is kept if the new event speaks of something new. -/
namespace RtcPlugin

variable {α β : Type} {h pre : List α} {a b : α}

/-- Something is in order after one more event if it was, or if that event ends it. -/
theorem sublist_snoc : (pre ++ [a]).Sublist (h ++ [b]) ↔ (pre ++ [a]).Sublist h ∨ a = b ∧ pre.Sublist h := by
  rw [← List.reverse_sublist, ← @List.reverse_sublist _ (pre ++ [a]) h, ← @List.reverse_sublist _ pre h]
  simp only [List.reverse_append, List.reverse_singleton, List.singleton_append]
  exact List.cons_sublist_cons'

theorem sublist_snoc_self (hpre : pre.Sublist h) (a : α) : (pre ++ [a]).Sublist (h ++ [a]) :=
  sublist_snoc.mpr (.inr ⟨rfl, hpre⟩)

theorem sublist_mono (hpre : pre.Sublist h) (a : α) : pre.Sublist (h ++ [a]) :=
  hpre.trans (List.sublist_append_left _ _)

theorem mem_snoc : a ∈ h ++ [b] ↔ a ∈ h ∨ a = b := by
  rw [List.mem_append, List.mem_singleton]

variable {f : α → Option β}

theorem filterMap_snoc_none (ha : f a = none) : (h ++ [a]).filterMap f = h.filterMap f := by
  rw [List.filterMap_append, List.filterMap_cons_none ha, List.filterMap_nil, List.append_nil]

theorem filterMap_snoc_some {x : β} (ha : f a = some x) : (h ++ [a]).filterMap f = h.filterMap f ++ [x] := by
  rw [List.filterMap_append, List.filterMap_cons_some ha, List.filterMap_nil]

theorem nodup_snoc {l : List β} {x : β} (hl : l.Nodup) (hx : x ∉ l) : (l ++ [x]).Nodup :=
  List.concat_eq_append ▸ hl.concat hx

/-- The new event speaks of nothing that an earlier one spoke of. -/
theorem nodup_filterMap_snoc (hnodup : (h.filterMap f).Nodup) (hnew : ∀ x, f a = some x → x ∉ h.filterMap f) :
    ((h ++ [a]).filterMap f).Nodup := by
  cases ha : f a with
  | none =>
    rw [filterMap_snoc_none ha]
    exact hnodup
  | some x =>
    rw [filterMap_snoc_some ha]
    exact nodup_snoc hnodup (hnew x ha)

/-- Where a step sets a field or leaves it, the field is what was set last. -/
theorem foldl_last {S : Type} (step : S → α → S) (get : S → β) (set : α → Option β)
    (hstep : ∀ s a, get (step s a) = (set a).getD (get s)) (h : List α) (s : S) :
    get (h.foldl step s) = (h.filterMap set).getLast?.getD (get s) := by
  induction h generalizing s with
  | nil => rfl
  | cons a h ih =>
    rw [List.foldl_cons, ih, hstep]
    cases ha : set a with
    | none => rw [List.filterMap_cons_none ha, Option.getD_none]
    | some b => rw [List.filterMap_cons_some ha, List.getLast?_cons, Option.getD_some, Option.getD_some]

end RtcPlugin
