import Mathlib.Data.List.Perm.Subperm
import Mathlib.Data.List.Perm.Basic

/-! Jobs that arrive in an order and are taken in another.

What arrived is, in whatever order, what was taken and what waits (`Tallied`). It stays so
when jobs arrive and when one that waits is taken (`Tallied.arrive`, `Tallied.take`), so
none is taken twice and none is lost. -/
namespace RtcPlugin

variable {α β : Type} {arrived taken waiting : List α}

/-- Every job that arrived was taken or waits, once as often as it arrived. -/
def Tallied (arrived taken waiting : List α) : Prop := arrived.Perm (taken ++ waiting)

theorem Tallied.nil : Tallied ([] : List α) [] [] := List.Perm.nil

theorem Tallied.arrive (h : Tallied arrived taken waiting) (jobs : List α) :
    Tallied (arrived ++ jobs) taken (waiting ++ jobs) := by
  unfold Tallied
  rw [← List.append_assoc]
  exact h.append_right jobs

theorem Tallied.take (h : Tallied arrived taken waiting) {k : Nat} {job : α} (hk : waiting[k]? = some job) :
    Tallied arrived (taken ++ [job]) (waiting.eraseIdx k) := by
  obtain ⟨hlt, rfl⟩ := List.getElem?_eq_some_iff.mp hk
  have hperm : waiting.Perm (waiting[k] :: waiting.eraseIdx k) := (List.getElem_cons_eraseIdx_perm hlt).symm
  unfold Tallied
  rw [List.append_assoc]
  exact h.trans (hperm.append_left taken)

/-- A kind of job is accounted for by itself. -/
theorem Tallied.filterMap (h : Tallied arrived taken waiting) (f : α → Option β) :
    Tallied (arrived.filterMap f) (taken.filterMap f) (waiting.filterMap f) := by
  have hperm := List.Perm.filterMap f h
  rwa [List.filterMap_append] at hperm

theorem Tallied.taken_subperm (h : Tallied arrived taken waiting) : taken.Subperm arrived :=
  (List.sublist_append_left taken waiting).subperm.trans h.symm.subperm

/-- What arrives once is taken at most once. -/
theorem Tallied.taken_nodup (h : Tallied arrived taken waiting) (f : α → β) (hnodup : (arrived.map f).Nodup) :
    (taken.map f).Nodup := by
  have hperm := (h.map f).nodup_iff.mp hnodup
  rw [List.map_append] at hperm
  exact (List.nodup_append.mp hperm).1

end RtcPlugin
