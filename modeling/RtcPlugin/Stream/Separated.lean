import Mathlib.Data.List.Basic

/-! Fields put together with a separator and no escape.

A field without the separator is read off either end of the text. One field that may
hold the separator is read last, as what is left between the others. -/
namespace RtcPlugin

variable {α : Type} {sep : α} {a a' b b' : List α}

/-- The first field is what stands before the first separator. -/
theorem field_left (ha : sep ∉ a) (ha' : sep ∉ a') (h : a ++ sep :: b = a' ++ sep :: b') : a = a' ∧ b = b' := by
  induction a generalizing a' with
  | nil =>
    cases a' with
    | nil =>
      cases h
      exact ⟨rfl, rfl⟩
    | cons x xs =>
      injection h with hx _
      exact absurd (hx ▸ List.mem_cons_self ..) ha'
  | cons y ys ih =>
    cases a' with
    | nil =>
      injection h with hy _
      exact absurd (hy ▸ List.mem_cons_self ..) ha
    | cons x xs =>
      injection h with hxy htail
      obtain ⟨rfl, rfl⟩ := ih (fun hm => ha (List.mem_cons_of_mem _ hm)) (fun hm => ha' (List.mem_cons_of_mem _ hm)) htail
      exact ⟨hxy ▸ rfl, rfl⟩

/-- The last field is what stands behind the last separator. -/
theorem field_right (hb : sep ∉ b) (hb' : sep ∉ b') (h : a ++ sep :: b = a' ++ sep :: b') : a = a' ∧ b = b' := by
  have hrev := congrArg List.reverse h
  simp only [List.reverse_append, List.reverse_cons, List.append_assoc, List.singleton_append] at hrev
  obtain ⟨hlast, hrest⟩ := field_left (by rwa [List.mem_reverse]) (by rwa [List.mem_reverse]) hrev
  exact ⟨List.reverse_inj.mp hrest, List.reverse_inj.mp hlast⟩

/-- What stands between separators, and before the first and behind the last one. -/
def split [DecidableEq α] (sep : α) : List α → List (List α)
  | [] => [[]]
  | x :: rest =>
    if x = sep then [] :: split sep rest
    else match split sep rest with
      | [] => [[x]]
      | piece :: pieces => (x :: piece) :: pieces

section
variable [DecidableEq α]

theorem split_cons_sep (l : List α) : split sep (sep :: l) = [] :: split sep l := if_pos rfl

theorem split_of_not_mem (h : sep ∉ a) : split sep a = [a] := by
  induction a with
  | nil => rfl
  | cons x a ih =>
    rw [List.mem_cons, not_or] at h
    rw [split, if_neg (Ne.symm h.1), ih h.2]

/-- The text before a separator is split apart from the text behind it. -/
theorem split_append (a b : List α) : split sep (a ++ sep :: b) = split sep a ++ split sep b := by
  induction a with
  | nil => exact split_cons_sep b
  | cons x a ih =>
    rw [List.cons_append, split, split, ih]
    split
    · rfl
    · cases hsplit : split sep a with
      | nil =>
        -- nothing splits into no piece
        cases a with
        | nil => cases hsplit
        | cons y a =>
          rw [split] at hsplit
          split at hsplit
          · cases hsplit
          · split at hsplit <;> cases hsplit
      | cons piece pieces => rfl

theorem not_mem_of_mem_split {l piece : List α} (h : piece ∈ split sep l) : sep ∉ piece := by
  induction l generalizing piece with
  | nil =>
    rw [List.mem_singleton.mp h]
    exact List.not_mem_nil
  | cons x l ih =>
    rw [split] at h
    split at h
    · obtain rfl | h := List.mem_cons.mp h
      · exact List.not_mem_nil
      · exact ih h
    · next hx =>
      split at h
      · rw [List.mem_singleton.mp h]
        exact fun hm => hx (List.mem_singleton.mp hm).symm
      · next first pieces hsplit =>
        obtain rfl | h := List.mem_cons.mp h
        · intro hm
          obtain heq | hm := List.mem_cons.mp hm
          · exact hx heq.symm
          · exact ih (hsplit ▸ List.mem_cons_self ..) hm
        · exact ih (hsplit ▸ List.mem_cons_of_mem _ h)

end

end RtcPlugin
