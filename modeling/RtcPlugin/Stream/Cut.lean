import Mathlib.Data.List.Basic

/-! A list cut into pieces of one size, and a rest too short for another piece.

There is one way to cut a list (`Cut.unique`), and cutting goes on where it
stopped: a cut of the rest with more behind it continues the cut of the whole
(`Cut.append`). So two programs that cut the same list, in whatever steps, agree. -/
namespace RtcPlugin

variable {α : Type}

structure Cut (n : Nat) (l : List α) (pieces : List (List α)) (rest : List α) : Prop where
  whole : pieces.flatten ++ rest = l
  sizes : ∀ p ∈ pieces, p.length = n
  short : rest.length < n

namespace Cut

variable {n : Nat} {l d rest rest' : List α} {pieces pieces' : List (List α)}

theorem nil (h : l.length < n) : Cut n l [] l := ⟨rfl, List.forall_mem_nil _, h⟩

/-- The first piece is the first `n` elements. -/
theorem cons (hn : n ≤ l.length) (h : Cut n (l.drop n) pieces rest) : Cut n l (l.take n :: pieces) rest := by
  refine ⟨?_, ?_, h.short⟩
  · rw [List.flatten_cons, List.append_assoc, h.whole, List.take_append_drop]
  · intro p hp
    rcases List.mem_cons.mp hp with rfl | hp
    · exact List.length_take_of_le hn
    · exact h.sizes p hp

/-- Where the rest with `d` behind it is cut, so is the whole with `d` behind it. -/
theorem append (h : Cut n l pieces rest) (h' : Cut n (rest ++ d) pieces' rest') :
    Cut n (l ++ d) (pieces ++ pieces') rest' := by
  refine ⟨?_, ?_, h'.short⟩
  · rw [List.flatten_append, List.append_assoc, h'.whole, ← List.append_assoc, h.whole]
  · intro p hp
    rcases List.mem_append.mp hp with hp | hp
    · exact h.sizes p hp
    · exact h'.sizes p hp

theorem unique (h : Cut n l pieces rest) (h' : Cut n l pieces' rest') : pieces = pieces' ∧ rest = rest' := by
  obtain ⟨hw, hs, hr⟩ := h
  induction pieces generalizing l pieces' with
  | nil =>
    cases pieces' with
    | nil => exact ⟨rfl, hw.trans h'.whole.symm⟩
    | cons p ps =>
      -- a piece does not fit into a list as short as the rest
      have hlen := congrArg List.length (hw.trans h'.whole.symm)
      have hp := h'.sizes p (List.mem_cons_self ..)
      simp only [List.flatten_nil, List.nil_append, List.flatten_cons, List.length_append] at hlen
      omega
  | cons p ps ih =>
    have hp := hs p (List.mem_cons_self ..)
    cases pieces' with
    | nil =>
      have hlen := congrArg List.length (hw.trans h'.whole.symm)
      have hshort := h'.short
      simp only [List.flatten_nil, List.nil_append, List.flatten_cons, List.length_append] at hlen
      omega
    | cons q qs =>
      have hq := h'.sizes q (List.mem_cons_self ..)
      have heq := hw.trans h'.whole.symm
      rw [List.flatten_cons, List.flatten_cons, List.append_assoc, List.append_assoc] at heq
      obtain ⟨rfl, htail⟩ := List.append_inj heq (hp.trans hq.symm)
      have hqs : Cut n (ps.flatten ++ rest) qs rest' :=
        ⟨htail.symm, fun r hr => h'.sizes r (List.mem_cons_of_mem _ hr), h'.short⟩
      obtain ⟨rfl, rfl⟩ := ih hqs rfl fun r hr => hs r (List.mem_cons_of_mem _ hr)
      exact ⟨rfl, rfl⟩

end Cut
end RtcPlugin
