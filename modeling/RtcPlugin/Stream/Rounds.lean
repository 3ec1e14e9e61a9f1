import Mathlib.Data.List.Chain
import Mathlib.Data.BitVec

/-! The start of a stream, a list said over and over, and numbers that advance.

`upTo` is the start of a stream that ends with the first item of a kind. Any
prefix of `rounds n l` is `l` from its start, again and again. Numbers of `w` bits
advance, as serial numbers do, by less than half of their range: where the numbers
of a list advance, those of its rounds do exactly if they advance at the seam, from
the last one to the first (`advancing_rounds`). Over a list that spans at most half
of the range they do not (`seam_of_span`). -/
namespace RtcPlugin.Rounds

variable {α : Type}

/-- The items up to the first one that meets `p`, and that one. -/
def upTo (p : α → Bool) : List α → List α
  | [] => []
  | a :: l => if p a then [a] else a :: upTo p l

theorem upTo_of_none {p : α → Bool} {l : List α} (h : ∀ a ∈ l, p a = false) : upTo p l = l := by
  induction l with
  | nil => rfl
  | cons a l ih =>
    have ⟨ha, hl⟩ := List.forall_mem_cons.mp h
    simp [upTo, ha, ih hl]

/-- An item behind others that do not meet `p`. -/
theorem upTo_snoc_of_none {p : α → Bool} {l : List α} (h : ∀ a ∈ l, p a = false) (a : α) :
    upTo p (l ++ [a]) = l ++ [a] := by
  induction l with
  | nil => simp [upTo]
  | cons b l ih =>
    have ⟨hb, hl⟩ := List.forall_mem_cons.mp h
    simp [upTo, hb, ih hl]

/-- What follows an item that meets `p` does not matter. -/
theorem upTo_append_of_some {p : α → Bool} {l : List α} (h : ∃ a ∈ l, p a = true) (m : List α) :
    upTo p (l ++ m) = upTo p l := by
  induction l with
  | nil => simp at h
  | cons b l ih =>
    cases hb : p b with
    | true => simp [upTo, hb]
    | false =>
      obtain ⟨a, ha, hpa⟩ := h
      obtain rfl | ha := List.mem_cons.mp ha
      · rw [hb] at hpa
        cases hpa
      · simp [upTo, hb, ih ⟨a, ha, hpa⟩]

theorem upTo_congr {p q : α → Bool} {l : List α} (h : ∀ a ∈ l, p a = q a) : upTo p l = upTo q l := by
  induction l with
  | nil => rfl
  | cons a l ih =>
    have ⟨ha, hl⟩ := List.forall_mem_cons.mp h
    simp only [upTo, ha, ih hl]

theorem upTo_start (p : α → Bool) (l : List α) : upTo p l <+: l := by
  induction l with
  | nil => exact List.prefix_rfl
  | cons a l ih =>
    unfold upTo
    split
    · exact ⟨l, rfl⟩
    · exact List.prefix_cons_inj a |>.mpr ih

/-! ### Rounds -/

/-- The list, `n` times. -/
def rounds (n : Nat) (l : List α) : List α := (List.replicate n l).flatten

theorem rounds_succ (n : Nat) (l : List α) : rounds (n + 1) l = l ++ rounds n l := by
  simp [rounds, List.replicate_succ]

theorem rounds_snoc (n : Nat) (l : List α) : rounds (n + 1) l = rounds n l ++ l := by
  simp [rounds, List.replicate_succ']

theorem map_rounds {β : Type} (f : α → β) (n : Nat) (l : List α) : (rounds n l).map f = rounds n (l.map f) := by
  simp [rounds, List.map_flatten]

theorem rounds_head? (n : Nat) (l : List α) : (rounds (n + 1) l).head? = l.head? :=
  List.head?_flatten_replicate (Nat.succ_ne_zero n) l

/-- Anything written of the rounds starts as the list does. -/
theorem head?_of_prefix_rounds {n : Nat} {l m : List α} (h : m <+: rounds n l) (hne : m ≠ []) : m.head? = l.head? := by
  cases n with
  | zero => exact absurd (List.prefix_nil.mp h) hne
  | succ n =>
    obtain ⟨rest, hrest⟩ := h
    obtain ⟨a, m, rfl⟩ := List.exists_cons_of_ne_nil hne
    rw [← rounds_head? n l, ← hrest]
    rfl

/-- In the rounds of a list, the item at `i` is the list's at the remainder of `i`. -/
theorem rounds_getElem? {n i : Nat} {l : List α} (h : i < n * l.length) :
    (rounds n l)[i]? = l[i % l.length]? := by
  induction n generalizing i with
  | zero => omega
  | succ n ih =>
    rw [rounds_succ]
    by_cases hi : i < l.length
    · rw [List.getElem?_append_left hi, Nat.mod_eq_of_lt hi]
    · have hle := Nat.le_of_not_lt hi
      rw [Nat.succ_mul] at h
      rw [List.getElem?_append_right hle, ih (by omega), Nat.mod_eq_sub_mod hle]

theorem rounds_length (n : Nat) (l : List α) : (rounds n l).length = n * l.length := by
  simp [rounds]

theorem getElem?_of_prefix_rounds {n i : Nat} {l m : List α} (h : m <+: rounds n l) (hi : i < m.length) :
    m[i]? = l[i % l.length]? := by
  have hlt : i < n * l.length := by
    rw [← rounds_length]
    exact Nat.lt_of_lt_of_le hi h.length_le
  obtain ⟨rest, hrest⟩ := h
  rw [← rounds_getElem? hlt, ← hrest, List.getElem?_append_left hi]

/-! ### Serial numbers -/

/-- By less than half of the range, and not by nothing. -/
def Advances {w : Nat} (a b : BitVec w) : Prop := 0 < (b - a).toNat ∧ (b - a).toNat < 2 ^ (w - 1)

instance {w : Nat} (a b : BitVec w) : Decidable (Advances a b) := inferInstanceAs (Decidable (_ ∧ _))

abbrev Advancing {w : Nat} (l : List (BitVec w)) : Prop := l.IsChain Advances

/-- From the last number of a list to its first. -/
def Seam {w : Nat} (l : List (BitVec w)) : Prop := ∀ a ∈ l.getLast?, ∀ b ∈ l.head?, Advances a b

instance {w : Nat} (l : List (BitVec w)) : Decidable (Seam l) :=
  inferInstanceAs (Decidable (∀ a ∈ l.getLast?, ∀ b ∈ l.head?, Advances a b))

variable {w : Nat} {l : List (BitVec w)}

theorem advancing_append {l m : List (BitVec w)} : Advancing (l ++ m) ↔
    Advancing l ∧ Advancing m ∧ ∀ a ∈ l.getLast?, ∀ b ∈ m.head?, Advances a b := List.isChain_append

/-- The start of numbers that advance. -/
theorem advancing_start {l m : List (BitVec w)} (h : Advancing l) (hstart : m <+: l) : Advancing m := by
  obtain ⟨rest, rfl⟩ := hstart
  exact (advancing_append.mp h).1

theorem advancing_rounds (h : Advancing l) (hseam : Seam l) (n : Nat) : Advancing (rounds n l) := by
  induction n with
  | zero => exact .nil
  | succ n ih =>
    rw [rounds_succ, advancing_append]
    refine ⟨h, ih, fun a ha b hb => hseam a ha b ?_⟩
    cases n with
    | zero => cases hb
    | succ n => rwa [rounds_head?] at hb

/-- How far the numbers of a list go from `a` on. -/
def span (a : BitVec w) : List (BitVec w) → Nat
  | [] => 0
  | b :: l => (b - a).toNat + span b l

/-- The last number is as far from the first as the list spans. -/
theorem getLast_eq (a : BitVec w) (l : List (BitVec w)) :
    (a :: l).getLast (List.cons_ne_nil _ _) = a + BitVec.ofNat w (span a l) := by
  induction l generalizing a with
  | nil => simp [span]
  | cons b l ih =>
    rw [List.getLast_cons (List.cons_ne_nil _ _), ih, span, BitVec.ofNat_add, BitVec.ofNat_toNat, BitVec.setWidth_eq,
      ← BitVec.add_assoc, BitVec.add_comm a, BitVec.sub_add_cancel]

/-- A list that goes over at most half of the range does not advance at its seam. -/
theorem seam_of_span {a : BitVec w} {l : List (BitVec w)} (hspan : span a l ≤ 2 ^ (w - 1)) : ¬ Seam (a :: l) := by
  intro h
  obtain ⟨hpos, hlt⟩ := h _ (List.getLast?_eq_some_getLast (List.cons_ne_nil _ _)) a rfl
  rw [getLast_eq, sub_add_cancel_left, BitVec.toNat_neg, BitVec.toNat_ofNat] at hpos hlt
  cases w with
  | zero => simp [Nat.mod_one] at hpos
  | succ w =>
    rw [Nat.add_sub_cancel] at hspan hlt
    have hrange : 2 ^ (w + 1) = 2 ^ w + 2 ^ w := by rw [Nat.pow_succ, Nat.mul_two]
    rw [Nat.mod_eq_of_lt (by omega : span a l < 2 ^ (w + 1))] at hpos hlt
    by_cases hzero : span a l = 0
    · simp [hzero] at hpos
    · rw [Nat.mod_eq_of_lt (by omega)] at hlt
      omega

end RtcPlugin.Rounds
