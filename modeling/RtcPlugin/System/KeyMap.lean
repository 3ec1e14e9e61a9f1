import Mathlib.Data.List.Nodup

/-! Finite maps that remember the order in which their keys were first set.

This is the `Map` of the language runtimes: `set` on a new key appends, `set` on
a present key keeps its place, and iteration follows the order of the keys. The
entries' keys are distinct by construction, so reading a key and being an entry
are the same thing (`get?_eq_some`). -/
namespace RtcPlugin

structure KeyMap (K V : Type) where
  entries : List (K × V)
  nodup : (entries.map Prod.fst).Nodup

namespace KeyMap

variable {K V : Type}

def empty : KeyMap K V := ⟨[], List.nodup_nil⟩

def keys (m : KeyMap K V) : List K := m.entries.map Prod.fst

/-- The values in the order of their keys. -/
def values (m : KeyMap K V) : List V := m.entries.map Prod.snd

theorem ext {m m' : KeyMap K V} (h : m.entries = m'.entries) : m = m' := by
  cases m
  cases m'
  cases h
  rfl

variable [DecidableEq K]

def get? (m : KeyMap K V) (k : K) : Option V := m.entries.lookup k

/-- Replace the value of one key in place. -/
def update (k : K) (f : V → V) (l : List (K × V)) : List (K × V) :=
  l.map fun e => if e.1 = k then (e.1, f e.2) else e

theorem update_keys (k : K) (f : V → V) (l : List (K × V)) :
    (update k f l).map Prod.fst = l.map Prod.fst := by
  simp only [update, List.map_map]
  apply List.map_congr_left
  intro e _
  by_cases h : e.1 = k <;> simp [h]

/-- The value of a present key changed by `f`; nothing for an absent key. -/
def modify (m : KeyMap K V) (k : K) (f : V → V) : KeyMap K V :=
  ⟨update k f m.entries, by rw [update_keys]; exact m.nodup⟩

def set (m : KeyMap K V) (k : K) (v : V) : KeyMap K V :=
  if h : k ∈ m.keys then m.modify k fun _ => v
  else ⟨m.entries ++ [(k, v)], by
    rw [List.map_append]
    refine m.nodup.append (List.nodup_singleton _) ?_
    intro a ha ha'
    obtain rfl : a = k := by simpa using ha'
    exact h ha⟩

def delete (m : KeyMap K V) (k : K) : KeyMap K V :=
  ⟨m.entries.filter fun e => e.1 ≠ k, m.nodup.sublist (List.filter_sublist.map _)⟩

/-! ### Reading -/

theorem get?_eq_some {m : KeyMap K V} {k : K} {v : V} : m.get? k = some v ↔ (k, v) ∈ m.entries := by
  obtain ⟨l, hl⟩ := m
  show l.lookup k = some v ↔ (k, v) ∈ l
  induction l with
  | nil => simp
  | cons e rest ih =>
    obtain ⟨k', v'⟩ := e
    rw [List.map_cons, List.nodup_cons] at hl
    rw [List.lookup_cons, List.mem_cons, Prod.mk.injEq]
    by_cases hk : k = k'
    · subst hk
      have hnot : (k, v) ∉ rest := fun hm => hl.1 (List.mem_map.mpr ⟨_, hm, rfl⟩)
      simp [hnot, eq_comm]
    · have hk' : (k == k') = false := by simpa using hk
      simp [hk, hk', ih hl.2]

theorem get?_eq_none {m : KeyMap K V} {k : K} : m.get? k = none ↔ k ∉ m.keys := by
  simp only [get?, List.lookup_eq_none_iff, keys, List.mem_map, not_exists, not_and, bne_iff_ne]
  exact ⟨fun h e he hk => h e he hk.symm, fun h e he hk => h e he hk.symm⟩

theorem mem_values {m : KeyMap K V} {v : V} : v ∈ m.values ↔ ∃ k, m.get? k = some v := by
  simp only [values, get?_eq_some, List.mem_map, Prod.exists, exists_eq_right]

/-- Where no two keys share a value, no value occurs twice. -/
theorem values_nodup {m : KeyMap K V} (h : ∀ k₁ k₂ v, m.get? k₁ = some v → m.get? k₂ = some v → k₁ = k₂) :
    m.values.Nodup := by
  refine List.Nodup.map_on (fun e he e' he' heq => ?_) (List.Nodup.of_map _ m.nodup)
  have hv := get?_eq_some.mpr (show (e.1, e.2) ∈ m.entries from he)
  have hv' := get?_eq_some.mpr (show (e'.1, e'.2) ∈ m.entries from he')
  exact Prod.ext (h e.1 e'.1 e.2 hv (heq ▸ hv')) heq

@[simp] theorem get?_empty (k : K) : (empty : KeyMap K V).get? k = none := rfl

@[simp] theorem get?_modify_self (m : KeyMap K V) (k : K) (f : V → V) :
    (m.modify k f).get? k = (m.get? k).map f := by
  show (update k f m.entries).lookup k = (m.entries.lookup k).map f
  induction m.entries with
  | nil => rfl
  | cons e rest ih =>
    obtain ⟨k', v⟩ := e
    by_cases hk : k' = k
    · simp [update, hk]
    · have hk' : (k == k') = false := beq_eq_false_iff_ne.mpr (Ne.symm hk)
      simpa [update, List.lookup_cons, hk, hk'] using ih

theorem get?_modify_ne (m : KeyMap K V) {k k' : K} (f : V → V) (h : k' ≠ k) :
    (m.modify k f).get? k' = m.get? k' := by
  show (update k f m.entries).lookup k' = m.entries.lookup k'
  induction m.entries with
  | nil => rfl
  | cons e rest ih =>
    obtain ⟨k'', v⟩ := e
    unfold update at ih ⊢
    rw [List.map_cons, List.lookup_cons, List.lookup_cons, ih]
    by_cases hk : k'' = k
    · have hk' : (k' == k) = false := beq_eq_false_iff_ne.mpr h
      simp [hk, hk']
    · simp [hk]

theorem set_new {m : KeyMap K V} {k : K} (v : V) (h : m.get? k = none) :
    (m.set k v).entries = m.entries ++ [(k, v)] := by
  unfold set
  rw [dif_neg (get?_eq_none.mp h)]

@[simp] theorem get?_set_self (m : KeyMap K V) (k : K) (v : V) : (m.set k v).get? k = some v := by
  unfold set
  split
  · next h =>
    cases hg : m.get? k with
    | none => exact absurd h (get?_eq_none.mp hg)
    | some w => rw [get?_modify_self, hg, Option.map_some]
  · exact get?_eq_some.mpr (List.mem_append_right _ (List.mem_singleton_self _))

theorem get?_set_ne (m : KeyMap K V) {k k' : K} (v : V) (h : k' ≠ k) :
    (m.set k v).get? k' = m.get? k' := by
  unfold set
  split
  · exact get?_modify_ne m _ h
  · have hk : (k' == k) = false := beq_eq_false_iff_ne.mpr h
    show (m.entries ++ [(k, v)]).lookup k' = m.entries.lookup k'
    rw [List.lookup_append]
    simp [List.lookup_cons, hk]

theorem get?_set (m : KeyMap K V) (k k' : K) (v : V) :
    (m.set k v).get? k' = if k' = k then some v else m.get? k' := by
  by_cases h : k' = k
  · rw [if_pos h, h, get?_set_self]
  · rw [if_neg h, get?_set_ne m v h]

@[simp] theorem get?_delete_self (m : KeyMap K V) (k : K) : (m.delete k).get? k = none := by
  rw [get?_eq_none]
  simp [keys, delete]

theorem get?_delete_ne (m : KeyMap K V) {k k' : K} (h : k' ≠ k) : (m.delete k).get? k' = m.get? k' := by
  refine Option.ext fun v => ?_
  rw [get?_eq_some, get?_eq_some]
  simp [delete, h]

/-- What is left after a key is deleted was there before, under another key. -/
theorem get?_delete_some {m : KeyMap K V} {k k' : K} {v : V} (h : (m.delete k).get? k' = some v) :
    k' ≠ k ∧ m.get? k' = some v := by
  by_cases hk : k' = k
  · rw [hk, get?_delete_self] at h
    cases h
  · exact ⟨hk, get?_delete_ne m hk ▸ h⟩

theorem get?_delete_none {m : KeyMap K V} {k : K} (h : m.get? k = none) (k' : K) : (m.delete k').get? k = none := by
  by_contra hsome
  obtain ⟨v, hv⟩ := Option.ne_none_iff_exists'.mp hsome
  rw [(get?_delete_some hv).2] at h
  cases h

/-- What is read after a key is set was set, or was there before under another key. -/
theorem get?_set_some {m : KeyMap K V} {k k' : K} {v w : V} (h : (m.set k v).get? k' = some w) :
    k' = k ∧ w = v ∨ k' ≠ k ∧ m.get? k' = some w := by
  by_cases hk : k' = k
  · rw [hk, get?_set_self] at h
    exact .inl ⟨hk, (Option.some.inj h).symm⟩
  · rw [get?_set_ne m v hk] at h
    exact .inr ⟨hk, h⟩

/-- Deleting a present key removes an entry. -/
theorem length_delete_lt {m : KeyMap K V} {k : K} {v : V} (h : m.get? k = some v) :
    (m.delete k).entries.length < m.entries.length := by
  refine List.length_filter_lt_length_iff_exists.mpr ⟨(k, v), get?_eq_some.mp h, ?_⟩
  simp

/-- A map without entries, or one of its entries. -/
theorem empty_or_entry (m : KeyMap K V) : (∀ k, m.get? k = none) ∨ ∃ k v, m.get? k = some v := by
  by_cases h : ∀ k, m.get? k = none
  · exact .inl h
  · obtain ⟨k, hk⟩ := not_forall.mp h
    obtain ⟨v, hv⟩ := Option.ne_none_iff_exists'.mp hk
    exact .inr ⟨k, v, hv⟩

/-- A key keeps its place, and a new one is the last. -/
theorem keys_set (m : KeyMap K V) (k : K) (v : V) :
    (m.set k v).keys = if k ∈ m.keys then m.keys else m.keys ++ [k] := by
  by_cases h : k ∈ m.keys
  · rw [set, dif_pos h, if_pos h]
    exact update_keys k (fun _ => v) m.entries
  · rw [set, dif_neg h, if_neg h]
    simp [keys]

theorem values_eq (m : KeyMap K V) : m.values = m.keys.filterMap m.get? := by
  rw [keys, List.filterMap_map, values, ← List.filterMap_eq_map]
  refine List.filterMap_congr fun e he => ?_
  have hget : m.get? e.1 = some e.2 := get?_eq_some.mpr he
  exact hget.symm

/-! ### Counting values -/

theorem countP_values_new {m : KeyMap K V} {k : K} {v : V} (p : V → Bool) (h : m.get? k = none) :
    (m.set k v).values.countP p = m.values.countP p + if p v then 1 else 0 := by
  rw [values, set_new v h, List.map_append, List.countP_append, List.map_singleton,
    List.countP_singleton]
  rfl

/-- Changing one value moves the count by that value alone. -/
theorem countP_values_modify {m : KeyMap K V} {k : K} {v : V} (p : V → Bool) (f : V → V)
    (h : m.get? k = some v) :
    (m.modify k f).values.countP p + (if p v then 1 else 0) =
      m.values.countP p + if p (f v) then 1 else 0 := by
  obtain ⟨l, hl⟩ := m
  replace h : l.lookup k = some v := h
  show ((update k f l).map Prod.snd).countP p + _ = (l.map Prod.snd).countP p + _
  induction l with
  | nil => exact absurd h (by simp)
  | cons e rest ih =>
    obtain ⟨k', v'⟩ := e
    rw [List.map_cons, List.nodup_cons] at hl
    by_cases hk : k' = k
    · subst hk
      have hv : v' = v := by simpa using h
      subst hv
      have hrest : update k' f rest = rest := by
        unfold update
        rw [List.map_congr_left (g := id), List.map_id]
        intro e he
        have hne : e.1 ≠ k' := fun h' => hl.1 (List.mem_map.mpr ⟨e, he, h'⟩)
        rw [if_neg hne, id]
      have hcons : update k' f ((k', v') :: rest) = (k', f v') :: update k' f rest := by
        simp [update]
      rw [hcons, hrest]
      simp only [List.map_cons, List.countP_cons]
      omega
    · have hk' : (k == k') = false := beq_eq_false_iff_ne.mpr (Ne.symm hk)
      rw [List.lookup_cons, hk'] at h
      have := ih hl.2 h
      have hcons : update k f ((k', v') :: rest) = (k', v') :: update k f rest := by
        simp [update, hk]
      rw [hcons]
      simp only [List.map_cons, List.countP_cons]
      omega

end KeyMap
end RtcPlugin
