import Mathlib.Logic.Function.Basic

/-! Partial functions changed at one point.

A component that numbers what it makes keeps it in a function into `Option`. What such a
function has after a change is what was put there, or was there before. -/
namespace RtcPlugin

variable {K V : Type} [DecidableEq K] {f : K → Option V} {k k' : K} {w : V}

theorem update_some {v : Option V} (h : Function.update f k v k' = some w) :
    k' = k ∧ v = some w ∨ k' ≠ k ∧ f k' = some w := by
  by_cases hk : k' = k
  · rw [hk, Function.update_self] at h
    exact .inl ⟨hk, h⟩
  · rw [Function.update_of_ne hk] at h
    exact .inr ⟨hk, h⟩

/-- The same where something is put there. -/
theorem update_put {v : V} (h : Function.update f k (some v) k' = some w) : k' = k ∧ w = v ∨ k' ≠ k ∧ f k' = some w := by
  obtain ⟨hk, hv⟩ | hold := update_some h
  · exact .inl ⟨hk, (Option.some.inj hv).symm⟩
  · exact .inr hold

/-- Nothing is left of what was removed. -/
theorem update_drop (h : Function.update f k none k' = some w) : k' ≠ k ∧ f k' = some w := by
  obtain ⟨-, hv⟩ | hold := update_some h
  · cases hv
  · exact hold

/-- What was there stays, where the change is somewhere new. -/
theorem update_fresh (hfresh : f k = none) (h : f k' = some w) (v : Option V) : Function.update f k v k' = some w := by
  have hne : k' ≠ k := by
    rintro rfl
    rw [hfresh] at h
    cases h
  rw [Function.update_of_ne hne, h]

end RtcPlugin
