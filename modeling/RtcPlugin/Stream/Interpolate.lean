import Mathlib.Algebra.Order.Floor.Ring
import Mathlib.Tactic.Linarith
import Mathlib.Tactic.Ring

/-! Linear interpolation between integers, rounded half up.

Rounding is monotone and fixes integers, so a rounded point between two integers
stays between them. -/
namespace RtcPlugin

variable {K : Type} [Field K] [LinearOrder K] [IsStrictOrderedRing K] [FloorRing K]

def lerp (a b t : K) : K := a + t * (b - a)

def roundHalfUp (x : K) : ℤ := ⌊x + 1 / 2⌋

omit [LinearOrder K] [IsStrictOrderedRing K] [FloorRing K] in
theorem lerp_zero (a b : K) : lerp a b 0 = a := by
  unfold lerp
  ring

omit [FloorRing K] in
theorem lerp_mem {a b t : K} (h₀ : 0 ≤ t) (h₁ : t ≤ 1) : min a b ≤ lerp a b t ∧ lerp a b t ≤ max a b := by
  unfold lerp
  rcases le_total a b with h | h
  · have hup : t * (b - a) ≤ 1 * (b - a) := mul_le_mul_of_nonneg_right h₁ (sub_nonneg.mpr h)
    have hdown : 0 ≤ t * (b - a) := mul_nonneg h₀ (sub_nonneg.mpr h)
    rw [min_eq_left h, max_eq_right h]
    constructor <;> linarith
  · have hup : 1 * (b - a) ≤ t * (b - a) := mul_le_mul_of_nonpos_right h₁ (sub_nonpos.mpr h)
    have hdown : t * (b - a) ≤ 0 := mul_nonpos_of_nonneg_of_nonpos h₀ (sub_nonpos.mpr h)
    rw [min_eq_right h, max_eq_left h]
    constructor <;> linarith

theorem roundHalfUp_intCast (a : ℤ) : roundHalfUp (a : K) = a := by
  unfold roundHalfUp
  rw [Int.floor_intCast_add, Int.floor_eq_zero_iff.mpr ⟨by linarith, by linarith⟩, add_zero]

theorem roundHalfUp_mono {x y : K} (h : x ≤ y) : roundHalfUp x ≤ roundHalfUp y := by
  apply Int.floor_le_floor
  linarith

/-- A rounded point between two integers is between them. -/
theorem roundHalfUp_lerp_mem (a b : ℤ) {t : K} (h₀ : 0 ≤ t) (h₁ : t ≤ 1) :
    min a b ≤ roundHalfUp (lerp (a : K) b t) ∧ roundHalfUp (lerp (a : K) b t) ≤ max a b := by
  obtain ⟨hlow, hhigh⟩ := lerp_mem (a := (a : K)) (b := b) h₀ h₁
  constructor
  · calc min a b = roundHalfUp ((min a b : ℤ) : K) := (roundHalfUp_intCast _).symm
      _ ≤ _ := roundHalfUp_mono (by rw [Int.cast_min]; exact hlow)
  · calc _ ≤ roundHalfUp ((max a b : ℤ) : K) := roundHalfUp_mono (by rw [Int.cast_max]; exact hhigh)
      _ = max a b := roundHalfUp_intCast _

/-- Half way, an odd sum is rounded up. -/
theorem roundHalfUp_lerp_half (a b : ℤ) : roundHalfUp (lerp (a : K) b (1 / 2)) = (a + b + 1) / 2 := by
  have hhalf : lerp (a : K) b (1 / 2) + 1 / 2 = ((a + b + 1 : ℤ) : K) / (2 : ℕ) := by
    unfold lerp
    push_cast
    ring
  unfold roundHalfUp
  rw [hhalf, Int.floor_div_natCast, Int.floor_intCast]
  rfl

end RtcPlugin
