/-
# `DeliveryTracking.Geo.RealMath` — the geometry over the real numbers

The functions of `Math` without rounding.  Along a meridian the great-circle
distance is the length of the arc (`haversineDistance_meridian`).
-/
import Mathlib.Analysis.SpecialFunctions.Complex.Arg
import DeliveryTracking.Geo.Math

namespace DeliveryTracking.Geo

noncomputable instance : JsMath ℝ where
  pi := Real.pi
  sqrt2 := √2
  sin := Real.sin
  cos := Real.cos
  sqrt := Real.sqrt
  atan2 y x := Complex.arg ⟨x, y⟩
  hypot x y := √(x ^ 2 + y ^ 2)
  round x := ⌊x + 1 / 2⌋

theorem haversineDistance_nonneg (lat₁ lon₁ lat₂ lon₂ : ℝ) :
    0 ≤ haversineDistance lat₁ lon₁ lat₂ lon₂ := by
  rw [haversineDistance]
  exact mul_nonneg (by norm_num) (Complex.arg_nonneg_iff.mpr (Real.sqrt_nonneg _))

/-- Metres along the meridian from the equator to a point of the northern hemisphere. -/
theorem haversineDistance_meridian {lat : ℝ} (h₀ : 0 ≤ lat) (h₉₀ : lat ≤ 90) :
    haversineDistance 0 0 lat 0 = 6371000 * toRad lat := by
  have hrad : (toRad lat : ℝ) = lat * Real.pi / 180 := rfl
  have hpi := Real.pi_pos
  have hnonneg : 0 ≤ toRad lat / 2 := by
    rw [hrad]
    positivity
  have hle : toRad lat / 2 ≤ Real.pi / 2 := by
    rw [hrad]
    nlinarith
  have hsin : 0 ≤ Real.sin (toRad lat / 2) :=
    Real.sin_nonneg_of_nonneg_of_le_pi hnonneg (hle.trans (by linarith))
  have hcos : 0 ≤ Real.cos (toRad lat / 2) :=
    Real.cos_nonneg_of_neg_pi_div_two_le_of_le (by linarith) hle
  have ha : Real.sin (toRad (lat - 0) / 2) ^ 2 + Real.cos (toRad 0) * Real.cos (toRad lat) *
      Real.sin (toRad (0 - 0) / 2) ^ 2 = Real.sin (toRad lat / 2) ^ 2 := by
    simp [toRad]
  have harg : Complex.arg ⟨Real.cos (toRad lat / 2), Real.sin (toRad lat / 2)⟩ = toRad lat / 2 := by
    have hpoint : (⟨Real.cos (toRad lat / 2), Real.sin (toRad lat / 2)⟩ : ℂ) =
        Complex.cos (toRad lat / 2 : ℝ) + Complex.sin (toRad lat / 2 : ℝ) * Complex.I := by
      rw [← Complex.ofReal_cos, ← Complex.ofReal_sin, ← Complex.mk_eq_add_mul_I]
    rw [hpoint, Complex.arg_cos_add_sin_mul_I ⟨by linarith, by linarith⟩]
  have hdistance : haversineDistance 0 0 lat 0 = 6371000 * 2 *
      Complex.arg ⟨√(1 - Real.sin (toRad lat / 2) ^ 2), √(Real.sin (toRad lat / 2) ^ 2)⟩ := by
    rw [← ha]
    rfl
  rw [hdistance, Real.sqrt_sq hsin, ← Real.cos_sq', Real.sqrt_sq hcos, harg]
  ring

end DeliveryTracking.Geo
