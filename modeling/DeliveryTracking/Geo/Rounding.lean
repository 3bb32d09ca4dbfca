/-
# `DeliveryTracking.Geo.Rounding` — what `Math.round` does

Figures shown to a user are rounded at the end of a computation.  Rounding
moves no figure past another one (`RoundsHalfUp.round_mono`) and past no whole
number (`le_round`, `round_le`).
-/
import DeliveryTracking.Geo.RealMath

namespace DeliveryTracking.Geo

variable {R : Type} [Field R] [LinearOrder R]

/-- The arithmetic rounds to a nearest whole number, halves up. -/
class RoundsHalfUp (R : Type) [Field R] [LinearOrder R] [FloorRing R] [JsMath R] : Prop where
  round_eq : ∀ x : R, JsMath.round x = (⌊x + 1 / 2⌋ : R)

instance : RoundsHalfUp ℚ := ⟨fun _ => rfl⟩

noncomputable instance : RoundsHalfUp ℝ := ⟨fun _ => rfl⟩

namespace RoundsHalfUp

variable [FloorRing R] [JsMath R] [RoundsHalfUp R] [IsStrictOrderedRing R] {x y : R}

theorem round_mono (h : x ≤ y) : (JsMath.round x : R) ≤ JsMath.round y := by
  rw [round_eq, round_eq]
  exact Int.cast_le.mpr (Int.floor_le_floor (by linarith))

theorem round_intCast (n : Int) : (JsMath.round (n : R) : R) = n := by
  have hfloor : ⌊(n : R) + 1 / 2⌋ = n := by
    rw [Int.floor_eq_iff]
    constructor <;> linarith
  rw [round_eq, hfloor]

theorem le_round (n : Int) (h : (n : R) ≤ x) : (n : R) ≤ JsMath.round x := by
  have hround := round_mono h
  rwa [round_intCast] at hround

theorem round_le (n : Int) (h : x ≤ n) : (JsMath.round x : R) ≤ n := by
  have hround := round_mono h
  rwa [round_intCast] at hround

end RoundsHalfUp

end DeliveryTracking.Geo
