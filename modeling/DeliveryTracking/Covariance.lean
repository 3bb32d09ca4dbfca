/-
# `DeliveryTracking.Covariance` — the covariance of a position and its velocity

One coordinate that moves at a nearly constant velocity, over an ordered field:

    pos     the variance of the position
    vel     the variance of the velocity
    cross   their covariance

A `Covariance` is positive semidefinite by construction.  The three operations of a
filter keep it so, and that is what their definitions prove:

    advance     time passes:  (x, v) becomes (x + dt v, v)
    add         independent noise is added, such as `whiteNoise`
    observe     the position is measured with a variance `r > 0`

A measurement moves the position by `gain`, a fraction between 0 and 1 of the way.

Nothing below names the repository.
-/
import DeliveryTracking.Numerals
import Mathlib.Algebra.Order.Field.Basic
import Mathlib.Order.Interval.Set.UnorderedInterval
import Mathlib.Tactic.FieldSimp
import Mathlib.Tactic.Linarith
import Mathlib.Tactic.Ring

namespace DeliveryTracking

/-- A positive semidefinite matrix `[[pos, cross], [cross, vel]]`. -/
@[ext]
structure Covariance (R : Type*) [Field R] [LinearOrder R] where
  pos : R
  cross : R
  vel : R
  pos_nonneg : 0 ≤ pos
  vel_nonneg : 0 ≤ vel
  det_nonneg : cross * cross ≤ pos * vel

namespace Covariance

variable {R : Type*} [Field R] [LinearOrder R] [IsStrictOrderedRing R]

/-- The quadratic form of the matrix. -/
def form (c : Covariance R) (x v : R) : R := c.pos * x * x + 2 * (c.cross * x * v) + c.vel * v * v

/-- The variance of every linear combination is nonnegative: `pos` times it is a square plus a
multiple of the determinant. -/
theorem form_nonneg (c : Covariance R) (x v : R) : 0 ≤ c.form x v := by
  unfold form
  rcases c.pos_nonneg.eq_or_lt with hzero | hpos
  · have hcross : c.cross * c.cross ≤ 0 := by
      have hdet := c.det_nonneg
      rwa [← hzero, zero_mul] at hdet
    have hcross : c.cross = 0 := mul_self_eq_zero.mp (le_antisymm hcross (mul_self_nonneg _))
    rw [← hzero, hcross]
    have hvel : 0 ≤ c.vel * (v * v) := mul_nonneg c.vel_nonneg (mul_self_nonneg v)
    linarith
  · refine nonneg_of_mul_nonneg_right ?_ hpos
    have hdet : 0 ≤ (c.pos * c.vel - c.cross * c.cross) * (v * v) :=
      mul_nonneg (sub_nonneg.mpr c.det_nonneg) (mul_self_nonneg v)
    calc 0 ≤ (c.pos * x + c.cross * v) * (c.pos * x + c.cross * v) +
          (c.pos * c.vel - c.cross * c.cross) * (v * v) :=
            add_nonneg (mul_self_nonneg _) hdet
      _ = c.pos * (c.pos * x * x + 2 * (c.cross * x * v) + c.vel * v * v) := by ring

/-- A position and a velocity that are independent, by their standard deviations. -/
def independent (pos vel : R) : Covariance R where
  pos := pos * pos
  cross := 0
  vel := vel * vel
  pos_nonneg := mul_self_nonneg pos
  vel_nonneg := mul_self_nonneg vel
  det_nonneg := by
    rw [zero_mul]
    exact mul_nonneg (mul_self_nonneg pos) (mul_self_nonneg vel)

/-- After `dt`, at the velocity there is. -/
def advance (c : Covariance R) (dt : R) : Covariance R where
  pos := c.form 1 dt
  cross := c.cross + dt * c.vel
  vel := c.vel
  pos_nonneg := c.form_nonneg 1 dt
  vel_nonneg := c.vel_nonneg
  det_nonneg := by
    unfold form
    linarith [c.det_nonneg]

/-- With independent noise. -/
def add (c d : Covariance R) : Covariance R where
  pos := c.pos + d.pos
  cross := c.cross + d.cross
  vel := c.vel + d.vel
  pos_nonneg := add_nonneg c.pos_nonneg d.pos_nonneg
  vel_nonneg := add_nonneg c.vel_nonneg d.vel_nonneg
  det_nonneg := by
    -- the mixed terms: `4 xy ≤ (x + y)²` for the products across
    have hmixed : 2 * (c.cross * d.cross) ≤ c.pos * d.vel + d.pos * c.vel := by
      have hcd := c.det_nonneg
      have hdd := d.det_nonneg
      have hsq : (c.cross * d.cross) * (c.cross * d.cross) ≤
          (c.pos * d.vel) * (d.pos * c.vel) := by
        calc (c.cross * d.cross) * (c.cross * d.cross)
            = (c.cross * c.cross) * (d.cross * d.cross) := by ring
          _ ≤ (c.pos * c.vel) * (d.pos * d.vel) :=
            mul_le_mul hcd hdd (mul_self_nonneg _) (mul_nonneg c.pos_nonneg c.vel_nonneg)
          _ = (c.pos * d.vel) * (d.pos * c.vel) := by ring
      have hl : 0 ≤ c.pos * d.vel := mul_nonneg c.pos_nonneg d.vel_nonneg
      have hr : 0 ≤ d.pos * c.vel := mul_nonneg d.pos_nonneg c.vel_nonneg
      refine le_of_not_gt fun hlt => ?_
      have hsum : 0 ≤ c.pos * d.vel + d.pos * c.vel := add_nonneg hl hr
      have hstrict := mul_lt_mul'' hlt hlt hsum hsum
      have hdiff : 0 ≤ (c.pos * d.vel - d.pos * c.vel) * (c.pos * d.vel - d.pos * c.vel) :=
        mul_self_nonneg _
      linarith
    linarith [c.det_nonneg, d.det_nonneg]

/-- What a white-noise acceleration of density `q` adds over `dt`. -/
def whiteNoise (q dt : R) (hq : 0 ≤ q) (hdt : 0 ≤ dt) : Covariance R where
  pos := q * (dt * dt * dt) / 3
  cross := q * (dt * dt) / 2
  vel := q * dt
  pos_nonneg := by positivity
  vel_nonneg := mul_nonneg hq hdt
  det_nonneg := by
    have hsq : 0 ≤ (q * (dt * dt)) * (q * (dt * dt)) := mul_self_nonneg _
    calc q * (dt * dt) / 2 * (q * (dt * dt) / 2)
        = (q * (dt * dt)) * (q * (dt * dt)) / 4 := by ring
      _ ≤ (q * (dt * dt)) * (q * (dt * dt)) / 3 := by linarith
      _ = q * (dt * dt * dt) / 3 * (q * dt) := by ring

section Observe

variable (c : Covariance R) {r : R}

theorem sum_pos (hr : 0 < r) : 0 < c.pos + r := add_pos_of_nonneg_of_pos c.pos_nonneg hr

/-- After a measurement of the position with variance `r`. -/
def observe (r : R) (hr : 0 < r) : Covariance R where
  pos := c.pos * r / (c.pos + r)
  cross := c.cross * r / (c.pos + r)
  vel := c.vel - c.cross * c.cross / (c.pos + r)
  pos_nonneg := div_nonneg (mul_nonneg c.pos_nonneg hr.le) (c.sum_pos hr).le
  vel_nonneg := by
    rw [sub_nonneg, div_le_iff₀ (c.sum_pos hr)]
    have hvr : 0 ≤ c.vel * r := mul_nonneg c.vel_nonneg hr.le
    linarith [c.det_nonneg]
  det_nonneg := by
    have hs := c.sum_pos hr
    have hdet : 0 ≤ (c.pos * c.vel - c.cross * c.cross) * (r / (c.pos + r)) :=
      mul_nonneg (sub_nonneg.mpr c.det_nonneg) (div_nonneg hr.le hs.le)
    have hne : c.pos + r ≠ 0 := hs.ne'
    have heq : c.pos * r / (c.pos + r) * (c.vel - c.cross * c.cross / (c.pos + r)) -
        c.cross * r / (c.pos + r) * (c.cross * r / (c.pos + r)) =
        (c.pos * c.vel - c.cross * c.cross) * (r / (c.pos + r)) := by
      field_simp
      ring
    linarith

/-- The part of the way to the measurement that the position moves. -/
def gain (r : R) : R := c.pos / (c.pos + r)

theorem gain_nonneg (hr : 0 < r) : 0 ≤ c.gain r := div_nonneg c.pos_nonneg (c.sum_pos hr).le

theorem gain_le_one (hr : 0 < r) : c.gain r ≤ 1 := by
  rw [gain, div_le_one (c.sum_pos hr)]
  linarith

end Observe

/-- A part of the way leads to a place in between. -/
theorem mem_uIcc_of_gain {k : R} (h₀ : 0 ≤ k) (h₁ : k ≤ 1) (x z : R) :
    x + k * (z - x) ∈ Set.uIcc x z := by
  rcases le_total x z with hle | hle
  · rw [Set.uIcc_of_le hle]
    have hstep : 0 ≤ k * (z - x) := mul_nonneg h₀ (sub_nonneg.mpr hle)
    have hrest : 0 ≤ (1 - k) * (z - x) := mul_nonneg (sub_nonneg.mpr h₁) (sub_nonneg.mpr hle)
    exact ⟨by linarith, by linarith⟩
  · rw [Set.uIcc_of_ge hle]
    have hstep : 0 ≤ k * (x - z) := mul_nonneg h₀ (sub_nonneg.mpr hle)
    have hrest : 0 ≤ (1 - k) * (x - z) := mul_nonneg (sub_nonneg.mpr h₁) (sub_nonneg.mpr hle)
    exact ⟨by linarith, by linarith⟩

end Covariance

end DeliveryTracking
