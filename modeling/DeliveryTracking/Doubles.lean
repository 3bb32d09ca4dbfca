/-
# `DeliveryTracking.Doubles` — natural numbers as double precision holds them

A natural number becomes the nearest one that has 53 significant bits, the even one of
two that are equally near, and infinity (`⊤`) from `2^1024` on.

    IsDouble       it is 53 bits and a power of two
    toDouble       what a number becomes
    toDouble_eq_iff   a number stays as it is exactly if it is a double
    lt_two_mul     it keeps more than half of its size

Nothing below names the repository.
-/
import Mathlib.Data.Nat.Log
import Mathlib.Order.WithBot
import Mathlib.Tactic.Ring

namespace DeliveryTracking

/-- A number with 53 significant bits at most, below the largest power of two there is. -/
def IsDouble (n : Nat) : Prop := ∃ m e, m < 2 ^ 53 ∧ e ≤ 971 ∧ n = m * 2 ^ e

namespace Doubles

/-- The bits below the 53 significant ones. -/
def exponent (n : Nat) : Nat := Nat.log2 n - 52

/-- Half to even. -/
def mantissa (n : Nat) : Nat :=
  let unit := 2 ^ exponent n
  let floor := n / unit
  if unit < 2 * (n % unit) ∨ (2 * (n % unit) = unit ∧ floor % 2 = 1) then floor + 1 else floor

end Doubles

open Doubles

def toDouble (n : Nat) : WithTop Nat :=
  if mantissa n * 2 ^ exponent n < 2 ^ 1024 then ↑(mantissa n * 2 ^ exponent n) else ⊤

namespace Doubles

variable {n : Nat}

theorem log2_lt {k : Nat} (hk : 0 < k) (h : n < 2 ^ k) : Nat.log2 n < k := by
  by_cases hn : n = 0
  · rw [hn, Nat.log2_zero]
    exact hk
  · exact (Nat.log2_lt hn).mpr h

theorem floor_lt (n : Nat) : n / 2 ^ exponent n < 2 ^ 53 := by
  refine (Nat.div_lt_iff_lt_mul (Nat.two_pow_pos _)).mpr ?_
  calc n < 2 ^ (Nat.log2 n + 1) := Nat.lt_log2_self
    _ ≤ 2 ^ (53 + exponent n) := Nat.pow_le_pow_right (by decide) (by rw [exponent]; omega)
    _ = 2 ^ 53 * 2 ^ exponent n := Nat.pow_add ..

/-- The exponent of a number that is written with some bits is no more than that power. -/
theorem exponent_le {m e : Nat} (hm : m < 2 ^ 53) : exponent (m * 2 ^ e) ≤ e := by
  by_cases hn : m * 2 ^ e = 0
  · rw [hn]
    exact Nat.zero_le _
  · have hlt : m * 2 ^ e < 2 ^ (53 + e) := by
      rw [Nat.pow_add]
      exact Nat.mul_lt_mul_of_pos_right hm (Nat.two_pow_pos e)
    have hlog := log2_lt (by omega) hlt
    rw [exponent]
    omega

theorem mantissa_of_dvd (h : 2 ^ exponent n ∣ n) : mantissa n = n / 2 ^ exponent n := by
  have hmod : n % 2 ^ exponent n = 0 := Nat.mod_eq_zero_of_dvd h
  have hpos := Nat.two_pow_pos (exponent n)
  simp only [mantissa, hmod]
  rw [if_neg]
  omega

theorem floor_le_mantissa (n : Nat) : n / 2 ^ exponent n ≤ mantissa n := by
  simp only [mantissa]
  split
  · exact Nat.le_succ _
  · exact Nat.le_refl _

end Doubles

theorem toDouble_of_isDouble {n : Nat} (h : IsDouble n) : toDouble n = n := by
  obtain ⟨m, e, hm, he, rfl⟩ := h
  have hdvd : 2 ^ exponent (m * 2 ^ e) ∣ m * 2 ^ e :=
    (Nat.pow_dvd_pow 2 (exponent_le hm)).trans (Nat.dvd_mul_left ..)
  have hlimit : 53 + e ≤ 1024 := by omega
  have hlt : m * 2 ^ e < 2 ^ 1024 := by
    refine Nat.lt_of_lt_of_le (Nat.mul_lt_mul_of_pos_right hm (Nat.two_pow_pos e)) ?_
    rw [← Nat.pow_add]
    have hpow : ∀ d, 53 + e ≤ d → 2 ^ (53 + e) ≤ 2 ^ d := fun d hd =>
      Nat.pow_le_pow_right Nat.two_pos hd
    exact hpow 1024 hlimit
  rw [toDouble, mantissa_of_dvd hdvd, Nat.div_mul_cancel hdvd, if_pos hlt]

/-- **A number stays as it is exactly if it is a double.** -/
theorem toDouble_eq_iff {n : Nat} : toDouble n = n ↔ IsDouble n := by
  refine ⟨?_, toDouble_of_isDouble⟩
  intro h
  rw [toDouble] at h
  split at h
  · rename_i hlt
    have heq : mantissa n * 2 ^ exponent n = n := WithTop.coe_inj.mp h
    have hmantissa : mantissa n = n / 2 ^ exponent n :=
      (Nat.div_eq_of_eq_mul_left (Nat.two_pow_pos _) heq.symm).symm
    refine ⟨mantissa n, exponent n, hmantissa ▸ floor_lt n, ?_, heq.symm⟩
    have hlog := log2_lt (by decide) (heq ▸ hlt)
    rw [exponent]
    omega
  · exact absurd h.symm (WithTop.coe_ne_top)

/-- Every number up to `2^53` is one. -/
theorem isDouble_of_lt {n : Nat} (h : n < 2 ^ 53) : IsDouble n :=
  ⟨n, 0, h, Nat.zero_le _, (Nat.mul_one n).symm⟩

/-- More than half of a number is left. -/
theorem lt_two_mul {n k : Nat} (hn : 0 < n) (h : toDouble n = k) : n < 2 * k := by
  by_cases hsmall : n < 2 ^ 53
  · rw [toDouble_of_isDouble (isDouble_of_lt hsmall)] at h
    have heq : n = k := WithTop.coe_inj.mp h
    omega
  · rw [toDouble] at h
    split at h
    · have heq : mantissa n * 2 ^ exponent n = k := WithTop.coe_inj.mp h
      have hfloor := Nat.mul_le_mul_right (2 ^ exponent n) (floor_le_mantissa n)
      have hsplit := Nat.div_add_mod n (2 ^ exponent n)
      have hmod := Nat.mod_lt n (Nat.two_pow_pos (exponent n))
      -- the unit is no more than the part that is kept
      have hunit : 2 ^ exponent n ≤ n / 2 ^ exponent n * 2 ^ exponent n := by
        refine Nat.le_mul_of_pos_left _ (Nat.div_pos ?_ (Nat.two_pow_pos _))
        refine (Nat.pow_le_pow_right (by decide) ?_).trans (Nat.log2_self_le (by omega))
        rw [exponent]
        omega
      rw [Nat.mul_comm] at hsplit
      omega
    · exact absurd h.symm WithTop.coe_ne_top

end DeliveryTracking
