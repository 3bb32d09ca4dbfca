/-
# `DeliveryTracking.Fuel.ScoreMonotone` — how the score moves

A penalty is the events times a weight, up to a cap (`computePenalty_eq`).  The
weight is 1 below 20 km and 100 / km from there on: it falls with the distance,
except that it jumps up at 20 km and is back at 1 only at 100 km.  So more
events never raise a score, and more kilometres lower one only across that jump
(`computeScore_monotone`).
-/
import DeliveryTracking.Geo.Rounding
import DeliveryTracking.Fuel.DriverScore

namespace DeliveryTracking.Fuel

open Geo

variable {R : Type} [Field R] [LinearOrder R]

/-! ## The weight of an event -/

/-- What one event counts for. -/
def eventWeight (distanceKm : R) : R :=
  if minDistanceForNormalizationKm ≤ distanceKm then normalizationStepKm / distanceKm else 1

/-- From a distance that is not normalized to one that is scaled up. -/
def CrossesThreshold (d d' : R) : Prop := d < 20 ∧ 20 ≤ d' ∧ d' < 100

variable [IsStrictOrderedRing R] {d d' perEvent cap : R} {events events' : Nat}

theorem eventWeight_nonneg (d : R) : 0 ≤ eventWeight d := by
  unfold eventWeight minDistanceForNormalizationKm normalizationStepKm
  split
  · rename_i hd
    have hpos : 0 ≤ d := le_trans (by norm_num) hd
    positivity
  · exact zero_le_one

/-- The weight falls with the distance, but not across the jump. -/
theorem eventWeight_antitone (hd : d ≤ d') (hcross : ¬CrossesThreshold d d') :
    eventWeight d' ≤ eventWeight d := by
  unfold eventWeight minDistanceForNormalizationKm normalizationStepKm
  by_cases hlong : 20 ≤ d
  · have hpos : 0 < d := lt_of_lt_of_le (by norm_num) hlong
    rw [if_pos hlong, if_pos (hlong.trans hd)]
    exact div_le_div_of_nonneg_left (by norm_num) hpos hd
  · rw [if_neg hlong]
    by_cases hlong' : 20 ≤ d'
    · have hfar : 100 ≤ d' := by
        by_contra hnear
        exact hcross ⟨not_le.mp hlong, hlong', not_le.mp hnear⟩
      rw [if_pos hlong']
      exact (div_le_one (lt_of_lt_of_le (by norm_num) hfar)).mpr hfar
    · rw [if_neg hlong']

/-- Across the jump it rises. -/
theorem eventWeight_crossing (hcross : CrossesThreshold d d') : eventWeight d ≤ eventWeight d' := by
  obtain ⟨hshort, hlong, hnear⟩ := hcross
  unfold eventWeight minDistanceForNormalizationKm normalizationStepKm
  rw [if_neg (not_le.mpr hshort), if_pos hlong]
  exact (one_le_div (lt_of_lt_of_le (by norm_num) hlong)).mpr hnear.le

omit [IsStrictOrderedRing R] in
theorem computePenalty_eq (events : Nat) (d perEvent : R) (hcap : 0 ≤ cap) :
    computePenalty events d perEvent cap = min cap (events * eventWeight d * perEvent) := by
  unfold computePenalty
  split
  · rename_i hnone
    rw [hnone, Nat.cast_zero, zero_mul, zero_mul, min_eq_right hcap]
  · unfold eventWeight
    dsimp only
    split
    · rw [div_div_eq_mul_div, mul_div_assoc]
    · rw [mul_one]

theorem computePenalty_mono (hcap : 0 ≤ cap) (hper : 0 ≤ perEvent) (hevents : events ≤ events')
    (hweight : eventWeight d ≤ eventWeight d') :
    computePenalty events d perEvent cap ≤ computePenalty events' d' perEvent cap := by
  rw [computePenalty_eq events d perEvent hcap, computePenalty_eq events' d' perEvent hcap]
  refine min_le_min_left cap (mul_le_mul_of_nonneg_right ?_ hper)
  exact mul_le_mul (Nat.cast_le.mpr hevents) hweight (eventWeight_nonneg d) (Nat.cast_nonneg events')

theorem computePenalty_nonneg (events : Nat) (d : R) (hcap : 0 ≤ cap) (hper : 0 ≤ perEvent) :
    0 ≤ computePenalty events d perEvent cap := by
  rw [computePenalty_eq events d perEvent hcap]
  have hweight := eventWeight_nonneg d
  positivity

/-! ## The score -/

variable [FloorRing R] [JsMath R] [RoundsHalfUp R] {speeding speeding' harsh harsh' : Nat}

omit [IsStrictOrderedRing R] [FloorRing R] [RoundsHalfUp R] in
theorem computeScore_nonneg (speeding harsh : Nat) (d : R) : 0 ≤ computeScore speeding harsh d :=
  le_max_left _ _

theorem computeScore_le (speeding harsh : Nat) (d : R) : computeScore speeding harsh d ≤ 100 := by
  have hspeeding : (0 : R) ≤ computePenalty speeding d speedingPenaltyPerEvent speedingPenaltyCap :=
    computePenalty_nonneg speeding d (by norm_num [speedingPenaltyCap])
      (by norm_num [speedingPenaltyPerEvent])
  have hharsh : (0 : R) ≤ computePenalty harsh d harshPenaltyPerEvent harshPenaltyCap :=
    computePenalty_nonneg harsh d (by norm_num [harshPenaltyCap]) (by norm_num [harshPenaltyPerEvent])
  refine max_le (by norm_num) ?_
  have hround := RoundsHalfUp.round_le (R := R) (x := 100
    - computePenalty speeding d speedingPenaltyPerEvent speedingPenaltyCap
    - computePenalty harsh d harshPenaltyPerEvent harshPenaltyCap) 100
  rw [Int.cast_ofNat] at hround
  exact hround (by linarith)

/-- Fewer events of less weight make a higher score. -/
theorem computeScore_anti (hs : speeding ≤ speeding') (hh : harsh ≤ harsh')
    (hweight : eventWeight d ≤ eventWeight d') :
    computeScore speeding' harsh' d' ≤ computeScore speeding harsh d := by
  have hspeeding :
      computePenalty speeding d speedingPenaltyPerEvent speedingPenaltyCap
        ≤ computePenalty speeding' d' speedingPenaltyPerEvent speedingPenaltyCap :=
    computePenalty_mono (by norm_num [speedingPenaltyCap]) (by norm_num [speedingPenaltyPerEvent])
      hs hweight
  have hharsh :
      computePenalty harsh d harshPenaltyPerEvent harshPenaltyCap
        ≤ computePenalty harsh' d' harshPenaltyPerEvent harshPenaltyCap :=
    computePenalty_mono (by norm_num [harshPenaltyCap]) (by norm_num [harshPenaltyPerEvent])
      hh hweight
  exact max_le_max_left 0 (RoundsHalfUp.round_mono (by linarith))

/-- The score is between 0 and 100, never rises with the events, and never falls with the distance
except across the threshold of the normalization, where it never rises. -/
theorem computeScore_monotone :
    (∀ (speeding harsh : Nat) (d : R),
      0 ≤ computeScore speeding harsh d ∧ computeScore speeding harsh d ≤ 100) ∧
    (∀ (speeding speeding' harsh harsh' : Nat) (d : R), speeding ≤ speeding' → harsh ≤ harsh' →
      computeScore speeding' harsh' d ≤ computeScore speeding harsh d) ∧
    (∀ (speeding harsh : Nat) (d d' : R), d ≤ d' → ¬CrossesThreshold d d' →
      computeScore speeding harsh d ≤ computeScore speeding harsh d') ∧
    (∀ (speeding harsh : Nat) (d d' : R), CrossesThreshold d d' →
      computeScore speeding harsh d' ≤ computeScore speeding harsh d) := by
  refine ⟨?_, ?_, ?_, ?_⟩
  · intro speeding harsh d
    exact ⟨computeScore_nonneg speeding harsh d, computeScore_le speeding harsh d⟩
  · intro speeding speeding' harsh harsh' d hs hh
    exact computeScore_anti hs hh le_rfl
  · intro speeding harsh d d' hd hcross
    exact computeScore_anti le_rfl le_rfl (eventWeight_antitone hd hcross)
  · intro speeding harsh d d' hcross
    exact computeScore_anti le_rfl le_rfl (eventWeight_crossing hcross)

/-- One speeding event on 20 km, on 50 km and on 19 km, and a second one. -/
theorem computeScore_monotone_sample :
    (0 ≤ computeScore 1 0 (20 : ℚ) ∧ computeScore 1 0 (20 : ℚ) ≤ 100) ∧
      computeScore 2 0 (20 : ℚ) ≤ computeScore 1 0 20 ∧
      computeScore 1 0 (20 : ℚ) ≤ computeScore 1 0 50 ∧
      computeScore 1 0 (20 : ℚ) ≤ computeScore 1 0 19 :=
  ⟨computeScore_monotone.1 1 0 20,
    computeScore_monotone.2.1 1 2 0 0 20 (by decide) (by decide),
    computeScore_monotone.2.2.1 1 0 20 50 (by norm_num) (by norm_num [CrossesThreshold]),
    computeScore_monotone.2.2.2 1 0 19 20 (by norm_num [CrossesThreshold])⟩

/-- One speeding event: 98 on 19 km, and 90 on 20 km. -/
theorem computeScore_threshold :
    ¬∀ (speeding harsh : Nat) (d d' : ℚ), d ≤ d' →
      computeScore speeding harsh d ≤ computeScore speeding harsh d' := by
  intro h
  have hfalls : computeScore 1 0 (20 : ℚ) < computeScore 1 0 19 := by decide +kernel
  exact absurd (h 1 0 19 20 (by norm_num)) (not_le.mpr hfalls)

end DeliveryTracking.Fuel
