/-
# `DeliveryTracking.Tracking.Coverage` — how much of a trip has positions

Two loops look for the gaps of a trip: `computeCoverage` adds up those over the
threshold, and `getTripReport` lists them (`signalGaps`).  The coverage is the
rest of the time between the first and the last position, in percent.

A position between two others splits their gap, and its parts are over the
threshold only if the whole is (`longPart_add_le`):

    prev ────────────────────────── curr        g = g₁ + g₂
    prev ────── g₁ ────── f ── g₂ ── curr       long g₁ + long g₂ ≤ long g

So one more position never lowers the coverage (`coverage_consistent`).
-/
import DeliveryTracking.Overlap
import DeliveryTracking.Geo.Rounding
import DeliveryTracking.Tracking.Store

namespace DeliveryTracking.Tracking

open Geo

variable {R : Type} [Field R] [LinearOrder R]

/-! ## The two loops -/

/-- The time from a position to another. -/
def gapSec (s : GpsPosition R × GpsPosition R) : R := secs (s.2.timestamp - s.1.timestamp)

/-- The variable of a source as a number, if it is a finite one. -/
def getGapThresholdSec (env : PositionSource → Option R) (source : PositionSource) : R :=
  let fallbackMin := match source with
    | .physicalTracker => 5
    | .phone => 3
  let min := match env source with
    | some raw => if 0 < raw then raw else fallbackMin
    | none => fallbackMin
  min * 60

structure Coverage (R : Type) where
  coveragePct : R
  totalSec : R
  coveredSec : R
  gapCount : Nat
  deriving DecidableEq, Repr

def Coverage.full : Coverage R := { coveragePct := 100, totalSec := 0, coveredSec := 0, gapCount := 0 }

/-- One step of the loop of `computeCoverage`. -/
def addGap (gapThresholdSec : R) (acc : R × Nat) (s : GpsPosition R × GpsPosition R) : R × Nat :=
  if gapThresholdSec < gapSec s then (acc.1 + gapSec s, acc.2 + 1) else acc

structure SignalGap (R : Type) where
  fromTimestamp : Int
  toTimestamp : Int
  durationSec : R
  fromLatitude : R
  fromLongitude : R
  toLatitude : R
  toLongitude : R
  deriving DecidableEq, Repr

section

variable [JsMath R]

def computeCoverage (positions : List (GpsPosition R)) (gapThresholdSec : R) : Coverage R :=
  match positions.insertionSort fun a b => a.timestamp ≤ b.timestamp with
  | first :: second :: rest =>
    let last := (second :: rest).getLast (List.cons_ne_nil _ _)
    let totalSec := max 0 (gapSec (first, last))
    if totalSec ≤ 0 then .full
    else
      let gaps := (segments (first :: second :: rest)).foldl (addGap gapThresholdSec) (0, 0)
      let coveredSec := max 0 (totalSec - gaps.1)
      { coveragePct :=
          if 0 < totalSec then JsMath.round (coveredSec / totalSec * 1000) / 10 else 100
        totalSec := totalSec
        coveredSec := coveredSec
        gapCount := gaps.2 }
  | _ => .full

/-- The gaps of the report of a trip. -/
def signalGaps (positions : List (GpsPosition R)) (gapThresholdSec : R) : List (SignalGap R) :=
  ((segments positions).filter fun s => gapThresholdSec < gapSec s).map fun s =>
    { fromTimestamp := s.1.timestamp
      toTimestamp := s.2.timestamp
      durationSec := JsMath.round (gapSec s)
      fromLatitude := s.1.latitude
      fromLongitude := s.1.longitude
      toLatitude := s.2.latitude
      toLongitude := s.2.longitude }

end

/-! ## What they add up -/

/-- A gap counts when it is over the threshold. -/
def longPart (gapThresholdSec gap : R) : R := if gapThresholdSec < gap then gap else 0

def uncoveredSec (gapThresholdSec : R) (positions : List (GpsPosition R)) : R :=
  ((segments positions).map fun s => longPart gapThresholdSec (gapSec s)).sum

/-- The positions are in the order of time. -/
def InTimeOrder (positions : List (GpsPosition R)) : Prop :=
  positions.Pairwise fun a b => a.timestamp ≤ b.timestamp

omit [LinearOrder R] in
theorem gapSec_eq (s : GpsPosition R × GpsPosition R) :
    gapSec s = (s.2.timestamp / 1000 - s.1.timestamp / 1000 : R) := by
  rw [gapSec, secs, Int.cast_sub, sub_div]

theorem foldl_addGap (gapThresholdSec : R) : ∀ (ss : List (GpsPosition R × GpsPosition R))
    (acc : R × Nat), ss.foldl (addGap gapThresholdSec) acc =
      (acc.1 + (ss.map fun s => longPart gapThresholdSec (gapSec s)).sum,
        acc.2 + ss.countP fun s => gapThresholdSec < gapSec s)
  | [], acc => by simp
  | s :: ss, acc => by
      rw [List.foldl_cons, foldl_addGap gapThresholdSec ss, List.map_cons, List.sum_cons,
        List.countP_cons]
      unfold addGap longPart
      by_cases hlong : gapThresholdSec < gapSec s
      · simp only [hlong, if_true, decide_true]
        refine Prod.ext (add_assoc _ _ _) ?_
        exact (Nat.add_right_comm _ _ _).trans (Nat.add_assoc _ _ _)
      · simp [hlong]

theorem longPart_nonneg {gapThresholdSec g : R} (h : 0 ≤ g) : 0 ≤ longPart gapThresholdSec g := by
  unfold longPart
  split
  · exact h
  · exact le_rfl

theorem longPart_le {gapThresholdSec g : R} (h : 0 ≤ g) : longPart gapThresholdSec g ≤ g := by
  unfold longPart
  split
  · exact le_rfl
  · exact h

variable [IsStrictOrderedRing R] {gapThresholdSec : R} {x : GpsPosition R}
  {positions : List (GpsPosition R)}

theorem getGapThresholdSec_pos (env : PositionSource → Option R) (source : PositionSource) :
    0 < getGapThresholdSec env source := by
  have hfallback : (0 : R) < (match source with | .physicalTracker => 5 | .phone => 3) := by
    cases source <;> norm_num
  unfold getGapThresholdSec
  refine mul_pos ?_ (by norm_num)
  cases env source with
  | none => exact hfallback
  | some raw =>
    dsimp only
    split
    · assumption
    · exact hfallback

theorem gapSec_nonneg {s : GpsPosition R × GpsPosition R}
    (h : s.1.timestamp ≤ s.2.timestamp) : 0 ≤ gapSec s := by
  have hcast : (s.1.timestamp : R) ≤ s.2.timestamp := Int.cast_le.mpr h
  rw [gapSec_eq]
  linarith

/-- The parts of a gap count no more than the gap. -/
theorem longPart_add_le (gapThresholdSec : R) {g₁ g₂ : R} (h₁ : 0 ≤ g₁) (h₂ : 0 ≤ g₂) :
    longPart gapThresholdSec g₁ + longPart gapThresholdSec g₂ ≤
      longPart gapThresholdSec (g₁ + g₂) := by
  by_cases hlong : gapThresholdSec < g₁ + g₂
  · have hwhole : longPart gapThresholdSec (g₁ + g₂) = g₁ + g₂ := if_pos hlong
    rw [hwhole]
    exact add_le_add (longPart_le h₁) (longPart_le h₂)
  · have hshort₁ : ¬gapThresholdSec < g₁ := by
      intro h
      exact hlong (by linarith)
    have hshort₂ : ¬gapThresholdSec < g₂ := by
      intro h
      exact hlong (by linarith)
    unfold longPart
    rw [if_neg hlong, if_neg hshort₁, if_neg hshort₂, add_zero]

theorem uncoveredSec_nonneg (gapThresholdSec : R) (h : InTimeOrder positions) :
    0 ≤ uncoveredSec gapThresholdSec positions := by
  refine List.sum_nonneg ?_
  intro g hg
  obtain ⟨s, hs, rfl⟩ := List.mem_map.mp hg
  exact longPart_nonneg (gapSec_nonneg (forall_mem_segments h s hs))

/-- One more position between two others leaves less uncovered. -/
theorem uncoveredSec_insert (before after : List (GpsPosition R)) {a f b : GpsPosition R}
    (hf : a.timestamp ≤ f.timestamp) (hb : f.timestamp ≤ b.timestamp) :
    uncoveredSec gapThresholdSec (before ++ a :: f :: b :: after) ≤
      uncoveredSec gapThresholdSec (before ++ a :: b :: after) := by
  have hsplit : gapSec (a, b) = gapSec (a, f) + gapSec (f, b) := by
    rw [gapSec_eq, gapSec_eq, gapSec_eq]
    ring
  have hparts := longPart_add_le gapThresholdSec
    (gapSec_nonneg (s := (a, f)) hf) (gapSec_nonneg (s := (f, b)) hb)
  rw [← hsplit] at hparts
  unfold uncoveredSec
  rw [segments_append_cons before a (f :: b :: after), segments_append_cons before a (b :: after)]
  simp only [segments_cons_cons, List.map_append, List.map_cons, List.sum_append, List.sum_cons]
  linarith

/-! ## The coverage of positions in order -/

/-- From the first position to the last one. -/
def spanSec (x : GpsPosition R) (rest : List (GpsPosition R)) : R :=
  gapSec (x, (x :: rest).getLast (List.cons_ne_nil _ _))

theorem spanSec_nonneg {rest : List (GpsPosition R)} (h : InTimeOrder (x :: rest)) :
    0 ≤ spanSec x rest := by
  have hlast := List.getLast_mem (List.cons_ne_nil x rest)
  rcases List.mem_cons.mp hlast with heq | hmem
  · refine gapSec_nonneg (le_of_eq ?_)
    exact congrArg GpsPosition.timestamp heq.symm
  · exact gapSec_nonneg (List.rel_of_pairwise_cons h hmem)

omit [LinearOrder R] [IsStrictOrderedRing R] in
/-- The span is the sum of the gaps. -/
theorem sum_gapSec (x : GpsPosition R) (rest : List (GpsPosition R)) :
    ((segments (x :: rest)).map gapSec).sum = spanSec x rest := by
  have hgap : (gapSec : GpsPosition R × GpsPosition R → R) =
      fun s => (s.2.timestamp / 1000 - s.1.timestamp / 1000 : R) := funext gapSec_eq
  rw [spanSec, hgap]
  exact sum_segments_sub (fun p : GpsPosition R => (p.timestamp / 1000 : R)) x rest

/-- A gap is no longer than the span. -/
theorem gapSec_le_spanSec {rest : List (GpsPosition R)} {s : GpsPosition R × GpsPosition R}
    (h : InTimeOrder (x :: rest)) (hs : s ∈ segments (x :: rest)) : gapSec s ≤ spanSec x rest := by
  rw [← sum_gapSec]
  refine List.single_le_sum ?_ _ (List.mem_map_of_mem hs)
  intro g hg
  obtain ⟨s', hs', rfl⟩ := List.mem_map.mp hg
  exact gapSec_nonneg (forall_mem_segments h s' hs')

omit [LinearOrder R] [IsStrictOrderedRing R] in
theorem spanSec_append (x : GpsPosition R) (before : List (GpsPosition R))
    {after : List (GpsPosition R)} (hafter : after ≠ []) :
    spanSec x (before ++ after) = gapSec (x, after.getLast hafter) :=
  congrArg (fun last => gapSec (x, last)) (List.getLast_append_of_ne_nil (l := x :: before) _ hafter)

section Order

variable [JsMath R] {rest : List (GpsPosition R)}

theorem computeCoverage_eq (h : InTimeOrder (x :: rest)) :
    (computeCoverage (x :: rest) gapThresholdSec).coveragePct =
        (if spanSec x rest ≤ 0 then 100
        else JsMath.round (max 0 (spanSec x rest - uncoveredSec gapThresholdSec (x :: rest)) /
          spanSec x rest * 1000) / 10) ∧
      (computeCoverage (x :: rest) gapThresholdSec).gapCount =
        if spanSec x rest ≤ 0 then 0
        else (segments (x :: rest)).countP fun s => gapThresholdSec < gapSec s := by
  have hsort : (x :: rest).insertionSort (fun a b => a.timestamp ≤ b.timestamp) = x :: rest :=
    List.Pairwise.insertionSort_eq h
  have hspan := spanSec_nonneg h
  unfold computeCoverage
  rw [hsort]
  cases rest with
  | nil =>
    have hzero : spanSec x [] = 0 := by
      rw [spanSec, List.getLast_singleton, gapSec_eq, sub_self]
    rw [hzero, if_pos le_rfl, if_pos le_rfl]
    exact ⟨rfl, rfl⟩
  | cons second rest =>
    have hlast : gapSec (x, (second :: rest).getLast (List.cons_ne_nil _ _)) =
        spanSec x (second :: rest) := by
      rw [spanSec, List.getLast_cons_cons]
    dsimp only
    rw [hlast, max_eq_right hspan, foldl_addGap, zero_add, zero_add]
    by_cases hnone : spanSec x (second :: rest) ≤ 0
    · rw [if_pos hnone, if_pos hnone, if_pos hnone]
      exact ⟨rfl, rfl⟩
    · rw [if_neg hnone, if_neg hnone, if_neg hnone]
      exact ⟨if_pos (not_le.mp hnone), rfl⟩

theorem gapCount_eq (h : InTimeOrder positions) (hpos : 0 ≤ gapThresholdSec) :
    (computeCoverage positions gapThresholdSec).gapCount =
      (signalGaps positions gapThresholdSec).length := by
  rw [signalGaps, List.length_map, ← List.countP_eq_length_filter]
  cases positions with
  | nil => rfl
  | cons x rest =>
    rw [(computeCoverage_eq h).2]
    split
    · rename_i hnone
      refine (List.countP_eq_zero.mpr ?_).symm
      intro s hs hlong
      have hspan := gapSec_le_spanSec h hs
      rw [decide_eq_true_eq] at hlong
      linarith
    · rfl

variable [FloorRing R] [RoundsHalfUp R]

/-- Less of the span uncovered is more of it covered. -/
theorem pct_mono {span uncovered uncovered' : R} (hspan : 0 < span) (h : uncovered' ≤ uncovered) :
    (JsMath.round (max 0 (span - uncovered) / span * 1000) / 10 : R) ≤
      JsMath.round (max 0 (span - uncovered') / span * 1000) / 10 := by
  refine div_le_div_of_nonneg_right (RoundsHalfUp.round_mono ?_) (by norm_num)
  refine mul_le_mul_of_nonneg_right ?_ (by norm_num)
  exact div_le_div_of_nonneg_right (max_le_max_left 0 (by linarith)) hspan.le

theorem coveragePct_bounds (h : InTimeOrder positions) :
    0 ≤ (computeCoverage positions gapThresholdSec).coveragePct ∧
      (computeCoverage positions gapThresholdSec).coveragePct ≤ 100 := by
  cases positions with
  | nil => exact ⟨by norm_num [computeCoverage, Coverage.full], le_rfl⟩
  | cons x rest =>
    rw [(computeCoverage_eq h).1]
    split
    · exact ⟨by norm_num, le_rfl⟩
    · rename_i hsome
      have hspan : 0 < spanSec x rest := not_le.mp hsome
      have hratio : max 0 (spanSec x rest - uncoveredSec gapThresholdSec (x :: rest)) /
          spanSec x rest ≤ 1 := by
        have huncovered := uncoveredSec_nonneg gapThresholdSec h
        exact (div_le_one hspan).mpr (max_le hspan.le (by linarith))
      have hnonneg : 0 ≤ max 0 (spanSec x rest - uncoveredSec gapThresholdSec (x :: rest)) /
          spanSec x rest := div_nonneg (le_max_left _ _) hspan.le
      have hlow := RoundsHalfUp.le_round (R := R) 0 (x := max 0 (spanSec x rest -
        uncoveredSec gapThresholdSec (x :: rest)) / spanSec x rest * 1000)
      have hhigh := RoundsHalfUp.round_le (R := R) 1000 (x := max 0 (spanSec x rest -
        uncoveredSec gapThresholdSec (x :: rest)) / spanSec x rest * 1000)
      rw [Int.cast_zero] at hlow
      rw [Int.cast_ofNat] at hhigh
      constructor
      · exact div_nonneg (hlow (mul_nonneg hnonneg (by norm_num))) (by norm_num)
      · rw [div_le_iff₀ (by norm_num)]
        exact (hhigh (by linarith)).trans (by norm_num)

/-- One more position between the first and the last does not lower the coverage. -/
theorem coveragePct_insert {before after : List (GpsPosition R)} {f : GpsPosition R}
    (hbefore : before ≠ []) (hafter : after ≠ []) (h : InTimeOrder (before ++ f :: after)) :
    (computeCoverage (before ++ after) gapThresholdSec).coveragePct ≤
      (computeCoverage (before ++ f :: after) gapThresholdSec).coveragePct := by
  have hless : InTimeOrder (before ++ after) :=
    h.sublist ((List.sublist_cons_self f after).append_left before)
  have huncovered : uncoveredSec gapThresholdSec (before ++ f :: after) ≤
      uncoveredSec gapThresholdSec (before ++ after) := by
    obtain ⟨init, a, rfl⟩ := List.eq_nil_or_concat before |>.resolve_left hbefore
    cases after with
    | nil => exact absurd rfl hafter
    | cons b after =>
      have hf : a.timestamp ≤ f.timestamp :=
        (List.pairwise_append.mp h).2.2 a (by simp) f List.mem_cons_self
      have hb : f.timestamp ≤ b.timestamp :=
        List.rel_of_pairwise_cons (List.pairwise_append.mp h).2.1 List.mem_cons_self
      simpa using uncoveredSec_insert init after hf hb
  cases before with
  | nil => exact absurd rfl hbefore
  | cons x before =>
    have hspan : spanSec x (before ++ f :: after) = spanSec x (before ++ after) := by
      rw [spanSec_append x before (List.cons_ne_nil f after), spanSec_append x before hafter,
        List.getLast_cons hafter]
    rw [List.cons_append] at h hless huncovered ⊢
    rw [List.cons_append, (computeCoverage_eq hless).1, (computeCoverage_eq h).1, hspan]
    split
    · exact le_rfl
    · rename_i hsome
      exact pct_mono (not_le.mp hsome) huncovered

end Order

/-- A position of a vehicle at a second. -/
def positionAt (second : Int) : GpsPosition ℚ :=
  { vehicleId := "v1", timestamp := second * 1000, latitude := 0, longitude := 0, speed := none,
    accuracy := none, suspect := false, source := .phone, deliveryId := some "d1",
    driverId := none, companyId := "c1" }

end DeliveryTracking.Tracking
