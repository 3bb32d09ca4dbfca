/-
# `DeliveryTracking.Geo.FilteredDistance` — the distance of a track, noise left out

`computeFilteredDistance` collapses the stops of a track and goes over the segments
that are left.  What a segment adds is decided by four rules:

    both ends unusable        nothing, and the slow run before it is dropped
    a trusted speed           its length, at most what the speed allows
    clearly over the noise    its length
    under the noise           nothing yet: it may join a slow run, whose length is
                              added once its end leaves the noise around its start

Each segment is counted at most once, whatever the distance
(`computeFilteredDistance_counted`).
-/
import DeliveryTracking.Overlap
import DeliveryTracking.Geo.RealMath
import DeliveryTracking.Geo.Stops

namespace DeliveryTracking.Geo

section Constants

def gpsUnusableAccuracyM {R : Type} [Field R] : R := 80
def speedTrustMaxAccuracyM {R : Type} [Field R] : R := 70
def speedDistanceCapMult {R : Type} [Field R] : R := 3 / 2

end Constants

variable {R : Type} [Field R] [LinearOrder R] [JsMath R]

/-! ## The rules -/

omit [JsMath R] in
/-- The speed of a fix attests a displacement (`speedTrusted`). -/
def StopFix.speedTrusted (f : StopFix R) : Bool :=
  accuracyOrFallback f.accuracy ≤ speedTrustMaxAccuracyM &&
    f.speed.any fun speed => movementSpeedThresholdMs < speed

omit [JsMath R] in
/-- The seconds of a segment, one at least, if both ends are dated (`dtSec`). -/
def dtSec (p₁ p₂ : StopFix R) : Option R :=
  match p₁.timestamp, p₂.timestamp with
  | some t₁, some t₂ => some (max 1 (secs (t₂ - t₁)))
  | _, _ => none

/-- The noise gate of two fixes. -/
def StopFix.noiseGate (p₁ p₂ : StopFix R) : R :=
  combinedGpsNoiseGate (some (accuracyOrFallback p₁.accuracy))
    (some (accuracyOrFallback p₂.accuracy))

omit [JsMath R] in
/-- A weak speed or two accurate ends: a segment under the noise may join a slow run. -/
def corroborated (p₁ p₂ : StopFix R) : Bool :=
  (p₁.speed.any (stationarySpeedMs < ·) || p₂.speed.any (stationarySpeedMs < ·)) ||
    (accuracyOrFallback p₁.accuracy ≤ movementTrustMaxAccuracyM &&
      accuracyOrFallback p₂.accuracy ≤ movementTrustMaxAccuracyM)

/-- What the rules make of a segment. -/
inductive SegmentRule (R : Type) where
  /-- Metres to add; a slow run before it is dropped. -/
  | settled (metres : R)
  /-- Nothing to tell the segment from noise: it is passed over. -/
  | unseen
  /-- The segment joins a slow run. -/
  | slow

section Distance

variable (distance : R → R → R → R → R)

/-- The length of a segment (`segDist`). -/
def segDist (segment : StopFix R × StopFix R) : R :=
  distance segment.1.latitude segment.1.longitude segment.2.latitude segment.2.longitude

/-- The rule of a segment. -/
def segmentRule (p₁ p₂ : StopFix R) : SegmentRule R :=
  if gpsUnusableAccuracyM < accuracyOrFallback p₁.accuracy ∧
      gpsUnusableAccuracyM < accuracyOrFallback p₂.accuracy then .settled 0
  else if p₁.speedTrusted || p₂.speedTrusted then
    match dtSec p₁ p₂ with
    | some dt => .settled (min (segDist distance (p₁, p₂))
        (max (p₁.speed.getD 0) (p₂.speed.getD 0) * dt * speedDistanceCapMult))
    | none => .settled (segDist distance (p₁, p₂))
  else if p₁.noiseGate p₂ ≤ segDist distance (p₁, p₂) then .settled (segDist distance (p₁, p₂))
  else if (dtSec p₁ p₂).isNone || !corroborated p₁ p₂ then .unseen
  else .slow

/-! ## The loop -/

/-- The metres counted, and the slow run in progress: its first fix and its length so far. -/
structure DistanceState (R : Type) where
  totalDistance : R
  runStart : Option (StopFix R)
  runPending : R
  deriving DecidableEq, Repr

/-- The state before the first segment. -/
def DistanceState.initial : DistanceState R := ⟨0, none, 0⟩

/-- A slow run goes on to a fix at most a gap after its start. -/
def runContinues (p₂ runStart : StopFix R) : Bool :=
  match runStart.timestamp, p₂.timestamp with
  | some t, some t₂ => t₂ - t ≤ stationaryMaxSampleGap
  | _, _ => false

/-- A slow segment joins the run in progress, or starts one; a run that leaves the noise is
counted. -/
def DistanceState.joinRun (s : DistanceState R) (p₁ p₂ : StopFix R) : DistanceState R :=
  let current := s.runStart.filter (runContinues p₂)
  let runStart := current.getD p₁
  let runPending := (if current.isSome then s.runPending else 0) + segDist distance (p₁, p₂)
  if runStart.noiseGate p₂ ≤ segDist distance (runStart, p₂) then
    ⟨s.totalDistance + runPending, some p₂, 0⟩
  else ⟨s.totalDistance, some runStart, runPending⟩

/-- One turn of the loop. -/
def DistanceState.next (s : DistanceState R) (segment : StopFix R × StopFix R) :
    DistanceState R :=
  match segmentRule distance segment.1 segment.2 with
  | .settled metres => ⟨s.totalDistance + metres, none, 0⟩
  | .unseen => s
  | .slow => s.joinRun distance segment.1 segment.2

/-- `computeFilteredDistance`. -/
def computeFilteredDistance (positions : List (StopFix R)) : R :=
  ((segments (collapseStationaryWindows distance positions)).foldl
    (DistanceState.next distance) .initial).totalDistance

end Distance

/-! ## What is counted -/

section Counted

variable [IsStrictOrderedRing R] {distance : R → R → R → R → R}

omit [JsMath R] in
/-- A sum of parts, one of each length, none longer than it. -/
def Counted (lengths : List R) (x : R) : Prop :=
  ∃ parts, List.Forall₂ (fun part length => 0 ≤ part ∧ part ≤ length) parts lengths ∧
    parts.sum = x

omit [JsMath R] [IsStrictOrderedRing R] in
theorem counted_nil : Counted ([] : List R) 0 := ⟨[], .nil, List.sum_nil⟩

omit [JsMath R] [IsStrictOrderedRing R] in
/-- A part of one more length. -/
theorem Counted.add {lengths : List R} {x part length : R} (h : Counted lengths x)
    (h₀ : 0 ≤ part) (hle : part ≤ length) : Counted (lengths ++ [length]) (x + part) := by
  obtain ⟨parts, hparts, rfl⟩ := h
  refine ⟨parts ++ [part], List.rel_append hparts (.cons ⟨h₀, hle⟩ .nil), ?_⟩
  rw [List.sum_append, List.sum_singleton]

omit [JsMath R] [IsStrictOrderedRing R] in
/-- One more length, of which nothing is counted. -/
theorem Counted.pass {lengths : List R} {x length : R} (h : Counted lengths x)
    (hlength : 0 ≤ length) : Counted (lengths ++ [length]) x := by
  have hadd := h.add le_rfl hlength
  rwa [add_zero] at hadd

omit [JsMath R] in
theorem Counted.bounds {lengths : List R} {x : R} (h : Counted lengths x) :
    0 ≤ x ∧ x ≤ lengths.sum := by
  obtain ⟨parts, hparts, rfl⟩ := h
  induction hparts with
  | nil => exact ⟨le_rfl, le_rfl⟩
  | cons hpart _ ih =>
    rw [List.sum_cons, List.sum_cons]
    exact ⟨add_nonneg hpart.1 ih.1, add_le_add hpart.2 ih.2⟩

omit [JsMath R] [IsStrictOrderedRing R] in
theorem one_le_dtSec {p₁ p₂ : StopFix R} {dt : R} (h : dtSec p₁ p₂ = some dt) : 1 ≤ dt := by
  rw [dtSec] at h
  split at h
  · rw [← Option.some.inj h]
    exact le_max_left ..
  · cases h

omit [JsMath R] in
theorem StopFix.speedTrusted_pos {f : StopFix R} (h : f.speedTrusted = true) :
    0 ≤ f.speed.getD 0 := by
  rw [StopFix.speedTrusted, Bool.and_eq_true] at h
  cases hspeed : f.speed with
  | none => exact le_rfl
  | some speed =>
    rw [hspeed] at h
    have hfast : movementSpeedThresholdMs < speed := of_decide_eq_true h.2
    exact zero_le_one.trans hfast.le

/-- A settled segment counts for at most its length. -/
theorem segmentRule_settled (hdistance : ∀ a b c d, 0 ≤ distance a b c d) {p₁ p₂ : StopFix R}
    {metres : R} (h : segmentRule distance p₁ p₂ = .settled metres) :
    0 ≤ metres ∧ metres ≤ segDist distance (p₁, p₂) := by
  have hlength : 0 ≤ segDist distance (p₁, p₂) := hdistance ..
  rw [segmentRule] at h
  by_cases hunusable : gpsUnusableAccuracyM < accuracyOrFallback p₁.accuracy ∧
      gpsUnusableAccuracyM < accuracyOrFallback p₂.accuracy
  · rw [if_pos hunusable] at h
    obtain rfl := SegmentRule.settled.inj h
    exact ⟨le_rfl, hlength⟩
  rw [if_neg hunusable] at h
  by_cases hmoving : (p₁.speedTrusted || p₂.speedTrusted) = true
  · rw [if_pos hmoving] at h
    cases hdt : dtSec p₁ p₂ with
    | none =>
      rw [hdt] at h
      obtain rfl := SegmentRule.settled.inj h
      exact ⟨hlength, le_rfl⟩
    | some dt =>
      rw [hdt] at h
      obtain rfl := SegmentRule.settled.inj h
      have hspeed : 0 ≤ max (p₁.speed.getD 0) (p₂.speed.getD 0) := by
        obtain htrusted | htrusted := Bool.or_eq_true_iff.mp hmoving
        · exact (StopFix.speedTrusted_pos htrusted).trans (le_max_left ..)
        · exact (StopFix.speedTrusted_pos htrusted).trans (le_max_right ..)
      have hcap : (0 : R) ≤ speedDistanceCapMult := by
        rw [speedDistanceCapMult]
        positivity
      have hdt₀ : 0 ≤ dt := zero_le_one.trans (one_le_dtSec hdt)
      exact ⟨le_min hlength (mul_nonneg (mul_nonneg hspeed hdt₀) hcap), min_le_left ..⟩
  rw [if_neg hmoving] at h
  by_cases hgate : p₁.noiseGate p₂ ≤ segDist distance (p₁, p₂)
  · rw [if_pos hgate] at h
    obtain rfl := SegmentRule.settled.inj h
    exact ⟨hlength, le_rfl⟩
  rw [if_neg hgate] at h
  split at h <;> cases h

/-- What holds after some segments: the metres counted are parts of their lengths, and so they
are with the run in progress. -/
structure DistanceState.Inv (lengths : List R) (s : DistanceState R) : Prop where
  counted : Counted lengths s.totalDistance
  pending : Counted lengths (s.totalDistance + s.runPending)

omit [JsMath R] [IsStrictOrderedRing R] in
theorem DistanceState.inv_initial : DistanceState.Inv [] (.initial : DistanceState R) :=
  ⟨counted_nil, by simpa [DistanceState.initial] using counted_nil⟩

omit [JsMath R] [IsStrictOrderedRing R] in
/-- A run that is dropped leaves what was counted. -/
theorem DistanceState.Inv.of_counted {lengths : List R} {x : R} {runStart : Option (StopFix R)}
    (h : Counted lengths x) : DistanceState.Inv lengths ⟨x, runStart, 0⟩ :=
  ⟨h, by simpa using h⟩

omit [IsStrictOrderedRing R] in
theorem DistanceState.Inv.joinRun {lengths : List R} {s : DistanceState R} (h : s.Inv lengths)
    {p₁ p₂ : StopFix R} (hlength : 0 ≤ segDist distance (p₁, p₂)) :
    (s.joinRun distance p₁ p₂).Inv (lengths ++ [segDist distance (p₁, p₂)]) := by
  -- the run joined, or an empty one if none goes on to `p₂`
  have hrun : Counted (lengths ++ [segDist distance (p₁, p₂)]) (s.totalDistance +
      ((if (s.runStart.filter (runContinues p₂)).isSome then s.runPending else 0) +
        segDist distance (p₁, p₂))) := by
    rw [← add_assoc]
    refine Counted.add ?_ hlength le_rfl
    split
    · exact h.pending
    · rw [add_zero]
      exact h.counted
  rw [DistanceState.joinRun]
  split
  · exact .of_counted hrun
  · exact ⟨h.counted.pass hlength, hrun⟩

theorem DistanceState.Inv.next (hdistance : ∀ a b c d, 0 ≤ distance a b c d) {lengths : List R}
    {s : DistanceState R} (h : s.Inv lengths) (segment : StopFix R × StopFix R) :
    (s.next distance segment).Inv (lengths ++ [segDist distance segment]) := by
  have hlength : 0 ≤ segDist distance segment := hdistance ..
  rw [DistanceState.next]
  cases hrule : segmentRule distance segment.1 segment.2 with
  | settled metres =>
    obtain ⟨h₀, hle⟩ := segmentRule_settled hdistance hrule
    exact .of_counted (h.counted.add h₀ hle)
  | unseen => exact ⟨h.counted.pass hlength, h.pending.pass hlength⟩
  | slow => exact h.joinRun hlength

theorem DistanceState.Inv.foldl (hdistance : ∀ a b c d, 0 ≤ distance a b c d) :
    ∀ (track : List (StopFix R × StopFix R)) {lengths : List R} {s : DistanceState R},
      s.Inv lengths →
      (track.foldl (DistanceState.next distance) s).Inv (lengths ++ track.map (segDist distance))
  | [], lengths, s, h => by
      rw [List.map_nil, List.append_nil]
      exact h
  | segment :: track, lengths, s, h => by
      rw [List.map_cons, List.append_cons]
      exact DistanceState.Inv.foldl hdistance track (h.next hdistance segment)

/-- The filtered distance adds up one part of each segment of the collapsed track, at most its
length: it is not negative, and not more than the sum of the lengths. -/
theorem computeFilteredDistance_counted (hdistance : ∀ a b c d, 0 ≤ distance a b c d)
    (positions : List (StopFix R)) :
    Counted ((segments (collapseStationaryWindows distance positions)).map (segDist distance))
        (computeFilteredDistance distance positions) ∧
      0 ≤ computeFilteredDistance distance positions ∧
      computeFilteredDistance distance positions ≤
        ((segments (collapseStationaryWindows distance positions)).map (segDist distance)).sum := by
  have hcounted := (DistanceState.inv_initial.foldl hdistance
    (segments (collapseStationaryWindows distance positions))).counted
  rw [List.nil_append] at hcounted
  exact ⟨hcounted, hcounted.bounds⟩

end Counted

/-- A degree along a meridian in a minute, over the real numbers. -/
theorem computeFilteredDistance_counted_degree :
    Counted ((segments (collapseStationaryWindows haversineDistance
        [⟨-18, 47, some 0, none, none⟩, ⟨-17, 47, some 60000, none, none⟩])).map
          (segDist haversineDistance))
        (computeFilteredDistance haversineDistance
          [⟨-18, 47, some 0, none, none⟩, ⟨-17, 47, some 60000, none, none⟩] : ℝ) ∧
      0 ≤ (computeFilteredDistance haversineDistance
        [⟨-18, 47, some 0, none, none⟩, ⟨-17, 47, some 60000, none, none⟩] : ℝ) ∧
      (computeFilteredDistance haversineDistance
          [⟨-18, 47, some 0, none, none⟩, ⟨-17, 47, some 60000, none, none⟩] : ℝ) ≤
        ((segments (collapseStationaryWindows haversineDistance
          [⟨-18, 47, some 0, none, none⟩, ⟨-17, 47, some 60000, none, none⟩])).map
            (segDist haversineDistance)).sum :=
  computeFilteredDistance_counted haversineDistance_nonneg _

end DeliveryTracking.Geo
