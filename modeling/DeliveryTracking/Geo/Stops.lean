/-
# `DeliveryTracking.Geo.Stops` — the stops of a track, and the track without their drift

`detectStopWindows` scans a track for stops: consecutive fixes that stay near the
running centre of their group, densely sampled and without a trusted speed, for a
minute at least.  `collapseStationaryWindows` puts one point in the place of each.
What stands for a stop is never taken into another one, so to collapse a slice of
a collapsed track changes nothing (`collapseStationaryWindows_slice`).

The scan tests each fix it adds to a group for a speed, and not the fix the group
starts at: a window may start at a moving fix (`detectStopWindows_sound_iff`).

The distance of two points, in degrees, is a parameter; the code's is
`haversineDistance`.
-/
import DeliveryTracking.Clusters
import DeliveryTracking.Geo.GroundSpeed

namespace DeliveryTracking.Geo

section Constants

def movementSpeedThresholdMs {R : Type} [Field R] : R := 1
def stopClusterRadiusM {R : Type} [Field R] : R := 50
/-- Milliseconds. -/
def stopClusterMinDuration : Int := 60 * 1000
def stationaryMaxSampleGap : Int := 60 * 1000

end Constants

variable {R : Type} [Field R] [LinearOrder R]

/-- A position of a track. -/
structure StopFix (R : Type) where
  latitude : R
  longitude : R
  /-- Milliseconds. -/
  timestamp : Option Int
  speed : Option R
  accuracy : Option R
  deriving DecidableEq, Repr

/-- The time of a fix that has one. -/
def StopFix.time (f : StopFix R) : Int := f.timestamp.getD 0

/-- A trusted speed proves that the vehicle moves (`movingHere`). -/
def StopFix.movingHere (f : StopFix R) : Bool :=
  match f.speed with
  | some speed => movementSpeedThresholdMs < speed && isAccuracyTrustworthy f.accuracy
  | none => false

/-! ## The windows -/

/-- The group under construction: its first and last fix, its centre and its number of fixes. -/
structure StopGroup (R : Type) where
  first : StopFix R
  last : StopFix R
  cLat : R
  cLng : R
  count : Nat
  deriving DecidableEq, Repr

/-- The centre as a fix, dated and described by the last one. -/
def StopGroup.centre (g : StopGroup R) : StopFix R :=
  { g.last with latitude := g.cLat, longitude := g.cLng }

/-- A gap, a moving fix or a distant one ends the group; another moves its centre. -/
def StopGroup.grow (distance : R → R → R → R → R) (g : StopGroup R) (f : StopFix R) :
    Option (StopGroup R) :=
  if stationaryMaxSampleGap < f.time - g.last.time then none
  else if f.movingHere then none
  else if stopClusterRadiusM < distance g.cLat g.cLng f.latitude f.longitude then none
  else some
    { first := g.first
      last := f
      cLat := (g.cLat * g.count + f.latitude) / (g.count + 1)
      cLng := (g.cLng * g.count + f.longitude) / (g.count + 1)
      count := g.count + 1 }

/-- The groups of stopped fixes. -/
def stopGroups (distance : R → R → R → R → R) : Clustering (StopFix R) (StopGroup R) where
  start f := { first := f, last := f, cLat := f.latitude, cLng := f.longitude, count := 1 }
  grow := StopGroup.grow distance
  keeps g := 1 < g.count && stopClusterMinDuration ≤ g.last.time - g.first.time

/-- A stop, by the indices of its first and its last fix. -/
structure StopWindow (R : Type) where
  startIndex : Nat
  endIndex : Nat
  latitude : R
  longitude : R
  durationSec : R
  deriving DecidableEq, Repr

/-- The windows of the blocks of a track, from the index of the first. -/
def windowsFrom : Nat → List (Block (StopFix R) (StopGroup R)) → List (StopWindow R)
  | _, [] => []
  | i, .single _ :: blocks => windowsFrom (i + 1) blocks
  | i, .group g more :: blocks =>
    { startIndex := i
      endIndex := i + more
      latitude := g.cLat
      longitude := g.cLng
      durationSec := secs (g.last.time - g.first.time) } :: windowsFrom (i + more + 1) blocks

/-- Long enough, every fix dated: the track is searched for stops. -/
def searched (positions : List (StopFix R)) : Bool :=
  !(positions.length < 3 || positions.any fun p => p.timestamp.isNone)

omit [Field R] [LinearOrder R] in
theorem searched_iff {positions : List (StopFix R)} : searched positions = true ↔
    3 ≤ positions.length ∧ ∀ p ∈ positions, p.timestamp.isSome = true := by
  simp [searched, Option.isSome_iff_ne_none]

/-- `detectStopWindows`. -/
def detectStopWindows (distance : R → R → R → R → R) (positions : List (StopFix R)) :
    List (StopWindow R) :=
  if searched positions then windowsFrom 0 ((stopGroups distance).blocksFrom 0 positions) else []

/-- The copy of a track from the index `k` on, its windows replaced. -/
def collapseFrom (positions : List (StopFix R)) : Nat → List (StopWindow R) → List (StopFix R)
  | k, [] => positions.drop k
  | k, w :: stops =>
    (positions.drop k).take (w.startIndex - k) ++
      (positions[w.endIndex]?.map fun p =>
        { p with latitude := w.latitude, longitude := w.longitude }).toList ++
      collapseFrom positions (w.endIndex + 1) stops

/-- `collapseStationaryWindows`. -/
def collapseStationaryWindows (distance : R → R → R → R → R) (positions : List (StopFix R)) :
    List (StopFix R) :=
  match detectStopWindows distance positions with
  | [] => positions
  | w :: stops => collapseFrom positions 0 (w :: stops)

/-! ## Collapsing twice -/

variable {distance : R → R → R → R → R}

/-- What a group does with a fix. -/
theorem StopGroup.grow_eq_some {g g' : StopGroup R} {f : StopFix R}
    (h : g.grow distance f = some g') :
    f.time - g.last.time ≤ stationaryMaxSampleGap ∧ f.movingHere = false ∧
      ¬ stopClusterRadiusM < distance g.cLat g.cLng f.latitude f.longitude ∧
      g' = ⟨g.first, f, (g.cLat * g.count + f.latitude) / (g.count + 1),
        (g.cLng * g.count + f.longitude) / (g.count + 1), g.count + 1⟩ := by
  simp only [StopGroup.grow] at h
  by_cases hgap : stationaryMaxSampleGap < f.time - g.last.time
  · rw [if_pos hgap] at h
    cases h
  · rw [if_neg hgap] at h
    by_cases hmoving : f.movingHere
    · rw [if_pos hmoving] at h
      cases h
    · rw [if_neg hmoving] at h
      by_cases hfar : stopClusterRadiusM < distance g.cLat g.cLng f.latitude f.longitude
      · rw [if_pos hfar] at h
        cases h
      · rw [if_neg hfar] at h
        exact ⟨Int.not_lt.mp hgap, Bool.eq_false_iff.mpr hmoving, hfar, (Option.some.inj h).symm⟩

theorem StopGroup.grow_eq_none_iff {g : StopGroup R} {f : StopFix R} :
    g.grow distance f = none ↔ stationaryMaxSampleGap < f.time - g.last.time ∨ f.movingHere = true ∨
      stopClusterRadiusM < distance g.cLat g.cLng f.latitude f.longitude := by
  simp only [StopGroup.grow]
  split
  · simp [*]
  · split
    · simp [*]
    · split <;> simp [*]

theorem StopGroup.grow_of {g : StopGroup R} {f : StopFix R}
    (hgap : stationaryMaxSampleGap < f.time - g.last.time) : g.grow distance f = none :=
  grow_eq_none_iff.mpr (.inl hgap)

theorem last_of_grow {g g' : StopGroup R} {f : StopFix R}
    (h : (stopGroups distance).grow g f = some g') : g'.last = f := by
  obtain ⟨-, -, -, rfl⟩ := StopGroup.grow_eq_some h
  rfl

/-- Groups keep the fix they start at. -/
theorem first_of_grows {g g' : StopGroup R} {fixes : List (StopFix R)}
    (h : (stopGroups distance).Grows g fixes g') : g'.first = g.first := by
  induction h with
  | nil => rfl
  | cons h _ ih =>
    obtain ⟨-, -, -, rfl⟩ := StopGroup.grow_eq_some h
    exact ih

/-- The copy of a track puts one point in the place of each block, the fixes up to the first
of them copied. -/
theorem collapseFrom_windowsFrom {positions : List (StopFix R)} {fixes : List (StopFix R)}
    {blocks : List (Block (StopFix R) (StopGroup R))}
    (hcut : (stopGroups distance).Cut fixes blocks) : ∀ {i k : Nat}, positions.drop i = fixes →
      k ≤ i → collapseFrom positions k (windowsFrom i blocks) =
        (positions.drop k).take (i - k) ++ blocks.map (Block.point StopGroup.centre) := by
  induction hcut with
  | nil =>
    intro i k hdrop hk
    have hlength := List.drop_eq_nil_iff.mp hdrop
    rw [windowsFrom, collapseFrom, List.map_nil, List.append_nil, List.take_of_length_le]
    rw [List.length_drop]
    omega
  | @single a as bs _ _ ih =>
    intro i k hdrop hk
    have hnext : positions.drop (i + 1) = as := by
      rw [← List.tail_drop, hdrop, List.tail_cons]
    have hget : (positions.drop k)[i - k]? = some a := by
      rw [List.getElem?_drop, Nat.add_sub_cancel' hk, ← List.head?_drop, hdrop, List.head?_cons]
    rw [windowsFrom, ih hnext (by omega), Nat.succ_sub hk, List.take_add_one, hget, List.map_cons,
      Block.point, Option.toList_some, List.append_assoc, List.singleton_append]
  | @group a as bs _ _ ih =>
    intro i k hdrop hk
    set r := (stopGroups distance).run ((stopGroups distance).start a) as
    have hnext : positions.drop (i + r.2 + 1) = as.drop r.2 := by
      rw [Nat.add_assoc, ← List.drop_drop, hdrop, List.drop_succ_cons]
    have hget : positions[i + r.2]? = some r.1.last := by
      rw [← List.getElem?_drop, hdrop]
      exact Clustering.getElem?_run last_of_grow as ((stopGroups distance).start a)
    rw [windowsFrom, collapseFrom, hget, ih hnext le_rfl, Nat.sub_self, List.take_zero,
      List.nil_append, List.map_cons, Block.point, Option.map_some, Option.toList_some,
      List.append_assoc, List.singleton_append]
    rfl

/-- To collapse a track that is searched is to replace its groups. -/
theorem collapseStationaryWindows_eq {positions : List (StopFix R)} (h : searched positions = true) :
    collapseStationaryWindows distance positions =
      (stopGroups distance).collapse StopGroup.centre positions := by
  have hcopy : collapseStationaryWindows distance positions =
      collapseFrom positions 0 (detectStopWindows distance positions) := by
    rw [collapseStationaryWindows]
    split
    · rename_i hnone
      rw [hnone, collapseFrom, List.drop_zero]
    · rename_i hsome
      rw [hsome]
  rw [hcopy, detectStopWindows, if_pos h,
    collapseFrom_windowsFrom (Clustering.cut_blocksFrom positions 0) rfl le_rfl]
  rfl

theorem collapseStationaryWindows_of_not_searched {positions : List (StopFix R)}
    (h : searched positions = false) : collapseStationaryWindows distance positions = positions := by
  rw [collapseStationaryWindows, detectStopWindows, h]
  rfl

/-- In a track in time order the centre of a stop is never taken into another one: it is dated
by the last fix of its stop, a minute after the first. -/
theorem settles_stopGroups : (stopGroups distance).Settles StopGroup.centre StopGroup.last
    (fun p q => p.time < q.time) where
  last_start _ := rfl
  last_grow h := last_of_grow h
  alone f := by simp [stopGroups]
  mono {g g' f} h hbefore hkeeps := by
    obtain ⟨-, -, -, rfl⟩ := StopGroup.grow_eq_some h
    simp only [stopGroups, Bool.and_eq_true, decide_eq_true_eq] at hkeeps ⊢
    exact ⟨Nat.lt_succ_of_lt hkeeps.1, by omega⟩
  leaves {g f} h := by
    have hends := StopGroup.grow_eq_none_iff.mp (show g.grow distance f = none from h)
    exact StopGroup.grow_eq_none_iff.mpr hends
  apart {g g' f fixes} hbefore hgrows hkeeps := by
    have hfirst : g'.first = f := first_of_grows hgrows
    simp only [stopGroups, Bool.and_eq_true, decide_eq_true_eq] at hkeeps
    have hlasts := hkeeps.2
    rw [hfirst] at hlasts
    refine StopGroup.grow_of ?_
    have hmin : stopClusterMinDuration = stationaryMaxSampleGap := rfl
    have htime : g'.centre.time = g'.last.time := rfl
    omega

/-- Every fix is dated, after the fixes before it. -/
structure InTimeOrder (positions : List (StopFix R)) : Prop where
  dated : ∀ p ∈ positions, p.timestamp.isSome = true
  increasing : positions.Pairwise fun p q => p.time < q.time

/-- A slice of a collapsed track has no stop left. -/
theorem InTimeOrder.collapse_slice {positions slice : List (StopFix R)}
    (h : InTimeOrder positions)
    (hslice : slice <:+: collapseStationaryWindows distance positions) :
    collapseStationaryWindows distance slice = slice := by
  cases hsearched : searched slice with
  | false => exact collapseStationaryWindows_of_not_searched hsearched
  | true =>
    rw [collapseStationaryWindows_eq hsearched]
    cases hall : searched positions with
    | true =>
      rw [collapseStationaryWindows_eq hall] at hslice
      exact settles_stopGroups.collapse_slice h.increasing hslice
    | false =>
      -- a dated track is not searched only because it is short, and so is its slice
      rw [collapseStationaryWindows_of_not_searched hall] at hslice
      have hlong := (searched_iff.mp hsearched).1.trans hslice.length_le
      rw [searched_iff.mpr ⟨hlong, h.dated⟩] at hall
      cases hall

/-- To collapse again a track in time order, or a slice of what it was collapsed to, changes
nothing. -/
theorem collapseStationaryWindows_slice {positions : List (StopFix R)}
    (h : InTimeOrder positions) :
    collapseStationaryWindows distance (collapseStationaryWindows distance positions) =
        collapseStationaryWindows distance positions ∧
      ∀ slice, slice <:+: collapseStationaryWindows distance positions →
        collapseStationaryWindows distance slice = slice :=
  ⟨h.collapse_slice (List.infix_refl _), fun _ hslice => h.collapse_slice hslice⟩

/-- A fix at one place, `s` seconds after the first. -/
def parkedFix (s : Int) (speed : ℚ) : StopFix ℚ :=
  { latitude := -18, longitude := 47, timestamp := some (s * 1000), speed := some speed,
    accuracy := some 5 }

/-- Two minutes at one place. -/
def parkedTrack : List (StopFix ℚ) := [parkedFix 0 0, parkedFix 60 0, parkedFix 120 0]

/-- A stop, and the vehicle drives on: collapsed once. -/
theorem collapseStationaryWindows_slice_parked :
    collapseStationaryWindows haversineDistance
        (collapseStationaryWindows haversineDistance (parkedTrack ++ [parkedFix 180 7])) =
      collapseStationaryWindows haversineDistance (parkedTrack ++ [parkedFix 180 7]) :=
  (collapseStationaryWindows_slice ⟨by decide, by decide⟩).1

end DeliveryTracking.Geo
