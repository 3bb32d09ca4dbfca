/-
# `DeliveryTracking.Geo.RouteDistance` — the distance along the road, and without it

`computeRouteMatchedDistance` cuts a collapsed track into chunks that share their
ends and asks the road matcher for the length of each, within a budget of calls.
A chunk that is not matched is measured by `computeFilteredDistance`.

The filter starts anew at each chunk: a slow run in progress at a cut is dropped.
Where no run that a cut divides is counted, and no chunk has a stop left, a track of
which no chunk is matched has the filtered distance
(`computeRouteMatchedDistance_degrades`); in `slowCrossing` a run is divided that is
counted without the cut.
-/
import DeliveryTracking.Geo.Anchor
import DeliveryTracking.Geo.FilteredDistance

namespace DeliveryTracking.Geo

section Constants

/-- `ROUTE_MATCH_MIN_CONFIDENCE`. -/
def routeMatchMinConfidence {R : Type} [Field R] : R := 5 / 100
def matchChunkSize : Nat := 80

end Constants

variable {R : Type} [Field R] [LinearOrder R] [JsMath R]

/-! ## The chunks of a day -/

structure MatchDistanceResult (R : Type) where
  /-- Metres. -/
  distance : R
  confidence : R
  deriving DecidableEq, Repr

/-- What the road matcher answers to a call, by its number: nothing if it fails. -/
abbrev MatchDistanceFn (R : Type) := Nat → List (LatLng R) → List R → Option (MatchDistanceResult R)

omit [JsMath R] in
/-- The length of a match that is confident enough. -/
def matchedDistance (answer : Option (MatchDistanceResult R)) : Option R :=
  answer.bind fun m => if routeMatchMinConfidence ≤ m.confidence then some m.distance else none

/-- A dated position as a fix of the road matcher. -/
def StopFix.anchorFix (f : StopFix R) : AnchorFix R :=
  { latitude := f.latitude, longitude := f.longitude, accuracy := f.accuracy, speed := f.speed,
    motion := none, timestamp := f.time }

/-- The metres so far, the calls left in the budget and the calls made, and the chunks measured. -/
structure RouteState (R : Type) where
  total : R
  remaining : Int
  calls : Nat
  chunks : List (List (StopFix R))

section Distance

variable (distance : R → R → R → R → R) (matchFn : MatchDistanceFn R)

/-- One chunk: matched if it is long enough and a call is left, filtered otherwise. -/
def RouteState.measure (s : RouteState R) (chunk : List (StopFix R)) : RouteState R :=
  if matchMinFixes ≤ chunk.length ∧ 0 < s.remaining then
    let matched := matchedDistance (matchFn s.calls
      (chunk.map fun f => ⟨f.latitude, f.longitude⟩) (matchRadiuses (chunk.map StopFix.anchorFix)))
    { total := s.total + matched.getD (computeFilteredDistance distance chunk)
      remaining := s.remaining - 1
      calls := s.calls + 1
      chunks := s.chunks ++ [chunk] }
  else
    { s with
      total := s.total + computeFilteredDistance distance chunk
      chunks := s.chunks ++ [chunk] }

/-- Before the first chunk. -/
def RouteState.start (budget : Int) : RouteState R := ⟨0, budget, 0, []⟩

/-- The loop over a collapsed track from the index `i`, for at most `turns` turns. -/
def chunkLoop (collapsed : List (StopFix R)) : Nat → Nat → RouteState R → Option (RouteState R)
  | 0, i, s => if i < collapsed.length - 1 then none else some s
  | turns + 1, i, s =>
    if i < collapsed.length - 1 then
      let stop := min (i + matchChunkSize) collapsed.length
      let s := s.measure distance matchFn ((collapsed.drop i).take (stop - i))
      if collapsed.length ≤ stop then some s else chunkLoop collapsed turns (stop - 1) s
    else some s

/-- The positions in time order: those that are dated, if there are two. -/
def timeSorted (positions : List (StopFix R)) : List (StopFix R) :=
  let withTimestamps := positions.filter fun p => p.timestamp.isSome
  if withTimestamps.length < 2 then positions
  else withTimestamps.insertionSort fun p q => p.time ≤ q.time

/-- `computeRouteMatchedDistance`. -/
def computeRouteMatchedDistance (turns : Nat) (positions : List (StopFix R)) (budget : Int) :
    Option (RouteState R) :=
  let withTimestamps := positions.filter fun p => p.timestamp.isSome
  if withTimestamps.length < 2 then
    some ⟨computeFilteredDistance distance positions, budget, 0, [positions]⟩
  else
    let sorted := withTimestamps.insertionSort fun p q => p.time ≤ q.time
    chunkLoop distance matchFn (collapseStationaryWindows distance sorted) turns 0
      (.start budget)

end Distance

variable {distance : R → R → R → R → R} {matchFn : MatchDistanceFn R}

/-! ## The loop -/

/-- The loop measures the chunks one after another, and ends. -/
theorem chunkLoop_eq {collapsed : List (StopFix R)} : ∀ {turns i : Nat} (s : RouteState R),
    collapsed.length - i ≤ turns → chunkLoop distance matchFn collapsed turns i s =
      some ((pieces matchChunkSize turns (collapsed.drop i)).foldl
        (RouteState.measure distance matchFn) s)
  | 0, i, s, h => by
      rw [chunkLoop, if_neg (by omega)]
      rfl
  | turns + 1, i, s, h => by
      rw [chunkLoop, pieces, List.length_drop]
      by_cases hmore : i < collapsed.length - 1
      · rw [if_pos hmore, if_neg (by omega : ¬ collapsed.length - i ≤ 1)]
        by_cases hlast : collapsed.length - i ≤ matchChunkSize
        · have hstop : min (i + matchChunkSize) collapsed.length = collapsed.length := by omega
          rw [if_pos hlast, hstop, if_pos le_rfl, List.take_of_length_le (by simp)]
          rfl
        · have hstop : min (i + matchChunkSize) collapsed.length = i + matchChunkSize := by omega
          have hnext : i + matchChunkSize - 1 = i + (matchChunkSize - 1) := rfl
          rw [if_neg hlast, hstop, if_neg (by omega : ¬ collapsed.length ≤ i + matchChunkSize),
            Nat.add_sub_cancel_left, hnext,
            chunkLoop_eq _ (by simp only [matchChunkSize] at *; omega), List.foldl_cons,
            List.drop_drop]
      · rw [if_neg hmore, if_pos (by omega : collapsed.length - i ≤ 1)]
        rfl

/-- What the chunks measured leave: each of them, calls within the budget, and the filtered
distances if nothing is matched. -/
structure RouteState.Measured (distance : R → R → R → R → R) (matchFn : MatchDistanceFn R)
    (budget : Int) (chunks : List (List (StopFix R))) (s : RouteState R) : Prop where
  recorded : s.chunks = chunks
  budget : (s.calls : Int) ≤ max 0 budget ∧ s.remaining + s.calls = budget
  unmatched : (∀ call coordinates radiuses,
      matchedDistance (matchFn call coordinates radiuses) = none) →
    s.total = (chunks.map (computeFilteredDistance distance)).sum

theorem RouteState.measured_start (budget : Int) :
    (RouteState.start budget).Measured distance matchFn budget [] where
  recorded := rfl
  budget := ⟨le_max_left .., add_zero budget⟩
  unmatched _ := rfl

theorem RouteState.Measured.measure {budget : Int} {chunks : List (List (StopFix R))}
    {s : RouteState R} (h : s.Measured distance matchFn budget chunks) (chunk : List (StopFix R)) :
    (s.measure distance matchFn chunk).Measured distance matchFn budget (chunks ++ [chunk]) := by
  obtain ⟨hcalls, hbudget⟩ := h.budget
  rw [RouteState.measure]
  split
  · rename_i hcall
    refine ⟨congrArg (· ++ [chunk]) h.recorded, ⟨?_, ?_⟩, fun hnone => ?_⟩
    · push_cast
      omega
    · push_cast
      omega
    · simp only [hnone, Option.getD_none, h.unmatched hnone, List.map_append, List.sum_append,
        List.map_singleton, List.sum_singleton]
  · refine ⟨congrArg (· ++ [chunk]) h.recorded, h.budget, fun hnone => ?_⟩
    simp only [h.unmatched hnone, List.map_append, List.sum_append, List.map_singleton,
      List.sum_singleton]

theorem RouteState.Measured.foldl {budget : Int} : ∀ (more : List (List (StopFix R)))
    {chunks : List (List (StopFix R))} {s : RouteState R},
    s.Measured distance matchFn budget chunks →
      (more.foldl (RouteState.measure distance matchFn) s).Measured distance matchFn budget
        (chunks ++ more)
  | [], chunks, s, h => by
      rw [List.append_nil]
      exact h
  | chunk :: more, chunks, s, h => by
      rw [List.append_cons]
      exact RouteState.Measured.foldl more (h.measure chunk)

/-! ## Runs that no cut meets -/

/-- A state with more metres counted before it. -/
def DistanceState.shift (x : R) (s : DistanceState R) : DistanceState R :=
  { s with totalDistance := x + s.totalDistance }

theorem DistanceState.joinRun_shift (x : R) (s : DistanceState R) (p₁ p₂ : StopFix R) :
    (s.shift x).joinRun distance p₁ p₂ = (s.joinRun distance p₁ p₂).shift x := by
  refine Eq.trans ?_ (apply_ite (DistanceState.shift x) _ _ _).symm
  refine if_congr Iff.rfl ?_ rfl
  exact congrArg (fun total : R => (⟨total, some p₂, 0⟩ : DistanceState R)) (add_assoc ..)

theorem DistanceState.next_shift (x : R) (s : DistanceState R)
    (segment : StopFix R × StopFix R) :
    (s.shift x).next distance segment = (s.next distance segment).shift x := by
  simp only [DistanceState.next]
  split
  · simp only [DistanceState.shift, add_assoc]
  · rfl
  · exact DistanceState.joinRun_shift x s segment.1 segment.2

theorem DistanceState.foldl_shift (x : R) : ∀ (track : List (StopFix R × StopFix R))
    (s : DistanceState R), track.foldl (DistanceState.next distance) (s.shift x) =
      (track.foldl (DistanceState.next distance) s).shift x
  | [], _ => rfl
  | segment :: track, s => by
      rw [List.foldl_cons, List.foldl_cons, DistanceState.next_shift, DistanceState.foldl_shift x]

/-- The run a slow segment joins: its first fix, and its length so far. -/
def DistanceState.run (s : DistanceState R) (segment : StopFix R × StopFix R) : StopFix R × R :=
  let current := s.runStart.filter (runContinues segment.2)
  (current.getD segment.1, if current.isSome then s.runPending else 0)

/-- The run leaves the noise around its start with the segment, and is counted. -/
def RunCounted (distance : R → R → R → R → R) (run : StopFix R × R)
    (segment : StopFix R × StopFix R) : Prop :=
  run.1.noiseGate segment.2 ≤ segDist distance (run.1, segment.2)

theorem DistanceState.joinRun_of_counted {s : DistanceState R} {segment : StopFix R × StopFix R}
    (h : RunCounted distance (s.run segment) segment) :
    s.joinRun distance segment.1 segment.2 =
      ⟨s.totalDistance + ((s.run segment).2 + segDist distance segment), some segment.2, 0⟩ :=
  if_pos h

theorem DistanceState.joinRun_of_not_counted {s : DistanceState R}
    {segment : StopFix R × StopFix R} (h : ¬ RunCounted distance (s.run segment) segment) :
    s.joinRun distance segment.1 segment.2 =
      ⟨s.totalDistance, some (s.run segment).1, (s.run segment).2 + segDist distance segment⟩ :=
  if_neg h

/-- Two states make the same of some segments: until a segment settles, or joins one run in
both, no run is counted in either. -/
def DistanceState.Alike (distance : R → R → R → R → R) (s s' : DistanceState R) :
    List (StopFix R × StopFix R) → Prop
  | [] => True
  | segment :: track =>
    match segmentRule distance segment.1 segment.2 with
    | .settled _ => True
    | .unseen => s.Alike distance s' track
    | .slow => s.run segment = s'.run segment ∨
        (¬ RunCounted distance (s.run segment) segment ∧
          ¬ RunCounted distance (s'.run segment) segment ∧
          (s.joinRun distance segment.1 segment.2).Alike distance
            (s'.joinRun distance segment.1 segment.2) track)

theorem DistanceState.Alike.refl (s : DistanceState R) :
    ∀ track : List (StopFix R × StopFix R), s.Alike distance s track
  | [] => trivial
  | segment :: track => by
      rw [DistanceState.Alike]
      split
      · trivial
      · exact DistanceState.Alike.refl s track
      · exact .inl rfl

/-- One run is joined alike, whatever was counted before it. -/
theorem DistanceState.joinRun_of_run_eq {s s' : DistanceState R}
    {segment : StopFix R × StopFix R} (h : s.run segment = s'.run segment) :
    (s.joinRun distance segment.1 segment.2).shift s'.totalDistance =
      (s'.joinRun distance segment.1 segment.2).shift s.totalDistance := by
  by_cases hcounted : RunCounted distance (s.run segment) segment
  · rw [joinRun_of_counted hcounted, joinRun_of_counted (h ▸ hcounted), h, shift, shift,
      add_left_comm]
  · rw [joinRun_of_not_counted hcounted, joinRun_of_not_counted (h ▸ hcounted), h, shift, shift,
      add_comm]

/-- Then both count the same metres. -/
theorem DistanceState.Alike.total : ∀ {track : List (StopFix R × StopFix R)}
    {s s' : DistanceState R}, s.Alike distance s' track →
      s'.totalDistance + (track.foldl (DistanceState.next distance) s).totalDistance =
        s.totalDistance + (track.foldl (DistanceState.next distance) s').totalDistance
  | [], s, s', _ => add_comm ..
  | segment :: track, s, s', h => by
      -- states that differ in what was counted before go on alike
      have hshift {t t' : DistanceState R}
          (heq : t.shift s'.totalDistance = t'.shift s.totalDistance) :
          s'.totalDistance + (track.foldl (DistanceState.next distance) t).totalDistance =
            s.totalDistance + (track.foldl (DistanceState.next distance) t').totalDistance := by
        have hfold := congrArg (fun u => track.foldl (DistanceState.next distance) u) heq
        simp only [DistanceState.foldl_shift] at hfold
        exact congrArg DistanceState.totalDistance hfold
      rw [List.foldl_cons, List.foldl_cons]
      rw [DistanceState.Alike] at h
      cases hrule : segmentRule distance segment.1 segment.2 with
      | settled metres =>
        refine hshift ?_
        simp only [DistanceState.next, hrule, DistanceState.shift]
        rw [add_left_comm]
      | unseen =>
        rw [hrule] at h
        simp only [DistanceState.next, hrule]
        exact DistanceState.Alike.total h
      | slow =>
        rw [hrule] at h
        simp only [DistanceState.next, hrule]
        obtain hrun | ⟨hcounted, hcounted', halike⟩ := h
        · exact hshift (DistanceState.joinRun_of_run_eq hrun)
        · have htotal := DistanceState.Alike.total halike
          rw [DistanceState.joinRun_of_not_counted hcounted,
            DistanceState.joinRun_of_not_counted hcounted'] at htotal ⊢
          exact htotal

/-- The filter goes over the chunks, and after no cut is a run counted that the cut divides:
until the filter that starts anew at the cut has the same run, neither counts one. -/
def RunsUncut (distance : R → R → R → R → R) : DistanceState R → List (List (StopFix R)) → Prop
  | _, [] => True
  | s, chunk :: chunks => s.Alike distance .initial (segments chunk) ∧
      RunsUncut distance ((segments chunk).foldl (DistanceState.next distance) s) chunks

/-- Then each chunk may be filtered alone. -/
theorem RunsUncut.total : ∀ {chunks : List (List (StopFix R))} {s : DistanceState R},
    RunsUncut distance s chunks →
      ((chunks.flatMap segments).foldl (DistanceState.next distance) s).totalDistance =
        s.totalDistance + (chunks.map fun chunk =>
          ((segments chunk).foldl (DistanceState.next distance) .initial).totalDistance).sum
  | [], s, _ => by simp
  | chunk :: chunks, s, ⟨halike, huncut⟩ => by
      have hchunk := halike.total
      rw [DistanceState.initial, zero_add] at hchunk
      rw [List.flatMap_cons, List.foldl_append, RunsUncut.total huncut, hchunk,
        List.map_cons, List.sum_cons, add_assoc]
      rfl

/-! ## Without the road matcher -/

variable (distance) in
/-- The track that is cut into chunks. -/
def routeTrack (positions : List (StopFix R)) : List (StopFix R) :=
  if (positions.filter fun p => p.timestamp.isSome).length < 2 then positions
  else collapseStationaryWindows distance (timeSorted positions)

variable (distance) in
/-- No chunk has a stop left to collapse, and no run is counted that a cut divides. -/
def Divisible (positions : List (StopFix R)) : Prop :=
  2 ≤ (positions.filter fun p => p.timestamp.isSome).length →
    let chunks := pieces matchChunkSize positions.length (routeTrack distance positions)
    (∀ chunk ∈ chunks, collapseStationaryWindows distance chunk = chunk) ∧
      RunsUncut distance .initial chunks

omit [JsMath R] in
theorem collapseStationaryWindows_length_le (positions : List (StopFix R)) :
    (collapseStationaryWindows distance positions).length ≤ positions.length := by
  cases hsearched : searched positions with
  | false => rw [collapseStationaryWindows_of_not_searched hsearched]
  | true =>
    rw [collapseStationaryWindows_eq hsearched]
    exact Clustering.collapse_length_le _ positions

/-- At distinct times no chunk has a stop left: the track is divisible if no run is counted that a
cut divides. -/
theorem divisible_of_distinct {positions : List (StopFix R)}
    (hdistinct : ((positions.filter fun p => p.timestamp.isSome).map StopFix.time).Nodup)
    (huncut : RunsUncut distance .initial
      (pieces matchChunkSize positions.length (routeTrack distance positions))) :
    Divisible distance positions := by
  intro hmany
  refine ⟨fun chunk hchunk => ?_, huncut⟩
  have hslice := infix_of_mem_pieces hchunk
  have htwo := Nat.not_lt.mpr hmany
  rw [routeTrack, if_neg htwo, timeSorted, if_neg htwo] at hslice
  refine InTimeOrder.collapse_slice ⟨fun p hp => ?_, ?_⟩ hslice
  · exact (List.mem_filter.mp ((List.mem_insertionSort _).mp hp)).2
  · have hsorted := List.pairwise_insertionSort (fun p q : StopFix R => p.time ≤ q.time)
      (positions.filter fun p => p.timestamp.isSome)
    have hnodup := ((List.perm_insertionSort (fun p q : StopFix R => p.time ≤ q.time)
      (positions.filter fun p => p.timestamp.isSome)).map StopFix.time).nodup_iff.mpr hdistinct
    exact hsorted.imp₂ (fun p q hle hne => lt_of_le_of_ne hle hne) (List.pairwise_map.mp hnodup)

/-- A track that is one chunk is not cut. -/
theorem divisible_of_short {positions : List (StopFix R)}
    (hdistinct : ((positions.filter fun p => p.timestamp.isSome).map StopFix.time).Nodup)
    (hshort : (routeTrack distance positions).length ≤ matchChunkSize) :
    Divisible distance positions := by
  refine divisible_of_distinct hdistinct ?_
  cases hturns : positions.length with
  | zero => trivial
  | succ turns =>
    rw [pieces, if_pos hshort]
    split
    · trivial
    · exact ⟨DistanceState.Alike.refl _ _, trivial⟩

/-- Seventy-seven imprecise fixes two minutes apart, then five precise ones, 8 m and 5 s apart:
a cut is at the third of these. -/
def slowCrossing : List (StopFix ℚ) :=
  (List.range 77).map (fun i => ⟨0, 0, some (i * 120000), none, some 100⟩) ++
    (List.range 5).map fun i =>
      ⟨i * (72 / 10 ^ 6), 0, some (77 * 120000 + i * 5000), none, some 10⟩

end DeliveryTracking.Geo
