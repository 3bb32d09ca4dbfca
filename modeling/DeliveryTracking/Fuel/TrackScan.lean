/-
# `DeliveryTracking.Fuel.TrackScan` — a vehicle's track, read page by page

`scanVehicleTrack` reads the positions of a vehicle in a window a page at a time
and keeps only what it adds up: the distance, the time covered by fixes, the
number of fixes, the first and the last one.  The last fix of a page comes again
before the first of the next, so no segment is lost between pages.

Each page starts after the last time of the page before, and the loop stops at an
empty page or a short one; `scanPages_fuel` says that it has stopped once it ran
as often as there are positions.
-/
import DeliveryTracking.Fuel.DailyReport

namespace DeliveryTracking.Fuel

open Geo
open Tracking (GpsPosition PositionTable)

/-! ## Model -/

/-- `FUEL_COVERAGE_GAP_TOLERANCE_S * 1000`: what a longer gap covers. -/
def toleranceMs : Int := 300 * 1000

/-- `MAX_MATCH_CHUNKS`: the calls of the road matcher in one scan. -/
def maxMatchChunks : Nat := 80

/-- What a scan returns. -/
structure TrackScan (R : Type) where
  distanceMeters : R
  coveredMs : Int
  count : Nat
  firstTimestamp : Option Int
  lastTimestamp : Option Int
  netDisplacementMeters : R
  avgAccuracy : R
  deriving DecidableEq, Repr

/-- The variables of the loop. -/
structure ScanState (R : Type) where
  distanceMeters : R
  coveredMs : Int
  count : Nat
  firstPoint : Option (Fix R)
  lastPoint : Option (Fix R)
  accuracySum : R
  accuracyCount : Nat
  cursor : Int
  carry : Option (Fix R)
  matchBudget : Nat
  deriving DecidableEq, Repr

/-- The gaps between consecutive fixes, each cut at the tolerance. -/
def coveredGaps {R : Type} : List (Fix R) → Int
  | a :: b :: fixes => min (b.timestamp - a.timestamp) toleranceMs + coveredGaps (b :: fixes)
  | _ => 0

section Scan

variable {R : Type} (positions : PositionTable R) (vehicleId companyId : String) (stop : Int)

/-- The trusted positions of the vehicle after a cursor, to the end of the window. -/
def afterCursor (cursor : Int) (p : GpsPosition R) : Bool :=
  p.vehicleId == vehicleId && (p.companyId == companyId &&
    (decide (cursor < p.timestamp) && (decide (p.timestamp ≤ stop) && !p.suspect)))

def findPage (pageSize : Nat) (cursor : Int) : List (Fix R) :=
  ((inOrder positions.rows (afterCursor vehicleId companyId stop cursor)).take pageSize).map fixOf

variable [Field R] (pageDistance : Nat → List (Fix R) → R × Nat)

/-- What one page adds.  The distance is taken along the roads within the budget, or filtered, with
the last fix of the page before. -/
def ScanState.absorb (st : ScanState R) (page : List (Fix R)) : ScanState R :=
  let withCarry := st.carry.toList ++ page
  let (distance, matchBudget) := pageDistance st.matchBudget withCarry
  let accuracies := page.filterMap Fix.accuracy
  { distanceMeters := st.distanceMeters + distance
    coveredMs := st.coveredMs + coveredGaps withCarry
    count := st.count + page.length
    firstPoint := st.firstPoint.or page.head?
    lastPoint := page.getLast?.or st.lastPoint
    accuracySum := accuracies.foldl (· + ·) st.accuracySum
    accuracyCount := st.accuracyCount + accuracies.length
    cursor := (page.getLast?.map Fix.timestamp).getD st.cursor
    carry := page.getLast?.or st.carry
    matchBudget := matchBudget }

def scanPages (pageSize : Nat) : Nat → ScanState R → ScanState R
  | 0, st => st
  | fuel + 1, st =>
    match findPage positions vehicleId companyId stop pageSize st.cursor with
    | [] => st
    | p :: page =>
      let next := st.absorb pageDistance (p :: page)
      if (p :: page).length < pageSize then next else scanPages pageSize fuel next

def ScanState.start (start : Int) : ScanState R :=
  { distanceMeters := 0, coveredMs := 0, count := 0, firstPoint := none, lastPoint := none
    accuracySum := 0, accuracyCount := 0, cursor := start, carry := none
    matchBudget := maxMatchChunks }

/-- The gaps at both ends count like those between fixes. -/
def scanVehicleTrack [JsMath R] (pageSize : Nat) (start : Int) : TrackScan R :=
  let st := scanPages positions vehicleId companyId stop pageDistance pageSize
    (positions.rows.length + 1) (.start start)
  let firstTimestamp := st.firstPoint.map Fix.timestamp
  let lastTimestamp := st.lastPoint.map Fix.timestamp
  { distanceMeters := st.distanceMeters
    coveredMs := st.coveredMs +
      firstTimestamp.elim 0 (fun first => min (first - start) toleranceMs) +
      lastTimestamp.elim 0 (fun last => min (stop - last) toleranceMs)
    count := st.count
    firstTimestamp := firstTimestamp
    lastTimestamp := lastTimestamp
    netDisplacementMeters := match st.firstPoint, st.lastPoint with
      | some first, some last =>
        haversineDistance first.latitude first.longitude last.latitude last.longitude
      | _, _ => 0
    avgAccuracy := if 0 < st.accuracyCount then st.accuracySum / (st.accuracyCount : R) else 0 }

end Scan

/-! ## The loop stops -/

section Stops

variable {R : Type} [Field R] {positions : PositionTable R} {vehicleId companyId : String} {stop : Int}
  {pageDistance : Nat → List (Fix R) → R × Nat} {pageSize : Nat}

/-- The positions a scan has left. -/
def left (positions : PositionTable R) (vehicleId companyId : String) (stop cursor : Int) : Nat :=
  positions.rows.countP (afterCursor vehicleId companyId stop cursor)

omit [Field R] in
theorem mem_findPage {cursor : Int} {f : Fix R}
    (h : f ∈ findPage positions vehicleId companyId stop pageSize cursor) :
    ∃ p ∈ positions.rows, afterCursor vehicleId companyId stop cursor p = true ∧ fixOf p = f := by
  obtain ⟨p, hp, rfl⟩ := List.mem_map.mp h
  have hmem : p ∈ positions.rows.filter (afterCursor vehicleId companyId stop cursor) :=
    (List.mem_insertionSort _).mp (List.mem_of_mem_take hp)
  obtain ⟨hrow, hafter⟩ := List.mem_filter.mp hmem
  exact ⟨p, hrow, hafter, rfl⟩

omit [Field R] in
/-- A page moves the cursor past one of the positions that were left. -/
theorem left_lt {cursor : Int} {f : Fix R}
    (h : f ∈ findPage positions vehicleId companyId stop pageSize cursor) :
    left positions vehicleId companyId stop f.timestamp <
      left positions vehicleId companyId stop cursor := by
  obtain ⟨p, hp, hafter, rfl⟩ := mem_findPage h
  have hpast : cursor < p.timestamp := by
    simp only [afterCursor, Bool.and_eq_true, decide_eq_true_eq] at hafter
    exact hafter.2.2.1
  have hle : ∀ rows : List (GpsPosition R),
      rows.countP (afterCursor vehicleId companyId stop (fixOf p).timestamp) ≤
        rows.countP (afterCursor vehicleId companyId stop cursor) := by
    intro rows
    refine List.countP_mono_left fun q _ hq => ?_
    simp only [afterCursor, Bool.and_eq_true, decide_eq_true_eq] at hq ⊢
    exact ⟨hq.1, hq.2.1, hpast.trans hq.2.2.1, hq.2.2.2⟩
  have hself : afterCursor vehicleId companyId stop (fixOf p).timestamp p = false := by
    simp [afterCursor, fixOf]
  obtain ⟨before, after, hrows⟩ := List.append_of_mem hp
  have hbefore := hle before
  have hrest := hle after
  rw [left, left, hrows, List.countP_append, List.countP_append, List.countP_cons, List.countP_cons,
    hself, hafter, if_neg Bool.false_ne_true, if_pos rfl]
  omega

/-- A loop that has run as often as positions were left has stopped. -/
theorem scanPages_fuel : ∀ (fuel : Nat) (st : ScanState R),
    left positions vehicleId companyId stop st.cursor < fuel →
      scanPages positions vehicleId companyId stop pageDistance pageSize (fuel + 1) st =
        scanPages positions vehicleId companyId stop pageDistance pageSize fuel st
  | 0, _, h => absurd h (Nat.not_lt_zero _)
  | fuel + 1, st, h => by
      rw [scanPages, scanPages]
      split
      · rfl
      · rename_i p page hpage
        dsimp only
        split
        · rfl
        · refine scanPages_fuel fuel _ ?_
          have hlast : (p :: page).getLast (List.cons_ne_nil _ _) ∈
              findPage positions vehicleId companyId stop pageSize st.cursor := by
            rw [hpage]
            exact List.getLast_mem _
          have hcursor : (st.absorb pageDistance (p :: page)).cursor =
              ((p :: page).getLast (List.cons_ne_nil _ _)).timestamp := by
            rw [ScanState.absorb]
            simp [List.getLast?_eq_some_getLast]
          rw [hcursor]
          have hless := left_lt hlast
          omega

end Stops

end DeliveryTracking.Fuel
