/-
# `DeliveryTracking.Fuel.Paging` — a scan does not depend on its pages

The fixes of a window have one order (`track`), since a vehicle has one position at
a time.  After some pages a scan has read a part of that order from its start
(`Scanned`), and the next page starts after it; so at the end it has read all of
it, whatever the size of a page.  What is counted is then a function of the track
alone (`scanVehicleTrack_pages`).
-/
import DeliveryTracking.Fuel.TrackScan

namespace DeliveryTracking.Fuel

open Geo
open Tracking (GpsPosition PositionTable)

variable {R : Type}

/-! ## The fixes of a window -/

section Track

variable (positions : PositionTable R) (vehicleId companyId : String) (stop : Int)

/-- The fixes a scan has to read after a cursor. -/
def track (cursor : Int) : List (Fix R) :=
  (inOrder positions.rows (afterCursor vehicleId companyId stop cursor)).map fixOf

variable {positions vehicleId companyId stop}

theorem findPage_eq (pageSize : Nat) (cursor : Int) :
    findPage positions vehicleId companyId stop pageSize cursor =
      (track positions vehicleId companyId stop cursor).take pageSize :=
  List.map_take

/-- A fix of the track is of the window. -/
theorem window_of_mem_track {cursor : Int} {f : Fix R}
    (h : f ∈ track positions vehicleId companyId stop cursor) :
    cursor < f.timestamp ∧ f.timestamp ≤ stop := by
  obtain ⟨p, hp, rfl⟩ := List.mem_map.mp h
  have hafter := (mem_inOrder.mp hp).2
  simp only [afterCursor, Bool.and_eq_true, decide_eq_true_eq] at hafter
  exact ⟨hafter.2.2.1, hafter.2.2.2.1⟩

/-- No two fixes of the track have one time. -/
theorem track_increasing (cursor : Int) : (track positions vehicleId companyId stop cursor).Pairwise
    fun f g => f.timestamp < g.timestamp := by
  refine List.pairwise_map.mpr ?_
  have hsorted : (inOrder positions.rows (afterCursor vehicleId companyId stop cursor)).Pairwise
      fun p p' => p.timestamp ≤ p'.timestamp := List.pairwise_insertionSort _ _
  have hkeys : (positions.rows.map GpsPosition.key).Nodup := List.pairwise_map.mpr positions.unique
  have hunique : (inOrder positions.rows (afterCursor vehicleId companyId stop cursor)).Pairwise
      fun p p' => p.key ≠ p'.key := by
    refine List.pairwise_map.mp ?_
    refine ((List.perm_insertionSort _ _).map GpsPosition.key).nodup_iff.mpr ?_
    exact hkeys.sublist (List.filter_sublist.map _)
  refine (hsorted.and hunique).imp_of_mem fun {p p'} hp hp' hpair => ?_
  refine lt_of_le_of_ne hpair.1 fun htime => hpair.2 (Prod.ext ?_ htime)
  have hp := (mem_inOrder.mp hp).2
  have hp' := (mem_inOrder.mp hp').2
  simp only [afterCursor, Bool.and_eq_true, beq_iff_eq] at hp hp'
  exact hp.1.trans hp'.1.symm

/-- With the cursor on a fix, what follows it is left. -/
theorem track_after {cursor : Int} {before after : List (Fix R)} {f : Fix R}
    (h : track positions vehicleId companyId stop cursor = before ++ f :: after) :
    track positions vehicleId companyId stop f.timestamp = after := by
  have hincreasing : (track positions vehicleId companyId stop cursor).Pairwise
      fun f g => f.timestamp < g.timestamp := track_increasing cursor
  have hmem : f ∈ track positions vehicleId companyId stop cursor := by
    rw [h]
    exact List.mem_append_right _ (List.mem_cons_self ..)
  have hcursor := (window_of_mem_track hmem).1
  have hfilter : track positions vehicleId companyId stop f.timestamp =
      (track positions vehicleId companyId stop cursor).filter (f.timestamp < ·.timestamp) := by
    rw [track, track, List.filter_map]
    refine congrArg (List.map fixOf) (filter_inOrder vehicleId (fun p => ?_) fun p hp => ?_).symm
    · simp only [afterCursor, Function.comp_apply, fixOf]
      grind
    · simp only [afterCursor, Bool.and_eq_true, beq_iff_eq] at hp
      exact hp.1
  rw [h] at hincreasing
  obtain ⟨-, hafter, hbefore⟩ := List.pairwise_append.mp hincreasing
  obtain ⟨hfirst, -⟩ := List.pairwise_cons.mp hafter
  rw [hfilter, h, List.filter_append, List.filter_cons_of_neg (by simp),
    List.filter_eq_nil_iff.mpr, List.filter_eq_self.mpr, List.nil_append]
  · exact fun g hg => decide_eq_true (hfirst g hg)
  · intro g hg
    have hlt := hbefore g hg f (List.mem_cons_self ..)
    simpa using hlt.le

end Track

/-! ## The time covered -/

/-- The gaps of two parts, and the one between them. -/
theorem coveredGaps_append : ∀ (fixes more : List (Fix R)),
    coveredGaps (fixes ++ more) = coveredGaps fixes + coveredGaps (fixes.getLast?.toList ++ more)
  | [], more => by simp [coveredGaps]
  | [a], more => by simp [coveredGaps]
  | a :: b :: fixes, more => by
      have hrest := coveredGaps_append (b :: fixes) more
      rw [List.cons_append, List.cons_append, coveredGaps, ← List.cons_append, hrest, coveredGaps,
        List.getLast?_cons_cons, Int.add_assoc]

/-- Gaps cover no more than the time from the first fix to the last. -/
theorem coveredGaps_bounds : ∀ {fixes : List (Fix R)} {first last : Fix R},
    fixes.Pairwise (fun f g => f.timestamp < g.timestamp) → fixes.head? = some first →
      fixes.getLast? = some last →
      0 ≤ coveredGaps fixes ∧ coveredGaps fixes ≤ last.timestamp - first.timestamp
  | [], _, _, _, h, _ => by cases h
  | [a], first, last, _, hfirst, hlast => by
      obtain rfl := Option.some.inj hfirst
      obtain rfl := Option.some.inj hlast
      simp [coveredGaps]
  | a :: b :: fixes, first, last, horder, hfirst, hlast => by
      obtain rfl := Option.some.inj hfirst
      obtain ⟨hab, horder⟩ := List.pairwise_cons.mp horder
      rw [List.getLast?_cons_cons] at hlast
      have hrest := coveredGaps_bounds horder rfl hlast
      have hgap := hab b (List.mem_cons_self ..)
      have htolerance : toleranceMs = 300000 := rfl
      rw [coveredGaps]
      omega

/-! ## The scan -/

section Scan

variable [Field R] {positions : PositionTable R} {vehicleId companyId : String} {start stop : Int}
  {pageDistance : Nat → List (Fix R) → R × Nat} {pageSize : Nat}

/-- The loop after it has read some fixes. -/
structure Scanned (start : Int) (read : List (Fix R)) (st : ScanState R) : Prop where
  count : st.count = read.length
  firstPoint : st.firstPoint = read.head?
  lastPoint : st.lastPoint = read.getLast?
  carry : st.carry = read.getLast?
  cursor : st.cursor = (read.getLast?.map Fix.timestamp).getD start
  coveredMs : st.coveredMs = coveredGaps read

theorem scanned_start : Scanned start [] (.start start : ScanState R) where
  count := rfl
  firstPoint := rfl
  lastPoint := rfl
  carry := rfl
  cursor := rfl
  coveredMs := rfl

theorem Scanned.absorb {read page : List (Fix R)} {st : ScanState R} (h : Scanned start read st)
    (hpage : page ≠ []) : Scanned start (read ++ page) (st.absorb pageDistance page) := by
  obtain ⟨last, hlast⟩ := Option.ne_none_iff_exists'.mp (mt List.getLast?_eq_none_iff.mp hpage)
  have hread : (read ++ page).getLast? = some last := by
    rw [List.getLast?_append, hlast, Option.some_or]
  constructor
  · rw [List.length_append, ← h.count]
    rfl
  · rw [List.head?_append, ← h.firstPoint]
    rfl
  · show page.getLast?.or st.lastPoint = _
    rw [hread, hlast, Option.some_or]
  · show page.getLast?.or st.carry = _
    rw [hread, hlast, Option.some_or]
  · show (page.getLast?.map Fix.timestamp).getD st.cursor = _
    rw [hread, hlast, Option.map_some, Option.getD_some, Option.getD_some]
  · rw [coveredGaps_append, ← h.coveredMs, ← h.carry]
    rfl

omit [Field R] in
/-- What is left starts after what was read. -/
theorem Scanned.track_cursor {read rest : List (Fix R)} {st : ScanState R}
    (h : Scanned start read st)
    (htrack : track positions vehicleId companyId stop start = read ++ rest) :
    track positions vehicleId companyId stop st.cursor = rest := by
  rw [h.cursor]
  cases read using List.reverseRecOn with
  | nil => exact htrack
  | append_singleton read f =>
    rw [List.getLast?_concat]
    rw [List.append_assoc, List.singleton_append] at htrack
    exact track_after htrack

/-- The scan reads the whole track. -/
theorem scanned_scanPages (hsize : 1 ≤ pageSize) : ∀ {turns : Nat} {read rest : List (Fix R)}
    {st : ScanState R}, Scanned start read st →
      track positions vehicleId companyId stop start = read ++ rest → rest.length < turns →
      Scanned start (track positions vehicleId companyId stop start)
        (scanPages positions vehicleId companyId stop pageDistance pageSize turns st)
  | 0, _, _, _, _, _, hturns => absurd hturns (Nat.not_lt_zero _)
  | turns + 1, read, rest, st, h, htrack, hturns => by
      rw [scanPages, findPage_eq, h.track_cursor htrack]
      split
      · rename_i hpage
        -- an empty page: nothing was left
        have hrest : rest = [] := by
          rw [List.take_eq_nil_iff] at hpage
          exact hpage.resolve_left (by omega)
        rw [htrack, hrest, List.append_nil]
        exact h
      · rename_i f page hpage
        have hnext : Scanned start (read ++ (f :: page)) (st.absorb pageDistance (f :: page)) :=
          h.absorb (List.cons_ne_nil _ _)
        have hsplit : track positions vehicleId companyId stop start =
            (read ++ (f :: page)) ++ rest.drop pageSize := by
          rw [← hpage, List.append_assoc, List.take_append_drop, htrack]
        have hlength : (f :: page).length = min pageSize rest.length := by
          rw [← hpage, List.length_take]
        dsimp only
        split
        · -- a short page was the last one
          have hdone : rest.drop pageSize = [] := List.drop_eq_nil_of_le (by omega)
          rw [hsplit, hdone, List.append_nil]
          exact hnext
        · refine scanned_scanPages hsize hnext hsplit ?_
          rw [List.length_drop]
          rw [List.length_cons] at hlength
          omega

omit [Field R] in
theorem track_length_le (cursor : Int) :
    (track positions vehicleId companyId stop cursor).length ≤ positions.rows.length := by
  rw [track, List.length_map, inOrder, List.length_insertionSort]
  exact List.length_filter_le ..

/-- Once it has had a turn for each position the loop has ended. -/
theorem scanPages_ends {turns : Nat} (hturns : positions.rows.length < turns) :
    scanPages positions vehicleId companyId stop pageDistance pageSize turns (.start start) =
      scanPages positions vehicleId companyId stop pageDistance pageSize
        (positions.rows.length + 1) (.start start) := by
  induction turns, hturns using Nat.le_induction with
  | base => rfl
  | succ turns hturns ih =>
    rw [scanPages_fuel turns, ih]
    exact lt_of_le_of_lt List.countP_le_length (Nat.lt_of_succ_le hturns)

/-! ## The result -/

/-- The time a track covers in its window. -/
def coveredTime (start stop : Int) (fixes : List (Fix R)) : Int :=
  coveredGaps fixes + fixes.head?.elim 0 (fun f => min (f.timestamp - start) toleranceMs) +
    fixes.getLast?.elim 0 (fun f => min (stop - f.timestamp) toleranceMs)

omit [Field R] in
theorem coveredTime_bounds : 0 ≤ coveredTime start stop (track positions vehicleId companyId stop
    start) ∧ coveredTime start stop (track positions vehicleId companyId stop start) ≤
      max 0 (stop - start) := by
  have hincreasing : (track positions vehicleId companyId stop start).Pairwise
      fun f g => f.timestamp < g.timestamp := track_increasing start
  have hwindow : ∀ f ∈ track positions vehicleId companyId stop start,
      start < f.timestamp ∧ f.timestamp ≤ stop := fun f hf => window_of_mem_track hf
  generalize track positions vehicleId companyId stop start = fixes at hincreasing hwindow ⊢
  cases fixes with
  | nil => simp [coveredTime, coveredGaps]
  | cons f fixes =>
    obtain ⟨last, hlast⟩ := Option.ne_none_iff_exists'.mp
      (mt List.getLast?_eq_none_iff.mp (List.cons_ne_nil f fixes))
    have hgaps := coveredGaps_bounds hincreasing rfl hlast
    have hfirst := hwindow f (List.mem_cons_self ..)
    have hend := hwindow last (List.mem_of_getLast? hlast)
    have htolerance : toleranceMs = 300000 := rfl
    rw [coveredTime, hlast, List.head?_cons, Option.elim_some, Option.elim_some]
    omega

variable [JsMath R]

omit [Field R] [JsMath R] in
/-- A scan that counts what is on a track. -/
structure TrackScan.Counts (start stop : Int) (fixes : List (Fix R)) (scan : TrackScan R) :
    Prop where
  count : scan.count = fixes.length
  firstTimestamp : scan.firstTimestamp = fixes.head?.map Fix.timestamp
  lastTimestamp : scan.lastTimestamp = fixes.getLast?.map Fix.timestamp
  coveredMs : scan.coveredMs = coveredTime start stop fixes

theorem scanVehicleTrack_counts (hsize : 1 ≤ pageSize) :
    (scanVehicleTrack positions vehicleId companyId stop pageDistance pageSize start).Counts start
      stop (track positions vehicleId companyId stop start) := by
  have hscanned : Scanned start (track positions vehicleId companyId stop start)
      (scanPages positions vehicleId companyId stop pageDistance pageSize
        (positions.rows.length + 1) (.start start)) :=
    scanned_scanPages hsize scanned_start (List.nil_append _).symm
      (Nat.lt_succ_of_le (track_length_le start))
  constructor
  · exact hscanned.count
  · exact congrArg (Option.map Fix.timestamp) hscanned.firstPoint
  · exact congrArg (Option.map Fix.timestamp) hscanned.lastPoint
  · rw [scanVehicleTrack, coveredTime, ← hscanned.coveredMs, ← hscanned.firstPoint,
      ← hscanned.lastPoint]
    simp only [Option.elim_map, Function.comp_def]

/-- The loop ends, and what a scan counts does not depend on the size of its pages: the fixes,
the first and the last time and the time covered, which is in the window. -/
theorem scanVehicleTrack_pages {m n : Nat} (hm : 1 ≤ m) (hn : 1 ≤ n) :
    (∀ turns, positions.rows.length < turns →
      scanPages positions vehicleId companyId stop pageDistance m turns (.start start) =
        scanPages positions vehicleId companyId stop pageDistance m (positions.rows.length + 1)
          (.start start)) ∧
      (scanVehicleTrack positions vehicleId companyId stop pageDistance m start).count =
        (scanVehicleTrack positions vehicleId companyId stop pageDistance n start).count ∧
      (scanVehicleTrack positions vehicleId companyId stop pageDistance m start).firstTimestamp =
        (scanVehicleTrack positions vehicleId companyId stop pageDistance n start).firstTimestamp ∧
      (scanVehicleTrack positions vehicleId companyId stop pageDistance m start).lastTimestamp =
        (scanVehicleTrack positions vehicleId companyId stop pageDistance n start).lastTimestamp ∧
      (scanVehicleTrack positions vehicleId companyId stop pageDistance m start).coveredMs =
        (scanVehicleTrack positions vehicleId companyId stop pageDistance n start).coveredMs ∧
      0 ≤ (scanVehicleTrack positions vehicleId companyId stop pageDistance m start).coveredMs ∧
      (scanVehicleTrack positions vehicleId companyId stop pageDistance m start).coveredMs ≤
        max 0 (stop - start) := by
  have hcounts {pageSize : Nat} (hsize : 1 ≤ pageSize) :
      (scanVehicleTrack positions vehicleId companyId stop pageDistance pageSize start).Counts
        start stop (track positions vehicleId companyId stop start) :=
    scanVehicleTrack_counts hsize
  obtain ⟨hcount, hfirst, hlast, hcovered⟩ := hcounts hm
  obtain ⟨hcount', hfirst', hlast', hcovered'⟩ := hcounts hn
  refine ⟨fun _ => scanPages_ends, hcount.trans hcount'.symm, hfirst.trans hfirst'.symm,
    hlast.trans hlast'.symm, hcovered.trans hcovered'.symm, ?_⟩
  rw [hcovered]
  exact coveredTime_bounds

end Scan

/-- Three fixes of a vehicle, four and six minutes apart. -/
def threeFixes : PositionTable ℚ :=
  { rows := [0, 240000, 600000].map fun t =>
      ⟨"v1", t, -18, 47, none, some 5, false, .physicalTracker, none, "d1", "c1"⟩
    unique := by decide }

/-- One fix a page, or all of them on a full page. -/
theorem scanVehicleTrack_pages_three :
    (scanVehicleTrack threeFixes "v1" "c1" 700000 (fun budget _ => (0, budget)) 1 (-100)).coveredMs =
      (scanVehicleTrack threeFixes "v1" "c1" 700000 (fun budget _ => (0, budget)) 3
        (-100)).coveredMs :=
  (scanVehicleTrack_pages (by decide) (by decide)).2.2.2.2.1

end DeliveryTracking.Fuel
