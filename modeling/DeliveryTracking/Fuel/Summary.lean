/-
# `DeliveryTracking.Fuel.Summary` — the fuel summary by period

`getPeriodSummary` lists the periods of a window, drops the oldest when there
are too many, selects fill-ups (or GPS reports) in what is left of the window,
and adds each up under the key of its period.  The totals are taken over the
selected rows, not over the buckets.

The list of periods stops after 400, counted from the start of the window.  A
longer window ends before its last day, and everything after is in no bucket
(`summary_conserved_iff`).
-/
import Mathlib.Data.List.Sort
import DeliveryTracking.Grouping
import DeliveryTracking.Fuel.Period
import DeliveryTracking.Fuel.Tables

namespace DeliveryTracking.Fuel

open Calendar Geo Grouping

variable {R : Type} [Field R] [LinearOrder R] [JsMath R]

/-! ## The request -/

inductive Source where
  | logs
  | gps
  deriving DecidableEq, Repr

structure SummaryQuery where
  groupBy : Option GroupBy
  source : Option Source
  vehicleId : Option String
  fromDate : Option String
  toDate : Option String
  deriving DecidableEq, Repr

/-- The tables the summary reads. -/
structure FuelTables (R : Type) where
  fuelLogs : List (FuelLog R)
  dailyFuelReports : List (DailyFuelReport R)

/-- An empty text counts as none. -/
def text (s : Option String) : Option String := s.filter (· ≠ "")

def maxBuckets : GroupBy → Nat
  | .day => 92
  | .week => 53
  | .month => 24
  | .year => 12

def parseDateOrThrow (parseDate : String → Option Int) (raw fieldName : String) :
    Except String Int :=
  match parseDate raw with
  | none => .error ("Invalid " ++ fieldName ++ ": \"" ++ raw ++ "\" is not a valid date")
  | some t => .ok t

/-- Where a window without a start starts. -/
def defaultFrom (groupBy : GroupBy) (stop : Int) : Int :=
  match groupBy with
  | .day => setUTCDate stop (getUTCDate stop - 30)
  | .week => setUTCDate stop (getUTCDate stop - 7 * 12)
  | .month => setUTCMonth stop (getUTCMonth stop - 11)
  | .year => setUTCFullYear stop (getUTCFullYear stop - 4)

/-- The window asked for, both ends in it. -/
def requestedWindow (parseDate : String → Option Int) (now : Int) (groupBy : GroupBy)
    (query : SummaryQuery) : Except String DayBounds := do
  let stop ← match text query.toDate with
    | some raw => parseDateOrThrow parseDate raw "to"
    | none => .ok now
  match text query.fromDate with
  | some raw =>
    let start ← parseDateOrThrow parseDate raw "from"
    if start > stop then .error "`from` doit être antérieur à `to`"
    else .ok { start := start, stop := stop }
  | none => .ok { start := defaultFrom groupBy stop, stop := stop }

/-! ## The periods of a window -/

/-- At most `fuel` periods, from `cursor` on. -/
def enumerateFrom (groupBy : GroupBy) (stop : Int) : Nat → Period → List Period
  | 0, _ => []
  | fuel + 1, cursor =>
    if cursor.start ≤ stop then
      cursor :: enumerateFrom groupBy stop fuel (periodKeyStart groupBy cursor.stop)
    else []

def enumeratePeriods (groupBy : GroupBy) (window : DayBounds) : List Period :=
  enumerateFrom groupBy window.stop 400 (periodKeyStart groupBy window.start)

/-- The periods shown, the window they leave, and whether that is less than asked for. -/
structure Shown where
  periods : List Period
  window : DayBounds
  clamped : Bool

def shownPeriods (groupBy : GroupBy) (window : DayBounds) : Shown :=
  let periods := enumeratePeriods groupBy window
  if maxBuckets groupBy < periods.length then
    let kept := periods.drop (periods.length - maxBuckets groupBy)
    { periods := kept
      window := { window with start := (kept.head?.map Period.start).getD window.start }
      clamped := true }
  else { periods := periods, window := window, clamped := false }

/-! ## The rows -/

/-- A fill-up or a daily report, as the summary counts it. -/
structure Point (R : Type) where
  ts : Int
  liters : R
  km : R
  cost : R
  anomaly : Bool
  deriving DecidableEq, Repr

def inWindow (window : DayBounds) (t : Int) : Bool := window.start ≤ t ∧ t ≤ window.stop

def vehicleWhere (query : SummaryQuery) (vehicleId : String) : Bool :=
  match text query.vehicleId with
  | none => true
  | some id => vehicleId == id

def selectedLogs (db : FuelTables R) (companyId : String) (query : SummaryQuery)
    (window : DayBounds) : List (FuelLog R) :=
  (db.fuelLogs.filter fun l =>
    l.companyId == companyId && inWindow window l.fillDate && vehicleWhere query l.vehicleId)
    |>.insertionSort fun l l' => l.fillDate ≤ l'.fillDate

def selectedReports (db : FuelTables R) (companyId : String) (query : SummaryQuery)
    (window : DayBounds) : List (DailyFuelReport R) :=
  (db.dailyFuelReports.filter fun r =>
    r.companyId == companyId && inWindow window r.reportDate && vehicleWhere query r.vehicleId)
    |>.insertionSort fun r r' => r.reportDate ≤ r'.reportDate

def logPoint (l : FuelLog R) : Point R :=
  { ts := l.fillDate, liters := l.liters, km := l.kilometers, cost := l.cost,
    anomaly := hasFuelAnomaly l }

def reportPoint (r : DailyFuelReport R) : Point R :=
  { ts := r.reportDate
    liters := r.distanceKm * r.consumptionLPer100Km.getD 0 / 100
    km := r.distanceKm
    cost := r.estimatedCost
    anomaly := r.gpsDataQuality == .suspicious }

/-- The reports that count were made under more than one consumption or price. -/
def mixedSettings (reports : List (DailyFuelReport R)) : Bool :=
  let contributing := reports.filter fun r => 0 < r.distanceKm
  let distinctCons := (contributing.filterMap DailyFuelReport.consumptionLPer100Km).dedup
  let distinctPrice := ((contributing.filterMap DailyFuelReport.pricePerLiterUsed).filter
    fun p => 0 < p).dedup
  1 < distinctCons.length || 1 < distinctPrice.length

/-- Without a source, fill-ups when there are any. -/
def resolvedSource (db : FuelTables R) (companyId : String) (query : SummaryQuery)
    (window : DayBounds) : Source :=
  query.source.getD (if 0 < (selectedLogs db companyId query window).length then .logs else .gps)

def selectedPoints (db : FuelTables R) (companyId : String) (query : SummaryQuery)
    (window : DayBounds) : List (Point R) :=
  match resolvedSource db companyId query window with
  | .gps => (selectedReports db companyId query window).map reportPoint
  | .logs => (selectedLogs db companyId query window).map logPoint

/-! ## Adding up -/

structure Agg (R : Type) where
  liters : R
  km : R
  cost : R
  logCount : Nat
  anomalyCount : Nat
  deriving DecidableEq, Repr

def Agg.empty : Agg R := { liters := 0, km := 0, cost := 0, logCount := 0, anomalyCount := 0 }

def Agg.add (a : Agg R) (pt : Point R) : Agg R :=
  { liters := a.liters + pt.liters
    km := a.km + pt.km
    cost := a.cost + pt.cost
    logCount := a.logCount + 1
    anomalyCount := a.anomalyCount + pt.anomaly.toNat }

/-- What the points come to, period by period. -/
def byKey (groupBy : GroupBy) (periods : List Period) (points : List (Point R)) :
    List (String × Agg R) :=
  collect (fun pt => (periodKeyStart groupBy pt.ts).key) .empty .add
    (periods.foldl (fun m p => put p.key .empty m) []) points

/-- What a period comes to, before rounding. -/
def aggOf (groupBy : GroupBy) (periods : List Period) (points : List (Point R)) (p : Period) :
    Agg R :=
  (get p.key (byKey groupBy periods points)).getD .empty

/-! ## The answer -/

def round2 (x : R) : R := JsMath.round (x * 100) / 100

/-- The numbers of a bucket, and of the totals. -/
structure Figures (R : Type) where
  totalLiters : R
  totalKm : R
  totalCost : R
  avgConsumption : Option R
  costPerKm : Option R
  logCount : Nat
  anomalyCount : Nat
  deriving DecidableEq, Repr

def Agg.figures (a : Agg R) : Figures R :=
  { totalLiters := round2 a.liters
    totalKm := round2 a.km
    totalCost := JsMath.round a.cost
    avgConsumption := if 0 < a.km then some (round2 (a.liters / a.km * 100)) else none
    costPerKm := if 0 < a.km then some (JsMath.round (a.cost / a.km)) else none
    logCount := a.logCount
    anomalyCount := a.anomalyCount }

/-- The answer gives the key of the period, the date it starts on and the instant it stops. -/
structure Bucket (R : Type) where
  period : Period
  figures : Figures R
  deriving DecidableEq, Repr

structure Summary (R : Type) where
  groupBy : GroupBy
  source : Source
  estimated : Bool
  mixedSettings : Bool
  range : DayBounds
  clamped : Bool
  buckets : List (Bucket R)
  totals : Figures R
  periodCount : Nat
  activePeriodCount : Nat
  deriving DecidableEq, Repr

/-- The totals are taken over the points. -/
def totalsOf (points : List (Point R)) : Agg R :=
  { liters := points.foldl (fun s p => s + p.liters) 0
    km := points.foldl (fun s p => s + p.km) 0
    cost := points.foldl (fun s p => s + p.cost) 0
    logCount := points.length
    anomalyCount := (points.filter Point.anomaly).length }

/-- The summary of a window. -/
def summaryOf (db : FuelTables R) (companyId : String) (groupBy : GroupBy) (query : SummaryQuery)
    (window : DayBounds) : Summary R :=
  let shown := shownPeriods groupBy window
  let source := resolvedSource db companyId query shown.window
  let points := selectedPoints db companyId query shown.window
  let buckets := shown.periods.map fun p =>
    { period := p, figures := (aggOf groupBy shown.periods points p).figures }
  { groupBy := groupBy
    source := source
    estimated := source == .gps
    mixedSettings := source == .gps && mixedSettings (selectedReports db companyId query shown.window)
    range := shown.window
    clamped := shown.clamped
    buckets := buckets
    totals := (totalsOf points).figures
    periodCount := buckets.length
    activePeriodCount := (buckets.filter fun b => 0 < b.figures.logCount).length }

def getPeriodSummary (parseDate : String → Option Int) (now : Int) (db : FuelTables R)
    (companyId : String) (query : SummaryQuery) : Except String (Summary R) := do
  let groupBy := query.groupBy.getD .month
  let window ← requestedWindow parseDate now groupBy query
  return summaryOf db companyId groupBy query window

/-! ## Which periods are shown -/

section Periods

variable {g : GroupBy} {w : DayBounds}

/-- `n` consecutive periods, from number `k` on. -/
def periodsFrom (g : GroupBy) (k : Int) (n : Nat) : List Period :=
  (List.range n).map fun i : Nat => periodAt g (k + i)

@[simp] theorem length_periodsFrom (g : GroupBy) (k : Int) (n : Nat) :
    (periodsFrom g k n).length = n := by
  simp [periodsFrom]

theorem periodsFrom_succ (g : GroupBy) (k : Int) (n : Nat) :
    periodsFrom g k (n + 1) = periodAt g k :: periodsFrom g (k + 1) n := by
  have hshift : ∀ i : Nat, k + ((i + 1 : Nat) : Int) = k + 1 + i := by
    intro i
    omega
  rw [periodsFrom, List.range_succ_eq_map, List.map_cons, List.map_map]
  refine congrArg₂ List.cons (by simp) (List.map_congr_left fun i _ => ?_)
  exact congrArg (periodAt g) (hshift i)

theorem drop_periodsFrom (g : GroupBy) : ∀ (j : Nat) (k : Int) (n : Nat),
    (periodsFrom g k (j + n)).drop j = periodsFrom g (k + j) n
  | 0, k, n => by simp
  | j + 1, k, n => by
    have hshift : k + ((j + 1 : Nat) : Int) = k + 1 + j := by omega
    rw [Nat.add_right_comm, periodsFrom_succ, List.drop_succ_cons, drop_periodsFrom, hshift]

/-- The number of periods that meet a window. -/
def periodCount (g : GroupBy) (w : DayBounds) : Nat :=
  (periodOf g w.stop + 1 - periodOf g w.start).toNat

theorem enumerateFrom_eq (stop : Int) : ∀ (n : Nat) (k : Int), Modern (startAt g (k + 1)) →
    enumerateFrom g stop n (periodAt g k) =
      periodsFrom g k (min n (periodOf g stop + 1 - k).toNat)
  | 0, k, _ => by simp [enumerateFrom, periodsFrom]
  | n + 1, k, hk => by
    have hnext : Modern (startAt g (k + 1 + 1)) := hk.mono (startAt_le g (by omega))
    have hcursor : periodKeyStart g (periodAt g k).stop = periodAt g (k + 1) := by
      rw [show (periodAt g k).stop = startAt g (k + 1) from rfl, periodKeyStart_eq hk,
        periodOf_startAt]
    have hcond : (periodAt g k).start ≤ stop ↔ k ≤ periodOf g stop := startAt_le_iff g
    rw [enumerateFrom]
    by_cases hle : k ≤ periodOf g stop
    · have hcount : min (n + 1) (periodOf g stop + 1 - k).toNat =
          min n (periodOf g stop + 1 - (k + 1)).toNat + 1 := by omega
      rw [if_pos (hcond.mpr hle), hcursor, enumerateFrom_eq stop n (k + 1) hnext, hcount,
        periodsFrom_succ]
    · have hcount : min (n + 1) (periodOf g stop + 1 - k).toNat = 0 := by omega
      rw [if_neg (mt hcond.mp hle), hcount]
      rfl

theorem enumeratePeriods_eq (hw : Modern w.start) :
    enumeratePeriods g w = periodsFrom g (periodOf g w.start) (min 400 (periodCount g w)) := by
  have hnext : Modern (startAt g (periodOf g w.start + 1)) :=
    hw.mono ((lt_startAt_iff g).mpr (by omega)).le
  rw [enumeratePeriods, periodKeyStart_eq hw, enumerateFrom_eq w.stop 400 _ hnext]
  rfl

/-- What is shown are the last of the first 400 periods of the window. -/
theorem shownPeriods_spec (hw : Modern w.start) (hle : w.start ≤ w.stop) :
    ∃ (k : Int) (n : Nat), 0 < n ∧ (shownPeriods g w).periods = periodsFrom g k n ∧
      k + n = periodOf g w.start + (min 400 (periodCount g w) : Nat) ∧
      (shownPeriods g w).window.stop = w.stop ∧
      w.start ≤ (shownPeriods g w).window.start ∧
      k ≤ periodOf g (shownPeriods g w).window.start := by
  have hmono := periodOf_mono g hle
  have hpos : 0 < periodCount g w := by
    unfold periodCount
    omega
  have hbound : 0 < maxBuckets g := by cases g <;> decide
  simp only [shownPeriods, enumeratePeriods_eq hw, length_periodsFrom]
  split
  · rename_i hmany
    obtain ⟨j, hj⟩ := Nat.exists_eq_add_of_lt hmany
    have hlen : min 400 (periodCount g w) = j + 1 + maxBuckets g := by omega
    have hdrop := drop_periodsFrom g (j + 1) (periodOf g w.start) (maxBuckets g)
    have hfirst : periodsFrom g (periodOf g w.start + (j + 1 : Nat)) (maxBuckets g) =
        periodAt g (periodOf g w.start + (j + 1 : Nat)) ::
          periodsFrom g (periodOf g w.start + (j + 1 : Nat) + 1) (maxBuckets g - 1) := by
      rw [← periodsFrom_succ, Nat.sub_add_cancel hbound]
    refine ⟨periodOf g w.start + (j + 1 : Nat), maxBuckets g, hbound, ?_, by omega, rfl, ?_, ?_⟩
    · rw [hlen, Nat.add_sub_cancel, hdrop]
    · rw [hlen, Nat.add_sub_cancel, hdrop, hfirst]
      exact ((lt_startAt_iff g).mpr (by omega)).le
    · rw [hlen, Nat.add_sub_cancel, hdrop, hfirst]
      exact (startAt_le_iff g).mp (le_refl _)
  · exact ⟨periodOf g w.start, min 400 (periodCount g w), by omega, rfl, rfl, rfl, le_refl _,
      le_refl _⟩

end Periods

/-! ## What the points of a period add up to -/

section Adding

variable {g : GroupBy}

omit [LinearOrder R] [JsMath R] in
theorem totalsOf_eq (points : List (Point R)) :
    totalsOf points =
      { liters := (points.map Point.liters).sum
        km := (points.map Point.km).sum
        cost := (points.map Point.cost).sum
        logCount := (points.map fun _ => 1).sum
        anomalyCount := (points.map fun pt => pt.anomaly.toNat).sum } := by
  have hcount : (points.filter Point.anomaly).length =
      (points.map fun pt => pt.anomaly.toNat).sum := by
    induction points with
    | nil => rfl
    | cons pt points ih => cases h : pt.anomaly <;> simp [h, ih, add_comm]
  have hsum : ∀ f : Point R → R, points.foldl (fun s p => s + f p) 0 = (points.map f).sum := by
    intro f
    rw [List.sum_eq_foldl, List.foldl_map]
  simp only [totalsOf, hsum, hcount]
  simp

omit [LinearOrder R] [JsMath R] in
/-- Adding points one by one, from `a` on. -/
theorem foldl_add_eq (points : List (Point R)) (a : Agg R) :
    points.foldl Agg.add a =
      { liters := a.liters + (points.map Point.liters).sum
        km := a.km + (points.map Point.km).sum
        cost := a.cost + (points.map Point.cost).sum
        logCount := a.logCount + (points.map fun _ => 1).sum
        anomalyCount := a.anomalyCount + (points.map fun pt => pt.anomaly.toNat).sum } := by
  induction points generalizing a with
  | nil => simp
  | cons pt points ih =>
    rw [List.foldl_cons, ih]
    simp only [Agg.add, List.map_cons, List.sum_cons, add_assoc]

omit [LinearOrder R] [JsMath R] in
/-- Every period starts from nothing. -/
theorem get_emptied (key : String) (periods : List Period) (m : List (String × Agg R))
    (hm : (get key m).getD .empty = Agg.empty) :
    (get key (periods.foldl (fun m p => put p.key .empty m) m)).getD .empty = Agg.empty := by
  induction periods generalizing m with
  | nil => exact hm
  | cons p periods ih =>
    refine ih (put p.key .empty m) ?_
    by_cases hp : p.key = key
    · rw [hp, get_put_self]
      rfl
    · rw [get_put_ne hp]
      exact hm

omit [LinearOrder R] [JsMath R] in
/-- A period adds up the points that are in it. -/
theorem aggOf_periodAt (periods : List Period) {points : List (Point R)}
    (hmodern : ∀ pt ∈ points, Modern pt.ts) (k : Int) :
    aggOf g periods points (periodAt g k) =
      totalsOf (points.filter fun pt => periodOf g pt.ts = k) := by
  have hget := get_collect (fun pt : Point R => (periodKeyStart g pt.ts).key) Agg.empty Agg.add
    (keyAt g k) points (periods.foldl (fun m p => put p.key .empty m) [])
  have hsame : points.filter (fun pt => (periodKeyStart g pt.ts).key = keyAt g k) =
      points.filter fun pt => periodOf g pt.ts = k := by
    refine List.filter_congr fun pt hpt => ?_
    simp only [key_eq_iff (hmodern pt hpt) g k]
  rw [hsame, get_emptied _ periods [] rfl, foldl_add_eq] at hget
  refine hget.trans ?_
  rw [totalsOf_eq]
  simp [Agg.empty]

end Adding

/-! ## Nothing is lost, up to 400 periods -/

def Period.holds (p : Period) (t : Int) : Bool := p.start ≤ t ∧ t < p.stop

/-- The rows a summary is about. -/
def Summary.points (db : FuelTables R) (companyId : String) (query : SummaryQuery)
    (s : Summary R) : List (Point R) :=
  selectedPoints db companyId query s.range

/-- What a bucket comes to, before rounding. -/
def Summary.agg (s : Summary R) (points : List (Point R)) (b : Bucket R) : Agg R :=
  aggOf s.groupBy (s.buckets.map Bucket.period) points b.period

/-- The buckets follow one another up to the end of the window, and share out the rows of the
summary: the totals are those of the buckets. -/
structure Conserved (s : Summary R) (points : List (Point R)) : Prop where
  contiguous : s.buckets.IsChain fun b b' => b.period.stop = b'.period.start
  last : ∃ b, s.buckets.getLast? = some b ∧ b.period.holds s.range.stop = true
  placed : ∀ pt ∈ points, s.buckets.countP (·.period.holds pt.ts) = 1
  logCount : (s.buckets.map (·.figures.logCount)).sum = s.totals.logCount
  anomalyCount : (s.buckets.map (·.figures.anomalyCount)).sum = s.totals.anomalyCount
  /-- The numbers answered are these, rounded. -/
  rounded : (∀ b ∈ s.buckets, b.figures = (s.agg points b).figures) ∧
    s.totals = (totalsOf points).figures
  liters : (s.buckets.map fun b => (s.agg points b).liters).sum = (totalsOf points).liters
  km : (s.buckets.map fun b => (s.agg points b).km).sum = (totalsOf points).km
  cost : (s.buckets.map fun b => (s.agg points b).cost).sum = (totalsOf points).cost

section Conservation

variable {g : GroupBy}

theorem holds_periodAt (k t : Int) : (periodAt g k).holds t = true ↔ periodOf g t = k := by
  rw [Period.holds, decide_eq_true_eq, periodOf_eq_iff]
  rfl

theorem contiguous_periodsFrom (g : GroupBy) : ∀ (n : Nat) (k : Int),
    (periodsFrom g k n).IsChain fun p p' => p.stop = p'.start
  | 0, _ => .nil
  | 1, _ => .singleton _
  | n + 2, k => by
    have ih := contiguous_periodsFrom g (n + 1) (k + 1)
    rw [periodsFrom_succ] at ih ⊢
    rw [periodsFrom_succ]
    exact List.isChain_cons_cons.mpr ⟨rfl, ih⟩

theorem getLast?_periodsFrom (k : Int) (n : Nat) :
    (periodsFrom g k (n + 1)).getLast? = some (periodAt g (k + n)) := by
  rw [periodsFrom, List.range_succ, List.map_append, List.map_singleton, List.getLast?_concat]

/-- An instant is in one of consecutive periods. -/
theorem countP_periodsFrom {k t : Int} {n : Nat} (hlo : k ≤ periodOf g t)
    (hhi : periodOf g t < k + n) : (periodsFrom g k n).countP (·.holds t) = 1 := by
  obtain ⟨j, hj⟩ := Int.eq_ofNat_of_zero_le (a := periodOf g t - k) (by omega)
  have hsame : ∀ i ∈ List.range n, ((periodAt g (k + (i : Nat))).holds t = true ↔ (i == j) = true) := by
    intro i _
    rw [holds_periodAt, beq_iff_eq]
    omega
  rw [periodsFrom, List.countP_map]
  exact (List.countP_congr hsame).trans
    (List.count_eq_one_of_mem List.nodup_range (List.mem_range.mpr (by omega)))

omit [LinearOrder R] [JsMath R] in
/-- The selected rows lie in the window. -/
theorem mem_selectedPoints {db : FuelTables R} {companyId : String} {query : SummaryQuery}
    {window : DayBounds} {pt : Point R} (h : pt ∈ selectedPoints db companyId query window) :
    window.start ≤ pt.ts ∧ pt.ts ≤ window.stop := by
  unfold selectedPoints at h
  split at h
  · obtain ⟨r, hr, rfl⟩ := List.mem_map.mp h
    have hwhere := (List.mem_filter.mp ((List.mem_insertionSort _).mp hr)).2
    simp only [Bool.and_eq_true, inWindow, decide_eq_true_eq] at hwhere
    exact hwhere.1.2
  · obtain ⟨l, hl, rfl⟩ := List.mem_map.mp h
    have hwhere := (List.mem_filter.mp ((List.mem_insertionSort _).mp hl)).2
    simp only [Bool.and_eq_true, inWindow, decide_eq_true_eq] at hwhere
    exact hwhere.1.2

variable {points : List (Point R)} {k : Int} {n : Nat}

omit [LinearOrder R] [JsMath R] in
/-- What the periods of the points come to is what the points come to. -/
theorem sum_periodsFrom {M : Type} [AddCommMonoid M] (f : Point R → M) (part : Agg R → M)
    (hpart : ∀ l : List (Point R), part (totalsOf l) = (l.map f).sum)
    (hmodern : ∀ pt ∈ points, Modern pt.ts)
    (hin : ∀ pt ∈ points, k ≤ periodOf g pt.ts ∧ periodOf g pt.ts < k + n) :
    ((periodsFrom g k n).map fun p => part (aggOf g (periodsFrom g k n) points p)).sum =
      part (totalsOf points) := by
  have h := sum_by_index f (fun pt : Point R => periodOf g pt.ts) k n hin
  rw [periodsFrom, List.map_map, hpart, ← h]
  refine congrArg List.sum (List.map_congr_left fun i _ => ?_)
  rw [Function.comp_apply, aggOf_periodAt _ hmodern, hpart]

/-- A summary over consecutive periods up to the last one of the window loses nothing. -/
theorem conserved_of_periods (db : FuelTables R) (companyId : String) (query : SummaryQuery)
    {w : DayBounds} (hn : 0 < n) (hperiods : (shownPeriods g w).periods = periodsFrom g k n)
    (hmodern : Modern (shownPeriods g w).window.start)
    (hfirst : k ≤ periodOf g (shownPeriods g w).window.start)
    (hlast : k + n = periodOf g (shownPeriods g w).window.stop + 1) :
    Conserved (summaryOf db companyId g query w)
      ((summaryOf db companyId g query w).points db companyId query) := by
  obtain ⟨m, rfl⟩ := Nat.exists_eq_add_one.mpr hn
  set shown := shownPeriods g w with hshown
  have hmem : ∀ pt ∈ selectedPoints db companyId query shown.window,
      Modern pt.ts ∧ k ≤ periodOf g pt.ts ∧ periodOf g pt.ts < k + (m + 1 : Nat) := by
    intro pt hpt
    obtain ⟨hlo, hhi⟩ := mem_selectedPoints hpt
    have hlo' := periodOf_mono g hlo
    have hhi' := periodOf_mono g hhi
    exact ⟨hmodern.mono hlo, by omega, by omega⟩
  set points := selectedPoints db companyId query shown.window with hpoints
  have hsum := fun (M : Type) [AddCommMonoid M] (f : Point R → M) (part : Agg R → M) hpart =>
    sum_periodsFrom (g := g) f part hpart (fun pt hpt => (hmem pt hpt).1)
      fun pt hpt => (hmem pt hpt).2
  have hbuckets : (summaryOf db companyId g query w).buckets = (periodsFrom g k (m + 1)).map
      fun p => { period := p, figures := (aggOf g (periodsFrom g k (m + 1)) points p).figures } := by
    simp only [summaryOf, ← hshown, hperiods, hpoints]
  have hagg : ∀ b : Bucket R, (summaryOf db companyId g query w).agg points b =
      aggOf g (periodsFrom g k (m + 1)) points b.period := by
    intro b
    rw [Summary.agg, hbuckets, List.map_map]
    exact congrArg (aggOf g · points b.period) (List.map_id _)
  change Conserved (summaryOf db companyId g query w) points
  refine ⟨?_, ?_, ?_, ?_, ?_, ⟨?_, rfl⟩, ?_, ?_, ?_⟩
  · rw [hbuckets, List.isChain_map]
    exact contiguous_periodsFrom g (m + 1) k
  · rw [hbuckets, List.getLast?_map, getLast?_periodsFrom]
    refine ⟨_, rfl, (holds_periodAt (k + m) shown.window.stop).mpr ?_⟩
    omega
  · intro pt hpt
    rw [hbuckets, List.countP_map]
    exact countP_periodsFrom (hmem pt hpt).2.1 (hmem pt hpt).2.2
  · rw [hbuckets, List.map_map]
    exact hsum Nat (fun _ => 1) Agg.logCount fun l => by rw [totalsOf_eq]
  · rw [hbuckets, List.map_map]
    exact hsum Nat (fun pt => pt.anomaly.toNat) Agg.anomalyCount fun l => by rw [totalsOf_eq]
  · intro b hb
    rw [hbuckets] at hb
    obtain ⟨p, -, rfl⟩ := List.mem_map.mp hb
    exact congrArg Agg.figures (hagg { period := p, figures := _ }).symm
  · simp only [hagg]
    rw [hbuckets, List.map_map]
    exact hsum R Point.liters Agg.liters fun l => by rw [totalsOf_eq]
  · simp only [hagg]
    rw [hbuckets, List.map_map]
    exact hsum R Point.km Agg.km fun l => by rw [totalsOf_eq]
  · simp only [hagg]
    rw [hbuckets, List.map_map]
    exact hsum R Point.cost Agg.cost fun l => by rw [totalsOf_eq]

/-- The last bucket stops short of the end of a window of more than 400 periods. -/
theorem not_conserved_of_many (db : FuelTables R) (companyId : String) (query : SummaryQuery)
    {w : DayBounds} {points : List (Point R)} (hn : 0 < n)
    (hperiods : (shownPeriods g w).periods = periodsFrom g k n)
    (hlast : k + n ≤ periodOf g (shownPeriods g w).window.stop) :
    ¬ Conserved (summaryOf db companyId g query w) points := by
  obtain ⟨m, rfl⟩ := Nat.exists_eq_add_one.mpr hn
  intro h
  obtain ⟨b, hb, hholds⟩ := h.last
  have hperiod : ((summaryOf db companyId g query w).buckets.map Bucket.period).getLast? =
      some (periodAt g (k + m)) := by
    rw [← getLast?_periodsFrom, ← hperiods]
    simp only [summaryOf, List.map_map]
    exact congrArg List.getLast? (List.map_id _)
  rw [List.getLast?_map, hb] at hperiod
  rw [Option.some.inj hperiod, holds_periodAt] at hholds
  change periodOf g (shownPeriods g w).window.stop = k + m at hholds
  omega

end Conservation

/-- A summary conserves its totals exactly when its window meets at most 400 periods. -/
theorem summary_conserved_iff (parseDate : String → Option Int) (now : Int) (db : FuelTables R)
    (companyId : String) (query : SummaryQuery) {w : DayBounds}
    (hw : requestedWindow parseDate now (query.groupBy.getD .month) query = .ok w)
    (hle : w.start ≤ w.stop) (hmodern : Modern w.start) :
    ∃ s, getPeriodSummary parseDate now db companyId query = .ok s ∧
      (Conserved s (s.points db companyId query) ↔
        periodCount (query.groupBy.getD .month) w ≤ 400) := by
  refine ⟨summaryOf db companyId (query.groupBy.getD .month) query w, ?_, ?_⟩
  · simp only [getPeriodSummary, hw]
    rfl
  · generalize query.groupBy.getD .month = g
    obtain ⟨k, n, hn, hperiods, hcount, hstop, hlater, hfirst⟩ :=
      shownPeriods_spec (g := g) hmodern hle
    have hmono := periodOf_mono g hle
    constructor
    · intro h
      by_contra hmany
      refine not_conserved_of_many db companyId query hn hperiods ?_ h
      rw [hstop, hcount]
      unfold periodCount at hmany ⊢
      omega
    · intro hfew
      refine conserved_of_periods db companyId query hn hperiods (hmodern.mono hlater) hfirst ?_
      rw [hstop, hcount]
      unfold periodCount at hfew ⊢
      omega

/-! ## An inspection over two years and a half -/

/-- Days from 2024-01-01 to 2026-09-10, the fill-ups of one company. -/
def longQuery : SummaryQuery :=
  { groupBy := some .day, source := some .logs, vehicleId := none,
    fromDate := some "2024-01-01T00:00:00.000Z", toDate := some "2026-09-10T00:00:00.000Z" }

/-- September alone. -/
def shortQuery : SummaryQuery := { longQuery with fromDate := some "2026-09-01T00:00:00.000Z" }

/-- `new Date(raw)` on the texts of the two queries. -/
def parseSample (raw : String) : Option Int :=
  if raw = "2024-01-01T00:00:00.000Z" then some 1704067200000
  else if raw = "2026-09-01T00:00:00.000Z" then some 1788220800000
  else if raw = "2026-09-10T00:00:00.000Z" then some 1788998400000
  else none

/-- A fill-up on 2026-09-08. -/
def fillUp : FuelLog ℚ :=
  { id := "log-1", companyId := "company-1", vehicleId := "vehicle-1", fillDate := 1788847200000
    liters := 50, kilometers := 400, cost := 200000, consumptionAnomalyFlag := false
    gpsAnomalyFlag := false, gpsCoverageInsufficientFlag := false }

def oneFillUp : FuelTables ℚ := { fuelLogs := [fillUp], dailyFuelReports := [] }

theorem september_conserved :
    ∃ s, getPeriodSummary parseSample 0 oneFillUp "company-1" shortQuery = .ok s ∧
      (Conserved s (s.points oneFillUp "company-1" shortQuery) ↔
        periodCount .day ⟨1788220800000, 1788998400000⟩ ≤ 400) :=
  summary_conserved_iff parseSample 0 oneFillUp "company-1" shortQuery (by decide +kernel)
    (by decide +kernel) (by decide +kernel)

/-- The fill-up is counted in the totals and in no bucket: the last one is a day of 2025. -/
theorem long_window_loses_fillUp :
    ∃ s, getPeriodSummary parseSample 0 oneFillUp "company-1" longQuery = .ok s ∧
      s.points oneFillUp "company-1" longQuery = [logPoint fillUp] ∧
      s.buckets.countP (·.period.holds fillUp.fillDate) = 0 ∧
      ¬ Conserved s (s.points oneFillUp "company-1" longQuery) := by
  have hw : requestedWindow parseSample 0 .day longQuery = .ok ⟨1704067200000, 1788998400000⟩ := by
    decide +kernel
  have hlost : (summaryOf oneFillUp "company-1" .day longQuery
        ⟨1704067200000, 1788998400000⟩).points oneFillUp "company-1" longQuery = [logPoint fillUp] ∧
      (summaryOf oneFillUp "company-1" .day longQuery
        ⟨1704067200000, 1788998400000⟩).buckets.countP (·.period.holds fillUp.fillDate) = 0 := by
    decide +kernel
  refine ⟨summaryOf oneFillUp "company-1" .day longQuery ⟨1704067200000, 1788998400000⟩, ?_,
    hlost.1, hlost.2, fun h => ?_⟩
  · rw [getPeriodSummary, show longQuery.groupBy.getD .month = .day from rfl, hw]
    rfl
  · have hplaced := h.placed (logPoint fillUp) (by rw [hlost.1]; exact List.mem_singleton_self _)
    exact absurd (hplaced.symm.trans hlost.2) (by decide)

end DeliveryTracking.Fuel
