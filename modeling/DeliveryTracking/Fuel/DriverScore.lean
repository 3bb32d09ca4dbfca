/-
# `DeliveryTracking.Fuel.DriverScore` — the score of a driver's day

Every night each daily report with a distance gets a score: speeding and harsh
events are counted in the positions of the vehicle and day, and taken off 100.
The report is of a driver and a vehicle; the positions are fetched by vehicle.

A day on which others may have driven is described by the times at which the
vehicle has usable positions that are not the driver's (`SharedWithin`).  Scores
tell the driver's data only exactly when none of these times is in the day's
window (`scores_independent_iff`).
-/
import DeliveryTracking.Fuel.DailyReport

namespace DeliveryTracking.Fuel

open Geo
open Tracking (GpsPosition PositionTable)

variable {R : Type}

/-! ## Tables -/

/-- A row of `driver_scores`. -/
structure DriverScore (R : Type) where
  companyId : String
  driverId : String
  vehicleId : String
  scoreDate : Int
  score : R
  speedingEvents : Nat
  harshEvents : Nat
  distanceKm : R
  deriving DecidableEq, Repr

namespace DriverScore

def key (s : DriverScore R) : String × String × Int := (s.driverId, s.vehicleId, s.scoreDate)

/-- `update: { score, speedingEvents, harshEvents, distanceKm }`. -/
def set (w s : DriverScore R) : DriverScore R :=
  { s with score := w.score, speedingEvents := w.speedingEvents, harshEvents := w.harshEvents,
           distanceKm := w.distanceKm }

/-- What a row says of the driver. -/
def values (s : DriverScore R) : R × Nat × Nat := (s.score, s.speedingEvents, s.harshEvents)

end DriverScore

abbrev ScoreTable (R : Type) := Table (DriverScore.key (R := R)) Eq

structure ScoreDb (R : Type) where
  companies : List String
  reports : ReportTable R
  positions : PositionTable R
  /-- `settings?.speedAlertThreshold ?? null`. -/
  speedAlertThreshold : String → Option R
  scores : ScoreTable R

/-! ## Scoring -/

section Scoring

variable [Field R] [LinearOrder R] [JsMath R]

def speedingPenaltyPerEvent : R := 2
def speedingPenaltyCap : R := 30
def harshPenaltyPerEvent : R := 1
def harshPenaltyCap : R := 30
def harshAccelThresholdKmhPerS : R := 8

/-- `HARSH_EVENT_MAX_GAP_S`, in milliseconds. -/
def harshEventMaxGap : Int := 5000
def normalizationStepKm : R := 100
def minDistanceForNormalizationKm : R := 20

/-- `MAX_POSITIONS_PER_SCORE`. -/
def maxPositionsPerScore : Nat := 60000

/-- A position above the threshold; a threshold of 0 is none. -/
def isSpeeding (threshold : Option R) (p : GpsPosition R) : Bool :=
  match threshold, p.speed with
  | some kmh, some speed => kmh ≠ 0 ∧ kmh < speed * (36 / 10)
  | _, _ => false

/-- The speed changes too fast between two positions close to each other. -/
def isHarsh (prev cur : GpsPosition R) : Bool :=
  match prev.speed, cur.speed with
  | some before, some after =>
    let dt := cur.timestamp - prev.timestamp
    (0 < dt ∧ dt ≤ harshEventMaxGap) ∧
      harshAccelThresholdKmhPerS ≤ |after - before| * (36 / 10) / secs dt
  | _, _ => false

def countHarsh : List (GpsPosition R) → Nat
  | prev :: cur :: rest => (if isHarsh prev cur then 1 else 0) + countHarsh (cur :: rest)
  | _ => 0

/-- The speeding and the harsh events. -/
def computeEvents (positions : List (GpsPosition R)) (threshold : Option R) : Nat × Nat :=
  (positions.countP (isSpeeding threshold), countHarsh positions)

def computePenalty (events : Nat) (distanceKm perEvent cap : R) : R :=
  if events = 0 then 0
  else
    let normalizedEvents := if minDistanceForNormalizationKm ≤ distanceKm then
        (events : R) / (distanceKm / normalizationStepKm)
      else (events : R)
    min cap (normalizedEvents * perEvent)

def computeScore (speedingEvents harshEvents : Nat) (distanceKm : R) : R :=
  let speedingPenalty :=
    computePenalty speedingEvents distanceKm speedingPenaltyPerEvent speedingPenaltyCap
  let harshPenalty := computePenalty harshEvents distanceKm harshPenaltyPerEvent harshPenaltyCap
  max 0 (JsMath.round (100 - speedingPenalty - harshPenalty))

namespace ScoreDb

variable (db : ScoreDb R) (now : Int)

omit [Field R] [LinearOrder R] [JsMath R] in
/-- The positions a report is scored from; the window is the one of the reports
(`driverScore_bounds`). -/
def scoredPositions (r : DailyFuelReport R) : List (GpsPosition R) :=
  (inOrder db.positions.rows fun p =>
    p.vehicleId == r.vehicleId && inDay r.companyId now p).take maxPositionsPerScore

/-- The row a report is given. -/
def scoreOf (r : DailyFuelReport R) : DriverScore R :=
  let events := computeEvents (db.scoredPositions now r) (db.speedAlertThreshold r.companyId)
  { companyId := r.companyId
    driverId := r.driverId
    vehicleId := r.vehicleId
    scoreDate := r.reportDate
    score := computeScore events.1 events.2 r.distanceKm
    speedingEvents := events.1
    harshEvents := events.2
    distanceKm := r.distanceKm }

/-- The reports of a company that are scored. -/
def scoredReports (companyId : String) : List (DailyFuelReport R) :=
  (db.reports.findMany fun r =>
    r.companyId == companyId && r.reportDate == reportDateOf now).filter fun r => 0 < r.distanceKm

/-- A night's work under the lock. -/
def generateDailyScores : ScoreDb R :=
  let works := db.companies.flatMap fun c => (db.scoredReports now c).map (db.scoreOf now)
  { db with scores := Table.upserts (fun w => w) DriverScore.set (fun _ _ => rfl) works db.scores }

/-! ## What a night writes -/

variable {db db' : ScoreDb R} {now : Int} {driverId vehicleId : String} {r : DailyFuelReport R}

/-- The report is scored. -/
structure Scores (db : ScoreDb R) (now : Int) (r : DailyFuelReport R) : Prop where
  mem : r ∈ db.reports.rows
  company : r.companyId ∈ db.companies
  date : r.reportDate = reportDateOf now
  distance : 0 < r.distanceKm

theorem mem_works {w : DriverScore R} :
    (w ∈ db.companies.flatMap fun c => (db.scoredReports now c).map (db.scoreOf now)) ↔
      ∃ r, db.Scores now r ∧ db.scoreOf now r = w := by
  simp only [List.mem_flatMap, List.mem_map, scoredReports, Table.findMany, List.mem_filter,
    Bool.and_eq_true, beq_iff_eq, decide_eq_true_eq]
  constructor
  · rintro ⟨c, hc, r, ⟨⟨hr, rfl, hdate⟩, hdistance⟩, rfl⟩
    exact ⟨r, ⟨hr, hc, hdate, hdistance⟩, rfl⟩
  · rintro ⟨r, ⟨hr, hc, hdate, hdistance⟩, rfl⟩
    exact ⟨r.companyId, hc, r, ⟨⟨hr, rfl, hdate⟩, hdistance⟩, rfl⟩

/-- The row of a scored report gets its score. -/
theorem lookup_of_scores (h : db.Scores now r) :
    (db.generateDailyScores now).scores.lookup r.key =
      some ((db.scores.lookup r.key).elim (db.scoreOf now r) (DriverScore.set (db.scoreOf now r))) :=
    by
  refine Table.lookup_upserts_of_unique (fun w => w) DriverScore.set (fun _ _ => rfl)
    (w := db.scoreOf now r) (mem_works.mpr ⟨r, h, rfl⟩) ?_ (fun _ => rfl) rfl _
  intro w hw hkey
  obtain ⟨r', h', rfl⟩ := mem_works.mp hw
  rw [Table.eq_of_clash (fun _ _ => Eq.symm) h'.mem h.mem hkey]

/-- The row of a pair without a scored report is not touched. -/
theorem lookup_of_not_scores {k : String × String × Int}
    (h : ∀ r, db.Scores now r → r.key ≠ k) :
    (db.generateDailyScores now).scores.lookup k = db.scores.lookup k := by
  refine Table.lookup_upserts_of_ne (fun w => w) DriverScore.set (fun _ _ => rfl) ?_ _
  intro w hw
  obtain ⟨r, hr, rfl⟩ := mem_works.mp hw
  exact h r hr

/-- What is stored for a driver and a vehicle on the day. -/
def stored (db : ScoreDb R) (now : Int) (driverId vehicleId : String) : Option (R × Nat × Nat) :=
  ((db.generateDailyScores now).scores.lookup (driverId, vehicleId, reportDateOf now)).map
    DriverScore.values

theorem stored_of_scores (h : db.Scores now r) :
    db.stored now r.driverId r.vehicleId = some (db.scoreOf now r).values := by
  have hlookup := lookup_of_scores h
  have hkey : r.key = (r.driverId, r.vehicleId, reportDateOf now) := by
    rw [DailyFuelReport.key, h.date]
  rw [hkey] at hlookup
  rw [stored, hlookup]
  cases db.scores.lookup (r.driverId, r.vehicleId, reportDateOf now) with
  | none => rfl
  | some s => rfl

/-! ## Two databases -/

/-- The databases agree on the driver's positions, on the report of the pair, and on what is no
position. -/
structure Agree (now : Int) (driverId vehicleId : String) (db db' : ScoreDb R) : Prop where
  companies : db.companies = db'.companies
  threshold : db.speedAlertThreshold = db'.speedAlertThreshold
  report : db.reports.lookup (driverId, vehicleId, reportDateOf now) =
    db'.reports.lookup (driverId, vehicleId, reportDateOf now)
  score : db.scores.lookup (driverId, vehicleId, reportDateOf now) =
    db'.scores.lookup (driverId, vehicleId, reportDateOf now)
  own : ∀ p : GpsPosition R, p.driverId = some driverId →
    (p ∈ db.positions.rows ↔ p ∈ db'.positions.rows)

/-- The usable positions of the vehicle that are not the driver's are of these times. -/
def SharedWithin (S : Int → Prop) (driverId vehicleId : String) (db : ScoreDb R) : Prop :=
  ∀ p ∈ db.positions.rows, p.vehicleId = vehicleId → p.suspect = false →
    p.driverId ≠ some driverId → S p.timestamp

omit [Field R] [LinearOrder R] [JsMath R] in
/-- Tables with the same positions for a query on one vehicle answer it alike. -/
theorem inOrder_eq_of_mem (vehicleId : String) {t t' : PositionTable R} {q : GpsPosition R → Bool}
    (hv : ∀ p, q p = true → p.vehicleId = vehicleId)
    (hmem : ∀ p, q p = true → (p ∈ t.rows ↔ p ∈ t'.rows)) :
    inOrder t.rows q = inOrder t'.rows q := by
  have hnodup : ∀ t : PositionTable R, (inOrder t.rows q).Nodup := by
    intro t
    have hkeys : (t.rows.map GpsPosition.key).Nodup := List.pairwise_map.mpr t.unique
    exact (List.perm_insertionSort _ _).nodup_iff.mpr (hkeys.of_map.filter _)
  have hperm : (inOrder t.rows q).Perm (inOrder t'.rows q) := by
    refine (List.perm_ext_iff_of_nodup (hnodup t) (hnodup t')).mpr fun p => ?_
    rw [mem_inOrder, mem_inOrder]
    exact and_congr_left fun hq => hmem p hq
  refine List.Perm.eq_of_pairwise ?_ (List.pairwise_insertionSort _ _)
    (List.pairwise_insertionSort _ _) hperm
  intro p p' hp hp' hle hle'
  obtain ⟨hrow, hq⟩ := mem_inOrder.mp (hperm.subset hp)
  obtain ⟨hrow', hq'⟩ := mem_inOrder.mp hp'
  refine Table.eq_of_clash (fun _ _ => Eq.symm) hrow hrow' (Prod.ext ?_ ?_)
  · exact (hv p hq).trans (hv p' hq').symm
  · exact le_antisymm hle hle'

omit [Field R] [LinearOrder R] [JsMath R] in
/-- The positions fetched for a report are the driver's own when nobody shares the vehicle in the
day's window. -/
theorem own_of_fetched {S : Int → Prop} {p : GpsPosition R} {companyId : String}
    (hshared : SharedWithin S driverId vehicleId db)
    (hS : ∀ t, S t → ¬(getMadagascarDayBounds now).Contains t) (hp : p ∈ db.positions.rows)
    (hv : p.vehicleId = vehicleId) (hday : inDay companyId now p = true) :
    p.driverId = some driverId := by
  rw [inDay, Bool.and_eq_true, Bool.and_eq_true, decide_eq_true_eq, Bool.not_eq_true'] at hday
  by_contra hother
  exact hS p.timestamp (hshared p hp hv hday.1.2 hother) hday.2

theorem Agree.scoreOf_eq {S : Int → Prop} (h : Agree now driverId vehicleId db db')
    (hshared : SharedWithin S driverId vehicleId db)
    (hshared' : SharedWithin S driverId vehicleId db')
    (hS : ∀ t, S t → ¬(getMadagascarDayBounds now).Contains t) (hv : r.vehicleId = vehicleId) :
    db.scoreOf now r = db'.scoreOf now r := by
  have hpositions : db.scoredPositions now r = db'.scoredPositions now r := by
    refine congrArg (List.take maxPositionsPerScore) (inOrder_eq_of_mem vehicleId ?_ ?_)
    · intro p hq
      rw [Bool.and_eq_true, beq_iff_eq] at hq
      exact hq.1.trans hv
    · intro p hq
      rw [Bool.and_eq_true, beq_iff_eq] at hq
      constructor
      · intro hp
        exact (h.own p (own_of_fetched hshared hS hp (hq.1.trans hv) hq.2)).mp hp
      · intro hp
        exact (h.own p (own_of_fetched hshared' hS hp (hq.1.trans hv) hq.2)).mpr hp
  rw [scoreOf, scoreOf, hpositions, h.threshold]

omit [JsMath R] in
theorem Agree.scores (h : Agree now driverId vehicleId db db') (hs : db.Scores now r)
    (hkey : r.key = (driverId, vehicleId, reportDateOf now)) : db'.Scores now r := by
  have hlookup : db.reports.lookup r.key = some r := Table.mem_rows_iff.mp hs.mem
  rw [hkey, h.report, ← hkey] at hlookup
  exact ⟨Table.mem_rows_iff.mpr hlookup, h.companies ▸ hs.company, hs.date, hs.distance⟩

omit [Field R] [LinearOrder R] [JsMath R] in
theorem Agree.symm (h : Agree now driverId vehicleId db db') :
    Agree now driverId vehicleId db' db :=
  ⟨h.companies.symm, h.threshold.symm, h.report.symm, h.score.symm, fun p hp => (h.own p hp).symm⟩

/-- Where nobody shares the vehicle in the window, what is stored is the driver's. -/
theorem Agree.stored_eq {S : Int → Prop} (h : Agree now driverId vehicleId db db')
    (hshared : SharedWithin S driverId vehicleId db)
    (hshared' : SharedWithin S driverId vehicleId db')
    (hS : ∀ t, S t → ¬(getMadagascarDayBounds now).Contains t) :
    db.stored now driverId vehicleId = db'.stored now driverId vehicleId := by
  by_cases hex : ∃ r, db.Scores now r ∧ r.key = (driverId, vehicleId, reportDateOf now)
  · obtain ⟨r, hs, hkey⟩ := hex
    have hs' := h.scores hs hkey
    have hd : r.driverId = driverId := congrArg Prod.fst hkey
    have hv : r.vehicleId = vehicleId := congrArg (fun k => k.2.1) hkey
    have hstored := stored_of_scores hs
    have hstored' := stored_of_scores hs'
    rw [hd, hv] at hstored hstored'
    rw [hstored, hstored', h.scoreOf_eq hshared hshared' hS hv]
  · have hnone : ∀ r, db.Scores now r → r.key ≠ (driverId, vehicleId, reportDateOf now) :=
      fun r hs hkey => hex ⟨r, hs, hkey⟩
    have hnone' : ∀ r, db'.Scores now r → r.key ≠ (driverId, vehicleId, reportDateOf now) :=
      fun r hs hkey => hex ⟨r, h.symm.scores hs hkey, hkey⟩
    rw [stored, stored, lookup_of_not_scores hnone, lookup_of_not_scores hnone', h.score]

/-! ## A shared vehicle -/

omit [LinearOrder R] [JsMath R] in
/-- A usable position of a company's vehicle. -/
def fixAt (vehicleId : String) (driver : String) (timestamp : Int) (speed : R) : GpsPosition R :=
  { vehicleId := vehicleId, timestamp := timestamp, latitude := 0, longitude := 0,
    speed := some speed, accuracy := none, suspect := false, source := .physicalTracker,
    deliveryId := none, driverId := some driver, companyId := "c1" }

omit [LinearOrder R] [JsMath R] in
/-- Ten kilometres of the driver with the vehicle. -/
def tenKilometres (now : Int) (driverId vehicleId : String) : DailyFuelReport R :=
  { driverId := driverId, vehicleId := vehicleId, reportDate := reportDateOf now, driverName := "",
    vehiclePlate := "", fuelType := "diesel", distanceKm := 10, gpsDataQuality := .sufficient,
    consumptionLPer100Km := none, estimatedCost := 0, pricePerLiterUsed := none,
    companyId := "c1" }

omit [LinearOrder R] [JsMath R] in
/-- A company with this one report. -/
def oneReport (now : Int) (driverId vehicleId : String) (positions : PositionTable R) : ScoreDb R :=
  { companies := ["c1"]
    reports := ⟨[tenKilometres now driverId vehicleId], List.pairwise_singleton _ _⟩
    positions := positions
    speedAlertThreshold := fun _ => none
    scores := .empty }

omit [LinearOrder R] [JsMath R] in
/-- The driver at rest, alone. -/
def alone (driverId vehicleId : String) (own : Int) : PositionTable R :=
  ⟨[fixAt vehicleId driverId own 0], List.pairwise_singleton _ _⟩

omit [LinearOrder R] [JsMath R] in
/-- The driver at rest, and another at full speed. -/
def shared (driverId vehicleId other : String) (own time : Int) (h : own ≠ time) :
    PositionTable R :=
  ⟨[fixAt vehicleId driverId own 0, fixAt vehicleId other time 100], by
    simp [fixAt, GpsPosition.key, h]⟩

section Shared

variable [IsStrictOrderedRing R] {own time : Int} {other : String}

omit [JsMath R] in
theorem scores_oneReport (now : Int) (driverId vehicleId : String) (positions : PositionTable R) :
    (oneReport now driverId vehicleId positions).Scores now
      (tenKilometres now driverId vehicleId) := by
  refine ⟨List.mem_singleton_self _, List.mem_singleton_self _, rfl, ?_⟩
  show (0 : R) < 10
  norm_num

omit [LinearOrder R] [JsMath R] [IsStrictOrderedRing R] in
/-- A few positions of the window are all fetched for the report. -/
theorem scoredPositions_oneReport (now : Int) (driverId : String) (positions : PositionTable R)
    (hday : ∀ p ∈ positions.rows, p.vehicleId = vehicleId ∧ inDay "c1" now p = true)
    (hfew : positions.rows.length ≤ 2) :
    (oneReport now driverId vehicleId positions).scoredPositions now
        (tenKilometres now driverId vehicleId) =
      positions.rows.insertionSort fun p p' => p.timestamp ≤ p'.timestamp := by
  have hall : positions.rows.filter (fun p => p.vehicleId == vehicleId && inDay "c1" now p) =
      positions.rows := by
    refine List.filter_eq_self.mpr fun p hp => ?_
    rw [Bool.and_eq_true, beq_iff_eq]
    exact hday p hp
  show List.take maxPositionsPerScore (List.insertionSort
    (fun p p' : GpsPosition R => p.timestamp ≤ p'.timestamp)
    (positions.rows.filter fun p => p.vehicleId == vehicleId && inDay "c1" now p)) = _
  rw [hall]
  refine List.take_of_length_le ?_
  rw [List.length_insertionSort]
  exact hfew.trans (by decide)

omit [LinearOrder R] [JsMath R] [IsStrictOrderedRing R] in
theorem inDay_fixAt {driver : String} {speed : R} {t : Int}
    (ht : (getMadagascarDayBounds now).Contains t) :
    (fixAt vehicleId driver t speed).vehicleId = vehicleId ∧
      inDay "c1" now (fixAt vehicleId driver t speed) = true := by
  simp [fixAt, inDay, ht]

omit [IsStrictOrderedRing R] in
theorem harshEvents_alone (hown : (getMadagascarDayBounds now).Contains own) :
    ((oneReport now driverId vehicleId (alone (R := R) driverId vehicleId own)).scoreOf now
      (tenKilometres now driverId vehicleId)).harshEvents = 0 := by
  have hfetched := scoredPositions_oneReport now driverId (alone (R := R) driverId vehicleId own)
    (fun p hp => by rw [List.mem_singleton.mp hp]; exact inDay_fixAt hown) (by simp [alone])
  show countHarsh (scoredPositions _ _ _) = 0
  rw [hfetched]
  rfl

omit [JsMath R] in
theorem isHarsh_fixAt {driver driver' : String} {speed speed' : R} {t t' : Int}
    (ht : t' = t + 1000) (hspeed : |speed' - speed| = 100) :
    isHarsh (fixAt vehicleId driver t speed) (fixAt vehicleId driver' t' speed') = true := by
  have hdt : t' - t = 1000 := by omega
  have hsecs : secs (R := R) 1000 = 1 := by
    norm_num [secs]
  simp only [isHarsh, fixAt, hdt, hsecs, hspeed, harshEventMaxGap, harshAccelThresholdKmhPerS]
  norm_num

/-- The other's position a second from the driver's makes a harsh event. -/
theorem harshEvents_shared (hown : (getMadagascarDayBounds now).Contains own)
    (htime : (getMadagascarDayBounds now).Contains time) (hne : own ≠ time)
    (hnear : time = own + 1000 ∨ own = time + 1000) :
    ((oneReport now driverId vehicleId
      (shared (R := R) driverId vehicleId other own time hne)).scoreOf now
      (tenKilometres now driverId vehicleId)).harshEvents = 1 := by
  have hfetched := scoredPositions_oneReport now driverId
    (shared (R := R) driverId vehicleId other own time hne)
    (by
      intro p hp
      rcases List.mem_cons.mp hp with rfl | hp
      · exact inDay_fixAt hown
      · rw [List.mem_singleton.mp hp]
        exact inDay_fixAt htime)
    (by simp [shared])
  show countHarsh (scoredPositions _ _ _) = 1
  rw [hfetched]
  rcases hnear with hafter | hbefore
  · have hsort : (shared (R := R) driverId vehicleId other own time hne).rows.insertionSort
        (fun p p' => p.timestamp ≤ p'.timestamp)
        = [fixAt vehicleId driverId own 0, fixAt vehicleId other time 100] := by
      have hle : own ≤ time := by omega
      simp [shared, fixAt, hle]
    have hharsh : isHarsh (fixAt vehicleId driverId own (0 : R)) (fixAt vehicleId other time 100)
        = true := isHarsh_fixAt hafter (by norm_num)
    rw [hsort, countHarsh, if_pos hharsh]
    rfl
  · have hsort : (shared (R := R) driverId vehicleId other own time hne).rows.insertionSort
        (fun p p' => p.timestamp ≤ p'.timestamp)
        = [fixAt vehicleId other time 100, fixAt vehicleId driverId own 0] := by
      have hle : ¬own ≤ time := by omega
      simp [shared, fixAt, hle]
    have hharsh : isHarsh (fixAt vehicleId other time (100 : R)) (fixAt vehicleId driverId own 0)
        = true := isHarsh_fixAt hbefore (by norm_num)
    rw [hsort, countHarsh, if_pos hharsh]
    rfl

omit [LinearOrder R] [JsMath R] [IsStrictOrderedRing R] in
/-- The databases differ in the other's position only. -/
theorem agree_shared (hother : other ≠ driverId) (hne : own ≠ time) :
    Agree now driverId vehicleId
      (oneReport now driverId vehicleId (alone (R := R) driverId vehicleId own))
      (oneReport now driverId vehicleId (shared (R := R) driverId vehicleId other own time hne)) where
  companies := rfl
  threshold := rfl
  report := rfl
  score := rfl
  own p hp := by
    show p ∈ [_] ↔ p ∈ [_, _]
    rw [List.mem_cons, List.mem_cons, List.mem_singleton]
    refine or_congr_right ?_
    refine iff_of_false (by simp) ?_
    rintro rfl
    exact hother (Option.some.inj hp)

/-- Some instant of the window is a second from another. -/
theorem exists_near (htime : (getMadagascarDayBounds now).Contains time) :
    ∃ own, (getMadagascarDayBounds now).Contains own ∧ own ≠ time ∧
      (time = own + 1000 ∨ own = time + 1000) := by
  simp only [getMadagascarDayBounds_eq, DayBounds.Contains, Calendar.msPerDay_eq] at htime ⊢
  rcases Decidable.em (Calendar.day now * 86400000 - mgOffset ≤ time - 1000) with hearly | hlate
  · exact ⟨time - 1000, by omega, by omega, .inl (by omega)⟩
  · exact ⟨time + 1000, by omega, by omega, .inr rfl⟩

/-- Whatever happened on a vehicle that others share at the times `S`, the score of a driver and the
vehicle is the same in databases that agree on the driver's data, exactly when `S` has no time of
the day's window. -/
theorem scores_independent_iff (now : Int) (driverId vehicleId : String) (S : Int → Prop) :
    (∀ db db' : ScoreDb R, Agree now driverId vehicleId db db' →
        SharedWithin S driverId vehicleId db → SharedWithin S driverId vehicleId db' →
        db.stored now driverId vehicleId = db'.stored now driverId vehicleId) ↔
      ∀ t, S t → ¬(getMadagascarDayBounds now).Contains t := by
  constructor
  · intro hsame time hS htime
    obtain ⟨own, hown, hne, hnear⟩ := exists_near htime
    obtain ⟨other, hother⟩ : ∃ other : String, other ≠ driverId := by
      by_cases h : driverId = ""
      · exact ⟨"x", by rw [h]; decide⟩
      · exact ⟨"", Ne.symm h⟩
    have hstored := hsame _ _ (agree_shared (R := R) hother hne)
      ?_ ?_
    · have halone := stored_of_scores (scores_oneReport now driverId vehicleId
        (alone (R := R) driverId vehicleId own))
      have hshared := stored_of_scores (scores_oneReport now driverId vehicleId
        (shared (R := R) driverId vehicleId other own time hne))
      have hvalues := Option.some.inj (halone.symm.trans (hstored.trans hshared))
      have hharsh := congrArg (fun v => v.2.2) hvalues
      simp only [DriverScore.values, harshEvents_alone hown,
        harshEvents_shared hown htime hne hnear] at hharsh
      cases hharsh
    · intro p hp _ _ hnot
      rw [List.mem_singleton.mp hp] at hnot
      exact absurd rfl hnot
    · intro p hp _ _ hnot
      rcases List.mem_cons.mp hp with rfl | hp
      · exact absurd rfl hnot
      · rw [List.mem_singleton.mp hp]
        exact hS
  · intro hS db db' hagree hshared hshared'
    exact hagree.stored_eq hshared hshared' hS

/-- Two scores of one driver, with and without another's position on the vehicle. -/
theorem scores_not_independent :
    ¬∀ db db' : ScoreDb ℚ, Agree 0 "d1" "v1" db db' →
      db.stored 0 "d1" "v1" = db'.stored 0 "d1" "v1" := by
  intro hclaim
  have hne : (0 : Int) ≠ 1000 := by decide
  have hstored := hclaim _ _ (agree_shared (by decide : "d2" ≠ "d1") hne)
  have halone := stored_of_scores (scores_oneReport 0 "d1" "v1"
    (alone (R := ℚ) "d1" "v1" 0))
  have hshared := stored_of_scores (scores_oneReport 0 "d1" "v1"
    (shared (R := ℚ) "d1" "v1" "d2" 0 1000 hne))
  have hvalues := Option.some.inj (halone.symm.trans (hstored.trans hshared))
  have hharsh := congrArg (fun v => v.2.2) hvalues
  simp only [DriverScore.values, harshEvents_alone (by decide : (getMadagascarDayBounds 0).Contains 0),
    harshEvents_shared (by decide : (getMadagascarDayBounds 0).Contains 0)
      (by decide : (getMadagascarDayBounds 0).Contains 1000) hne (.inl rfl)] at hharsh
  cases hharsh

theorem scores_independent_iff_nextDay :
    ¬(getMadagascarDayBounds 0).Contains 80000000 ∧
      ∀ db db' : ScoreDb ℚ, Agree 0 "d1" "v1" db db' →
        SharedWithin (· = 80000000) "d1" "v1" db → SharedWithin (· = 80000000) "d1" "v1" db' →
        db.stored 0 "d1" "v1" = db'.stored 0 "d1" "v1" := by
  have hout : ¬(getMadagascarDayBounds 0).Contains 80000000 := by decide
  refine ⟨hout, (scores_independent_iff 0 "d1" "v1" (· = 80000000)).mpr ?_⟩
  rintro t rfl
  exact hout

end Shared

end ScoreDb

end Scoring

end DeliveryTracking.Fuel
