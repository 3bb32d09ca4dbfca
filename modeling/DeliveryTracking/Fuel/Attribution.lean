/-
# `DeliveryTracking.Fuel.Attribution` — whose report a position counts in

`resolvedDriver` says whose report a position belongs to, `counted` collects a
report's positions by it, and `dailyReports_partition` is that the rows after a
first run of a day are exactly the reports on `counted`.
-/
import Mathlib.Data.List.Perm.Basic
import DeliveryTracking.Fuel.DailyReport

namespace DeliveryTracking.Fuel

open Geo
open Tracking (GpsPosition)

variable {R : Type}

/-! ## Whose position it is -/

section Attribution

variable (fleet : Fleet R) (companyId : String) (targetDate : Int)

/-- The driver whose report a position belongs to: its own if active, else the one its vehicle is
reported for. -/
def resolvedDriver (p : GpsPosition R) : Option String :=
  match p.driverId with
  | some d =>
    if d ∈ fleet.activeDriverIds companyId then some d
    else if p.vehicleId ∈ fleet.activeVehicleIds companyId then
      reportDriver fleet companyId targetDate p.vehicleId
    else none
  | none =>
    if p.vehicleId ∈ fleet.activeVehicleIds companyId then
      reportDriver fleet companyId targetDate p.vehicleId
    else none

/-- The positions of the day a report counts. -/
def counted (driverId vehicleId : String) : List (GpsPosition R) :=
  inOrder fleet.positions.rows fun p =>
    (p.vehicleId == vehicleId && inDay companyId targetDate p) &&
      resolvedDriver fleet companyId targetDate p == some driverId

/-- Some driver can be found for a position: one seen on its vehicle that day, itself included, or
the vehicle's current one. -/
def HasDriver (p : GpsPosition R) : Prop :=
  (∃ p' ∈ fleet.positions.rows, p'.vehicleId = p.vehicleId ∧
    inDay companyId targetDate p' = true ∧ p'.driverId ≠ none) ∨
    fleet.currentDriver p.vehicleId ≠ none

/-- No query of a run reaches its row cap. -/
structure BelowCaps : Prop where
  driver : ∀ d ∈ fleet.activeDriverIds companyId, (fleet.positions.rows.filter fun p =>
    p.driverId == some d && inDay companyId targetDate p).length ≤ maxPositions
  vehicle : ∀ v ∈ fleet.activeVehicleIds companyId, (fleet.positions.rows.filter fun p =>
    p.vehicleId == v && inDay companyId targetDate p).length ≤ maxPositions

variable {fleet companyId targetDate}

theorem inOrder_congr {positions : List (GpsPosition R)} {q q' : GpsPosition R → Bool}
    (h : ∀ p ∈ positions, q p = q' p) : inOrder positions q = inOrder positions q' := by
  rw [inOrder, inOrder, List.filter_congr h]

theorem nodup_counted (driverId vehicleId : String) :
    (counted fleet companyId targetDate driverId vehicleId).Nodup := by
  have hkeys : (fleet.positions.rows.map GpsPosition.key).Nodup :=
    List.pairwise_map.mpr fleet.positions.unique
  exact (List.perm_insertionSort _ _).nodup_iff.mpr (hkeys.of_map.filter _)

theorem mem_counted {driverId vehicleId : String} {p : GpsPosition R} :
    p ∈ counted fleet companyId targetDate driverId vehicleId ↔
      p ∈ fleet.positions.rows ∧ p.vehicleId = vehicleId ∧ inDay companyId targetDate p = true ∧
        resolvedDriver fleet companyId targetDate p = some driverId := by
  rw [counted, mem_inOrder, Bool.and_eq_true, Bool.and_eq_true, beq_iff_eq, beq_iff_eq, and_assoc]

theorem vehiclePositions_eq (hcaps : BelowCaps fleet companyId targetDate) {vehicleId : String}
    (hactive : vehicleId ∈ fleet.activeVehicleIds companyId) :
    vehiclePositions fleet companyId targetDate vehicleId =
      inOrder fleet.positions.rows fun p =>
        p.vehicleId == vehicleId && inDay companyId targetDate p := by
  refine List.take_of_length_le ?_
  rw [inOrder, List.length_insertionSort]
  exact hcaps.vehicle vehicleId hactive

theorem ownGroup_eq (hcaps : BelowCaps fleet companyId targetDate) {driverId : String}
    (hactive : driverId ∈ fleet.activeDriverIds companyId) (vehicleId : String) :
    ownGroup fleet companyId targetDate driverId vehicleId =
      inOrder fleet.positions.rows fun p =>
        (p.driverId == some driverId && inDay companyId targetDate p) &&
          p.vehicleId == vehicleId := by
  have hall : driverPositions fleet companyId targetDate driverId =
      inOrder fleet.positions.rows fun p =>
        p.driverId == some driverId && inDay companyId targetDate p := by
    refine List.take_of_length_le ?_
    rw [inOrder, List.length_insertionSort]
    exact hcaps.driver driverId hactive
  rw [ownGroup, hall]
  exact filter_inOrder vehicleId (fun _ => rfl) fun p hp => by
    simpa using (Bool.and_eq_true_iff.mp hp).2

theorem mem_vehiclePositions (hcaps : BelowCaps fleet companyId targetDate) {vehicleId : String}
    (hactive : vehicleId ∈ fleet.activeVehicleIds companyId) {p : GpsPosition R} :
    p ∈ vehiclePositions fleet companyId targetDate vehicleId ↔
      p ∈ fleet.positions.rows ∧ p.vehicleId = vehicleId ∧ inDay companyId targetDate p = true := by
  rw [vehiclePositions_eq hcaps hactive, mem_inOrder, Bool.and_eq_true, beq_iff_eq]

/-- On a vehicle reported for a driver, the driver's report counts what nobody else reports on. -/
theorem vehicleGroup_eq (hcaps : BelowCaps fleet companyId targetDate) {driverId vehicleId : String}
    (hfor : ReportsFor fleet companyId targetDate driverId vehicleId) :
    vehicleGroup fleet companyId targetDate driverId vehicleId =
      counted fleet companyId targetDate driverId vehicleId := by
  obtain ⟨hactive, -, hreport⟩ := hfor
  rw [vehicleGroup, scopedPositions, vehiclePositions_eq hcaps hactive]
  refine filter_inOrder vehicleId (fun p => ?_) fun p hp => by
    simpa using (Bool.and_eq_true_iff.mp (Bool.and_eq_true_iff.mp hp).1).1
  by_cases hv : p.vehicleId = vehicleId
  · refine congrArg ((p.vehicleId == vehicleId && inDay companyId targetDate p) && ·) ?_
    unfold resolvedDriver
    rw [hv, if_pos hactive, hreport]
    cases p.driverId with
    | none => simp
    | some d =>
      by_cases hd : d ∈ fleet.activeDriverIds companyId
      · simp [hd]
      · simp [hd]
  · rw [beq_eq_false_iff_ne.mpr hv]
    rfl

/-- A vehicle's pass reports on something: on a position of the driver, or on all of them. -/
theorem vehicleGroup_ne_nil {driverId vehicleId : String}
    (hfor : ReportsFor fleet companyId targetDate driverId vehicleId) :
    vehicleGroup fleet companyId targetDate driverId vehicleId ≠ [] := by
  obtain ⟨-, hempty, hreport⟩ := hfor
  rw [reportDriver, reportDriverId] at hreport
  cases hseen : (vehiclePositions fleet companyId targetDate vehicleId).reverse.findSome?
      GpsPosition.driverId with
  | none =>
    obtain ⟨p, hp⟩ := List.exists_mem_of_ne_nil _ hempty
    have hnull := List.findSome?_eq_none_iff.mp hseen p (List.mem_reverse.mpr hp)
    exact List.ne_nil_of_mem (List.mem_filter.mpr ⟨hp, by simp [hnull]⟩)
  | some d =>
    rw [hseen, Option.some_or] at hreport
    obtain ⟨p, hp, hown⟩ := List.exists_of_findSome?_eq_some hseen
    refine List.ne_nil_of_mem (List.mem_filter.mpr ⟨List.mem_reverse.mp hp, ?_⟩)
    simp [hown, Option.some.inj hreport]

/-- Where no vehicle's pass reports for a driver, only the driver's own positions are theirs. -/
theorem resolvedDriver_eq_some_iff (hcaps : BelowCaps fleet companyId targetDate)
    {driverId : String} {p : GpsPosition R}
    (hfor : ¬ReportsFor fleet companyId targetDate driverId p.vehicleId)
    (hp : p ∈ fleet.positions.rows) (hday : inDay companyId targetDate p = true) :
    resolvedDriver fleet companyId targetDate p = some driverId ↔
      driverId ∈ fleet.activeDriverIds companyId ∧ p.driverId = some driverId := by
  have hvehicle : (if p.vehicleId ∈ fleet.activeVehicleIds companyId then
      reportDriver fleet companyId targetDate p.vehicleId else none) ≠ some driverId := by
    intro h
    split_ifs at h with hactive
    have hmem := (mem_vehiclePositions hcaps hactive).mpr ⟨hp, rfl, hday⟩
    exact hfor ⟨hactive, List.ne_nil_of_mem hmem, h⟩
  unfold resolvedDriver
  cases hown : p.driverId with
  | none => simpa using hvehicle
  | some d =>
    by_cases hd : d ∈ fleet.activeDriverIds companyId
    · simp only [hd, if_true, Option.some.injEq]
      constructor
      · rintro rfl
        exact ⟨hd, rfl⟩
      · rintro ⟨-, hsame⟩
        exact hsame
    · simp only [hd, if_false, hvehicle, false_iff, Option.some.injEq]
      rintro ⟨hdriver, rfl⟩
      exact hd hdriver

/-- The last word on a row is the report on what counts for it. -/
theorem companyGroup_eq (hcaps : BelowCaps fleet companyId targetDate)
    (driverId vehicleId : String) :
    companyGroup fleet companyId targetDate driverId vehicleId =
      if counted fleet companyId targetDate driverId vehicleId = [] then none
      else some (counted fleet companyId targetDate driverId vehicleId) := by
  rw [companyGroup]
  by_cases hfor : ReportsFor fleet companyId targetDate driverId vehicleId
  · have hne := vehicleGroup_ne_nil hfor
    rw [vehicleGroup_eq hcaps hfor] at hne
    rw [if_pos hfor, if_neg hne, vehicleGroup_eq hcaps hfor]
  · rw [if_neg hfor]
    by_cases hactive : driverId ∈ fleet.activeDriverIds companyId
    · have hown : ownGroup fleet companyId targetDate driverId vehicleId =
          counted fleet companyId targetDate driverId vehicleId := by
        rw [ownGroup_eq hcaps hactive, counted]
        refine inOrder_congr fun p hp => ?_
        rw [Bool.eq_iff_iff]
        simp only [Bool.and_eq_true, beq_iff_eq]
        constructor
        · rintro ⟨⟨hdriver, hday⟩, rfl⟩
          exact ⟨⟨rfl, hday⟩,
            (resolvedDriver_eq_some_iff hcaps hfor hp hday).mpr ⟨hactive, hdriver⟩⟩
        · rintro ⟨⟨rfl, hday⟩, hresolved⟩
          exact ⟨⟨((resolvedDriver_eq_some_iff hcaps hfor hp hday).mp hresolved).2, hday⟩, rfl⟩
      rw [hown]
      by_cases hempty : counted fleet companyId targetDate driverId vehicleId = []
      · rw [if_pos hempty, if_neg fun h => h.2 hempty]
      · rw [if_neg hempty, if_pos ⟨hactive, hempty⟩]
    · have hempty : counted fleet companyId targetDate driverId vehicleId = [] := by
        refine List.eq_nil_iff_forall_not_mem.mpr fun p hp => ?_
        obtain ⟨hrow, rfl, hday, hresolved⟩ := mem_counted.mp hp
        exact hactive ((resolvedDriver_eq_some_iff hcaps hfor hrow hday).mp hresolved).1
      rw [if_pos hempty, if_neg fun h => hactive h.1]

/-- A position of an active vehicle is somebody's as soon as any driver can be found for it. -/
theorem resolvedDriver_ne_none (hcaps : BelowCaps fleet companyId targetDate) {p : GpsPosition R}
    (hactive : p.vehicleId ∈ fleet.activeVehicleIds companyId)
    (hdriver : HasDriver fleet companyId targetDate p) :
    resolvedDriver fleet companyId targetDate p ≠ none := by
  have hreport : reportDriver fleet companyId targetDate p.vehicleId ≠ none := by
    rw [reportDriver, reportDriverId, Ne, Option.or_eq_none_iff, not_and_or]
    refine hdriver.imp_left ?_
    rintro ⟨p', hrow, hvehicle, hday, hseen⟩ hnone
    have hmem := (mem_vehiclePositions hcaps hactive).mpr ⟨hrow, hvehicle, hday⟩
    exact hseen (List.findSome?_eq_none_iff.mp hnone p' (List.mem_reverse.mpr hmem))
  unfold resolvedDriver
  cases p.driverId with
  | none => simpa [hactive] using hreport
  | some d =>
    by_cases hd : d ∈ fleet.activeDriverIds companyId
    · simp [hd]
    · simpa [hd, hactive] using hreport

end Attribution

/-! ## The rows of a day -/

section Rows

variable [Field R] [LinearOrder R] [JsMath R] {fleet : Fleet R}
  {totalDistance : List (Fix R) → R} {companyId : String} {rawDate : Int}

/-- A company's first run of a day leaves the reports on what counts for each row, and no other. -/
theorem mem_rows_companyRun_iff (hcaps : BelowCaps fleet companyId (reportDateOf rawDate))
    {r : DailyFuelReport R} :
    r ∈ (generateDailyReportForCompany fleet totalDistance companyId rawDate Table.empty).rows ↔
      counted fleet companyId (reportDateOf rawDate) r.driverId r.vehicleId ≠ [] ∧
        ∃ vehicle, fleet.vehicle r.vehicleId = some vehicle ∧
          r = rowOf fleet totalDistance companyId (reportDateOf rawDate)
            (fleet.reportDriver r.driverId) r.vehicleId vehicle
            ((counted fleet companyId (reportDateOf rawDate) r.driverId r.vehicleId).map fixOf) := by
  have hempty : ∀ k, (Table.empty : ReportTable R).lookup k = none := fun _ => rfl
  have hrow : (generateDailyReportForCompany fleet totalDistance companyId rawDate
      Table.empty).lookup (r.driverId, r.vehicleId, reportDateOf (reportDateOf rawDate)) = _ :=
    lookup_companyRun rawDate Table.empty r.driverId r.vehicleId
  rw [companyGroup_eq hcaps, hempty] at hrow
  rw [Table.mem_rows_iff]
  constructor
  · intro hr
    have hdate : r.reportDate = reportDateOf (reportDateOf rawDate) := by
      by_contra hne
      rw [generateDailyReportForCompany_eq, DailyFuelReport.key,
        lookup_applyWrites_of_ne _ _ hne, hempty] at hr
      cases hr
    rw [DailyFuelReport.key, hdate, hrow] at hr
    by_cases hcounted : counted fleet companyId (reportDateOf rawDate) r.driverId r.vehicleId = []
    · rw [if_pos hcounted] at hr
      cases hr
    · rw [if_neg hcounted, Option.bind_some, writeOf] at hr
      cases hvehicle : fleet.vehicle r.vehicleId with
      | none => rw [hvehicle] at hr; cases hr
      | some vehicle =>
        rw [hvehicle] at hr
        exact ⟨hcounted, vehicle, rfl, (Option.some.inj hr).symm⟩
  · rintro ⟨hcounted, vehicle, hvehicle, hr⟩
    have hdate : r.reportDate = reportDateOf (reportDateOf rawDate) := by rw [hr]; rfl
    rw [if_neg hcounted, Option.bind_some, writeOf, hvehicle] at hrow
    rw [DailyFuelReport.key, hdate, hrow]
    exact congrArg some hr.symm

/-- The reports of a day partition its positions: every position of an active vehicle that has a
driver counts in one row, once; no position counts in two rows; and a row reports on what counts for
it, which is something. -/
theorem dailyReports_partition (fleet : Fleet R) (totalDistance : List (Fix R) → R)
    (companyId : String) (rawDate : Int)
    (hcaps : BelowCaps fleet companyId (reportDateOf rawDate)) :
    let rows :=
      (generateDailyReportForCompany fleet totalDistance companyId rawDate Table.empty).rows
    let counts := counted fleet companyId (reportDateOf rawDate)
    (∀ p ∈ fleet.positions.rows, inDay companyId (reportDateOf rawDate) p = true →
      p.vehicleId ∈ fleet.activeVehicleIds companyId →
      HasDriver fleet companyId (reportDateOf rawDate) p →
        ∃! r, r ∈ rows ∧ p ∈ counts r.driverId r.vehicleId) ∧
    (∀ d v, (counts d v).Nodup) ∧
    (∀ r ∈ rows, ∀ r' ∈ rows, ∀ p, p ∈ counts r.driverId r.vehicleId →
      p ∈ counts r'.driverId r'.vehicleId → r = r') ∧
    ∀ r ∈ rows, counts r.driverId r.vehicleId ≠ [] ∧
      ∃ vehicle, fleet.vehicle r.vehicleId = some vehicle ∧
        r = rowOf fleet totalDistance companyId (reportDateOf rawDate)
          (fleet.reportDriver r.driverId) r.vehicleId vehicle
          ((counts r.driverId r.vehicleId).map fixOf) := by
  intro rows counts
  have hone : ∀ r ∈ rows, ∀ r' ∈ rows, ∀ p, p ∈ counts r.driverId r.vehicleId →
      p ∈ counts r'.driverId r'.vehicleId → r = r' := by
    intro r hr r' hr' p hp hp'
    obtain ⟨-, hvehicle, -, hdriver⟩ := mem_counted.mp hp
    obtain ⟨-, hvehicle', -, hdriver'⟩ := mem_counted.mp hp'
    have hsameDriver : r.driverId = r'.driverId := Option.some.inj (hdriver.symm.trans hdriver')
    have hsameVehicle : r.vehicleId = r'.vehicleId := hvehicle.symm.trans hvehicle'
    obtain ⟨-, v, hv, hrow⟩ := (mem_rows_companyRun_iff hcaps).mp hr
    obtain ⟨-, v', hv', hrow'⟩ := (mem_rows_companyRun_iff hcaps).mp hr'
    rw [← hsameVehicle, hv] at hv'
    rw [hrow, hrow', ← hsameDriver, ← hsameVehicle, Option.some.inj hv']
  refine ⟨?_, fun d v => nodup_counted d v, hone, fun r hr => (mem_rows_companyRun_iff hcaps).mp hr⟩
  intro p hp hday hactive hdriver
  obtain ⟨d, hd⟩ := Option.ne_none_iff_exists'.mp (resolvedDriver_ne_none hcaps hactive hdriver)
  obtain ⟨vehicle, hvehicle⟩ := exists_vehicle_of_active hactive
  have hmem : p ∈ counts d p.vehicleId := mem_counted.mpr ⟨hp, rfl, hday, hd⟩
  refine ⟨rowOf fleet totalDistance companyId (reportDateOf rawDate) (fleet.reportDriver d)
    p.vehicleId vehicle ((counts d p.vehicleId).map fixOf), ⟨?_, hmem⟩, ?_⟩
  · exact (mem_rows_companyRun_iff hcaps).mpr ⟨List.ne_nil_of_mem hmem, vehicle, hvehicle, rfl⟩
  · rintro r ⟨hr, hpr⟩
    refine hone r hr _ ?_ p hpr hmem
    exact (mem_rows_companyRun_iff hcaps).mpr ⟨List.ne_nil_of_mem hmem, vehicle, hvehicle, rfl⟩

end Rows

/-! ## A day with a position nobody drove -/

/-- The distance without road matching, every fix being in motion. -/
def chordDistance [Field R] [JsMath R] : List (Fix R) → R
  | a :: b :: fixes =>
    haversineDistance a.latitude a.longitude b.latitude b.longitude + chordDistance (b :: fixes)
  | _ => 0

/-- 2026-09-08 at 08:00 UTC. -/
def sampleMorning : Int := 1788854400000

def samplePosition (timestamp : Int) (latitude : ℚ) (driverId : Option String) : GpsPosition ℚ :=
  { vehicleId := "vehicle-1", timestamp := timestamp, latitude := latitude, longitude := 47
    speed := some 12, accuracy := some 8, suspect := false, source := .phone, deliveryId := none
    driverId := driverId, companyId := "company-1" }

def ownPosition : GpsPosition ℚ := samplePosition sampleMorning (-19) (some "rabe")

/-- A minute later and a kilometre on, outside every assignment. -/
def orphanPosition : GpsPosition ℚ := samplePosition (sampleMorning + 60000) (-1899 / 100) none

/-- One driver on one vehicle. -/
def sampleFleet : Fleet ℚ where
  vehicles := [{
    id := "vehicle-1", companyId := "company-1", licensePlate := "1234 TAB", fuelType := "gasoil"
    theoreticalConsumption := some 9, isActive := true, deletedAt := none }]
  drivers := [{
    id := "rabe", companyId := "company-1", firstName := "Rabe", lastName := "Andry"
    vehicleId := some "vehicle-1", isActive := true, deletedAt := none }]
  positions := ⟨[ownPosition, orphanPosition], by decide⟩
  prices := { history := [], defaultFuelPrices := fun _ => none }
  uniqueDrivers := by decide
  positionVehicle := by decide

theorem orphanPosition_counted_once :
    ∃! r, r ∈ (generateDailyReportForCompany sampleFleet chordDistance "company-1" sampleMorning
        Table.empty).rows ∧
      orphanPosition ∈ counted sampleFleet "company-1" (reportDateOf sampleMorning) r.driverId
        r.vehicleId :=
  (dailyReports_partition sampleFleet chordDistance "company-1" sampleMorning
    ⟨by decide +kernel, by decide +kernel⟩).1 orphanPosition (by decide +kernel) (by decide +kernel)
    (by decide +kernel) (.inr (by decide +kernel))

end DeliveryTracking.Fuel
