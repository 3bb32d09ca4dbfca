/-
# `DeliveryTracking.Fuel.Recompute` — one driver's day made again

A finished delivery has the reports of its driver made again, from the driver's own
positions and at the instant of the delivery; the company's run makes them at
midnight, and adds the positions of a vehicle that nobody else reports on.  The rows
stay as the company's run left them exactly when neither shows (`recompute_agrees_iff`).
-/
import DeliveryTracking.Fuel.Attribution

namespace DeliveryTracking.Fuel

open Calendar Geo
open Tracking (GpsPosition)

variable {R : Type}

/-- The driver a recompute is for; a deactivated one will do. -/
def Fleet.driverOf (fleet : Fleet R) (companyId driverId : String) : Option Driver :=
  fleet.drivers.find? fun d =>
    d.id == driverId && d.companyId == companyId && d.deletedAt.isNone

/-- The recompute of a finished delivery, whose instant is `date`. -/
def generateDailyReportForSingleDriver [Field R] [LinearOrder R] [JsMath R] (fleet : Fleet R)
    (totalDistance : List (Fix R) → R) (companyId driverId : String) (date : Int)
    (t : ReportTable R) : ReportTable R :=
  match fleet.driverOf companyId driverId with
  | none => t
  | some driver =>
    generateDailyReportForDriver fleet totalDistance companyId date driver.report t

/-! ## Two instants of one day -/

section SameDay

variable {fleet : Fleet R} {companyId : String} {date targetDate : Int}

theorem reportDateOf_congr (hday : day date = day targetDate) :
    reportDateOf date = reportDateOf targetDate := by
  simp only [reportDateOf, getUTCFullYear, getUTCMonth, getUTCDate, hday]

end SameDay

/-! ## What a recompute leaves on a row -/

section Recompute

variable [Field R] [LinearOrder R] [JsMath R] {fleet : Fleet R}
  {totalDistance : List (Fix R) → R} {companyId driverId : String} {date targetDate : Int}

omit [Field R] [LinearOrder R] [JsMath R] in
theorem driverOf_spec {d : Driver} (h : fleet.driverOf companyId driverId = some d) :
    d ∈ fleet.drivers ∧ d.id = driverId := by
  have hpred := List.find?_some h
  simp only [Bool.and_eq_true, beq_iff_eq] at hpred
  exact ⟨List.mem_of_find?_eq_some h, hpred.1.1⟩

theorem generateDailyReportForSingleDriver_eq (t : ReportTable R) :
    generateDailyReportForSingleDriver fleet totalDistance companyId driverId date t =
      if fleet.driverOf companyId driverId = none then t
      else applyWrites fleet totalDistance companyId date
        (driverWrites fleet companyId date driverId) t := by
  unfold generateDailyReportForSingleDriver
  cases hfound : fleet.driverOf companyId driverId with
  | none => rfl
  | some d =>
    obtain ⟨hmem, hid⟩ := driverOf_spec hfound
    rw [if_neg (Option.some_ne_none d), ← hid]
    show generateDailyReportForDriver fleet totalDistance companyId date d.report t = _
    rw [report_eq fleet hmem]
    exact generateDailyReportForDriver_eq fleet totalDistance companyId date d.id t

/-- Whose rows a driver's pass leaves alone. -/
theorem lookup_driverRun_of_not (t : ReportTable R) {driverId' vehicleId : String}
    (h : ¬(driverId' = driverId ∧ ownGroup fleet companyId date driverId vehicleId ≠ [])) :
    (applyWrites fleet totalDistance companyId date
        (driverWrites fleet companyId date driverId) t).lookup
          (driverId', vehicleId, reportDateOf date) =
      t.lookup (driverId', vehicleId, reportDateOf date) := by
  have hnot : ¬(driverId' ∈ [driverId] ∧
      ownGroup fleet companyId date driverId' vehicleId ≠ []) := by
    rw [List.mem_singleton]
    rintro ⟨rfl, hne⟩
    exact h ⟨rfl, hne⟩
  rw [lookup_applyWrites, ← List.flatMap_singleton (driverWrites fleet companyId date) driverId,
    getLast?_driverWrites, if_neg hnot]

/-- A driver's pass writes a row for every vehicle the driver has positions on. -/
theorem lookup_driverRun (t : ReportTable R) {vehicleId : String} {vehicle : Vehicle R}
    (hvehicle : fleet.vehicle vehicleId = some vehicle)
    (hne : ownGroup fleet companyId date driverId vehicleId ≠ []) :
    (applyWrites fleet totalDistance companyId date
        (driverWrites fleet companyId date driverId) t).lookup
          (driverId, vehicleId, reportDateOf date) =
      some ((t.lookup (driverId, vehicleId, reportDateOf date)).elim
        (rowOf fleet totalDistance companyId date (fleet.reportDriver driverId) vehicleId vehicle
          ((ownGroup fleet companyId date driverId vehicleId).map fixOf))
        (.set (columnsOf fleet totalDistance companyId date vehicle
          ((ownGroup fleet companyId date driverId vehicleId).map fixOf)))) := by
  rw [lookup_applyWrites, ← List.flatMap_singleton (driverWrites fleet companyId date) driverId,
    getLast?_driverWrites, if_pos ⟨List.mem_singleton_self _, hne⟩, writeOf, hvehicle]
  rfl

omit [Field R] [LinearOrder R] [JsMath R] in
/-- A row keeps its columns under a second report exactly when the report says the same. -/
theorem set_set_eq_iff (r : DailyFuelReport R) {c c' : ReportColumns R} :
    (r.set c).set c' = r.set c ↔ c = c' := by
  constructor
  · intro h
    simp only [DailyFuelReport.set, DailyFuelReport.mk.injEq, Option.some.injEq] at h
    cases c
    cases c'
    simp_all
  · rintro rfl
    rfl

/-- Two groups of a vehicle come to the same where they measure the same at the same price. -/
theorem columnsOf_eq_iff {vehicle : Vehicle R} {fixes fixes' : List (Fix R)} :
    columnsOf fleet totalDistance companyId targetDate vehicle fixes =
        columnsOf fleet totalDistance companyId date vehicle fixes' ↔
      measure totalDistance fixes = measure totalDistance fixes' ∧
        getFuelPriceForDate fleet.prices companyId (normalizeFuelType (some vehicle.fuelType))
            targetDate =
          getFuelPriceForDate fleet.prices companyId (normalizeFuelType (some vehicle.fuelType))
            date := by
  constructor
  · intro h
    exact ⟨Prod.ext (congrArg ReportColumns.distanceKm h)
      (congrArg ReportColumns.gpsDataQuality h), congrArg ReportColumns.pricePerLiterUsed h⟩
  · rintro ⟨hmeasure, hprice⟩
    simp only [columnsOf, hmeasure, hprice]

end Recompute

/-! ## When a recompute agrees with the company's run -/

section Agreement

variable [Field R] [LinearOrder R] [JsMath R]

/-- The driver's row on a vehicle says what the driver's own positions come to at `date`: those the
company's run made it from measure the same, and the price is still that of midnight; where the
run made none, the row of before says so. -/
def SameReport (fleet : Fleet R) (totalDistance : List (Fix R) → R) (companyId driverId : String)
    (targetDate date : Int) (t : ReportTable R) (vehicleId : String) (vehicle : Vehicle R) : Prop :=
  let own := (ownGroup fleet companyId date driverId vehicleId).map fixOf
  match companyGroup fleet companyId targetDate driverId vehicleId with
  | some group =>
    measure totalDistance (group.map fixOf) = measure totalDistance own ∧
      getFuelPriceForDate fleet.prices companyId (normalizeFuelType (some vehicle.fuelType))
          targetDate =
        getFuelPriceForDate fleet.prices companyId (normalizeFuelType (some vehicle.fuelType)) date
  | none =>
    ∃ r, t.lookup (driverId, vehicleId, reportDateOf date) = some r ∧
      r.set (columnsOf fleet totalDistance companyId date vehicle own) = r

variable {fleet : Fleet R} {totalDistance : List (Fix R) → R} {companyId driverId : String}
  {rawDate date : Int} {t : ReportTable R}

/-- What a company's run has left on a row says what a driver's pass would write. -/
theorem sameReport_iff (hday : day date = day (reportDateOf rawDate)) {vehicleId : String}
    {vehicle : Vehicle R} (hvehicle : fleet.vehicle vehicleId = some vehicle) :
    SameReport fleet totalDistance companyId driverId (reportDateOf rawDate) date t vehicleId
        vehicle ↔
      ∃ r, (generateDailyReportForCompany fleet totalDistance companyId rawDate t).lookup
          (driverId, vehicleId, reportDateOf date) = some r ∧
        r.set (columnsOf fleet totalDistance companyId date vehicle
          ((ownGroup fleet companyId date driverId vehicleId).map fixOf)) = r := by
  have hrun : (generateDailyReportForCompany fleet totalDistance companyId rawDate t).lookup
      (driverId, vehicleId, reportDateOf (reportDateOf rawDate)) = _ :=
    lookup_companyRun rawDate t driverId vehicleId
  unfold SameReport
  rw [reportDateOf_congr hday, hrun]
  cases companyGroup fleet companyId (reportDateOf rawDate) driverId vehicleId with
  | none => exact Iff.rfl
  | some group =>
    rw [Option.bind_some, writeOf, hvehicle]
    refine columnsOf_eq_iff.symm.trans ?_
    -- a new row and a rewritten one alike have the columns of the group
    cases t.lookup (driverId, vehicleId, reportDateOf (reportDateOf rawDate)) with
    | none =>
      refine (set_set_eq_iff (rowOf fleet totalDistance companyId (reportDateOf rawDate)
        (fleet.reportDriver driverId) vehicleId vehicle (group.map fixOf))).symm.trans ?_
      constructor
      · intro h
        exact ⟨_, rfl, h⟩
      · rintro ⟨r, hr, h⟩
        cases hr
        exact h
    | some old =>
      refine (set_set_eq_iff old).symm.trans ?_
      constructor
      · intro h
        exact ⟨_, rfl, h⟩
      · rintro ⟨r, hr, h⟩
        cases hr
        exact h

/-- A recompute after a company's run of the day leaves the rows as they are exactly when the driver
is not found, or each of the driver's reports says what the driver's own positions come to. -/
theorem recompute_agrees_iff (fleet : Fleet R) (totalDistance : List (Fix R) → R)
    (companyId driverId : String) (rawDate date : Int) (t : ReportTable R)
    (hday : day date = day (reportDateOf rawDate)) :
    (∀ r, r ∈ (generateDailyReportForSingleDriver fleet totalDistance companyId driverId date
        (generateDailyReportForCompany fleet totalDistance companyId rawDate t)).rows ↔
      r ∈ (generateDailyReportForCompany fleet totalDistance companyId rawDate t).rows) ↔
    (fleet.driverOf companyId driverId = none ∨
      ∀ vehicleId vehicle, fleet.vehicle vehicleId = some vehicle →
        ownGroup fleet companyId date driverId vehicleId ≠ [] →
          SameReport fleet totalDistance companyId driverId (reportDateOf rawDate) date t vehicleId
            vehicle) := by
  rw [Table.rows_iff_lookup, generateDailyReportForSingleDriver_eq]
  by_cases hfound : fleet.driverOf companyId driverId = none
  · simp only [hfound, if_true, true_or, implies_true]
  simp only [hfound, if_false, false_or]
  constructor
  · intro h vehicleId vehicle hvehicle hne
    have hkey := h (driverId, vehicleId, reportDateOf date)
    rw [lookup_driverRun _ hvehicle hne] at hkey
    rw [sameReport_iff hday hvehicle]
    cases hold : (generateDailyReportForCompany fleet totalDistance companyId rawDate t).lookup
        (driverId, vehicleId, reportDateOf date) with
    | none => rw [hold] at hkey; cases hkey
    | some r =>
      rw [hold] at hkey
      exact ⟨r, rfl, Option.some.inj hkey⟩
  · intro h k
    obtain ⟨driverId', vehicleId, date'⟩ := k
    by_cases hdate : date' = reportDateOf date
    · subst hdate
      by_cases hown : driverId' = driverId ∧ ownGroup fleet companyId date driverId vehicleId ≠ []
      · obtain ⟨rfl, hne⟩ := hown
        obtain ⟨vehicle, hvehicle⟩ := exists_vehicle_of_own hne
        obtain ⟨r, hr, hset⟩ := (sameReport_iff hday hvehicle).mp (h vehicleId vehicle hvehicle hne)
        rw [lookup_driverRun _ hvehicle hne, hr]
        exact congrArg some hset
      · exact lookup_driverRun_of_not _ hown
    · exact lookup_applyWrites_of_ne _ _ hdate

end Agreement

/-! ## A delivery after the run -/

/-- Seven hours later. -/
def sampleAfternoon : Int := sampleMorning + 25200000

theorem rabe_agrees_iff :
    (∀ r, r ∈ (generateDailyReportForSingleDriver sampleFleet chordDistance "company-1" "rabe"
        sampleAfternoon (generateDailyReportForCompany sampleFleet chordDistance "company-1"
          sampleMorning Table.empty)).rows ↔
      r ∈ (generateDailyReportForCompany sampleFleet chordDistance "company-1" sampleMorning
        Table.empty).rows) ↔
    (sampleFleet.driverOf "company-1" "rabe" = none ∨
      ∀ vehicleId vehicle, sampleFleet.vehicle vehicleId = some vehicle →
        ownGroup sampleFleet "company-1" sampleAfternoon "rabe" vehicleId ≠ [] →
          SameReport sampleFleet chordDistance "company-1" "rabe" (reportDateOf sampleMorning)
            sampleAfternoon Table.empty vehicleId vehicle) :=
  recompute_agrees_iff sampleFleet chordDistance "company-1" "rabe" sampleMorning sampleAfternoon
    Table.empty (by decide +kernel)

/-- The company's run counts the kilometre to the position without a driver, the recompute drops it
from the row. -/
theorem recompute_loses_orphan :
    (generateDailyReportForCompany sampleFleet chordDistance "company-1" sampleMorning
        Table.empty).rows.map DailyFuelReport.distanceKm = [111 / 100] ∧
      (generateDailyReportForSingleDriver sampleFleet chordDistance "company-1" "rabe"
        sampleAfternoon (generateDailyReportForCompany sampleFleet chordDistance "company-1"
          sampleMorning Table.empty)).rows.map DailyFuelReport.distanceKm = [0] ∧
      ¬∀ r, r ∈ (generateDailyReportForSingleDriver sampleFleet chordDistance "company-1" "rabe"
          sampleAfternoon (generateDailyReportForCompany sampleFleet chordDistance "company-1"
            sampleMorning Table.empty)).rows ↔
        r ∈ (generateDailyReportForCompany sampleFleet chordDistance "company-1" sampleMorning
          Table.empty).rows := by
  have hbefore : (generateDailyReportForCompany sampleFleet chordDistance "company-1" sampleMorning
      Table.empty).rows.map DailyFuelReport.distanceKm = [111 / 100] := by
    decide +kernel
  have hafter : (generateDailyReportForSingleDriver sampleFleet chordDistance "company-1" "rabe"
      sampleAfternoon (generateDailyReportForCompany sampleFleet chordDistance "company-1"
        sampleMorning Table.empty)).rows.map DailyFuelReport.distanceKm = [0] := by
    decide +kernel
  refine ⟨hbefore, hafter, fun h => ?_⟩
  have hzero : (0 : ℚ) ∈ (generateDailyReportForSingleDriver sampleFleet chordDistance "company-1"
      "rabe" sampleAfternoon (generateDailyReportForCompany sampleFleet chordDistance "company-1"
        sampleMorning Table.empty)).rows.map DailyFuelReport.distanceKm := by
    rw [hafter]
    exact List.mem_singleton_self _
  obtain ⟨r, hr, hdistance⟩ := List.mem_map.mp hzero
  have hkept := List.mem_map_of_mem (f := DailyFuelReport.distanceKm) ((h r).mp hr)
  rw [hbefore, hdistance] at hkept
  exact absurd (List.mem_singleton.mp hkept) (by norm_num)

end DeliveryTracking.Fuel
