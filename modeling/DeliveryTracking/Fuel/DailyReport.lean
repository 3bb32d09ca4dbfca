/-
# `DeliveryTracking.Fuel.DailyReport` — a day's positions as daily fuel reports

One row of `daily_fuel_reports` per driver, vehicle and day.  A company's day is
made in three passes, each of which may write over what an earlier one wrote:

    active drivers                 the driver's own positions, by vehicle
    vehicles without a driver      the positions of the vehicle nobody reports on,
    vehicles with a driver         under the last driver seen on it, else its own

A run is a list of upserts (`generateDailyReportForCompany_eq`), and the last one
with a key is what the run leaves there (`lookup_companyRun`).
-/
import Mathlib.Data.List.Perm.Basic
import DeliveryTracking.Tracking.Store
import DeliveryTracking.Fuel.Period
import DeliveryTracking.Fuel.Prices
import DeliveryTracking.Fuel.Tables

namespace DeliveryTracking.Fuel

open Calendar Geo Grouping
open Tracking (GpsPosition PositionTable)

/-! ## The fleet -/

/-- The columns of `vehicles` a report reads. -/
structure Vehicle (R : Type) where
  id : String
  companyId : String
  licensePlate : String
  fuelType : String
  theoreticalConsumption : Option R
  isActive : Bool
  deletedAt : Option Int
  deriving DecidableEq, Repr

structure Driver where
  id : String
  companyId : String
  firstName : String
  lastName : String
  /-- The vehicle the driver is assigned to now. -/
  vehicleId : Option String
  isActive : Bool
  deletedAt : Option Int
  deriving DecidableEq, Repr

/-- The tables a report reads, none of which it writes. -/
structure Fleet (R : Type) where
  vehicles : List (Vehicle R)
  drivers : List Driver
  positions : PositionTable R
  prices : PriceTables R
  uniqueDrivers : (drivers.map Driver.id).Nodup
  /-- `gps_positions.vehicle_id` is a foreign key. -/
  positionVehicle : ∀ p ∈ positions.rows, ∃ v ∈ vehicles, v.id = p.vehicleId

variable {R : Type}

def Driver.active (companyId : String) (d : Driver) : Bool :=
  d.companyId == companyId && d.deletedAt.isNone && d.isActive

def Vehicle.active (companyId : String) (v : Vehicle R) : Bool :=
  v.companyId == companyId && v.deletedAt.isNone && v.isActive

namespace Fleet

variable (fleet : Fleet R) (companyId : String)

def vehicle (id : String) : Option (Vehicle R) := fleet.vehicles.find? (·.id == id)

def driver (id : String) : Option Driver := fleet.drivers.find? (·.id == id)

def activeDrivers : List Driver := fleet.drivers.filter (Driver.active companyId)

def activeDriverIds : List String := (fleet.activeDrivers companyId).map Driver.id

def activeVehicles : List (Vehicle R) := fleet.vehicles.filter (Vehicle.active companyId)

/-- `vehicle.driver`, active or not. -/
def currentDriver (vehicleId : String) : Option String :=
  (fleet.drivers.find? (·.vehicleId == some vehicleId)).map Driver.id

end Fleet

/-! ## Positions of a day -/

/-- `MAX_POSITIONS_PER_DAILY_REPORT`. -/
def maxPositions : Nat := 60000

/-- The positions the reports of a company and a day are made from. -/
def inDay (companyId : String) (date : Int) (p : GpsPosition R) : Bool :=
  p.companyId == companyId && !p.suspect &&
    decide ((getMadagascarDayBounds date).Contains p.timestamp)

/-- `findMany({ where, orderBy: { timestamp: 'asc' } })`. -/
def inOrder (positions : List (GpsPosition R)) (q : GpsPosition R → Bool) :
    List (GpsPosition R) :=
  (positions.filter q).insertionSort fun p p' => p.timestamp ≤ p'.timestamp

/-- A fix of a group. -/
structure Fix (R : Type) where
  latitude : R
  longitude : R
  accuracy : Option R
  speed : Option R
  timestamp : Int
  deriving DecidableEq, Repr

def fixOf (p : GpsPosition R) : Fix R :=
  { latitude := p.latitude, longitude := p.longitude, accuracy := p.accuracy, speed := p.speed,
    timestamp := p.timestamp }

/-! ## Measuring a group -/

section Measure

variable [Field R] [LinearOrder R] [JsMath R]

def wanderRatioThreshold : R := 4
def wanderMinAvgAccuracyM : R := 35
def wanderMinDistanceKm : R := 3

/-- Much movement, little progress, poor accuracy.  The ratio to no progress at all is infinite. -/
def isStationaryNoise (distanceKm netDisplacementKm avgAccuracy : R) : Bool :=
  if distanceKm < wanderMinDistanceKm then false
  else
    (netDisplacementKm ≤ 0 || wanderRatioThreshold < distanceKm / netDisplacementKm) &&
      wanderMinAvgAccuracyM < avgAccuracy

/-- Metres from the first fix to the last. -/
def netDisplacement (fixes : List (Fix R)) : R :=
  match fixes.head?, fixes.getLast? with
  | some first, some last =>
    haversineDistance first.latitude first.longitude last.latitude last.longitude
  | _, _ => 0

def avgAccuracy (fixes : List (Fix R)) : R :=
  let accuracies := fixes.filterMap Fix.accuracy
  if 0 < accuracies.length then accuracies.foldl (· + ·) 0 / (accuracies.length : R) else 0

/-- The distance of a group in kilometres, and what it is worth.  `totalDistance` is the distance in
metres the service gets for two fixes or more, along the roads or filtered. -/
def measure (totalDistance : List (Fix R) → R) (fixes : List (Fix R)) : R × GpsDataQuality :=
  if 2 ≤ fixes.length then
    let computedKm := JsMath.round (totalDistance fixes / 1000 * 100) / 100
    if 1 / 10 ≤ computedKm then
      (computedKm,
        if isStationaryNoise computedKm (netDisplacement fixes / 1000) (avgAccuracy fixes) then
          .suspicious
        else .sufficient)
    else (0, .insufficient)
  else (0, .insufficient)

end Measure

/-! ## Writing a row -/

/-- The columns an existing row gets anew. -/
structure ReportColumns (R : Type) where
  distanceKm : R
  gpsDataQuality : GpsDataQuality
  estimatedCost : R
  fuelType : String
  consumptionLPer100Km : R
  vehiclePlate : String
  pricePerLiterUsed : Option R
  deriving DecidableEq, Repr

def DailyFuelReport.key (r : DailyFuelReport R) : String × String × Int :=
  (r.driverId, r.vehicleId, r.reportDate)

abbrev ReportTable (R : Type) := Table (DailyFuelReport.key (R := R)) Eq

def DailyFuelReport.set (c : ReportColumns R) (r : DailyFuelReport R) : DailyFuelReport R :=
  { r with
    distanceKm := c.distanceKm
    gpsDataQuality := c.gpsDataQuality
    estimatedCost := c.estimatedCost
    fuelType := c.fuelType
    consumptionLPer100Km := some c.consumptionLPer100Km
    vehiclePlate := c.vehiclePlate
    pricePerLiterUsed := c.pricePerLiterUsed }

/-- The driver a row is written for. -/
structure ReportDriver where
  id : String
  firstName : String
  lastName : String
  deriving DecidableEq, Repr

def Driver.report (d : Driver) : ReportDriver :=
  { id := d.id, firstName := d.firstName, lastName := d.lastName }

/-- A driver looked up by id; one that is gone has no name. -/
def Fleet.reportDriver (fleet : Fleet R) (driverId : String) : ReportDriver :=
  let lastDriver := fleet.driver driverId
  { id := driverId
    firstName := (lastDriver.map Driver.firstName).getD ""
    lastName := (lastDriver.map Driver.lastName).getD "" }

/-- Midnight UTC of the date of an instant. -/
def reportDateOf (targetDate : Int) : Int :=
  dateUTC (getUTCFullYear targetDate) (getUTCMonth targetDate) (getUTCDate targetDate)

section Write

variable [Field R] [LinearOrder R] [JsMath R]
  (fleet : Fleet R) (totalDistance : List (Fix R) → R) (companyId : String) (targetDate : Int)

/-- What a group comes to with the characteristics of its vehicle. -/
def columnsOf (vehicle : Vehicle R) (fixes : List (Fix R)) : ReportColumns R :=
  let (distanceKm, gpsDataQuality) := measure totalDistance fixes
  let fuelType := normalizeFuelType (some vehicle.fuelType)
  let consumption := match vehicle.theoreticalConsumption with
    | some c => if c = 0 then 8 else c
    | none => 8
  let pricePerLiter := getFuelPriceForDate fleet.prices companyId fuelType targetDate
  { distanceKm := distanceKm
    gpsDataQuality := gpsDataQuality
    estimatedCost := match pricePerLiter with
      | none => 0
      | some price => JsMath.round (distanceKm * consumption / 100 * price * 100) / 100
    fuelType := fuelType
    consumptionLPer100Km := consumption
    vehiclePlate := if vehicle.licensePlate = "" then "N/A" else vehicle.licensePlate
    pricePerLiterUsed := pricePerLiter }

/-- A new row. -/
def rowOf (driver : ReportDriver) (vehicleId : String) (vehicle : Vehicle R)
    (fixes : List (Fix R)) : DailyFuelReport R :=
  let c := columnsOf fleet totalDistance companyId targetDate vehicle fixes
  { driverId := driver.id
    vehicleId := vehicleId
    reportDate := reportDateOf targetDate
    driverName := driver.firstName ++ " " ++ driver.lastName
    vehiclePlate := c.vehiclePlate
    fuelType := c.fuelType
    distanceKm := c.distanceKm
    gpsDataQuality := c.gpsDataQuality
    consumptionLPer100Km := some c.consumptionLPer100Km
    estimatedCost := c.estimatedCost
    pricePerLiterUsed := c.pricePerLiterUsed
    companyId := companyId }

/-- The row of a driver, a vehicle and a day is added, or gets its columns anew. -/
def upsertDailyReportForVehicleGroup (driver : ReportDriver) (vehicleId : String)
    (fixes : List (Fix R)) (t : ReportTable R) : ReportTable R :=
  match fleet.vehicle vehicleId with
  | none => t
  | some vehicle =>
    t.upsert (rowOf fleet totalDistance companyId targetDate driver vehicleId vehicle fixes)
      (.set (columnsOf fleet totalDistance companyId targetDate vehicle fixes)) fun _ => rfl

/-! ## The passes -/

/-- A driver's positions of the day. -/
def driverPositions (driverId : String) : List (GpsPosition R) :=
  (inOrder fleet.positions.rows fun p =>
    p.driverId == some driverId && inDay companyId targetDate p).take maxPositions

def vehiclePositions (vehicleId : String) : List (GpsPosition R) :=
  (inOrder fleet.positions.rows fun p =>
    p.vehicleId == vehicleId && inDay companyId targetDate p).take maxPositions

/-- Positions by vehicle, in the order the vehicles come up. -/
def byVehicle (positions : List (GpsPosition R)) : List (String × List (Fix R)) :=
  collect GpsPosition.vehicleId [] (fun group p => group ++ [fixOf p]) [] positions

def generateDailyReportForDriver (driver : ReportDriver) (t : ReportTable R) : ReportTable R :=
  (byVehicle (driverPositions fleet companyId targetDate driver.id)).foldl
    (fun t group => upsertDailyReportForVehicleGroup fleet totalDistance companyId targetDate driver
      group.1 group.2 t) t

/-- The driver of the last position that has one, else the one given. -/
def reportDriverId (positions : List (GpsPosition R)) (currentDriverId : Option String) :
    Option String :=
  (positions.reverse.findSome? GpsPosition.driverId).or currentDriverId

/-- The positions nobody else reports on. -/
def scopedPositions (positions : List (GpsPosition R)) (reportDriver : String)
    (activeDriverIds : List String) : List (GpsPosition R) :=
  positions.filter fun p => match p.driverId with
    | none => true
    | some d => d == reportDriver || !activeDriverIds.contains d

def generateDailyReportForVehicle (vehicleId : String) (currentDriverId : Option String)
    (activeDriverIds : List String) (t : ReportTable R) : ReportTable R :=
  let positions := vehiclePositions fleet companyId targetDate vehicleId
  if positions = [] then t
  else
    match reportDriverId positions currentDriverId with
    | none => t
    | some driverId =>
      upsertDailyReportForVehicleGroup fleet totalDistance companyId targetDate
        (fleet.reportDriver driverId) vehicleId
        ((scopedPositions positions driverId activeDriverIds).map fixOf) t

/-- Vehicles with a driver are looked at when they have a position that day. -/
def hasPositions (vehicleId : String) : Bool :=
  fleet.positions.rows.any fun p => p.vehicleId == vehicleId && inDay companyId targetDate p

end Write

/-- A day without a time is reported on as its midnight UTC. -/
def generateDailyReportForCompany [Field R] [LinearOrder R] [JsMath R] (fleet : Fleet R)
    (totalDistance : List (Fix R) → R) (companyId : String) (rawDate : Int) (t : ReportTable R) :
    ReportTable R :=
  let targetDate := reportDateOf rawDate
  let activeDriverIds := fleet.activeDriverIds companyId
  let unassigned := (fleet.activeVehicles companyId).filter fun v =>
    (fleet.currentDriver v.id).isNone
  let assigned := (fleet.activeVehicles companyId).filter fun v =>
    (fleet.currentDriver v.id).isSome
  let t := (fleet.activeDrivers companyId).foldl
    (fun t d => generateDailyReportForDriver fleet totalDistance companyId targetDate d.report t) t
  let t := unassigned.foldl
    (fun t v => generateDailyReportForVehicle fleet totalDistance companyId targetDate v.id none
      activeDriverIds t) t
  assigned.foldl
    (fun t v =>
      if hasPositions fleet companyId targetDate v.id then
        generateDailyReportForVehicle fleet totalDistance companyId targetDate v.id
          (fleet.currentDriver v.id) activeDriverIds t
      else t) t

/-! ## A run as a list of upserts -/

section Plan

variable [Field R] [LinearOrder R] [JsMath R]
  (fleet : Fleet R) (totalDistance : List (Fix R) → R) (companyId : String) (targetDate : Int)

/-- One upsert of a run. -/
structure ReportWrite (R : Type) where
  driverId : String
  vehicleId : String
  vehicle : Vehicle R
  fixes : List (Fix R)

def ReportWrite.row (w : ReportWrite R) : DailyFuelReport R :=
  rowOf fleet totalDistance companyId targetDate (fleet.reportDriver w.driverId) w.vehicleId
    w.vehicle w.fixes

def ReportWrite.set (w : ReportWrite R) : DailyFuelReport R → DailyFuelReport R :=
  .set (columnsOf fleet totalDistance companyId targetDate w.vehicle w.fixes)

/-- The rows after the upserts of a list. -/
def applyWrites (ws : List (ReportWrite R)) (t : ReportTable R) : ReportTable R :=
  Table.upserts (ReportWrite.row fleet totalDistance companyId targetDate)
    (ReportWrite.set fleet totalDistance companyId targetDate) (fun _ _ => rfl) ws t

/-- The upsert of a group, if its vehicle exists. -/
def writeOf (driverId vehicleId : String) (fixes : List (Fix R)) : Option (ReportWrite R) :=
  (fleet.vehicle vehicleId).map fun vehicle =>
    { driverId := driverId, vehicleId := vehicleId, vehicle := vehicle, fixes := fixes }

/-- The upserts of a driver's pass. -/
def driverWrites (driverId : String) : List (ReportWrite R) :=
  (byVehicle (driverPositions fleet companyId targetDate driverId)).filterMap fun group =>
    writeOf fleet driverId group.1 group.2

/-- Who a vehicle's pass reports for. -/
def reportDriver (vehicleId : String) : Option String :=
  reportDriverId (vehiclePositions fleet companyId targetDate vehicleId)
    (fleet.currentDriver vehicleId)

/-- The positions a vehicle's pass reports on. -/
def vehicleGroup (driverId vehicleId : String) : List (GpsPosition R) :=
  scopedPositions (vehiclePositions fleet companyId targetDate vehicleId) driverId
    (fleet.activeDriverIds companyId)

/-- The upsert of a vehicle's pass. -/
def vehicleWrite (vehicleId : String) : Option (ReportWrite R) :=
  if vehiclePositions fleet companyId targetDate vehicleId = [] then none
  else
    (reportDriver fleet companyId targetDate vehicleId).bind fun driverId =>
      writeOf fleet driverId vehicleId
        ((vehicleGroup fleet companyId targetDate driverId vehicleId).map fixOf)

/-- The upserts of a company's run. -/
def companyWrites : List (ReportWrite R) :=
  (fleet.activeDriverIds companyId).flatMap (driverWrites fleet companyId targetDate) ++
    ((fleet.activeVehicles companyId).filter fun v =>
      (fleet.currentDriver v.id).isNone).filterMap
        (fun v => vehicleWrite fleet companyId targetDate v.id) ++
    ((fleet.activeVehicles companyId).filter fun v =>
      (fleet.currentDriver v.id).isSome).filterMap
        fun v => vehicleWrite fleet companyId targetDate v.id

theorem applyWrites_append (ws ws' : List (ReportWrite R)) (t : ReportTable R) :
    applyWrites fleet totalDistance companyId targetDate (ws ++ ws') t =
      applyWrites fleet totalDistance companyId targetDate ws'
        (applyWrites fleet totalDistance companyId targetDate ws t) :=
  List.foldl_append

theorem upsert_eq_applyWrites (driverId vehicleId : String) (fixes : List (Fix R))
    (t : ReportTable R) :
    upsertDailyReportForVehicleGroup fleet totalDistance companyId targetDate
        (fleet.reportDriver driverId) vehicleId fixes t =
      applyWrites fleet totalDistance companyId targetDate
        (writeOf fleet driverId vehicleId fixes).toList t := by
  unfold upsertDailyReportForVehicleGroup writeOf
  cases fleet.vehicle vehicleId with
  | none => rfl
  | some vehicle => rfl

/-- A loop of upserts is the list of them. -/
theorem foldl_eq_applyWrites {γ : Type} (plan : γ → List (ReportWrite R))
    (f : ReportTable R → γ → ReportTable R) (gs : List γ)
    (hf : ∀ t, ∀ g ∈ gs, f t g = applyWrites fleet totalDistance companyId targetDate (plan g) t)
    (t : ReportTable R) :
    gs.foldl f t = applyWrites fleet totalDistance companyId targetDate (gs.flatMap plan) t := by
  induction gs generalizing t with
  | nil => rfl
  | cons g gs ih =>
    rw [List.foldl_cons, List.flatMap_cons, applyWrites_append, hf t g List.mem_cons_self]
    exact ih (fun t g hg => hf t g (List.mem_cons_of_mem _ hg)) _

theorem generateDailyReportForDriver_eq (driverId : String) (t : ReportTable R) :
    generateDailyReportForDriver fleet totalDistance companyId targetDate
        (fleet.reportDriver driverId) t =
      applyWrites fleet totalDistance companyId targetDate
        (driverWrites fleet companyId targetDate driverId) t := by
  rw [driverWrites, List.filterMap_eq_flatMap_toList]
  exact foldl_eq_applyWrites fleet totalDistance companyId targetDate _ _ _
    (fun t group _ => upsert_eq_applyWrites fleet totalDistance companyId targetDate driverId
      group.1 group.2 t) t

theorem generateDailyReportForVehicle_eq (vehicleId : String) (t : ReportTable R) :
    generateDailyReportForVehicle fleet totalDistance companyId targetDate vehicleId
        (fleet.currentDriver vehicleId) (fleet.activeDriverIds companyId) t =
      applyWrites fleet totalDistance companyId targetDate
        (vehicleWrite fleet companyId targetDate vehicleId).toList t := by
  unfold generateDailyReportForVehicle vehicleWrite
  by_cases hempty : vehiclePositions fleet companyId targetDate vehicleId = []
  · simp only [hempty, if_true]
    rfl
  · simp only [hempty, if_false, reportDriver]
    cases reportDriverId (vehiclePositions fleet companyId targetDate vehicleId)
        (fleet.currentDriver vehicleId) with
    | none => rfl
    | some driverId =>
      exact upsert_eq_applyWrites fleet totalDistance companyId targetDate driverId vehicleId _ t

omit [Field R] [LinearOrder R] [JsMath R] in
/-- An active driver is the one looked up by its id. -/
theorem report_eq {d : Driver} (hd : d ∈ fleet.drivers) : d.report = fleet.reportDriver d.id := by
  have hfind : fleet.driver d.id = some d := by
    have hex : ∃ e ∈ fleet.drivers, (e.id == d.id) = true := ⟨d, hd, beq_self_eq_true _⟩
    obtain ⟨e, he⟩ := Option.isSome_iff_exists.mp (List.find?_isSome.mpr hex)
    have hid : e.id = d.id := by simpa using List.find?_some he
    have hsame := List.inj_on_of_nodup_map fleet.uniqueDrivers (List.mem_of_find?_eq_some he) hd hid
    rw [Fleet.driver, he, hsame]
  rw [Fleet.reportDriver, hfind]
  rfl

omit [Field R] [LinearOrder R] [JsMath R] in
/-- A vehicle without a position is passed over either way. -/
theorem hasPositions_iff (vehicleId : String) :
    hasPositions fleet companyId targetDate vehicleId = true ↔
      vehiclePositions fleet companyId targetDate vehicleId ≠ [] := by
  have hmax : maxPositions ≠ 0 := by decide
  rw [hasPositions, List.any_eq_true, vehiclePositions, Ne, List.take_eq_nil_iff, inOrder,
    ← List.length_eq_zero_iff (l := List.insertionSort _ _), List.length_insertionSort,
    List.length_eq_zero_iff, List.filter_eq_nil_iff]
  simp [hmax]

theorem generateDailyReportForCompany_eq (rawDate : Int) (t : ReportTable R) :
    generateDailyReportForCompany fleet totalDistance companyId rawDate t =
      applyWrites fleet totalDistance companyId (reportDateOf rawDate)
        (companyWrites fleet companyId (reportDateOf rawDate)) t := by
  have hdrivers := foldl_eq_applyWrites fleet totalDistance companyId (reportDateOf rawDate)
    (fun d : Driver => driverWrites fleet companyId (reportDateOf rawDate) d.id)
    (fun t d => generateDailyReportForDriver fleet totalDistance companyId (reportDateOf rawDate)
      d.report t)
    (fleet.activeDrivers companyId) (fun t d hd => by
      rw [report_eq fleet (List.mem_of_mem_filter hd)]
      exact generateDailyReportForDriver_eq fleet totalDistance companyId _ d.id t)
  have hunassigned := foldl_eq_applyWrites fleet totalDistance companyId (reportDateOf rawDate)
    (fun v : Vehicle R => (vehicleWrite fleet companyId (reportDateOf rawDate) v.id).toList)
    (fun t v => generateDailyReportForVehicle fleet totalDistance companyId (reportDateOf rawDate)
      v.id none (fleet.activeDriverIds companyId) t)
    ((fleet.activeVehicles companyId).filter fun v => (fleet.currentDriver v.id).isNone)
    (fun t v hv => by
      have hnone : fleet.currentDriver v.id = none := by
        simpa using (List.mem_filter.mp hv).2
      rw [← generateDailyReportForVehicle_eq, hnone])
  have hassigned := foldl_eq_applyWrites fleet totalDistance companyId (reportDateOf rawDate)
    (fun v : Vehicle R => (vehicleWrite fleet companyId (reportDateOf rawDate) v.id).toList)
    (fun t v => if hasPositions fleet companyId (reportDateOf rawDate) v.id then
      generateDailyReportForVehicle fleet totalDistance companyId (reportDateOf rawDate) v.id
        (fleet.currentDriver v.id) (fleet.activeDriverIds companyId) t else t)
    ((fleet.activeVehicles companyId).filter fun v => (fleet.currentDriver v.id).isSome)
    (fun t v _ => by
      rw [← generateDailyReportForVehicle_eq]
      split
      · rfl
      · rename_i hnot
        rw [hasPositions_iff, not_not] at hnot
        rw [generateDailyReportForVehicle, if_pos hnot])
  simp only [generateDailyReportForCompany, hdrivers, hunassigned, hassigned]
  rw [companyWrites, applyWrites_append, applyWrites_append, List.filterMap_eq_flatMap_toList,
    List.filterMap_eq_flatMap_toList, Fleet.activeDriverIds, List.flatMap_map]

end Plan

/-! ## The last word on a row -/

section LastWrite

variable (fleet : Fleet R) (companyId : String) (targetDate : Int)

def Fleet.activeVehicleIds : List String := (fleet.activeVehicles companyId).map Vehicle.id

/-- A driver's positions on a vehicle, as the driver's pass has them. -/
def ownGroup (driverId vehicleId : String) : List (GpsPosition R) :=
  (driverPositions fleet companyId targetDate driverId).filter (·.vehicleId == vehicleId)

/-- The vehicle's pass reports on the vehicle for this driver. -/
def ReportsFor (driverId vehicleId : String) : Prop :=
  vehicleId ∈ fleet.activeVehicleIds companyId ∧
    vehiclePositions fleet companyId targetDate vehicleId ≠ [] ∧
    reportDriver fleet companyId targetDate vehicleId = some driverId

instance (driverId vehicleId : String) :
    Decidable (ReportsFor fleet companyId targetDate driverId vehicleId) :=
  inferInstanceAs (Decidable (_ ∧ _))

/-- The group a company's run leaves on a row: the vehicle's pass comes last. -/
def companyGroup (driverId vehicleId : String) : Option (List (GpsPosition R)) :=
  if ReportsFor fleet companyId targetDate driverId vehicleId then
    some (vehicleGroup fleet companyId targetDate driverId vehicleId)
  else if driverId ∈ fleet.activeDriverIds companyId ∧
      ownGroup fleet companyId targetDate driverId vehicleId ≠ [] then
    some (ownGroup fleet companyId targetDate driverId vehicleId)
  else none

variable {fleet companyId targetDate}

theorem mem_byVehicle {positions : List (GpsPosition R)} {v : String} {fixes : List (Fix R)} :
    (v, fixes) ∈ byVehicle positions ↔
      positions.filter (·.vehicleId == v) ≠ [] ∧
        fixes = (positions.filter (·.vehicleId == v)).map fixOf := by
  have hpush : ∀ (l : List (GpsPosition R)) (g : List (Fix R)),
      l.foldl (fun group p => group ++ [fixOf p]) g = g ++ l.map fixOf := by
    intro l
    induction l with
    | nil => intro g; simp
    | cons p l ih => intro g; rw [List.foldl_cons, ih]; simp
  have hsame : positions.filter (fun p => p.vehicleId = v) = positions.filter (·.vehicleId == v) :=
    List.filter_congr fun p _ => by rw [← Bool.beq_eq_decide_eq]
  rw [byVehicle, mem_collect_iff, hpush, hsame, List.nil_append, Ne, List.filter_eq_nil_iff]
  simp

theorem writeOf_key {driverId vehicleId : String} {fixes : List (Fix R)} {w : ReportWrite R}
    (h : writeOf fleet driverId vehicleId fixes = some w) :
    w.driverId = driverId ∧ w.vehicleId = vehicleId := by
  obtain ⟨vehicle, -, rfl⟩ := Option.map_eq_some_iff.mp h
  exact ⟨rfl, rfl⟩

theorem mem_driverWrites {driverId : String} {w : ReportWrite R} :
    w ∈ driverWrites fleet companyId targetDate driverId ↔
      ownGroup fleet companyId targetDate driverId w.vehicleId ≠ [] ∧
        writeOf fleet driverId w.vehicleId
          ((ownGroup fleet companyId targetDate driverId w.vehicleId).map fixOf) = some w := by
  rw [driverWrites, List.mem_filterMap]
  constructor
  · rintro ⟨⟨v, fixes⟩, hgroup, hw⟩
    obtain ⟨hne, rfl⟩ := mem_byVehicle.mp hgroup
    obtain ⟨-, rfl⟩ := writeOf_key hw
    exact ⟨hne, hw⟩
  · rintro ⟨hne, hw⟩
    exact ⟨_, mem_byVehicle.mpr ⟨hne, rfl⟩, hw⟩

/-- A vehicle that a position or the fleet names exists. -/
theorem exists_vehicle {vehicleId : String} (h : ∃ v ∈ fleet.vehicles, v.id = vehicleId) :
    ∃ v, fleet.vehicle vehicleId = some v := by
  obtain ⟨v, hv, rfl⟩ := h
  exact Option.isSome_iff_exists.mp (List.find?_isSome.mpr ⟨v, hv, beq_self_eq_true _⟩)

theorem exists_vehicle_of_active {vehicleId : String}
    (h : vehicleId ∈ fleet.activeVehicleIds companyId) :
    ∃ v, fleet.vehicle vehicleId = some v := by
  obtain ⟨v, hv, rfl⟩ := List.mem_map.mp h
  exact exists_vehicle ⟨v, List.mem_of_mem_filter hv, rfl⟩

theorem mem_inOrder {positions : List (GpsPosition R)} {q : GpsPosition R → Bool}
    {p : GpsPosition R} : p ∈ inOrder positions q ↔ p ∈ positions ∧ q p = true := by
  rw [inOrder, List.mem_insertionSort, List.mem_filter]

/-- Positions of one vehicle have one order, whichever query brings them. -/
theorem filter_inOrder {positions : PositionTable R} {q s q' : GpsPosition R → Bool} (v : String)
    (hq : ∀ p, (q p && s p) = q' p) (hv : ∀ p, q' p = true → p.vehicleId = v) :
    (inOrder positions.rows q).filter s = inOrder positions.rows q' := by
  have hperm : List.Perm ((inOrder positions.rows q).filter s) (inOrder positions.rows q') := by
    have hfilter : (positions.rows.filter q).filter s = positions.rows.filter q' := by
      rw [List.filter_filter]
      exact List.filter_congr fun p _ => by rw [Bool.and_comm, hq]
    refine ((List.perm_insertionSort _ _).filter s).trans ?_
    rw [hfilter]
    exact (List.perm_insertionSort _ _).symm
  have hkeys : (positions.rows.map GpsPosition.key).Nodup := List.pairwise_map.mpr positions.unique
  have hsorted : ∀ q : GpsPosition R → Bool, (inOrder positions.rows q).Pairwise
      fun p p' => p.timestamp ≤ p'.timestamp := fun q => List.pairwise_insertionSort _ _
  refine List.Perm.eq_of_pairwise ?_ ((hsorted q).filter s) (hsorted q') hperm
  intro p p' hp hp' hle hle'
  obtain ⟨hrow, hmem⟩ := mem_inOrder.mp (hperm.subset hp)
  obtain ⟨hrow', hmem'⟩ := mem_inOrder.mp hp'
  refine List.inj_on_of_nodup_map hkeys hrow hrow' (Prod.ext ?_ (Int.le_antisymm hle hle'))
  exact (hv p hmem).trans (hv p' hmem').symm

theorem exists_vehicle_of_own {driverId vehicleId : String}
    (h : ownGroup fleet companyId targetDate driverId vehicleId ≠ []) :
    ∃ v, fleet.vehicle vehicleId = some v := by
  obtain ⟨p, hp⟩ := List.exists_mem_of_ne_nil _ h
  obtain ⟨hmem, hveh⟩ := List.mem_filter.mp hp
  obtain ⟨v, hv, hid⟩ := fleet.positionVehicle p (mem_inOrder.mp (List.mem_of_mem_take hmem)).1
  exact exists_vehicle ⟨v, hv, hid.trans (by simpa using hveh)⟩

/-- The key columns of an upsert other than the day. -/
def ReportWrite.is (driverId vehicleId : String) (w : ReportWrite R) : Bool :=
  w.driverId == driverId && w.vehicleId == vehicleId

/-- The last upsert of a driver and a vehicle in the passes of some drivers. -/
theorem getLast?_driverWrites (ids : List String) (driverId vehicleId : String) :
    ((ids.flatMap (driverWrites fleet companyId targetDate)).filter
        (·.is driverId vehicleId)).getLast? =
      if driverId ∈ ids ∧ ownGroup fleet companyId targetDate driverId vehicleId ≠ [] then
        writeOf fleet driverId vehicleId
          ((ownGroup fleet companyId targetDate driverId vehicleId).map fixOf)
      else none := by
  refine Table.getLast?_filter_eq ?_ ?_
  · intro w hw his
    obtain ⟨d, hd, hwrite⟩ := List.mem_flatMap.mp hw
    obtain ⟨hne, hplan⟩ := mem_driverWrites.mp hwrite
    simp only [ReportWrite.is, Bool.and_eq_true, beq_iff_eq] at his
    obtain ⟨hdriver, -⟩ := writeOf_key hplan
    obtain ⟨rfl, rfl⟩ := his
    subst hdriver
    rw [if_pos ⟨hd, hne⟩, hplan]
  · intro w hw
    split_ifs at hw with hown
    obtain ⟨hdriver, hvehicle⟩ := writeOf_key hw
    subst hvehicle
    refine ⟨List.mem_flatMap.mpr ⟨driverId, hown.1, mem_driverWrites.mpr ⟨hown.2, hw⟩⟩, ?_⟩
    simp [ReportWrite.is, hdriver]

/-- The upserts of the vehicles' passes are looked at together: a vehicle is in one of them. -/
theorem mem_vehicleWrites {w : ReportWrite R} :
    w ∈ ((fleet.activeVehicles companyId).filter fun v =>
        (fleet.currentDriver v.id).isNone).filterMap
          (fun v => vehicleWrite fleet companyId targetDate v.id) ++
      ((fleet.activeVehicles companyId).filter fun v =>
        (fleet.currentDriver v.id).isSome).filterMap
          (fun v => vehicleWrite fleet companyId targetDate v.id) ↔
      ReportsFor fleet companyId targetDate w.driverId w.vehicleId ∧
        writeOf fleet w.driverId w.vehicleId
          ((vehicleGroup fleet companyId targetDate w.driverId w.vehicleId).map fixOf) = some w := by
  have hwrite : ∀ vehicleId, vehicleWrite fleet companyId targetDate vehicleId = some w ↔
      w.vehicleId = vehicleId ∧ vehiclePositions fleet companyId targetDate w.vehicleId ≠ [] ∧
        reportDriver fleet companyId targetDate w.vehicleId = some w.driverId ∧
        writeOf fleet w.driverId w.vehicleId
          ((vehicleGroup fleet companyId targetDate w.driverId w.vehicleId).map fixOf) = some w := by
    intro vehicleId
    constructor
    · intro h
      unfold vehicleWrite at h
      split_ifs at h with hempty
      obtain ⟨d, hd, hw⟩ := Option.bind_eq_some_iff.mp h
      obtain ⟨rfl, rfl⟩ := writeOf_key hw
      exact ⟨rfl, hempty, hd, hw⟩
    · rintro ⟨rfl, hempty, hd, hw⟩
      rw [vehicleWrite, if_neg hempty, hd]
      exact hw
  rw [List.mem_append, List.mem_filterMap, List.mem_filterMap]
  simp only [hwrite, List.mem_filter]
  constructor
  · rintro (⟨v, ⟨hv, -⟩, hid, hempty, hd, hw⟩ | ⟨v, ⟨hv, -⟩, hid, hempty, hd, hw⟩)
    · exact ⟨⟨List.mem_map.mpr ⟨v, hv, hid.symm⟩, hempty, hd⟩, hw⟩
    · exact ⟨⟨List.mem_map.mpr ⟨v, hv, hid.symm⟩, hempty, hd⟩, hw⟩
  · rintro ⟨⟨hactive, hempty, hd⟩, hw⟩
    obtain ⟨v, hv, hid⟩ := List.mem_map.mp hactive
    cases hcurrent : fleet.currentDriver v.id with
    | none => exact .inl ⟨v, ⟨hv, by rw [hcurrent]; rfl⟩, hid.symm, hempty, hd, hw⟩
    | some d => exact .inr ⟨v, ⟨hv, by rw [hcurrent]; rfl⟩, hid.symm, hempty, hd, hw⟩

theorem getLast?_vehicleWrites (driverId vehicleId : String) :
    ((((fleet.activeVehicles companyId).filter fun v =>
        (fleet.currentDriver v.id).isNone).filterMap
          (fun v => vehicleWrite fleet companyId targetDate v.id) ++
      ((fleet.activeVehicles companyId).filter fun v =>
        (fleet.currentDriver v.id).isSome).filterMap
          (fun v => vehicleWrite fleet companyId targetDate v.id)).filter
            (·.is driverId vehicleId)).getLast? =
      if ReportsFor fleet companyId targetDate driverId vehicleId then
        writeOf fleet driverId vehicleId
          ((vehicleGroup fleet companyId targetDate driverId vehicleId).map fixOf)
      else none := by
  refine Table.getLast?_filter_eq ?_ ?_
  · intro w hw his
    obtain ⟨hfor, hplan⟩ := mem_vehicleWrites.mp hw
    simp only [ReportWrite.is, Bool.and_eq_true, beq_iff_eq] at his
    obtain ⟨rfl, rfl⟩ := his
    rw [if_pos hfor, hplan]
  · intro w hw
    split_ifs at hw with hfor
    obtain ⟨rfl, rfl⟩ := writeOf_key hw
    exact ⟨mem_vehicleWrites.mpr ⟨hfor, hw⟩, by simp [ReportWrite.is]⟩

/-- The last upsert of a driver and a vehicle in a company's run is that of `companyGroup`. -/
theorem getLast?_companyWrites (driverId vehicleId : String) :
    ((companyWrites fleet companyId targetDate).filter (·.is driverId vehicleId)).getLast? =
      (companyGroup fleet companyId targetDate driverId vehicleId).bind fun group =>
        writeOf fleet driverId vehicleId (group.map fixOf) := by
  rw [companyWrites, List.append_assoc, List.filter_append, List.getLast?_append,
    getLast?_vehicleWrites, getLast?_driverWrites, companyGroup]
  by_cases hfor : ReportsFor fleet companyId targetDate driverId vehicleId
  · obtain ⟨vehicle, hv⟩ := exists_vehicle_of_active hfor.1
    rw [if_pos hfor, if_pos hfor, Option.bind_some, writeOf, hv]
    rfl
  · rw [if_neg hfor, if_neg hfor, Option.none_or]
    split_ifs <;> rfl

end LastWrite

section Lookup

variable [Field R] [LinearOrder R] [JsMath R] {fleet : Fleet R}
  {totalDistance : List (Fix R) → R} {companyId : String} {targetDate : Int}

theorem lookup_applyWrites (ws : List (ReportWrite R)) (t : ReportTable R)
    (driverId vehicleId : String) :
    (applyWrites fleet totalDistance companyId targetDate ws t).lookup
        (driverId, vehicleId, reportDateOf targetDate) =
      match (ws.filter (·.is driverId vehicleId)).getLast? with
      | none => t.lookup (driverId, vehicleId, reportDateOf targetDate)
      | some w => some ((t.lookup (driverId, vehicleId, reportDateOf targetDate)).elim
          (w.row fleet totalDistance companyId targetDate)
          (w.set fleet totalDistance companyId targetDate)) := by
  have hkey : ws.filter (·.is driverId vehicleId) = ws.filter fun w =>
      (w.row fleet totalDistance companyId targetDate).key =
        (driverId, vehicleId, reportDateOf targetDate) := by
    refine List.filter_congr fun w _ => ?_
    simp [ReportWrite.is, ReportWrite.row, rowOf, DailyFuelReport.key, Fleet.reportDriver,
      Bool.decide_and, ← Bool.beq_eq_decide_eq]
  have hset : ∀ (w : ReportWrite R) b,
      (w.set fleet totalDistance companyId targetDate b).key = b.key := fun _ _ => rfl
  have hover : ∀ (w w' : ReportWrite R) b,
      w'.set fleet totalDistance companyId targetDate
          (w.set fleet totalDistance companyId targetDate b) =
        w'.set fleet totalDistance companyId targetDate b := fun _ _ _ => rfl
  -- what a row says of its driver is decided by the driver's id
  have hrow : ∀ w w' : ReportWrite R,
      (w.row fleet totalDistance companyId targetDate).key =
          (w'.row fleet totalDistance companyId targetDate).key →
        w'.set fleet totalDistance companyId targetDate
            (w.row fleet totalDistance companyId targetDate) =
          w'.row fleet totalDistance companyId targetDate := by
    intro w w' hsame
    have hdriver : w.driverId = w'.driverId := congrArg (fun k => k.1) hsame
    have hvehicle : w.vehicleId = w'.vehicleId := congrArg (fun k => k.2.1) hsame
    simp only [ReportWrite.set, ReportWrite.row, rowOf, DailyFuelReport.set, hdriver, hvehicle]
  rw [hkey]
  refine (Table.lookup_upserts hset hover hrow
    (driverId, vehicleId, reportDateOf targetDate) ws t).trans ?_
  cases (ws.filter fun w => (w.row fleet totalDistance companyId targetDate).key =
    (driverId, vehicleId, reportDateOf targetDate)).getLast? with
  | none => rfl
  | some w => rfl

/-- A run for a day leaves the other days alone. -/
theorem lookup_applyWrites_of_ne (ws : List (ReportWrite R)) (t : ReportTable R)
    {driverId vehicleId : String} {date : Int} (hdate : date ≠ reportDateOf targetDate) :
    (applyWrites fleet totalDistance companyId targetDate ws t).lookup (driverId, vehicleId, date) =
      t.lookup (driverId, vehicleId, date) := by
  induction ws generalizing t with
  | nil => rfl
  | cons w ws ih =>
    have hstep := Table.lookup_upsert t (w.row fleet totalDistance companyId targetDate)
      (w.set fleet totalDistance companyId targetDate) (fun _ => rfl) (driverId, vehicleId, date)
    have hne : (driverId, vehicleId, date) ≠
        (w.row fleet totalDistance companyId targetDate).key :=
      fun h => hdate (congrArg (fun k : String × String × Int => k.2.2) h)
    rw [if_neg hne] at hstep
    exact (ih _).trans hstep

/-- What a company's run leaves on a row. -/
theorem lookup_companyRun (rawDate : Int) (t : ReportTable R) (driverId vehicleId : String) :
    (generateDailyReportForCompany fleet totalDistance companyId rawDate t).lookup
        (driverId, vehicleId, reportDateOf (reportDateOf rawDate)) =
      match (companyGroup fleet companyId (reportDateOf rawDate) driverId vehicleId).bind
          fun group => writeOf fleet driverId vehicleId (group.map fixOf) with
      | none => t.lookup (driverId, vehicleId, reportDateOf (reportDateOf rawDate))
      | some w => some ((t.lookup (driverId, vehicleId, reportDateOf (reportDateOf rawDate))).elim
          (w.row fleet totalDistance companyId (reportDateOf rawDate))
          (w.set fleet totalDistance companyId (reportDateOf rawDate))) := by
  rw [generateDailyReportForCompany_eq, lookup_applyWrites, getLast?_companyWrites]

end Lookup

end DeliveryTracking.Fuel
