/-
# `DeliveryTracking.Fuel.Tables` — fill-ups and daily fuel reports

The columns of `fuel_logs` and `daily_fuel_reports` the fuel service reads and
writes.  Quantities are in an ordered field `R`, dates in milliseconds.
-/
import DeliveryTracking.Geo.Math

namespace DeliveryTracking.Fuel

inductive GpsDataQuality where
  | sufficient
  | insufficient
  | suspicious
  deriving DecidableEq, Repr

/-- A row of `daily_fuel_reports`. -/
structure DailyFuelReport (R : Type) where
  driverId : String
  vehicleId : String
  /-- Midnight UTC of the day reported on. -/
  reportDate : Int
  driverName : String
  vehiclePlate : String
  fuelType : String
  distanceKm : R
  gpsDataQuality : GpsDataQuality
  consumptionLPer100Km : Option R
  estimatedCost : R
  pricePerLiterUsed : Option R
  companyId : String
  deriving DecidableEq, Repr

/-- A row of `fuel_logs`. -/
structure FuelLog (R : Type) where
  id : String
  companyId : String
  vehicleId : String
  fillDate : Int
  liters : R
  kilometers : R
  cost : R
  consumptionAnomalyFlag : Bool
  gpsAnomalyFlag : Bool
  gpsCoverageInsufficientFlag : Bool
  deriving DecidableEq, Repr

/-- One of the two detectors has flagged the fill-up. -/
def hasFuelAnomaly {R : Type} (log : FuelLog R) : Bool :=
  log.consumptionAnomalyFlag || log.gpsAnomalyFlag

end DeliveryTracking.Fuel
