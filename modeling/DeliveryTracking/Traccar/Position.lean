/-
# `DeliveryTracking.Traccar.Position` — a position as Traccar sends it

What the bridge reads of a position, its time (`parseTimestampMeta`), the filters
that need nothing but the position, and the validation of the `UpdatePositionDto`
built from it.  Numbers are finite: a message is JSON.
-/
import DeliveryTracking.Geo.Quality
import DeliveryTracking.Tracking.Store

namespace DeliveryTracking.Traccar

open Geo Tracking

/-- A time field: absent or empty, not a date, or a date (milliseconds). -/
inductive RawTime where
  | missing
  | invalid
  | at (ms : Int)
  deriving DecidableEq, Repr

/-- The fields of a Traccar position the bridge reads; `sat`, `hdop` and `motion` are attributes. -/
structure TraccarPosition (R : Type) where
  deviceId : String
  latitude : R
  longitude : R
  /-- Knots. -/
  speed : Option R
  course : Option R
  accuracy : Option R
  valid : Option Bool
  fixTime : RawTime
  deviceTime : RawTime
  sat : Option R
  hdop : Option R
  motion : Option Bool
  deriving DecidableEq, Repr

variable {R : Type}

/-! ## Time -/

/-- `TRACCAR_FUTURE_SKEW_TOLERANCE_MS`. -/
def traccarFutureSkewTolerance : Int := 5 * 60 * 1000

/-- `fixTime || deviceTime`. -/
def TraccarPosition.rawTime (pos : TraccarPosition R) : RawTime :=
  match pos.fixTime with
  | .missing => pos.deviceTime
  | t => t

/-- `parseTimestampMeta`: the date, and whether it is the server's clock. -/
def parseTimestampMeta (pos : TraccarPosition R) (now : Int) : Int × Bool :=
  match pos.rawTime with
  | .missing => (now, true)
  | .invalid => (now, true)
  | .at date => if traccarFutureSkewTolerance < date - now then (now, true) else (date, false)

theorem parseTimestampMeta_of_device {pos : TraccarPosition R} {date now : Int}
    (h : pos.rawTime = .at date) (hnow : date ≤ now + traccarFutureSkewTolerance) :
    parseTimestampMeta pos now = (date, false) := by
  simp only [parseTimestampMeta, h]
  exact if_neg (by omega)

/-! ## Filters -/

section Filters

variable [Field R] [LinearOrder R]

/-- `isValidCoordinates`. -/
def isValidCoordinates (latitude longitude : R) : Bool :=
  if latitude < -90 ∨ 90 < latitude then false
  else if longitude < -180 ∨ 180 < longitude then false
  else !decide (latitude = 0 ∧ longitude = 0)

/-- A fix on too few satellites, when the tracker tells how many. -/
def tooFewSatellites (minSatellites : R) (sat : Option R) : Bool :=
  match sat with
  | none => false
  | some n => 0 < n ∧ n < minSatellites

/-- Knots to metres per second. -/
def TraccarPosition.reportedSpeedMs (pos : TraccarPosition R) : R :=
  pos.speed.getD 0 * (514444 / 1000000)

end Filters

/-! ## Validation -/

def isHexDigit (c : Char) : Bool :=
  c.isDigit || ('a' ≤ c && c ≤ 'f') || ('A' ≤ c && c ≤ 'F')

/-- `IsUUID('4')`. -/
def isUuid4 (id : String) : Bool :=
  id.toList.length == 36 && id.toList.zipIdx.all fun (c, i) =>
    if i = 8 ∨ i = 13 ∨ i = 18 ∨ i = 23 then c == '-'
    else if i = 14 then c == '4'
    else if i = 19 then "89abAB".toList.contains c
    else isHexDigit c

theorem not_malformedId_of_isUuid4 {id : String} (h : isUuid4 id = true) :
    malformedId id = false := by
  have hlength : id.length = 36 := by
    simp only [isUuid4, Bool.and_eq_true, beq_iff_eq] at h
    exact String.length_toList.symm.trans h.1
  simp [malformedId, hlength]

/-- Ids that are UUIDs are ids `savePosition` accepts. -/
theorem not_malformedIds_of_isUuid4 {dto : UpdatePositionDto R}
    (hvehicle : isUuid4 dto.vehicleId = true) (hdelivery : dto.deliveryId.all isUuid4 = true) :
    malformedId dto.vehicleId = false ∧ dto.deliveryId.any malformedId = false := by
  refine ⟨not_malformedId_of_isUuid4 hvehicle, ?_⟩
  cases hid : dto.deliveryId with
  | none => rfl
  | some id =>
    rw [hid] at hdelivery
    exact not_malformedId_of_isUuid4 hdelivery

/-- `PAST_TOLERANCE_MS`. -/
def pastTolerance : Int := 30 * 24 * 60 * 60 * 1000

/-- `FUTURE_TOLERANCE_MS`. -/
def futureTolerance : Int := 5 * 60 * 1000

/-- `IsPlausibleTimestamp`. -/
def isPlausibleTimestamp (timestamp now : Int) : Bool :=
  timestamp ≤ now + futureTolerance ∧ now - pastTolerance ≤ timestamp

variable [Field R] [LinearOrder R]

/-- `validateSync` on the `UpdatePositionDto` of a position, with its heading. -/
def validDto (dto : UpdatePositionDto R) (heading : R) (now : Int) : Bool :=
  (-90 ≤ dto.latitude ∧ dto.latitude ≤ 90) ∧ (-180 ≤ dto.longitude ∧ dto.longitude ≤ 180) ∧
    dto.speed.all (0 ≤ ·) ∧ (0 ≤ heading ∧ heading ≤ 360) ∧
    dto.accuracy.all (fun a => 0 ≤ a ∧ a ≤ 1000) ∧ isPlausibleTimestamp dto.timestamp now ∧
    dto.deliveryId.all isUuid4 ∧ isUuid4 dto.vehicleId

/-- A valid DTO has ids `savePosition` accepts. -/
theorem validDto_ids {dto : UpdatePositionDto R} {heading : R} {now : Int}
    (h : validDto dto heading now = true) :
    malformedId dto.vehicleId = false ∧ dto.deliveryId.any malformedId = false := by
  simp only [validDto, decide_eq_true_eq] at h
  obtain ⟨-, -, -, -, -, -, hdelivery, hvehicle⟩ := h
  exact not_malformedIds_of_isUuid4 hvehicle hdelivery

end DeliveryTracking.Traccar
