/-
# `DeliveryTracking.Tracking.Payload` — a position as a phone sends it

`plainToInstance` and `validate` on an `UpdatePositionDto`, for one position of a
message or of a batch.  A `RawPosition` is the payload after the conversion of
its fields; `failedConstraints` names the constraints it breaks, field by field
in the order of the class and in each field from the last decorator to the first.

    latitude longitude       IsNumber Min Max
    speed heading accuracy   IsOptional IsNumber Min (Max)
    altitude                 IsOptional IsNumber
    timestamp                ClampFutureTimestamp IsDateString IsPlausibleTimestamp
    deliveryId               IsOptional IsUUID
    vehicleId                IsUUID
-/
import DeliveryTracking.Traccar.Position

namespace DeliveryTracking.Tracking

open Traccar (futureTolerance isPlausibleTimestamp isUuid4 not_malformedIds_of_isUuid4)

/-- A number field after conversion. -/
inductive RawNumber (R : Type) where
  | missing
  | nan
  | infinite (positive : Bool)
  | finite (n : R)
  deriving DecidableEq, Repr

/-- A time field: absent, or a text, whether it has the ISO form, and its date if it has one
(milliseconds). -/
inductive RawTimestamp where
  | missing
  | text (iso : Bool) (date : Option Int)
  deriving DecidableEq, Repr

/-- The fields of the payload; unknown ones are stripped. -/
structure RawPosition (R : Type) where
  latitude : RawNumber R
  longitude : RawNumber R
  speed : RawNumber R
  heading : RawNumber R
  altitude : RawNumber R
  accuracy : RawNumber R
  timestamp : RawTimestamp
  deliveryId : Option String
  vehicleId : Option String
  deriving DecidableEq, Repr

variable {R : Type}

/-! ## Time -/

/-- `clampFutureTimestamp`: a date too far ahead becomes the server's. -/
def clampFutureTimestamp (timestamp : RawTimestamp) (now : Int) : RawTimestamp :=
  match timestamp with
  | .text _ (some ms) => if now + futureTolerance < ms then .text true (some now) else timestamp
  | _ => timestamp

/-- The constraints of `timestamp`. -/
def timestampConstraints (timestamp : RawTimestamp) (now : Int) : List String :=
  match timestamp with
  | .missing => ["isPlausibleTimestamp", "isDateString"]
  | .text iso date =>
    (if date.any (isPlausibleTimestamp · now) then [] else ["isPlausibleTimestamp"]) ++
      (if iso then [] else ["isDateString"])

/-! ## Numbers and ids -/

section Numbers

variable [LinearOrder R]

/-- `Min`. -/
def RawNumber.min (lo : R) : RawNumber R → Bool
  | .missing => false
  | .nan => false
  | .infinite positive => positive
  | .finite n => lo ≤ n

/-- `Max`. -/
def RawNumber.max (hi : R) : RawNumber R → Bool
  | .missing => false
  | .nan => false
  | .infinite positive => !positive
  | .finite n => n ≤ hi

/-- `IsNumber`. -/
def RawNumber.isNumber : RawNumber R → Bool
  | .finite _ => true
  | _ => false

/-- The constraints of a number field, its bounds where it has them. -/
def numberConstraints (lo hi : Option R) (x : RawNumber R) : List String :=
  (if hi.all x.max then [] else ["max"]) ++ (if lo.all x.min then [] else ["min"]) ++
    (if x.isNumber then [] else ["isNumber"])

/-- `IsOptional` before them. -/
def optionalNumber (lo hi : Option R) (x : RawNumber R) : List String :=
  match x with
  | .missing => []
  | x => numberConstraints lo hi x

def uuidConstraints (id : Option String) : List String :=
  if id.any isUuid4 then [] else ["isUuid"]

variable [Field R]

/-- The constraints a payload breaks at an instant. -/
def RawPosition.failedConstraints (raw : RawPosition R) (now : Int) : List String :=
  numberConstraints (some (-90)) (some 90) raw.latitude ++
    numberConstraints (some (-180)) (some 180) raw.longitude ++
    optionalNumber (some 0) none raw.speed ++
    optionalNumber (some 0) (some 360) raw.heading ++
    optionalNumber none none raw.altitude ++
    optionalNumber (some 0) (some 1000) raw.accuracy ++
    timestampConstraints raw.timestamp now ++
    (if raw.deliveryId.isNone then [] else uuidConstraints raw.deliveryId) ++
    uuidConstraints raw.vehicleId

/-! ## The validated position -/

def RawNumber.toOption : RawNumber R → Option R
  | .finite n => some n
  | _ => none

/-- The position a payload with its required fields stands for. -/
def RawPosition.dto (raw : RawPosition R) : Option (UpdatePositionDto R) :=
  match raw.latitude, raw.longitude, raw.timestamp, raw.vehicleId with
  | .finite latitude, .finite longitude, .text _ (some timestamp), some vehicleId =>
    some { latitude := latitude, longitude := longitude, speed := raw.speed.toOption,
           accuracy := raw.accuracy.toOption, timestamp := timestamp, vehicleId := vehicleId,
           deliveryId := raw.deliveryId }
  | _, _, _, _ => none

/-- `plainToInstance`, then `validate`: the position, or the reason it is refused for. -/
def validatePosition (now : Int) (raw : RawPosition R) : Except String (UpdatePositionDto R) :=
  let clamped := { raw with timestamp := clampFutureTimestamp raw.timestamp now }
  match clamped.failedConstraints now, clamped.dto with
  | [], some dto => .ok dto
  | failed, _ => .error (", ".intercalate failed)

omit [Field R] in
theorem exists_of_numberConstraints_nil {lo hi : Option R} {x : RawNumber R}
    (h : numberConstraints lo hi x = []) : ∃ n, x = .finite n := by
  cases x with
  | finite n => exact ⟨n, rfl⟩
  | missing => simp [numberConstraints, RawNumber.isNumber] at h
  | nan => simp [numberConstraints, RawNumber.isNumber] at h
  | infinite positive => simp [numberConstraints, RawNumber.isNumber] at h

theorem exists_of_timestampConstraints_nil {timestamp : RawTimestamp} {now : Int}
    (h : timestampConstraints timestamp now = []) :
    ∃ ms, timestamp = .text true (some ms) ∧ isPlausibleTimestamp ms now = true := by
  cases timestamp with
  | missing => cases h
  | text iso date =>
    simp only [timestampConstraints, List.append_eq_nil_iff] at h
    obtain ⟨hdate, hiso⟩ := h
    cases iso with
    | false => cases hiso
    | true =>
      cases date with
      | none => cases hdate
      | some ms =>
        refine ⟨ms, rfl, ?_⟩
        by_contra hfalse
        simp [hfalse] at hdate

/-- A payload that breaks no constraint has its required fields: no position is refused without
a broken constraint. -/
theorem dto_isSome_of_failedConstraints_nil {raw : RawPosition R} {now : Int}
    (h : raw.failedConstraints now = []) : raw.dto.isSome := by
  simp only [RawPosition.failedConstraints, List.append_eq_nil_iff] at h
  obtain ⟨⟨⟨⟨⟨⟨⟨⟨hlatitude, hlongitude⟩, -⟩, -⟩, -⟩, -⟩, htimestamp⟩, -⟩, hvehicle⟩ := h
  obtain ⟨latitude, hlatitude⟩ := exists_of_numberConstraints_nil hlatitude
  obtain ⟨longitude, hlongitude⟩ := exists_of_numberConstraints_nil hlongitude
  obtain ⟨ms, htimestamp, -⟩ := exists_of_timestampConstraints_nil htimestamp
  cases hid : raw.vehicleId with
  | none => simp [uuidConstraints, hid] at hvehicle
  | some id => simp [RawPosition.dto, hlatitude, hlongitude, htimestamp, hid]

/-- A validated position has ids of the form the services ask for. -/
theorem validatePosition_ids {raw : RawPosition R} {now : Int} {dto : UpdatePositionDto R}
    (h : validatePosition now raw = .ok dto) :
    isUuid4 dto.vehicleId = true ∧ dto.deliveryId.all isUuid4 = true := by
  unfold validatePosition at h
  simp only at h
  split at h
  · rename_i hfailed hdto
    cases h
    simp only [RawPosition.failedConstraints, List.append_eq_nil_iff] at hfailed
    obtain ⟨⟨-, hdelivery⟩, hvehicle⟩ := hfailed
    unfold RawPosition.dto at hdto
    split at hdto
    · rename_i vehicleId _ _ _ hid
      cases hdto
      refine ⟨?_, ?_⟩
      · simp only at hid
        simpa [uuidConstraints, hid] using hvehicle
      · cases hid : raw.deliveryId with
        | none => rfl
        | some id => simpa [uuidConstraints, hid] using hdelivery
    · cases hdto
  · cases h

theorem validatePosition_not_malformed {raw : RawPosition R} {now : Int}
    {dto : UpdatePositionDto R} (h : validatePosition now raw = .ok dto) :
    malformedId dto.vehicleId = false ∧ dto.deliveryId.any malformedId = false := by
  obtain ⟨hvehicle, hdelivery⟩ := validatePosition_ids h
  exact not_malformedIds_of_isUuid4 hvehicle hdelivery

end Numbers

end DeliveryTracking.Tracking
