/-
# `DeliveryTracking.Tracking.SaveBatch` — batch ingestion of phone positions

`saveBatch` keeps the positions of known phone vehicles, sorts them by time and
walks them once.  For each vehicle it carries the last position it kept, first
the latest stored one (`BatchState.last`), and a short history of trusted ones;
what it keeps is inserted at the end.

`toInsert_times` reads the deduplication off the loop: the times kept of one
vehicle are a `pass` over its times.
-/
import Mathlib.Data.List.Sort
import DeliveryTracking.Thinning
import DeliveryTracking.Tracking.Store

namespace DeliveryTracking.Tracking

open Geo

variable {R : Type}

/-! ## The positions accepted -/

/-- `verifiedDeliveries`: the driver's own deliveries. -/
def verifiedDelivery (reg : Registry) (userId driverId deliveryId : String) : Bool :=
  reg.deliveries.any fun d => d.id == deliveryId && d.deletedAt.isNone &&
    (d.assignedDriverId == some userId || d.driverId == some driverId)

/-- `validVehicleIds`: active phone vehicles, of the company if one is given. -/
def validVehicle (reg : Registry) (companyId : Option String) (vehicleId : String) : Bool :=
  reg.vehicles.any fun v => v.id == vehicleId && v.deletedAt.isNone && v.isActive &&
    v.positionSource == .phone &&
    (match companyId with | some c => c == "" || v.companyId == c | none => true)

/-- A delivery that is not the driver's is detached, the position kept. -/
def detachDelivery (reg : Registry) (userId driverId : String) (deliveryId : Option String) :
    Option String :=
  match deliveryId with
  | none => none
  | some d =>
    if d = "" ∨ verifiedDelivery reg userId driverId d = false ∨ malformedId d then none else some d

/-- `validPositions`. -/
def validPositions (reg : Registry) (userId driverId : String) (companyId : Option String)
    (positions : List (UpdatePositionDto R)) : List (UpdatePositionDto R) :=
  (positions.filter fun pos => !malformedId pos.vehicleId &&
      validVehicle reg companyId pos.vehicleId).map
    fun pos => { pos with deliveryId := detachDelivery reg userId driverId pos.deliveryId }

/-- `sorted`: a stable sort by time. -/
def sortedPositions (reg : Registry) (userId driverId : String) (companyId : Option String)
    (positions : List (UpdatePositionDto R)) : List (UpdatePositionDto R) :=
  (validPositions reg userId driverId companyId positions).insertionSort
    fun a b => a.timestamp ≤ b.timestamp

/-! ## The loop -/

/-- What the loop carries, by vehicle, and the rows to insert so far. -/
structure BatchState (R : Type) where
  /-- `lastPositions` and `lastAccuracy`. -/
  last : String → Option (TeleportReference R)
  speedHistory : String → List (GroundSpeedRef R)
  toInsert : List (GpsPosition R)

/-- At most `DEDUP_CLOCK_SKEW_S` from a reference, before or after it. -/
def nearReference (reference : Option (TeleportReference R)) (timestamp : Int) : Bool :=
  match reference with
  | some r => |timestamp - r.timestamp| ≤ dedupClockSkew
  | none => false

/-- `dbLastPositions`: the latest stored position of a vehicle, suspect or not. -/
def dbLast (t : PositionTable R) (vehicleId : String) : Option (TeleportReference R) :=
  (getLastPosition t vehicleId false).map GpsPosition.reference

/-- A vehicle's positions are all long before a time exactly when its latest one is. -/
theorem longBefore_iff {t : PositionTable R} {v : String} {timestamp : Int} :
    LongBefore t v timestamp ↔
      ∀ r, dbLast t v = some r → r.timestamp + dedupClockSkew < timestamp := by
  unfold dbLast getLastPosition
  constructor
  · intro h r hr
    obtain ⟨p, hp, rfl⟩ := Option.map_eq_some_iff.mp hr
    obtain ⟨hmem, hq⟩ := mem_of_latest hp
    exact h p hmem (by simpa using hq)
  · intro h p hp hv
    obtain ⟨latest, hlatest, hle⟩ :=
      exists_latest (q := fun p => p.vehicleId == v && !(false && p.suspect)) hp (by simpa using hv)
    have hbefore := h latest.reference (by rw [hlatest]; rfl)
    have hts : latest.reference.timestamp = latest.timestamp := rfl
    omega

def UpdatePositionDto.speedRef (pos : UpdatePositionDto R) : GroundSpeedRef R :=
  { latitude := pos.latitude, longitude := pos.longitude, timestamp := pos.timestamp,
    accuracy := pos.accuracy }

variable [Field R] [LinearOrder R] [JsMath R]

/-- The speed the batch stores for a position. -/
def batchSpeed (st : BatchState R) (pos : UpdatePositionDto R) : R :=
  (resolveGroundSpeed
    { reportedSpeedMs := pos.speed
      previous := (st.last pos.vehicleId).map TeleportReference.speedRef
      current := pos.speedRef
      currentTimestampIsServerFallback := false
      windowPrevious := selectSpeedWindowRef (st.speedHistory pos.vehicleId) pos.timestamp }).speedMs

/-- The batch's suspect flag: no reference, or a later one, and the point passes. -/
def batchSuspect (last : Option (TeleportReference R)) (pos : UpdatePositionDto R) (speed : R) :
    Bool :=
  match last with
  | none => false
  | some last =>
    0 < pos.timestamp - last.timestamp &&
      (evaluateTeleportation last pos.latitude pos.longitude pos.timestamp pos.accuracy
        (some speed)).suspect

/-- One turn of the loop, for a position that is no duplicate. -/
def batchKeep (driverId companyId : String) (st : BatchState R) (pos : UpdatePositionDto R) :
    BatchState R :=
  let speed := batchSpeed st pos
  let suspect := batchSuspect (st.last pos.vehicleId) pos speed
  { last := Function.update st.last pos.vehicleId
      (some { latitude := pos.latitude, longitude := pos.longitude, timestamp := pos.timestamp,
              speed := some speed, accuracy := pos.accuracy })
    speedHistory := if suspect then st.speedHistory
      else Function.update st.speedHistory pos.vehicleId
        (pushBounded 30 (st.speedHistory pos.vehicleId) pos.speedRef)
    toInsert := st.toInsert ++
      [{ vehicleId := pos.vehicleId, timestamp := pos.timestamp, latitude := pos.latitude,
         longitude := pos.longitude, speed := some speed, accuracy := pos.accuracy,
         suspect := suspect, source := .phone, deliveryId := pos.deliveryId,
         driverId := some driverId, companyId := companyId }] }

/-- One turn of the loop. -/
def batchStep (t : PositionTable R) (driverId companyId : String) (st : BatchState R)
    (pos : UpdatePositionDto R) : BatchState R :=
  if nearReference (st.last pos.vehicleId) pos.timestamp ∨
      nearReference (dbLast t pos.vehicleId) pos.timestamp then st
  else batchKeep driverId companyId st pos

/-- The loop over the sorted positions. -/
def batchLoop (t : PositionTable R) (driverId companyId : String)
    (sorted : List (UpdatePositionDto R)) : BatchState R :=
  sorted.foldl (batchStep t driverId companyId) ⟨dbLast t, fun _ => [], []⟩

/-- `saveBatch`: the rows inserted, and the table after it. -/
def saveBatch (reg : Registry) (userId driverId : String) (positions : List (UpdatePositionDto R))
    (companyId : Option String) (t : PositionTable R) : List (GpsPosition R) × PositionTable R :=
  t.createMany (batchLoop t driverId (companyId.getD "")
    (sortedPositions reg userId driverId companyId positions)).toInsert

/-! ## Which times the loop keeps -/

/-- The times of a vehicle's positions, in order. -/
def batchTimes (vehicleId : String) (sorted : List (UpdatePositionDto R)) : List Int :=
  (sorted.filter fun pos => pos.vehicleId == vehicleId).map UpdatePositionDto.timestamp

/-- The times of the rows for a vehicle, in order. -/
def rowTimes (vehicleId : String) (rows : List (GpsPosition R)) : List Int :=
  (rows.filter fun p => p.vehicleId == vehicleId).map GpsPosition.timestamp

omit [Field R] [LinearOrder R] [JsMath R] in
/-- The loop's test is the one of a `pass`. -/
theorem nearReference_eq (reference : Option (TeleportReference R)) (timestamp : Int) :
    nearReference reference timestamp
      = !far dedupClockSkew (reference.map TeleportReference.timestamp) timestamp := by
  cases reference with
  | none => rfl
  | some r =>
    show decide (|timestamp - r.timestamp| ≤ dedupClockSkew)
      = !decide (¬ |timestamp - r.timestamp| ≤ dedupClockSkew)
    rw [decide_not, Bool.not_not]

omit [Field R] [LinearOrder R] [JsMath R] in
theorem rowTimes_append (vehicleId : String) (xs ys : List (GpsPosition R)) :
    rowTimes vehicleId (xs ++ ys) = rowTimes vehicleId xs ++ rowTimes vehicleId ys := by
  simp [rowTimes]

/-- A turn for another vehicle leaves a vehicle's part of the state alone. -/
theorem batchStep_of_ne (t : PositionTable R) (driverId companyId : String) (st : BatchState R)
    {pos : UpdatePositionDto R} {v : String} (h : pos.vehicleId ≠ v) :
    (batchStep t driverId companyId st pos).last v = st.last v ∧
      rowTimes v (batchStep t driverId companyId st pos).toInsert = rowTimes v st.toInsert := by
  unfold batchStep
  split
  · exact ⟨rfl, rfl⟩
  · refine ⟨Function.update_of_ne (Ne.symm h) .., ?_⟩
    have hv : (pos.vehicleId == v) = false := by simpa using h
    simp only [batchKeep, rowTimes_append]
    simp [rowTimes, hv]

/-- The times kept of a vehicle are its times far from the latest stored one, thinned. -/
theorem toInsert_times (t : PositionTable R) (driverId companyId v : String) :
    ∀ (sorted : List (UpdatePositionDto R)) (st : BatchState R),
      rowTimes v (sorted.foldl (batchStep t driverId companyId) st).toInsert
        = rowTimes v st.toInsert ++
          thin dedupClockSkew ((st.last v).map TeleportReference.timestamp)
            ((batchTimes v sorted).filter
              (far dedupClockSkew ((dbLast t v).map TeleportReference.timestamp)))
  | [], st => by simp [batchTimes, thin]
  | pos :: rest, st => by
      rw [List.foldl_cons, toInsert_times t driverId companyId v rest]
      by_cases hv : pos.vehicleId = v
      · subst hv
        have htimes : batchTimes pos.vehicleId (pos :: rest)
            = pos.timestamp :: batchTimes pos.vehicleId rest := by
          simp [batchTimes]
        rw [htimes, List.filter_cons]
        unfold batchStep
        simp only [nearReference_eq]
        cases hfar : far dedupClockSkew
            ((dbLast t pos.vehicleId).map TeleportReference.timestamp) pos.timestamp with
        | false => simp
        | true =>
          cases hlast : st.last pos.vehicleId with
          | none =>
            simp [far, batchKeep, rowTimes, thin]
          | some l =>
            by_cases hnear : |pos.timestamp - l.timestamp| ≤ dedupClockSkew
            · simp [far, hnear, thin, hlast]
            · simp [far, hnear, thin, batchKeep, rowTimes]
      · obtain ⟨hlast, hrows⟩ := batchStep_of_ne t driverId companyId st hv
        have htimes : batchTimes v (pos :: rest) = batchTimes v rest := by
          simp [batchTimes, hv]
        rw [hlast, hrows, htimes]

omit [Field R] [LinearOrder R] [JsMath R] in
theorem batchTimes_sorted (reg : Registry) (userId driverId : String) (companyId : Option String)
    (positions : List (UpdatePositionDto R)) (v : String) :
    (batchTimes v (sortedPositions reg userId driverId companyId positions)).Pairwise (· ≤ ·) := by
  have hsorted : (sortedPositions reg userId driverId companyId positions).Pairwise
      fun a b => a.timestamp ≤ b.timestamp :=
    List.pairwise_insertionSort _ _
  exact List.pairwise_map.mpr (hsorted.filter _)

/-- **What a batch inserts of a vehicle is a pass over its times.** -/
theorem batchLoop_times (t : PositionTable R) (driverId companyId v : String)
    (sorted : List (UpdatePositionDto R)) :
    rowTimes v (batchLoop t driverId companyId sorted).toInsert
      = pass dedupClockSkew ((dbLast t v).map TeleportReference.timestamp)
          (batchTimes v sorted) := by
  rw [batchLoop, toInsert_times]
  show thin _ ((dbLast t v).map TeleportReference.timestamp) _ = _
  cases hlast : dbLast t v with
  | none => rfl
  | some l =>
    refine thin_fresh fun x hx => ?_
    simpa [far] using (List.mem_filter.mp hx).2

/-! ### A sample vehicle -/

def sampleVehicleId : String := "3f0c8a52-6f0e-4d5f-9d6c-2a1b7c9e4d10"

def sampleRegistry : Registry :=
  ⟨[⟨sampleVehicleId, "c1", .phone, none, true, none⟩], by decide, [], []⟩

/-- A precise phone fix without speed. -/
def sampleFix (latitude : ℚ) (timestamp : Int) : UpdatePositionDto ℚ :=
  ⟨latitude, 475 / 10, some 0, some 10, timestamp, sampleVehicleId, none⟩

end DeliveryTracking.Tracking
