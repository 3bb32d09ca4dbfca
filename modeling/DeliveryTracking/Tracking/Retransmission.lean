/-
# `DeliveryTracking.Tracking.Retransmission` — sending a batch twice

A client that misses the answer of `saveBatch` sends the batch again.  The second
run compares with a later stored position, so a position the first run dropped
as too close to the latest stored one may now be kept.  For each vehicle the two
runs are two passes of `Thinning`, and `second_pass_iff` gives the exact condition
under which the second inserts nothing (`saveBatch_idempotent_iff`).
-/
import DeliveryTracking.Tracking.SaveBatch

namespace DeliveryTracking.Tracking

open Geo

variable {R : Type} [Field R] [LinearOrder R] [JsMath R]

/-- The times stored for a vehicle. -/
def storedTimes (t : PositionTable R) (v : String) : Set Int :=
  {x | ∃ p ∈ t.rows, p.vehicleId = v ∧ p.timestamp = x}

/-- The time of the latest position stored for a vehicle. -/
def latestTime (t : PositionTable R) (v : String) : Option Int :=
  (getLastPosition t v false).map GpsPosition.timestamp

/-- The second of two runs of a batch inserts nothing and leaves the table as it was. -/
def SecondRunSilent (reg : Registry) (userId driverId : String)
    (positions : List (UpdatePositionDto R)) (companyId : Option String) (t : PositionTable R) :
    Prop :=
  (saveBatch reg userId driverId positions companyId
      (saveBatch reg userId driverId positions companyId t).2).1 = [] ∧
  (saveBatch reg userId driverId positions companyId
      (saveBatch reg userId driverId positions companyId t).2).2
    = (saveBatch reg userId driverId positions companyId t).2

/-- Of no vehicle does the batch hold a position near the latest stored one, not stored itself,
with another position kept more than 1 s later. -/
def SettledBatch (reg : Registry) (userId driverId : String)
    (positions : List (UpdatePositionDto R)) (companyId : Option String) (t : PositionTable R) :
    Prop :=
  ∀ v, Settled dedupClockSkew (storedTimes t v) (latestTime t v)
    (batchTimes v (sortedPositions reg userId driverId companyId positions))

omit [Field R] [LinearOrder R] [JsMath R] in
theorem mem_storedTimes {t : PositionTable R} {v : String} {x : Int} :
    x ∈ storedTimes t v ↔ (v, x) ∈ t.rows.map GpsPosition.key := by
  simp [storedTimes, GpsPosition.key]

omit [Field R] [LinearOrder R] [JsMath R] in
theorem mem_rowTimes {rows : List (GpsPosition R)} {v : String} {x : Int} :
    x ∈ rowTimes v rows ↔ (v, x) ∈ rows.map GpsPosition.key := by
  simp [rowTimes, GpsPosition.key, and_assoc]

omit [Field R] [LinearOrder R] [JsMath R] in
/-- The latest stored position is the latest stored time. -/
theorem isLatest_latestTime (t : PositionTable R) (v : String) :
    IsLatest (storedTimes t v) (latestTime t v) := by
  have hlater {p : GpsPosition R} (hp : p ∈ t.rows) (hv : p.vehicleId = v) :
      ∃ last, getLastPosition t v false = some last ∧ p.timestamp ≤ last.timestamp :=
    exists_latest hp (by simpa using hv)
  unfold latestTime
  cases hmax : getLastPosition t v false with
  | none =>
    refine Set.eq_empty_of_forall_notMem ?_
    rintro x ⟨p, hp, hv, -⟩
    obtain ⟨last, hlast, -⟩ := hlater hp hv
    rw [hmax] at hlast
    cases hlast
  | some p =>
    obtain ⟨hp, hv⟩ := mem_of_latest hmax
    refine ⟨⟨p, hp, by simpa using hv, rfl⟩, ?_⟩
    rintro x ⟨q, hq, hqv, rfl⟩
    obtain ⟨last, hlast, hle⟩ := hlater hq hqv
    rw [hmax] at hlast
    obtain rfl := Option.some.inj hlast
    exact hle

omit [Field R] [LinearOrder R] [JsMath R] in
theorem dbLast_timestamp (t : PositionTable R) (v : String) :
    (dbLast t v).map TeleportReference.timestamp = latestTime t v := by
  unfold dbLast latestTime
  cases getLastPosition t v false <;> rfl

/-- The times stored after a batch are those before and a pass over the batch's times. -/
theorem storedTimes_saveBatch (reg : Registry) (userId driverId : String)
    (positions : List (UpdatePositionDto R)) (companyId : Option String) (t : PositionTable R)
    (v : String) :
    storedTimes (saveBatch reg userId driverId positions companyId t).2 v
      = storedTimes t v ∪ {x | x ∈ pass dedupClockSkew (latestTime t v)
          (batchTimes v (sortedPositions reg userId driverId companyId positions))} := by
  ext x
  rw [mem_storedTimes, saveBatch, Table.mem_keys_createMany, ← mem_storedTimes, ← mem_rowTimes,
    batchLoop_times, dbLast_timestamp]
  rfl

/-- A batch inserts nothing exactly when every time it keeps is stored. -/
theorem saveBatch_eq_nil_iff (reg : Registry) (userId driverId : String)
    (positions : List (UpdatePositionDto R)) (companyId : Option String) (t : PositionTable R) :
    (saveBatch reg userId driverId positions companyId t).1 = [] ↔
      ∀ v, ∀ x ∈ pass dedupClockSkew (latestTime t v)
        (batchTimes v (sortedPositions reg userId driverId companyId positions)),
        x ∈ storedTimes t v := by
  rw [saveBatch, Table.createMany_eq_nil_iff]
  constructor
  · intro h v x hx
    rw [← dbLast_timestamp, ← batchLoop_times t driverId (companyId.getD ""), mem_rowTimes] at hx
    obtain ⟨p, hp, hkey⟩ := List.mem_map.mp hx
    obtain ⟨q, hq, hclash⟩ := h p hp
    rw [mem_storedTimes]
    exact List.mem_map.mpr ⟨q, hq, hclash.trans hkey⟩
  · intro h p hp
    have hx : p.timestamp ∈ storedTimes t p.vehicleId := by
      refine h p.vehicleId p.timestamp ?_
      rw [← dbLast_timestamp, ← batchLoop_times t driverId (companyId.getD ""), mem_rowTimes]
      exact List.mem_map_of_mem hp
    rw [mem_storedTimes] at hx
    obtain ⟨q, hq, hkey⟩ := List.mem_map.mp hx
    exact ⟨q, hq, hkey⟩

/-- **A batch sent twice is stored once exactly when it is settled.** -/
theorem saveBatch_idempotent_iff (reg : Registry) (userId driverId : String)
    (positions : List (UpdatePositionDto R)) (companyId : Option String) (t : PositionTable R) :
    SecondRunSilent reg userId driverId positions companyId t ↔
      SettledBatch reg userId driverId positions companyId t := by
  have hsilent : SecondRunSilent reg userId driverId positions companyId t ↔
      (saveBatch reg userId driverId positions companyId
        (saveBatch reg userId driverId positions companyId t).2).1 = [] :=
    ⟨And.left, fun h => ⟨h, Table.eq_of_createMany_eq_nil _ _ h⟩⟩
  rw [hsilent, saveBatch_eq_nil_iff]
  refine forall_congr' fun v => ?_
  have hlatest := isLatest_latestTime (saveBatch reg userId driverId positions companyId t).2 v
  rw [storedTimes_saveBatch] at hlatest ⊢
  exact second_pass_iff (batchTimes_sorted reg userId driverId companyId positions v)
    (by decide) (isLatest_latestTime t v) hlatest

/-! ### A point dropped once and kept twice -/

/-- A phone fix at a fixed place. -/
def sampleDto (timestamp : Int) : UpdatePositionDto ℚ := sampleFix (-189 / 10) timestamp

/-- The table after one position at `timestamp`. -/
def sampleTable (timestamp : Int) : PositionTable ℚ :=
  (saveBatch sampleRegistry "u1" "d1" [sampleDto timestamp] (some "c1") .empty).2

/-- Stored: 1 s.  Sent twice: 1.5 s and 3 s.  The first run stores 3 s, the second 1.5 s. -/
theorem retransmission_inserts :
    rowTimes sampleVehicleId (saveBatch sampleRegistry "u1" "d1" [sampleDto 1500, sampleDto 3000]
      (some "c1") (sampleTable 1000)).1 = [3000] ∧
    rowTimes sampleVehicleId (saveBatch sampleRegistry "u1" "d1" [sampleDto 1500, sampleDto 3000]
      (some "c1") (saveBatch sampleRegistry "u1" "d1" [sampleDto 1500, sampleDto 3000]
        (some "c1") (sampleTable 1000)).2).1 = [1500] ∧
    ¬ SecondRunSilent sampleRegistry "u1" "d1" [sampleDto 1500, sampleDto 3000] (some "c1")
      (sampleTable 1000) := by
  have hfirst : rowTimes sampleVehicleId (saveBatch sampleRegistry "u1" "d1"
      [sampleDto 1500, sampleDto 3000] (some "c1") (sampleTable 1000)).1 = [3000] := by
    decide +kernel
  have hsecond : rowTimes sampleVehicleId (saveBatch sampleRegistry "u1" "d1"
      [sampleDto 1500, sampleDto 3000] (some "c1") (saveBatch sampleRegistry "u1" "d1"
        [sampleDto 1500, sampleDto 3000] (some "c1") (sampleTable 1000)).2).1 = [1500] := by
    decide +kernel
  refine ⟨hfirst, hsecond, ?_⟩
  rintro ⟨hnil, -⟩
  rw [hnil] at hsecond
  cases hsecond

end DeliveryTracking.Tracking
