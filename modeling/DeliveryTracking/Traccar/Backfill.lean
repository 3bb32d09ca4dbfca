/-
# `DeliveryTracking.Traccar.Backfill` — positions fetched after a reconnection

For each tracker vehicle `performBackfill` asks Traccar for the positions since
the last one it knows of (`effectiveFrom`), runs them through its own copy of the
live pipeline (`backfillStep`) and inserts those whose time is not taken.
-/
import DeliveryTracking.Traccar.Live

namespace DeliveryTracking.Traccar

open Geo Tracking

variable {R : Type}

/-! ## Lookups over the history -/

/-- `resolveDriver`: assignments in time order, the last one first. -/
def resolveDriver (reg : Registry) (vehicleId : String) (timestamp : Int) : Option String :=
  let assignments := (reg.assignments.filter fun a => a.vehicleId == vehicleId).insertionSort
    fun a b => a.assignedAt ≤ b.assignedAt
  (assignments.reverse.find? fun a => a.assignedAt ≤ timestamp &&
    a.unassignedAt.all (timestamp ≤ ·)).map Assignment.driverId

/-- `resolveDeliveryId`: the last delivery of the vehicle whose window covers the time. -/
def resolveDeliveryId (reg : Registry) (vehicleId : String) (timestamp : Int) : Option String :=
  let vehicleDeliveries := reg.deliveries.filter fun d => d.vehicleId == some vehicleId &&
    d.deletedAt.isNone && (d.status == .in_progress || d.status == .delivered ||
      d.status == .assigned)
  (vehicleDeliveries.reverse.find? fun d => d.createdAt ≤ timestamp &&
    d.completedAt.all (timestamp ≤ ·)).map Deliveries.Delivery.id

/-! ## The loop -/

/-- What the loop carries. -/
structure BackfillState (R : Type) where
  /-- `lastBackfillPos`. -/
  last : Option (GroundSpeedRef R)
  quarantine : Option WakeQuarantine
  history : List (GroundSpeedRef R)
  toInsert : List (GpsPosition R)

/-- The length `backfillHistory` is kept to. -/
def backfillHistorySize : Nat := 30

variable [Field R] [LinearOrder R] [JsMath R]

/-- The state before the first position. -/
def backfillStart (br : Bridge R) (vehicle : Vehicle) : BackfillState R :=
  { last := (br.lastDb vehicle.id).map fun p =>
      ⟨p.latitude, p.longitude, p.timestamp, p.accuracy⟩
    quarantine := none
    history := []
    toInsert := [] }

/-- The suspect flag of a backfilled fix. -/
def backfillSuspect (last : Option (GroundSpeedRef R)) (pos : TraccarPosition R) (timestamp : Int)
    (speedMs : R) : Bool :=
  match last with
  | none => false
  | some last =>
    (evaluateTeleportation last.reference pos.latitude pos.longitude timestamp
      (some pos.derivedAccuracy) (some speedMs)).suspect

/-- The row of a backfilled fix. -/
def backfillRow (reg : Registry) (vehicle : Vehicle) (pos : TraccarPosition R) (timestamp : Int)
    (speedMs : R) (suspect : Bool) : GpsPosition R :=
  { vehicleId := vehicle.id, timestamp := timestamp, latitude := pos.latitude,
    longitude := pos.longitude, speed := some speedMs, accuracy := some pos.derivedAccuracy,
    suspect := suspect, source := .physicalTracker,
    deliveryId := resolveDeliveryId reg vehicle.id timestamp,
    driverId := resolveDriver reg vehicle.id timestamp, companyId := vehicle.companyId }

/-- The wake verdict on a backfilled fix. -/
def BackfillState.wake (st : BackfillState R) (pos : TraccarPosition R) (timestamp : Int) :
    WakeFixVerdict :=
  evaluateWakeFix pos.sat (st.last.map fun last => timestamp - last.timestamp) st.quarantine
    timestamp

/-- A fix that passed the filters. -/
def backfillKeep (reg : Registry) (vehicle : Vehicle) (st : BackfillState R)
    (pos : TraccarPosition R) (time : Int × Bool) : BackfillState R :=
  let speedMs := trackerSpeed pos time st.last st.history
  let suspect := backfillSuspect st.last pos time.1 speedMs
  { last := if suspect then st.last else some (pos.speedRef time.1)
    quarantine := (st.wake pos time.1).state
    history := if suspect then st.history
      else pushBounded backfillHistorySize st.history (pos.speedRef time.1)
    toInsert := st.toInsert ++ [backfillRow reg vehicle pos time.1 speedMs suspect] }

/-- One turn of the loop. -/
def backfillStep (reg : Registry) (vehicle : Vehicle) (now : Int) (st : BackfillState R)
    (pos : TraccarPosition R) : BackfillState R :=
  let time := parseTimestampMeta pos now
  if isValidCoordinates pos.latitude pos.longitude = false then st
  else if pos.valid = some false then st
  else if (st.wake pos time.1).quarantine then
    { st with quarantine := (st.wake pos time.1).state }
  else backfillKeep reg vehicle st pos time

/-- What one turn adds to the lot: nothing, or one row of the vehicle at the fix's time. -/
theorem backfillStep_rows (reg : Registry) (vehicle : Vehicle) (now : Int) (st : BackfillState R)
    (pos : TraccarPosition R) :
    ∃ added, (backfillStep reg vehicle now st pos).toInsert = st.toInsert ++ added ∧
      ∀ p ∈ added, p.timestamp = (parseTimestampMeta pos now).1 ∧ p.vehicleId = vehicle.id := by
  have hnone : ∃ added, st.toInsert = st.toInsert ++ added ∧
      ∀ p ∈ added, p.timestamp = (parseTimestampMeta pos now).1 ∧ p.vehicleId = vehicle.id :=
    ⟨[], (List.append_nil _).symm, by simp⟩
  unfold backfillStep
  simp only
  split
  · exact hnone
  split
  · exact hnone
  split
  · exact hnone
  refine ⟨_, rfl, ?_⟩
  intro p hp
  rw [List.mem_singleton.mp hp]
  exact ⟨rfl, rfl⟩

/-! ## Insertion -/

omit [Field R] [LinearOrder R] [JsMath R] in
/-- `existingTs`: the times stored for the vehicle between the first and the last of the lot. -/
def existingTs (t : PositionTable R) (vehicleId : String) (toInsert : List (GpsPosition R)) :
    List Int :=
  match (toInsert.map GpsPosition.timestamp).min?, (toInsert.map GpsPosition.timestamp).max? with
  | some windowStart, some windowEnd =>
    (t.findMany fun p => p.vehicleId == vehicleId && windowStart ≤ p.timestamp &&
      p.timestamp ≤ windowEnd).map GpsPosition.timestamp
  | _, _ => []

omit [Field R] [LinearOrder R] [JsMath R] in
/-- `uniqueToInsert`. -/
def uniqueToInsert (t : PositionTable R) (vehicleId : String) (toInsert : List (GpsPosition R)) :
    List (GpsPosition R) :=
  toInsert.filter fun p => !(existingTs t vehicleId toInsert).contains p.timestamp

omit [Field R] [LinearOrder R] [JsMath R] in
/-- Store the lot, and move the Redis key to its latest time. -/
def insertBackfill (cfg : BridgeConfig R) (deviceId vehicleId : String)
    (toInsert : List (GpsPosition R)) (br : Bridge R) : Bridge R :=
  let unique := uniqueToInsert br.positions vehicleId toInsert
  match (unique.map GpsPosition.timestamp).max? with
  | none => br
  | some maxTs =>
    let lastPosition := if cfg.hasRedis then
        Function.update br.lastPosition deviceId (some maxTs)
      else br.lastPosition
    { br with positions := (br.positions.createMany unique).2, lastPosition := lastPosition }

omit [Field R] [LinearOrder R] [JsMath R] in
theorem mem_existingTs {t : PositionTable R} {vehicleId : String}
    {toInsert : List (GpsPosition R)} {timestamp : Int}
    (h : timestamp ∈ existingTs t vehicleId toInsert) :
    ∃ p ∈ t.rows, p.key = (vehicleId, timestamp) := by
  unfold existingTs at h
  split at h
  · obtain ⟨p, hp, rfl⟩ := List.mem_map.mp h
    obtain ⟨hmem, hq⟩ := List.mem_filter.mp hp
    simp only [Bool.and_eq_true, beq_iff_eq] at hq
    exact ⟨p, hmem, by rw [GpsPosition.key, hq.1.1]⟩
  · cases h

omit [Field R] [LinearOrder R] [JsMath R] in
/-- After the insertion a time holds the old row, else the first row of the lot. -/
theorem rowAt_insertBackfill (cfg : BridgeConfig R) (deviceId vehicleId : String)
    (toInsert : List (GpsPosition R)) (br : Bridge R) (timestamp : Int) :
    rowAt (insertBackfill cfg deviceId vehicleId toInsert br).positions.rows vehicleId timestamp
      = (rowAt br.positions.rows vehicleId timestamp).or (rowAt toInsert vehicleId timestamp) := by
  have hunique : (rowAt br.positions.rows vehicleId timestamp).or
        (rowAt (uniqueToInsert br.positions vehicleId toInsert) vehicleId timestamp)
      = (rowAt br.positions.rows vehicleId timestamp).or (rowAt toInsert vehicleId timestamp) := by
    cases hold : rowAt br.positions.rows vehicleId timestamp with
    | some p => rfl
    | none =>
      rw [Option.none_or, Option.none_or, uniqueToInsert, rowAt, rowAt, List.find?_filter]
      refine congrArg (List.find? · toInsert) (funext fun p => ?_)
      rcases Decidable.em (p.key = (vehicleId, timestamp)) with hkey | hkey
      · have hnew : p.timestamp ∉ existingTs br.positions vehicleId toInsert := by
          intro hmem
          obtain ⟨q, hq, hqkey⟩ := mem_existingTs hmem
          have hts : p.timestamp = timestamp := (Prod.mk.inj hkey).2
          rw [hts] at hqkey
          exact List.find?_eq_none.mp hold q hq (decide_eq_true hqkey)
        simp [hkey, hnew]
      · simp [hkey]
  unfold insertBackfill
  cases hmax : ((uniqueToInsert br.positions vehicleId toInsert).map GpsPosition.timestamp).max? with
  | none =>
    have hempty : uniqueToInsert br.positions vehicleId toInsert = [] :=
      List.map_eq_nil_iff.mp (List.max?_eq_none_iff.mp hmax)
    rw [hempty] at hunique
    simp only [hempty]
    rw [← hunique]
    exact Option.or_none.symm
  | some maxTs =>
    simp only [hmax]
    exact (rowAt_createMany ..).trans hunique

/-! ## One device -/

/-- `BACKFILL_MAX_HOURS`, in milliseconds. -/
def backfillMax : Int := 24 * 3600000

omit [Field R] [LinearOrder R] [JsMath R] in
/-- `lastTs`: the Redis key, without it the time of the last stored position. -/
def lastKnown (cfg : BridgeConfig R) (br : Bridge R) (deviceId vehicleId : String) : Option Int :=
  let stored := if cfg.hasRedis then br.lastPosition deviceId else none
  stored <|> (getLastPosition br.positions vehicleId false).map GpsPosition.timestamp

omit [Field R] [LinearOrder R] [JsMath R] in
/-- The lower bound of the request. -/
def effectiveFrom (cfg : BridgeConfig R) (br : Bridge R) (deviceId vehicleId : String)
    (now : Int) : Int :=
  max ((lastKnown cfg br deviceId vehicleId).getD (now - backfillMax) + 1000) (now - backfillMax)

/-- Traccar's REST interface: the positions of a device between two times. -/
abbrev Rest (R : Type) := String → Int → Int → List (TraccarPosition R)

/-- The backfill of one vehicle, under the lock of its device. -/
def backfillDevice (cfg : BridgeConfig R) (reg : Registry) (rest : Rest R) (now : Int)
    (vehicle : Vehicle) (br : Bridge R) : Bridge R :=
  match vehicle.traccarDeviceId with
  | none => br
  | some deviceId =>
    let lower := effectiveFrom cfg br deviceId vehicle.id now
    if now ≤ lower then br
    else
      let positions := rest deviceId lower now
      insertBackfill cfg deviceId vehicle.id
        (positions.foldl (backfillStep reg vehicle now) (backfillStart br vehicle)).toInsert br

end DeliveryTracking.Traccar
