/-
# `DeliveryTracking.Traccar.Live` — a position handled as it arrives

`handlePosition` filters a position, then runs the rest of its reads and writes
under the lock of its device: `ingest` is that locked section, one uninterrupted
call.  `recordFix` feeds the history of trusted fixes afterwards.
-/
import DeliveryTracking.Geo.Anchor
import DeliveryTracking.Traccar.Position

namespace DeliveryTracking.Traccar

open Geo Tracking

variable {R : Type}

/-- The settings of the bridge, and which optional services it has. -/
structure BridgeConfig (R : Type) where
  minSatellites : R
  mapMatchingEnabled : Bool
  hasRouting : Bool
  hasRedis : Bool

/-- The stored positions, the Redis keys `traccar:last_position:<device>`, and the fields of the
service that are indexed by vehicle. -/
structure Bridge (R : Type) where
  positions : PositionTable R
  lastPosition : String → Option Int
  wakeQuarantine : String → Option WakeQuarantine
  anchorBuffers : String → List (AnchorFix R)
  lastDisplayedPosition : String → Option (LatLng R)
  matchInFlight : String → Bool

/-! ## Lookups -/

/-- The active vehicle of a tracker. -/
def trackerVehicle (reg : Registry) (deviceId : String) : Option Vehicle :=
  reg.vehicles.find? fun v => v.traccarDeviceId == some deviceId &&
    v.positionSource == .physicalTracker && v.isActive && v.deletedAt.isNone

/-- `resolveDriverIdAtTimestamp`: the latest assignment that covers the time. -/
def resolveDriverIdAtTimestamp (reg : Registry) (vehicleId : String) (timestamp : Int) :
    Option String :=
  (lastBy Assignment.assignedAt (reg.assignments.filter fun a => a.vehicleId == vehicleId &&
      a.assignedAt ≤ timestamp && a.unassignedAt.all (timestamp ≤ ·))).map Assignment.driverId

/-- `currentDelivery`: the driver's latest delivery in progress. -/
def currentDelivery (reg : Registry) (driverId : Option String) : Option String :=
  match driverId with
  | none => none
  | some d =>
    (lastBy Deliveries.Delivery.createdAt (reg.deliveries.filter fun x => x.driverId == some d &&
      x.status == .in_progress && x.deletedAt.isNone)).map Deliveries.Delivery.id

theorem trackerVehicle_spec {reg : Registry} {deviceId : String} {v : Vehicle}
    (h : trackerVehicle reg deviceId = some v) :
    v ∈ reg.vehicles ∧ v.traccarDeviceId = some deviceId ∧ v.positionSource = .physicalTracker ∧
      v.isActive = true ∧ v.deletedAt = none := by
  have hq := List.find?_some h
  simp only [Bool.and_eq_true, beq_iff_eq, Option.isNone_iff_eq_none] at hq
  exact ⟨List.mem_of_find?_eq_some h, hq.1.1.1, hq.1.1.2, hq.1.2, hq.2⟩

/-- `savePosition` accepts the fixes of an active tracker. -/
theorem admitPosition_tracker {reg : Registry} {deviceId : String} {v : Vehicle}
    (h : trackerVehicle reg deviceId = some v) {dto : UpdatePositionDto R}
    (hdto : dto.vehicleId = v.id) (hid : malformedId v.id = false)
    (hdelivery : dto.deliveryId.any malformedId = false) :
    admitPosition reg dto (some v.companyId) .physicalTracker = some v.companyId := by
  obtain ⟨hmem, -, -, hactive, hdeleted⟩ := trackerVehicle_spec h
  have hfind : (reg.vehicles.find? fun w => w.id == dto.vehicleId && w.deletedAt.isNone &&
      w.isActive) = some v := by
    cases hw : reg.vehicles.find? fun w => w.id == dto.vehicleId && w.deletedAt.isNone &&
        w.isActive with
    | none =>
      have hnot := List.find?_eq_none.mp hw v hmem
      simp [hdto, hdeleted, hactive] at hnot
    | some w =>
      have hq := List.find?_some hw
      simp only [Bool.and_eq_true, beq_iff_eq] at hq
      rw [reg.vehicle_eq (List.mem_of_find?_eq_some hw) hmem (hq.1.1.trans hdto)]
  unfold admitPosition
  rw [hdto, hid, hdelivery]
  rw [hdto] at hfind
  simp [hfind]

variable [Field R] [LinearOrder R] [JsMath R]

/-! ## One fix -/

/-- `derivedAccuracy`. -/
def TraccarPosition.derivedAccuracy (pos : TraccarPosition R) : R :=
  computeCombinedAccuracy pos.accuracy pos.hdop pos.sat

/-- A fix as a point speeds are measured from. -/
def TraccarPosition.speedRef (pos : TraccarPosition R) (timestamp : Int) : GroundSpeedRef R :=
  { latitude := pos.latitude, longitude := pos.longitude, timestamp := timestamp,
    accuracy := some pos.derivedAccuracy }

/-- The speed of a tracker fix, from the last trusted one and the recent history. -/
def trackerSpeed (pos : TraccarPosition R) (time : Int × Bool) (previous : Option (GroundSpeedRef R))
    (history : List (GroundSpeedRef R)) : R :=
  (resolveGroundSpeed
    { reportedSpeedMs := some pos.reportedSpeedMs
      previous := previous
      current := pos.speedRef time.1
      currentTimestampIsServerFallback := time.2
      windowPrevious := selectSpeedWindowRef history time.1 }).speedMs

/-- The filters before the lock. -/
def acceptsFix (cfg : BridgeConfig R) (pos : TraccarPosition R) : Bool :=
  isValidCoordinates pos.latitude pos.longitude && pos.valid != some false &&
    !tooFewSatellites cfg.minSatellites pos.sat

/-! ## The locked section -/

/-- `processed`: what the locked section hands on. -/
structure Processed (R : Type) where
  position : Option (GpsPosition R)
  vehicle : Vehicle
  driverId : Option String
  dto : UpdatePositionDto R
  heading : R
  deriving DecidableEq, Repr

/-- The last trusted position of a vehicle. -/
def Bridge.lastDb (br : Bridge R) (vehicleId : String) : Option (GpsPosition R) :=
  getLastPosition br.positions vehicleId true

/-- The wake verdict on a fix of a vehicle. -/
def Bridge.wake (br : Bridge R) (vehicleId : String) (pos : TraccarPosition R) (timestamp : Int) :
    WakeFixVerdict :=
  evaluateWakeFix pos.sat ((br.lastDb vehicleId).map fun last => timestamp - last.timestamp)
    (br.wakeQuarantine vehicleId) timestamp

/-- `updateDto`. -/
def Bridge.updateDto (br : Bridge R) (reg : Registry) (vehicle : Vehicle)
    (pos : TraccarPosition R) (time : Int × Bool) : UpdatePositionDto R :=
  { latitude := pos.latitude
    longitude := pos.longitude
    speed := some (trackerSpeed pos time
      ((br.lastDb vehicle.id).map fun last => ⟨last.latitude, last.longitude, last.timestamp,
        last.accuracy⟩)
      ((br.anchorBuffers vehicle.id).map AnchorFix.speedRef))
    accuracy := some pos.derivedAccuracy
    timestamp := time.1
    vehicleId := vehicle.id
    deliveryId := currentDelivery reg (resolveDriverIdAtTimestamp reg vehicle.id time.1) }

def Bridge.setWake (br : Bridge R) (vehicleId : String) (q : Option WakeQuarantine) : Bridge R :=
  { br with wakeQuarantine := Function.update br.wakeQuarantine vehicleId q }

/-- The table after a save, and the time as the last one of the device. -/
def Bridge.setStored (br : Bridge R) (cfg : BridgeConfig R) (deviceId : String) (timestamp : Int)
    (positions : PositionTable R) : Bridge R :=
  let lastPosition := if cfg.hasRedis then
      Function.update br.lastPosition deviceId (some timestamp)
    else br.lastPosition
  { br with positions := positions, lastPosition := lastPosition }

/-- The section of `handlePosition` under the device lock. -/
def ingest (cfg : BridgeConfig R) (reg : Registry) (pos : TraccarPosition R) (now : Int)
    (br : Bridge R) : Option (Processed R) × Bridge R :=
  match trackerVehicle reg pos.deviceId with
  | none => (none, br)
  | some vehicle =>
    let time := parseTimestampMeta pos now
    let wake := br.wake vehicle.id pos time.1
    let woken := br.setWake vehicle.id wake.state
    if wake.quarantine then (none, woken)
    else
      let driverId := resolveDriverIdAtTimestamp reg vehicle.id time.1
      let dto := br.updateDto reg vehicle pos time
      let heading := pos.course.getD 0
      if validDto dto heading now = false then (none, woken)
      else
        let saved := savePosition reg driverId dto (some vehicle.companyId) .physicalTracker
          br.positions
        (some ⟨saved.1, vehicle, driverId, dto, heading⟩,
          woken.setStored cfg pos.deviceId time.1 saved.2)

/-- What the locked section can do: nothing, hold or drop the fix, or try to store it. -/
theorem ingest_cases (cfg : BridgeConfig R) (reg : Registry) (pos : TraccarPosition R) (now : Int)
    (br : Bridge R) :
    trackerVehicle reg pos.deviceId = none ∧ ingest cfg reg pos now br = (none, br) ∨
    ∃ v wake dto, trackerVehicle reg pos.deviceId = some v ∧
      wake = br.wake v.id pos (parseTimestampMeta pos now).1 ∧
      dto = br.updateDto reg v pos (parseTimestampMeta pos now) ∧
      ((wake.quarantine = true ∨ validDto dto (pos.course.getD 0) now = false) ∧
          ingest cfg reg pos now br = (none, br.setWake v.id wake.state) ∨
        wake.quarantine = false ∧ validDto dto (pos.course.getD 0) now = true ∧
          ∃ driverId saved, saved = savePosition reg driverId dto (some v.companyId)
              .physicalTracker br.positions ∧
            ingest cfg reg pos now br = (some ⟨saved.1, v, driverId, dto, pos.course.getD 0⟩,
              (br.setWake v.id wake.state).setStored cfg pos.deviceId
                (parseTimestampMeta pos now).1 saved.2)) := by
  unfold ingest
  cases trackerVehicle reg pos.deviceId with
  | none => exact Or.inl ⟨rfl, rfl⟩
  | some v =>
    refine Or.inr ⟨v, _, _, rfl, rfl, rfl, ?_⟩
    cases hwake : (br.wake v.id pos (parseTimestampMeta pos now).1).quarantine with
    | true => exact Or.inl ⟨Or.inl rfl, by simp [hwake]⟩
    | false =>
      cases hvalid : validDto (br.updateDto reg v pos (parseTimestampMeta pos now))
          (pos.course.getD 0) now with
      | false => exact Or.inl ⟨Or.inr rfl, by simp [hwake, hvalid]⟩
      | true =>
        exact Or.inr ⟨rfl, rfl, resolveDriverIdAtTimestamp reg v.id (parseTimestampMeta pos now).1,
          _, rfl, by simp [hwake, hvalid]⟩

/-- The fix as the history keeps it. -/
def Processed.anchorFix (p : Processed R) (pos : TraccarPosition R) : AnchorFix R :=
  { latitude := pos.latitude, longitude := pos.longitude, accuracy := p.dto.accuracy,
    speed := p.dto.speed, motion := pos.motion, timestamp := p.dto.timestamp }

/-- `ANCHOR_BUFFER_SIZE`. -/
def anchorBufferSize : Nat := 20

/-- Add a fix to the history of a vehicle. -/
def Bridge.pushFix (br : Bridge R) (vehicleId : String) (fix : AnchorFix R) : Bridge R :=
  let buffer := pushBounded anchorBufferSize (br.anchorBuffers vehicleId) fix
  { br with anchorBuffers := Function.update br.anchorBuffers vehicleId buffer }

/-- A stored fix that is not suspect enters the history of its vehicle. -/
def recordFix (p : Processed R) (pos : TraccarPosition R) (br : Bridge R) : Bridge R :=
  match p.position with
  | none => br
  | some row => if row.suspect then br else br.pushFix p.vehicle.id (p.anchorFix pos)

/-- `handlePosition` up to the history, with no other call in between. -/
def handlePosition (cfg : BridgeConfig R) (reg : Registry) (pos : TraccarPosition R) (now : Int)
    (br : Bridge R) : Bridge R :=
  if acceptsFix cfg pos then
    match ingest cfg reg pos now br with
    | (none, br') => br'
    | (some p, br') => recordFix p pos br'
  else br

omit [Field R] [LinearOrder R] [JsMath R] in
theorem recordFix_positions (p : Processed R) (pos : TraccarPosition R) (br : Bridge R) :
    (recordFix p pos br).positions = br.positions := by
  unfold recordFix
  split
  · rfl
  · split <;> rfl

/-- What the locked section adds to the table: nothing, or one row at the fix's time. -/
theorem ingest_rows (cfg : BridgeConfig R) (reg : Registry) (pos : TraccarPosition R) (now : Int)
    (br : Bridge R) :
    ∃ added, (ingest cfg reg pos now br).2.positions.rows = br.positions.rows ++ added ∧
      ∀ p ∈ added, p.timestamp = (parseTimestampMeta pos now).1 := by
  have hnone : ∃ added, br.positions.rows = br.positions.rows ++ added ∧
      ∀ p ∈ added, p.timestamp = (parseTimestampMeta pos now).1 :=
    ⟨[], (List.append_nil _).symm, by simp⟩
  rcases ingest_cases cfg reg pos now br with ⟨-, hskip⟩ |
    ⟨v, wake, dto, -, -, hdto, ⟨-, hskip⟩ | ⟨-, -, driverId, saved, hsaved, hstore⟩⟩
  · rw [hskip]
    exact hnone
  · rw [hskip]
    exact hnone
  · rw [hstore]
    show ∃ added, saved.2.rows = br.positions.rows ++ added ∧ _
    rcases savePosition_cases reg driverId dto (some v.companyId) .physicalTracker br.positions
      with hunsaved | ⟨c, t', -, -, hcreate, hrow⟩
    · rw [hsaved, hunsaved]
      exact hnone
    · rw [hsaved, hrow]
      refine ⟨_, Table.rows_of_create hcreate, ?_⟩
      intro p hp
      rw [List.mem_singleton.mp hp, hdto]
      rfl

/-- So does one position. -/
theorem handlePosition_rows (cfg : BridgeConfig R) (reg : Registry) (pos : TraccarPosition R)
    (now : Int) (br : Bridge R) :
    ∃ added, (handlePosition cfg reg pos now br).positions.rows = br.positions.rows ++ added ∧
      ∀ p ∈ added, p.timestamp = (parseTimestampMeta pos now).1 := by
  have hrows := ingest_rows cfg reg pos now br
  unfold handlePosition
  split
  · split
    · rename_i br' hingest
      rw [hingest] at hrows
      exact hrows
    · rename_i p br' hingest
      rw [hingest] at hrows
      rw [recordFix_positions]
      exact hrows
  · exact ⟨[], (List.append_nil _).symm, by simp⟩

/-! ### A sample tracker -/

def sampleTracker : Vehicle :=
  ⟨"3f0c8a52-6f0e-4d5f-9d6c-2a1b7c9e4d10", "c1", .physicalTracker, some "1", true, none⟩

def trackerRegistry : Registry :=
  ⟨[sampleTracker], List.pairwise_singleton _ _, [], []⟩

def sampleConfig : BridgeConfig ℚ := ⟨4, true, true, true⟩

def emptyBridge : Bridge ℚ :=
  ⟨.empty, fun _ => none, fun _ => none, fun _ => [], fun _ => none, fun _ => false⟩

/-- A parked fix. -/
def samplePosition (date : Int) (sat : ℚ) : TraccarPosition ℚ :=
  ⟨"1", -189 / 10, 475 / 10, some 0, some 0, some 0, some true, .at date, .missing, some sat, none,
    none⟩

end DeliveryTracking.Traccar
