/-
# `DeliveryTracking.Tracking.Answer` — what a phone is answered

A phone sends a position over its socket and keeps the next one until the gateway
has answered `positionSaved` or `positionRejected`.  `handlePosition` awaits six
queries; other requests run in between, so each finds a database of its own
(`Queries`).  It ends at the first that applies:

    invalid payload        positionRejected
    rate limit             positionRejected
    not assigned           positionRejected
    no driver profile      nothing
    vehicle of another     positionRejected
    refused by the store   positionRejected
    late fix               nothing, and the position is stored
    otherwise              positionSaved

A phone is answered at most once, and `handlePosition_answers_iff` says exactly
when it is.
-/
import DeliveryTracking.Tracking.Payload
import DeliveryTracking.Tracking.SaveBatch

namespace DeliveryTracking.Tracking

open Geo

/-! ## The service's queries -/

/-- The tables as a query finds them. -/
structure TrackingDb (R : Type) where
  registry : Registry
  drivers : List Deliveries.Driver
  positions : PositionTable R

variable {R : Type}

namespace TrackingDb

variable (db : TrackingDb R)

def findDriverByUserId (userId : String) : Option Deliveries.Driver :=
  db.drivers.find? fun d => d.userId == some userId

/-- `assertVehicleOwnership` does not throw. -/
def ownsVehicle (vehicleId companyId : String) : Bool :=
  db.registry.vehicles.any fun v =>
    v.id == vehicleId && v.companyId == companyId && v.deletedAt.isNone

/-- `getLastPosition` of the handler: suspects are skipped. -/
def lastTrusted (vehicleId : String) : Option (GpsPosition R) :=
  getLastPosition db.positions vehicleId true

/-- What `savePosition` refuses. -/
def Refuses (dto : UpdatePositionDto R) (companyId : String) : Prop :=
  admitPosition db.registry dto (some companyId) .phone = none ∨
    isDuplicateByTimestamp db.positions dto.vehicleId dto.deliveryId dto.timestamp = true ∨
    ∃ p ∈ db.positions.rows, p.key = (dto.vehicleId, dto.timestamp)

instance (dto : UpdatePositionDto R) (companyId : String) : Decidable (db.Refuses dto companyId) :=
  inferInstanceAs (Decidable (_ ∨ _ ∨ _))

end TrackingDb

/-- `verifyDriverAssignment` does not throw: the delivery is read in one query, the driver in the
next, which only a delivery not assigned to the account needs. -/
def verifyDriverAssignment (deliveries drivers : TrackingDb R) (deliveryId userId : String) :
    Bool :=
  match deliveries.registry.deliveries.find? fun d => d.id == deliveryId with
  | none => false
  | some delivery =>
    delivery.assignedDriverId == some userId ||
      match drivers.findDriverByUserId userId with
      | none => false
      | some driver => delivery.driverId == some driver.id

/-- `isRateLimited`: the key of the account is in the cache, unless the limit is disabled. -/
def isRateLimited (ttlMs : Int) (cached : Bool) : Bool := 0 < ttlMs && cached

/-- The database as each query of the handler finds it. -/
structure Queries (R : Type) where
  delivery : TrackingDb R
  assigned : TrackingDb R
  driver : TrackingDb R
  vehicle : TrackingDb R
  last : TrackingDb R
  save : TrackingDb R

/-! ## The handler -/

structure WsUser where
  id : String
  companyId : String
  role : String
  deriving DecidableEq, Repr

/-- What is emitted to the client; a saved position is known by its key. -/
inductive Reply where
  | positionSaved (key : String × Int) (suspect : Bool)
  | positionRejected (reason : String)
  deriving DecidableEq, Repr

/-- A call of the handler: its user, the payload, the server's clock, and the rate limit as it
finds it. -/
structure PositionCall (R : Type) where
  user : WsUser
  raw : RawPosition R
  now : Int
  rateLimitTtlMs : Int
  rateLimitCached : Bool

/-- What a call leaves behind. -/
structure Handled (R : Type) where
  replies : List Reply
  /-- The rooms the position is sent to. -/
  broadcasts : List String
  positions : PositionTable R
  speedWindows : String → List (GroundSpeedRef R)

/-- The oldest fixes of a speed window leave it after this time. -/
def speedWindowKeep : Int := 130 * 1000

/-- A fix enters its vehicle's speed window. -/
def pushSpeedWindow (window : List (GroundSpeedRef R)) (fix : GroundSpeedRef R) :
    List (GroundSpeedRef R) :=
  (window ++ [fix]).dropWhile fun f => speedWindowKeep < fix.timestamp - f.timestamp

/-- The rooms of a position. -/
def positionRooms (dto : UpdatePositionDto R) (companyId : String) : List String :=
  (dto.deliveryId.toList.filter (· ≠ "")).map ("delivery:" ++ ·) ++ ["company:" ++ companyId]

/-- `!!last && fixTs < last.timestamp` -/
def outOfOrder (last : Option (GpsPosition R)) (dto : UpdatePositionDto R) : Bool :=
  last.any fun p => dto.timestamp < p.timestamp

variable [Field R] [LinearOrder R] [JsMath R]

/-- The speed the handler stores. -/
def handledSpeed (last : Option (GpsPosition R)) (window : List (GroundSpeedRef R))
    (dto : UpdatePositionDto R) : R :=
  (resolveGroundSpeed
    { reportedSpeedMs := dto.speed
      previous := last.map fun p => p.reference.speedRef
      current := dto.speedRef
      currentTimestampIsServerFallback := false
      windowPrevious := selectSpeedWindowRef window dto.timestamp }).speedMs

/-- A call that emits nothing, with the reason of its answer if it has one, and stores nothing. -/
def Queries.leave (q : Queries R) (windows : String → List (GroundSpeedRef R))
    (reason : Option String) : Handled R :=
  ⟨reason.toList.map .positionRejected, [], q.save.positions, windows⟩

namespace PositionCall

variable (call : PositionCall R) (q : Queries R) (windows : String → List (GroundSpeedRef R))

/-- `!verifyDriverAssignment`, for a position that names a delivery. -/
def notAssigned (dto : UpdatePositionDto R) : Bool :=
  dto.deliveryId.any fun d => d ≠ "" && !verifyDriverAssignment q.delivery q.assigned d call.user.id

/-- `effectiveDto`: the fix with its resolved speed. -/
def effectiveDto (dto : UpdatePositionDto R) : UpdatePositionDto R :=
  { dto with
    speed := some (handledSpeed (q.last.lastTrusted dto.vehicleId) (windows dto.vehicleId) dto) }

/-- The handler once the driver and the vehicle are known. -/
def store (driverId : String) (dto : UpdatePositionDto R) : Handled R :=
  let late := outOfOrder (q.last.lastTrusted dto.vehicleId) dto
  match savePosition q.save.registry (some driverId) (effectiveDto q windows dto)
      (some call.user.companyId) .phone q.save.positions with
  | (none, _) => q.leave windows (some "rejected")
  | (some position, positions) =>
    let windows :=
      if late || position.suspect then windows
      else Function.update windows dto.vehicleId
        (pushSpeedWindow (windows dto.vehicleId) dto.speedRef)
    if late then ⟨[], [], positions, windows⟩
    else
      ⟨[.positionSaved position.key position.suspect], positionRooms dto call.user.companyId,
        positions, windows⟩

/-- `handlePosition`. -/
def handlePosition : Handled R :=
  if call.user.role ≠ "driver" then q.leave windows none
  else
    match validatePosition call.now call.raw with
    | .error _ => q.leave windows (some "invalid_payload")
    | .ok dto =>
      if isRateLimited call.rateLimitTtlMs call.rateLimitCached then
        q.leave windows (some "rate_limited")
      else if call.notAssigned q dto then q.leave windows (some "not_assigned")
      else
        match q.driver.findDriverByUserId call.user.id with
        | none => q.leave windows none
        | some driver =>
          if q.vehicle.ownsVehicle dto.vehicleId call.user.companyId = false then
            q.leave windows (some "vehicle_mismatch")
          else call.store q windows driver.id dto

/-! ## What a call does -/

/-- Beyond the vehicle check a fix is refused, or stored; a late one then without a word. -/
theorem store_cases (driverId : String) (dto : UpdatePositionDto R) :
    (q.save.Refuses dto call.user.companyId ∧
      call.store q windows driverId dto = q.leave windows (some "rejected")) ∨
    (¬ q.save.Refuses dto call.user.companyId ∧ ∃ position positions windows',
      (positions.rows = q.save.positions.rows ++ [position] ∧
        position.key = (dto.vehicleId, dto.timestamp)) ∧
      (outOfOrder (q.last.lastTrusted dto.vehicleId) dto = true ∧
          call.store q windows driverId dto = ⟨[], [], positions, windows'⟩ ∨
        outOfOrder (q.last.lastTrusted dto.vehicleId) dto = false ∧
          call.store q windows driverId dto
            = ⟨[.positionSaved position.key position.suspect],
                positionRooms dto call.user.companyId, positions, windows'⟩)) := by
  have hrefuses : (savePosition q.save.registry (some driverId) (effectiveDto q windows dto)
      (some call.user.companyId) .phone q.save.positions).1 = none ↔
      q.save.Refuses dto call.user.companyId :=
    savePosition_eq_none_iff
  simp only [store]
  rcases savePosition_cases q.save.registry (some driverId) (effectiveDto q windows dto)
      (some call.user.companyId) .phone q.save.positions with hsave | ⟨c, t, -, -, hcreate, hsave⟩
  · rw [hsave] at hrefuses ⊢
    exact Or.inl ⟨hrefuses.mp rfl, rfl⟩
  · rw [hsave] at hrefuses ⊢
    have haccepts : ¬ q.save.Refuses dto call.user.companyId := by
      intro h
      cases hrefuses.mpr h
    have hkey : ((effectiveDto q windows dto).row (some driverId) c .phone (detectTeleportation
        q.save.positions (effectiveDto q windows dto) .phone)).key = (dto.vehicleId, dto.timestamp) :=
      rfl
    generalize (effectiveDto q windows dto).row (some driverId) c .phone
      (detectTeleportation q.save.positions (effectiveDto q windows dto) .phone) = row
      at hcreate hkey ⊢
    have hrows : t.rows = q.save.positions.rows ++ [row] := Table.rows_of_create hcreate
    refine Or.inr ⟨haccepts, row, t, ?_⟩
    cases hlate : outOfOrder (q.last.lastTrusted dto.vehicleId) dto with
    | true => exact ⟨_, ⟨hrows, hkey⟩, Or.inl ⟨rfl, rfl⟩⟩
    | false => exact ⟨_, ⟨hrows, hkey⟩, Or.inr ⟨rfl, rfl⟩⟩

/-- A call leaves with at most one word and stores nothing, or gets beyond the vehicle check. -/
theorem handlePosition_cases :
    (∃ reason, call.handlePosition q windows = q.leave windows reason) ∨
    ∃ driverId dto, validatePosition call.now call.raw = .ok dto ∧
      call.handlePosition q windows = call.store q windows driverId dto := by
  unfold handlePosition
  split
  · exact Or.inl ⟨none, rfl⟩
  split
  · exact Or.inl ⟨some "invalid_payload", rfl⟩
  rename_i dto hvalid
  split
  · exact Or.inl ⟨some "rate_limited", rfl⟩
  split
  · exact Or.inl ⟨some "not_assigned", rfl⟩
  split
  · exact Or.inl ⟨none, rfl⟩
  rename_i driver _
  split
  · exact Or.inl ⟨some "vehicle_mismatch", rfl⟩
  · exact Or.inr ⟨driver.id, dto, hvalid, rfl⟩

omit [Field R] [LinearOrder R] [JsMath R] in
theorem length_leave (reason : Option String) :
    (q.leave windows reason).replies.length = if reason.isSome then 1 else 0 := by
  cases reason <;> rfl

/-- Nobody is answered twice. -/
theorem handlePosition_replies_le_one : (call.handlePosition q windows).replies.length ≤ 1 := by
  have hleave : ∀ reason, (q.leave windows reason).replies.length ≤ 1 := by
    intro reason
    rw [length_leave]
    split <;> omega
  rcases call.handlePosition_cases q windows with ⟨reason, h⟩ | ⟨driverId, dto, -, h⟩
  · rw [h]
    exact hleave reason
  · rw [h]
    rcases call.store_cases q windows driverId dto with
      ⟨-, h⟩ | ⟨-, position, t, windows', -, ⟨-, h⟩ | ⟨-, h⟩⟩
    · rw [h]
      exact hleave _
    · rw [h]
      exact Nat.zero_le 1
    · rw [h]
      exact le_rfl

/-- A position answered as saved is stored under the key of the answer. -/
theorem stored_of_positionSaved {key : String × Int} {suspect : Bool}
    (hsaved : .positionSaved key suspect ∈ (call.handlePosition q windows).replies) :
    ∃ p ∈ (call.handlePosition q windows).positions.rows, p.key = key ∧ p.suspect = suspect := by
  have hleave : ∀ reason, .positionSaved key suspect ∉ (q.leave windows reason).replies := by
    intro reason hmem
    obtain ⟨_, -, h⟩ := List.mem_map.mp hmem
    cases h
  rcases call.handlePosition_cases q windows with ⟨reason, h⟩ | ⟨driverId, dto, -, h⟩
  · rw [h] at hsaved
    exact absurd hsaved (hleave reason)
  · rw [h] at hsaved ⊢
    rcases call.store_cases q windows driverId dto with
      ⟨-, h⟩ | ⟨-, position, t, windows', ⟨hrows, -⟩, ⟨-, h⟩ | ⟨-, h⟩⟩
    · rw [h] at hsaved
      exact absurd hsaved (hleave _)
    · rw [h] at hsaved
      cases hsaved
    · rw [h] at hsaved ⊢
      cases List.mem_singleton.mp hsaved
      refine ⟨position, ?_, rfl, rfl⟩
      rw [hrows]
      exact List.mem_append_right _ (List.mem_singleton_self _)

/-! ## When it answers -/

/-- An exit that emits comes before the profile, or the driver has one and the vehicle is not the
company's, or the store refuses the fix, or it is not older than the last trusted position. -/
def Answerable : Prop :=
  match validatePosition call.now call.raw with
  | .error _ => True
  | .ok dto =>
    isRateLimited call.rateLimitTtlMs call.rateLimitCached = true ∨ call.notAssigned q dto = true ∨
      (q.driver.findDriverByUserId call.user.id).isSome ∧
        (q.vehicle.ownsVehicle dto.vehicleId call.user.companyId = false ∨
          q.save.Refuses dto call.user.companyId ∨
          outOfOrder (q.last.lastTrusted dto.vehicleId) dto = false)

instance : Decidable (call.Answerable q) := by
  unfold Answerable
  split
  · exact instDecidableTrue
  · exact inferInstanceAs (Decidable (_ ∨ _ ∨ _ ∧ (_ ∨ _ ∨ _)))

/-- Beyond the vehicle check the handler answers a fix that is refused or not late. -/
theorem store_answers_iff (driverId : String) (dto : UpdatePositionDto R) :
    (call.store q windows driverId dto).replies.length = 1 ↔
      q.save.Refuses dto call.user.companyId ∨
        outOfOrder (q.last.lastTrusted dto.vehicleId) dto = false := by
  rcases call.store_cases q windows driverId dto with
    ⟨hrefuses, h⟩ | ⟨haccepts, position, t, windows', -, ⟨hlate, h⟩ | ⟨hlate, h⟩⟩
  · rw [h]
    exact iff_of_true rfl (Or.inl hrefuses)
  · rw [h]
    exact iff_of_false Nat.zero_ne_one (by simp [haccepts, hlate])
  · rw [h]
    exact iff_of_true rfl (Or.inr hlate)

/-- **A driver's message is answered exactly once exactly when it is answerable.** -/
theorem handlePosition_answers_iff (hrole : call.user.role = "driver") :
    (call.handlePosition q windows).replies.length = 1 ↔ call.Answerable q := by
  unfold handlePosition Answerable
  rw [if_neg (not_not_intro hrole)]
  cases hvalid : validatePosition call.now call.raw with
  | error reason => exact iff_of_true rfl trivial
  | ok dto =>
    simp only
    cases hrate : isRateLimited call.rateLimitTtlMs call.rateLimitCached with
    | true => exact iff_of_true rfl (Or.inl rfl)
    | false =>
      cases hassigned : call.notAssigned q dto with
      | true => exact iff_of_true rfl (Or.inr (Or.inl rfl))
      | false =>
        cases hdriver : q.driver.findDriverByUserId call.user.id with
        | none => simp [length_leave]
        | some driver =>
          cases howned : q.vehicle.ownsVehicle dto.vehicleId call.user.companyId with
          | false => simp [length_leave]
          | true => simpa using call.store_answers_iff q windows driver.id dto

end PositionCall

/-! ### A sample driver -/

/-- The tables of one company with the sample vehicle. -/
def sampleDb (drivers : List Deliveries.Driver) (positions : PositionTable ℚ) : TrackingDb ℚ :=
  ⟨sampleRegistry, drivers, positions⟩

def sampleDriver : Deliveries.Driver := ⟨"d1", "c1", some "u1", none⟩

/-- The same tables for every query. -/
def sameDb (db : TrackingDb ℚ) : Queries ℚ := ⟨db, db, db, db, db, db⟩

/-- A precise fix of the sample vehicle, as its driver's phone sends it. -/
def sampleCall (timestamp : Int) : PositionCall ℚ :=
  { user := ⟨"u1", "c1", "driver"⟩
    raw :=
      { latitude := .finite (-189 / 10), longitude := .finite (475 / 10), speed := .finite 0,
        heading := .missing, altitude := .missing, accuracy := .finite 10,
        timestamp := .text true (some timestamp), deliveryId := none,
        vehicleId := some sampleVehicleId }
    now := 10000, rateLimitTtlMs := 1000, rateLimitCached := false }

/-- The sample table after a fix at 9 s. -/
def sampleStored : PositionTable ℚ :=
  (savePosition sampleRegistry (some "d1") (sampleFix (-189 / 10) 9000) (some "c1") .phone .empty).2

theorem handlePosition_answers_sample :
    ((sampleCall 9000).handlePosition (sameDb (sampleDb [sampleDriver] .empty))
      fun _ => []).replies.length = 1 :=
  ((sampleCall 9000).handlePosition_answers_iff (sameDb (sampleDb [sampleDriver] .empty)) (fun _ => [])
    rfl).mpr (by decide +kernel)

/-- A fix 4 s older than the last one is stored and not answered; nor is a driver without a
profile. -/
theorem handlePosition_silent :
    ((sampleCall 5000).handlePosition (sameDb (sampleDb [sampleDriver] sampleStored))
      fun _ => []).replies = [] ∧
    ((sampleCall 5000).handlePosition (sameDb (sampleDb [sampleDriver] sampleStored))
      fun _ => []).positions.rows.length = 2 ∧
    ((sampleCall 9000).handlePosition (sameDb (sampleDb [] .empty)) fun _ => []).replies = [] ∧
    ¬ ∀ (call : PositionCall ℚ) (q : Queries ℚ) (windows : String → List (GroundSpeedRef ℚ)),
        call.user.role = "driver" → (call.handlePosition q windows).replies.length = 1 := by
  have hlate : ((sampleCall 5000).handlePosition (sameDb (sampleDb [sampleDriver] sampleStored))
      fun _ => []).replies = [] := by
    decide +kernel
  refine ⟨hlate, by decide +kernel, by decide +kernel, fun hall => ?_⟩
  have hone := hall (sampleCall 5000) (sameDb (sampleDb [sampleDriver] sampleStored)) (fun _ => [])
    rfl
  rw [hlate] at hone
  cases hone

end DeliveryTracking.Tracking
