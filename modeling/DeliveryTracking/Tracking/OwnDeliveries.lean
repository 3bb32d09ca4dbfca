/-
# `DeliveryTracking.Tracking.OwnDeliveries` — what a client account is shown

An account with the role `client` belongs to a company and has deliveries of its
own, by their `clientId`.  What it can ask for, and what it is sent:

    GET deliveries/:id             only its own
    GET positions/:deliveryId      any of its company
    GET distance/:deliveryId       any of its company
    subscribeToDelivery            any of its company
    connect, subscribeToCompany    the room of its company

To the room of the company goes every position of every vehicle.  A batch of
positions goes, whole, to the room of each delivery in it.

The observer is the account, and its view the same program over its own
deliveries, their positions, and their vehicles and drivers.  Where the account
asks and subscribes for its own deliveries only, and its sockets are in no room
where anything else is sent, this view accounts for all it is shown
(`shown_of_own`).
-/
import DeliveryTracking.Tracking.Answer
import DeliveryTracking.View

namespace DeliveryTracking.Tracking

open Geo

/-! ## The tables -/

/-- A row of `deliveries`; `columns` are those nobody here looks at. -/
structure DeliveryRecord (D : Type) where
  id : String
  companyId : String
  clientId : Option String
  assignedDriverId : Option String
  vehicleId : Option String
  driverId : Option String
  deletedAt : Option Int
  columns : D
  deriving DecidableEq, Repr

/-- The columns of a vehicle in a delivery's answer. -/
structure VehicleSummary where
  id : String
  brand : String
  model : String
  licensePlate : String
  deriving DecidableEq, Repr

/-- The columns of a driver in a delivery's answer. -/
structure DriverSummary where
  id : String
  firstName : String
  lastName : String
  deriving DecidableEq, Repr

/-- A row of `gps_positions`, with the columns that are answered. -/
structure PositionRecord (R : Type) where
  id : String
  deliveryId : Option String
  driverId : Option String
  latitude : R
  longitude : R
  speed : Option R
  heading : Option R
  altitude : Option R
  accuracy : Option R
  suspect : Bool
  timestamp : Int
  deriving DecidableEq, Repr

structure TrackingTables (D R : Type) where
  deliveries : List (DeliveryRecord D)
  vehicles : List VehicleSummary
  drivers : List DriverSummary
  positions : List (PositionRecord R)
  deriving DecidableEq, Repr

/-- A delivery as it is answered. -/
structure DeliveryAnswer (D : Type) where
  delivery : DeliveryRecord D
  vehicle : Option VehicleSummary
  driver : Option DriverSummary
  deriving DecidableEq, Repr

structure PositionsPage (R : Type) where
  data : List (PositionRecord R)
  total : Nat
  page : Nat
  limit : Nat
  totalPages : Nat
  deriving DecidableEq, Repr

structure DistanceAnswer (R : Type) where
  meters : R
  kilometers : R
  deriving DecidableEq, Repr

namespace TrackingTables

variable {D R : Type} (t : TrackingTables D R)

def withSummaries (d : DeliveryRecord D) : DeliveryAnswer D :=
  ⟨d, d.vehicleId.bind fun id => t.vehicles.find? (·.id == id),
    d.driverId.bind fun id => t.drivers.find? (·.id == id)⟩

/-- `findOne` of the deliveries; nothing is a 404. -/
def findOne (companyId id role userId : String) : Option (DeliveryAnswer D) :=
  (t.deliveries.find? fun d =>
    d.id == id && d.companyId == companyId && d.deletedAt.isNone &&
      (role != "client" || d.clientId == some userId) &&
      (role != "driver" || d.assignedDriverId == some userId)).map t.withSummaries

/-- `getDeliveryInfo` does not throw. -/
def getDeliveryInfo (deliveryId companyId : String) : Bool :=
  t.deliveries.any fun d => d.id == deliveryId && d.companyId == companyId

/-- The positions with `{ deliveryId, delivery: { companyId } }`. -/
def positionsOf (deliveryId companyId : String) : List (PositionRecord R) :=
  t.positions.filter fun p =>
    p.deliveryId == some deliveryId && t.getDeliveryInfo deliveryId companyId

/-- Oldest first. -/
def inTime (positions : List (PositionRecord R)) : List (PositionRecord R) :=
  positions.insertionSort fun p q => p.timestamp ≤ q.timestamp

def getPositionsByDelivery (deliveryId companyId : String) (page limit : Nat) : PositionsPage R :=
  let found := t.positionsOf deliveryId companyId
  { data := ((inTime found).drop ((page - 1) * limit)).take limit
    total := found.length, page := page, limit := limit
    totalPages := (found.length + limit - 1) / limit }

/-- The parameters of the page: what is no number, or 0, is the default. -/
def getPositions (deliveryId companyId : String) (page limit : Option Int) : PositionsPage R :=
  let safePage := max 1 ((page.filter (· ≠ 0)).getD 1)
  let safeLimit := min 1000 (max 1 ((limit.filter (· ≠ 0)).getD 200))
  t.getPositionsByDelivery deliveryId companyId safePage.toNat safeLimit.toNat

variable [Field R] [JsMath R]

/-- The distance over the trusted positions; `computeFilteredDistance` is a function of them. -/
def calculateDistance (computeFilteredDistance : List (PositionRecord R) → R)
    (deliveryId companyId : String) : DistanceAnswer R :=
  let positions := inTime ((t.positionsOf deliveryId companyId).filter fun p => !p.suspect)
  if positions.length < 2 then ⟨0, 0⟩
  else
    let totalDistance := computeFilteredDistance positions
    ⟨JsMath.round totalDistance, JsMath.round (totalDistance / 10) / 100⟩

end TrackingTables

/-! ## What is sent -/

/-- A position as it is broadcast. -/
structure PositionBroadcast (R : Type) where
  driverId : Option String
  driverName : String
  latitude : R
  longitude : R
  displayLatitude : R
  displayLongitude : R
  speed : Option R
  heading : Option R
  altitude : Option R
  accuracy : Option R
  suspect : Bool
  confidence : Int
  timestamp : Int
  deliveryId : Option String
  vehicleId : String
  deriving DecidableEq, Repr

/-- An event and its data: positions, or something else as JSON. -/
structure GatewayMessage (R : Type) where
  event : String
  positions : List (PositionBroadcast R)
  data : String
  deriving DecidableEq, Repr

/-- What the server sends, by its own doing or another user's. -/
inductive Emission (R : Type) where
  /-- A driver's `updatePosition`. -/
  | positionUpdate (companyId : String) (position : PositionBroadcast R)
  /-- A driver's `batchPosition`. -/
  | batchPositionUpdate (companyId : String) (positions : List (PositionBroadcast R))
  /-- A tracker's position. -/
  | trackerPosition (companyId : String) (position : PositionBroadcast R)
  /-- `dataUpdate`, `driverOffline`, `notification`. -/
  | company (companyId event data : String)
  /-- To the room of a driver or of a user. -/
  | account (room event data : String)
  deriving DecidableEq, Repr

def companyRoom (companyId : String) : String := "company:" ++ companyId

def deliveryRooms {R : Type} (p : PositionBroadcast R) : List String :=
  (p.deliveryId.toList.filter (· ≠ "")).map ("delivery:" ++ ·)

namespace Emission

variable {R : Type}

/-- The rooms, in the order they are sent to. -/
def rooms : Emission R → List String
  | positionUpdate companyId p => deliveryRooms p ++ [companyRoom companyId]
  | batchPositionUpdate companyId ps => (ps.flatMap deliveryRooms ++ [companyRoom companyId]).eraseDups
  | trackerPosition companyId _ => [companyRoom companyId]
  | company companyId _ _ => [companyRoom companyId]
  | account room _ _ => [room]

def message : Emission R → GatewayMessage R
  | positionUpdate _ p => ⟨"positionUpdate", [p], ""⟩
  | batchPositionUpdate _ ps => ⟨"batchPositionUpdate", ps, ""⟩
  | trackerPosition _ p => ⟨"positionUpdate", [p], ""⟩
  | company _ event data => ⟨event, [], data⟩
  | account _ event data => ⟨event, [], data⟩

end Emission

/-! ## The account's sockets and requests -/

structure RoomSocket where
  id : String
  rooms : List String
  deriving DecidableEq, Repr

inductive SocketMessage where
  /-- `none` where the body is no string. -/
  | subscribeToDelivery (deliveryId : Option String)
  | unsubscribeFromDelivery (deliveryId : String)
  | subscribeToCompany
  | unsubscribeFromCompany
  deriving DecidableEq, Repr

inductive ClientRequest where
  | findOne (id : String)
  | getPositions (deliveryId : String) (page limit : Option Int)
  | getDistance (deliveryId : String)
  deriving DecidableEq, Repr

/-- What the account does, and whether its credential passes. -/
inductive ClientAction where
  | connect (socketId : String) (verified : Bool)
  | disconnect (socketId : String)
  | message (socketId : String) (authorized : Bool) (m : SocketMessage)
  | request (authorized : Bool) (r : ClientRequest)
  deriving DecidableEq, Repr

inductive ClientShown (D R : Type) where
  | sent (socketId : String) (m : GatewayMessage R)
  /-- The answer to the socket's own message: an event and its data. -/
  | reply (socketId event data : String)
  | delivery (answer : Option (DeliveryAnswer D))
  | positions (page : PositionsPage R)
  | distance (answer : DistanceAnswer R)
  | unauthorized
  deriving DecidableEq, Repr

structure ClientWorld (D R : Type) where
  tables : TrackingTables D R
  sockets : List RoomSocket
  deriving DecidableEq, Repr

/-- What happens: the account acts, anyone writes the tables, the server sends. -/
inductive ClientWorldEvent (D R : Type) where
  | act (a : ClientAction)
  | write (tables : TrackingTables D R)
  | emit (e : Emission R)
  deriving DecidableEq, Repr

section Handlers

variable {D R : Type} (user : WsUser) (t : TrackingTables D R)

/-- The rooms `handleConnection` joins. -/
def connectionRooms : List String :=
  if user.role = "driver" then ["driver:" ++ user.id]
  else if user.companyId = "" then [] else [companyRoom user.companyId]

/-- A message of a socket that is in `rooms`: what it is answered, and the rooms it is in then. -/
def handleMessage (rooms : List String) : SocketMessage → List (String × String) × List String
  | .subscribeToDelivery deliveryId =>
    if user.role = "driver" then ([], rooms)
    else
      match deliveryId with
      | none => ([("error", "Invalid delivery ID")], rooms)
      | some id =>
        if id = "" then ([("error", "Invalid delivery ID")], rooms)
        else if t.getDeliveryInfo id user.companyId then
          ([("subscribed", id)], ("delivery:" ++ id) :: rooms)
        else ([("error", "Delivery not found or access denied")], rooms)
  | .unsubscribeFromDelivery deliveryId =>
    if user.role = "driver" then ([], rooms)
    else ([("unsubscribed", deliveryId)], rooms.filter (· ≠ "delivery:" ++ deliveryId))
  | .subscribeToCompany =>
    if user.role = "driver" then ([], rooms)
    else ([("subscribed", user.companyId)], companyRoom user.companyId :: rooms)
  | .unsubscribeFromCompany =>
    if user.role = "driver" then ([], rooms)
    else ([("unsubscribed", user.companyId)], rooms.filter (· ≠ companyRoom user.companyId))

variable [Field R] [JsMath R] (computeFilteredDistance : List (PositionRecord R) → R)

def answerRequest : ClientRequest → ClientShown D R
  | .findOne id => .delivery (t.findOne user.companyId id user.role user.id)
  | .getPositions deliveryId page limit =>
    .positions (t.getPositions deliveryId user.companyId page limit)
  | .getDistance deliveryId =>
    .distance (t.calculateDistance computeFilteredDistance deliveryId user.companyId)

def act (sockets : List RoomSocket) : ClientAction → List (ClientShown D R) × List RoomSocket
  | .connect socketId verified =>
    if verified then ([], sockets ++ [⟨socketId, connectionRooms user⟩])
    else ([.reply socketId "error" "Invalid token"], sockets)
  | .disconnect socketId => ([], sockets.filter fun w => w.id ≠ socketId)
  | .message socketId authorized m =>
    if authorized then
      (sockets.flatMap fun w =>
          if w.id = socketId then
            (handleMessage user t w.rooms m).1.map fun r => .reply w.id r.1 r.2
          else [],
        sockets.map fun w =>
          if w.id = socketId then { w with rooms := (handleMessage user t w.rooms m).2 } else w)
    else (sockets.flatMap fun w =>
      if w.id = socketId then [.reply w.id "exception" "Invalid or expired token"] else [], sockets)
  | .request authorized r =>
    (if authorized then [answerRequest user t computeFilteredDistance r] else [.unauthorized], sockets)

/-- Each room in turn, to the account's sockets in it. -/
def send (sockets : List RoomSocket) (e : Emission R) : List (ClientShown D R) :=
  e.rooms.flatMap fun room =>
    (sockets.filter fun w => decide (room ∈ w.rooms)).map fun w => .sent w.id e.message

def ClientWorld.step (s : ClientWorld D R) :
    ClientWorldEvent D R → List (ClientShown D R) × ClientWorld D R
  | .act a =>
    let acted := act user s.tables computeFilteredDistance s.sockets a
    (acted.1, { s with sockets := acted.2 })
  | .write tables => ([], { s with tables := tables })
  | .emit e => (send s.sockets e, s)

end Handlers

/-! ## The account's own -/

section Own

variable {D R : Type} (user : WsUser) (t : TrackingTables D R)

def isOwn (d : DeliveryRecord D) : Bool := d.clientId == some user.id

namespace TrackingTables

/-- The deliveries of the account, with their positions, vehicles and drivers. -/
def own : TrackingTables D R where
  deliveries := t.deliveries.filter (isOwn user)
  vehicles := t.vehicles.filter fun v =>
    (t.deliveries.filter (isOwn user)).any fun d => d.vehicleId == some v.id
  drivers := t.drivers.filter fun v =>
    (t.deliveries.filter (isOwn user)).any fun d => d.driverId == some v.id
  positions := t.positions.filter fun p =>
    (t.deliveries.filter (isOwn user)).any fun d => p.deliveryId == some d.id

/-- A delivery of the account, in its company. -/
def Owns (deliveryId : String) : Prop :=
  ∃ d ∈ t.deliveries, d.id = deliveryId ∧ d.companyId = user.companyId ∧ d.clientId = some user.id

instance (deliveryId : String) : Decidable (t.Owns user deliveryId) :=
  inferInstanceAs (Decidable (∃ d ∈ t.deliveries, _))

/-- Positions of the account's own deliveries, and nothing else. -/
def About (e : Emission R) : Prop :=
  e.message.positions ≠ [] ∧
    ∀ p ∈ e.message.positions, ∃ d ∈ t.deliveries, d.clientId = some user.id ∧ p.deliveryId = some d.id

instance (e : Emission R) : Decidable (t.About user e) :=
  haveI : Decidable (e.message.positions ≠ []) :=
    decidable_of_iff (e.message.positions.isEmpty = false) (by simp)
  inferInstanceAs (Decidable (_ ∧ _))

end TrackingTables

variable [DecidableEq D] [DecidableEq R] [Field R] [JsMath R]
  (computeFilteredDistance : List (PositionRecord R) → R)

/-- The account as an observer: of a write it sees a change of its own, of what the server sends the
positions of its own deliveries. -/
def clientObserver : Observer (ClientWorld D R) (ClientWorldEvent D R) (ClientShown D R) where
  step := ClientWorld.step user computeFilteredDistance
  view s := { s with tables := s.tables.own user }
  visible s
    | .act a => some (.act a)
    | .write tables =>
      if tables.own user = s.tables.own user then none else some (.write (tables.own user))
    | .emit e => if s.tables.About user e then some (.emit e) else none

/-- The account subscribes to, and asks for the positions of, a delivery of its own, or one that its
company does not have or that has no positions; and what reaches its sockets are positions of its own
deliveries. -/
def Confined (s : ClientWorld D R) : ClientWorldEvent D R → Prop
  | .act (.message _ true (.subscribeToDelivery (some id))) =>
    s.tables.Owns user id ∨ s.tables.getDeliveryInfo id user.companyId = false
  | .act (.request true (.getPositions id _ _)) =>
    s.tables.Owns user id ∨ (s.tables.positionsOf id user.companyId).isEmpty = true
  | .act (.request true (.getDistance id)) =>
    s.tables.Owns user id ∨ (s.tables.positionsOf id user.companyId).isEmpty = true
  | .emit e => s.tables.About user e ∨ ∀ w ∈ s.sockets, ∀ room ∈ e.rooms, room ∉ w.rooms
  | _ => True

instance (s : ClientWorld D R) (e : ClientWorldEvent D R) : Decidable (Confined user s e) := by
  unfold Confined
  split <;> infer_instance

end Own

/-! ## The queries over the account's own -/

namespace TrackingTables

variable {D R : Type} {user : WsUser} {t : TrackingTables D R} {id companyId : String}

/-- A search over a part that has all it may find. -/
theorem find?_filter_of {α : Type} {p q : α → Bool} (l : List α) (h : ∀ v, q v = true → p v = true) :
    (l.filter p).find? q = l.find? q := by
  rw [List.find?_filter]
  congr 1
  funext v
  cases hq : q v with
  | false => simp
  | true => simp [h v hq]

theorem withSummaries_own {d : DeliveryRecord D} (hd : d ∈ t.deliveries) (hown : isOwn user d = true) :
    (t.own user).withSummaries d = t.withSummaries d := by
  have hmem : d ∈ t.deliveries.filter (isOwn user) := List.mem_filter.mpr ⟨hd, hown⟩
  have hvehicle : ∀ id, d.vehicleId = some id →
      (t.own user).vehicles.find? (·.id == id) = t.vehicles.find? (·.id == id) := by
    intro id hid
    refine find?_filter_of t.vehicles fun v hv => List.any_eq_true.mpr ⟨d, hmem, ?_⟩
    rw [hid, eq_of_beq hv, beq_self_eq_true]
  have hdriver : ∀ id, d.driverId = some id →
      (t.own user).drivers.find? (·.id == id) = t.drivers.find? (·.id == id) := by
    intro id hid
    refine find?_filter_of t.drivers fun v hv => List.any_eq_true.mpr ⟨d, hmem, ?_⟩
    rw [hid, eq_of_beq hv, beq_self_eq_true]
  simp only [withSummaries, DeliveryAnswer.mk.injEq, true_and]
  constructor
  · cases hid : d.vehicleId with
    | none => rfl
    | some id => exact hvehicle id hid
  · cases hid : d.driverId with
    | none => rfl
    | some id => exact hdriver id hid

/-- The lookup of a delivery asks for the account's own. -/
theorem findOne_own (hrole : user.role = "client") (companyId id : String) :
    (t.own user).findOne companyId id user.role user.id =
      t.findOne companyId id user.role user.id := by
  have hasks : ∀ d : DeliveryRecord D, (d.id == id && d.companyId == companyId && d.deletedAt.isNone &&
      (user.role != "client" || d.clientId == some user.id) &&
      (user.role != "driver" || d.assignedDriverId == some user.id)) = true → isOwn user d = true := by
    intro d hd
    rw [hrole] at hd
    simp only [Bool.and_eq_true] at hd
    simpa [isOwn] using hd.1.2
  rw [findOne, findOne, own, find?_filter_of t.deliveries hasks]
  refine Option.map_congr fun d hd => ?_
  have hfound := List.find?_some hd
  exact withSummaries_own (List.mem_of_find?_eq_some hd) (hasks d hfound)

theorem getDeliveryInfo_of_owns (h : t.Owns user id) :
    t.getDeliveryInfo id user.companyId = true ∧ (t.own user).getDeliveryInfo id user.companyId = true := by
  obtain ⟨d, hd, hid, hcompany, hclient⟩ := h
  have hcond : (d.id == id && d.companyId == user.companyId) = true := by simp [hid, hcompany]
  refine ⟨List.any_eq_true.mpr ⟨d, hd, hcond⟩, List.any_eq_true.mpr ⟨d, ?_, hcond⟩⟩
  exact List.mem_filter.mpr ⟨hd, by simp [isOwn, hclient]⟩

theorem getDeliveryInfo_own_le (h : (t.own user).getDeliveryInfo id companyId = true) :
    t.getDeliveryInfo id companyId = true := by
  obtain ⟨d, hd, hcond⟩ := List.any_eq_true.mp h
  exact List.any_eq_true.mpr ⟨d, (List.mem_filter.mp hd).1, hcond⟩

theorem getDeliveryInfo_own
    (h : t.Owns user id ∨ t.getDeliveryInfo id user.companyId = false) :
    (t.own user).getDeliveryInfo id user.companyId = t.getDeliveryInfo id user.companyId := by
  rcases h with howns | hnone
  · rw [(getDeliveryInfo_of_owns howns).1, (getDeliveryInfo_of_owns howns).2]
  · rw [hnone]
    refine Bool.eq_false_iff.mpr fun hown => ?_
    rw [getDeliveryInfo_own_le hown] at hnone
    cases hnone

theorem positionsOf_own
    (h : t.Owns user id ∨ (t.positionsOf id user.companyId).isEmpty = true) :
    (t.own user).positionsOf id user.companyId = t.positionsOf id user.companyId := by
  rcases h with howns | hempty
  · rw [positionsOf, positionsOf, (getDeliveryInfo_of_owns howns).1, (getDeliveryInfo_of_owns howns).2,
      own, List.filter_filter]
    refine List.filter_congr fun p _ => ?_
    obtain ⟨d, hd, hid, -, hclient⟩ := howns
    by_cases hp : p.deliveryId = some id
    · have hany : ((t.deliveries.filter (isOwn user)).any fun d => p.deliveryId == some d.id) = true := by
        refine List.any_eq_true.mpr ⟨d, List.mem_filter.mpr ⟨hd, by simp [isOwn, hclient]⟩, ?_⟩
        rw [hp, hid, beq_self_eq_true]
      rw [hany, Bool.and_true]
    · simp [hp]
  · have hnil := List.isEmpty_iff.mp hempty
    rw [hnil, positionsOf, List.filter_eq_nil_iff]
    intro p hp hcond
    rw [Bool.and_eq_true] at hcond
    have hmem : p ∈ t.positionsOf id user.companyId := by
      refine List.mem_filter.mpr ⟨(List.mem_filter.mp hp).1, ?_⟩
      rw [hcond.1, getDeliveryInfo_own_le hcond.2]
      rfl
    rw [hnil] at hmem
    cases hmem

end TrackingTables

/-! ## Runs -/

section Runs

variable {D R : Type} {user : WsUser}

theorem handleMessage_own {t : TrackingTables D R} (rooms : List String) (m : SocketMessage)
    (h : ∀ id, m = .subscribeToDelivery (some id) →
      t.Owns user id ∨ t.getDeliveryInfo id user.companyId = false) :
    handleMessage user (t.own user) rooms m = handleMessage user t rooms m := by
  cases m with
  | subscribeToDelivery deliveryId =>
    cases deliveryId with
    | none => rfl
    | some id => simp only [handleMessage, TrackingTables.getDeliveryInfo_own (h id rfl)]
  | unsubscribeFromDelivery deliveryId => rfl
  | subscribeToCompany => rfl
  | unsubscribeFromCompany => rfl

variable [DecidableEq D] [DecidableEq R] [Field R] [JsMath R]
  {computeFilteredDistance : List (PositionRecord R) → R}

omit [DecidableEq D] [DecidableEq R] in
theorem answerRequest_own {t : TrackingTables D R} (hrole : user.role = "client") (r : ClientRequest)
    (h : ∀ id, (∃ page limit, r = .getPositions id page limit) ∨ r = .getDistance id →
      t.Owns user id ∨ (t.positionsOf id user.companyId).isEmpty = true) :
    answerRequest user (t.own user) computeFilteredDistance r =
      answerRequest user t computeFilteredDistance r := by
  cases r with
  | findOne id => rw [answerRequest, answerRequest, TrackingTables.findOne_own hrole]
  | getPositions id page limit =>
    have hsame := TrackingTables.positionsOf_own (h id (Or.inl ⟨page, limit, rfl⟩))
    simp only [answerRequest, TrackingTables.getPositions, TrackingTables.getPositionsByDelivery, hsame]
  | getDistance id =>
    have hsame := TrackingTables.positionsOf_own (h id (Or.inr rfl))
    simp only [answerRequest, TrackingTables.calculateDistance, hsame]

omit [DecidableEq D] [DecidableEq R] in
theorem act_own {s : ClientWorld D R} (hrole : user.role = "client") (a : ClientAction)
    (h : Confined user s (.act a)) :
    act user (s.tables.own user) computeFilteredDistance s.sockets a =
      act user s.tables computeFilteredDistance s.sockets a := by
  cases a with
  | connect socketId verified => rfl
  | disconnect socketId => rfl
  | message socketId authorized m =>
    cases authorized with
    | false => rfl
    | true =>
      have hmessage : ∀ rooms, handleMessage user (s.tables.own user) rooms m =
          handleMessage user s.tables rooms m := by
        intro rooms
        refine handleMessage_own rooms m ?_
        rintro id rfl
        exact h
      simp only [act, hmessage]
  | request authorized r =>
    cases authorized with
    | false => rfl
    | true =>
      have hanswer : answerRequest user (s.tables.own user) computeFilteredDistance r =
          answerRequest user s.tables computeFilteredDistance r := by
        refine answerRequest_own hrole r ?_
        rintro id (⟨page, limit, rfl⟩ | rfl)
        · exact h
        · exact h
      simp only [act, hanswer]

omit [DecidableEq D] [DecidableEq R] [Field R] [JsMath R] in
/-- What is sent to no room of the account is not shown. -/
theorem send_eq_nil {sockets : List RoomSocket} {e : Emission R}
    (h : ∀ w ∈ sockets, ∀ room ∈ e.rooms, room ∉ w.rooms) :
    (send sockets e : List (ClientShown D R)) = [] := by
  refine List.flatMap_eq_nil_iff.mpr fun room hroom => ?_
  rw [List.map_eq_nil_iff, List.filter_eq_nil_iff]
  intro w hw hin
  exact h w hw room hroom (of_decide_eq_true hin)

/-- A confined step is explained by the account's own. -/
theorem explained_of_confined (hrole : user.role = "client") {s : ClientWorld D R}
    {e : ClientWorldEvent D R} (h : Confined user s e) :
    (clientObserver user computeFilteredDistance).Explained s e := by
  cases e with
  | act a =>
    have hact : act user (s.tables.own user) computeFilteredDistance s.sockets a = _ := act_own hrole a h
    refine (Observer.explained_of_some rfl).mpr ?_
    simp only [clientObserver, ClientWorld.step, hact]
  | write tables =>
    by_cases hsame : tables.own user = s.tables.own user
    · refine (Observer.explained_of_none (if_pos hsame)).mpr ⟨rfl, ?_⟩
      simp only [clientObserver, ClientWorld.step, hsame]
    · exact (Observer.explained_of_some (if_neg hsame)).mpr rfl
  | emit e =>
    by_cases habout : s.tables.About user e
    · exact (Observer.explained_of_some (if_pos habout)).mpr rfl
    · refine (Observer.explained_of_none (if_neg habout)).mpr ⟨?_, rfl⟩
      exact send_eq_nil (Or.resolve_left h habout)

/-- Two confined runs of the system that are the same to the account's own show it the same. -/
theorem shown_of_own (hrole : user.role = "client") {s t : ClientWorld D R}
    {es fs : List (ClientWorldEvent D R)}
    (hs : ∀ x ∈ trace (ClientWorld.step user computeFilteredDistance) s es,
      Confined user x.before x.input)
    (ht : ∀ x ∈ trace (ClientWorld.step user computeFilteredDistance) t fs,
      Confined user x.before x.input)
    (hview : (clientObserver user computeFilteredDistance).view s =
      (clientObserver user computeFilteredDistance).view t)
    (hsame : (clientObserver user computeFilteredDistance).witnessed s es =
      (clientObserver user computeFilteredDistance).witnessed t fs) :
    (clientObserver user computeFilteredDistance).shown s es =
      (clientObserver user computeFilteredDistance).shown t fs := by
  refine Observer.shown_congr _ ?_ ?_ hview hsame
  · intro x hx
    exact explained_of_confined hrole (hs x hx)
  · intro x hx
    exact explained_of_confined hrole (ht x hx)

end Runs

/-! ### Two deliveries of one company -/

def clientUser : WsUser := ⟨"u1", "c1", "client"⟩

def sampleDelivery (id clientId : String) : DeliveryRecord Unit :=
  ⟨id, "c1", some clientId, none, none, none, none, ()⟩

def samplePosition (id deliveryId : String) : PositionRecord ℚ :=
  { id := id, deliveryId := some deliveryId, driverId := none, latitude := -189 / 10
    longitude := 475 / 10, speed := none, heading := none, altitude := none, accuracy := some 10
    suspect := false, timestamp := 9000 }

/-- The company with the account's delivery only, and with another one that has a position. -/
def ownWorld : ClientWorld Unit ℚ :=
  ⟨⟨[sampleDelivery "d1" "u1"], [], [], [samplePosition "p1" "d1"]⟩, []⟩

def bothWorld : ClientWorld Unit ℚ :=
  ⟨⟨[sampleDelivery "d1" "u1", sampleDelivery "d2" "u2"], [], [],
    [samplePosition "p1" "d1", samplePosition "p2" "d2"]⟩, []⟩

def sampleEmission (deliveryId : String) : ClientWorldEvent Unit ℚ :=
  .emit (.positionUpdate "c1"
    { driverId := some "driver", driverName := "A B", latitude := -189 / 10, longitude := 475 / 10
      displayLatitude := -189 / 10, displayLongitude := 475 / 10, speed := none, heading := none
      altitude := none, accuracy := some 10, suspect := false, confidence := 90, timestamp := 9000
      deliveryId := some deliveryId, vehicleId := "v1" })

/-- The account leaves the room of its company, and follows its own delivery. -/
def followsOwn : List (ClientWorldEvent Unit ℚ) :=
  [.act (.connect "s1" true), .act (.message "s1" true .unsubscribeFromCompany),
    .act (.message "s1" true (.subscribeToDelivery (some "d1"))),
    .act (.request true (.getPositions "d1" none none)), sampleEmission "d1"]

theorem shown_of_own_sample :
    (clientObserver clientUser fun _ => 0).shown ownWorld followsOwn =
      (clientObserver clientUser fun _ => 0).shown bothWorld (followsOwn ++ [sampleEmission "d2"]) :=
  shown_of_own rfl (by decide +kernel) (by decide +kernel) (by decide +kernel) (by decide +kernel)

/-- The account sees the position of another client's delivery as it comes in, and may ask for those
that are stored. -/
theorem client_sees_others :
    let V : Observer (ClientWorld Unit ℚ) (ClientWorldEvent Unit ℚ) (ClientShown Unit ℚ) :=
      clientObserver clientUser fun _ => 0
    let connect : ClientWorldEvent Unit ℚ := .act (.connect "s1" true)
    let asks : ClientWorldEvent Unit ℚ := .act (.request true (.getPositions "d2" none none))
    V.view ownWorld = V.view bothWorld ∧
      V.witnessed ownWorld [connect] = V.witnessed bothWorld [connect, sampleEmission "d2"] ∧
      V.shown ownWorld [connect] ≠ V.shown bothWorld [connect, sampleEmission "d2"] ∧
      V.witnessed ownWorld [asks] = V.witnessed bothWorld [asks] ∧
      V.shown ownWorld [asks] ≠ V.shown bothWorld [asks] := by
  decide +kernel

end DeliveryTracking.Tracking
