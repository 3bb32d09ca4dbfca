/-
# `DeliveryTracking.Fleet.Services` — the operations that assign vehicles

Drivers, users, invitations and vehicles each have a service, and most of their
operations can change which vehicle a driver has.  An operation reads and checks
its request, then writes in one transaction: it returns the tables the
transaction leaves, or the error it throws, and then it leaves the tables as they
were.  The one write outside a transaction is the expiry of an invitation.

The requests run with the company of the caller, and the tenant middleware adds
it to every `where` on drivers, vehicles, users and deliveries.  Another
middleware turns an empty id into a null; it rewrites the arguments in place.
-/
import DeliveryTracking.Runs
import DeliveryTracking.Deliveries.Writers
import DeliveryTracking.Fleet.History

namespace DeliveryTracking

/-! ## Fields -/

/-- A text that is there and not empty. -/
def truthy (text : Option String) : Option String := text.filter (· ≠ "")

namespace Deliveries.JsonField

def truthy : JsonField String → Option String
  | .value text => DeliveryTracking.truthy (some text)
  | _ => none

/-- What a required column gets; a null is refused before. -/
def getD {α : Type} (field : JsonField α) (old : α) : α := (field.set (some old)).getD old

def map {α β : Type} (f : α → β) : JsonField α → JsonField β
  | .undefined => .undefined
  | .null => .null
  | .value a => .value (f a)

end Deliveries.JsonField

namespace Fleet

open Deliveries (JsonField Delivery)

/-! ## Rows -/

inductive UserRole where
  | admin
  | dispatcher
  | driver
  | client
  deriving DecidableEq, Repr

structure User where
  id : String
  companyId : String
  email : String
  firstName : String
  lastName : String
  phone : Option String
  role : UserRole
  isActive : Bool
  deletedAt : Option Int
  deriving DecidableEq, Repr

/-- The columns of `users` in a unique index. -/
structure UserKey where
  id : String
  email : String
  deriving DecidableEq, Repr

def User.key (u : User) : UserKey := ⟨u.id, u.email⟩

def UserKey.Clash (k l : UserKey) : Prop := k.id = l.id ∨ k.email = l.email

instance : DecidableRel UserKey.Clash := fun _ _ => inferInstanceAs (Decidable (_ ∨ _))

inductive InvitationStatus where
  | pending
  | accepted
  | expired
  | revoked
  deriving DecidableEq, Repr

def InvitationStatus.name : InvitationStatus → String
  | .pending => "pending"
  | .accepted => "accepted"
  | .expired => "expired"
  | .revoked => "revoked"

structure Invitation where
  /-- The digest of the token. -/
  token : String
  companyId : String
  email : String
  role : UserRole
  status : InvitationStatus
  expiresAt : Int
  acceptedAt : Option Int
  deriving DecidableEq, Repr

structure FleetTables where
  vehicles : Table Vehicle.id Eq
  drivers : DriverTable
  history : HistoryTable
  users : Table User.key UserKey.Clash
  invitations : Table Invitation.token Eq
  deliveries : List Delivery

/-- Two accounts of the table with one id are one. -/
theorem FleetTables.eq_of_id {s : FleetTables} {u v : User} (hu : u ∈ s.users.rows)
    (hv : v ∈ s.users.rows) (hid : u.id = v.id) : u = v :=
  Table.eq_of_clash (fun _ _ h => h.imp Eq.symm Eq.symm) hu hv (Or.inl hid)

/-! ## Requests and errors -/

structure CreateDriverDto where
  firstName : String
  lastName : String
  email : Option String
  phone : Option String
  licenseNumber : String
  vehicleId : Option String
  deriving DecidableEq, Repr

structure UpdateDriverDto where
  firstName : JsonField String
  lastName : JsonField String
  email : JsonField String
  phone : JsonField String
  licenseNumber : JsonField String
  vehicleId : JsonField String
  deriving DecidableEq, Repr

structure CreateUserDto where
  email : String
  firstName : String
  lastName : String
  phone : Option String
  role : UserRole
  licenseNumber : Option String
  vehicleId : Option String
  deriving DecidableEq, Repr

structure UpdateUserDto where
  email : JsonField String
  firstName : JsonField String
  lastName : JsonField String
  phone : JsonField String
  role : JsonField UserRole
  isActive : JsonField Bool
  licenseNumber : JsonField String
  vehicleId : JsonField String
  deriving DecidableEq, Repr

/-- Who accepts an invitation. -/
structure UserData where
  firstName : String
  lastName : String
  phone : Option String
  deriving DecidableEq, Repr

/-- When a call happens, and the ids it gives to new rows. -/
structure Call where
  now : Int
  driverId : String
  userId : String
  rowId : String
  deriving DecidableEq, Repr

inductive FleetError where
  | licenseExists
  | licenseInUse
  | vehicleNotFound
  | vehicleNotInCompany
  | vehicleTaken
  | driverNotFound
  | driverInProgress
  | vehicleInProgress
  | emailInUse
  | invalidRole
  | userNotFound
  | ownAdmin
  | lastAdmin
  | ownAccount
  | invitationNotFound
  | invitationAlready (status : InvitationStatus)
  | invitationExpired
  /-- A method of a null. -/
  | typeError
  | prisma (e : PrismaError)
  deriving DecidableEq, Repr

def FleetError.message : FleetError → String
  | .licenseExists => "License number already exists"
  | .licenseInUse => "License number already in use"
  | .vehicleNotFound => "Vehicle not found"
  | .vehicleNotInCompany => "Vehicle not found in your company"
  | .vehicleTaken => "Vehicle is already assigned to another driver"
  | .driverNotFound => "Driver not found"
  | .driverInProgress => "Cannot delete driver assigned to an in-progress delivery"
  | .vehicleInProgress => "Cannot delete vehicle assigned to an in-progress delivery"
  | .emailInUse => "Email already in use"
  | .invalidRole => "Invalid user role"
  | .userNotFound => "User not found"
  | .ownAdmin =>
    "You cannot demote or deactivate your own admin account — ask another admin to do it"
  | .lastAdmin => "Cannot remove the last active admin of this company"
  | .ownAccount => "You cannot delete your own account"
  | .invitationNotFound => "Invitation not found"
  | .invitationAlready status => "Invitation has already been " ++ status.name
  | .invitationExpired => "Invitation has expired"
  | .typeError => "Internal server error"
  | .prisma _ => "Internal server error"

/-- `handleUniqueConflict`. -/
def handleUniqueConflict (licenseFailed : FleetError) : FleetError → FleetError
  | .prisma (.unique target) =>
    if "vehicleId" ∈ target ∨ "vehicle_id" ∈ target then .vehicleTaken else licenseFailed
  | e => e

/-- `toLowerCase().trim()`. -/
def normalizeEmail (email : String) : String :=
  let blank (c : Char) : Bool := c.isWhitespace
  String.ofList ((((email.toList.map Char.toLower).dropWhile blank).reverse.dropWhile blank).reverse)

/-- Throw unless a check passes. -/
def ensure (passes : Bool) (e : FleetError) : Except FleetError Unit :=
  if passes then .ok () else .error e

/-- The licence number of a driver without one. -/
def defaultLicense (userId : String) : String := "DRV-" ++ String.ofList (userId.toList.take 8)

namespace FleetTables

variable (s : FleetTables)

/-! ## Reads and checks -/

def findVehicle (companyId id : String) : Option Vehicle :=
  s.vehicles.findFirst fun v => v.id == id && (v.companyId == companyId && v.deletedAt.isNone)

/-- The first live driver of a company that `q` picks. -/
def findDriver (companyId : String) (q : Driver → Bool) : Option Driver :=
  s.drivers.findFirst fun d => d.companyId == companyId && (d.deletedAt.isNone && q d)

def findUser (companyId id : String) : Option User :=
  s.users.findFirst fun u => u.id == id && (u.companyId == companyId && u.deletedAt.isNone)

/-- The vehicle of a request is a live one of the company, and no driver among `others` has it. -/
def checkVehicle (companyId : String) (notFound : FleetError) (others : Driver → Bool) :
    Option String → Except FleetError Unit
  | none => .ok ()
  | some vehicleId => do
    ensure (s.findVehicle companyId vehicleId).isSome notFound
    ensure (s.findDriver companyId fun d => d.vehicleId == some vehicleId && others d).isNone
      .vehicleTaken

/-- The licence of a request is free, or the request's own. -/
def checkLicense (companyId : String) (failed : FleetError) (own : Driver → Bool) :
    Option String → Except FleetError Unit
  | none => .ok ()
  | some licenseNumber =>
    ensure ((s.findDriver companyId (·.licenseNumber == licenseNumber)).all own) failed

def otherActiveAdmins (companyId id : String) : Nat :=
  s.users.rows.countP fun u => u.companyId == companyId &&
    (u.role == .admin && (u.isActive && (u.deletedAt.isNone && u.id != id)))

def inProgress (companyId : String) (q : Delivery → Bool) : Bool :=
  s.deliveries.any fun d => d.companyId == companyId &&
    (d.status == .in_progress && (d.deletedAt.isNone && q d))

/-! ## Writes -/

/-- The columns of the first index that a row breaks. -/
def violated (rows : List Driver) (k : DriverKey) : List String :=
  (([.primary, .user, .vehicle, .license] : List DriverIndex).find? fun i =>
    rows.any fun r => decide (i.Clash r.key k)).elim [] DriverIndex.columns

def createDriver (d : Driver) : Except FleetError FleetTables :=
  match s.drivers.create d with
  | some drivers => .ok { s with drivers := drivers }
  | none => .error (.prisma (.unique (violated s.drivers.rows d.key)))

def updateDriver (id : String) (data : Driver → Driver) : Except FleetError FleetTables :=
  match s.drivers.modify (·.id == id) data with
  | some drivers => .ok { s with drivers := drivers }
  | none =>
    .error (.prisma (.unique ((s.drivers.findFirst (·.id == id)).elim [] fun d =>
      violated (s.drivers.rows.filter (·.id != id)) (data d).key)))

def createUser (u : User) : Except FleetError FleetTables :=
  match s.users.create u with
  | some users => .ok { s with users := users }
  | none =>
    .error (.prisma (.unique (if s.users.rows.any (·.id == u.id) then ["id"] else ["email"])))

def updateUser (id : String) (data : User → User) : Except FleetError FleetTables :=
  match s.users.modify (·.id == id) data with
  | some users => .ok { s with users := users }
  | none => .error (.prisma (.unique ["email"]))

def assign (params : AssignVehicleParams) (call : Call) : Except FleetError FleetTables :=
  match s.history.assign params call.now call.rowId with
  | .ok history => .ok { s with history := history }
  | .error e => .error (.prisma e)

def unassign (driverId : String) (call : Call) : FleetTables :=
  { s with history := s.history.unassign driverId call.now }

/-- `if (dto.vehicleId) await assign(…)`. -/
def assignIf (companyId driverId : String) (vehicleId : Option String) (call : Call) :
    Except FleetError FleetTables :=
  vehicleId.elim (.ok s) fun vehicleId => s.assign ⟨companyId, driverId, vehicleId⟩ call

/-- `if (dto.vehicleId !== undefined)`: `unassign` for a null, else `assign`. -/
def reassign (companyId driverId : String) (vehicleId : JsonField String) (call : Call) :
    Except FleetError FleetTables :=
  match vehicleId with
  | .undefined => .ok s
  | .null => .ok (s.unassign driverId call)
  | .value vehicleId => s.assign ⟨companyId, driverId, vehicleId⟩ call

/-- A request as its caller sees it: what throws leaves the tables. -/
def commit (result : Except FleetError FleetTables) : Except FleetError Unit × FleetTables :=
  match result with
  | .ok t => (.ok (), t)
  | .error e => (.error e, s)

/-! ## `DriversService` -/

def driversCreate (call : Call) (companyId : String) (dto : CreateDriverDto) :
    Except FleetError FleetTables := do
  s.checkLicense companyId .licenseExists (fun _ => false) (some dto.licenseNumber)
  s.checkVehicle companyId .vehicleNotFound (fun _ => true) (truthy dto.vehicleId)
  Except.mapError (handleUniqueConflict .licenseExists) do
    let created ← s.createDriver
      { id := call.driverId, companyId := companyId, firstName := dto.firstName
        lastName := dto.lastName, email := dto.email, phone := dto.phone
        licenseNumber := dto.licenseNumber, userId := none, vehicleId := truthy dto.vehicleId
        deletedAt := none }
    created.assignIf companyId call.driverId (truthy dto.vehicleId) call

/-- The columns a PATCH of a driver writes. -/
def driverData (dto : UpdateDriverDto) (d : Driver) : Driver :=
  { d with
    firstName := dto.firstName.getD d.firstName
    lastName := dto.lastName.getD d.lastName
    email := dto.email.set d.email
    phone := dto.phone.set d.phone
    licenseNumber := dto.licenseNumber.getD d.licenseNumber
    vehicleId := dto.vehicleId.uuidSafety.set d.vehicleId }

/-- The request's own object is what the client writes, so the middleware rewrites `dto.vehicleId`
before it is looked at again. -/
def driversUpdate (call : Call) (companyId id : String) (dto : UpdateDriverDto) :
    Except FleetError FleetTables := do
  ensure (s.findDriver companyId (·.id == id)).isSome .driverNotFound
  s.checkLicense companyId .licenseInUse (·.id == id) dto.licenseNumber.truthy
  s.checkVehicle companyId .vehicleNotFound (·.id != id) dto.vehicleId.truthy
  Except.mapError (handleUniqueConflict .licenseInUse) do
    ensure (dto.firstName != .null && dto.lastName != .null && dto.licenseNumber != .null)
      (.prisma .validation)
    let updated ← s.updateDriver id (driverData dto)
    updated.reassign companyId id dto.vehicleId.uuidSafety call

def driversRemove (call : Call) (companyId id : String) : Except FleetError FleetTables := do
  ensure (s.findDriver companyId (·.id == id)).isSome .driverNotFound
  ensure (!s.inProgress companyId (·.driverId == some id)) .driverInProgress
  match (s.findDriver companyId (·.id == id)).bind (·.vehicleId) with
  | some _ =>
    let updated ← s.updateDriver id fun d =>
      { d with deletedAt := some call.now, vehicleId := none }
    .ok (updated.unassign id call)
  | none => s.updateDriver id fun d => { d with deletedAt := some call.now }

/-! ## `UsersService` -/

def usersCreate (call : Call) (companyId : String) (dto : CreateUserDto) :
    Except FleetError FleetTables := do
  let email := normalizeEmail dto.email
  ensure (s.users.findFirst (·.email == email)).isNone .emailInUse
  if dto.role = .driver then
    s.checkVehicle companyId .vehicleNotInCompany (fun _ => true) (truthy dto.vehicleId)
    s.checkLicense companyId .licenseExists (fun _ => false) (truthy dto.licenseNumber)
    let created ← s.createUser
      { id := call.userId, companyId := companyId, email := email, firstName := dto.firstName
        lastName := dto.lastName, phone := dto.phone, role := dto.role, isActive := true
        deletedAt := none }
    match created.findDriver companyId (·.email == some email) with
    | some existing =>
      let linked ← created.updateDriver existing.id fun d =>
        { d with
          userId := some call.userId
          licenseNumber := (truthy dto.licenseNumber).getD d.licenseNumber
          vehicleId := (truthy dto.vehicleId).or d.vehicleId }
      linked.assignIf companyId existing.id (truthy dto.vehicleId) call
    | none =>
      let linked ← created.createDriver
        { id := call.driverId, companyId := companyId, firstName := dto.firstName
          lastName := dto.lastName, email := some email, phone := dto.phone
          licenseNumber := (truthy dto.licenseNumber).getD (defaultLicense call.userId)
          userId := some call.userId, vehicleId := truthy dto.vehicleId, deletedAt := none }
      linked.assignIf companyId call.driverId (truthy dto.vehicleId) call
  else
    s.createUser
      { id := call.userId, companyId := companyId, email := email, firstName := dto.firstName
        lastName := dto.lastName, phone := dto.phone, role := dto.role, isActive := true
        deletedAt := none }

/-- The columns a PATCH of a user writes. -/
def userPatch (dto : UpdateUserDto) (u : User) : User :=
  { u with
    email := (dto.email.map normalizeEmail).getD u.email
    firstName := dto.firstName.getD u.firstName
    lastName := dto.lastName.getD u.lastName
    phone := dto.phone.set u.phone
    role := dto.role.getD u.role
    isActive := dto.isActive.getD u.isActive }

/-- The columns it writes of the driver of the user. -/
def driverPatch (dto : UpdateUserDto) (d : Driver) : Driver :=
  { d with
    vehicleId := dto.vehicleId.uuidSafety.set d.vehicleId
    licenseNumber := dto.licenseNumber.getD d.licenseNumber
    firstName := dto.firstName.getD d.firstName
    lastName := dto.lastName.getD d.lastName
    email := (dto.email.map normalizeEmail).set d.email
    phone := dto.phone.set d.phone }

/-- The request takes the admin role or the activity from a user. -/
def demotes (dto : UpdateUserDto) : Bool :=
  dto.role != .undefined && dto.role != .value .admin || dto.isActive == .value false

/-- `dto.role || user.role`. -/
def targetRole (dto : UpdateUserDto) (user : User) : UserRole := dto.role.getD user.role

/-- The vehicle may not be one of a driver with another account; a driver without an account does
not count. -/
def usersUpdate (call : Call) (companyId id : String) (dto : UpdateUserDto) (currentUserId : String) :
    Except FleetError FleetTables := do
  let user ← (s.findUser companyId id).elim (.error .userNotFound) .ok
  ensure (dto.role != .null) .invalidRole
  ensure (dto.email.truthy.all fun email =>
    email == user.email || (s.users.findFirst (·.email == email)).isNone) .emailInUse
  ensure (!(id == currentUserId && (user.role == .admin && demotes dto))) .ownAdmin
  ensure (!(user.role == .admin && (user.isActive && (demotes dto &&
    s.otherActiveAdmins companyId id == 0)))) .lastAdmin
  if targetRole dto user = .driver then
    s.checkVehicle companyId .vehicleNotInCompany (fun d => d.userId.any (· != id))
      dto.vehicleId.truthy
    s.checkLicense companyId .licenseExists (·.userId == some id) dto.licenseNumber.truthy
    ensure (dto.email != .null) .typeError
    ensure (dto.firstName != .null && dto.lastName != .null && dto.isActive != .null)
      (.prisma .validation)
    let updated ← s.updateUser id (userPatch dto)
    match updated.findDriver companyId (·.userId == some id) with
    | some existing =>
      ensure (dto.licenseNumber != .null) (.prisma .validation)
      let linked ← updated.updateDriver existing.id (driverPatch dto)
      linked.reassign companyId existing.id dto.vehicleId call
    | none =>
      let updatedUser := userPatch dto user
      let linked ← updated.createDriver
        { id := call.driverId, companyId := companyId, firstName := updatedUser.firstName
          lastName := updatedUser.lastName, email := some updatedUser.email
          phone := truthy updatedUser.phone
          licenseNumber := dto.licenseNumber.truthy.getD (defaultLicense id)
          userId := some id, vehicleId := dto.vehicleId.truthy, deletedAt := none }
      linked.assignIf companyId call.driverId dto.vehicleId.truthy call
  else
    ensure (dto.email != .null) .typeError
    ensure (dto.firstName != .null && dto.lastName != .null && dto.isActive != .null)
      (.prisma .validation)
    s.updateUser id (userPatch dto)

def usersRemove (call : Call) (companyId id currentUserId : String) :
    Except FleetError FleetTables := do
  ensure (id != currentUserId) .ownAccount
  let user ← (s.findUser companyId id).elim (.error .userNotFound) .ok
  ensure (!(user.role == .admin && (user.isActive && s.otherActiveAdmins companyId id == 0)))
    .lastAdmin
  s.updateUser id fun u => { u with deletedAt := some call.now, isActive := false }

/-! ## `InvitationsService` -/

/-- A pending invitation that is over its time becomes expired. -/
def findByToken (now : Int) (token : String) : Except FleetError Invitation × FleetTables :=
  match s.invitations.lookup token with
  | none => (.error .invitationNotFound, s)
  | some invitation =>
    if invitation.status ≠ .pending then (.error (.invitationAlready invitation.status), s)
    else if invitation.expiresAt < now then
      (.error .invitationExpired,
        { s with
          invitations := s.invitations.update (·.token == token)
            (fun i => { i with status := .expired }) fun _ => rfl })
    else (.ok invitation, s)

/-- The driver of an accepted invitation: the one with its address, or a new one. -/
def linkDriver (call : Call) (invitation : Invitation) (userData : UserData) :
    Except FleetError FleetTables :=
  if invitation.role = .driver then
    match s.findDriver invitation.companyId (·.email == some invitation.email) with
    | some existing => s.updateDriver existing.id fun d => { d with userId := some call.userId }
    | none =>
      s.createDriver
        { id := call.driverId, companyId := invitation.companyId, firstName := userData.firstName
          lastName := userData.lastName, email := some invitation.email, phone := userData.phone
          licenseNumber := defaultLicense call.userId, userId := some call.userId
          vehicleId := none, deletedAt := none }
  else .ok s

/-- The transaction of `accept`. -/
def acceptInvitation (call : Call) (invitation : Invitation) (userData : UserData) :
    Except FleetError FleetTables := do
  let created ← s.createUser
    { id := call.userId, companyId := invitation.companyId, email := invitation.email
      firstName := userData.firstName, lastName := userData.lastName, phone := userData.phone
      role := invitation.role, isActive := true, deletedAt := none }
  let linked ← created.linkDriver call invitation userData
  .ok
    { linked with
      invitations := linked.invitations.update (·.token == invitation.token)
        (fun i => { i with status := .accepted, acceptedAt := some call.now }) fun _ => rfl }

def invitationsAccept (call : Call) (token : String) (userData : UserData) :
    Except FleetError Unit × FleetTables :=
  match s.findByToken call.now token with
  | (.error e, t) => (.error e, t)
  | (.ok invitation, t) => t.commit (t.acceptInvitation call invitation userData)

/-! ## `VehiclesService` -/

/-- `updateMany` of the live drivers of the company with a vehicle. -/
def clearVehicle (companyId id : String) : FleetTables :=
  { s with
    drivers := s.drivers.release
      (fun d => d.companyId == companyId && (d.deletedAt.isNone && d.vehicleId == some id))
      (fun d => { d with vehicleId := none })
      (fun _ _ => DriverKey.Clash.of_release)
      (fun _ _ h => (DriverKey.Clash.of_release h.symm).symm) }

def vehiclesRemove (call : Call) (companyId id : String) : Except FleetError FleetTables := do
  ensure (s.findVehicle companyId id).isSome .vehicleNotFound
  ensure (!s.inProgress companyId (·.vehicleId == some id)) .vehicleInProgress
  let cleared := s.clearVehicle companyId id
  .ok
    { cleared with
      vehicles := cleared.vehicles.update (·.id == id)
        (fun v => { v with deletedAt := some call.now }) fun _ => rfl }

end FleetTables

/-! ## Runs -/

/-- A request, or a write of another part of the application. -/
inductive FleetEvent where
  | driversCreate (call : Call) (companyId : String) (dto : CreateDriverDto)
  | driversUpdate (call : Call) (companyId id : String) (dto : UpdateDriverDto)
  | driversRemove (call : Call) (companyId id : String)
  | usersCreate (call : Call) (companyId : String) (dto : CreateUserDto)
  | usersUpdate (call : Call) (companyId id : String) (dto : UpdateUserDto) (currentUserId : String)
  | usersRemove (call : Call) (companyId id currentUserId : String)
  | invitationsAccept (call : Call) (token : String) (userData : UserData)
  | vehiclesRemove (call : Call) (companyId id : String)
  | vehicleCreated (id companyId : String)
  | invited (invitation : Invitation)
  | deliveriesWritten (deliveries : List Delivery)
  deriving DecidableEq, Repr

/-- What a request returns, and the tables after it. -/
def FleetTables.perform (s : FleetTables) : FleetEvent → Except FleetError Unit × FleetTables
  | .driversCreate call companyId dto => s.commit (s.driversCreate call companyId dto)
  | .driversUpdate call companyId id dto => s.commit (s.driversUpdate call companyId id dto)
  | .driversRemove call companyId id => s.commit (s.driversRemove call companyId id)
  | .usersCreate call companyId dto => s.commit (s.usersCreate call companyId dto)
  | .usersUpdate call companyId id dto currentUserId =>
    s.commit (s.usersUpdate call companyId id dto currentUserId)
  | .usersRemove call companyId id currentUserId =>
    s.commit (s.usersRemove call companyId id currentUserId)
  | .invitationsAccept call token userData => s.invitationsAccept call token userData
  | .vehiclesRemove call companyId id => s.commit (s.vehiclesRemove call companyId id)
  | .vehicleCreated id companyId =>
    (.ok (), { s with vehicles := (s.vehicles.create ⟨id, companyId, none⟩).getD s.vehicles })
  | .invited invitation =>
    (.ok (), { s with invitations := (s.invitations.create invitation).getD s.invitations })
  | .deliveriesWritten deliveries => (.ok (), { s with deliveries := deliveries })

def FleetTables.step (s : FleetTables) (e : FleetEvent) : Option FleetTables := some (s.perform e).2

end Fleet

end DeliveryTracking
