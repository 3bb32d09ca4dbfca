/-
# `DeliveryTracking.Deliveries.Writers` — the five writers of a delivery's status

Each writer reads a delivery, checks its request against what it read, and
writes in a later database call.  A call in progress is a `Thread`; one step of
it is one database call, so the steps of several calls interleave:

    updateStatus, updateDriverStatus   findOne, then update where { id, status }
    update (PATCH)                     findOne, then update where { id }
    bulkAction                         findMany once, then update where { id } for each id
    importDeliveriesFile               for each row findFirst, then update or create

What a writer carries from its read to its write is a structure whose field
`allowed` says that the check passed: a write that was not checked cannot be
built.
-/
import DeliveryTracking.Table
import DeliveryTracking.Deliveries.Status

namespace DeliveryTracking.Deliveries

/-! ## Rows -/

/-- The columns of `deliveries` the writers read or set. -/
structure Delivery where
  id : String
  companyId : String
  status : DeliveryStatus
  vehicleId : Option String
  driverId : Option String
  assignedDriverId : Option String
  externalOrderRef : Option String
  /-- Milliseconds. -/
  createdAt : Int
  completedAt : Option Int
  deletedAt : Option Int
  deriving DecidableEq, Repr

/-- The columns in a unique constraint: the primary key, and `(companyId, externalOrderRef)`. -/
structure DeliveryKey where
  id : String
  companyId : String
  externalOrderRef : Option String
  deriving DecidableEq, Repr

def Delivery.key (d : Delivery) : DeliveryKey := ⟨d.id, d.companyId, d.externalOrderRef⟩

/-- Two rows break a constraint; a null order reference breaks none. -/
def DeliveryKey.Clash (k l : DeliveryKey) : Prop :=
  k.id = l.id ∨
    k.companyId = l.companyId ∧ k.externalOrderRef.isSome ∧ k.externalOrderRef = l.externalOrderRef

instance : DecidableRel DeliveryKey.Clash := fun _ _ => inferInstanceAs (Decidable (_ ∨ _ ∧ _ ∧ _))

abbrev DeliveryTable := Table Delivery.key DeliveryKey.Clash

/-- A driver profile: `userId` is null for a driver without an account. -/
structure Driver where
  id : String
  companyId : String
  userId : Option String
  deletedAt : Option Int
  deriving DecidableEq, Repr

structure Vehicle where
  id : String
  companyId : String
  deletedAt : Option Int
  deriving DecidableEq, Repr

/-- The tables the writers read and do not write. -/
structure Fleet where
  drivers : List Driver
  vehicles : List Vehicle

def Fleet.driver (fleet : Fleet) (companyId id : String) : Option Driver :=
  fleet.drivers.find? fun d => d.id == id && d.companyId == companyId && d.deletedAt.isNone

def Fleet.vehicle (fleet : Fleet) (companyId id : String) : Option Vehicle :=
  fleet.vehicles.find? fun v => v.id == id && v.companyId == companyId && v.deletedAt.isNone

/-- The row with the primary key `id`. -/
def byId (db : DeliveryTable) (id : String) : Option Delivery := db.findFirst fun d => d.id == id

/-! ## Errors and results -/

inductive DeliveryError where
  | notFound
  | notAssigned
  | driverCannot (current target : DeliveryStatus)
  | cannotTransition (current target : DeliveryStatus)
  | cannotPatch (current target : DeliveryStatus)
  | modifiedMeanwhile
  | vehicleNotFound
  | driverNotFound
  | emptyFile (isPdf : Bool)
  /-- A database call that threw. -/
  | database
  deriving DecidableEq, Repr

/-- `allowed.join(', ') || 'none'`. -/
def joinOrNone (allowed : List DeliveryStatus) : String :=
  if allowed = [] then "none" else String.intercalate ", " (allowed.map DeliveryStatus.name)

def DeliveryError.message : DeliveryError → String
  | .notFound => "Delivery not found"
  | .notAssigned => "This delivery is not assigned to you"
  | .driverCannot a b => "Driver cannot transition from " ++ a.name ++ " to " ++ b.name ++
      ". Allowed: " ++ joinOrNone (driverAllowed a)
  | .cannotTransition a b => "Cannot transition from " ++ a.name ++ " to " ++ b.name ++
      ". Allowed: " ++ joinOrNone (transitionMatrix a)
  | .cannotPatch a b => "Cannot transition from " ++ a.name ++ " to " ++ b.name
  | .modifiedMeanwhile => "Ce statut a déjà été modifié entretemps, actualisez la page"
  | .vehicleNotFound => "Vehicle not found in your company"
  | .driverNotFound => "Driver not found in your company"
  | .emptyFile true => "Aucune livraison détectée dans le PDF"
  | .emptyFile false => "Le fichier Excel est vide"
  | .database => "Internal error"

structure BulkFailure where
  id : String
  reason : String
  deriving DecidableEq, Repr

structure BulkResult where
  succeeded : List String
  failed : List BulkFailure
  deriving DecidableEq, Repr

def BulkResult.ok (r : BulkResult) (id : String) : BulkResult :=
  { r with succeeded := r.succeeded ++ [id] }

def BulkResult.fail (r : BulkResult) (id reason : String) : BulkResult :=
  { r with failed := r.failed ++ [⟨id, reason⟩] }

structure ImportSkip where
  row : Nat
  orderRef : String
  reason : String
  deriving DecidableEq, Repr

structure ImportError where
  row : Nat
  reason : String
  deriving DecidableEq, Repr

structure ImportResult where
  created : Nat
  updated : Nat
  skipped : List ImportSkip
  errors : List ImportError
  deriving DecidableEq, Repr

def ImportResult.empty : ImportResult := ⟨0, 0, [], []⟩

def ImportResult.skip (r : ImportResult) (row : Nat) (orderRef : String) : ImportResult :=
  { r with skipped := r.skipped ++ [⟨row, orderRef, "duplicate"⟩] }

def ImportResult.error (r : ImportResult) (row : Nat) (reason : String) : ImportResult :=
  { r with errors := r.errors ++ [⟨row, reason⟩] }

/-! ## Requests -/

/-- A JSON field that may be missing. -/
inductive JsonField (α : Type) where
  | undefined
  | null
  | value (a : α)
  deriving DecidableEq, Repr

/-- The fields of `UpdateDeliveryDto` that end in a modelled column. -/
structure UpdateDeliveryDto where
  status : JsonField DeliveryStatus
  vehicleId : JsonField String
  driverId : JsonField String
  deriving DecidableEq, Repr

inductive BulkAction where
  | delete
  | updateStatus (status : Option DeliveryStatus)
  | assignDriver (driverId : Option String)
  deriving DecidableEq, Repr

inductive ImportMode where
  | createOnly
  | upsert
  deriving DecidableEq, Repr

/-- What an import row needs to be matched; an empty cell is `none`. -/
structure ImportRow where
  row : Nat
  orderRef : Option String
  lieu : Option String
  deriving DecidableEq, Repr

inductive Request where
  | updateStatus (companyId id : String) (status : DeliveryStatus)
  | updateDriverStatus (companyId id userId : String) (status : DeliveryStatus)
  | update (companyId id : String) (dto : UpdateDeliveryDto)
  | bulkAction (companyId : String) (ids : List String) (action : BulkAction)
  | importDeliveriesFile (companyId : String) (isPdf : Bool) (mode : ImportMode)
      (rows : List ImportRow)
  deriving DecidableEq, Repr

inductive Outcome where
  | error (e : DeliveryError)
  | updated (d : Delivery)
  | bulk (r : BulkResult)
  | imported (r : ImportResult)
  deriving DecidableEq, Repr

/-! ## What a writer carries from its read to its write -/

/-- A write of `updateWithOptimisticLock`. -/
structure LockedWrite where
  id : String
  expectedStatus : DeliveryStatus
  status : DeliveryStatus
  completedAt : Option Int
  allowed : status ∈ transitionMatrix expectedStatus

/-- The write of `update`.  A status equal to the one read is written unchecked. -/
structure PatchWrite where
  id : String
  readStatus : DeliveryStatus
  status : JsonField DeliveryStatus
  vehicleId : JsonField String
  driverId : JsonField String
  assignedDriverId : Option (Option String)
  completedAt : Option Int
  allowed : ∀ t, status = .value t → t = readStatus ∨ t ∈ transitionMatrix readStatus

/-- The write of an import row that matched a delivery. -/
structure ImportWrite where
  id : String
  readStatus : DeliveryStatus

/-- A call in progress. -/
inductive Thread where
  | start (r : Request)
  | locked (w : LockedWrite)
  | patch (w : PatchWrite)
  | bulk (companyId : String) (deliveries : List Delivery) (action : BulkAction)
      (ids : List String) (result : BulkResult)
  | importRow (companyId : String) (mode : ImportMode) (rows : List ImportRow)
      (result : ImportResult)
  | importUpdate (w : ImportWrite) (companyId : String) (mode : ImportMode)
      (rows : List ImportRow) (result : ImportResult)
  | importCreate (row : Nat) (orderRef : String) (companyId : String) (mode : ImportMode)
      (rows : List ImportRow) (result : ImportResult)
  | done (o : Outcome)

/-! ## The reads -/

/-- A database call: when it happens, the id a created row gets, and whether it succeeds. -/
structure Call where
  now : Int
  newId : String
  ok : Bool
  deriving DecidableEq, Repr

def findOne (db : DeliveryTable) (c : Call) (companyId id : String) :
    Except DeliveryError Delivery :=
  if c.ok then
    match db.findFirst fun d => d.id == id && d.companyId == companyId && d.deletedAt.isNone with
    | some d => .ok d
    | none => .error .notFound
  else .error .database

/-- `completedAt = new Date()` for a delivered status, else the column is not written. -/
def completion (status : DeliveryStatus) (now : Int) : Option Int :=
  if status = .delivered then some now else none

def updateStatus (d : Delivery) (status : DeliveryStatus) (now : Int) :
    Except DeliveryError LockedWrite :=
  if h : status ∈ transitionMatrix d.status then
    .ok ⟨d.id, d.status, status, completion status now, h⟩
  else .error (.cannotTransition d.status status)

def updateDriverStatus (d : Delivery) (userId : String) (status : DeliveryStatus) (now : Int) :
    Except DeliveryError LockedWrite :=
  if d.assignedDriverId ≠ some userId then .error .notAssigned
  else if h : status ∈ driverAllowed d.status then
    .ok ⟨d.id, d.status, status, completion status now, transitionMatrix_of_driverAllowed h⟩
  else .error (.driverCannot d.status status)

/-- The vehicle a PATCH names must be one of the company; an empty id is not looked up. -/
def checkVehicle (fleet : Fleet) (companyId : String) : JsonField String → Except DeliveryError Unit
  | .value id =>
    if id = "" then .ok ()
    else match fleet.vehicle companyId id with
      | some _ => .ok ()
      | none => .error .vehicleNotFound
  | _ => .ok ()

/-- The `assignedDriverId` a PATCH writes: the account of the driver it names. -/
def checkDriver (fleet : Fleet) (companyId : String) :
    JsonField String → Except DeliveryError (Option (Option String))
  | .value id =>
    if id = "" then .ok none
    else match fleet.driver companyId id with
      | some driver => .ok (some driver.userId)
      | none => .error .driverNotFound
  | _ => .ok none

def update (fleet : Fleet) (companyId : String) (d : Delivery) (dto : UpdateDeliveryDto)
    (now : Int) : Except DeliveryError PatchWrite :=
  match checkVehicle fleet companyId dto.vehicleId with
  | .error e => .error e
  | .ok _ =>
    match checkDriver fleet companyId dto.driverId with
    | .error e => .error e
    | .ok assignedDriverId =>
      match hs : dto.status with
      | .value t =>
        if ht : t = d.status then
          .ok { id := d.id, readStatus := d.status, status := dto.status,
                vehicleId := dto.vehicleId, driverId := dto.driverId,
                assignedDriverId := assignedDriverId, completedAt := none,
                allowed := fun u hu => Or.inl (by rw [hs] at hu; cases hu; exact ht) }
        else if h : t ∈ transitionMatrix d.status then
          .ok { id := d.id, readStatus := d.status, status := dto.status,
                vehicleId := dto.vehicleId, driverId := dto.driverId,
                assignedDriverId := assignedDriverId, completedAt := completion t now,
                allowed := fun u hu => Or.inr (by rw [hs] at hu; cases hu; exact h) }
        else .error (.cannotPatch d.status t)
      | .undefined | .null =>
        .ok { id := d.id, readStatus := d.status, status := dto.status,
              vehicleId := dto.vehicleId, driverId := dto.driverId,
              assignedDriverId := assignedDriverId, completedAt := none,
              allowed := fun u hu => by rw [hs] at hu; cases hu }

/-! ## The writes -/

/-- `SET col = value` for a field that is present. -/
def JsonField.set {α : Type} (field : JsonField α) (old : Option α) : Option α :=
  match field with
  | .undefined => old
  | .null => none
  | .value a => some a

/-- Set the row `id`. -/
def setRow (db : DeliveryTable) (p : Delivery → Bool) (f : Delivery → Delivery)
    (hf : ∀ d, (f d).key = d.key) : Except DeliveryError Delivery × DeliveryTable :=
  match db.findFirst p with
  | some d => (.ok (f d), db.update p f hf)
  | none => (.error .database, db)

def LockedWrite.apply (w : LockedWrite) (d : Delivery) : Delivery :=
  { d with status := w.status, completedAt := w.completedAt <|> d.completedAt }

/-- `delivery.update({ where: { id, status } })`; P2025 becomes `modifiedMeanwhile`. -/
def updateWithOptimisticLock (db : DeliveryTable) (w : LockedWrite) :
    Except DeliveryError Delivery × DeliveryTable :=
  match setRow db (fun d => d.id == w.id && d.status == w.expectedStatus) w.apply
    (fun _ => rfl) with
  | (.error _, db') => (.error .modifiedMeanwhile, db')
  | (.ok d, db') => (.ok d, db')

/-- `uuidSafetyMiddleware` on an id. -/
def JsonField.uuidSafety : JsonField String → JsonField String
  | .value id => if id = "" then .null else .value id
  | field => field

/-- What the database takes: a status is never null. -/
def PatchWrite.wellTyped (w : PatchWrite) : Bool := w.status ≠ .null

def PatchWrite.apply (w : PatchWrite) (d : Delivery) : Delivery :=
  { d with
    status := match w.status with | .value t => t | _ => d.status
    vehicleId := w.vehicleId.uuidSafety.set d.vehicleId
    driverId := w.driverId.uuidSafety.set d.driverId
    assignedDriverId := w.assignedDriverId.getD d.assignedDriverId
    completedAt := w.completedAt <|> d.completedAt }

def updateById (db : DeliveryTable) (w : PatchWrite) :
    Except DeliveryError Delivery × DeliveryTable :=
  if w.wellTyped then setRow db (fun d => d.id == w.id) w.apply (fun _ => rfl)
  else (.error .database, db)

/-- The write of `bulkAction('updateStatus')`. -/
def setStatus (status : DeliveryStatus) (now : Int) (d : Delivery) : Delivery :=
  { d with status := status, completedAt := completion status now <|> d.completedAt }

/-- What `bulkAction` does with one id: a failure it reports, or a write. -/
def bulkCheck (fleet : Fleet) (companyId : String) (deliveries : List Delivery)
    (action : BulkAction) (id : String) (now : Int) :
    Except String { f : Delivery → Delivery // ∀ d, (f d).key = d.key } :=
  match deliveries.find? (fun d => d.id == id) with
  | none => .error "Delivery not found"
  | some delivery =>
    match action with
    | .delete =>
      if delivery.status = .in_progress then .error "Cannot delete a delivery in progress"
      else .ok ⟨fun d => { d with deletedAt := some now }, fun _ => rfl⟩
    | .updateStatus (some target) =>
      if target ∈ transitionMatrix delivery.status then
        .ok ⟨setStatus target now, fun _ => rfl⟩
      else .error ("Transition " ++ delivery.status.name ++ " → " ++ target.name ++ " not allowed")
    | .updateStatus none => .error "Unknown action: updateStatus"
    | .assignDriver none => .error "No driver provided"
    | .assignDriver (some driverId) =>
      match fleet.driver companyId driverId with
      | none => .error "Driver not found in your company"
      | some driver =>
        .ok ⟨fun d => { d with driverId := some driverId, assignedDriverId := driver.userId },
          fun _ => rfl⟩

/-- Import advances a delivery that has not started; later statuses are kept. -/
def ImportWrite.apply (w : ImportWrite) (d : Delivery) : Delivery :=
  { d with status := if notStarted w.readStatus then .in_progress else d.status }

def importedDelivery (id companyId orderRef : String) (now : Int) : Delivery :=
  { id := id, companyId := companyId, status := .in_progress, vehicleId := none, driverId := none,
    assignedDriverId := none, externalOrderRef := some orderRef, createdAt := now,
    completedAt := none, deletedAt := none }

/-! ## One step of a call -/

/-- The first read of a request, and its checks. -/
def readRequest (fleet : Fleet) (db : DeliveryTable) (c : Call) : Request → Thread
  | .updateStatus companyId id status =>
    match findOne db c companyId id with
    | .error e => .done (.error e)
    | .ok d =>
      match updateStatus d status c.now with
      | .error e => .done (.error e)
      | .ok w => .locked w
  | .updateDriverStatus companyId id userId status =>
    match findOne db c companyId id with
    | .error e => .done (.error e)
    | .ok d =>
      match updateDriverStatus d userId status c.now with
      | .error e => .done (.error e)
      | .ok w => .locked w
  | .update companyId id dto =>
    match findOne db c companyId id with
    | .error e => .done (.error e)
    | .ok d =>
      match update fleet companyId d dto c.now with
      | .error e => .done (.error e)
      | .ok w => .patch w
  | .bulkAction companyId ids action =>
    if ids = [] then .done (.bulk ⟨[], []⟩)
    else if c.ok = false then .done (.error .database)
    else .bulk companyId
      (db.findMany fun d => ids.contains d.id && d.companyId == companyId && d.deletedAt.isNone)
      action ids ⟨[], []⟩
  | .importDeliveriesFile companyId isPdf mode rows =>
    if rows = [] then .done (.error (.emptyFile isPdf))
    else .importRow companyId mode rows .empty

/-- An update's answer ends its call. -/
def answer (x : Except DeliveryError Delivery × DeliveryTable) : DeliveryTable × Thread :=
  match x with
  | (.ok d, db) => (db, .done (.updated d))
  | (.error e, db) => (db, .done (.error e))

/-- One database call of a thread; a call that fails throws and writes nothing. -/
def Thread.step (fleet : Fleet) (db : DeliveryTable) (c : Call) : Thread → DeliveryTable × Thread
  | .start r => (db, readRequest fleet db c r)
  | .locked w =>
    if c.ok then answer (updateWithOptimisticLock db w) else (db, .done (.error .database))
  | .patch w => if c.ok then answer (updateById db w) else (db, .done (.error .database))
  | .bulk _ _ _ [] result => (db, .done (.bulk result))
  | .bulk companyId deliveries action (id :: ids) result =>
    match bulkCheck fleet companyId deliveries action id c.now with
    | .error reason => (db, .bulk companyId deliveries action ids (result.fail id reason))
    | .ok f =>
      if c.ok then
        match setRow db (fun d => d.id == id) f.1 f.2 with
        | (.ok _, db') => (db', .bulk companyId deliveries action ids (result.ok id))
        | (.error e, db') =>
          (db', .bulk companyId deliveries action ids (result.fail id e.message))
      else
        (db, .bulk companyId deliveries action ids
          (result.fail id DeliveryError.database.message))
  | .importRow _ _ [] result => (db, .done (.imported result))
  | .importRow companyId mode (row :: rows) result =>
    match row.orderRef, row.lieu with
    | none, _ =>
      (db, .importRow companyId mode rows (result.error row.row "N° Commande manquant"))
    | some _, none =>
      (db, .importRow companyId mode rows
        (result.error row.row "Lieu (adresse de livraison) manquant"))
    | some orderRef, some _ =>
      if c.ok then
        match db.findFirst fun d =>
            d.companyId == companyId && d.externalOrderRef == some orderRef &&
              d.deletedAt.isNone with
        | none => (db, .importCreate row.row orderRef companyId mode rows result)
        | some existing =>
          match mode with
          | .createOnly => (db, .importRow companyId mode rows (result.skip row.row orderRef))
          | .upsert => (db, .importUpdate ⟨existing.id, existing.status⟩ companyId mode rows result)
      else (db, .done (.error .database))
  | .importUpdate w companyId mode rows result =>
    if c.ok then
      match setRow db (fun d => d.id == w.id) w.apply (fun _ => rfl) with
      | (.ok _, db') =>
        (db', .importRow companyId mode rows { result with updated := result.updated + 1 })
      | (.error e, db') => (db', .done (.error e))
    else (db, .done (.error .database))
  | .importCreate row orderRef companyId mode rows result =>
    if c.ok then
      match db.create (importedDelivery c.newId companyId orderRef c.now) with
      | some db' =>
        (db', .importRow companyId mode rows { result with created := result.created + 1 })
      | none => (db, .importRow companyId mode rows (result.skip row orderRef))
    else
      (db, .importRow companyId mode rows (result.error row DeliveryError.database.message))
  | .done o => (db, .done o)

/-! ## The system -/

/-- The database and the calls in progress. -/
structure System where
  db : DeliveryTable
  threads : List Thread

inductive Event where
  /-- A request comes in. -/
  | request (r : Request)
  /-- The `i`-th call makes its next database call. -/
  | call (i : Nat) (c : Call)
  deriving DecidableEq, Repr

def System.step (fleet : Fleet) (s : System) : Event → Unit × System
  | .request r => ((), { s with threads := s.threads ++ [.start r] })
  | .call i c =>
    match s.threads[i]? with
    | none => ((), s)
    | some th =>
      ((), ⟨(th.step fleet s.db c).1, s.threads.set i (th.step fleet s.db c).2⟩)

end DeliveryTracking.Deliveries
