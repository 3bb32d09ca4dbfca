/-
# `DeliveryTracking.Fleet.AssignedDriver` — the account that may complete a delivery

A delivery refers to a driver, `driverId`, and keeps a copy of the account of
that driver, `assignedDriverId`; the copy decides who sees the delivery and who
may complete it.  Both sides of the link are written:

    deliveries.create, bulkAction      the driver and the account, together
    deliveries.update (PATCH)          together; a null driver leaves the account
    users.create, invitations.accept   the account of an existing driver

so the copy is right in every state of a run exactly when no PATCH takes the
driver from a delivery with an account, and no account goes to a driver who has
a delivery (`follows_always_iff`).  `users.update` finds the driver by the
account, so it gives none away; and the account that comes with Google has no
driver.
-/
import DeliveryTracking.Deliveries.Lifecycle
import DeliveryTracking.Fleet.LastAdmin

namespace DeliveryTracking.Fleet

open Deliveries (JsonField Delivery DeliveryTable DeliveryStatus Thread Request PatchWrite
  UpdateDeliveryDto setRow byId)

/-! ## The tables -/

structure AccessDb where
  fleet : FleetTables
  deliveries : DeliveryTable

/-- The fields of `CreateDeliveryDto` that end in a modelled column. -/
structure CreateDeliveryDto where
  status : Option DeliveryStatus
  vehicleId : Option String
  driverId : Option String
  deriving DecidableEq, Repr

inductive CreateDeliveryError where
  | vehicleNotFound
  | driverNotFound
  | terminal (status : DeliveryStatus)
  | database
  deriving DecidableEq, Repr

def CreateDeliveryError.message : CreateDeliveryError → String
  | .vehicleNotFound => "Vehicle not found in your company"
  | .driverNotFound => "Driver not found in your company"
  | .terminal status => "Cannot create a delivery with terminal status \"" ++ status.name ++ "\""
  | .database => "Internal server error"

namespace AccessDb

variable (s : AccessDb)

/-- The tables as the fleet services have them. -/
def tables : FleetTables := { s.fleet with deliveries := s.deliveries.rows }

/-- The drivers and vehicles as the deliveries service reads them. -/
def rows : Deliveries.Fleet where
  drivers := s.fleet.drivers.rows.map fun d => ⟨d.id, d.companyId, d.userId, d.deletedAt⟩
  vehicles := s.fleet.vehicles.rows.map fun v => ⟨v.id, v.companyId, v.deletedAt⟩

/-! ## `DeliveriesService` -/

/-- The vehicle of a new delivery is a live one of the company. -/
def createCheckVehicle (companyId : String) : Option String → Except CreateDeliveryError Unit
  | none => .ok ()
  | some id => if (s.rows.vehicle companyId id).isSome then .ok () else .error .vehicleNotFound

/-- The account of the driver of a new delivery, a live one of the company. -/
def createAccount (companyId : String) :
    Option String → Except CreateDeliveryError (Option String)
  | none => .ok none
  | some id =>
    match s.rows.driver companyId id with
    | some driver => .ok driver.userId
    | none => .error .driverNotFound

/-- A delivery is not created where it ends. -/
def createCheckStatus : Option DeliveryStatus → Except CreateDeliveryError Unit
  | some status =>
    if status = .delivered ∨ status = .failed ∨ status = .cancelled then .error (.terminal status)
    else .ok ()
  | none => .ok ()

/-- `create`: the status asked for is dropped, and an empty id becomes a null. -/
def deliveriesCreate (call : Deliveries.Call) (companyId : String) (dto : CreateDeliveryDto) :
    Except CreateDeliveryError AccessDb := do
  s.createCheckVehicle companyId (truthy dto.vehicleId)
  let assignedDriverId ← s.createAccount companyId (truthy dto.driverId)
  createCheckStatus dto.status
  if call.ok then
    match s.deliveries.create
      { id := call.newId, companyId := companyId, status := .in_progress
        vehicleId := truthy dto.vehicleId, driverId := truthy dto.driverId
        assignedDriverId := assignedDriverId, externalOrderRef := none, createdAt := call.now
        completedAt := none, deletedAt := none } with
    | some deliveries => .ok { s with deliveries := deliveries }
    | none => .error .database
  else .error .database

/-- A call of the deliveries service: its database calls one after the other, as many as it makes. -/
def serve (r : Request) (calls : List Deliveries.Call) : DeliveryTable × Thread :=
  calls.foldl (fun x call => x.2.step s.rows x.1 call) (s.deliveries, .start r)

end AccessDb

/-! ## Runs -/

/-- A request of a service, from its first read to its answer. -/
inductive AccessEvent where
  | deliveriesCreate (call : Deliveries.Call) (companyId : String) (dto : CreateDeliveryDto)
  | deliveriesServe (r : Request) (calls : List Deliveries.Call)
  | usersCreate (call : Call) (companyId : String) (dto : CreateUserDto)
  | usersUpdate (call : Call) (companyId id : String) (dto : UpdateUserDto) (currentUserId : String)
  | invitationsAccept (call : Call) (token : String) (userData : UserData)
  /-- Google takes an invitation up: an account, and no driver. -/
  | googleAccepted (now : Int) (user : User) (token : String)
  deriving DecidableEq, Repr

namespace AccessDb

/-- The tables after a request; what throws leaves them. -/
def perform (s : AccessDb) : AccessEvent → AccessDb
  | .deliveriesCreate call companyId dto =>
    match s.deliveriesCreate call companyId dto with
    | .ok t => t
    | .error _ => s
  | .deliveriesServe r calls => { s with deliveries := (s.serve r calls).1 }
  | .usersCreate call companyId dto =>
    { s with fleet := (s.tables.commit (s.tables.usersCreate call companyId dto)).2 }
  | .usersUpdate call companyId id dto currentUserId =>
    { s with fleet := (s.tables.commit (s.tables.usersUpdate call companyId id dto currentUserId)).2 }
  | .invitationsAccept call token userData =>
    { s with fleet := (s.tables.invitationsAccept call token userData).2 }
  | .googleAccepted now user token =>
    { s with fleet := (s.tables.commit (do
        let created ← s.tables.createUser user
        .ok
          { created with
            invitations := created.invitations.update (·.token == token)
              (fun i => { i with status := .accepted, acceptedAt := some now }) fun _ => rfl })).2 }

def step (s : AccessDb) (e : AccessEvent) : Option AccessDb := some (s.perform e)

end AccessDb

/-! ## What the copy is for -/

namespace FleetTables

variable (s : FleetTables)

/-- The account of a driver. -/
def account (driverId : String) : Option String :=
  (s.drivers.findFirst (·.id == driverId)).bind (·.userId)

def HasDriver (driverId : String) : Prop := ∃ d ∈ s.drivers.rows, d.id = driverId

/-- The foreign key of a driver: its account is there. -/
def Accounts : Prop := ∀ d ∈ s.drivers.rows, ∀ u, d.userId = some u → ∃ a ∈ s.users.rows, a.id = u

end FleetTables

namespace AccessDb

variable (s : AccessDb)

/-- A live delivery has the account of its driver, and none where it has no driver or the driver has
no account. -/
def Follows : Prop := ∀ d ∈ s.deliveries.rows, d.deletedAt = none →
  d.assignedDriverId = d.driverId.bind s.fleet.account

/-- The foreign keys: the driver of a delivery is there, and the account of a driver. -/
structure References : Prop where
  drivers : ∀ d ∈ s.deliveries.rows, ∀ id, d.driverId = some id → s.fleet.HasDriver id
  accounts : s.fleet.Accounts

/-- The driver has no live delivery. -/
def Idle (driverId : String) : Prop := ∀ d ∈ s.deliveries.rows, d.deletedAt = none →
  d.driverId ≠ some driverId

/-- A PATCH that goes through: the delivery it reads, and what it writes. -/
def patchOf (companyId id : String) (dto : UpdateDeliveryDto) :
    List Deliveries.Call → Option (Delivery × PatchWrite)
  | read :: write :: _ =>
    match Deliveries.findOne s.deliveries read companyId id with
    | .ok d =>
      match Deliveries.update s.rows companyId d dto read.now with
      | .ok w => if write.ok && w.wellTyped then some (d, w) else none
      | .error _ => none
    | .error _ => none
  | _ => none

/-- No PATCH that goes through takes the driver from a delivery with an account, and no account that
is created goes to a driver with a delivery. -/
def KeepsCopy : AccessEvent → Prop
  | .deliveriesServe (.update companyId id dto) calls =>
    ∀ d w, s.patchOf companyId id dto calls = some (d, w) → dto.driverId.uuidSafety = .null →
      d.assignedDriverId = none
  | .usersCreate call companyId dto =>
    (∃ t, s.tables.usersCreate call companyId dto = .ok t) → dto.role = .driver →
      ∀ driver, s.fleet.findDriver companyId (·.email == some (normalizeEmail dto.email)) =
        some driver → s.Idle driver.id
  | .invitationsAccept call token userData =>
    ∀ invitation, (s.tables.findByToken call.now token).1 = .ok invitation →
      (∃ t, s.tables.acceptInvitation call invitation userData = .ok t) →
      invitation.role = .driver →
      ∀ driver, s.fleet.findDriver invitation.companyId (·.email == some invitation.email) =
        some driver → s.Idle driver.id
  | _ => True

end AccessDb

/-! ## What a request does to the accounts of the drivers -/

namespace FleetTables

/-- The account of every driver stays, except that of `k`, which changes. -/
inductive Relinks (s t : FleetTables) : Option String → Prop
  | keeps (h : ∀ id, s.HasDriver id → t.account id = s.account id) : Relinks s t none
  | gives {k : String} (hk : s.HasDriver k) (hother : ∀ id, id ≠ k → t.account id = s.account id)
      (hnew : t.account k ≠ s.account k) : Relinks s t (some k)

/-- No driver and no account goes, and the accounts of the drivers are there. -/
structure Grows (s t : FleetTables) : Prop where
  drivers : ∀ id, s.HasDriver id → t.HasDriver id
  accounts : t.Accounts

variable {s t u : FleetTables} {call : Call} {companyId id currentUserId : String}

theorem account_congr (h : t.drivers = s.drivers) : t.account id = s.account id := by
  rw [account, account, h]

theorem hasDriver_congr (h : t.drivers = s.drivers) : t.HasDriver id ↔ s.HasDriver id := by
  rw [HasDriver, HasDriver, h]

theorem account_eq {d : Driver} (hd : d ∈ s.drivers.rows) : s.account d.id = d.userId := by
  have hfound : s.drivers.findFirst (·.id == d.id) = some d := by
    refine Table.findFirst_of_unique hd (beq_self_eq_true _) fun b hb => ?_
    obtain ⟨hmem, hid⟩ := Table.mem_of_findFirst hb
    exact Table.eq_of_clash (fun _ _ => DriverKey.Clash.symm) hmem hd
      ⟨.primary, by simp, beq_iff_eq.mp hid⟩
  rw [account, hfound]
  rfl

theorem relinks_congr {k : Option String} (h : Relinks s t k) (hdrivers : u.drivers = t.drivers) :
    Relinks s u k := by
  cases h with
  | keeps h => exact .keeps fun id hid => (account_congr hdrivers).trans (h id hid)
  | gives hk hother hnew =>
    refine .gives hk (fun id hid => (account_congr hdrivers).trans (hother id hid)) ?_
    rw [account_congr hdrivers]
    exact hnew

theorem relinks_of_eq (hdrivers : t.drivers = s.drivers) : Relinks s t none :=
  .keeps fun _ _ => account_congr hdrivers

/-- Drivers as they were, and accounts that stay. -/
theorem grows_of_eq (hs : s.Accounts) (hdrivers : t.drivers = s.drivers)
    (husers : ∀ a ∈ s.users.rows, ∃ b ∈ t.users.rows, b.id = a.id) : Grows s t := by
  refine ⟨fun id => (hasDriver_congr hdrivers).mpr, ?_⟩
  intro d hd u hu
  rw [hdrivers] at hd
  obtain ⟨a, ha, rfl⟩ := hs d hd u hu
  exact husers a ha

theorem Grows.trans (h : Grows s t) (h' : Grows t u) : Grows s u :=
  ⟨fun id hid => h'.drivers id (h.drivers id hid), h'.accounts⟩

/-! ### Writes of one row -/

theorem users_of_createUser {user : User} (h : s.createUser user = .ok t) :
    t.drivers = s.drivers ∧ t.users.rows = s.users.rows ++ [user] ∧
      ∀ a ∈ s.users.rows, a.id ≠ user.id := by
  unfold createUser at h
  split at h
  · rename_i users hcreate
    cases h
    refine ⟨rfl, Table.rows_of_create hcreate, ?_⟩
    intro a ha hid
    have hnone := Table.create_eq_none_iff.mpr ⟨a, ha, Or.inl hid⟩
    cases hnone.symm.trans hcreate
  · cases h

theorem grows_createUser {user : User} (hs : s.Accounts) (h : s.createUser user = .ok t) :
    Grows s t := by
  obtain ⟨hdrivers, husers, -⟩ := users_of_createUser h
  refine grows_of_eq hs hdrivers fun a ha => ⟨a, ?_, rfl⟩
  rw [husers]
  exact List.mem_append_left _ ha

theorem relinks_createUser {user : User} (h : s.createUser user = .ok t) : Relinks s t none :=
  relinks_of_eq (users_of_createUser h).1

/-- A new driver is one that no delivery refers to yet. -/
theorem createDriver_keeps {d : Driver} (h : s.createDriver d = .ok t) : Relinks s t none := by
  unfold createDriver at h
  split at h
  · rename_i drivers hcreate
    cases h
    refine .keeps fun id hid => ?_
    obtain ⟨a, ha, rfl⟩ := hid
    have ha' : a ∈ drivers.rows := by
      rw [Table.rows_of_create hcreate]
      exact List.mem_append_left _ ha
    exact (account_eq (s := { s with drivers := drivers }) ha').trans (account_eq ha).symm
  · cases h

theorem grows_createDriver {d : Driver} (hs : s.Accounts) (h : s.createDriver d = .ok t)
    (haccount : ∀ u, d.userId = some u → ∃ a ∈ s.users.rows, a.id = u) : Grows s t := by
  unfold createDriver at h
  split at h
  · rename_i drivers hcreate
    cases h
    have hrows : drivers.rows = s.drivers.rows ++ [d] := Table.rows_of_create hcreate
    constructor
    · rintro id ⟨a, ha, hid⟩
      exact ⟨a, hrows ▸ List.mem_append_left _ ha, hid⟩
    · intro a ha
      rcases List.mem_append.mp (hrows ▸ ha) with ha | ha
      · exact hs a ha
      · rw [List.mem_singleton.mp ha]
        exact haccount
  · cases h

section UpdateDriver

variable {data : Driver → Driver}

theorem rows_of_updateDriver (h : s.updateDriver id data = .ok t) :
    t.drivers.rows = s.drivers.rows.map fun d => if d.id == id then data d else d := by
  unfold updateDriver at h
  split at h
  · rename_i drivers hmodify
    cases h
    exact Table.rows_of_modify hmodify
  · cases h

/-- The account of a driver after a write of the driver `id`. -/
theorem account_updateDriver (h : s.updateDriver id data = .ok t) (hid : ∀ d, (data d).id = d.id)
    {d : Driver} (hd : d ∈ s.drivers.rows) :
    t.account d.id = if d.id = id then (data d).userId else d.userId := by
  have hmem : (if d.id == id then data d else d) ∈ t.drivers.rows := by
    rw [rows_of_updateDriver h]
    exact List.mem_map_of_mem hd
  have haccount := account_eq hmem
  by_cases hsame : d.id = id
  · rw [if_pos (beq_iff_eq.mpr hsame), hid] at haccount
    rw [if_pos hsame, haccount]
  · rw [if_neg fun h => hsame (beq_iff_eq.mp h)] at haccount
    rw [if_neg hsame, haccount]

theorem grows_updateDriver (hs : s.Accounts) (h : s.updateDriver id data = .ok t)
    (hid : ∀ d, (data d).id = d.id) (haccount : ∀ d ∈ s.drivers.rows, ∀ u,
      (data d).userId = some u → ∃ a ∈ s.users.rows, a.id = u) : Grows s t := by
  have hrows := rows_of_updateDriver h
  have husers := users_of_updateDriver h
  constructor
  · rintro k ⟨a, ha, rfl⟩
    refine ⟨_, hrows ▸ List.mem_map_of_mem ha, ?_⟩
    split
    · exact hid a
    · rfl
  · intro a ha u hu
    rw [hrows] at ha
    obtain ⟨d, hd, rfl⟩ := List.mem_map.mp ha
    rw [husers]
    split at hu
    · exact haccount d hd u hu
    · exact hs d hd u hu

/-- A write that keeps the account of its driver keeps all. -/
theorem updateDriver_keeps (h : s.updateDriver id data = .ok t) (hid : ∀ d, (data d).id = d.id)
    (huser : ∀ d, (data d).userId = d.userId) : Relinks s t none := by
  refine .keeps fun k hk => ?_
  obtain ⟨d, hd, rfl⟩ := hk
  rw [account_updateDriver h hid hd, account_eq hd, huser, ite_self]

/-- A write of a new account to a driver changes the account of that driver. -/
theorem updateDriver_gives {d : Driver} {userId : String} (h : s.updateDriver d.id data = .ok t)
    (hd : d ∈ s.drivers.rows) (hid : ∀ d, (data d).id = d.id)
    (huser : ∀ d, (data d).userId = some userId) (hnew : ∀ d ∈ s.drivers.rows, d.userId ≠ some userId) :
    Relinks s t (some d.id) := by
  refine .gives ⟨d, hd, rfl⟩ ?_ ?_
  · intro k hk
    by_cases hex : s.HasDriver k
    · obtain ⟨a, ha, rfl⟩ := hex
      rw [account_updateDriver h hid ha, if_neg hk, account_eq ha]
    · -- no driver `k`, before or after
      have hnone : s.drivers.findFirst (·.id == k) = none :=
        List.find?_eq_none.mpr fun a ha hak => hex ⟨a, ha, beq_iff_eq.mp hak⟩
      have hnone' : t.drivers.findFirst (·.id == k) = none := by
        refine List.find?_eq_none.mpr fun a ha hak => ?_
        rw [rows_of_updateDriver h] at ha
        obtain ⟨b, hb, rfl⟩ := List.mem_map.mp ha
        refine hex ⟨b, hb, ?_⟩
        rw [← beq_iff_eq.mp hak]
        split
        · exact (hid b).symm
        · rfl
      rw [account, account, hnone, hnone']
  · rw [account_updateDriver h hid hd, if_pos rfl, huser, account_eq hd]
    exact fun heq => hnew d hd heq.symm

end UpdateDriver

/-! ### Requests -/

theorem relinks_of_drivers {k : Option String} (hdrivers : t.drivers = s.drivers)
    (h : Relinks t u k) : Relinks s u k := by
  cases h with
  | keeps h =>
    exact .keeps fun id hid =>
      (h id ((hasDriver_congr hdrivers).mpr hid)).trans (account_congr hdrivers)
  | gives hk hother hnew =>
    refine .gives ((hasDriver_congr hdrivers).mp hk)
      (fun id hid => (hother id hid).trans (account_congr hdrivers)) ?_
    rw [← account_congr hdrivers]
    exact hnew

theorem findDriver_congr (h : t.drivers = s.drivers) (q : Driver → Bool) :
    t.findDriver companyId q = s.findDriver companyId q := by
  rw [findDriver, findDriver, h]

/-- A new account is no driver's. -/
theorem account_ne_of_new (hs : s.Accounts) {userId : String}
    (hnew : ∀ a ∈ s.users.rows, a.id ≠ userId) : ∀ d ∈ s.drivers.rows, d.userId ≠ some userId := by
  intro d hd hu
  obtain ⟨a, ha, haid⟩ := hs d hd userId hu
  exact hnew a ha haid

/-- The existing driver whom a new account with an address goes to. -/
def linked (s : FleetTables) (companyId email : String) (role : UserRole) : Option String :=
  if role = .driver then (s.findDriver companyId (·.email == some email)).map (·.id) else none

/-- The drivers after a new account is linked: to the existing driver `existing`, or to a new one. -/
theorem relinks_link {user : User} {created : FleetTables} (hs : s.Accounts)
    (hcreate : s.createUser user = .ok created) {existing : Driver} {data : Driver → Driver}
    (hd : existing ∈ s.drivers.rows) (hlink : created.updateDriver existing.id data = .ok t)
    (hid : ∀ d, (data d).id = d.id) (huser : ∀ d, (data d).userId = some user.id) :
    Grows s t ∧ Relinks s t (some existing.id) := by
  obtain ⟨hdrivers, husers, hnew⟩ := users_of_createUser hcreate
  have hgrows := grows_createUser hs hcreate
  constructor
  · refine hgrows.trans (grows_updateDriver hgrows.accounts hlink hid ?_)
    intro d _ u hu
    rw [huser] at hu
    refine ⟨user, ?_, Option.some.inj hu⟩
    rw [husers]
    exact List.mem_append_right _ (List.mem_singleton_self _)
  · refine relinks_of_drivers hdrivers (updateDriver_gives hlink (hdrivers ▸ hd) hid huser ?_)
    rw [hdrivers]
    exact account_ne_of_new hs hnew

theorem relinks_new {user : User} {created : FleetTables} (hs : s.Accounts)
    (hcreate : s.createUser user = .ok created) {d : Driver}
    (hlink : created.createDriver d = .ok t) (huser : d.userId = some user.id) :
    Grows s t ∧ Relinks s t none := by
  obtain ⟨hdrivers, husers, -⟩ := users_of_createUser hcreate
  have hgrows := grows_createUser hs hcreate
  constructor
  · refine hgrows.trans (grows_createDriver hgrows.accounts hlink ?_)
    intro u hu
    rw [huser] at hu
    refine ⟨user, ?_, Option.some.inj hu⟩
    rw [husers]
    exact List.mem_append_right _ (List.mem_singleton_self _)
  · exact relinks_of_drivers hdrivers (createDriver_keeps hlink)

/-- The history of assignments is not looked at. -/
theorem grows_of_assignIf {d : String} {o : Option String} (h : t.assignIf companyId d o call = .ok u)
    {k : Option String} (hst : Grows s t ∧ Relinks s t k) : Grows s u ∧ Relinks s u k := by
  obtain ⟨-, hdrivers, -⟩ := assignIf_opened h
  have husers := users_of_assignIf h
  refine ⟨hst.1.trans (grows_of_eq hst.1.accounts hdrivers ?_), relinks_congr hst.2 hdrivers⟩
  intro a ha
  exact ⟨a, husers ▸ ha, rfl⟩

theorem usersCreate_relinks {dto : CreateUserDto} (hs : s.Accounts)
    (h : s.usersCreate call companyId dto = .ok t) :
    Grows s t ∧ Relinks s t (s.linked companyId (normalizeEmail dto.email) dto.role) := by
  simp only [usersCreate, bind_eq_ok] at h
  obtain ⟨_, -, h⟩ := h
  split at h
  · rename_i hrole
    obtain ⟨_, -, h⟩ := bind_eq_ok.mp h
    obtain ⟨_, -, h⟩ := bind_eq_ok.mp h
    obtain ⟨created, hcreate, h⟩ := bind_eq_ok.mp h
    rw [linked, if_pos hrole]
    rw [findDriver_congr (users_of_createUser hcreate).1] at h
    split at h
    · -- the driver is there
      rename_i existing hfound
      obtain ⟨updated, hupdate, hassign⟩ := bind_eq_ok.mp h
      rw [hfound]
      exact grows_of_assignIf hassign (relinks_link hs hcreate (Table.mem_of_findFirst hfound).1
        hupdate (fun _ => rfl) fun _ => rfl)
    · rename_i hnone
      obtain ⟨added, hadd, hassign⟩ := bind_eq_ok.mp h
      rw [hnone]
      exact grows_of_assignIf hassign (relinks_new hs hcreate hadd rfl)
  · rename_i hrole
    rw [linked, if_neg hrole]
    exact ⟨grows_createUser hs h, relinks_createUser h⟩

theorem grows_updateUser {data : User → User} (hs : s.Accounts) (h : s.updateUser id data = .ok t)
    (hid : ∀ a, (data a).id = a.id) : Grows s t := by
  refine grows_of_eq hs (updateUser_untouched h).2.1 fun a ha => ?_
  refine ⟨_, users_of_updateUser h ▸ List.mem_map_of_mem ha, ?_⟩
  split
  · exact hid a
  · rfl

/-- `update` writes to the driver that has the account, or to a new one. -/
theorem updateDriverOf_keeps {dto : UpdateUserDto} {updatedUser : User} (hs : s.Accounts)
    (hid : ∃ a ∈ s.users.rows, a.id = id)
    (h : s.updateDriverOf call companyId id dto updatedUser = .ok t) :
    Grows s t ∧ Relinks s t none := by
  unfold updateDriverOf at h
  split at h
  · simp only [bind_eq_ok] at h
    obtain ⟨_, -, written, hwritten, hassign⟩ := h
    obtain ⟨-, hdrivers, -⟩ := reassign_opened hassign
    have husers := users_of_reassign hassign
    have hgrows : Grows s written := grows_updateDriver hs hwritten (fun _ => rfl) hs
    refine ⟨hgrows.trans (grows_of_eq hgrows.accounts hdrivers fun a ha => ⟨a, husers ▸ ha, rfl⟩), ?_⟩
    exact relinks_congr (updateDriver_keeps hwritten (fun _ => rfl) fun _ => rfl) hdrivers
  · simp only [bind_eq_ok] at h
    obtain ⟨added, hadd, hassign⟩ := h
    refine grows_of_assignIf hassign ⟨grows_createDriver hs hadd ?_, createDriver_keeps hadd⟩
    intro u hu
    rw [← Option.some.inj hu]
    exact hid

theorem usersUpdate_relinks {dto : UpdateUserDto} (hs : s.Accounts)
    (h : s.usersUpdate call companyId id dto currentUserId = .ok t) :
    Grows s t ∧ Relinks s t none := by
  rw [usersUpdate_eq] at h
  simp only [bind_eq_ok] at h
  obtain ⟨user, hfind, _, -, hwrites⟩ := h
  simp only [updateWrites, bind_eq_ok] at hwrites
  obtain ⟨_, -, _, -, updated, hupdate, hdriver⟩ := hwrites
  have hgrows : Grows s updated := grows_updateUser hs hupdate fun _ => rfl
  have hkeeps : Relinks s updated none := relinks_of_eq (updateUser_untouched hupdate).2.1
  split at hdriver
  · have hid : ∃ a ∈ updated.users.rows, a.id = id := by
      cases hfound : s.findUser companyId id with
      | none =>
        rw [hfound] at hfind
        cases hfind
      | some found =>
        obtain ⟨hmem, hq⟩ := Table.mem_of_findFirst hfound
        simp only [Bool.and_eq_true, beq_iff_eq] at hq
        refine ⟨_, users_of_updateUser hupdate ▸ List.mem_map_of_mem hmem, ?_⟩
        rw [if_pos (beq_iff_eq.mpr hq.1)]
        exact hq.1
    obtain ⟨hgrows', hkeeps'⟩ := updateDriverOf_keeps hgrows.accounts hid hdriver
    exact ⟨hgrows.trans hgrows', relinks_of_drivers (updateUser_untouched hupdate).2.1 hkeeps'⟩
  · cases hdriver
    exact ⟨hgrows, hkeeps⟩

theorem acceptInvitation_relinks {invitation : Invitation} {userData : UserData} (hs : s.Accounts)
    (h : s.acceptInvitation call invitation userData = .ok t) :
    Grows s t ∧ Relinks s t (s.linked invitation.companyId invitation.email invitation.role) := by
  simp only [acceptInvitation, bind_eq_ok] at h
  obtain ⟨created, hcreate, written, hlink, h⟩ := h
  cases h
  have hdrivers := (users_of_createUser hcreate).1
  suffices hwritten : Grows s written ∧
      Relinks s written (s.linked invitation.companyId invitation.email invitation.role) from
    ⟨hwritten.1.trans (grows_of_eq hwritten.1.accounts rfl fun a ha => ⟨a, ha, rfl⟩),
      relinks_congr hwritten.2 rfl⟩
  unfold linkDriver at hlink
  split at hlink
  · rename_i hrole
    rw [linked, if_pos hrole]
    rw [findDriver_congr hdrivers] at hlink
    split at hlink
    · rename_i existing hfound
      rw [hfound]
      exact relinks_link hs hcreate (Table.mem_of_findFirst hfound).1 hlink (fun _ => rfl)
        fun _ => rfl
    · rename_i hnone
      rw [hnone]
      exact relinks_new hs hcreate hlink rfl
  · rename_i hrole
    rw [linked, if_neg hrole]
    cases hlink
    exact ⟨grows_createUser hs hcreate, relinks_createUser hcreate⟩

end FleetTables

/-! ## What a request does to the deliveries -/

/-- A row as it was, as far as its driver goes. -/
structure SameLink (d d' : Delivery) : Prop where
  driverId : d'.driverId = d.driverId
  assignedDriverId : d'.assignedDriverId = d.assignedDriverId
  live : d'.deletedAt = none → d.deletedAt = none

namespace AccessDb

variable {s t : AccessDb} {companyId id : String}

/-- A row that has the account of its driver. -/
structure Fits (s : AccessDb) (d : Delivery) : Prop where
  copy : d.assignedDriverId = d.driverId.bind s.fleet.account
  driver : ∀ id, d.driverId = some id → s.fleet.HasDriver id

/-- The deliveries are old ones as they were, or have the account of their driver. -/
def Written (s : AccessDb) (db db' : DeliveryTable) : Prop :=
  ∀ d' ∈ db'.rows, (∃ d ∈ db.rows, SameLink d d') ∨ s.Fits d'

theorem Written.refl (db : DeliveryTable) : s.Written db db := by
  intro d hd
  exact Or.inl ⟨d, hd, rfl, rfl, fun hlive => hlive⟩

theorem Written.trans {db db' db'' : DeliveryTable} (h : s.Written db db')
    (h' : s.Written db' db'') : s.Written db db'' := by
  intro d'' hd''
  rcases h' d'' hd'' with ⟨d', hd', hsame'⟩ | hfits
  · rcases h d' hd' with ⟨d, hd, hsame⟩ | hfits
    · exact Or.inl ⟨d, hd, hsame'.driverId.trans hsame.driverId,
        hsame'.assignedDriverId.trans hsame.assignedDriverId,
        fun hlive => hsame.live (hsame'.live hlive)⟩
    · refine Or.inr ⟨?_, ?_⟩
      · rw [hsame'.assignedDriverId, hsame'.driverId]
        exact hfits.copy
      · rw [hsame'.driverId]
        exact hfits.driver
  · exact Or.inr hfits

theorem rows_setRow (db : DeliveryTable) (p : Delivery → Bool) (f : Delivery → Delivery)
    (hf : ∀ d, (f d).key = d.key) :
    (setRow db p f hf).2.rows = db.rows.map fun d => if p d then f d else d := by
  unfold setRow
  split
  · rfl
  · rename_i hnone
    have hfalse := List.find?_eq_none.mp hnone
    refine (List.map_id _).symm.trans (List.map_congr_left fun d hd => ?_)
    rw [if_neg (hfalse d hd)]
    rfl

theorem written_setRow {db : DeliveryTable} {p : Delivery → Bool} {f : Delivery → Delivery}
    {hkey : ∀ d, (f d).key = d.key} (hf : ∀ d, SameLink d (f d) ∨ s.Fits (f d)) :
    s.Written db (setRow db p f hkey).2 := by
  intro d' hd'
  rw [rows_setRow] at hd'
  obtain ⟨d, hd, rfl⟩ := List.mem_map.mp hd'
  split
  · exact (hf d).imp (fun hsame => ⟨d, hd, hsame⟩) fun hfits => hfits
  · exact Or.inl ⟨d, hd, rfl, rfl, fun hlive => hlive⟩

theorem written_create {db db' : DeliveryTable} {d : Delivery} (h : db.create d = some db')
    (hd : s.Fits d) : s.Written db db' := by
  intro d' hd'
  rw [Table.rows_of_create h] at hd'
  rcases List.mem_append.mp hd' with hd' | hd'
  · exact Or.inl ⟨d', hd', rfl, rfl, fun hlive => hlive⟩
  · rw [List.mem_singleton.mp hd']
    exact Or.inr hd

/-- The driver that a request names, as the deliveries service finds it. -/
theorem driver_of_rows {driver : Deliveries.Driver} (h : s.rows.driver companyId id = some driver) :
    s.fleet.HasDriver id ∧ s.fleet.account id = driver.userId := by
  have hmem := List.mem_of_find?_eq_some h
  have hq := List.find?_some h
  simp only [Bool.and_eq_true, beq_iff_eq] at hq
  obtain ⟨d, hd, rfl⟩ := List.mem_map.mp hmem
  obtain rfl : d.id = id := hq.1.1
  exact ⟨⟨d, hd, rfl⟩, FleetTables.account_eq hd⟩

theorem fits_none {d : Delivery} (hdriver : d.driverId = none) (hcopy : d.assignedDriverId = none) :
    s.Fits d := by
  constructor
  · rw [hdriver, hcopy]
    rfl
  · intro id hid
    cases hdriver.symm.trans hid

theorem fits_driver {d : Delivery} {driver : Deliveries.Driver}
    (h : s.rows.driver companyId id = some driver) (hdriver : d.driverId = some id)
    (hcopy : d.assignedDriverId = driver.userId) : s.Fits d := by
  obtain ⟨hex, haccount⟩ := driver_of_rows h
  constructor
  · rw [hdriver, hcopy, Option.bind_some, haccount]
  · intro k hk
    obtain rfl := Option.some.inj (hdriver.symm.trans hk)
    exact hex

/-! ### `create` -/

theorem fits_createAccount {driverId account : Option String}
    (h : s.createAccount companyId driverId = .ok account) {d : Delivery}
    (hdriver : d.driverId = driverId) (hcopy : d.assignedDriverId = account) : s.Fits d := by
  cases driverId with
  | none =>
    cases h
    exact fits_none hdriver hcopy
  | some id =>
    simp only [createAccount] at h
    split at h
    · rename_i driver hfound
      cases h
      exact fits_driver hfound hdriver hcopy
    · cases h

theorem deliveriesCreate_written {call : Deliveries.Call} {dto : CreateDeliveryDto}
    (h : s.deliveriesCreate call companyId dto = .ok t) :
    t.fleet = s.fleet ∧ s.Written s.deliveries t.deliveries := by
  simp only [deliveriesCreate, bind_eq_ok] at h
  obtain ⟨_, -, account, haccount, _, -, h⟩ := h
  split at h
  · split at h
    · rename_i deliveries hcreate
      cases h
      exact ⟨rfl, written_create hcreate (fits_createAccount haccount rfl rfl)⟩
    · cases h
  · cases h

/-! ### The writers that do not patch -/

/-- What a call of `bulkAction` writes to a delivery. -/
theorem bulkCheck_links {deliveries : List Delivery} {action : Deliveries.BulkAction} {now : Int}
    {f : { f : Delivery → Delivery // ∀ d, (f d).key = d.key }}
    (h : Deliveries.bulkCheck s.rows companyId deliveries action id now = .ok f) (d : Delivery) :
    SameLink d (f.1 d) ∨ s.Fits (f.1 d) := by
  unfold Deliveries.bulkCheck at h
  split at h
  · cases h
  · split at h
    · -- `delete`
      split at h
      · cases h
      · cases h
        exact Or.inl ⟨rfl, rfl, fun hlive => by cases hlive⟩
    · -- `updateStatus`
      split at h
      · cases h
        exact Or.inl ⟨rfl, rfl, fun hlive => hlive⟩
      · cases h
    · cases h
    · cases h
    · -- `assignDriver`
      split at h
      · cases h
      · rename_i driver hfound
        cases h
        exact Or.inr (fits_driver hfound rfl rfl)

/-- A call that patches, or will. -/
def patches : Thread → Bool
  | .start (.update ..) | .patch _ => true
  | _ => false

theorem patches_readRequest {db : DeliveryTable} {call : Deliveries.Call} {r : Request}
    (hr : patches (.start r) = false) : patches (Deliveries.readRequest s.rows db call r) = false := by
  cases r with
  | updateStatus companyId id status =>
    simp only [Deliveries.readRequest]
    split
    · rfl
    · split
      · rfl
      · rfl
  | updateDriverStatus companyId id userId status =>
    simp only [Deliveries.readRequest]
    split
    · rfl
    · split
      · rfl
      · rfl
  | update companyId id dto => cases hr
  | bulkAction companyId ids action =>
    simp only [Deliveries.readRequest]
    split
    · rfl
    · split
      · rfl
      · rfl
  | importDeliveriesFile companyId isPdf mode rows =>
    simp only [Deliveries.readRequest]
    split
    · rfl
    · rfl

theorem patches_answer (x : Except Deliveries.DeliveryError Delivery × DeliveryTable) :
    patches (Deliveries.answer x).2 = false := by
  rcases x with ⟨_ | _, _⟩ <;> rfl

/-- One database call of a call that does not patch. -/
theorem written_step (db : DeliveryTable) (call : Deliveries.Call) {th : Thread}
    (hth : patches th = false) : s.Written db (th.step s.rows db call).1 ∧
      patches (th.step s.rows db call).2 = false := by
  have hsame : s.Written db db := .refl db
  cases th with
  | start r => exact ⟨hsame, patches_readRequest hth⟩
  | locked w =>
    simp only [Thread.step]
    split
    · rw [Deliveries.answer_fst, Deliveries.updateWithOptimisticLock_snd]
      exact ⟨written_setRow fun _ => Or.inl ⟨rfl, rfl, fun hlive => hlive⟩, patches_answer _⟩
    · exact ⟨hsame, rfl⟩
  | patch w => cases hth
  | bulk companyId deliveries action ids result =>
    cases ids with
    | nil => exact ⟨hsame, rfl⟩
    | cons id ids =>
      simp only [Thread.step]
      split
      · exact ⟨hsame, rfl⟩
      · rename_i f hcheck
        split
        · have hwritten : s.Written db (setRow db (fun d => d.id == id) f.1 f.2).2 :=
            written_setRow (bulkCheck_links hcheck)
          split
          · rename_i hset
            rw [hset] at hwritten
            exact ⟨hwritten, rfl⟩
          · rename_i hset
            rw [hset] at hwritten
            exact ⟨hwritten, rfl⟩
        · exact ⟨hsame, rfl⟩
  | importRow companyId mode rows result =>
    cases rows with
    | nil => exact ⟨hsame, rfl⟩
    | cons row rows =>
      simp only [Thread.step]
      split
      · exact ⟨hsame, rfl⟩
      · exact ⟨hsame, rfl⟩
      · split
        · split
          · exact ⟨hsame, rfl⟩
          · cases mode with
            | createOnly => exact ⟨hsame, rfl⟩
            | upsert => exact ⟨hsame, rfl⟩
        · exact ⟨hsame, rfl⟩
  | importUpdate w companyId mode rows result =>
    have hwritten : s.Written db (setRow db (fun d => d.id == w.id) w.apply (fun _ => rfl)).2 :=
      written_setRow fun _ => Or.inl ⟨rfl, rfl, fun hlive => hlive⟩
    simp only [Thread.step]
    split
    · split
      · rename_i hset
        rw [hset] at hwritten
        exact ⟨hwritten, rfl⟩
      · rename_i hset
        rw [hset] at hwritten
        exact ⟨hwritten, rfl⟩
    · exact ⟨hsame, rfl⟩
  | importCreate row orderRef companyId mode rows result =>
    simp only [Thread.step]
    split
    · split
      · rename_i db' hcreate
        exact ⟨written_create hcreate (fits_none rfl rfl), rfl⟩
      · exact ⟨hsame, rfl⟩
    · exact ⟨hsame, rfl⟩
  | done o => exact ⟨hsame, rfl⟩

/-- A call that does not patch, over all its database calls. -/
theorem written_calls : ∀ (calls : List Deliveries.Call) (x : DeliveryTable × Thread),
    patches x.2 = false →
    s.Written x.1 (calls.foldl (fun x call => x.2.step s.rows x.1 call) x).1
  | [], x, _ => .refl x.1
  | call :: calls, x, hx => by
      obtain ⟨hwritten, hnext⟩ := written_step (s := s) x.1 call hx
      exact hwritten.trans (written_calls calls _ hnext)

/-! ### The PATCH -/

theorem step_done (calls : List Deliveries.Call) (db : DeliveryTable) (o : Deliveries.Outcome) :
    calls.foldl (fun x call => x.2.step s.rows x.1 call) (db, Thread.done o) = (db, .done o) := by
  induction calls with
  | nil => rfl
  | cons call calls ih => exact ih

/-- A PATCH writes what its checks let through. -/
theorem update_fields {fleet : Deliveries.Fleet} {d : Delivery} {dto : UpdateDeliveryDto} {now : Int}
    {w : PatchWrite} (h : Deliveries.update fleet companyId d dto now = .ok w) :
    w.id = d.id ∧ w.driverId = dto.driverId ∧
      Deliveries.checkDriver fleet companyId dto.driverId = .ok w.assignedDriverId := by
  unfold Deliveries.update at h
  split at h
  · cases h
  · split at h
    · cases h
    · rename_i account haccount
      rw [haccount]
      split at h
      · split_ifs at h
        · cases h
          exact ⟨rfl, rfl, rfl⟩
        · cases h
          exact ⟨rfl, rfl, rfl⟩
      · cases h
        exact ⟨rfl, rfl, rfl⟩
      · cases h
        exact ⟨rfl, rfl, rfl⟩

theorem findOne_eq_ok {db : DeliveryTable} {call : Deliveries.Call} {d : Delivery}
    (h : Deliveries.findOne db call companyId id = .ok d) :
    d ∈ db.rows ∧ d.id = id ∧ d.deletedAt = none := by
  unfold Deliveries.findOne at h
  split at h
  · split at h
    · rename_i found hfound
      cases h
      obtain ⟨hmem, hq⟩ := Table.mem_of_findFirst hfound
      simp only [Bool.and_eq_true, beq_iff_eq, Option.isNone_iff_eq_none] at hq
      exact ⟨hmem, hq.1.1, hq.2⟩
    · cases h
  · cases h

theorem answer_updateById (db : DeliveryTable) {w : PatchWrite} (htyped : w.wellTyped = true) :
    ∃ o, Deliveries.answer (Deliveries.updateById db w) =
      ((setRow db (fun d => d.id == w.id) w.apply fun _ => rfl).2, .done o) := by
  rw [Deliveries.updateById, if_pos htyped]
  cases hset : setRow db (fun d => d.id == w.id) w.apply fun _ => rfl with
  | mk answered db' =>
    cases answered with
    | error e => exact ⟨_, rfl⟩
    | ok d => exact ⟨_, rfl⟩

/-- The read and the write of a PATCH. -/
theorem step_update (companyId id : String) (dto : UpdateDeliveryDto) (read write : Deliveries.Call)
    (rest : List Deliveries.Call) :
    ∃ db o, (Deliveries.readRequest s.rows s.deliveries read (.update companyId id dto)).step s.rows
        s.deliveries write = (db, .done o) ∧
      db.rows = match s.patchOf companyId id dto (read :: write :: rest) with
        | none => s.deliveries.rows
        | some (_, w) =>
          s.deliveries.rows.map fun d => if d.id == w.id then w.apply d else d := by
  simp only [Deliveries.readRequest, patchOf]
  cases hfind : Deliveries.findOne s.deliveries read companyId id with
  | error e => exact ⟨_, _, rfl, rfl⟩
  | ok d =>
    dsimp only
    cases hupdate : Deliveries.update s.rows companyId d dto read.now with
    | error e => exact ⟨_, _, rfl, rfl⟩
    | ok w =>
      dsimp only [Thread.step]
      cases hok : write.ok with
      | false => exact ⟨_, _, rfl, rfl⟩
      | true =>
        cases htyped : w.wellTyped with
        | false =>
          rw [if_pos rfl, Deliveries.updateById, htyped]
          exact ⟨_, _, rfl, rfl⟩
        | true =>
          obtain ⟨o, ho⟩ := answer_updateById s.deliveries htyped
          rw [if_pos rfl, ho]
          exact ⟨_, o, rfl, rows_setRow ..⟩

/-- The rows after a PATCH: rewritten where it goes through. -/
theorem rows_serve_update (companyId id : String) (dto : UpdateDeliveryDto) (calls : List Deliveries.Call) :
    (s.serve (.update companyId id dto) calls).1.rows =
      match s.patchOf companyId id dto calls with
      | none => s.deliveries.rows
      | some (_, w) => s.deliveries.rows.map fun d => if d.id == w.id then w.apply d else d := by
  match calls with
  | [] => rfl
  | [read] => rfl
  | read :: write :: rest =>
    obtain ⟨db, o, hstep, hrows⟩ := step_update (s := s) companyId id dto read write rest
    rw [serve, List.foldl_cons, List.foldl_cons]
    show (rest.foldl _ ((Deliveries.readRequest s.rows s.deliveries read
      (.update companyId id dto)).step s.rows s.deliveries write)).1.rows = _
    rw [hstep, step_done]
    exact hrows

/-! ## One request -/

/-- A write of deliveries that are as they were or have the account of their driver. -/
theorem follows_of_written (hs : s.Follows) (hrefs : s.References) (hfleet : t.fleet = s.fleet)
    (h : s.Written s.deliveries t.deliveries) : t.Follows ∧ t.References := by
  refine ⟨fun d' hd' hlive => ?_, fun d' hd' id hid => ?_, ?_⟩
  · rw [hfleet]
    rcases h d' hd' with ⟨d, hd, hsame⟩ | hfits
    · rw [hsame.assignedDriverId, hsame.driverId]
      exact hs d hd (hsame.live hlive)
    · exact hfits.copy
  · rw [hfleet]
    rcases h d' hd' with ⟨d, hd, hsame⟩ | hfits
    · exact hrefs.drivers d hd id (hsame.driverId ▸ hid)
    · exact hfits.driver id hid
  · rw [hfleet]
    exact hrefs.accounts

/-- A write of the fleet tables: the copies are right where the driver with a new account is idle. -/
theorem follows_fleet_iff (hs : s.Follows) (hrefs : s.References) (fleet : FleetTables)
    {k : Option String} (hgrows : s.fleet.Grows fleet) (h : s.fleet.Relinks fleet k) :
    (({ s with fleet := fleet } : AccessDb).Follows ↔ ∀ driver, k = some driver → s.Idle driver) ∧
      ({ s with fleet := fleet } : AccessDb).References := by
  refine ⟨?_, fun d hd id hid => hgrows.drivers id (hrefs.drivers d hd id hid), hgrows.accounts⟩
  -- the account of the driver of a delivery, before and after
  have hcopy : ∀ d ∈ s.deliveries.rows, d.deletedAt = none →
      (d.assignedDriverId = d.driverId.bind fleet.account ↔
        d.driverId.bind fleet.account = d.driverId.bind s.fleet.account) := by
    intro d hd hlive
    rw [hs d hd hlive]
    exact eq_comm
  cases h with
  | keeps hkeeps =>
    refine iff_of_true (fun d hd hlive => (hcopy d hd hlive).mpr ?_) fun driver hk => by cases hk
    cases hdriver : d.driverId with
    | none => rfl
    | some id => exact hkeeps id (hrefs.drivers d hd id hdriver)
  | gives hk hother hnew =>
    rename_i k
    constructor
    · intro hfollows driver hdriver d hd hlive hid
      obtain rfl := Option.some.inj hdriver
      have heq := (hcopy d hd hlive).mp (hfollows d hd hlive)
      rw [hid] at heq
      exact hnew heq
    · intro hidle d hd hlive
      refine (hcopy d hd hlive).mpr ?_
      cases hdriver : d.driverId with
      | none => rfl
      | some id =>
        refine hother id ?_
        rintro rfl
        exact hidle id rfl d hd hlive hdriver

theorem of_tables {u : FleetTables} {k : Option String}
    (h : s.tables.Grows u ∧ s.tables.Relinks u k) : s.fleet.Grows u ∧ s.fleet.Relinks u k :=
  ⟨⟨h.1.drivers, h.1.accounts⟩, FleetTables.relinks_of_drivers (t := s.tables) rfl h.2⟩

/-- A request of the fleet services, whether or not it goes through. -/
theorem follows_commit_iff (hs : s.Follows) (hrefs : s.References)
    (result : Except FleetError FleetTables) {k : Option String}
    (hok : ∀ u, result = .ok u → s.fleet.Grows u ∧ s.fleet.Relinks u k) :
    (({ s with fleet := (s.tables.commit result).2 } : AccessDb).Follows ↔
        ((∃ u, result = .ok u) → ∀ driver, k = some driver → s.Idle driver)) ∧
      ({ s with fleet := (s.tables.commit result).2 } : AccessDb).References := by
  cases result with
  | error e =>
    obtain ⟨hfollows, hrefs'⟩ := follows_fleet_iff hs hrefs s.tables
      (FleetTables.grows_of_eq hrefs.accounts rfl fun a ha => ⟨a, ha, rfl⟩)
      (FleetTables.relinks_of_eq rfl)
    refine ⟨iff_of_true (hfollows.mpr fun driver hk => by cases hk) ?_, hrefs'⟩
    rintro ⟨u, hu⟩
    cases hu
  | ok u =>
    obtain ⟨hgrows, hrelinks⟩ := hok u rfl
    obtain ⟨hfollows, hrefs'⟩ := follows_fleet_iff hs hrefs u hgrows hrelinks
    refine ⟨hfollows.trans ?_, hrefs'⟩
    exact ⟨fun h _ => h, fun h => h ⟨u, rfl⟩⟩

theorem linked_iff {fleet : FleetTables} {email : String} {role : UserRole} {P : String → Prop} :
    (∀ driver, fleet.linked companyId email role = some driver → P driver) ↔
      (role = .driver → ∀ driver, fleet.findDriver companyId (·.email == some email) =
        some driver → P driver.id) := by
  unfold FleetTables.linked
  by_cases hrole : role = .driver
  · rw [if_pos hrole]
    constructor
    · intro h _ driver hfound
      exact h driver.id (by rw [hfound]; rfl)
    · intro h k hk
      obtain ⟨driver, hfound, rfl⟩ := Option.map_eq_some_iff.mp hk
      exact h hrole driver hfound
  · rw [if_neg hrole]
    exact iff_of_true (fun _ hk => by cases hk) fun h => absurd h hrole

/-- What `findByToken` leaves, whatever it finds. -/
theorem findByToken_cases (fleet : FleetTables) (now : Int) (token : String) :
    (fleet.findByToken now token).2.drivers = fleet.drivers ∧
      (fleet.findByToken now token).2.users = fleet.users ∧
      ∀ invitation, (fleet.findByToken now token).1 = .ok invitation →
        (fleet.findByToken now token).2 = fleet := by
  unfold FleetTables.findByToken
  split
  · exact ⟨rfl, rfl, fun _ _ => rfl⟩
  · split_ifs
    · exact ⟨rfl, rfl, fun _ _ => rfl⟩
    · exact ⟨rfl, rfl, fun _ h => by cases h⟩
    · exact ⟨rfl, rfl, fun _ _ => rfl⟩

theorem follows_invitationsAccept_iff (hs : s.Follows) (hrefs : s.References) (call : Call)
    (token : String) (userData : UserData) :
    ((s.perform (.invitationsAccept call token userData)).Follows ↔
        s.KeepsCopy (.invitationsAccept call token userData)) ∧
      (s.perform (.invitationsAccept call token userData)).References := by
  obtain ⟨hdrivers, husers, hsame⟩ := findByToken_cases s.tables call.now token
  simp only [perform, FleetTables.invitationsAccept, KeepsCopy]
  cases hfind : s.tables.findByToken call.now token with
  | mk found after =>
    rw [hfind] at hdrivers husers hsame
    cases found with
    | error e =>
      obtain ⟨hfollows, hrefs'⟩ := follows_fleet_iff hs hrefs after
        (FleetTables.grows_of_eq hrefs.accounts hdrivers fun a ha => ⟨a, husers ▸ ha, rfl⟩)
        (FleetTables.relinks_of_eq hdrivers)
      refine ⟨iff_of_true (hfollows.mpr fun driver hk => by cases hk) ?_, hrefs'⟩
      intro invitation hinvitation
      cases hinvitation
    | ok invitation =>
      obtain rfl : after = s.tables := hsame invitation rfl
      obtain ⟨hfollows, hrefs'⟩ := follows_commit_iff hs hrefs
        (s.tables.acceptInvitation call invitation userData)
        (k := s.fleet.linked invitation.companyId invitation.email invitation.role) fun u hu =>
          of_tables (FleetTables.acceptInvitation_relinks (s := s.tables) hrefs.accounts hu)
      refine ⟨hfollows.trans ?_, hrefs'⟩
      rw [linked_iff]
      constructor
      · intro h other hother
        obtain rfl := Except.ok.inj hother
        exact h
      · intro h
        exact h invitation rfl

/-- Two deliveries with one id are one. -/
theorem eq_of_id {db : DeliveryTable} {d d' : Delivery} (hd : d ∈ db.rows) (hd' : d' ∈ db.rows)
    (h : d.id = d'.id) : d = d' := by
  refine Table.eq_of_clash ?_ hd hd' (Or.inl h)
  rintro k l (hid | ⟨hcompany, hsome, href⟩)
  · exact Or.inl hid.symm
  · exact Or.inr ⟨hcompany.symm, href ▸ hsome, href.symm⟩

theorem patchOf_eq_some {dto : UpdateDeliveryDto} {calls : List Deliveries.Call} {d : Delivery}
    {w : PatchWrite} (h : s.patchOf companyId id dto calls = some (d, w)) :
    d ∈ s.deliveries.rows ∧ d.deletedAt = none ∧ w.id = d.id ∧ w.driverId = dto.driverId ∧
      Deliveries.checkDriver s.rows companyId dto.driverId = .ok w.assignedDriverId := by
  unfold patchOf at h
  split at h
  · split at h
    · rename_i found hfound
      split at h
      · rename_i written hupdate
        split_ifs at h
        cases h
        obtain ⟨hmem, -, hlive⟩ := findOne_eq_ok hfound
        obtain ⟨hid, hdriver, hcheck⟩ := update_fields hupdate
        exact ⟨hmem, hlive, hid, hdriver, hcheck⟩
      · cases h
    · cases h
  · cases h

/-- What a PATCH writes to a delivery, by the driver it names. -/
theorem patch_links {dto : UpdateDeliveryDto} {w : PatchWrite} (hdriver : w.driverId = dto.driverId)
    (hcheck : Deliveries.checkDriver s.rows companyId dto.driverId = .ok w.assignedDriverId)
    (d : Delivery) :
    dto.driverId.uuidSafety ≠ .null ∧ (SameLink d (w.apply d) ∨ s.Fits (w.apply d)) ∨
      dto.driverId.uuidSafety = .null ∧ (w.apply d).driverId = none ∧
        (w.apply d).assignedDriverId = d.assignedDriverId := by
  cases hfield : dto.driverId with
  | undefined =>
    rw [hfield] at hdriver hcheck
    have haccount : none = w.assignedDriverId := Except.ok.inj hcheck
    have hsafe : (JsonField.undefined : JsonField String).uuidSafety ≠ .null := by
      intro h
      cases h
    refine Or.inl ⟨hsafe, Or.inl ⟨?_, ?_, fun hlive => hlive⟩⟩
    · simp only [PatchWrite.apply, hdriver, JsonField.uuidSafety, JsonField.set]
    · simp only [PatchWrite.apply, ← haccount, Option.getD_none]
  | null =>
    rw [hfield] at hdriver hcheck
    have haccount : none = w.assignedDriverId := Except.ok.inj hcheck
    refine Or.inr ⟨rfl, ?_, ?_⟩
    · simp only [PatchWrite.apply, hdriver, JsonField.uuidSafety, JsonField.set]
    · simp only [PatchWrite.apply, ← haccount, Option.getD_none]
  | value id =>
    rw [hfield] at hdriver hcheck
    by_cases hid : id = ""
    · rw [Deliveries.checkDriver, if_pos hid] at hcheck
      have haccount : none = w.assignedDriverId := Except.ok.inj hcheck
      refine Or.inr ⟨if_pos hid, ?_, ?_⟩
      · simp only [PatchWrite.apply, hdriver, JsonField.uuidSafety, if_pos hid, JsonField.set]
      · simp only [PatchWrite.apply, ← haccount, Option.getD_none]
    · have hsafe : JsonField.uuidSafety (.value id) = .value id := if_neg hid
      simp only [Deliveries.checkDriver, if_neg hid] at hcheck
      split at hcheck
      · rename_i driver hfound
        have haccount : some driver.userId = w.assignedDriverId := Except.ok.inj hcheck
        have hnull : JsonField.uuidSafety (.value id) ≠ .null := by
          rw [hsafe]
          intro h
          cases h
        refine Or.inl ⟨hnull, Or.inr (fits_driver hfound ?_ ?_)⟩
        · simp only [PatchWrite.apply, hdriver, hsafe, JsonField.set]
        · simp only [PatchWrite.apply, ← haccount, Option.getD_some]
      · cases hcheck

/-- The delivery `found` loses its driver and keeps its account. -/
theorem follows_cleared_iff (hs : s.Follows) (hrefs : s.References) {found : Delivery}
    {w : PatchWrite} (hmem : found ∈ s.deliveries.rows) (hlive : found.deletedAt = none)
    (hcleared : ∀ d, (w.apply d).driverId = none ∧
      (w.apply d).assignedDriverId = d.assignedDriverId) (hfleet : t.fleet = s.fleet)
    (hrows : t.deliveries.rows =
      s.deliveries.rows.map fun d => if d.id == found.id then w.apply d else d) :
    (t.Follows ↔ found.assignedDriverId = none) ∧ t.References := by
  have hself : (if found.id == found.id then w.apply found else found) = w.apply found :=
    if_pos (beq_self_eq_true _)
  refine ⟨⟨?_, ?_⟩, ?_, ?_⟩
  · intro hfollows
    have hcopy := hfollows (w.apply found) (hrows ▸ List.mem_map.mpr ⟨found, hmem, hself⟩) hlive
    rw [(hcleared found).1, (hcleared found).2] at hcopy
    exact hcopy
  · intro hnone d' hd' hlive'
    rw [hrows] at hd'
    obtain ⟨d, hd, rfl⟩ := List.mem_map.mp hd'
    rw [hfleet]
    by_cases hsame : d.id = found.id
    · rw [if_pos (beq_iff_eq.mpr hsame), (hcleared d).1, (hcleared d).2,
        eq_of_id hd hmem hsame, hnone]
      rfl
    · rw [if_neg fun h => hsame (beq_iff_eq.mp h)] at hlive' ⊢
      exact hs d hd hlive'
  · intro d' hd' k hk
    rw [hrows] at hd'
    obtain ⟨d, hd, rfl⟩ := List.mem_map.mp hd'
    rw [hfleet]
    split at hk
    · rw [(hcleared d).1] at hk
      cases hk
    · exact hrefs.drivers d hd k hk
  · rw [hfleet]
    exact hrefs.accounts

theorem follows_update_iff (hs : s.Follows) (hrefs : s.References) (dto : UpdateDeliveryDto)
    (calls : List Deliveries.Call) :
    ((s.perform (.deliveriesServe (.update companyId id dto) calls)).Follows ↔
        s.KeepsCopy (.deliveriesServe (.update companyId id dto) calls)) ∧
      (s.perform (.deliveriesServe (.update companyId id dto) calls)).References := by
  have hrows := rows_serve_update (s := s) companyId id dto calls
  simp only [KeepsCopy]
  cases hpatch : s.patchOf companyId id dto calls with
  | none =>
    rw [hpatch] at hrows
    have hsame : (s.serve (.update companyId id dto) calls).1 = s.deliveries := Table.eq_of_rows hrows
    obtain ⟨hfollows, hrefs'⟩ := follows_of_written hs hrefs
      (t := s.perform (.deliveriesServe (.update companyId id dto) calls)) rfl
      (by simp only [perform, hsame]; exact .refl _)
    exact ⟨iff_of_true hfollows fun _ _ h => (by cases h), hrefs'⟩
  | some patch =>
    obtain ⟨found, w⟩ := patch
    rw [hpatch] at hrows
    dsimp only at hrows
    obtain ⟨hmem, hlive, hid, hdriver, hcheck⟩ := patchOf_eq_some hpatch
    have hlinks := patch_links hdriver hcheck
    rcases hlinks found with ⟨hsafe, -⟩ | ⟨hsafe, -, -⟩
    · -- the driver is kept, or one that is there
      have hwritten : s.Written s.deliveries (s.serve (.update companyId id dto) calls).1 := by
        intro d' hd'
        rw [hrows] at hd'
        obtain ⟨d, hd, rfl⟩ := List.mem_map.mp hd'
        split
        · rcases hlinks d with ⟨-, hlink⟩ | ⟨hnull, -⟩
          · exact hlink.imp (fun hsame => ⟨d, hd, hsame⟩) fun hfits => hfits
          · exact absurd hnull hsafe
        · exact Or.inl ⟨d, hd, rfl, rfl, fun hlive => hlive⟩
      obtain ⟨hfollows, hrefs'⟩ := follows_of_written hs hrefs
        (t := s.perform (.deliveriesServe (.update companyId id dto) calls)) rfl hwritten
      exact ⟨iff_of_true hfollows fun _ _ _ hnull => absurd hnull hsafe, hrefs'⟩
    · -- no driver is left
      have hcleared : ∀ d, (w.apply d).driverId = none ∧
          (w.apply d).assignedDriverId = d.assignedDriverId := by
        intro d
        rcases hlinks d with ⟨hnot, -⟩ | ⟨-, hlink⟩
        · exact absurd hsafe hnot
        · exact hlink
      rw [hid] at hrows
      obtain ⟨hfollows, hrefs'⟩ := follows_cleared_iff hs hrefs hmem hlive hcleared
        (t := s.perform (.deliveriesServe (.update companyId id dto) calls)) rfl hrows
      refine ⟨hfollows.trans ⟨fun hnone d _ hsome _ => ?_, fun h => h found w rfl hsafe⟩, hrefs'⟩
      obtain rfl : found = d := congrArg Prod.fst (Option.some.inj hsome)
      exact hnone

/-- One request keeps the copies right exactly when it meets `KeepsCopy`, and keeps the foreign
keys. -/
theorem follows_step_iff {e : AccessEvent} (hs : s.Follows) (hrefs : s.References)
    (hstep : s.step e = some t) : (t.Follows ↔ s.KeepsCopy e) ∧ t.References := by
  obtain rfl := Option.some.inj hstep
  cases e with
  | deliveriesCreate call companyId dto =>
    have hboth : (s.perform (.deliveriesCreate call companyId dto)).Follows ∧
        (s.perform (.deliveriesCreate call companyId dto)).References := by
      simp only [perform]
      cases hcreate : s.deliveriesCreate call companyId dto with
      | error e => exact ⟨hs, hrefs⟩
      | ok created =>
        obtain ⟨hfleet, hwritten⟩ := deliveriesCreate_written hcreate
        exact follows_of_written hs hrefs hfleet hwritten
    exact ⟨iff_of_true hboth.1 trivial, hboth.2⟩
  | deliveriesServe r calls =>
    by_cases hr : patches (.start r) = true
    · cases r with
      | update companyId id dto => exact follows_update_iff hs hrefs dto calls
      | updateStatus | updateDriverStatus | bulkAction | importDeliveriesFile => cases hr
    · have hboth := follows_of_written hs hrefs
        (t := s.perform (.deliveriesServe r calls)) rfl
        (written_calls calls (s.deliveries, .start r) (Bool.not_eq_true _ ▸ hr))
      refine ⟨iff_of_true hboth.1 ?_, hboth.2⟩
      cases r with
      | update companyId id dto => exact absurd rfl hr
      | updateStatus | updateDriverStatus | bulkAction | importDeliveriesFile => trivial
  | usersCreate call companyId dto =>
    obtain ⟨hfollows, hrefs'⟩ := follows_commit_iff hs hrefs
      (s.tables.usersCreate call companyId dto)
      (k := s.fleet.linked companyId (normalizeEmail dto.email) dto.role) fun u hu =>
        of_tables (FleetTables.usersCreate_relinks (s := s.tables) hrefs.accounts hu)
    refine ⟨hfollows.trans ?_, hrefs'⟩
    rw [linked_iff]
    rfl
  | usersUpdate call companyId id dto currentUserId =>
    obtain ⟨hfollows, hrefs'⟩ := follows_commit_iff hs hrefs
      (s.tables.usersUpdate call companyId id dto currentUserId) (k := none) fun u hu =>
        of_tables (FleetTables.usersUpdate_relinks (s := s.tables) hrefs.accounts hu)
    exact ⟨hfollows.trans (iff_of_true (fun _ driver hk => by cases hk) trivial), hrefs'⟩
  | invitationsAccept call token userData =>
    exact follows_invitationsAccept_iff hs hrefs call token userData
  | googleAccepted now user token =>
    obtain ⟨hfollows, hrefs'⟩ := follows_commit_iff hs hrefs
      (do
        let created ← s.tables.createUser user
        .ok
          { created with
            invitations := created.invitations.update (·.token == token)
              (fun i => { i with status := .accepted, acceptedAt := some now }) fun _ => rfl })
      (k := none) fun u hu => by
        obtain ⟨created, hcreate, hu⟩ := bind_eq_ok.mp hu
        cases hu
        have hgrows := FleetTables.grows_createUser (s := s.tables) hrefs.accounts hcreate
        refine ⟨⟨hgrows.drivers, hgrows.accounts⟩, FleetTables.relinks_of_eq ?_⟩
        exact (FleetTables.users_of_createUser hcreate).1
    exact ⟨hfollows.trans (iff_of_true (fun _ driver hk => by cases hk) trivial), hrefs'⟩

/-! ## Every reachable state -/

/-- The copies are right in every state of a run exactly when every request meets `KeepsCopy`. -/
theorem follows_always_iff {es : List AccessEvent} (hs : s.Follows) (hrefs : s.References)
    (hrun : Run (Steps step) s es t) :
    (∀ es₁ es₂ u, es = es₁ ++ es₂ → Run (Steps step) s es₁ u → u.Follows) ↔
      Run (Guarded (Steps step) KeepsCopy) s es t := by
  refine Run.always_iff_guarded_of (I := Follows) (J := References) (G := KeepsCopy) ?_ ?_ ?_ hrun
    hs hrefs
  · intro s e t t' h h'
    exact Option.some.inj (h.symm.trans h')
  · intro s e t hfollows hkeys hstep
    exact (follows_step_iff hfollows hkeys hstep).2
  · intro s e t hfollows hkeys hstep
    exact (follows_step_iff hfollows hkeys hstep).1

end AccessDb

/-! ### Two drivers -/

/-- A driver with an account and one without, and a delivery of the first. -/
def twoDrivers : AccessDb where
  fleet :=
    { vehicles := .empty
      drivers := ⟨[
          { id := "driver-1", companyId := "company-1", firstName := "Ada", lastName := "Rabe"
            email := some "ada@fleet.test", phone := none, licenseNumber := "L-1"
            userId := some "user-1", vehicleId := none, deletedAt := none },
          { id := "driver-2", companyId := "company-1", firstName := "Jo", lastName := "Rado"
            email := some "jo@fleet.test", phone := none, licenseNumber := "L-2"
            userId := none, vehicleId := none, deletedAt := none }], by decide⟩
      history := .empty
      users := ⟨[
          { id := "user-1", companyId := "company-1", email := "ada@fleet.test", firstName := "Ada"
            lastName := "Rabe", phone := none, role := .driver, isActive := true
            deletedAt := none }], by decide⟩
      invitations := .empty
      deliveries := [] }
  deliveries := ⟨[
      { id := "delivery-1", companyId := "company-1", status := .in_progress, vehicleId := none
        driverId := some "driver-1", assignedDriverId := some "user-1", externalOrderRef := none
        createdAt := 0, completedAt := none, deletedAt := none }], by decide⟩

/-- The copy of every live delivery, as a test. -/
def AccessDb.followsTest (s : AccessDb) : Bool := s.deliveries.rows.all fun d =>
  d.deletedAt.isSome || d.assignedDriverId == d.driverId.bind s.fleet.account

theorem AccessDb.followsTest_iff {s : AccessDb} : s.followsTest = true ↔ s.Follows := by
  simp only [followsTest, List.all_eq_true, Bool.or_eq_true, beq_iff_eq, Follows]
  refine forall₂_congr fun d _ => ?_
  cases d.deletedAt <;> simp

theorem twoDrivers_follows : twoDrivers.Follows :=
  AccessDb.followsTest_iff.mp (by decide +kernel)

theorem twoDrivers_references : twoDrivers.References := by
  constructor
  · intro d hd id hid
    obtain rfl := List.mem_singleton.mp hd
    obtain rfl := Option.some.inj hid
    exact ⟨_, List.mem_cons_self .., rfl⟩
  · intro d hd u hu
    rcases List.mem_cons.mp hd with rfl | hd
    · exact ⟨_, List.mem_cons_self .., Option.some.inj hu⟩
    · obtain rfl := List.mem_singleton.mp hd
      cases hu

/-- The call that patches the driver of the delivery. -/
def patchDriver (driverId : JsonField String) : AccessEvent :=
  .deliveriesServe (.update "company-1" "delivery-1" ⟨.undefined, .undefined, driverId⟩)
    [⟨10, "", true⟩, ⟨11, "", true⟩]

def createJo : AccessEvent :=
  .usersCreate ⟨20, "driver-9", "user-2", "row-1"⟩ "company-1"
    ⟨"jo@fleet.test", "Jo", "Rado", none, .driver, none, none⟩

/-- The delivery goes to the driver without an account, and then to none. -/
theorem follows_always_reassigned : ∃ t,
    Run (Steps AccessDb.step) twoDrivers [patchDriver (.value "driver-2"), patchDriver .null] t ∧
      ∀ es₁ es₂ u, [patchDriver (.value "driver-2"), patchDriver .null] = es₁ ++ es₂ →
        Run (Steps AccessDb.step) twoDrivers es₁ u → u.Follows := by
  have hfirst := AccessDb.follows_step_iff (t := twoDrivers.perform (patchDriver (.value "driver-2")))
    twoDrivers_follows twoDrivers_references rfl
  have hfollows : (twoDrivers.perform (patchDriver (.value "driver-2"))).Follows :=
    AccessDb.followsTest_iff.mp (by decide +kernel)
  have hsecond := AccessDb.follows_step_iff (e := patchDriver .null) hfollows hfirst.2 rfl
  have hrun : Run (Guarded (Steps AccessDb.step) AccessDb.KeepsCopy) twoDrivers
      [patchDriver (.value "driver-2"), patchDriver .null]
      ((twoDrivers.perform (patchDriver (.value "driver-2"))).perform (patchDriver .null)) :=
    .cons ⟨rfl, hfirst.1.mp hfollows⟩ (.single ⟨rfl, hsecond.1.mp
      (AccessDb.followsTest_iff.mp (by decide +kernel))⟩)
  exact ⟨_, hrun.of_guarded, (AccessDb.follows_always_iff twoDrivers_follows twoDrivers_references
    hrun.of_guarded).mpr hrun⟩

/-- The driver who is taken off keeps the delivery; the driver who gets an account does not get the
deliveries that are there. -/
theorem copy_left_behind : twoDrivers.Follows ∧ twoDrivers.References ∧
    (∃ t, Run (Steps AccessDb.step) twoDrivers [patchDriver .null] t ∧ ¬t.Follows) ∧
    ∃ t, Run (Steps AccessDb.step) twoDrivers [patchDriver (.value "driver-2"), createJo] t ∧
      ¬t.Follows := by
  have hfails : ∀ {t : AccessDb}, t.followsTest = false → ¬t.Follows := by
    intro t htest hfollows
    rw [AccessDb.followsTest_iff.mpr hfollows] at htest
    cases htest
  refine ⟨twoDrivers_follows, twoDrivers_references, ⟨_, .single rfl, hfails ?_⟩,
    _, .cons rfl (.single rfl), hfails ?_⟩
  · decide +kernel
  · decide +kernel

end DeliveryTracking.Fleet
