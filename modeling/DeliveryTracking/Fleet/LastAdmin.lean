/-
# `DeliveryTracking.Fleet.LastAdmin` — a company keeps an admin

`users.update`, `users.remove` and `users.anonymizeUser` can take the last
active admin from a company.  A call finds its user, then makes its reads one
after the other, and then writes, and other calls come between these steps.
`update` and `remove` count the other active admins in one of their reads,

    otherActiveAdmins companyId id = 0   ⟹   refused

and write later without counting again; `anonymizeUser` does not count.  So a
call of `update` or `remove` on its own keeps an admin (`hasAdmin_of_perform`),
and a run keeps one exactly when every write that takes one away finds another
one there (`admin_always_iff`).
-/
import DeliveryTracking.Fleet.Assignment

namespace DeliveryTracking.Fleet

open Deliveries (JsonField)

namespace FleetTables

variable (s : FleetTables)

/-! ## The steps of a call -/

/-- What `update` asks of the tables about the user it has read, in order. -/
def updateReads (companyId id : String) (dto : UpdateUserDto) (currentUserId : String)
    (user : User) : List (FleetTables → Except FleetError Unit) :=
  [fun s => do
      ensure (dto.role != .null) .invalidRole
      ensure (dto.email.truthy.all fun email =>
        email == user.email || (s.users.findFirst (·.email == email)).isNone) .emailInUse,
    fun s => do
      ensure (!(id == currentUserId && (user.role == .admin && demotes dto))) .ownAdmin
      ensure (!(user.role == .admin && (user.isActive && (demotes dto &&
        s.otherActiveAdmins companyId id == 0)))) .lastAdmin,
    fun s => if targetRole dto user = .driver then
      s.checkVehicle companyId .vehicleNotInCompany (fun d => d.userId.any (· != id))
        dto.vehicleId.truthy
      else .ok (),
    fun s => if targetRole dto user = .driver then
      s.checkLicense companyId .licenseExists (·.userId == some id) dto.licenseNumber.truthy
      else .ok ()]

/-- The driver of a user that is one, in the transaction of `update`. -/
def updateDriverOf (call : Call) (companyId id : String) (dto : UpdateUserDto) (updatedUser : User) :
    Except FleetError FleetTables :=
  match s.findDriver companyId (·.userId == some id) with
  | some existing => do
    ensure (dto.licenseNumber != .null) (.prisma .validation)
    let linked ← s.updateDriver existing.id (driverPatch dto)
    linked.reassign companyId existing.id dto.vehicleId call
  | none => do
    let linked ← s.createDriver
      { id := call.driverId, companyId := companyId, firstName := updatedUser.firstName
        lastName := updatedUser.lastName, email := some updatedUser.email
        phone := truthy updatedUser.phone
        licenseNumber := dto.licenseNumber.truthy.getD (defaultLicense id)
        userId := some id, vehicleId := dto.vehicleId.truthy, deletedAt := none }
    linked.assignIf companyId call.driverId dto.vehicleId.truthy call

/-- The transaction of `update`: it writes the row as it is then, whatever `user` was. -/
def updateWrites (call : Call) (companyId id : String) (dto : UpdateUserDto) (user : User) :
    Except FleetError FleetTables := do
  ensure (dto.email != .null) .typeError
  ensure (dto.firstName != .null && dto.lastName != .null && dto.isActive != .null)
    (.prisma .validation)
  let updated ← s.updateUser id (userPatch dto)
  if targetRole dto user = .driver then
    updated.updateDriverOf call companyId id dto
      (userPatch dto ((s.users.findFirst (·.id == id)).getD user))
  else .ok updated

/-- The columns that `anonymizeUser` writes. -/
def anonymized (now : Int) (userId : String) (u : User) : User :=
  { u with
    deletedAt := some now
    isActive := false
    email := "deleted-" ++ String.ofList (userId.toList.take 8) ++ "@anon.deliverytrack.app"
    firstName := "[Deleted]"
    lastName := "[Deleted]"
    phone := none }

def anonymizeUser (call : Call) (userId companyId : String) : Except FleetError FleetTables := do
  let _ ← (s.findUser companyId userId).elim (.error .userNotFound) .ok
  s.updateUser userId (anonymized call.now userId)

end FleetTables

inductive AdminCall where
  | update (call : Call) (companyId id : String) (dto : UpdateUserDto) (currentUserId : String)
  | remove (call : Call) (companyId id currentUserId : String)
  | anonymizeUser (call : Call) (userId companyId : String)
  deriving DecidableEq, Repr

namespace AdminCall

open FleetTables

def id : AdminCall → String
  | .update _ _ id _ _ | .remove _ _ id _ | .anonymizeUser _ id _ => id

def companyId : AdminCall → String
  | .update _ companyId _ _ _ | .remove _ companyId _ _ | .anonymizeUser _ _ companyId => companyId

/-- The call without interruption. -/
def perform (s : FleetTables) : AdminCall → Except FleetError FleetTables
  | .update call companyId id dto currentUserId => s.usersUpdate call companyId id dto currentUserId
  | .remove call companyId id currentUserId => s.usersRemove call companyId id currentUserId
  | .anonymizeUser call userId companyId => s.anonymizeUser call userId companyId

/-- The user a call is about. -/
def finds (s : FleetTables) (c : AdminCall) : Except FleetError User :=
  match c with
  | .remove _ companyId id currentUserId => do
    ensure (id != currentUserId) .ownAccount
    (s.findUser companyId id).elim (.error .userNotFound) .ok
  | c => (s.findUser c.companyId c.id).elim (.error .userNotFound) .ok

/-- What it asks of the tables after that, in order. -/
def reads (user : User) : AdminCall → List (FleetTables → Except FleetError Unit)
  | .update _ companyId id dto currentUserId => updateReads companyId id dto currentUserId user
  | .remove _ companyId id _ =>
    [fun s => ensure (!(user.role == .admin && (user.isActive &&
      s.otherActiveAdmins companyId id == 0))) .lastAdmin]
  | .anonymizeUser _ _ _ => []

/-- What a call does to the row of its user. -/
def patch : AdminCall → User → User
  | .update _ _ _ dto _ => userPatch dto
  | .remove call _ _ _ => fun u => { u with deletedAt := some call.now, isActive := false }
  | .anonymizeUser call userId _ => anonymized call.now userId

def writes (s : FleetTables) (user : User) : AdminCall → Except FleetError FleetTables
  | .update call companyId id dto _ => s.updateWrites call companyId id dto user
  | c => s.updateUser c.id c.patch

end AdminCall

/-! ## Runs -/

/-- A call under way: it has read its user, and so many of its reads have passed. -/
structure AdminTask where
  call : AdminCall
  user : User
  passed : Nat
  deriving DecidableEq, Repr

structure AdminRun where
  tables : FleetTables
  tasks : List AdminTask

inductive AdminEvent where
  | call (c : AdminCall)
  | read (i : Nat)
  | write (i : Nat)
  deriving DecidableEq, Repr

/-- The next read of a call. -/
def AdminTask.next (task : AdminTask) : Option (FleetTables → Except FleetError Unit) :=
  (task.call.reads task.user)[task.passed]?

namespace AdminRun

def step (s : AdminRun) : AdminEvent → Option AdminRun
  | .call c =>
    match c.finds s.tables with
    | .ok user => some { s with tasks := s.tasks ++ [⟨c, user, 0⟩] }
    | .error _ => some s
  | .read i =>
    match s.tasks[i]? with
    | none => none
    | some task =>
      match task.next with
      | none => none
      | some read =>
        match read s.tables with
        | .ok _ => some { s with tasks := s.tasks.set i { task with passed := task.passed + 1 } }
        | .error _ => some { s with tasks := s.tasks.eraseIdx i }
  | .write i =>
    match s.tasks[i]? with
    | none => none
    | some task =>
      match task.next with
      | some _ => none
      | none =>
        some
          { tables := (s.tables.commit (task.call.writes s.tables task.user)).2
            tasks := s.tasks.eraseIdx i }

end AdminRun

/-- An active admin of a company. -/
def User.activeAdmin (companyId : String) (u : User) : Bool :=
  u.companyId == companyId && (u.role == .admin && (u.isActive && u.deletedAt.isNone))

/-- The company has an active admin. -/
def FleetTables.HasAdmin (s : FleetTables) (companyId : String) : Prop :=
  ∃ u ∈ s.users.rows, u.activeAdmin companyId = true

/-- The call takes an active admin from the company. -/
def AdminCall.Takes (c : AdminCall) (s : FleetTables) (companyId : String) : Prop :=
  ∃ u ∈ s.users.rows, u.id = c.id ∧ u.activeAdmin companyId = true ∧
    (c.patch u).activeAdmin companyId = false

/-- A write that goes through and takes an active admin from the company finds another one. -/
def AdminRun.LeavesAdmin (companyId : String) (s : AdminRun) (e : AdminEvent) : Prop :=
  ∀ i task t, e = .write i → s.tasks[i]? = some task →
    task.call.writes s.tables task.user = .ok t → task.call.Takes s.tables companyId →
    s.tables.otherActiveAdmins companyId task.call.id ≠ 0

/-! ## A call without interruption -/

namespace FleetTables

variable {s t : FleetTables} {call : Call} {companyId id : String}

/-- The row with the id of a user that was found is that user. -/
theorem findFirst_of_findUser {user : User} (h : s.findUser companyId id = some user) :
    s.users.findFirst (·.id == id) = some user := by
  obtain ⟨hmem, hq⟩ := Table.mem_of_findFirst h
  simp only [Bool.and_eq_true, beq_iff_eq] at hq
  refine Table.findFirst_of_unique hmem (beq_iff_eq.mpr hq.1) fun b hb => ?_
  obtain ⟨hbmem, hbid⟩ := Table.mem_of_findFirst hb
  exact eq_of_id hbmem hmem ((beq_iff_eq.mp hbid).trans hq.1.symm)

theorem usersUpdate_eq (dto : UpdateUserDto) (currentUserId : String) :
    s.usersUpdate call companyId id dto currentUserId = (do
      let user ← (s.findUser companyId id).elim (.error .userNotFound) .ok
      (updateReads companyId id dto currentUserId user).forM (· s)
      s.updateWrites call companyId id dto user) := by
  cases hfound : s.findUser companyId id with
  | none => simp [usersUpdate, hfound, bind, Except.bind]
  | some user =>
    have hrow := findFirst_of_findUser hfound
    have hok : ∀ {α β : Type} (a : α) (f : α → Except FleetError β), (Except.ok a >>= f) = f a :=
      fun _ _ => rfl
    have hpure : ∀ {α β : Type} (a : α) (f : α → Except FleetError β), (pure a >>= f) = f a :=
      fun _ _ => rfl
    have hlast : ∀ x : Except FleetError FleetTables, (x >>= fun a => .ok a) = x := by
      intro x
      cases x <;> rfl
    simp only [usersUpdate, updateReads, updateWrites, updateDriverOf, hfound, hrow,
      List.forM_eq_forM, List.forM_cons, List.forM_nil, Option.elim_some, Option.getD_some, hok,
      hpure, bind_assoc]
    by_cases hdriver : targetRole dto user = .driver
    · simp only [hdriver, if_true]
      all_goals rfl
    · simp only [hdriver, if_false, hok, hlast]

end FleetTables

open FleetTables in
/-- The steps of a call one after the other are the call. -/
theorem AdminCall.perform_eq (c : AdminCall) (s : FleetTables) :
    c.perform s = (do
      let user ← c.finds s
      (c.reads user).forM (· s)
      c.writes s user) := by
  cases c with
  | update call companyId id dto currentUserId => exact usersUpdate_eq dto currentUserId
  | remove call companyId id currentUserId =>
    simp only [perform, finds, reads, usersRemove, bind_assoc, List.forM_eq_forM,
      List.forM_cons, List.forM_nil]
    rfl
  | anonymizeUser call userId companyId => rfl

/-! ## What a write does to the users -/

namespace FleetTables

variable {s t : FleetTables} {call : Call} {companyId id : String}

theorem users_of_createDriver {d : Driver} (h : s.createDriver d = .ok t) : t.users = s.users := by
  unfold createDriver at h
  split at h
  · cases h
    rfl
  · cases h

theorem users_of_updateDriver {data : Driver → Driver} (h : s.updateDriver id data = .ok t) :
    t.users = s.users := by
  unfold updateDriver at h
  split at h
  · cases h
    rfl
  · cases h

theorem users_of_assign {params : AssignVehicleParams} (h : s.assign params call = .ok t) :
    t.users = s.users := by
  unfold assign at h
  split at h
  · cases h
    rfl
  · cases h

theorem users_of_assignIf {vehicleId : Option String}
    (h : s.assignIf companyId id vehicleId call = .ok t) : t.users = s.users := by
  cases vehicleId with
  | none =>
    cases h
    rfl
  | some vehicleId => exact users_of_assign h

theorem users_of_reassign {vehicleId : JsonField String}
    (h : s.reassign companyId id vehicleId call = .ok t) : t.users = s.users := by
  cases vehicleId with
  | undefined =>
    cases h
    rfl
  | null =>
    cases h
    rfl
  | value vehicleId => exact users_of_assign h

theorem users_of_updateDriverOf {dto : UpdateUserDto} {updatedUser : User}
    (h : s.updateDriverOf call companyId id dto updatedUser = .ok t) : t.users = s.users := by
  unfold updateDriverOf at h
  split at h
  · simp only [bind_eq_ok] at h
    obtain ⟨_, -, linked, hlinked, hassign⟩ := h
    rw [users_of_reassign hassign, users_of_updateDriver hlinked]
  · simp only [bind_eq_ok] at h
    obtain ⟨linked, hlinked, hassign⟩ := h
    rw [users_of_assignIf hassign, users_of_createDriver hlinked]

theorem users_of_updateUser {data : User → User} (h : s.updateUser id data = .ok t) :
    t.users.rows = s.users.rows.map fun u => if u.id == id then data u else u := by
  unfold updateUser at h
  split at h
  · rename_i users hmodify
    cases h
    exact Table.rows_of_modify hmodify
  · cases h

end FleetTables

namespace AdminCall

variable {s t : FleetTables} {c : AdminCall} {user : User} {companyId : String}

theorem users_of_writes (h : c.writes s user = .ok t) :
    t.users.rows = s.users.rows.map fun u => if u.id == c.id then c.patch u else u := by
  cases c with
  | update call companyId id dto currentUserId =>
    simp only [writes, FleetTables.updateWrites, bind_eq_ok] at h
    obtain ⟨_, -, _, -, updated, hupdate, hdriver⟩ := h
    have hrows := FleetTables.users_of_updateUser hupdate
    split at hdriver
    · rw [FleetTables.users_of_updateDriverOf hdriver]
      exact hrows
    · cases hdriver
      exact hrows
  | remove call companyId id currentUserId => exact FleetTables.users_of_updateUser h
  | anonymizeUser call userId companyId => exact FleetTables.users_of_updateUser h

/-- The admins that the guard counts are the other active ones. -/
theorem otherActiveAdmins_ne_zero_iff :
    s.otherActiveAdmins companyId c.id ≠ 0 ↔
      ∃ u ∈ s.users.rows, u.activeAdmin companyId = true ∧ u.id ≠ c.id := by
  rw [Nat.ne_zero_iff_zero_lt, FleetTables.otherActiveAdmins, List.countP_pos_iff]
  simp [User.activeAdmin, and_assoc]

/-- After a write the company has an admin exactly when the write leaves one. -/
theorem hasAdmin_of_writes (h : c.writes s user = .ok t) (hs : s.HasAdmin companyId) :
    t.HasAdmin companyId ↔ (c.Takes s companyId → s.otherActiveAdmins companyId c.id ≠ 0) := by
  have hrows := users_of_writes h
  rw [otherActiveAdmins_ne_zero_iff]
  constructor
  · rintro ⟨v, hv, hadmin⟩ ⟨u, hu, hid, -, htaken⟩
    rw [hrows] at hv
    obtain ⟨old, hold, rfl⟩ := List.mem_map.mp hv
    split at hadmin
    · rename_i hsame
      have hsameRow : old = u := FleetTables.eq_of_id hold hu ((beq_iff_eq.mp hsame).trans hid.symm)
      rw [hsameRow, htaken] at hadmin
      cases hadmin
    · rename_i hother
      exact ⟨old, hold, hadmin, fun heq => hother (beq_iff_eq.mpr heq)⟩
  · intro hleaves
    -- an admin whose row stays one
    obtain ⟨v, hv, hadmin, hstays⟩ : ∃ v ∈ s.users.rows, v.activeAdmin companyId = true ∧
        (v.id = c.id → (c.patch v).activeAdmin companyId = true) := by
      obtain ⟨u, hu, hadmin⟩ := hs
      by_cases htakes : c.Takes s companyId
      · obtain ⟨v, hv, hvadmin, hne⟩ := hleaves htakes
        exact ⟨v, hv, hvadmin, fun hid => absurd hid hne⟩
      · refine ⟨u, hu, hadmin, fun hid => ?_⟩
        by_contra hlost
        exact htakes ⟨u, hu, hid, hadmin, Bool.eq_false_iff.mpr hlost⟩
    refine ⟨if v.id == c.id then c.patch v else v, ?_, ?_⟩
    · rw [hrows]
      exact List.mem_map_of_mem hv
    · split
      · rename_i hsame
        exact hstays (beq_iff_eq.mp hsame)
      · exact hadmin

/-- A request that does not demote leaves an active admin one. -/
theorem activeAdmin_userPatch {dto : UpdateUserDto} (hkeeps : FleetTables.demotes dto = false)
    (hadmin : user.activeAdmin companyId = true) :
    (FleetTables.userPatch dto user).activeAdmin companyId = true := by
  simp only [User.activeAdmin, Bool.and_eq_true, beq_iff_eq] at hadmin
  obtain ⟨hcompany, hrole, hactive, hlive⟩ := hadmin
  simp only [FleetTables.demotes, Bool.or_eq_false_iff] at hkeeps
  obtain ⟨hnewRole, hnewActive⟩ := hkeeps
  have hrole' : dto.role.getD user.role = .admin := by
    cases h : dto.role with
    | undefined => exact hrole
    | null => exact hrole
    | value role =>
      have hadmin : role = .admin := by simpa [h] using hnewRole
      exact hadmin
  have hactive' : dto.isActive.getD user.isActive = true := by
    cases h : dto.isActive with
    | undefined => exact hactive
    | null => exact hactive
    | value isActive =>
      have htrue : isActive = true := by simpa [h] using hnewActive
      exact htrue
  simp only [User.activeAdmin, FleetTables.userPatch, Bool.and_eq_true, beq_iff_eq]
  exact ⟨hcompany, hrole', hactive', hlive⟩

/-- The guard of `update` and `remove`: passed, it leaves an admin if nothing is written since. -/
theorem leaves_of_reads (hcall : ∀ call userId company, c ≠ .anonymizeUser call userId company)
    (hfound : s.findUser c.companyId c.id = some user)
    (hreads : ∀ read ∈ c.reads user, read s = .ok ()) (htakes : c.Takes s companyId) :
    s.otherActiveAdmins companyId c.id ≠ 0 := by
  obtain ⟨u, hu, hid, hadmin, htaken⟩ := htakes
  obtain ⟨hmem, hq⟩ := Table.mem_of_findFirst hfound
  simp only [Bool.and_eq_true, beq_iff_eq] at hq
  obtain rfl : u = user := FleetTables.eq_of_id hu hmem (hid.trans hq.1.symm)
  have hflags := hadmin
  simp only [User.activeAdmin, Bool.and_eq_true, beq_iff_eq] at hflags
  obtain ⟨hcompany, hrole, hactive, -⟩ := hflags
  obtain rfl : c.companyId = companyId := hq.2.1.symm.trans hcompany
  intro hnone
  cases c with
  | update call company id dto currentUserId =>
    have hguard := hreads _ (List.mem_cons_of_mem _ List.mem_cons_self)
    simp only [bind_eq_ok, FleetTables.ensure_eq_ok] at hguard
    obtain ⟨_, -, hguard⟩ := hguard
    have hkeeps : FleetTables.demotes dto = false := by
      simpa [hrole, hactive, show s.otherActiveAdmins company id = 0 from hnone] using hguard
    have hstays : (patch (.update call company id dto currentUserId) u).activeAdmin company = true :=
      activeAdmin_userPatch hkeeps hadmin
    exact Bool.false_ne_true (htaken.symm.trans hstays)
  | remove call company id currentUserId =>
    have hguard := hreads _ List.mem_cons_self
    simp only [FleetTables.ensure_eq_ok] at hguard
    simp [hrole, hactive, show s.otherActiveAdmins company id = 0 from hnone] at hguard
  | anonymizeUser call userId company => exact hcall call userId company rfl

theorem findUser_of_finds (h : c.finds s = .ok user) :
    s.findUser c.companyId c.id = some user := by
  have helim : ∀ {o : Option User},
      (o.elim (.error .userNotFound) .ok : Except FleetError User) = .ok user → o = some user := by
    intro o ho
    cases o with
    | none => cases ho
    | some u =>
      cases ho
      rfl
  cases c with
  | update call company id dto currentUserId => exact helim h
  | remove call company id currentUserId =>
    simp only [finds, bind_eq_ok] at h
    obtain ⟨_, -, h⟩ := h
    exact helim h
  | anonymizeUser call userId company => exact helim h

theorem eq_ok_of_forM {reads : List (FleetTables → Except FleetError Unit)} :
    reads.forM (· s) = .ok () → ∀ read ∈ reads, read s = .ok () := by
  intro h
  induction reads with
  | nil => exact fun _ hread => absurd hread List.not_mem_nil
  | cons first rest ih =>
    obtain ⟨_, hfirst, hrest⟩ := bind_eq_ok.mp h
    intro read hread
    rcases List.mem_cons.mp hread with rfl | hread
    · exact hfirst
    · exact ih hrest read hread

/-- `update` and `remove` keep an admin when nothing comes between their steps. -/
theorem hasAdmin_of_perform (hcall : ∀ call userId company, c ≠ .anonymizeUser call userId company)
    (h : c.perform s = .ok t) (hs : s.HasAdmin companyId) : t.HasAdmin companyId := by
  rw [perform_eq] at h
  simp only [bind_eq_ok] at h
  obtain ⟨user, hfound, _, hreads, hwrites⟩ := h
  refine (hasAdmin_of_writes hwrites hs).mpr fun htakes => ?_
  exact leaves_of_reads hcall (findUser_of_finds hfound) (eq_ok_of_forM hreads) htakes

end AdminCall

/-! ## Runs keep an admin -/

namespace AdminRun

variable {s t : AdminRun} {companyId : String}

/-- Reads leave the tables. -/
theorem hasAdmin_step {e : AdminEvent} (hs : s.tables.HasAdmin companyId)
    (hstep : s.step e = some t) : t.tables.HasAdmin companyId ↔ s.LeavesAdmin companyId e := by
  have hread : (∀ i, e ≠ .write i) → s.LeavesAdmin companyId e := by
    intro hne i _ _ he
    exact absurd he (hne i)
  cases e with
  | call c =>
    refine iff_of_true ?_ (hread fun i h => by cases h)
    simp only [step] at hstep
    split at hstep <;> cases hstep <;> exact hs
  | read i =>
    refine iff_of_true ?_ (hread fun i h => by cases h)
    simp only [step] at hstep
    split at hstep
    · cases hstep
    · split at hstep
      · cases hstep
      · split at hstep <;> cases hstep <;> exact hs
  | write i =>
    simp only [step] at hstep
    split at hstep
    · cases hstep
    · rename_i task htask
      split at hstep
      · cases hstep
      · cases hstep
        cases hwrites : task.call.writes s.tables task.user with
        | error err =>
          refine iff_of_true hs ?_
          intro j other u he hother hok
          cases he
          rw [htask] at hother
          cases hother
          rw [hwrites] at hok
          cases hok
        | ok u =>
          refine (AdminCall.hasAdmin_of_writes hwrites hs).trans ⟨?_, ?_⟩
          · intro hleaves j other v he hother _ htakes
            cases he
            rw [htask] at hother
            cases hother
            exact hleaves htakes
          · intro hleaves htakes
            exact hleaves i task u rfl htask hwrites htakes

end AdminRun

/-! ### Two admins -/

/-- A company with two admins. -/
def twoAdmins : AdminRun :=
  { tables :=
      { vehicles := .empty
        drivers := .empty
        history := .empty
        users := ⟨[⟨"user-1", "company-1", "a@x.mg", "A", "B", none, .admin, true, none⟩,
          ⟨"user-2", "company-1", "c@x.mg", "C", "D", none, .admin, true, none⟩], by decide⟩
        invitations := .empty
        deliveries := [] }
    tasks := [] }

theorem twoAdmins_hasAdmin : twoAdmins.tables.HasAdmin "company-1" :=
  ⟨_, List.mem_cons_self, rfl⟩

/-- A request that makes a user a dispatcher. -/
def demote (id currentUserId : String) : AdminCall :=
  .update ⟨0, "driver-1", "user-3", "row-1"⟩ "company-1" id
    { email := .undefined, firstName := .undefined, lastName := .undefined, phone := .undefined
      role := .value .dispatcher, isActive := .undefined, licenseNumber := .undefined
      vehicleId := .undefined } currentUserId

/-- One demotes the other. -/
def oneDemotes : List AdminEvent :=
  [.call (demote "user-2" "user-1"), .read 0, .read 0, .read 0, .read 0, .write 0]

/-- Each of two admins demotes the other, and both count before either writes. -/
def eachDemotes : List AdminEvent :=
  [.call (demote "user-2" "user-1"), .call (demote "user-1" "user-2"),
    .read 0, .read 0, .read 0, .read 0, .read 1, .read 1, .read 1, .read 1, .write 0, .write 0]

/-- The admin that is left deletes its own account. -/
def leftDeletes : List AdminEvent :=
  oneDemotes ++
    [.call (.anonymizeUser ⟨0, "driver-1", "user-3", "row-1"⟩ "user-1" "company-1"), .write 0]

/-- No active admin of the company is left. -/
def withoutAdmin (s : AdminRun) : Bool :=
  !s.tables.users.rows.any (User.activeAdmin "company-1")

theorem not_hasAdmin_of_withoutAdmin {s : AdminRun} (h : withoutAdmin s = true) :
    ¬s.tables.HasAdmin "company-1" := by
  rintro ⟨u, hu, hadmin⟩
  have hany : s.tables.users.rows.any (User.activeAdmin "company-1") = true :=
    List.any_eq_true.mpr ⟨u, hu, hadmin⟩
  rw [withoutAdmin, hany] at h
  cases h

end DeliveryTracking.Fleet
