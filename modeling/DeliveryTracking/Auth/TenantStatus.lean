/-
# `DeliveryTracking.Auth.TenantStatus` — a tenant suspended and reactivated

`toggleTenantStatus` writes two columns that bear one name: `deletedAt` of the
company, and `deletedAt` of its users.

    suspend      company: now     its users without a date: now
    reactivate   company: null    its users: as they are

`login` reads the column of the user.  So two toggles, in whichever order, take
from `login` the users of the company that it accepted, and nobody else
(`accepts_toggledTwice_iff`).
-/
import DeliveryTracking.Auth.ShutOut

namespace DeliveryTracking.Auth

variable {Hash : Type}

/-! ## `toggleTenantStatus` -/

/-- A row of `platform_audit_logs`, of the action `tenant_toggle`. -/
structure TenantToggleLog where
  adminId : String
  targetCompanyId : String
  activated : Bool
  ip : Option String
  deriving DecidableEq, Repr

structure TenantDb (Hash : Type) where
  store : Store Hash
  /-- The ids of the companies. -/
  companies : List String
  auditLog : List TenantToggleLog

inductive TenantError where
  | tenantNotFound
  deriving DecidableEq, Repr

def TenantError.message : TenantError → String
  | .tenantNotFound => "Tenant not found"

/-- Who toggles, from where and when. -/
structure ToggleCall where
  adminId : String
  ip : Option String
  now : Int
  deriving DecidableEq, Repr

/-- Give the users of a company without a date one. -/
def Store.deleteUsers (s : Store Hash) (companyId : String) (now : Int) : Store Hash :=
  { s with fleet := { s.fleet with
      users := s.fleet.users.update (fun u => u.companyId == companyId && u.deletedAt.isNone)
        (fun u => { u with deletedAt := some now }) fun _ => rfl } }

def Store.setCompanyDeletedAt (s : Store Hash) (companyId : String) (date : Option Int) :
    Store Hash :=
  { s with companyDeletedAt := Function.update s.companyDeletedAt companyId date }

namespace TenantDb

variable (db : TenantDb Hash) (companyId : String) (call : ToggleCall)

def toggleTenantStatus : Except TenantError Bool × TenantDb Hash :=
  if companyId ∉ db.companies then (.error .tenantNotFound, db)
  else
    let isCurrentlyDeleted := (db.store.companyDeletedAt companyId).isSome
    let store := db.store.setCompanyDeletedAt companyId
      (if isCurrentlyDeleted then none else some call.now)
    let store := if isCurrentlyDeleted then store else store.deleteUsers companyId call.now
    (.ok isCurrentlyDeleted,
      { db with
        store := store
        auditLog := db.auditLog ++ [⟨call.adminId, companyId, isCurrentlyDeleted, call.ip⟩] })

/-- Two toggles with nothing between. -/
def toggledTwice (call' : ToggleCall) : TenantDb Hash :=
  ((db.toggleTenantStatus companyId call).2.toggleTenantStatus companyId call').2

end TenantDb

/-! ## Who `login` accepts -/

namespace Store

variable {s : Store Hash} {lib : Libraries} {lockouts : Lockouts} {email password : String}
  {user : Fleet.User} {companyId : String} {now : Int}

/-- `login` accepts the user with some address and password. -/
def Accepts (lib : Libraries) (lockouts : Lockouts) (s : Store Hash) (userId : String) : Prop :=
  ∃ email password user, s.loginCheck lib lockouts email password = .ok user ∧ user.id = userId

/-- A live row is found by its address. -/
theorem findFirst_email_iff :
    s.fleet.users.findFirst (fun u => u.email == email && u.deletedAt.isNone) = some user ↔
      user ∈ s.fleet.users.rows ∧ user.email = email ∧ user.deletedAt = none := by
  constructor
  · intro h
    obtain ⟨hmem, hq⟩ := Table.mem_of_findFirst h
    rw [Bool.and_eq_true, beq_iff_eq, Option.isNone_iff_eq_none] at hq
    exact ⟨hmem, hq⟩
  · rintro ⟨hmem, rfl, hlive⟩
    refine Table.findFirst_of_unique hmem (by simp [hlive]) fun b hb => ?_
    obtain ⟨hb, hq⟩ := Table.mem_of_findFirst hb
    rw [Bool.and_eq_true, beq_iff_eq] at hq
    exact Table.eq_of_clash (fun _ _ h => h.imp Eq.symm Eq.symm) hb hmem (Or.inr hq.1)

/-- What the password is compared with. -/
def comparedHash (s : Store Hash) (lib : Libraries) (user : Fleet.User) : String :=
  (truthy (some (s.credentials user.id).passwordHash)).getD lib.dummyHash

theorem loginCheck_eq_ok_iff :
    s.loginCheck lib lockouts email password = .ok user ↔
      lockouts.login (Fleet.normalizeEmail email) = false ∧
        (user ∈ s.fleet.users.rows ∧ user.email = Fleet.normalizeEmail email ∧
          user.deletedAt = none) ∧
        user.isActive = true ∧ lib.compare password (s.comparedHash lib user) = true := by
  simp only [loginCheck, bind_eq_ok, require_eq_ok, Bool.not_eq_true', ← findFirst_email_iff]
  constructor
  · rintro ⟨_, hlock, h⟩
    refine ⟨hlock, ?_⟩
    split at h
    · cases h
    · rename_i found hfound
      simp only [bind_eq_ok, require_eq_ok, Bool.and_eq_true] at h
      obtain ⟨_, hcheck, h⟩ := h
      cases h
      exact ⟨hfound, hcheck⟩
  · rintro ⟨hlock, hfound, hcheck⟩
    refine ⟨(), hlock, ?_⟩
    simp only [hfound, bind_eq_ok, require_eq_ok, Bool.and_eq_true]
    exact ⟨(), hcheck, trivial⟩

/-- The live users after a deletion are those of other companies. -/
theorem live_deleteUsers_iff :
    (user ∈ (s.deleteUsers companyId now).fleet.users.rows ∧ user.deletedAt = none) ↔
      (user ∈ s.fleet.users.rows ∧ user.deletedAt = none) ∧ user.companyId ≠ companyId := by
  constructor
  · rintro ⟨hmem, hlive⟩
    obtain ⟨u, hu, rfl⟩ := List.mem_map.mp hmem
    split at hlive
    · cases hlive
    · rename_i hkept
      rw [if_neg hkept]
      refine ⟨⟨hu, hlive⟩, ?_⟩
      rintro rfl
      simp [hlive] at hkept
  · rintro ⟨⟨hmem, hlive⟩, hother⟩
    refine ⟨List.mem_map.mpr ⟨user, hmem, ?_⟩, hlive⟩
    rw [if_neg (by simp [hother])]

theorem loginCheck_deleteUsers_iff :
    (s.deleteUsers companyId now).loginCheck lib lockouts email password = .ok user ↔
      s.loginCheck lib lockouts email password = .ok user ∧ user.companyId ≠ companyId := by
  have hlive : (user ∈ (s.deleteUsers companyId now).fleet.users.rows ∧ user.deletedAt = none) ↔
      _ := live_deleteUsers_iff
  have hhash : (s.deleteUsers companyId now).comparedHash lib user = s.comparedHash lib user := rfl
  rw [loginCheck_eq_ok_iff, loginCheck_eq_ok_iff, hhash]
  tauto

/-- `login` does not read the company. -/
theorem loginCheck_setCompanyDeletedAt (date : Option Int) :
    (s.setCompanyDeletedAt companyId date).loginCheck lib lockouts email password =
      s.loginCheck lib lockouts email password := rfl

end Store

/-! ## Two toggles -/

namespace TenantDb

variable {db : TenantDb Hash} {lib : Libraries} {lockouts : Lockouts} {companyId : String}
  {call call' : ToggleCall} {user : Fleet.User} {email password : String}

theorem toggledTwice_of_not_mem (h : companyId ∉ db.companies) :
    db.toggledTwice companyId call call' = db := by
  have hfirst : db.toggleTenantStatus companyId call = (.error .tenantNotFound, db) := if_pos h
  rw [toggledTwice, hfirst]
  exact congrArg Prod.snd (if_pos h)

/-- In either order the users of the company are deleted once. -/
theorem loginCheck_toggledTwice_iff (h : companyId ∈ db.companies) :
    (db.toggledTwice companyId call call').store.loginCheck lib lockouts email password = .ok user ↔
      db.store.loginCheck lib lockouts email password = .ok user ∧ user.companyId ≠ companyId := by
  have hnot : ¬companyId ∉ db.companies := not_not.mpr h
  unfold toggledTwice toggleTenantStatus
  rw [if_neg hnot, if_neg hnot]
  cases hdate : db.store.companyDeletedAt companyId with
  | none =>
    -- suspended, then reactivated
    have hagain : ((db.store.setCompanyDeletedAt companyId (some call.now)).deleteUsers companyId
        call.now).companyDeletedAt companyId = some call.now := Function.update_self ..
    simp only [Option.isSome_none, Bool.false_eq_true, if_false, hagain, Option.isSome_some, if_true]
    rw [Store.loginCheck_setCompanyDeletedAt, Store.loginCheck_deleteUsers_iff,
      Store.loginCheck_setCompanyDeletedAt]
  | some date =>
    -- reactivated, then suspended
    have hagain : (db.store.setCompanyDeletedAt companyId none).companyDeletedAt companyId = none :=
      Function.update_self ..
    simp only [Option.isSome_some, if_true, hagain, Option.isSome_none, Bool.false_eq_true, if_false]
    rw [Store.loginCheck_deleteUsers_iff, Store.loginCheck_setCompanyDeletedAt,
      Store.loginCheck_setCompanyDeletedAt]

/-- `login` accepts after two toggles whom it accepted, but for the users of the company. -/
theorem accepts_toggledTwice_iff (h : companyId ∈ db.companies) (userId : String) :
    (db.toggledTwice companyId call call').store.Accepts lib lockouts userId ↔
      db.store.Accepts lib lockouts userId ∧
        ∀ u ∈ db.store.fleet.users.rows, u.id = userId → u.companyId ≠ companyId := by
  constructor
  · rintro ⟨email, password, user, hlogin, rfl⟩
    obtain ⟨hbefore, hother⟩ := (loginCheck_toggledTwice_iff h).mp hlogin
    refine ⟨⟨email, password, user, hbefore, rfl⟩, fun u hu hid => ?_⟩
    have hmem := (Store.loginCheck_eq_ok_iff.mp hbefore).2.1.1
    rwa [Fleet.FleetTables.eq_of_id hu hmem hid]
  · rintro ⟨⟨email, password, user, hbefore, rfl⟩, hother⟩
    have hmem := (Store.loginCheck_eq_ok_iff.mp hbefore).2.1.1
    exact ⟨email, password, user, (loginCheck_toggledTwice_iff h).mpr ⟨hbefore, hother user hmem rfl⟩,
      rfl⟩

/-- A deleted user is not accepted. -/
theorem not_accepts_of_deleted {u : Fleet.User} (hu : u ∈ db.store.fleet.users.rows)
    (hdeleted : u.deletedAt.isSome = true) : ¬db.store.Accepts lib lockouts u.id := by
  rintro ⟨email, password, user, hlogin, hid⟩
  obtain ⟨hmem, -, hlive⟩ := (Store.loginCheck_eq_ok_iff.mp hlogin).2.1
  rw [Fleet.FleetTables.eq_of_id hu hmem hid.symm, hlive] at hdeleted
  cases hdeleted

/-- Two toggles restore the users that `login` accepts, and bring back no deleted one, exactly when
`login` accepted no user of the company, or there is no such company. -/
theorem toggledTwice_restores_iff (db : TenantDb Hash) (lib : Libraries) (lockouts : Lockouts)
    (companyId : String) (call call' : ToggleCall) :
    ((∀ userId, (db.toggledTwice companyId call call').store.Accepts lib lockouts userId ↔
        db.store.Accepts lib lockouts userId) ∧
      ∀ u ∈ db.store.fleet.users.rows, u.deletedAt.isSome = true →
        ¬(db.toggledTwice companyId call call').store.Accepts lib lockouts u.id) ↔
      (companyId ∈ db.companies → ∀ u ∈ db.store.fleet.users.rows, u.companyId = companyId →
        ¬db.store.Accepts lib lockouts u.id) := by
  constructor
  · rintro ⟨hsame, -⟩ hmem u hu hcompany haccepts
    have hafter := (accepts_toggledTwice_iff hmem u.id).mp ((hsame u.id).mpr haccepts)
    exact hafter.2 u hu rfl hcompany
  · intro hnone
    by_cases hmem : companyId ∈ db.companies
    · have hsame : ∀ userId, (db.toggledTwice companyId call call').store.Accepts lib lockouts userId ↔
          db.store.Accepts lib lockouts userId := by
        intro userId
        rw [accepts_toggledTwice_iff hmem]
        refine ⟨And.left, fun haccepts => ⟨haccepts, ?_⟩⟩
        rintro u hu rfl hcompany
        exact hnone hmem u hu hcompany haccepts
      refine ⟨hsame, fun u hu hdeleted => ?_⟩
      rw [hsame]
      exact not_accepts_of_deleted hu hdeleted
    · rw [toggledTwice_of_not_mem hmem]
      exact ⟨fun _ => Iff.rfl, fun u hu hdeleted => not_accepts_of_deleted hu hdeleted⟩

/-- A company with one user, who can log in. -/
def oneUser : TenantDb (List UInt8) :=
  { store := standingStore _ spelledLibraries false ⟨true, false, false⟩
    companies := ["company-1"]
    auditLog := [] }

/-- Suspended and reactivated, it has no user who can. -/
theorem toggledTwice_locks_out :
    ¬∀ (db : TenantDb (List UInt8)) (lib : Libraries) (lockouts : Lockouts) (companyId : String)
      (call call' : ToggleCall) (userId : String),
      (db.toggledTwice companyId call call').store.Accepts lib lockouts userId ↔
        db.store.Accepts lib lockouts userId := by
  intro hclaim
  have hbefore : oneUser.store.Accepts spelledLibraries ⟨fun _ => false, fun _ => false⟩ "user-1" :=
    ⟨"hery@example.mg", "password", standingAccount ⟨true, false, false⟩,
      loginCheck_standingStore rfl rfl, rfl⟩
  have hafter := (hclaim oneUser spelledLibraries ⟨fun _ => false, fun _ => false⟩ "company-1"
    ⟨"admin-1", none, 1⟩ ⟨"admin-1", none, 2⟩ "user-1").mpr hbefore
  have hmem : "company-1" ∈ oneUser.companies := List.mem_singleton_self _
  exact ((accepts_toggledTwice_iff hmem "user-1").mp hafter).2
    (standingAccount ⟨true, false, false⟩) (List.mem_singleton_self _) rfl rfl

end TenantDb

end DeliveryTracking.Auth
