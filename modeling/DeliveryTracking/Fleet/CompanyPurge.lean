/-
# `DeliveryTracking.Fleet.CompanyPurge` — what is left of a deleted company

A company that was deleted is purged after a grace period.  The job redacts its
rows in one transaction,

    users       email `redacted-<company>@deleted.local`, no name, secret or token
    drivers     licence `DRV-DELETED-<company>`, no name or address
    vehicles    no `vin` and no device
    companies   no name or address

and it gives every user of the company the same e-mail and every driver the same
licence, which are both in a unique index.  So it completes exactly where the
company has one user and one driver at most, and the e-mail is free
(`completes_iff`); otherwise the transaction is refused, and nothing is redacted
by that run or a later one.

`schema.prisma` has the licence index over all drivers of a company, and the
migrations create it over the live ones: `LicenseIndex` says which.
-/
import DeliveryTracking.Fleet.Services

namespace DeliveryTracking.Fleet

/-! ## Rows -/

structure UserRow extends User where
  passwordHash : String
  refreshTokenHash : Option String
  resetTokenId : Option String
  resetTokenHash : Option String
  resetTokenExpiry : Option Int
  googleId : Option String
  avatarUrl : Option String
  totpSecret : Option String
  totpEnabled : Bool
  deriving DecidableEq, Repr

/-- The columns of `users` in a unique index. -/
structure UserRowKey where
  user : UserKey
  resetTokenId : Option String
  googleId : Option String
  deriving DecidableEq, Repr

def UserRow.key (u : UserRow) : UserRowKey := ⟨u.toUser.key, u.resetTokenId, u.googleId⟩

def UserRowKey.Clash (k l : UserRowKey) : Prop :=
  k.user.Clash l.user ∨ Taken k.resetTokenId l.resetTokenId ∨ Taken k.googleId l.googleId

instance : DecidableRel UserRowKey.Clash := fun _ _ => inferInstanceAs (Decidable (_ ∨ _ ∨ _))

/-- The drivers in the index of licence numbers, and the vehicles in the one of plates. -/
inductive LicenseIndex where
  /-- All, as `schema.prisma` declares it. -/
  | declared
  /-- The live ones, as the migrations create it. -/
  | migrated
  deriving DecidableEq, Repr

def LicenseIndex.covers : LicenseIndex → Option Int → Bool
  | .declared, _ => true
  | .migrated, deletedAt => deletedAt.isNone

structure DriverRow extends Driver where
  isActive : Bool
  deriving DecidableEq, Repr

def DriverRow.key (i : LicenseIndex) (d : DriverRow) : DriverKey :=
  { d.toDriver.key with
    license := if i.covers d.deletedAt then some (d.companyId, d.licenseNumber) else none }

structure VehicleRow where
  id : String
  companyId : String
  licensePlate : String
  vin : Option String
  traccarDeviceId : Option String
  isActive : Bool
  deletedAt : Option Int
  deriving DecidableEq, Repr

/-- The columns of `vehicles` in a unique index. -/
structure VehicleKey where
  id : String
  vin : Option String
  traccarDeviceId : Option String
  plate : Option (String × String)
  deriving DecidableEq, Repr

def VehicleRow.key (i : LicenseIndex) (v : VehicleRow) : VehicleKey where
  id := v.id
  vin := v.vin
  traccarDeviceId := v.traccarDeviceId
  plate := if i.covers v.deletedAt then some (v.companyId, v.licensePlate) else none

def VehicleKey.Clash (k l : VehicleKey) : Prop :=
  k.id = l.id ∨ Taken k.vin l.vin ∨ Taken k.traccarDeviceId l.traccarDeviceId ∨ Taken k.plate l.plate

instance : DecidableRel VehicleKey.Clash := fun _ _ =>
  inferInstanceAs (Decidable (_ ∨ _ ∨ _ ∨ _))

structure CompanyRow where
  id : String
  name : String
  email : Option String
  phone : Option String
  address : Option String
  logoUrl : Option String
  deletedAt : Option Int
  deriving DecidableEq, Repr

structure PurgeDb (i : LicenseIndex) where
  companies : Table CompanyRow.id Eq
  users : Table UserRow.key UserRowKey.Clash
  drivers : Table (DriverRow.key i) DriverKey.Clash
  vehicles : Table (VehicleRow.key i) VehicleKey.Clash

/-! ## The job -/

def redactedEmail (companyId : String) : String := "redacted-" ++ companyId ++ "@deleted.local"

def redactedLicense (companyId : String) : String :=
  "DRV-DELETED-" ++ String.ofList (companyId.toList.take 8)

def redactUser (companyId : String) (u : UserRow) : UserRow :=
  { u with
    email := redactedEmail companyId
    firstName := "[Deleted]"
    lastName := "[Deleted]"
    phone := none
    isActive := false
    refreshTokenHash := none
    resetTokenHash := none
    resetTokenId := none
    resetTokenExpiry := none
    googleId := none
    avatarUrl := none
    totpSecret := none
    totpEnabled := false
    passwordHash := "[DELETED]" }

def redactDriver (companyId : String) (d : DriverRow) : DriverRow :=
  { d with
    firstName := "[Deleted]"
    lastName := "[Deleted]"
    email := none
    phone := none
    licenseNumber := redactedLicense companyId
    isActive := false }

def redactVehicle (v : VehicleRow) : VehicleRow :=
  { v with
    isActive := false
    vin := none
    traccarDeviceId := none }

def redactCompany (c : CompanyRow) : CompanyRow :=
  { c with
    name := "[Deleted]"
    email := none
    phone := none
    address := none
    logoUrl := none }

inductive PurgeOutcome where
  | notDeleted
  | withinGrace (remainingDays : Int)
  | complete
  /-- A unique index refuses the transaction, and the job throws. -/
  | failed
  deriving DecidableEq, Repr

theorem VehicleKey.Clash.symm {k l : VehicleKey} (h : k.Clash l) : l.Clash k :=
  h.imp Eq.symm (Or.imp Taken.symm (Or.imp Taken.symm Taken.symm))

/-- A vehicle without `vin` and device clashes with no more than it did. -/
theorem VehicleKey.Clash.of_redact {i : LicenseIndex} {v : VehicleRow} {l : VehicleKey}
    (h : ((redactVehicle v).key i).Clash l) : (v.key i).Clash l := by
  rcases h with hid | hvin | hdevice | hplate
  · exact Or.inl hid
  · exact absurd hvin (not_taken_none _)
  · exact absurd hdevice (not_taken_none _)
  · exact Or.inr (Or.inr (Or.inr hplate))

namespace PurgeDb

variable {i : LicenseIndex} (s : PurgeDb i)

/-- The transaction. -/
def purge (companyId : String) : Option (PurgeDb i) := do
  let users ← s.users.modify (·.companyId == companyId) (redactUser companyId)
  let drivers ← s.drivers.modify (·.companyId == companyId) (redactDriver companyId)
  some
    { users := users
      drivers := drivers
      vehicles := s.vehicles.release (·.companyId == companyId) redactVehicle
        (fun _ _ => VehicleKey.Clash.of_redact)
        (fun _ _ h => (VehicleKey.Clash.of_redact h.symm).symm)
      companies := s.companies.update (·.id == companyId) redactCompany fun _ => rfl }

def dayMs : Int := 24 * 60 * 60 * 1000

/-- `CompanyPurgeProcessor.process`, with `COMPANY_PURGE_GRACE_DAYS`. -/
def process (graceDays now : Int) (companyId : String) : PurgeOutcome × PurgeDb i :=
  match (s.companies.lookup companyId).bind (·.deletedAt) with
  | none => (.notDeleted, s)
  | some deletedAt =>
    let graceMs := graceDays * dayMs
    let elapsed := now - deletedAt
    if elapsed < graceMs then (.withinGrace (-(-(graceMs - elapsed) / dayMs)), s)
    else
      match s.purge companyId with
      | some t => (.complete, t)
      | none => (.failed, s)

end PurgeDb

/-! ## What the job is for -/

structure UserRow.Erased (companyId : String) (u : UserRow) : Prop where
  email : u.email = redactedEmail companyId
  firstName : u.firstName = "[Deleted]"
  lastName : u.lastName = "[Deleted]"
  phone : u.phone = none
  passwordHash : u.passwordHash = "[DELETED]"
  refreshTokenHash : u.refreshTokenHash = none
  resetToken : u.resetTokenId = none ∧ u.resetTokenHash = none ∧ u.resetTokenExpiry = none
  googleId : u.googleId = none
  avatarUrl : u.avatarUrl = none
  totpSecret : u.totpSecret = none ∧ u.totpEnabled = false

structure DriverRow.Erased (companyId : String) (d : DriverRow) : Prop where
  email : d.email = none
  firstName : d.firstName = "[Deleted]"
  lastName : d.lastName = "[Deleted]"
  phone : d.phone = none
  licenseNumber : d.licenseNumber = redactedLicense companyId

structure CompanyRow.Erased (c : CompanyRow) : Prop where
  name : c.name = "[Deleted]"
  email : c.email = none
  phone : c.phone = none
  address : c.address = none
  logoUrl : c.logoUrl = none

namespace PurgeDb

variable {i : LicenseIndex}

/-- The rows of the company hold nothing of what they held. -/
structure Erased (t : PurgeDb i) (companyId : String) : Prop where
  users : ∀ u ∈ t.users.rows, u.companyId = companyId → u.Erased companyId
  drivers : ∀ d ∈ t.drivers.rows, d.companyId = companyId → d.Erased companyId
  company : ∀ c ∈ t.companies.rows, c.id = companyId → c.Erased

/-- The rows of the other companies are what they were. -/
structure OthersKept (s t : PurgeDb i) (companyId : String) : Prop where
  companies : t.companies.rows.filter (·.id != companyId) =
    s.companies.rows.filter (·.id != companyId)
  users : t.users.rows.filter (·.companyId != companyId) =
    s.users.rows.filter (·.companyId != companyId)
  drivers : t.drivers.rows.filter (·.companyId != companyId) =
    s.drivers.rows.filter (·.companyId != companyId)
  vehicles : t.vehicles.rows.filter (·.companyId != companyId) =
    s.vehicles.rows.filter (·.companyId != companyId)

/-- The job commits, erases, keeps to the company, and changes nothing when it runs again. -/
structure Completes (s : PurgeDb i) (graceDays now : Int) (companyId : String) : Prop where
  commits : (s.process graceDays now companyId).1 = .complete
  erased : (s.process graceDays now companyId).2.Erased companyId
  others : s.OthersKept (s.process graceDays now companyId).2 companyId
  again : ∀ later, now ≤ later →
    ((s.process graceDays now companyId).2.process graceDays later companyId).2 =
      (s.process graceDays now companyId).2

/-- One user and one driver at most, and an e-mail for the user. -/
structure Purgeable (s : PurgeDb i) (companyId : String) : Prop where
  oneUser : s.users.rows.countP (·.companyId == companyId) ≤ 1
  emailFree : (∃ u ∈ s.users.rows, u.companyId = companyId) →
    ∀ u ∈ s.users.rows, u.email = redactedEmail companyId → u.companyId = companyId
  oneDriver : s.drivers.rows.countP (fun d =>
    d.companyId == companyId && i.covers d.deletedAt) ≤ 1

end PurgeDb

/-! ## When the transaction commits -/

theorem UserRowKey.Clash.symm {k l : UserRowKey} (h : k.Clash l) : l.Clash k :=
  h.imp (Or.imp Eq.symm Eq.symm) (Or.imp Taken.symm Taken.symm)

/-- A redacted user has nothing but its e-mail in common with another row. -/
theorem redactUser_clash_iff {companyId : String} {u : UserRow} {v : UserRow}
    (h : ¬u.key.Clash v.key) :
    (redactUser companyId u).key.Clash v.key ↔ v.email = redactedEmail companyId := by
  constructor
  · rintro ((hid | hemail) | hreset | hgoogle)
    · exact absurd (Or.inl (Or.inl hid)) h
    · exact hemail.symm
    · exact absurd hreset (not_taken_none _)
    · exact absurd hgoogle (not_taken_none _)
  · intro hemail
    exact Or.inl (Or.inr hemail.symm)

/-- The licence is the one column of a driver that the job writes and an index has. -/
theorem redactDriver_clash_iff {i : LicenseIndex} {companyId : String} {d e : DriverRow}
    {l : DriverKey} (hid : l.id = e.id) (huser : l.userId = e.userId)
    (hvehicle : l.vehicleId = e.vehicleId) (h : ¬(d.key i).Clash (e.key i)) :
    ((redactDriver companyId d).key i).Clash l ↔
      Taken ((redactDriver companyId d).key i).license l.license := by
  constructor
  · rintro ⟨index, -, hclash⟩
    cases index with
    | primary => exact absurd ⟨.primary, by simp, hclash.trans hid⟩ h
    | user =>
      refine absurd ⟨.user, by simp, ?_⟩ h
      have htaken : Taken d.userId l.userId := hclash
      rwa [huser] at htaken
    | vehicle =>
      refine absurd ⟨.vehicle, by simp, ?_⟩ h
      have htaken : Taken d.vehicleId l.vehicleId := hclash
      rwa [hvehicle] at htaken
    | license => exact hclash
  · intro htaken
    exact ⟨.license, by simp, htaken⟩

namespace PurgeDb

variable {i : LicenseIndex} {s t : PurgeDb i} {companyId : String}

theorem isSome_users_iff : (s.users.modify (·.companyId == companyId) (redactUser companyId)).isSome =
    true ↔ s.users.rows.countP (·.companyId == companyId) ≤ 1 ∧
      ((∃ u ∈ s.users.rows, u.companyId = companyId) →
        ∀ u ∈ s.users.rows, u.email = redactedEmail companyId → u.companyId = companyId) := by
  rw [Table.isSome_modify_iff (fun _ _ => UserRowKey.Clash.symm) (q := fun _ => true)
    (r := fun u => u.email == redactedEmail companyId)]
  · simp only [Bool.and_true, beq_iff_eq, beq_eq_false_iff_ne]
    refine and_congr_right fun _ => ⟨?_, ?_⟩
    · rintro h ⟨u, hu, hcompany⟩ v hv hemail
      by_contra hother
      exact h u hu hcompany v hv hother hemail
    · intro h u hu hcompany v hv hother hemail
      exact hother (h ⟨u, hu, hcompany⟩ v hv hemail)
  · intro u v h _ _
    refine iff_of_true ?_ ⟨rfl, rfl⟩
    exact Or.inl (Or.inr rfl)
  · intro u v h _ _
    rw [redactUser_clash_iff h, beq_iff_eq]

theorem isSome_drivers_iff :
    (s.drivers.modify (·.companyId == companyId) (redactDriver companyId)).isSome = true ↔
      s.drivers.rows.countP (fun d => d.companyId == companyId && i.covers d.deletedAt) ≤ 1 := by
  rw [Table.isSome_modify_iff (fun _ _ => DriverKey.Clash.symm)
    (q := fun d => i.covers d.deletedAt) (r := fun _ => false)]
  · simp
  · intro d e h hd he
    rw [redactDriver_clash_iff (e := e) rfl rfl rfl h]
    rw [beq_iff_eq] at hd he
    simp only [DriverRow.key, redactDriver, hd, he]
    cases i.covers d.deletedAt <;> cases i.covers e.deletedAt <;> simp [Taken]
  · intro d e h hd he
    rw [redactDriver_clash_iff (e := e) rfl rfl rfl h]
    rw [beq_iff_eq] at hd
    rw [beq_eq_false_iff_ne] at he
    simp only [DriverRow.key, redactDriver, hd]
    cases i.covers d.deletedAt <;> cases i.covers e.deletedAt <;> simp [Taken, Ne.symm he]

theorem isSome_purge_iff : (s.purge companyId).isSome = true ↔ s.Purgeable companyId := by
  have hboth : (s.purge companyId).isSome = true ↔
      (s.users.modify (·.companyId == companyId) (redactUser companyId)).isSome = true ∧
        (s.drivers.modify (·.companyId == companyId) (redactDriver companyId)).isSome = true := by
    simp only [purge, Option.bind_eq_bind]
    cases s.users.modify (·.companyId == companyId) (redactUser companyId) <;>
      cases s.drivers.modify (·.companyId == companyId) (redactDriver companyId) <;> simp
  rw [hboth, isSome_users_iff, isSome_drivers_iff]
  exact ⟨fun h => ⟨h.1.1, h.1.2, h.2⟩, fun h => ⟨⟨h.oneUser, h.emailFree⟩, h.oneDriver⟩⟩

/-! ## What it leaves -/

/-- The tables after the transaction. -/
structure Redacts (companyId : String) (s t : PurgeDb i) : Prop where
  users : s.users.modify (·.companyId == companyId) (redactUser companyId) = some t.users
  drivers : s.drivers.modify (·.companyId == companyId) (redactDriver companyId) = some t.drivers
  vehicles : t.vehicles.rows =
    s.vehicles.rows.map fun v => if v.companyId == companyId then redactVehicle v else v
  companies : t.companies.rows =
    s.companies.rows.map fun c => if c.id == companyId then redactCompany c else c

theorem redacts_of_purge (h : s.purge companyId = some t) : Redacts companyId s t := by
  simp only [purge, Option.bind_eq_bind, Option.bind_eq_some_iff] at h
  obtain ⟨users, husers, drivers, hdrivers, h⟩ := h
  cases h
  exact ⟨husers, hdrivers, rfl, rfl⟩

/-- Rows that a predicate does not pick stay. -/
theorem filter_map_ite {α : Type} {p q : α → Bool} {f : α → α} (hpq : ∀ a, p a = !q a)
    (hf : ∀ a, q a = true → q (f a) = true) (l : List α) :
    (l.map fun a => if q a then f a else a).filter p = l.filter p := by
  induction l with
  | nil => rfl
  | cons a l ih =>
    rw [List.map_cons, List.filter_cons, List.filter_cons, ih]
    cases hq : q a with
    | false => simp [hpq, hq]
    | true => simp [hpq, hq, hf a hq]

theorem Redacts.othersKept (h : Redacts companyId s t) : s.OthersKept t companyId where
  companies := by
    rw [h.companies]
    exact filter_map_ite (q := (·.id == companyId)) (f := redactCompany) (fun _ => rfl)
      (fun _ hc => hc) _
  users := by
    rw [Table.rows_of_modify h.users]
    exact filter_map_ite (q := (·.companyId == companyId)) (f := redactUser companyId) (fun _ => rfl)
      (fun _ hu => hu) _
  drivers := by
    rw [Table.rows_of_modify h.drivers]
    exact filter_map_ite (q := (·.companyId == companyId)) (f := redactDriver companyId)
      (fun _ => rfl) (fun _ hd => hd) _
  vehicles := by
    rw [h.vehicles]
    exact filter_map_ite (q := (·.companyId == companyId)) (f := redactVehicle) (fun _ => rfl)
      (fun _ hv => hv) _

/-- A row that a predicate picks is one that was rewritten. -/
theorem mem_map_ite {α : Type} {q : α → Bool} {f : α → α} {l : List α} {b : α}
    (hb : b ∈ l.map fun a => if q a then f a else a) (hqb : q b = true) : ∃ a, b = f a := by
  obtain ⟨a, -, rfl⟩ := List.mem_map.mp hb
  cases hq : q a with
  | true => exact ⟨a, if_pos rfl⟩
  | false =>
    rw [hq] at hqb
    cases hq.symm.trans hqb

theorem Redacts.erased (h : Redacts companyId s t) : t.Erased companyId where
  users := by
    intro u hu hcompany
    rw [Table.rows_of_modify h.users] at hu
    obtain ⟨v, rfl⟩ := mem_map_ite hu (beq_iff_eq.mpr hcompany)
    exact ⟨rfl, rfl, rfl, rfl, rfl, rfl, ⟨rfl, rfl, rfl⟩, rfl, rfl, rfl, rfl⟩
  drivers := by
    intro d hd hcompany
    rw [Table.rows_of_modify h.drivers] at hd
    obtain ⟨e, rfl⟩ := mem_map_ite hd (beq_iff_eq.mpr hcompany)
    exact ⟨rfl, rfl, rfl, rfl, rfl⟩
  company := by
    intro c hc hid
    rw [h.companies] at hc
    obtain ⟨e, rfl⟩ := mem_map_ite hc (beq_iff_eq.mpr hid)
    exact ⟨rfl, rfl, rfl, rfl, rfl⟩

/-- Writes that were made change nothing the next time. -/
theorem map_map_ite {α : Type} {q : α → Bool} {f : α → α} (hq : ∀ a, q (f a) = q a)
    (hf : ∀ a, f (f a) = f a) (l : List α) :
    ((l.map fun a => if q a then f a else a).map fun a => if q a then f a else a) =
      l.map fun a => if q a then f a else a := by
  rw [List.map_map]
  refine List.map_congr_left fun a _ => ?_
  cases ha : q a with
  | true => simp [ha, hq, hf]
  | false => simp [ha]

theorem Redacts.again (h : Redacts companyId s t) : t.purge companyId = some t := by
  have husers := Table.modify_modify h.users (fun _ hu => hu) fun _ _ => rfl
  have hdrivers := Table.modify_modify h.drivers (fun _ hd => hd) fun _ _ => rfl
  simp only [purge, husers, hdrivers, Option.bind_eq_bind, Option.bind_some, Option.some.injEq]
  have hvehicles : (t.vehicles.rows.map fun v =>
      if v.companyId == companyId then redactVehicle v else v) = t.vehicles.rows := by
    rw [h.vehicles]
    exact map_map_ite (q := (·.companyId == companyId)) (f := redactVehicle) (fun _ => rfl)
      (fun _ => rfl) _
  have hcompanies : (t.companies.rows.map fun c =>
      if c.id == companyId then redactCompany c else c) = t.companies.rows := by
    rw [h.companies]
    exact map_map_ite (q := (·.id == companyId)) (f := redactCompany) (fun _ => rfl)
      (fun _ => rfl) _
  exact congrArg₂ (fun vehicles companies => ({ t with vehicles, companies } : PurgeDb i))
    (Table.eq_of_rows hvehicles) (Table.eq_of_rows hcompanies)

/-! ## The job -/

variable {graceDays now deletedAt : Int} {c : CompanyRow}

/-- A run for a deleted company past its grace period. -/
theorem process_eq (hc : c ∈ s.companies.rows) (hdeleted : c.deletedAt = some deletedAt)
    (hgrace : graceDays * dayMs ≤ now - deletedAt) :
    s.process graceDays now c.id =
      match s.purge c.id with
      | some t => (.complete, t)
      | none => (.failed, s) := by
  have hlookup : s.companies.lookup c.id = some c := Table.mem_rows_iff.mp hc
  have hpast : ¬now - deletedAt < graceDays * dayMs := by omega
  simp only [process, hlookup, Option.bind_some, hdeleted, if_neg hpast]

/-- The company is still deleted, and since when it was. -/
theorem Redacts.deleted (h : Redacts c.id s t) (hc : c ∈ s.companies.rows) :
    redactCompany c ∈ t.companies.rows := by
  rw [h.companies]
  exact List.mem_map.mpr ⟨c, hc, if_pos (beq_self_eq_true _)⟩

/-- The job does for a deleted company past its grace period all that it is for exactly where the
company has one user and one driver at most, and the e-mail of the user is free. -/
theorem completes_iff (hc : c ∈ s.companies.rows) (hdeleted : c.deletedAt = some deletedAt)
    (hgrace : graceDays * dayMs ≤ now - deletedAt) :
    s.Completes graceDays now c.id ↔ s.Purgeable c.id := by
  have hprocess := process_eq hc hdeleted hgrace
  rw [← isSome_purge_iff]
  cases hpurge : s.purge c.id with
  | none =>
    rw [hpurge] at hprocess
    refine iff_of_false (fun h => ?_) nofun
    have hcommits := h.commits
    rw [hprocess] at hcommits
    cases hcommits
  | some t =>
    rw [hpurge] at hprocess
    refine iff_of_true ?_ rfl
    have hredacts := redacts_of_purge hpurge
    refine ⟨?_, ?_, ?_, ?_⟩
    · rw [hprocess]
    · rw [hprocess]
      exact hredacts.erased
    · rw [hprocess]
      exact hredacts.othersKept
    · intro later hlater
      rw [hprocess]
      have hagain : t.process graceDays later c.id =
          match t.purge c.id with
          | some u => (.complete, u)
          | none => (.failed, t) :=
        process_eq (c := redactCompany c) (hredacts.deleted hc) hdeleted (by omega)
      show (t.process graceDays later c.id).2 = t
      rw [hagain, hredacts.again]

/-- Whatever becomes of a run, the other companies keep their rows. -/
theorem othersKept_process (s : PurgeDb i) (graceDays now : Int) (companyId : String) :
    s.OthersKept (s.process graceDays now companyId).2 companyId := by
  have hsame : s.OthersKept s companyId := ⟨rfl, rfl, rfl, rfl⟩
  simp only [process]
  split
  · exact hsame
  · split
    · exact hsame
    · split
      · rename_i t hpurge
        exact (redacts_of_purge hpurge).othersKept
      · exact hsame

end PurgeDb

/-! ### A company deleted at time 0 -/

def deletedCompany : CompanyRow :=
  ⟨"company-1", "Rado", some "hello@rado.test", none, some "Lot 1", none, some 0⟩

def memberRow (id email : String) : UserRow :=
  { id := id, companyId := "company-1", email := email, firstName := "Jo", lastName := "Rado"
    phone := some "0340000000", role := .admin, isActive := true, deletedAt := none
    passwordHash := "hash-" ++ id, refreshTokenHash := none, resetTokenId := none
    resetTokenHash := none, resetTokenExpiry := none, googleId := none, avatarUrl := none
    totpSecret := some "secret", totpEnabled := true }

def driverRow (id license : String) : DriverRow :=
  { id := id, companyId := "company-1", firstName := "Ada", lastName := "Rabe"
    email := some "ada@rado.test", phone := none, licenseNumber := license, userId := none
    vehicleId := none, deletedAt := none, isActive := true }

/-- The company with its admin and a driver. -/
def smallCompany : PurgeDb .declared where
  companies := ⟨[deletedCompany], by decide⟩
  users := ⟨[memberRow "user-1" "jo@rado.test"], by decide⟩
  drivers := ⟨[driverRow "driver-1" "L-1"], by decide⟩
  vehicles := ⟨[⟨"vehicle-1", "company-1", "1234 TAA", some "VIN-1", none, true, none⟩], by decide⟩

/-- The same with two users. -/
def twoUsers : PurgeDb .declared :=
  { smallCompany with
    users := ⟨[memberRow "user-1" "jo@rado.test", memberRow "user-2" "ny@rado.test"], by decide⟩ }

/-- And with two drivers, both live. -/
def twoLiveDrivers : PurgeDb .migrated where
  companies := ⟨[deletedCompany], by decide⟩
  users := ⟨[memberRow "user-1" "jo@rado.test"], by decide⟩
  drivers := ⟨[driverRow "driver-1" "L-1", driverRow "driver-2" "L-2"], by decide⟩
  vehicles := .empty

theorem smallCompany_completes : deletedCompany ∈ smallCompany.companies.rows ∧
    smallCompany.Completes 30 (31 * PurgeDb.dayMs) deletedCompany.id :=
  ⟨List.mem_singleton_self _,
    (PurgeDb.completes_iff (List.mem_singleton_self _) (rfl : deletedCompany.deletedAt = some 0)
      (by decide)).mpr
      ⟨by decide, fun _ u hu _ => by rw [List.mem_singleton.mp hu]; rfl, by decide⟩⟩

/-- With two users, or two live drivers, the job throws. -/
theorem purge_refused :
    (twoUsers.process 30 (31 * PurgeDb.dayMs) "company-1").1 = .failed ∧
      ¬twoUsers.Completes 30 (31 * PurgeDb.dayMs) "company-1" ∧
      ¬twoLiveDrivers.Completes 30 (31 * PurgeDb.dayMs) "company-1" := by
  have hfailed : (twoUsers.process 30 (31 * PurgeDb.dayMs) "company-1").1 = .failed := by
    decide +kernel
  refine ⟨hfailed, fun h => ?_, fun h => ?_⟩
  · cases hfailed.symm.trans h.commits
  · have hfailed' : (twoLiveDrivers.process 30 (31 * PurgeDb.dayMs) "company-1").1 = .failed := by
      decide +kernel
    cases hfailed'.symm.trans h.commits

end DeliveryTracking.Fleet
