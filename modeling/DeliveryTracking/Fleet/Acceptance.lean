/-
# `DeliveryTracking.Fleet.Acceptance` — the two ways to accept an invitation

A pending invitation is accepted with its token and a password (`accept`), or by
coming in through Google with its address (`validateGoogleUser`).  Both create
the account in their own code:

              account    `accepted`    driver of the account
    accept       x           x         linked by its address, or new
    Google       x           x         none

so they agree on an invitation that Google takes up exactly where it invites no
driver (`acceptedAlike_iff`).  Google takes up no invitation where its address or
the Google id has an account; and of several invitations of the address it takes
the first.  The other ways to become a driver, `users.create` and `users.update`,
leave one driver of the account, as `accept` does.
-/
import DeliveryTracking.Auth.Login
import DeliveryTracking.Fleet.Assignment

namespace DeliveryTracking.Fleet

open Auth (Store GoogleProfile GoogleCall LoginError AuthConfig TokenHash Jwt)

/-! ## What is left of an acceptance -/

/-- What an account is in its company, with the ids of its live drivers. -/
structure Membership where
  companyId : String
  role : UserRole
  drivers : List String
  deriving DecidableEq, Repr

namespace FleetTables

variable (s : FleetTables)

/-- The live drivers of an account. -/
def driversOf (userId : String) : List Driver :=
  s.drivers.findMany fun d => d.userId == some userId && d.deletedAt.isNone

def membership (userId : String) : Option Membership :=
  (s.users.findFirst (·.id == userId)).map fun u =>
    ⟨u.companyId, u.role, (s.driversOf userId).map (·.id)⟩

def invitationStatus (token : String) : Option InvitationStatus :=
  (s.invitations.lookup token).map (·.status)

/-- The ids of a new account and a new driver: the database makes them up, and the account of a
driver is there. -/
structure NewIds (userId driverId : String) : Prop where
  user : ∀ u ∈ s.users.rows, u.id ≠ userId
  account : ∀ d ∈ s.drivers.rows, d.userId ≠ some userId
  driver : ∀ d ∈ s.drivers.rows, d.id ≠ driverId

/-- The new driver of an invitation gets a licence number that a live driver of the company has. -/
structure LicenseTaken (userId : String) (invitation : Invitation) : Prop where
  role : invitation.role = .driver
  unknown : s.findDriver invitation.companyId (·.email == some invitation.email) = none
  taken : ∃ d ∈ s.drivers.rows, d.deletedAt = none ∧ d.companyId = invitation.companyId ∧
    d.licenseNumber = defaultLicense userId

end FleetTables

/-- Two ways have left the same account, driver and status, and the account of a driver has one
live driver. -/
structure AcceptedAlike (t u : FleetTables) (userId token : String) : Prop where
  membership : t.membership userId = u.membership userId
  status : t.invitationStatus token = u.invitationStatus token
  driver : ∀ m, t.membership userId = some m → m.role = .driver → m.drivers.length = 1

/-! ## An account and its driver -/

namespace FleetTables

variable {s t : FleetTables} {companyId userId : String}

/-- A new account is refused exactly when its address has one. -/
theorem createUsers_isSome_iff (row : User) (hnew : ∀ u ∈ s.users.rows, u.id ≠ userId)
    (hid : row.id = userId) :
    (s.users.create row).isSome = true ↔ s.users.findFirst (·.email == row.email) = none := by
  have hclash : s.users.create row = none ↔ ∃ u ∈ s.users.rows, u.email = row.email := by
    rw [Table.create_eq_none_iff]
    constructor
    · rintro ⟨u, hu, hsame | hsame⟩
      · exact absurd (hsame.trans hid) (hnew u hu)
      · exact ⟨u, hu, hsame⟩
    · rintro ⟨u, hu, hemail⟩
      exact ⟨u, hu, Or.inr hemail⟩
  rw [Option.isSome_iff_ne_none, Ne, hclash]
  constructor
  · intro hfree
    refine List.find?_eq_none.mpr fun u hu hemail => hfree ⟨u, hu, beq_iff_eq.mp hemail⟩
  · rintro hnone ⟨u, hu, hemail⟩
    exact List.find?_eq_none.mp hnone u hu (beq_iff_eq.mpr hemail)

/-- A new account as it was written. -/
theorem membership_create (row : User) (hnew : ∀ u ∈ s.users.rows, u.id ≠ userId)
    (hid : row.id = userId) (hcreate : s.users.create row = some t.users) :
    t.membership userId = some ⟨row.companyId, row.role, (t.driversOf userId).map (·.id)⟩ := by
  have hnone : s.users.findFirst (·.id == userId) = none :=
    List.find?_eq_none.mpr fun u hu hself => hnew u hu (beq_iff_eq.mp hself)
  have hself : (row.id == userId) = true := beq_iff_eq.mpr hid
  rw [membership, Table.findFirst_create hcreate, hnone, Option.none_or, if_pos hself]
  rfl

theorem membership_of_new (hnew : ∀ u ∈ s.users.rows, u.id ≠ userId) :
    s.membership userId = none := by
  have hnone : s.users.findFirst (·.id == userId) = none :=
    List.find?_eq_none.mpr fun u hu hself => hnew u hu (beq_iff_eq.mp hself)
  rw [membership, hnone]
  rfl

theorem driversOf_of_new (hnew : ∀ d ∈ s.drivers.rows, d.userId ≠ some userId) :
    s.driversOf userId = [] := by
  refine List.filter_eq_nil_iff.mpr fun d hd hpick => ?_
  rw [Bool.and_eq_true, beq_iff_eq] at hpick
  exact hnew d hd hpick.1

/-- An account has one driver at most. -/
theorem length_driversOf (h : ∃ d ∈ s.drivers.rows, d.userId = some userId ∧ d.deletedAt = none) :
    (s.driversOf userId).length = 1 := by
  rw [driversOf, Table.findMany, ← List.countP_eq_length_filter]
  refine (Table.countP_eq_one_iff (t := s.drivers) fun a b ha hb => ?_).mpr ?_
  · rw [Bool.and_eq_true, beq_iff_eq] at ha hb
    refine ⟨.user, by simp, ?_⟩
    show Taken a.userId b.userId
    rw [ha.1, hb.1]
    exact taken_some_some.mpr rfl
  · obtain ⟨d, hd, huser, hlive⟩ := h
    exact ⟨d, hd, by rw [huser, hlive]; simp⟩

theorem driversOf_createDriver {row : Driver} (h : s.createDriver row = .ok t)
    (haccount : row.userId = some userId) (hlive : row.deletedAt = none) :
    (t.driversOf userId).length = 1 := by
  unfold createDriver at h
  split at h
  · rename_i drivers hcreate
    cases h
    refine length_driversOf ⟨row, ?_, haccount, hlive⟩
    show row ∈ drivers.rows
    rw [Table.rows_of_create hcreate]
    exact List.mem_append_right _ (List.mem_singleton_self _)
  · cases h

theorem driversOf_updateDriver {data : Driver → Driver} {d : Driver}
    (h : s.updateDriver d.id data = .ok t) (hd : d ∈ s.drivers.rows)
    (haccount : (data d).userId = some userId) (hlive : (data d).deletedAt = none) :
    (t.driversOf userId).length = 1 := by
  unfold updateDriver at h
  split at h
  · rename_i drivers hmodify
    cases h
    refine length_driversOf ⟨data d, ?_, haccount, hlive⟩
    show data d ∈ drivers.rows
    rw [Table.rows_of_modify hmodify]
    exact List.mem_map.mpr ⟨d, hd, if_pos (beq_self_eq_true _)⟩
  · cases h

theorem mem_of_findDriver {q : Driver → Bool} {d : Driver}
    (h : s.findDriver companyId q = some d) :
    d ∈ s.drivers.rows ∧ d.deletedAt = none ∧ q d = true := by
  obtain ⟨hmem, hpick⟩ := Table.mem_of_findFirst h
  simp only [Bool.and_eq_true, Option.isNone_iff_eq_none] at hpick
  exact ⟨hmem, hpick.2⟩

/-- Writing a new account to a driver clashes with none. -/
theorem exists_link (hnew : ∀ d ∈ s.drivers.rows, d.userId ≠ some userId) (id : String) :
    ∃ drivers : DriverTable,
      s.updateDriver id (fun d => { d with userId := some userId }) =
        .ok { s with drivers := drivers } := by
  have hkey : ∀ d : Driver, (if d.id == id then { d with userId := some userId } else d).key =
      { d.key with userId := if d.id == id then some userId else d.userId } := by
    intro d
    split
    · rfl
    · rfl
  have hpair : (s.drivers.rows.map fun d =>
      if d.id == id then { d with userId := some userId } else d).Pairwise
        fun a b => ¬DriverKey.Clash a.key b.key := by
    refine List.pairwise_map.mpr (s.drivers.unique.imp_of_mem ?_)
    intro a b ha hb hab
    rintro ⟨i, -, hi⟩
    rw [hkey, hkey] at hi
    have hkeep : ∀ i : DriverIndex, ¬i.Clash a.key b.key := fun i hi =>
      hab ⟨i, by cases i <;> simp, hi⟩
    -- Only the index of accounts can see the write, and no other driver has the account.
    cases i with
    | primary => exact hkeep .primary hi
    | vehicle => exact hkeep .vehicle hi
    | license => exact hkeep .license hi
    | user =>
      simp only [DriverIndex.Clash] at hi
      split_ifs at hi with hfirst hsecond hsecond
      · exact hkeep .primary ((beq_iff_eq.mp hfirst).trans (beq_iff_eq.mp hsecond).symm)
      · exact hnew b hb hi.2.symm
      · exact hnew a ha hi.2
      · exact hkeep .user hi
  refine ⟨⟨_, hpair⟩, ?_⟩
  rw [updateDriver, Table.modify, dif_pos hpair]

/-- The driver of a new account is refused exactly when its licence number is taken. -/
theorem createDriver_cases (row : Driver) (hid : ∀ d ∈ s.drivers.rows, d.id ≠ row.id)
    (hnew : ∀ d ∈ s.drivers.rows, d.userId ≠ row.userId) (hvehicle : row.vehicleId = none)
    (hlive : row.deletedAt = none) :
    (∃ d ∈ s.drivers.rows, d.deletedAt = none ∧ d.companyId = row.companyId ∧
        d.licenseNumber = row.licenseNumber) ∧ (∃ e, s.createDriver row = .error e) ∨
      (¬∃ d ∈ s.drivers.rows, d.deletedAt = none ∧ d.companyId = row.companyId ∧
        d.licenseNumber = row.licenseNumber) ∧
        ∃ drivers : DriverTable, s.createDriver row = .ok { s with drivers := drivers } := by
  have hclash : ∀ d ∈ s.drivers.rows, DriverKey.Clash d.key row.key ↔
      d.deletedAt = none ∧ d.companyId = row.companyId ∧ d.licenseNumber = row.licenseNumber := by
    intro d hd
    constructor
    · rintro ⟨i, -, hi⟩
      cases i with
      | primary => exact absurd hi (hid d hd)
      | user => exact absurd hi.2 (hnew d hd)
      | vehicle =>
        have hsome : d.vehicleId.isSome = true ∧ d.vehicleId = row.vehicleId := hi
        rw [hvehicle] at hsome
        rw [hsome.2] at hsome
        cases hsome.1
      | license =>
        simp only [DriverIndex.Clash, Driver.key, Option.isNone_iff_eq_none, hlive, if_true] at hi
        split_ifs at hi with hd
        · rw [taken_some_some, Prod.mk.injEq] at hi
          exact ⟨hd, hi⟩
        · exact absurd hi (not_taken_none _)
    · rintro ⟨hdeleted, hcompany, hlicense⟩
      refine ⟨.license, by simp, ?_⟩
      simp [DriverIndex.Clash, Driver.key, hdeleted, hlive, hcompany, hlicense]
  cases hcreate : s.drivers.create row with
  | none =>
    obtain ⟨d, hd, hsame⟩ := Table.create_eq_none_iff.mp hcreate
    refine Or.inl ⟨⟨d, hd, (hclash d hd).mp hsame⟩, ?_⟩
    rw [createDriver, hcreate]
    exact ⟨_, rfl⟩
  | some drivers =>
    refine Or.inr ⟨?_, drivers, ?_⟩
    · rintro ⟨d, hd, hsame⟩
      have hnone := Table.create_eq_none_iff.mpr ⟨d, hd, (hclash d hd).mpr hsame⟩
      cases hnone.symm.trans hcreate
    · rw [createDriver, hcreate]

/-! ## What each way leaves -/

variable {call : Call} (invitation : Invitation) (userData : UserData)

/-- The account that `accept` creates. -/
def acceptedUser (call : Call) (invitation : Invitation) (userData : UserData) : User where
  id := call.userId
  companyId := invitation.companyId
  email := invitation.email
  firstName := userData.firstName
  lastName := userData.lastName
  phone := userData.phone
  role := invitation.role
  isActive := true
  deletedAt := none

/-- The driver that `accept` creates. -/
def acceptedDriver (call : Call) (invitation : Invitation) (userData : UserData) : Driver where
  id := call.driverId
  companyId := invitation.companyId
  firstName := userData.firstName
  lastName := userData.lastName
  email := some invitation.email
  phone := userData.phone
  licenseNumber := defaultLicense call.userId
  userId := some call.userId
  vehicleId := none
  deletedAt := none

/-- The driver of an invitation: one with the new account, where the invitation is for a driver. -/
theorem linkDriver_cases (haccount : ∀ d ∈ s.drivers.rows, d.userId ≠ some call.userId)
    (hdriver : ∀ d ∈ s.drivers.rows, d.id ≠ call.driverId) :
    s.LicenseTaken call.userId invitation ∧
        (∃ e, s.linkDriver call invitation userData = .error e) ∨
      ¬s.LicenseTaken call.userId invitation ∧ ∃ drivers : DriverTable,
        s.linkDriver call invitation userData = .ok { s with drivers := drivers } ∧
        (({ s with drivers := drivers } : FleetTables).driversOf call.userId).length =
          if invitation.role = .driver then 1 else 0 := by
  by_cases hrole : invitation.role = .driver
  · rw [linkDriver, if_pos hrole, if_pos hrole]
    cases hfound : s.findDriver invitation.companyId (·.email == some invitation.email) with
    | some existing =>
      obtain ⟨drivers, hlink⟩ := exists_link haccount existing.id
      obtain ⟨hmem, hlive, -⟩ := mem_of_findDriver hfound
      refine Or.inr ⟨fun h => ?_, drivers, hlink, driversOf_updateDriver hlink hmem rfl hlive⟩
      cases h.unknown.symm.trans hfound
    | none =>
      rcases createDriver_cases (acceptedDriver call invitation userData) hdriver haccount rfl
        rfl with ⟨htaken, herror⟩ | ⟨hfree, drivers, hcreate⟩
      · exact Or.inl ⟨⟨hrole, hfound, htaken⟩, herror⟩
      · exact Or.inr ⟨fun h => hfree h.taken, drivers, hcreate,
          driversOf_createDriver hcreate rfl rfl⟩
  · rw [linkDriver, if_neg hrole, if_neg hrole]
    refine Or.inr ⟨fun h => hrole h.role, s.drivers, rfl, ?_⟩
    exact congrArg List.length (driversOf_of_new (s := s) haccount)

theorem invitationStatus_update {f : Invitation → Invitation} (hf : ∀ i, (f i).token = i.token)
    (haccepted : ∀ i, (f i).status = .accepted) (token' token : String) :
    ({ s with invitations := s.invitations.update (·.token == token') f hf } :
      FleetTables).invitationStatus token =
      (s.invitations.lookup token).map fun i => if token = token' then .accepted else i.status := by
  have hlookup : (s.invitations.update (·.token == token') f hf).lookup token =
      (s.invitations.lookup token).map fun i => if i.token == token' then f i else i :=
    Table.findFirst_update _ _ f hf fun i => by rw [hf]
  rw [invitationStatus, hlookup]
  cases hrow : s.invitations.lookup token with
  | none => rfl
  | some i =>
    obtain rfl : i.token = token := Table.key_of_lookup hrow
    by_cases hsame : i.token = token'
    · simp [hsame, haccepted]
    · simp [hsame]

/-- The address of an invitation has an account, or its driver gets no licence. -/
def AcceptRefused (s : FleetTables) (userId : String) (invitation : Invitation) : Prop :=
  (s.users.findFirst (·.email == invitation.email)).isSome = true ∨
    s.LicenseTaken userId invitation

theorem acceptInvitation_cases (hnew : s.NewIds call.userId call.driverId)
    (hthere : s.invitations.lookup invitation.token = some invitation) :
    s.AcceptRefused call.userId invitation ∧
        (∃ e, s.acceptInvitation call invitation userData = .error e) ∨
      ¬s.AcceptRefused call.userId invitation ∧ ∃ t drivers,
        s.acceptInvitation call invitation userData = .ok t ∧
        t.membership call.userId = some ⟨invitation.companyId, invitation.role, drivers⟩ ∧
        drivers.length = (if invitation.role = .driver then 1 else 0) ∧
        t.invitationStatus invitation.token = some .accepted := by
  have hiff := createUsers_isSome_iff (acceptedUser call invitation userData) hnew.user rfl
  have haccept : s.acceptInvitation call invitation userData = (do
      let created ← s.createUser (acceptedUser call invitation userData)
      let linked ← created.linkDriver call invitation userData
      .ok
        { linked with
          invitations := linked.invitations.update (·.token == invitation.token)
            (fun i => { i with status := .accepted, acceptedAt := some call.now }) fun _ => rfl }) :=
    rfl
  rw [haccept, createUser]
  cases hcreate : s.users.create (acceptedUser call invitation userData) with
  | none =>
    rw [hcreate] at hiff
    refine Or.inl ⟨Or.inl ?_, _, rfl⟩
    rw [Option.isSome_iff_ne_none]
    exact fun hnone => Bool.false_ne_true (hiff.mpr hnone)
  | some users =>
    rw [hcreate] at hiff
    have hfree := hiff.mp rfl
    rcases linkDriver_cases (s := { s with users := users }) invitation userData hnew.account
      hnew.driver with
      ⟨htaken, e, herror⟩ | ⟨hlicense, drivers, hlink, hlength⟩
    · refine Or.inl ⟨Or.inr ⟨htaken.role, htaken.unknown, htaken.taken⟩, e, ?_⟩
      simp only [bind, Except.bind, herror]
    · simp only [bind, Except.bind, hlink]
      refine Or.inr ⟨?_, _, _, rfl, membership_create (acceptedUser call invitation userData)
        hnew.user rfl hcreate, ?_, ?_⟩
      · rintro (htaken | htaken)
        · rw [show s.users.findFirst (·.email == invitation.email) = none from hfree] at htaken
          cases htaken
        · exact hlicense ⟨htaken.role, htaken.unknown, htaken.taken⟩
      · rw [List.length_map]
        exact hlength
      · refine (invitationStatus_update (s := { s with users := users, drivers := drivers }) _
          (fun _ => rfl) _ _).trans ?_
        rw [hthere]
        simp

theorem invitationsAccept_cases (hnew : s.NewIds call.userId call.driverId)
    (hthere : s.invitations.lookup invitation.token = some invitation)
    (hpending : invitation.status = .pending) (htime : call.now ≤ invitation.expiresAt) :
    s.AcceptRefused call.userId invitation ∧
        (s.invitationsAccept call invitation.token userData).2 = s ∨
      ¬s.AcceptRefused call.userId invitation ∧ ∃ drivers,
        (s.invitationsAccept call invitation.token userData).2.membership call.userId =
          some ⟨invitation.companyId, invitation.role, drivers⟩ ∧
        drivers.length = (if invitation.role = .driver then 1 else 0) ∧
        (s.invitationsAccept call invitation.token userData).2.invitationStatus invitation.token =
          some .accepted := by
  have hfind : s.findByToken call.now invitation.token = (.ok invitation, s) := by
    simp only [findByToken, hthere, hpending, ne_eq, not_true_eq_false, if_false, not_lt.mpr htime]
  have hcommit : s.invitationsAccept call invitation.token userData =
      s.commit (s.acceptInvitation call invitation userData) := by
    rw [invitationsAccept, hfind]
  rw [hcommit]
  rcases acceptInvitation_cases invitation userData hnew hthere with
    ⟨hrefused, e, herror⟩ | ⟨haccepted, t, drivers, hok, hleft⟩
  · rw [herror]
    exact Or.inl ⟨hrefused, rfl⟩
  · rw [hok]
    exact Or.inr ⟨haccepted, drivers, hleft⟩

/-! ## The other ways to become a driver -/

variable {id currentUserId : String}

/-- What is assigned is not seen in the drivers of an account. -/
theorem driversOf_congr (h : t.drivers = s.drivers) : t.driversOf userId = s.driversOf userId := by
  rw [driversOf, driversOf, h]

/-- `users.create` gives every account of a driver one driver. -/
theorem usersCreate_driver {dto : CreateUserDto} (h : s.usersCreate call companyId dto = .ok t)
    (hrole : dto.role = .driver) : (t.driversOf call.userId).length = 1 := by
  simp only [usersCreate, bind_eq_ok, if_pos hrole] at h
  obtain ⟨_, -, _, -, _, -, created, -, h⟩ := h
  split at h
  · rename_i existing hexisting
    obtain ⟨linked, hlinked, hassign⟩ := bind_eq_ok.mp h
    obtain ⟨hmem, hlive, -⟩ := mem_of_findDriver hexisting
    rw [driversOf_congr (assignIf_opened hassign).2.1]
    exact driversOf_updateDriver hlinked hmem rfl hlive
  · obtain ⟨linked, hlinked, hassign⟩ := bind_eq_ok.mp h
    rw [driversOf_congr (assignIf_opened hassign).2.1]
    exact driversOf_createDriver hlinked rfl rfl

/-- `users.update` does, of every user that it leaves a driver. -/
theorem usersUpdate_driver {dto : UpdateUserDto} {user : User}
    (h : s.usersUpdate call companyId id dto currentUserId = .ok t)
    (huser : s.findUser companyId id = some user) (hrole : targetRole dto user = .driver) :
    (t.driversOf id).length = 1 := by
  simp only [usersUpdate, bind_eq_ok, huser] at h
  obtain ⟨user', hfound, _, -, _, -, _, -, _, -, h⟩ := h
  obtain rfl : user = user' := Except.ok.inj hfound
  rw [if_pos hrole] at h
  obtain ⟨_, -, h⟩ := bind_eq_ok.mp h
  obtain ⟨_, -, h⟩ := bind_eq_ok.mp h
  obtain ⟨_, -, h⟩ := bind_eq_ok.mp h
  obtain ⟨_, -, h⟩ := bind_eq_ok.mp h
  obtain ⟨updated, -, h⟩ := bind_eq_ok.mp h
  split at h
  · rename_i existing hexisting
    obtain ⟨_, -, h⟩ := bind_eq_ok.mp h
    obtain ⟨linked, hlinked, hassign⟩ := bind_eq_ok.mp h
    obtain ⟨hmem, hlive, haccount⟩ := mem_of_findDriver hexisting
    rw [driversOf_congr (reassign_opened hassign).2.1]
    exact driversOf_updateDriver hlinked hmem (beq_iff_eq.mp haccount) hlive
  · obtain ⟨linked, hlinked, hassign⟩ := bind_eq_ok.mp h
    rw [driversOf_congr (assignIf_opened hassign).2.1]
    exact driversOf_createDriver hlinked rfl rfl

end FleetTables

section Google

variable {Hash : Type} {s : Store Hash} (cfg : AuthConfig) (H : TokenHash Hash) (call : GoogleCall)
  (profile : GoogleProfile) {invitation : Invitation}

/-- A pending invitation of an address is there for Google, or one before it. -/
theorem findPendingInvitation_isSome
    (hthere : s.fleet.invitations.lookup invitation.token = some invitation)
    (hpending : invitation.status = .pending) (htime : call.now ≤ invitation.expiresAt) :
    (s.findPendingInvitation call.now invitation.email).isSome = true := by
  refine List.find?_isSome.mpr ⟨invitation, (Table.mem_of_findFirst hthere).1, ?_⟩
  simp [hpending, htime]

theorem validateGoogleUser_cases (hemail : normalizeEmail profile.email = invitation.email)
    (hnew : ∀ u ∈ s.fleet.users.rows, u.id ≠ call.userId)
    (haccount : ∀ d ∈ s.fleet.drivers.rows, d.userId ≠ some call.userId)
    (hthere : s.fleet.invitations.lookup invitation.token = some invitation)
    (hpending : invitation.status = .pending) (htime : call.now ≤ invitation.expiresAt) :
    ((s.findByGoogleId profile.googleId).isSome = true ∨
        (s.findByEmail invitation.email).isSome = true) ∧
        (s.validateGoogleUser cfg H call profile).2.fleet = s.fleet ∨
      (s.findByGoogleId profile.googleId = none ∧ s.findByEmail invitation.email = none) ∧
        ∃ picked, s.findPendingInvitation call.now invitation.email = some picked ∧
          (s.validateGoogleUser cfg H call profile).2.fleet.membership call.userId =
            some ⟨picked.companyId, picked.role, []⟩ ∧
          (s.validateGoogleUser cfg H call profile).2.fleet.invitationStatus invitation.token =
            some (if invitation.token = picked.token then .accepted else .pending) := by
  have hknown : (s.findByGoogleId profile.googleId).isSome = true ∨
      (s.findByEmail invitation.email).isSome = true →
        (s.validateGoogleUser cfg H call profile).2.fleet = s.fleet :=
    fun h => Store.fleet_of_known (hemail.symm ▸ h)
  cases hgoogle : s.findByGoogleId profile.googleId with
  | some user => exact Or.inl ⟨Or.inl rfl, hknown (Or.inl (hgoogle ▸ rfl))⟩
  | none =>
    cases haddress : s.findByEmail invitation.email with
    | some user => exact Or.inl ⟨Or.inr rfl, hknown (Or.inr (haddress ▸ rfl))⟩
    | none =>
      rw [Store.fleet_of_unknown hgoogle (hemail.symm ▸ haddress), hemail]
      obtain ⟨picked, hpicked⟩ := Option.isSome_iff_exists.mp
        (findPendingInvitation_isSome call hthere hpending htime)
      refine Or.inr ⟨⟨rfl, rfl⟩, picked, hpicked, ?_⟩
      have hcreate := (FleetTables.createUsers_isSome_iff
        (Auth.googleUser call profile invitation.email (some picked)) hnew rfl).mpr haddress
      obtain ⟨users, husers⟩ := Option.isSome_iff_exists.mp hcreate
      simp only [hpicked, Store.createGoogleUser, husers]
      constructor
      · refine (FleetTables.membership_create
          (Auth.googleUser call profile invitation.email (some picked)) hnew rfl husers).trans ?_
        exact congrArg (fun l => some (Membership.mk _ _ (List.map _ l)))
          (FleetTables.driversOf_of_new (s := s.fleet) haccount)
      · refine (FleetTables.invitationStatus_update (s := { s.fleet with users := users })
          (f := fun i => { i with status := .accepted, acceptedAt := some call.now }) (fun _ => rfl)
          (fun _ => rfl) _ _).trans ?_
        rw [hthere, Option.map_some, hpending]

/-- Where both ways create the account, they leave the same exactly when Google takes up the same
invitation and it invites no driver. -/
theorem acceptedAlike_iff_of_accepted {t u : FleetTables} {userId : String} {picked : Invitation}
    {drivers : List String} (hthere : s.fleet.invitations.lookup invitation.token = some invitation)
    (hpicked : picked ∈ s.fleet.invitations.rows)
    (htmember : t.membership userId = some ⟨invitation.companyId, invitation.role, drivers⟩)
    (hlength : drivers.length = if invitation.role = .driver then 1 else 0)
    (htstatus : t.invitationStatus invitation.token = some .accepted)
    (humember : u.membership userId = some ⟨picked.companyId, picked.role, []⟩)
    (hustatus : u.invitationStatus invitation.token =
      some (if invitation.token = picked.token then .accepted else .pending)) :
    AcceptedAlike t u userId invitation.token ↔
      some picked = some invitation ∧ invitation.role ≠ .driver := by
  constructor
  · intro h
    have hsame : invitation.token = picked.token := by
      by_contra hne
      have hstatus := htstatus.symm.trans (h.status.trans hustatus)
      rw [if_neg hne] at hstatus
      cases hstatus
    have hself := Table.mem_rows_iff.mp hpicked
    rw [← hsame, hthere] at hself
    obtain rfl : invitation = picked := Option.some.inj hself
    refine ⟨rfl, fun hrole => ?_⟩
    have hmember := htmember.symm.trans (h.membership.trans humember)
    obtain rfl : drivers = [] := congrArg Membership.drivers (Option.some.inj hmember)
    rw [if_pos hrole] at hlength
    cases hlength
  · rintro ⟨hself, hrole⟩
    obtain rfl : picked = invitation := Option.some.inj hself
    rw [if_neg hrole] at hlength
    obtain rfl : drivers = [] := List.length_eq_zero_iff.mp hlength
    refine ⟨htmember.trans humember.symm, htstatus.trans ?_, fun m hm hdriver => ?_⟩
    · rw [hustatus, if_pos rfl]
    · obtain rfl := Option.some.inj (htmember.symm.trans hm)
      exact absurd hdriver hrole

/-- The two ways leave the same exactly when neither creates an account, or Google takes up the
invitation and it invites no driver. -/
theorem acceptedAlike_iff {driverId rowId : String} {userData : UserData}
    (hthere : s.fleet.invitations.lookup invitation.token = some invitation)
    (hpending : invitation.status = .pending) (htime : call.now ≤ invitation.expiresAt)
    (hemail : normalizeEmail profile.email = invitation.email)
    (hnew : s.fleet.NewIds call.userId driverId) :
    AcceptedAlike
        (s.fleet.invitationsAccept ⟨call.now, driverId, call.userId, rowId⟩ invitation.token
          userData).2
        (s.validateGoogleUser cfg H call profile).2.fleet call.userId invitation.token ↔
      (s.findByEmail invitation.email).isSome = true ∨
        if (s.findByGoogleId profile.googleId).isSome = true then
          s.fleet.LicenseTaken call.userId invitation
        else
          s.findPendingInvitation call.now invitation.email = some invitation ∧
            invitation.role ≠ .driver := by
  have hmembership := FleetTables.membership_of_new hnew.user
  have hnew' : s.fleet.NewIds (Call.mk call.now driverId call.userId rowId).userId driverId := hnew
  have haccept := FleetTables.invitationsAccept_cases invitation userData hnew' hthere hpending htime
  have hgoogle := validateGoogleUser_cases cfg H call profile hemail hnew.user hnew.account hthere
    hpending htime
  generalize (s.fleet.invitationsAccept ⟨call.now, driverId, call.userId, rowId⟩ invitation.token
    userData).2 = t at haccept ⊢
  generalize (s.validateGoogleUser cfg H call profile).2.fleet = u at hgoogle ⊢
  rcases haccept with ⟨hrefused, rfl⟩ | ⟨haccepted, drivers, htmember, hlength, htstatus⟩
  · rcases hgoogle with ⟨hknown, rfl⟩ | ⟨⟨hunknown, hfree⟩, picked, hpicked, humember, -⟩
    · refine iff_of_true ⟨rfl, rfl, fun m hm => ?_⟩ ?_
      · cases hmembership.symm.trans hm
      · rcases hknown with hknown | hknown
        · rw [if_pos hknown]
          exact hrefused
        · exact Or.inl hknown
    · refine iff_of_false (fun h => ?_) ?_
      · cases hmembership.symm.trans (h.membership.trans humember)
      · have hlicense := hrefused.resolve_left (by rw [← Store.findByEmail, hfree]; simp)
        rintro (htaken | htaken)
        · rw [hfree] at htaken
          cases htaken
        · rw [hunknown] at htaken
          exact htaken.2 hlicense.role
  · have hfree : ¬(s.findByEmail invitation.email).isSome = true := fun h => haccepted (Or.inl h)
    rw [or_iff_right hfree]
    rcases hgoogle with ⟨hknown, rfl⟩ | ⟨⟨hunknown, -⟩, picked, hpicked, humember, hustatus⟩
    · refine iff_of_false (fun h => ?_) ?_
      · cases htmember.symm.trans (h.membership.trans hmembership)
      · rw [if_pos (hknown.resolve_right hfree)]
        exact fun htaken => haccepted (Or.inr htaken)
    · rw [hunknown, Option.isSome_none, if_neg Bool.false_ne_true, hpicked]
      exact acceptedAlike_iff_of_accepted hthere (Table.mem_of_findFirst hpicked).1 htmember hlength
        htstatus humember hustatus

end Google

/-! ### A dispatcher and a driver who are invited -/

open Auth (oneAccount plainAccount plainCredentials identityHash)

def invitationOf (role : UserRole) : Invitation where
  token := "digest-1"
  companyId := "company-1"
  email := "vola@example.mg"
  role := role
  status := .pending
  expiresAt := 604800000
  acceptedAt := none

/-- A company that invites one. -/
def inviting (role : UserRole) : Store Jwt :=
  let s := oneAccount Jwt plainAccount plainCredentials
  { s with
    fleet := { s.fleet with invitations := ⟨[invitationOf role], List.pairwise_singleton _ _⟩ } }

def volaAccepts (role : UserRole) : FleetTables :=
  ((inviting role).fleet.invitationsAccept ⟨1000, "driver-2", "user-2", "row-2"⟩ "digest-1"
    ⟨"Vola", "Rabe", none⟩).2

def volaByGoogle (role : UserRole) : FleetTables :=
  ((inviting role).validateGoogleUser ⟨900, 604800, 604800⟩ identityHash
    ⟨1000, "user-2", "company-2", "session-2", "hash-2"⟩
    ⟨"google-2", "Vola@example.mg", "Vola", "Rabe"⟩).2.fleet

theorem newIds_inviting (role : UserRole) :
    (inviting role).fleet.NewIds "user-2" "driver-2" := by
  refine ⟨fun u hu => ?_, fun d hd => (nomatch hd), fun d hd => (nomatch hd)⟩
  rw [List.mem_singleton.mp hu]
  decide

theorem dispatcherInvited_alike :
    AcceptedAlike (volaAccepts .dispatcher) (volaByGoogle .dispatcher) "user-2" "digest-1" := by
  have hthere : (inviting .dispatcher).fleet.invitations.lookup (invitationOf .dispatcher).token =
      some (invitationOf .dispatcher) := rfl
  refine (acceptedAlike_iff ⟨900, 604800, 604800⟩ identityHash
    ⟨1000, "user-2", "company-2", "session-2", "hash-2"⟩
    ⟨"google-2", "Vola@example.mg", "Vola", "Rabe"⟩ hthere rfl (by decide) (by decide)
    (newIds_inviting .dispatcher)).mpr (Or.inr ?_)
  rw [if_neg (by decide)]
  exact ⟨rfl, by decide⟩

/-- Both create the account of the driver and accept the invitation; through Google it has no
driver. -/
theorem driverInvited_unlike :
    (volaAccepts .driver).membership "user-2" = some ⟨"company-1", .driver, ["driver-2"]⟩ ∧
      (volaByGoogle .driver).membership "user-2" = some ⟨"company-1", .driver, []⟩ ∧
      (volaByGoogle .driver).invitationStatus "digest-1" = some .accepted ∧
      ¬AcceptedAlike (volaAccepts .driver) (volaByGoogle .driver) "user-2" "digest-1" := by
  have haccept : (volaAccepts .driver).membership "user-2" =
      some ⟨"company-1", .driver, ["driver-2"]⟩ := by decide +kernel
  have hgoogle : (volaByGoogle .driver).membership "user-2" =
      some ⟨"company-1", .driver, []⟩ := by decide +kernel
  refine ⟨haccept, hgoogle, by decide +kernel, fun h => ?_⟩
  cases haccept.symm.trans (h.membership.trans hgoogle)

end DeliveryTracking.Fleet
