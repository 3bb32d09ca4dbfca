/-
# `DeliveryTracking.Fleet.Invitations` — the life of an invitation

Four operations work on an invitation.  Each reads it first, checks that it is
pending, and writes later, by its id, whatever it has become since:

    accept              an account, its driver, and `accepted`
                        (`expired` instead, when it is over its time)
    resend              a new token and a new time
    revoke              `revoked`
    validateGoogleUser  an account, and `accepted`

A call that runs alone leaves what `invitationsAccept` and the whole of
`validateGoogleUser` leave (`accept_alone`, `validateGoogleUser_alone`).  But a
`revoke` can come between the check and the write of the others, and they
between its own.  A write of the status is harmless while the invitation is
pending or expired, or when it revokes again; and a run whose writes are all
harmless is one in which a revoked invitation stays revoked and gives no account,
an accepted one stays accepted, and none gives two accounts
(`life_kept_iff`).
-/
import DeliveryTracking.Auth.Login

namespace DeliveryTracking.Fleet

open Auth (Store GoogleProfile GoogleCall LoginError AuthConfig TokenHash)

/-! ## Rows -/

/-- An invitation with its id, which the writes go by: `resend` changes the token. -/
structure InvitationRow extends Invitation where
  id : String
  deriving DecidableEq, Repr

/-- The columns other than the id are written. -/
def InvitationRow.write (f : Invitation → Invitation) (i : InvitationRow) : InvitationRow :=
  { i with toInvitation := f i.toInvitation }

/-- `invitation.update` by id. -/
def writeInvitation (t : Table InvitationRow.id Eq) (id : String) (f : Invitation → Invitation) :
    Table InvitationRow.id Eq :=
  t.update (fun i => decide (i.id = id)) (InvitationRow.write f) fun _ => rfl

def Invitation.accept (now : Int) (i : Invitation) : Invitation :=
  { i with status := .accepted, acceptedAt := some now }

/-- `INVITATION_EXPIRY_MS`: seven days. -/
def invitationExpiryMs : Nat := 604800000

inductive InvitationError where
  | resendNotPending
  | revokeNotPending
  | fleet (e : FleetError)
  | login (e : LoginError)
  deriving DecidableEq, Repr

def InvitationError.message : InvitationError → String
  | .resendNotPending => "Can only resend pending invitations"
  | .revokeNotPending => "Can only revoke pending invitations"
  | .fleet e => e.message
  | .login e => e.message

/-! ## The calls together -/

/-- Where a call stands. -/
inductive InvitationTask where
  | accepting (invitation : InvitationRow) (userData : UserData)
  /-- `findByToken` found it over its time. -/
  | expiring (id : String)
  | resending (id : String)
  | revoking (id : String)
  /-- `validateGoogleUser` found no account of the Google id. -/
  | byEmail (profile : GoogleProfile)
  | inviting (profile : GoogleProfile)
  | creating (profile : GoogleProfile) (pendingInvitation : Option InvitationRow)
  | returned
  | refused (e : InvitationError)
  deriving DecidableEq, Repr

/-- The invitation a call will write. -/
def InvitationTask.about : InvitationTask → Option String
  | .accepting invitation _ => some invitation.id
  | .expiring id | .resending id | .revoking id => some id
  | .creating _ pendingInvitation => pendingInvitation.map (·.id)
  | _ => none

/-- What is new in the rows that a step writes. -/
structure NewRow where
  userId : String
  driverId : String
  companyId : String
  passwordHash : String
  /-- The digest of a new token. -/
  token : String
  deriving DecidableEq, Repr

/-- What has become of an invitation. -/
inductive InvitationOutcome where
  /-- `revoke` has returned. -/
  | revoked (id : String)
  /-- An account was created from it, and it is accepted. -/
  | accountCreated (id userId : String)
  deriving DecidableEq, Repr

def InvitationOutcome.creates (id : String) : InvitationOutcome → Bool
  | .accountCreated k _ => k == id
  | .revoked _ => false

structure InvitationState (Hash : Type) where
  /-- Milliseconds. -/
  clock : Nat
  /-- Accounts and drivers.  Its own invitations, which have no ids, are not read. -/
  store : Store Hash
  invitations : Table InvitationRow.id Eq
  tasks : List InvitationTask
  /-- The newest first; no code reads it. -/
  log : List InvitationOutcome

inductive InvitationEvent (Hash : Type) where
  | invited (row : InvitationRow)
  | accept (token : String) (userData : UserData)
  | resend (companyId id : String)
  | revoke (companyId id : String)
  | validateGoogleUser (profile : GoogleProfile)
  /-- The next step of a call. -/
  | next (i : Nat) (new : NewRow)
  /-- Others write accounts and drivers. -/
  | written (store : Store Hash)
  | later (ms : Nat)

namespace InvitationState

variable {Hash : Type} (s : InvitationState Hash)

def start (clock : Nat) (store : Store Hash) : InvitationState Hash := ⟨clock, store, .empty, [], []⟩

def status (id : String) : Option InvitationStatus := (s.invitations.lookup id).map (·.status)

def find (companyId id : String) : Option InvitationRow :=
  s.invitations.findFirst fun i => i.id == id && i.companyId == companyId

/-- The reads of `accept`, which are `findByToken`. -/
def accept (token : String) (userData : UserData) : InvitationTask :=
  match s.invitations.findFirst (·.token == token) with
  | none => .refused (.fleet .invitationNotFound)
  | some invitation =>
    if invitation.status ≠ .pending then
      .refused (.fleet (.invitationAlready invitation.status))
    else if invitation.expiresAt < s.clock then .expiring invitation.id
    else .accepting invitation userData

def resend (companyId id : String) : InvitationTask :=
  match s.find companyId id with
  | none => .refused (.fleet .invitationNotFound)
  | some invitation =>
    if invitation.status ≠ .pending then .refused .resendNotPending else .resending id

def revoke (companyId id : String) : InvitationTask :=
  match s.find companyId id with
  | none => .refused (.fleet .invitationNotFound)
  | some invitation =>
    if invitation.status ≠ .pending then .refused .revokeNotPending else .revoking id

/-- The first read of `validateGoogleUser`; with an account it goes on without invitations. -/
def validateGoogleUser (profile : GoogleProfile) : InvitationTask :=
  if (s.store.findByGoogleId profile.googleId).isSome then .returned else .byEmail profile

/-- A pending invitation of an address that is not over its time. -/
def findPendingInvitation (email : String) : Option InvitationRow :=
  s.invitations.findFirst fun i =>
    i.email == email && (i.status == .pending && decide ((s.clock : Int) ≤ i.expiresAt))

/-- The account of the transaction of `accept`, and its driver. -/
def acceptAccount (new : NewRow) (invitation : InvitationRow) (userData : UserData) :
    Except FleetError (Store Hash) :=
  (s.store.fleet.acceptInvitation ⟨s.clock, new.driverId, new.userId, ""⟩ invitation.toInvitation
    userData).map fun fleet =>
      { s.store with
        fleet := fleet
        credentials := Function.update s.store.credentials new.userId
          ⟨new.passwordHash, none, none, false, none, none, none⟩ }

/-- The account of the transaction of `validateGoogleUser`. -/
def googleAccount (new : NewRow) (profile : GoogleProfile)
    (pendingInvitation : Option InvitationRow) : Except LoginError (Store Hash) :=
  if s.store.googleIdTaken new.userId profile.googleId then
    .error (.prisma (.unique ["google_id"]))
  else
    (s.store.createGoogleUser ⟨s.clock, new.userId, new.companyId, "", new.passwordHash⟩ profile
      (normalizeEmail profile.email) (pendingInvitation.map (·.toInvitation))).map Prod.snd

/-- `invitation.update`, with what becomes of the invitation by it. -/
def writeRow (id : String) (f : Invitation → Invitation) (outcome : Option InvitationOutcome) :
    InvitationState Hash :=
  { s with
    invitations := writeInvitation s.invitations id f
    log := outcome.toList ++ s.log }

/-- The next step of a call; one that ended takes none. -/
def advance (new : NewRow) : InvitationTask → InvitationTask × InvitationState Hash
  | .accepting invitation userData =>
    match s.acceptAccount new invitation userData with
    | .error e => (.refused (.fleet e), s)
    | .ok store =>
      (.returned, { s with store := store }.writeRow invitation.id (Invitation.accept s.clock)
        (some (.accountCreated invitation.id new.userId)))
  | .expiring id =>
    (.refused (.fleet .invitationExpired), s.writeRow id (fun i => { i with status := .expired }) none)
  | .resending id =>
    (.returned, s.writeRow id
      (fun i => { i with token := new.token, expiresAt := s.clock + invitationExpiryMs }) none)
  | .revoking id =>
    (.returned, s.writeRow id (fun i => { i with status := .revoked }) (some (.revoked id)))
  | .byEmail profile =>
    if (s.store.findByEmail (normalizeEmail profile.email)).isSome then (.returned, s)
    else (.inviting profile, s)
  | .inviting profile =>
    (.creating profile (s.findPendingInvitation (normalizeEmail profile.email)), s)
  | .creating profile pendingInvitation =>
    match s.googleAccount new profile pendingInvitation with
    | .error e => (.refused (.login e), s)
    | .ok store =>
      (.returned, pendingInvitation.elim { s with store := store } fun invitation =>
        { s with store := store }.writeRow invitation.id (Invitation.accept s.clock)
          (some (.accountCreated invitation.id new.userId)))
  | task => (task, s)

/-- A call starts. -/
def add (task : InvitationTask) : InvitationState Hash := { s with tasks := s.tasks ++ [task] }

def step : InvitationEvent Hash → Option (InvitationState Hash)
  | .invited row =>
    (s.invitations.create { row with status := .pending, acceptedAt := none }).map fun invitations =>
      { s with invitations := invitations }
  | .accept token userData => some (s.add (s.accept token userData))
  | .resend companyId id => some (s.add (s.resend companyId id))
  | .revoke companyId id => some (s.add (s.revoke companyId id))
  | .validateGoogleUser profile => some (s.add (s.validateGoogleUser profile))
  | .next i new =>
    (s.tasks[i]?).map fun task =>
      let result := s.advance new task
      { result.2 with tasks := result.2.tasks.set i result.1 }
  | .written store => some { s with store := store }
  | .later ms => some { s with clock := s.clock + ms }

/-- A revoked invitation is revoked and gave no account since; an accepted one is accepted; none
gave two accounts. -/
structure LifeKept : Prop where
  revoked : ∀ id, .revoked id ∈ s.log → s.status id = some .revoked
  ordered : s.log.Pairwise fun later earlier =>
    ∀ id userId, earlier = .revoked id → later ≠ .accountCreated id userId
  accepted : ∀ id userId, .accountCreated id userId ∈ s.log → s.status id = some .accepted
  one : ∀ id, s.log.countP (InvitationOutcome.creates id) ≤ 1

/-- The status that a step of a call writes, if the write goes through. -/
def writes (new : NewRow) : InvitationTask → Option (String × InvitationStatus)
  | .accepting invitation userData =>
    if (s.acceptAccount new invitation userData).isOk then some (invitation.id, .accepted) else none
  | .expiring id => some (id, .expired)
  | .revoking id => some (id, .revoked)
  | .creating profile (some invitation) =>
    if (s.googleAccount new profile (some invitation)).isOk then some (invitation.id, .accepted)
    else none
  | _ => none

/-- A write of a status harms no invitation that is pending or expired; revoking again is harmless
too. -/
def harmless (id : String) (new : InvitationStatus) : Bool :=
  (s.status id).all fun old =>
    old == .pending || old == .expired || (old == .revoked && new == .revoked)

/-- What a step writes is harmless. -/
def WritesHarmless (s : InvitationState Hash) : InvitationEvent Hash → Prop
  | .next i new =>
    ((s.tasks[i]?).bind (s.writes new)).all (fun w => s.harmless w.1 w.2) = true
  | _ => True

instance (s : InvitationState Hash) : DecidablePred s.WritesHarmless
  | .next .. => inferInstanceAs (Decidable (_ = true))
  | .invited _ | .accept .. | .resend .. | .revoke .. | .validateGoogleUser _ | .written _
  | .later _ => .isTrue trivial

/-! ## A call alone -/

/-- The invitations without their ids are those of the store. -/
def Mirrored (tables : FleetTables) : Prop :=
  tables.invitations.rows = s.invitations.rows.map (·.toInvitation)

variable {s} {t : InvitationState Hash} {e : InvitationEvent Hash}

/-- The transaction writes the invitations as it finds them. -/
theorem invitations_of_acceptInvitation {tables u : FleetTables} {call : Call}
    {invitation : Invitation} {userData : UserData}
    (h : tables.acceptInvitation call invitation userData = .ok u) :
    u.invitations = tables.invitations.update (·.token == invitation.token)
      (fun i => { i with status := .accepted, acceptedAt := some call.now }) fun _ => rfl := by
  simp only [FleetTables.acceptInvitation, bind_eq_ok] at h
  obtain ⟨created, hcreate, linked, hlink, h⟩ := h
  cases h
  have hcreated : created.invitations = tables.invitations := by
    unfold FleetTables.createUser at hcreate
    split at hcreate
    · cases hcreate
      rfl
    · cases hcreate
  have hlinked : linked.invitations = created.invitations := by
    unfold FleetTables.linkDriver at hlink
    split at hlink
    · split at hlink
      · unfold FleetTables.updateDriver at hlink
        split at hlink
        · cases hlink
          rfl
        · cases hlink
      · unfold FleetTables.createDriver at hlink
        split at hlink
        · cases hlink
          rfl
        · cases hlink
    · cases hlink
      rfl
  rw [← hcreated, ← hlinked]

theorem lookup_of_mirrored {tables : FleetTables} (h : s.Mirrored tables) (token : String) :
    tables.invitations.lookup token =
      (s.invitations.findFirst (·.token == token)).map (·.toInvitation) := by
  show tables.invitations.rows.find? _ = _
  rw [h, List.find?_map]
  rfl

/-- A write by the id of a row is the write by its token. -/
theorem mirrored_writeRow {tables : FleetTables} (h : s.Mirrored tables) {row : InvitationRow}
    (hrow : row ∈ s.invitations.rows) {f : Invitation → Invitation}
    (hf : ∀ i, (f i).token = i.token) (outcome : Option InvitationOutcome) :
    (s.writeRow row.id f outcome).Mirrored
      { tables with invitations := tables.invitations.update (·.token == row.token) f hf } := by
  have htokens : (s.invitations.rows.map (·.token)).Nodup := by
    have hunique := tables.invitations.unique
    rw [h, List.pairwise_map] at hunique
    exact List.pairwise_map.mpr hunique
  show (tables.invitations.rows.map _) = (s.invitations.rows.map _).map _
  rw [h, List.map_map, List.map_map]
  refine List.map_congr_left fun r hr => ?_
  have hsame : r.token = row.token ↔ r.id = row.id := by
    constructor
    · intro htoken
      rw [List.inj_on_of_nodup_map htokens hr hrow htoken]
    · intro hid
      rw [Table.eq_of_clash (fun _ _ => Eq.symm) hr hrow hid]
  by_cases hid : r.id = row.id
  · simp [hid, hsame.mpr hid, InvitationRow.write]
  · simp [hid, mt hsame.mp hid]

/-- With nothing in between, the two steps of `accept` leave the accounts, drivers and invitations
of `invitationsAccept`. -/
theorem accept_alone (h : s.Mirrored s.store.fleet) (new : NewRow) (token : String)
    (userData : UserData) {alone : Except FleetError Unit × FleetTables}
    (halone : s.store.fleet.invitationsAccept ⟨s.clock, new.driverId, new.userId, ""⟩ token userData =
      alone) :
    (s.advance new (s.accept token userData)).2.store.fleet.users = alone.2.users ∧
      (s.advance new (s.accept token userData)).2.store.fleet.drivers = alone.2.drivers ∧
      (s.advance new (s.accept token userData)).2.Mirrored alone.2 := by
  subst halone
  have hlookup := lookup_of_mirrored h token
  simp only [FleetTables.invitationsAccept, FleetTables.findByToken, accept]
  cases hfound : s.invitations.findFirst (·.token == token) with
  | none =>
    rw [hfound, Option.map_none] at hlookup
    rw [hlookup]
    exact ⟨rfl, rfl, h⟩
  | some row =>
    rw [hfound, Option.map_some] at hlookup
    obtain ⟨hrow, htoken⟩ := Table.mem_of_findFirst hfound
    rw [hlookup]
    dsimp only
    obtain rfl : row.token = token := beq_iff_eq.mp htoken
    by_cases hpending : row.status = .pending
    · by_cases htime : row.expiresAt < s.clock
      · simp only [hpending, ne_eq, not_true_eq_false, if_false, htime, if_true]
        exact ⟨rfl, rfl, mirrored_writeRow h hrow _ _⟩
      · simp only [hpending, ne_eq, not_true_eq_false, if_false, htime, advance, acceptAccount]
        cases haccept : s.store.fleet.acceptInvitation ⟨s.clock, new.driverId, new.userId, ""⟩
            row.toInvitation userData with
        | error e => exact ⟨rfl, rfl, h⟩
        | ok fleet =>
          refine ⟨rfl, rfl, ?_⟩
          have hwrite := mirrored_writeRow h hrow (f := Invitation.accept s.clock) (fun _ => rfl)
            (some (.accountCreated row.id new.userId))
          show fleet.invitations.rows = _
          rw [invitations_of_acceptInvitation haccept]
          exact hwrite
    · simp only [ne_eq, hpending, not_false_eq_true, if_true]
      exact ⟨rfl, rfl, h⟩

theorem findPendingInvitation_of_mirrored (h : s.Mirrored s.store.fleet) (email : String) :
    s.store.findPendingInvitation s.clock email =
      (s.findPendingInvitation email).map (·.toInvitation) := by
  show s.store.fleet.invitations.rows.find? _ = _
  rw [h, List.find?_map]
  rfl

/-- No other account has a Google id that none has. -/
theorem googleAccount_of_free (new : NewRow) (sessionId : String) (profile : GoogleProfile)
    (picked : Option InvitationRow) (h : s.store.findByGoogleId profile.googleId = none) :
    s.googleAccount new profile picked =
      (s.store.createGoogleUser ⟨s.clock, new.userId, new.companyId, sessionId, new.passwordHash⟩
        profile (normalizeEmail profile.email) (picked.map (·.toInvitation))).map Prod.snd := by
  have hfree : s.store.googleIdTaken new.userId profile.googleId = false := by
    refine List.any_eq_false.mpr fun a ha htaken => ?_
    exact List.find?_eq_none.mp h a ha ((Bool.and_eq_true _ _).mp htaken).2
  rw [googleAccount, hfree]
  rfl

theorem invitations_of_createGoogleUser {store : Store Hash} {call : GoogleCall}
    {profile : GoogleProfile} {email : String} {picked : Option Invitation}
    {result : User × Store Hash} (h : store.createGoogleUser call profile email picked = .ok result) :
    result.2.fleet.invitations = picked.elim store.fleet.invitations fun invitation =>
      store.fleet.invitations.update (·.token == invitation.token)
        (fun i => { i with status := .accepted, acceptedAt := some call.now }) fun _ => rfl := by
  unfold Store.createGoogleUser at h
  split at h
  · cases h
  · cases h
    rfl

/-- With nothing in between, the steps of `validateGoogleUser` leave the tables of the whole call. -/
theorem validateGoogleUser_alone (h : s.Mirrored s.store.fleet) (cfg : AuthConfig)
    (H : TokenHash Hash) (new : NewRow) (sessionId : String) (profile : GoogleProfile)
    {alone : FleetTables} (halone : (s.store.validateGoogleUser cfg H
      ⟨s.clock, new.userId, new.companyId, sessionId, new.passwordHash⟩ profile).2.fleet = alone)
    (hsteps : ((fun p => p.2.advance new p.1)^[3] (s.validateGoogleUser profile, s)).2 = t) :
    t.store.fleet.users = alone.users ∧ t.store.fleet.drivers = alone.drivers ∧
      t.Mirrored alone := by
  have hknown : (s.store.findByGoogleId profile.googleId).isSome = true ∨
      (s.store.findByEmail (normalizeEmail profile.email)).isSome = true → s.store.fleet = alone :=
    fun hsome => (Store.fleet_of_known hsome).symm.trans halone
  cases hgoogle : s.store.findByGoogleId profile.googleId with
  | some user =>
    have hreturned : s.validateGoogleUser profile = .returned := by
      rw [validateGoogleUser, hgoogle]
      rfl
    rw [hreturned] at hsteps
    obtain rfl : s = t := hsteps
    rw [← hknown (Or.inl (hgoogle ▸ rfl))]
    exact ⟨rfl, rfl, h⟩
  | none =>
    have hbyEmail : s.validateGoogleUser profile = .byEmail profile := by
      rw [validateGoogleUser, hgoogle]
      rfl
    rw [hbyEmail] at hsteps
    cases hemail : s.store.findByEmail (normalizeEmail profile.email) with
    | some user =>
      have hfirst : s.advance new (.byEmail profile) = (.returned, s) := by
        rw [advance, hemail]
        rfl
      have hrest : ((fun p => p.2.advance new p.1)^[2] (s.advance new (.byEmail profile))).2 = t :=
        hsteps
      rw [hfirst] at hrest
      obtain rfl : s = t := hrest
      rw [← hknown (Or.inr (hemail ▸ rfl))]
      exact ⟨rfl, rfl, h⟩
    | none =>
      have hfirst : s.advance new (.byEmail profile) = (.inviting profile, s) := by
        rw [advance, hemail]
        rfl
      have hrest : ((fun p => p.2.advance new p.1)^[2] (s.advance new (.byEmail profile))).2 = t :=
        hsteps
      rw [hfirst] at hrest
      generalize hpicked : s.findPendingInvitation (normalizeEmail profile.email) = picked
      have hlast : (s.advance new (.creating profile picked)).2 = t := hpicked ▸ hrest
      rw [Store.fleet_of_unknown hgoogle hemail, findPendingInvitation_of_mirrored h, hpicked]
        at halone
      have haccount := googleAccount_of_free new sessionId profile picked hgoogle
      simp only [advance, haccount] at hlast
      cases hcreate : s.store.createGoogleUser
          ⟨s.clock, new.userId, new.companyId, sessionId, new.passwordHash⟩ profile
          (normalizeEmail profile.email) (picked.map (·.toInvitation)) with
      | error e =>
        rw [hcreate] at hlast halone
        obtain rfl : s = t := hlast
        obtain rfl : s.store.fleet = alone := halone
        exact ⟨rfl, rfl, h⟩
      | ok result =>
        rw [hcreate] at hlast halone
        obtain rfl : result.2.fleet = alone := halone
        have hrows := invitations_of_createGoogleUser hcreate
        cases picked with
        | none =>
          obtain rfl : { s with store := result.2 } = t := hlast
          refine ⟨rfl, rfl, ?_⟩
          show result.2.fleet.invitations.rows = _
          rw [hrows]
          exact h
        | some row =>
          obtain rfl := hlast
          have hwrite := mirrored_writeRow h (Table.mem_of_findFirst hpicked).1
            (f := Invitation.accept s.clock) (fun _ => rfl) (some (.accountCreated row.id new.userId))
          refine ⟨rfl, rfl, ?_⟩
          show result.2.fleet.invitations.rows = _
          rw [hrows]
          exact hwrite

/-! ## What a step does to the invitations -/

/-- The status that is written, and what is noted with it. -/
def Noted (id : String) : InvitationStatus → Option InvitationOutcome → Prop
  | .expired, outcome => outcome = none
  | .revoked, outcome => outcome = some (.revoked id)
  | .accepted, outcome => ∃ userId, outcome = some (.accountCreated id userId)
  | .pending, _ => False

/-- The states of the invitations and the log are as before. -/
structure Unwritten (s t : InvitationState Hash) : Prop where
  status : ∀ k, t.status k = s.status k
  log : t.log = s.log

/-- A status was written. -/
structure Written (s t : InvitationState Hash) (id : String) (new : InvitationStatus)
    (outcome : Option InvitationOutcome) : Prop where
  status : ∀ k, t.status k = if k = id then (s.status k).map fun _ => new else s.status k
  log : t.log = outcome.toList ++ s.log
  noted : Noted id new outcome

theorem status_writeRow (id : String) (f : Invitation → Invitation)
    (outcome : Option InvitationOutcome) (k : String) :
    (s.writeRow id f outcome).status k =
      if k = id then (s.invitations.lookup k).map fun i => (f i.toInvitation).status
      else s.status k := by
  have hlookup : (writeInvitation s.invitations id f).lookup k =
      if k = id then (s.invitations.lookup k).map (InvitationRow.write f)
      else s.invitations.lookup k :=
    Table.lookup_update s.invitations id (InvitationRow.write f) (fun _ => rfl) k
  show ((writeInvitation s.invitations id f).lookup k).map _ = _
  rw [hlookup]
  split
  · rw [Option.map_map]
    rfl
  · rfl

theorem written_writeRow {id : String} {f : Invitation → Invitation} {new : InvitationStatus}
    {outcome : Option InvitationOutcome} (hf : ∀ i, (f i).status = new) (hnoted : Noted id new outcome)
    (hst : s.invitations = t.invitations) (hlog : s.log = t.log) :
    Written t (s.writeRow id f outcome) id new outcome := by
  refine ⟨fun k => ?_, congrArg (outcome.toList ++ ·) hlog, hnoted⟩
  rw [status_writeRow]
  simp only [hf]
  unfold status
  rw [hst]
  split
  · rw [Option.map_map]
    rfl
  · rfl

/-- Everything a step of a call can do. -/
theorem advance_cases (new : NewRow) (task : InvitationTask) :
    (s.writes new task = none ∧ Unwritten s (s.advance new task).2) ∨
      ∃ id status outcome, s.writes new task = some (id, status) ∧
        Written s (s.advance new task).2 id status outcome := by
  cases task with
  | accepting invitation userData =>
    simp only [advance, writes]
    cases s.acceptAccount new invitation userData with
    | error e => exact Or.inl ⟨rfl, fun _ => rfl, rfl⟩
    | ok store =>
      exact Or.inr ⟨_, _, _, rfl, written_writeRow (fun _ => rfl) ⟨_, rfl⟩ rfl rfl⟩
  | expiring id =>
    exact Or.inr ⟨_, _, _, rfl, written_writeRow (fun _ => rfl) rfl rfl rfl⟩
  | resending id =>
    refine Or.inl ⟨rfl, fun k => ?_, rfl⟩
    refine (status_writeRow ..).trans ?_
    split
    · rfl
    · rfl
  | revoking id =>
    exact Or.inr ⟨_, _, _, rfl, written_writeRow (fun _ => rfl) rfl rfl rfl⟩
  | byEmail profile =>
    simp only [advance, writes]
    split
    · exact Or.inl ⟨trivial, fun _ => rfl, rfl⟩
    · exact Or.inl ⟨trivial, fun _ => rfl, rfl⟩
  | inviting profile => exact Or.inl ⟨rfl, fun _ => rfl, rfl⟩
  | creating profile pendingInvitation =>
    cases pendingInvitation with
    | none =>
      simp only [advance, writes]
      split
      · exact Or.inl ⟨trivial, fun _ => rfl, rfl⟩
      · exact Or.inl ⟨trivial, fun _ => rfl, rfl⟩
    | some invitation =>
      simp only [advance, writes]
      cases s.googleAccount new profile (some invitation) with
      | error e => exact Or.inl ⟨rfl, fun _ => rfl, rfl⟩
      | ok store =>
        exact Or.inr ⟨_, _, _, rfl, written_writeRow (fun _ => rfl) ⟨_, rfl⟩ rfl rfl⟩
  | returned => exact Or.inl ⟨rfl, fun _ => rfl, rfl⟩
  | refused e => exact Or.inl ⟨rfl, fun _ => rfl, rfl⟩

/-! ## A harmless write, and a harmful one -/

/-- What every run keeps: what has become of an invitation is in the log, and calls work on
invitations that are there. -/
structure Known (s : InvitationState Hash) : Prop where
  revoked : ∀ id, s.status id = some .revoked → .revoked id ∈ s.log
  accepted : ∀ id, s.status id = some .accepted → ∃ userId, .accountCreated id userId ∈ s.log
  there : ∀ task ∈ s.tasks, ∀ id, task.about = some id → (s.status id).isSome = true

theorem creates_eq_true_iff {o : InvitationOutcome} {id : String} :
    o.creates id = true ↔ ∃ userId, o = .accountCreated id userId := by
  cases o with
  | revoked k => simp [InvitationOutcome.creates]
  | accountCreated k u =>
    rw [InvitationOutcome.creates, beq_iff_eq]
    constructor
    · rintro rfl
      exact ⟨u, rfl⟩
    · rintro ⟨_, h⟩
      cases h
      rfl

section Write

variable {id : String} {old new : InvitationStatus} {outcome : Option InvitationOutcome}

/-- Where the invitation was neither revoked nor accepted, nothing was noted of it. -/
theorem not_noted (hs : s.LifeKept) (hold : s.status id = some old) (hrevoked : old ≠ .revoked)
    (haccepted : old ≠ .accepted) :
    .revoked id ∉ s.log ∧ ∀ userId, .accountCreated id userId ∉ s.log := by
  constructor
  · intro hlog
    exact hrevoked (Option.some.inj (hold.symm.trans (hs.revoked id hlog)))
  · intro userId hlog
    exact haccepted (Option.some.inj (hold.symm.trans (hs.accepted id userId hlog)))

/-- Revoking what was not accepted. -/
theorem lifeKept_revoke (hs : s.LifeKept) (hold : s.status id = some old) (hne : old ≠ .accepted)
    (h : Written s t id .revoked outcome) : t.LifeKept := by
  have hlog : t.log = .revoked id :: s.log := by rw [h.log, show outcome = _ from h.noted]; rfl
  have hself : t.status id = some .revoked := by rw [h.status, if_pos rfl, hold]; rfl
  have hother : ∀ k, k ≠ id → t.status k = s.status k := fun k hk => by rw [h.status, if_neg hk]
  refine ⟨fun k hk => ?_, ?_, fun k userId hk => ?_, fun k => ?_⟩
  · by_cases hkid : k = id
    · rw [hkid, hself]
    · rw [hother k hkid]
      rw [hlog] at hk
      rcases List.mem_cons.mp hk with heq | hk
      · cases heq
        exact absurd rfl hkid
      · exact hs.revoked k hk
  · rw [hlog]
    refine List.pairwise_cons.mpr ⟨fun _ _ _ _ _ => ?_, hs.ordered⟩
    rintro ⟨⟩
  · rw [hlog] at hk
    rcases List.mem_cons.mp hk with heq | hk
    · cases heq
    · have hstatus := hs.accepted k userId hk
      by_cases hkid : k = id
      · subst hkid
        exact absurd (Option.some.inj (hold.symm.trans hstatus)) hne
      · rw [hother k hkid, hstatus]
  · rw [hlog, List.countP_cons_of_neg (by simp [InvitationOutcome.creates])]
    exact hs.one k

/-- What was noted of an invitation was noted of another than one of which nothing was. -/
theorem ne_of_noted (hs : s.LifeKept) (hold : s.status id = some old) (hrevoked : old ≠ .revoked)
    (haccepted : old ≠ .accepted) {k : String}
    (hk : .revoked k ∈ s.log ∨ ∃ u, .accountCreated k u ∈ s.log) : k ≠ id := by
  obtain ⟨hnotRevoked, hnotCreated⟩ := not_noted hs hold hrevoked haccepted
  rintro rfl
  rcases hk with hk | ⟨u, hk⟩
  · exact hnotRevoked hk
  · exact hnotCreated u hk

/-- Expiring what was pending or expired. -/
theorem lifeKept_expire (hs : s.LifeKept) (hold : s.status id = some old) (hrevoked : old ≠ .revoked)
    (haccepted : old ≠ .accepted) (h : Written s t id .expired outcome) : t.LifeKept := by
  have hlog : t.log = s.log := by rw [h.log, show outcome = none from h.noted]; rfl
  have hother : ∀ k, (.revoked k ∈ s.log ∨ ∃ u, .accountCreated k u ∈ s.log) →
      t.status k = s.status k := by
    intro k hk
    rw [h.status, if_neg (ne_of_noted hs hold hrevoked haccepted hk)]
  refine ⟨fun k hk => ?_, hlog ▸ hs.ordered, fun k u hk => ?_, hlog ▸ hs.one⟩
  · rw [hlog] at hk
    rw [hother k (Or.inl hk), hs.revoked k hk]
  · rw [hlog] at hk
    rw [hother k (Or.inr ⟨u, hk⟩), hs.accepted k u hk]

/-- Accepting what was pending or expired. -/
theorem lifeKept_accept (hs : s.LifeKept) (hold : s.status id = some old) (hrevoked : old ≠ .revoked)
    (haccepted : old ≠ .accepted) (h : Written s t id .accepted outcome) : t.LifeKept := by
  obtain ⟨hnotRevoked, hnotCreated⟩ := not_noted hs hold hrevoked haccepted
  obtain ⟨userId, houtcome⟩ := h.noted
  have hself : t.status id = some .accepted := by rw [h.status, if_pos rfl, hold]; rfl
  have hother : ∀ k, k ≠ id → t.status k = s.status k := fun k hk => by rw [h.status, if_neg hk]
  have hlog : t.log = .accountCreated id userId :: s.log := by rw [h.log, houtcome]; rfl
  refine ⟨fun k hk => ?_, ?_, fun k u hk => ?_, fun k => ?_⟩
  · rw [hlog] at hk
    rcases List.mem_cons.mp hk with heq | hbefore
    · cases heq
    · rw [hother k (ne_of_noted hs hold hrevoked haccepted (Or.inl hbefore)), hs.revoked k hbefore]
  · rw [hlog]
    refine List.pairwise_cons.mpr ⟨?_, hs.ordered⟩
    rintro _ hmem k u rfl heq
    cases heq
    exact hnotRevoked hmem
  · by_cases hkid : k = id
    · rw [hkid, hself]
    · rw [hlog] at hk
      rcases List.mem_cons.mp hk with heq | hk
      · cases heq
        exact absurd rfl hkid
      · rw [hother k hkid, hs.accepted k u hk]
  · rw [hlog, List.countP_cons]
    have hone := hs.one k
    split
    · rename_i hcreates
      obtain ⟨u, heq⟩ := creates_eq_true_iff.mp hcreates
      cases heq
      have hzero : s.log.countP (InvitationOutcome.creates id) = 0 := by
        refine List.countP_eq_zero.mpr fun o ho hcreate => ?_
        obtain ⟨u, rfl⟩ := creates_eq_true_iff.mp hcreate
        exact hnotCreated u ho
      omega
    · exact hone

/-- A write over a revoked or accepted invitation shows. -/
theorem not_lifeKept (hknown : s.Known) (hold : s.status id = some old)
    (hfinal : old = .revoked ∧ new ≠ .revoked ∨ old = .accepted) (h : Written s t id new outcome) :
    ¬ t.LifeKept := by
  intro ht
  have hself : t.status id = some new := by rw [h.status, if_pos rfl, hold]; rfl
  have hlog : ∀ o ∈ s.log, o ∈ t.log := fun o ho => h.log ▸ List.mem_append_right _ ho
  rcases hfinal with ⟨rfl, hnew⟩ | rfl
  · have hstays := ht.revoked id (hlog _ (hknown.revoked id hold))
    exact hnew (Option.some.inj (hself.symm.trans hstays))
  · obtain ⟨u, hcreated⟩ := hknown.accepted id hold
    have hstays := ht.accepted id u (hlog _ hcreated)
    obtain rfl : new = .accepted := Option.some.inj (hself.symm.trans hstays)
    obtain ⟨userId, houtcome⟩ := h.noted
    have htwo : t.log = .accountCreated id userId :: s.log := by rw [h.log, houtcome]; rfl
    have hpos : 0 < s.log.countP (InvitationOutcome.creates id) :=
      List.countP_pos_iff.mpr ⟨_, hcreated, creates_eq_true_iff.mpr ⟨u, rfl⟩⟩
    have hone := ht.one id
    rw [htwo, List.countP_cons_of_pos (creates_eq_true_iff.mpr ⟨userId, rfl⟩)] at hone
    omega

/-- A write is harmless exactly when it harms none. -/
theorem lifeKept_written_iff (hknown : s.Known) (hs : s.LifeKept) (hold : s.status id = some old)
    (h : Written s t id new outcome) : t.LifeKept ↔ s.harmless id new = true := by
  have hharmless : s.harmless id new =
      (old == .pending || old == .expired || (old == .revoked && new == .revoked)) := by
    rw [harmless, hold]
    rfl
  rw [hharmless]
  have hopen : old ≠ .revoked → old ≠ .accepted → t.LifeKept := by
    intro hrevoked haccepted
    cases new with
    | pending => exact False.elim h.noted
    | expired => exact lifeKept_expire hs hold hrevoked haccepted h
    | accepted => exact lifeKept_accept hs hold hrevoked haccepted h
    | revoked => exact lifeKept_revoke hs hold haccepted h
  cases old with
  | pending => exact iff_of_true (hopen (by decide) (by decide)) rfl
  | expired => exact iff_of_true (hopen (by decide) (by decide)) rfl
  | accepted =>
    exact iff_of_false (not_lifeKept hknown hold (Or.inr rfl) h) Bool.false_ne_true
  | revoked =>
    by_cases hnew : new = .revoked
    · subst hnew
      exact iff_of_true (lifeKept_revoke hs hold (by decide) h) rfl
    · refine iff_of_false (not_lifeKept hknown hold (Or.inl ⟨rfl, hnew⟩) h) fun hagain => ?_
      exact hnew (eq_of_beq hagain)

end Write

/-! ## Runs -/

/-- A row that was found is there. -/
theorem isSome_status {row : InvitationRow} {q : InvitationRow → Bool}
    (h : s.invitations.findFirst q = some row) : (s.status row.id).isSome = true := by
  have hlookup := Table.mem_rows_iff.mp (Table.mem_of_findFirst h).1
  rw [status, hlookup]
  rfl

theorem about_of_writes {task : InvitationTask} {new : NewRow} {w : String × InvitationStatus}
    (h : s.writes new task = some w) : task.about = some w.1 := by
  cases task with
  | accepting invitation userData =>
    simp only [writes] at h
    split at h
    · cases h
      rfl
    · cases h
  | creating profile pendingInvitation =>
    cases pendingInvitation with
    | none => cases h
    | some invitation =>
      simp only [writes] at h
      split at h
      · cases h
        rfl
      · cases h
  | expiring id => cases h; rfl
  | revoking id => cases h; rfl
  | resending id => cases h
  | byEmail profile => cases h
  | inviting profile => cases h
  | returned => cases h
  | refused e => cases h

theorem about_accept {token k : String} {userData : UserData}
    (h : (s.accept token userData).about = some k) : (s.status k).isSome = true := by
  unfold accept at h
  split at h
  · cases h
  · rename_i row hfound
    split at h
    · cases h
    · split at h
      · cases h
        exact isSome_status hfound
      · cases h
        exact isSome_status hfound

theorem isSome_status_of_find {companyId id : String} {row : InvitationRow}
    (h : s.find companyId id = some row) : (s.status id).isSome = true := by
  have hpick := (Table.mem_of_findFirst h).2
  rw [Bool.and_eq_true, beq_iff_eq] at hpick
  exact hpick.1 ▸ isSome_status h

theorem about_resend {companyId id k : String} (h : (s.resend companyId id).about = some k) :
    (s.status k).isSome = true := by
  unfold resend at h
  split at h
  · cases h
  · rename_i row hfound
    split at h
    · cases h
    · cases h
      exact isSome_status_of_find hfound

theorem about_revoke {companyId id k : String} (h : (s.revoke companyId id).about = some k) :
    (s.status k).isSome = true := by
  unfold revoke at h
  split at h
  · cases h
  · rename_i row hfound
    split at h
    · cases h
    · cases h
      exact isSome_status_of_find hfound

theorem about_validateGoogleUser {profile : GoogleProfile} :
    (s.validateGoogleUser profile).about = none := by
  unfold validateGoogleUser
  split
  · rfl
  · rfl

theorem about_advance {new : NewRow} {task : InvitationTask} {k : String}
    (h : (s.advance new task).1.about = some k) (htask : ∀ id, task.about = some id →
      (s.status id).isSome = true) : (s.status k).isSome = true := by
  cases task with
  | inviting profile =>
    obtain ⟨row, hrow, rfl⟩ := Option.map_eq_some_iff.mp h
    exact isSome_status hrow
  | accepting invitation userData =>
    simp only [advance] at h
    split at h <;> cases h
  | creating profile pendingInvitation =>
    simp only [advance] at h
    split at h <;> cases h
  | byEmail profile =>
    simp only [advance] at h
    split at h <;> cases h
  | expiring id => cases h
  | revoking id => cases h
  | resending id => cases h
  | returned => cases h
  | refused e => cases h

theorem known_add (hs : s.Known) {task : InvitationTask}
    (htask : ∀ id, task.about = some id → (s.status id).isSome = true) : (s.add task).Known := by
  exact ⟨hs.revoked, hs.accepted, forall_mem_concat hs.there htask⟩

theorem tasks_advance (new : NewRow) (task : InvitationTask) :
    (s.advance new task).2.tasks = s.tasks := by
  cases task with
  | accepting invitation userData =>
    simp only [advance]
    split <;> rfl
  | creating profile pendingInvitation =>
    simp only [advance]
    split
    · rfl
    · cases pendingInvitation <;> rfl
  | byEmail profile =>
    simp only [advance]
    split <;> rfl
  | expiring id => rfl
  | revoking id => rfl
  | resending id => rfl
  | inviting profile => rfl
  | returned => rfl
  | refused e => rfl

/-- An invitation stays there. -/
theorem Written.isSome {id k : String} {new : InvitationStatus} {outcome : Option InvitationOutcome}
    (h : Written s t id new outcome) (hk : (s.status k).isSome = true) :
    (t.status k).isSome = true := by
  rw [h.status]
  split
  · rw [Option.isSome_map]
    exact hk
  · exact hk

/-- What is written is noted. -/
theorem known_of_written {id : String} {new : InvitationStatus}
    {outcome : Option InvitationOutcome} (hs : s.Known) (h : Written s t id new outcome) :
    (∀ k, t.status k = some .revoked → .revoked k ∈ t.log) ∧
      ∀ k, t.status k = some .accepted → ∃ userId, .accountCreated k userId ∈ t.log := by
  have hlog : ∀ o ∈ s.log, o ∈ t.log := fun o ho => h.log ▸ List.mem_append_right _ ho
  have hnew : ∀ k, k = id → t.status k = some new ∨ t.status k = none := by
    rintro k rfl
    rw [h.status, if_pos rfl]
    cases s.status k with
    | none => exact Or.inr rfl
    | some old => exact Or.inl rfl
  have hmem : ∀ o, outcome = some o → o ∈ t.log := by
    rintro o rfl
    exact h.log ▸ List.mem_append_left _ (List.mem_singleton_self o)
  constructor
  · intro k hk
    by_cases hkid : k = id
    · rcases hnew k hkid with hsome | hnone
      · obtain rfl : new = .revoked := Option.some.inj (hsome.symm.trans hk)
        exact hkid ▸ hmem _ h.noted
      · cases hnone.symm.trans hk
    · rw [h.status, if_neg hkid] at hk
      exact hlog _ (hs.revoked k hk)
  · intro k hk
    by_cases hkid : k = id
    · rcases hnew k hkid with hsome | hnone
      · obtain rfl : new = .accepted := Option.some.inj (hsome.symm.trans hk)
        obtain ⟨userId, houtcome⟩ := h.noted
        exact ⟨userId, hkid ▸ hmem _ houtcome⟩
      · cases hnone.symm.trans hk
    · rw [h.status, if_neg hkid] at hk
      obtain ⟨userId, hcreated⟩ := hs.accepted k hk
      exact ⟨userId, hlog _ hcreated⟩

/-- A step of a call keeps what is known. -/
theorem known_advance (hs : s.Known) {i : Nat} {task : InvitationTask} (new : NewRow)
    (hi : s.tasks[i]? = some task) :
    ({ (s.advance new task).2 with
        tasks := (s.advance new task).2.tasks.set i (s.advance new task).1 } :
      InvitationState Hash).Known := by
  have htask := hs.there task (List.mem_of_getElem? hi)
  have hthere : (∀ k, (s.status k).isSome = true → ((s.advance new task).2.status k).isSome = true) →
      ∀ task' ∈ (s.advance new task).2.tasks.set i (s.advance new task).1, ∀ id,
        task'.about = some id → ((s.advance new task).2.status id).isSome = true := by
    intro hstay
    rw [tasks_advance]
    refine forall_mem_set (fun task' hmem id habout => ?_) fun id habout => ?_
    · exact hstay id (hs.there task' hmem id habout)
    · exact hstay id (about_advance habout htask)
  rcases advance_cases (s := s) new task with ⟨-, h⟩ | ⟨id, status, outcome, -, h⟩
  · refine ⟨fun k hk => ?_, fun k hk => ?_, hthere fun k hk => (h.status k).symm ▸ hk⟩
    · show .revoked k ∈ (s.advance new task).2.log
      rw [h.log]
      exact hs.revoked k ((h.status k).symm.trans hk)
    · show ∃ userId, .accountCreated k userId ∈ (s.advance new task).2.log
      rw [h.log]
      exact hs.accepted k ((h.status k).symm.trans hk)
  · obtain ⟨hrevoked, haccepted⟩ := known_of_written hs h
    exact ⟨hrevoked, haccepted, hthere fun k hk => h.isSome hk⟩

/-- A new invitation is pending. -/
theorem status_invited {row : InvitationRow} {invitations : Table InvitationRow.id Eq}
    (h : s.invitations.create { row with status := .pending, acceptedAt := none } = some invitations)
    (k : String) :
    ({ s with invitations := invitations } : InvitationState Hash).status k =
      (s.status k).or (if row.id = k then some .pending else none) := by
  show (invitations.lookup k).map _ = _
  rw [Table.lookup, Table.findFirst_create h, ← Table.lookup, status]
  cases s.invitations.lookup k with
  | none =>
    by_cases hk : row.id = k
    · simp [hk]
    · simp [hk]
  | some old => rfl

theorem known_step (hs : s.Known) (hstep : s.step e = some t) : t.Known := by
  cases e with
  | invited row =>
    obtain ⟨invitations, hcreate, rfl⟩ := Option.map_eq_some_iff.mp hstep
    have hstatus := status_invited hcreate
    have hold : ∀ k new, new ≠ .pending → (s.status k).or (if row.id = k then some .pending else none) =
        some new → s.status k = some new := by
      intro k new hnew hk
      cases hsk : s.status k with
      | some old => rwa [hsk] at hk
      | none =>
        rw [hsk, Option.none_or] at hk
        split at hk
        · exact absurd (Option.some.inj hk).symm hnew
        · cases hk
    refine ⟨fun k hk => ?_, fun k hk => ?_, fun task htask k habout => ?_⟩
    · exact hs.revoked k (hold k _ (by decide) ((hstatus k).symm.trans hk))
    · exact hs.accepted k (hold k _ (by decide) ((hstatus k).symm.trans hk))
    · rw [hstatus]
      obtain ⟨old, hk⟩ := Option.isSome_iff_exists.mp (hs.there task htask k habout)
      rw [hk]
      rfl
  | accept token userData =>
    cases hstep
    exact known_add hs fun k => about_accept
  | resend companyId id =>
    cases hstep
    exact known_add hs fun k => about_resend
  | revoke companyId id =>
    cases hstep
    exact known_add hs fun k => about_revoke
  | validateGoogleUser profile =>
    cases hstep
    refine known_add hs fun k hk => ?_
    cases about_validateGoogleUser.symm.trans hk
  | next i new =>
    obtain ⟨task, hi, rfl⟩ := Option.map_eq_some_iff.mp hstep
    exact known_advance hs new hi
  | written store =>
    cases hstep
    exact ⟨hs.revoked, hs.accepted, hs.there⟩
  | later ms =>
    cases hstep
    exact ⟨hs.revoked, hs.accepted, hs.there⟩

/-- A step keeps the life of the invitations exactly when what it writes is harmless. -/
theorem lifeKept_step_iff (hknown : s.Known) (hs : s.LifeKept) (hstep : s.step e = some t) :
    t.LifeKept ↔ s.WritesHarmless e := by
  have hkeep : (∀ k old, s.status k = some old → t.status k = some old) → t.log = s.log →
      t.LifeKept := by
    intro hstatus hlog
    exact ⟨fun k hk => hstatus k _ (hs.revoked k (hlog ▸ hk)), hlog.symm ▸ hs.ordered,
      fun k u hk => hstatus k _ (hs.accepted k u (hlog ▸ hk)), hlog.symm ▸ hs.one⟩
  cases e with
  | invited row =>
    obtain ⟨invitations, hcreate, rfl⟩ := Option.map_eq_some_iff.mp hstep
    refine iff_of_true (hkeep (fun k old hk => ?_) rfl) trivial
    rw [status_invited hcreate, hk, Option.some_or]
  | next i new =>
    obtain ⟨task, hi, rfl⟩ := Option.map_eq_some_iff.mp hstep
    rcases advance_cases (s := s) new task with ⟨hnone, h⟩ | ⟨id, status, outcome, hsome, h⟩
    · refine iff_of_true ?_ ?_
      · exact hkeep (fun k old hk => (h.status k).trans hk) h.log
      · show ((s.tasks[i]?).bind (s.writes new)).all _ = true
        rw [hi, Option.bind_some, hnone]
        rfl
    · have hwrites : s.WritesHarmless (.next i new) = (s.harmless id status = true) := by
        show (((s.tasks[i]?).bind (s.writes new)).all _ = true) = _
        rw [hi, Option.bind_some, hsome]
        rfl
      obtain ⟨old, hold⟩ := Option.isSome_iff_exists.mp
        (hknown.there task (List.mem_of_getElem? hi) id (about_of_writes hsome))
      rw [hwrites]
      exact lifeKept_written_iff hknown hs hold
        (show Written s _ id status outcome from ⟨h.status, h.log, h.noted⟩)
  | accept token userData => cases hstep; exact iff_of_true (hkeep (fun _ _ h => h) rfl) trivial
  | resend companyId id => cases hstep; exact iff_of_true (hkeep (fun _ _ h => h) rfl) trivial
  | revoke companyId id => cases hstep; exact iff_of_true (hkeep (fun _ _ h => h) rfl) trivial
  | validateGoogleUser profile =>
    cases hstep
    exact iff_of_true (hkeep (fun _ _ h => h) rfl) trivial
  | written store => cases hstep; exact iff_of_true (hkeep (fun _ _ h => h) rfl) trivial
  | later ms => cases hstep; exact iff_of_true (hkeep (fun _ _ h => h) rfl) trivial

theorem known_start (clock : Nat) (store : Store Hash) : (start clock store).Known :=
  ⟨fun _ h => (nomatch h), fun _ h => (nomatch h), fun _ h => (nomatch h)⟩

theorem lifeKept_start (clock : Nat) (store : Store Hash) : (start clock store).LifeKept :=
  ⟨fun _ h => (nomatch h), .nil, fun _ _ h => (nomatch h), fun _ => Nat.zero_le 1⟩

/-- The invitations live as they should throughout a run exactly when every status it writes finds
the invitation pending or expired, or revokes again. -/
theorem life_kept_iff {clock : Nat} {store : Store Hash} {es : List (InvitationEvent Hash)}
    {t : InvitationState Hash} (hrun : Run (Steps step) (start clock store) es t) :
    (∀ es₁ es₂ u, es = es₁ ++ es₂ → Run (Steps step) (start clock store) es₁ u → u.LifeKept) ↔
      Run (Guarded (Steps step) WritesHarmless) (start clock store) es t := by
  have hknown : ∀ {es₁ u}, Run (Steps step) (start clock store) es₁ u → u.Known :=
    fun h => h.invariant (I := Known) known_step (known_start clock store)
  have hboth := Run.always_iff_guarded (I := fun u => u.Known ∧ u.LifeKept) (G := WritesHarmless)
    (fun h h' => Option.some.inj (h.symm.trans h'))
    (fun {_ _ _} hu hstep => by
      rw [← lifeKept_step_iff hu.1 hu.2 hstep, and_iff_right (known_step hu.1 hstep)])
    hrun ⟨known_start clock store, lifeKept_start clock store⟩
  rw [← hboth]
  constructor
  · intro hlife es₁ es₂ u hes hu
    exact ⟨hknown hu, hlife es₁ es₂ u hes hu⟩
  · intro hall es₁ es₂ u hes hu
    exact (hall es₁ es₂ u hes hu).2

end InvitationState

/-! ### An invitation that is accepted and revoked -/

open Auth (oneAccount plainAccount plainCredentials)

def volaInvited : InvitationRow where
  id := "invitation-1"
  token := "digest-1"
  companyId := "company-1"
  email := "vola@example.mg"
  role := .driver
  status := .pending
  expiresAt := invitationExpiryMs
  acceptedAt := none

def vola : UserData := ⟨"Vola", "Rabe", none⟩

def volaRows : NewRow := ⟨"user-2", "driver-2", "company-2", "hash-2", "digest-2"⟩

def beforeVola : InvitationState Unit := .start 0 (oneAccount Unit plainAccount plainCredentials)

/-- The admin revokes after Vola has accepted, and is refused. -/
def acceptsThenRevoked : List (InvitationEvent Unit) :=
  [.invited volaInvited, .accept "digest-1" vola, .next 0 volaRows,
    .revoke "company-1" "invitation-1"]

theorem acceptsThenRevoked_kept : ∃ t,
    Run (Steps InvitationState.step) beforeVola acceptsThenRevoked t ∧
      t.tasks = [.returned, .refused .revokeNotPending] ∧
      ∀ es₁ es₂ u, acceptsThenRevoked = es₁ ++ es₂ →
        Run (Steps InvitationState.step) beforeVola es₁ u → u.LifeKept := by
  have hend : (acceptsThenRevoked.foldlM
      (guardStep InvitationState.step InvitationState.WritesHarmless) beforeVola).any
      (fun t => t.tasks == [.returned, .refused .revokeNotPending]) = true := by
    decide +kernel
  obtain ⟨t, ht, htasks⟩ := (Option.any_eq_true _ _).mp hend
  have hguarded := Run.of_guardStep ht
  exact ⟨t, hguarded.of_guarded, eq_of_beq htasks,
    (InvitationState.life_kept_iff hguarded.of_guarded).mpr hguarded⟩

/-- The admin revokes while Vola's password is hashed. -/
def revokedAmidAccept : List (InvitationEvent Unit) :=
  [.invited volaInvited, .accept "digest-1" vola, .revoke "company-1" "invitation-1",
    .next 1 volaRows, .next 0 volaRows]

theorem revokedAmidAccept_creates : ∃ t,
    Run (Steps InvitationState.step) beforeVola revokedAmidAccept t ∧
      t.tasks = [.returned, .returned] ∧
      t.log = [.accountCreated "invitation-1" "user-2", .revoked "invitation-1"] ∧
      t.status "invitation-1" = some .accepted ∧ ¬ t.LifeKept := by
  have hend : (revokedAmidAccept.foldlM InvitationState.step beforeVola).any (fun t =>
      t.tasks == [.returned, .returned] &&
        (t.log == [.accountCreated "invitation-1" "user-2", .revoked "invitation-1"] &&
          t.status "invitation-1" == some .accepted)) = true := by
    decide +kernel
  obtain ⟨t, hrun, ht⟩ := Run.of_foldlM_any hend
  obtain ⟨htasks, ht⟩ := (Bool.and_eq_true _ _).mp ht
  obtain ⟨hlog, hstatus⟩ := (Bool.and_eq_true _ _).mp ht
  refine ⟨t, hrun, eq_of_beq htasks, eq_of_beq hlog, eq_of_beq hstatus, fun hlife => ?_⟩
  have hrevoked := hlife.revoked "invitation-1" (by rw [eq_of_beq hlog]; simp)
  cases (eq_of_beq hstatus).symm.trans hrevoked

end DeliveryTracking.Fleet
