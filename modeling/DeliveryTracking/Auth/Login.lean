/-
# `DeliveryTracking.Auth.Login` — the operations that open a session

`login`, `verify2faToken`, `validateGoogleUser` and `createSessionForUser` each
check a user in their own code and then open a session for it: a row, and its
first tokens (`openSession`).  A user with a second factor gets no session from
`login` but a temporary token, which `verify2faToken` takes with a code; the
other two refuse such a user.

Passwords and codes are checked by libraries.  What they accept is a parameter,
with one thing they promise: a password passes against its own hash, and the
code of a secret passes at its own time.
-/
import DeliveryTracking.Auth.Guards

namespace DeliveryTracking.Auth

open Fleet (FleetTables PrismaError)

/-! ## Libraries -/

/-- `bcrypt` on passwords and `speakeasy.totp`. -/
structure Libraries where
  compare : String → String → Bool
  hash : String → String
  compare_hash : ∀ password, compare password (hash password) = true
  hash_ne : ∀ password, hash password ≠ ""
  /-- `dummy-timing-attack-mitigation`, hashed. -/
  dummyHash : String
  /-- Of a secret and a code, at a time. -/
  totpVerify : String → String → Nat → Bool
  totpCode : String → Nat → String
  totpVerify_code : ∀ secret now, totpVerify secret (totpCode secret now) now = true

/-- A hash that spells its text, and a code that spells its secret. -/
def spelledLibraries : Libraries where
  compare := fun password hash => hash == "hash of " ++ password
  hash := fun password => "hash of " ++ password
  compare_hash := fun _ => beq_self_eq_true _
  hash_ne := by
    intro password h
    have hlength := congrArg String.length h
    rw [String.length_append] at hlength
    exact absurd hlength (by simp)
  dummyHash := "hash of dummy-timing-attack-mitigation"
  totpVerify := fun secret code _ => code == "code of " ++ secret
  totpCode := fun secret _ => "code of " ++ secret
  totpVerify_code := fun _ _ => beq_self_eq_true _

/-! ## Errors -/

inductive LoginError where
  | lockedOut
  | invalidCredentials
  | invalidTempToken
  | invalidScope
  | twoFactorNotEnabled
  | twoFactorLockedOut
  | invalidCode
  | stepCompleted
  | deactivated
  | twoFactorRequired
  | userNotFound
  | auth (e : AuthError)
  | prisma (e : PrismaError)
  deriving DecidableEq, Repr

def LoginError.message : LoginError → String
  | .lockedOut => "Too many failed login attempts. Please try again later."
  | .invalidCredentials => "Invalid credentials"
  | .invalidTempToken => "Invalid or expired temporary token"
  | .invalidScope => "Invalid token scope"
  | .twoFactorNotEnabled => "User not found or 2FA not enabled"
  | .twoFactorLockedOut => "Too many invalid 2FA codes. Please try again later."
  | .invalidCode => "Invalid 2FA code"
  | .stepCompleted => "This verification step has already been completed. Please log in again."
  | .deactivated => "Account deactivated"
  | .twoFactorRequired => "Two-factor authentication required"
  | .userNotFound => "User not found"
  | .auth e => e.message
  | .prisma _ => "Internal server error"

/-- Throw unless a check passes. -/
def require (passed : Bool) (e : LoginError) : Except LoginError Unit :=
  if passed then .ok () else .error e

theorem require_eq_ok {passed : Bool} {e : LoginError} {a : Unit} :
    require passed e = .ok a ↔ passed = true := by
  cases passed <;> simp [require]

/-! ## Redis -/

/-- The counts of failures that have reached their maximum, by address and by user. -/
structure Lockouts where
  login : String → Bool
  twoFactor : String → Bool

/-- `2fa:temp:used:` with the id of a temporary token. -/
abbrev UsedMarks := String → Option (Lease Unit)

/-- Seconds, times a thousand. -/
def usedMarkMs : Nat := 360000

/-! ## Temporary tokens -/

structure TempToken where
  sub : String
  scope : Option TokenScope
  jti : Option String
  exp : Nat
  deriving DecidableEq, Repr

/-- `tempTokenExpiration`, in seconds. -/
def tempTokenExpiration : Nat := 300

/-- The temporary token of a login. -/
def tempTokenFor (userId jti : String) (now : Nat) : TempToken :=
  ⟨userId, some .two_factor_pending, some jti, now / 1000 + tempTokenExpiration⟩

/-! ## Sessions -/

namespace Store

variable {Hash : Type} (s : Store Hash)

/-- The tables as `refresh` and `generateTokens` see them. -/
def db : Db Hash where
  users := fun id => (s.findAccount id).map userOf
  sessions := s.sessions
  users_key := by
    intro k u h
    obtain ⟨account, hfound, rfl⟩ := Option.map_eq_some_iff.mp h
    exact beq_iff_eq.mp (Table.mem_of_findFirst hfound).2
  sessions_key := s.sessions_key

/-- The sessions written back. -/
def withSessions (db : Db Hash) : Store Hash :=
  { s with sessions := db.sessions, sessions_key := db.sessions_key }

/-- `userSession.create`, then `generateTokens`. -/
def openSession (cfg : AuthConfig) (H : TokenHash Hash) (now : Nat) (account : Fleet.User)
    (sessionId : String) : Except LoginError TokenResponse × Store Hash :=
  let result := createSession cfg H now (userOf account) sessionId s.db
  (result.1.mapError .auth, s.withSessions result.2)

/-- Open a session for the user that passed the checks, if one did. -/
def openFor (cfg : AuthConfig) (H : TokenHash Hash) (now : Nat) (sessionId : String) :
    Except LoginError Fleet.User → Except LoginError TokenResponse × Store Hash
  | .error e => (.error e, s)
  | .ok account => s.openSession cfg H now account sessionId

/-! ## `login` and `verify2faToken` -/

/-- The checks of `login`.  An account without a hash is compared with the dummy. -/
def loginCheck (lib : Libraries) (lockouts : Lockouts) (email password : String) :
    Except LoginError Fleet.User := do
  let email := Fleet.normalizeEmail email
  require (!lockouts.login email) .lockedOut
  match s.fleet.users.findFirst fun u => u.email == email && u.deletedAt.isNone with
  | none => .error .invalidCredentials
  | some user => do
    let passwordHash := (truthy (some (s.credentials user.id).passwordHash)).getD lib.dummyHash
    require (user.isActive && lib.compare password passwordHash) .invalidCredentials
    .ok user

/-- What `login` returns. -/
inductive LoginResponse where
  | tokens (r : TokenResponse)
  | requiresTwoFactor (user : User) (tempToken : TempToken)
  deriving DecidableEq, Repr

def login (lib : Libraries) (lockouts : Lockouts) (cfg : AuthConfig) (H : TokenHash Hash) (now : Nat)
    (email password sessionId jti : String) : Except LoginError LoginResponse × Store Hash :=
  match s.loginCheck lib lockouts email password with
  | .error e => (.error e, s)
  | .ok user =>
    if (s.credentials user.id).totpEnabled then
      (.ok (.requiresTwoFactor (userOf user) (tempTokenFor user.id jti now)), s)
    else
      let result := s.openSession cfg H now user sessionId
      (result.1.map .tokens, result.2)

/-- The checks of `verify2faToken` before the temporary token is used up. -/
def twoFactorCheck (lib : Libraries) (lockouts : Lockouts) (now : Nat) (tempToken : TempToken)
    (code : String) : Except LoginError Fleet.User := do
  require (now / 1000 < tempToken.exp) .invalidTempToken
  require (tempToken.scope == some .two_factor_pending) .invalidScope
  match s.findAccount tempToken.sub with
  | none => .error .twoFactorNotEnabled
  | some user =>
    match truthy (s.credentials user.id).totpSecret with
    | none => .error .twoFactorNotEnabled
    | some totpSecret => do
      require (user.isActive && (s.credentials user.id).totpEnabled) .twoFactorNotEnabled
      require (!lockouts.twoFactor user.id) .twoFactorLockedOut
      require (lib.totpVerify totpSecret code now) .invalidCode
      .ok user

end Store

/-- `SET 2fa:temp:used:jti NX`: whether the token had not been used, and the marks after. -/
def consume (marks : Option UsedMarks) (now : Nat) (jti : Option String) :
    Bool × Option UsedMarks :=
  match marks, jti with
  | some marks, some jti =>
    let result := Lease.setNx now usedMarkMs () (marks jti)
    (result.1, some (Function.update marks jti result.2))
  | marks, _ => (true, marks)

namespace Store

variable {Hash : Type} (s : Store Hash)

def verify2faToken (lib : Libraries) (lockouts : Lockouts) (marks : Option UsedMarks)
    (cfg : AuthConfig) (H : TokenHash Hash) (now : Nat) (tempToken : TempToken)
    (code sessionId : String) : Except LoginError TokenResponse × Store Hash :=
  s.openFor cfg H now sessionId do
    let user ← s.twoFactorCheck lib lockouts now tempToken code
    require (consume marks now tempToken.jti).1 .stepCompleted
    .ok user

/-! ## `createSessionForUser` -/

def createSessionCheck (userId : String) : Except LoginError Fleet.User :=
  match s.findAccount userId with
  | none => .error .userNotFound
  | some user => do
    require user.isActive .deactivated
    require (!(s.credentials user.id).totpEnabled) .twoFactorRequired
    .ok user

def createSessionForUser (cfg : AuthConfig) (H : TokenHash Hash) (now : Nat)
    (userId sessionId : String) : Except LoginError TokenResponse × Store Hash :=
  s.openFor cfg H now sessionId (s.createSessionCheck userId)

end Store

/-! ## `validateGoogleUser` -/

structure GoogleProfile where
  googleId : String
  email : String
  firstName : String
  lastName : String
  deriving DecidableEq, Repr

/-- The ids of new rows, and the hash of the random password. -/
structure GoogleCall where
  now : Nat
  userId : String
  companyId : String
  sessionId : String
  passwordHash : String
  deriving DecidableEq, Repr

/-- The account that `validateGoogleUser` creates: in the company that invites it, or the admin of a
new one. -/
def googleUser (call : GoogleCall) (profile : GoogleProfile) (email : String)
    (pendingInvitation : Option Fleet.Invitation) : Fleet.User where
  id := call.userId
  companyId := (pendingInvitation.map (·.companyId)).getD call.companyId
  email := email
  firstName := profile.firstName
  lastName := profile.lastName
  phone := none
  role := (pendingInvitation.map (·.role)).getD .admin
  isActive := true
  deletedAt := none

namespace Store

variable {Hash : Type} (s : Store Hash)

/-- The account of a Google id. -/
def findByGoogleId (googleId : String) : Option Fleet.User :=
  s.fleet.users.findFirst fun u => (s.credentials u.id).googleId == some googleId

def findByEmail (email : String) : Option Fleet.User := s.fleet.users.findFirst (·.email == email)

/-- Another account has a Google id. -/
def googleIdTaken (userId googleId : String) : Bool :=
  s.fleet.users.rows.any fun a => a.id != userId && (s.credentials a.id).googleId == some googleId

/-- An account that may come in through Google. -/
def googleCheck (user : Fleet.User) : Except LoginError Fleet.User := do
  require user.isActive .deactivated
  require (!(s.credentials user.id).totpEnabled) .twoFactorRequired
  .ok user

/-- `user.update` of the Google id. -/
def linkGoogle (userId googleId : String) : Store Hash :=
  { s with
    credentials := Function.update s.credentials userId
      { s.credentials userId with googleId := some googleId } }

/-- A pending invitation of an address that is not over its time. -/
def findPendingInvitation (now : Nat) (email : String) : Option Fleet.Invitation :=
  s.fleet.invitations.findFirst fun i =>
    i.email == email && (i.status == .pending && decide ((now : Int) ≤ i.expiresAt))

/-- The transaction of `validateGoogleUser`: the account, and the acceptance of its invitation, or a
new company. -/
def createGoogleUser (call : GoogleCall) (profile : GoogleProfile) (email : String)
    (pendingInvitation : Option Fleet.Invitation) : Except LoginError (Fleet.User × Store Hash) :=
  match s.fleet.users.create (googleUser call profile email pendingInvitation) with
  | none =>
    .error (.prisma (.unique
      (if s.fleet.users.rows.any (·.id == call.userId) then ["id"] else ["email"])))
  | some users =>
    .ok (googleUser call profile email pendingInvitation,
      { s with
        fleet :=
          { s.fleet with
            users := users
            invitations := (pendingInvitation.elim s.fleet.invitations fun invitation =>
              s.fleet.invitations.update (·.token == invitation.token)
                (fun i => { i with status := .accepted, acceptedAt := some call.now }) fun _ => rfl) }
        companyDeletedAt := (pendingInvitation.elim
          (Function.update s.companyDeletedAt call.companyId none) fun _ => s.companyDeletedAt)
        credentials := Function.update s.credentials call.userId
          ⟨call.passwordHash, some profile.googleId, none, false, none, none, none⟩ })

def validateGoogleUser (cfg : AuthConfig) (H : TokenHash Hash) (call : GoogleCall)
    (profile : GoogleProfile) : Except LoginError TokenResponse × Store Hash :=
  let email := Fleet.normalizeEmail profile.email
  match s.findByGoogleId profile.googleId with
  | some user => s.openFor cfg H call.now call.sessionId (s.googleCheck user)
  | none =>
    match s.findByEmail email with
    | some user =>
      match s.googleCheck user with
      | .error e => (.error e, s)
      | .ok user =>
        (s.linkGoogle user.id profile.googleId).openSession cfg H call.now user call.sessionId
    | none =>
      match s.createGoogleUser call profile email (s.findPendingInvitation call.now email) with
      | .error e => (.error e, s)
      | .ok (user, t) => t.openSession cfg H call.now user call.sessionId

end Store

/-! ## What a session that was opened says of the user -/

namespace Store

variable {Hash : Type} {s : Store Hash} {cfg : AuthConfig} {H : TokenHash Hash} {now : Nat}
  {account : Fleet.User} {sessionId : String}

theorem mem_of_findAccount {id : String} (h : s.findAccount id = some account) :
    account ∈ s.fleet.users.rows ∧ account.id = id := by
  obtain ⟨hmem, hid⟩ := Table.mem_of_findFirst h
  exact ⟨hmem, beq_iff_eq.mp hid⟩

/-- The session of a user that is there, with its first tokens. -/
theorem openSession_eq (h : s.findAccount account.id = some account) :
    ∃ db', s.openSession cfg H now account sessionId =
        (.ok ⟨tokenFor (userOf account) sessionId now cfg.accessExpiration,
          tokenFor (userOf account) sessionId now cfg.refreshExpiration, userOf account⟩,
        s.withSessions db') ∧
      db'.users = s.db.users ∧
      db'.sessions sessionId = some
        { id := sessionId, userId := account.id
          refreshTokenHash :=
            some (H.hash (tokenFor (userOf account) sessionId now cfg.refreshExpiration))
          previousRefreshTokenHash := none
          expiresAt := now + cfg.refreshExpirationSeconds * 1000 } := by
  have hrow : (s.db.setSession sessionId (some ⟨sessionId, account.id, none, none,
      now + cfg.refreshExpirationSeconds * 1000⟩) (by rintro _ ⟨rfl⟩; rfl)).sessions sessionId =
      some ⟨sessionId, account.id, none, none, now + cfg.refreshExpirationSeconds * 1000⟩ :=
    Db.setSession_self ..
  have huser : s.db.users account.id = some (userOf account) := by
    show (s.findAccount account.id).map userOf = _
    rw [h]
    rfl
  obtain ⟨db', hgen, husers, hsession, -⟩ := generateTokens_session cfg H now now hrow huser
  refine ⟨db', ?_, husers, ?_⟩
  · have hcreate : createSession cfg H now (userOf account) sessionId s.db = _ := hgen
    simp only [openSession, hcreate]
    rfl
  · rw [hsession]
    simp

theorem user_of_generateTokens {userId : String} {signedAt rotatedAt : Nat} {db : Db Hash}
    {r : TokenResponse}
    (h : (generateTokens cfg H signedAt rotatedAt userId sessionId db).1 = .ok r) :
    r.user.id = userId := by
  simp only [generateTokens] at h
  split at h
  · cases h
  · rename_i user huser
    split at h
    · cases h
    · cases h
      exact db.users_key huser

theorem user_of_openSession {r : TokenResponse}
    (h : (s.openSession cfg H now account sessionId).1 = .ok r) : r.user.id = account.id := by
  have hmap : ((createSession cfg H now (userOf account) sessionId s.db).1.mapError
      LoginError.auth) = .ok r := h
  cases hcreate : (createSession cfg H now (userOf account) sessionId s.db).1 with
  | error e =>
    rw [hcreate] at hmap
    cases hmap
  | ok r' =>
    rw [hcreate] at hmap
    cases hmap
    exact user_of_generateTokens hcreate

/-- A session is opened beside the tables of the fleet. -/
theorem fleet_openFor (check : Except LoginError Fleet.User) :
    (s.openFor cfg H now sessionId check).2.fleet = s.fleet := by
  cases check with
  | error e => rfl
  | ok user => rfl

section Google

variable {call : GoogleCall} {profile : GoogleProfile}

/-- Where the Google id or the address has an account, `validateGoogleUser` creates none. -/
theorem fleet_of_known (h : (s.findByGoogleId profile.googleId).isSome = true ∨
    (s.findByEmail (Fleet.normalizeEmail profile.email)).isSome = true) :
    (s.validateGoogleUser cfg H call profile).2.fleet = s.fleet := by
  simp only [validateGoogleUser]
  cases hgoogle : s.findByGoogleId profile.googleId with
  | some user => exact fleet_openFor (s.googleCheck user)
  | none =>
    cases hemail : s.findByEmail (Fleet.normalizeEmail profile.email) with
    | none =>
      rw [hgoogle, hemail] at h
      simp at h
    | some user =>
      cases hcheck : s.googleCheck user with
      | error e => simp only [hcheck]
      | ok user =>
        simp only [hcheck]
        exact fleet_openFor (s := s.linkGoogle user.id profile.googleId) (.ok user)

/-- Else the tables are those of its transaction. -/
theorem fleet_of_unknown (hgoogle : s.findByGoogleId profile.googleId = none)
    (hemail : s.findByEmail (Fleet.normalizeEmail profile.email) = none) :
    (s.validateGoogleUser cfg H call profile).2.fleet =
      match s.createGoogleUser call profile (Fleet.normalizeEmail profile.email)
        (s.findPendingInvitation call.now (Fleet.normalizeEmail profile.email)) with
      | .error _ => s.fleet
      | .ok (_, t) => t.fleet := by
  simp only [validateGoogleUser, hgoogle, hemail]
  split
  · rfl
  · exact fleet_openFor (.ok _)

end Google

/-- A check that passed found the user the tokens are for. -/
theorem user_of_openFor {r : TokenResponse} {check : Except LoginError Fleet.User}
    (h : (s.openFor cfg H now sessionId check).1 = .ok r) :
    ∃ user, check = .ok user ∧ r.user.id = user.id := by
  cases check with
  | error e => cases h
  | ok user => exact ⟨user, rfl, user_of_openSession h⟩

end Store

end DeliveryTracking.Auth
