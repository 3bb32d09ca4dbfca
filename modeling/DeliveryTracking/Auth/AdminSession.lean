/-
# `DeliveryTracking.Auth.AdminSession` — the session of a super-admin

A super-admin has one session: a column with the hash of its refresh token.  The
hash before it stays in Redis for thirty seconds, for a second tab.

    refreshSession   reads the row, compares, copies the hash to Redis, signs
                     new tokens and writes their hash
    logout           writes null
    changePassword   reads the row, compares, writes a new password and null

Each line is several steps, and the write of `refreshSession` looks at nothing: it
also writes after a `logout` that came between.  In a run where none does an
ended session stays ended (`ended_until_login`).
-/
import DeliveryTracking.Auth.Login
import DeliveryTracking.Auth.Rotation

namespace DeliveryTracking.Auth

variable {Hash : Type}

/-! ## Tokens and rows -/

/-- The claims of a refresh token.  The library writes `iat` and `exp`, in seconds. -/
structure AdminToken where
  sub : String
  email : String
  role : String
  firstName : String
  lastName : String
  type : Option TokenType
  iat : Nat
  exp : Nat
  deriving DecidableEq, Repr

/-- `bcrypt` on these tokens. -/
structure AdminTokenHash (Hash : Type) where
  hash : AdminToken → Hash
  compare : AdminToken → Hash → Bool

/-- A hash without collisions. -/
def AdminTokenHash.Ideal (H : AdminTokenHash Hash) : Prop :=
  ∀ x y, H.compare x (H.hash y) = true ↔ x = y

/-- The columns of `platform_admins` that these operations read. -/
structure AdminRow (Hash : Type) extends PlatformAdmin where
  email : String
  firstName : String
  lastName : String
  totpEnabled : Bool
  passwordHash : String
  refreshTokenHash : Option Hash
  deriving DecidableEq, Repr

structure AdminTokenResponse where
  accessToken : AccessToken
  refreshToken : AdminToken
  email : String
  firstName : String
  lastName : String
  role : String
  totpEnabled : Bool
  deriving DecidableEq, Repr

namespace AdminRow

variable (admin : AdminRow Hash)

def accessToken (now seconds : Nat) : AccessToken :=
  { sub := admin.id, companyId := none, type := some .platform_admin, scope := none
    sessionId := none, impersonatedBy := none
    iat := now / 1000, exp := ((now / 1000 + seconds : Nat) : Int) }

def refreshToken (now seconds : Nat) : AdminToken :=
  { sub := admin.id, email := admin.email, role := "super_admin", firstName := admin.firstName
    lastName := admin.lastName, type := some .platform_admin
    iat := now / 1000, exp := now / 1000 + seconds }

/-- What `generateTokens` signs and returns. -/
def tokens (cfg : AuthConfig) (now : Nat) : AdminTokenResponse :=
  ⟨admin.accessToken now cfg.accessExpiration, admin.refreshToken now cfg.refreshExpiration,
    admin.email, admin.firstName, admin.lastName, "super_admin", admin.totpEnabled⟩

end AdminRow

inductive AdminAuthError where
  | invalidRefreshToken
  | reuseDetected
  | wrongPassword
  deriving DecidableEq, Repr

def AdminAuthError.message : AdminAuthError → String
  | .invalidRefreshToken => "Invalid refresh token"
  | .reuseDetected => "Refresh token reuse detected — session revoked"
  | .wrongPassword => "Current password is incorrect"

/-! ## `refreshSession`, step by step -/

/-- The lifetime of the hash before, in milliseconds. -/
def graceMs : Nat := 30000

/-- Where a call stands.  From `matched` on it works with the row as it read it. -/
inductive AdminStage (Hash : Type) where
  /-- The token passed `jwtService.verify`. -/
  | verified (token : AdminToken)
  /-- The token is not the current one. -/
  | unmatched (token : AdminToken) (admin : AdminRow Hash) (current : Hash)
  | reused
  | matched (admin : AdminRow Hash) (current : Hash)
  /-- The hash was copied to Redis. -/
  | copied (admin : AdminRow Hash)
  | signed (r : AdminTokenResponse)
  /-- `changePassword` found the password right. -/
  | checked (newPassword : String)
  | returned (r : Option AdminTokenResponse)
  | refused (e : AdminAuthError)
  deriving DecidableEq, Repr

/-- The key `admin:refresh:prev:` of an admin. -/
abbrev GraceKey (Hash : Type) := Option (Lease Hash)

/-- `jwtService.verify` and the check of the type. -/
def AdminStage.call (now : Nat) (token : AdminToken) : AdminStage Hash :=
  if now / 1000 < token.exp ∧ token.type = some .platform_admin then .verified token
  else .refused .invalidRefreshToken

/-- The row of a token, and whether the token is its current one. -/
def findSession (H : AdminTokenHash Hash) (admin : AdminRow Hash) (token : AdminToken) :
    AdminStage Hash :=
  if token.sub = admin.id ∧ admin.isActive = true then
    match admin.refreshTokenHash with
    | none => .refused .invalidRefreshToken
    | some current =>
      if H.compare token current then .matched admin current else .unmatched token admin current
  else .refused .invalidRefreshToken

/-- Whether the token is the one before, which Redis remembers. -/
def checkPrevious (H : AdminTokenHash Hash) (redis : Bool) (now : Nat) (grace : GraceKey Hash) :
    AdminStage Hash → AdminStage Hash
  | .unmatched token admin current =>
    if redis && (Lease.get now grace).any (H.compare token) then .matched admin current else .reused
  | stage => stage

/-- A token would pass the checks of `refreshSession`, made now. -/
def Passes (H : AdminTokenHash Hash) (redis : Bool) (now : Nat) (admin : AdminRow Hash)
    (grace : GraceKey Hash) (token : AdminToken) : Prop :=
  (AdminStage.call now token : AdminStage Hash) = .verified token ∧
    ∃ current, checkPrevious H redis now grace (findSession H admin token) = .matched admin current

/-- A call of `refreshSession` is under way. -/
def AdminStage.refreshing : AdminStage Hash → Bool
  | .verified _ | .unmatched .. | .reused | .matched .. | .copied _ | .signed _ => true
  | .checked _ | .returned _ | .refused _ => false

/-- The write of the new hash comes next. -/
def AdminStage.writing : AdminStage Hash → Bool
  | .signed _ => true
  | _ => false

/-! ## The operations together -/

structure AdminTask (Hash : Type) where
  stage : AdminStage Hash
  /-- It started before the session was last ended; no code reads it. -/
  beforeEnd : Bool
  deriving DecidableEq, Repr

structure AdminState (Hash : Type) where
  /-- Milliseconds. -/
  clock : Nat
  admin : AdminRow Hash
  grace : GraceKey Hash
  tasks : List (AdminTask Hash)
  /-- A `logout` or `changePassword` has ended the session and no login came since; no code reads
  it. -/
  ended : Bool
  deriving DecidableEq, Repr

inductive AdminEvent where
  | login
  | refreshSession (token : AdminToken)
  | logout
  | changePassword (currentPassword newPassword : String)
  /-- The next step of a call, with Redis or without. -/
  | next (i : Nat) (redis : Bool)
  | later (ms : Nat)
  deriving DecidableEq, Repr

namespace AdminState

variable (lib : Libraries) (H : AdminTokenHash Hash) (cfg : AuthConfig) (s : AdminState Hash)

/-- `platformAdmin.update` of the hash. -/
def setRefreshTokenHash (hash : Option Hash) : AdminState Hash :=
  { s with admin := { s.admin with refreshTokenHash := hash } }

/-- The session is ended: the calls under way started before. -/
def endSession : AdminState Hash :=
  { s.setRefreshTokenHash none with
    tasks := s.tasks.map fun task => { task with beforeEnd := true }
    ended := true }

def setPasswordHash (passwordHash : String) : AdminState Hash :=
  { s with admin := { s.admin with passwordHash := passwordHash } }

/-- The next step of a call; one that ended takes none. -/
def advance (redis : Bool) : AdminStage Hash → AdminStage Hash × AdminState Hash
  | .verified token => (findSession H s.admin token, s)
  | .unmatched token admin current =>
    (checkPrevious H redis s.clock s.grace (.unmatched token admin current), s)
  | .reused => (.refused .reuseDetected, s.setRefreshTokenHash none)
  | .matched admin current =>
    (.copied admin, if redis then { s with grace := some ⟨current, s.clock + graceMs⟩ } else s)
  | .copied admin => (.signed (admin.tokens cfg s.clock), s)
  | .signed r => (.returned (some r), s.setRefreshTokenHash (some (H.hash r.refreshToken)))
  | .checked newPassword => (.returned none, (s.setPasswordHash (lib.hash newPassword)).endSession)
  | .returned r => (.returned r, s)
  | .refused e => (.refused e, s)

/-- `changePassword` reads the row and compares. -/
def checkPassword (currentPassword newPassword : String) : AdminStage Hash :=
  if lib.compare currentPassword s.admin.passwordHash then .checked newPassword
  else .refused .wrongPassword

def step : AdminEvent → Option (AdminState Hash)
  | .login =>
    some
      { s.setRefreshTokenHash (some (H.hash (s.admin.tokens cfg s.clock).refreshToken)) with
        ended := false }
  | .refreshSession token => some { s with tasks := s.tasks ++ [⟨.call s.clock token, false⟩] }
  | .logout => some s.endSession
  | .changePassword currentPassword newPassword =>
    some
      { s with tasks := s.tasks ++ [⟨s.checkPassword lib currentPassword newPassword, false⟩] }
  | .next i redis =>
    (s.tasks[i]?).map fun task =>
      let result := s.advance lib H cfg redis task.stage
      { result.2 with tasks := result.2.tasks.set i { task with stage := result.1 } }
  | .later ms => some { s with clock := s.clock + ms }

/-- Once the session is ended and the refreshes that started before are over, no token passes. -/
def Final : Prop :=
  s.ended = true → (∀ task ∈ s.tasks, task.beforeEnd = true → task.stage.refreshing = false) →
    ∀ redis token, ¬ Passes H redis s.clock s.admin s.grace token

/-- A refresh comes to its write. -/
def writesHash (s : AdminState Hash) : AdminEvent → Bool
  | .next i _ => (s.tasks[i]?).any (·.stage.writing)
  | _ => false

/-- A refresh that comes to its write finds the session not ended. -/
def WritesInTime (s : AdminState Hash) (e : AdminEvent) : Prop :=
  s.writesHash e = true → s.ended = false

instance (s : AdminState Hash) (e : AdminEvent) : Decidable (s.WritesInTime e) :=
  inferInstanceAs (Decidable (_ → _))

/-! ## An ended session has no hash -/

def Closed (s : AdminState Hash) : Prop := s.ended = true → s.admin.refreshTokenHash = none

variable {lib H cfg s} {t : AdminState Hash} {e : AdminEvent}

/-- A step of a call other than the write of a refresh. -/
theorem closed_advance {redis : Bool} {stage : AdminStage Hash} (hs : s.Closed)
    (hwrite : ∀ r, stage = .signed r → s.ended = false) :
    (s.advance lib H cfg redis stage).2.Closed := by
  cases stage with
  | verified token => exact hs
  | unmatched token admin current => exact hs
  | reused => exact fun _ => rfl
  | matched admin current =>
    cases redis with
    | false => exact hs
    | true => exact hs
  | copied admin => exact hs
  | signed r =>
    intro hended
    have hnot : s.ended = false := hwrite r rfl
    exact absurd (hnot.symm.trans hended) Bool.false_ne_true
  | checked newPassword => exact fun _ => rfl
  | returned r => exact hs
  | refused e => exact hs

theorem closed_step (hs : s.Closed) (hguard : s.WritesInTime e)
    (hstep : s.step lib H cfg e = some t) : t.Closed := by
  cases e with
  | login =>
    cases hstep
    rintro ⟨⟩
  | refreshSession token =>
    cases hstep
    exact hs
  | logout =>
    cases hstep
    exact fun _ => rfl
  | changePassword currentPassword newPassword =>
    cases hstep
    exact hs
  | next i redis =>
    obtain ⟨task, hi, rfl⟩ := Option.map_eq_some_iff.mp hstep
    have hwrite : ∀ r, task.stage = .signed r → s.ended = false := by
      intro r hr
      refine hguard ?_
      rw [writesHash, hi, Option.any_some, hr, AdminStage.writing]
    have hnext : (s.advance lib H cfg redis task.stage).2.Closed := closed_advance hs hwrite
    exact hnext
  | later ms =>
    cases hstep
    exact hs

/-- Without a hash no token passes. -/
theorem final_of_closed (hs : s.Closed) : s.Final H := by
  rintro hended - redis token ⟨-, current, hmatched⟩
  rw [findSession, hs hended] at hmatched
  split at hmatched <;> cases hmatched

def start (clock : Nat) (admin : AdminRow Hash) (grace : GraceKey Hash) : AdminState Hash :=
  ⟨clock, admin, grace, [], false⟩

/-- **In a run whose refreshes write in time, no token passes between the end of the session and the
next login.** -/
theorem ended_until_login {clock : Nat} {admin : AdminRow Hash} {grace : GraceKey Hash}
    {es : List AdminEvent}
    (hrun : Run (Guarded (Steps (step lib H cfg)) WritesInTime) (start clock admin grace) es t) :
    t.Final H := by
  have ht : t.Closed := by
    refine hrun.invariant (I := Closed) ?_ (by rintro ⟨⟩)
    intro u e v hu hnext
    exact closed_step hu hnext.2 hnext.1
  exact final_of_closed ht

end AdminState

/-! ### A logout between the checks and the write -/

/-- The token itself as hash value. -/
def identityAdminHash : AdminTokenHash AdminToken := ⟨fun t => t, fun t h => t == h⟩

theorem identityAdminHash_ideal : identityAdminHash.Ideal := by
  intro x y
  exact beq_iff_eq

def superAdmin : AdminRow AdminToken :=
  { id := "admin-1", isActive := true, email := "admin@example.mg", firstName := "Lala"
    lastName := "Rabe", totpEnabled := true, passwordHash := "hash of password"
    refreshTokenHash := none }

/-- The token of a login at 0 s, and of the refresh a minute later. -/
def firstAdminToken : AdminToken := superAdmin.refreshToken 0 604800

def secondAdminToken : AdminToken := superAdmin.refreshToken 60000 604800

/-- A refresh reads, compares, copies and signs. -/
def refreshBegins : List AdminEvent :=
  [.login, .later 60000, .refreshSession firstAdminToken, .next 0 true, .next 0 true, .next 0 true]

/-- The refresh writes, and the session is ended after it. -/
def refreshThenLogout : List AdminEvent := refreshBegins ++ [.next 0 true, .logout]

theorem refreshThenLogout_final : ∃ s : AdminState AdminToken,
    Run (Steps (AdminState.step spelledLibraries identityAdminHash sampleConfig))
      (.start 0 superAdmin none) refreshThenLogout s ∧
    s.ended = true ∧ s.Final identityAdminHash := by
  have hend : (refreshThenLogout.foldlM (guardStep
      (AdminState.step spelledLibraries identityAdminHash sampleConfig) AdminState.WritesInTime)
      (.start 0 superAdmin none)).any (·.ended) = true := by
    decide +kernel
  obtain ⟨s, hs, hended⟩ := (Option.any_eq_true _ _).mp hend
  have hrun := Run.of_guardStep hs
  exact ⟨s, hrun.of_guarded, hended, AdminState.ended_until_login hrun⟩

/-- The session is ended before the refresh writes. -/
def logoutThenWrite : List AdminEvent := refreshBegins ++ [.logout, .next 0 true]

/-- Nothing is under way, the session is ended, and the token of the refresh passes. -/
theorem logoutThenWrite_passes : identityAdminHash.Ideal ∧ ∃ s : AdminState AdminToken,
    Run (Steps (AdminState.step spelledLibraries identityAdminHash sampleConfig))
      (.start 0 superAdmin none) logoutThenWrite s ∧
    s.tasks = [⟨.returned (some (superAdmin.tokens sampleConfig 60000)), true⟩] ∧
    Passes identityAdminHash true s.clock s.admin s.grace secondAdminToken ∧
    ¬ s.Final identityAdminHash := by
  have hend : (logoutThenWrite.foldlM
      (AdminState.step spelledLibraries identityAdminHash sampleConfig)
      (.start 0 superAdmin none)).any (fun s => s.ended && (s.clock == 60000 &&
        (s.tasks == [⟨.returned (some (superAdmin.tokens sampleConfig 60000)), true⟩] &&
          s.admin == { superAdmin with refreshTokenHash := some secondAdminToken }))) = true := by
    decide +kernel
  obtain ⟨s, hrun, hs⟩ := Run.of_foldlM_any hend
  simp only [Bool.and_eq_true, beq_iff_eq] at hs
  obtain ⟨hended, hclock, htasks, hadmin⟩ := hs
  have hpasses : Passes identityAdminHash true s.clock s.admin s.grace secondAdminToken := by
    rw [hclock, hadmin]
    exact ⟨by decide +kernel, secondAdminToken, rfl⟩
  refine ⟨identityAdminHash_ideal, s, hrun, htasks, hpasses, fun hfinal => hfinal hended ?_ true _ hpasses⟩
  rw [htasks]
  decide

end DeliveryTracking.Auth
