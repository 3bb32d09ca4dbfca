/-
# `DeliveryTracking.Auth.Guards` — who a token lets in

A request or a socket presents a token signed with `JWT_ACCESS_SECRET`, or a
request presents an API key.  Four guards look at it, each in its own code:

    JwtStrategy               most requests
    ApiKeyOrJwtGuard          requests that may come with an API key
    DeviceTrackingAuthGuard   positions of the native worker
    WsAuthService             sockets; it keeps what it found for ten seconds

A token carries the second it was issued in (`iat`) and the second it expires in
(`exp`).  Ending a session or a password leaves a marker in Redis: tokens issued
before its cutoff are refused while the marker lives (`assertNotRevoked`).
-/
import DeliveryTracking.Lease
import DeliveryTracking.Auth.Refresh
import DeliveryTracking.Fleet.Services

namespace DeliveryTracking

/-- The text of a role. -/
def Fleet.UserRole.name : Fleet.UserRole → String
  | .admin => "admin"
  | .dispatcher => "dispatcher"
  | .driver => "driver"
  | .client => "client"

namespace Auth

open Fleet (FleetTables)

/-! ## Tokens -/

inductive TokenType where
  | user
  | platform_admin
  deriving DecidableEq, Repr

inductive TokenScope where
  | access
  | two_factor_pending
  | device_tracking
  deriving DecidableEq, Repr

/-- The claims of a token that a guard reads.  The library writes `iat` and `exp`, in seconds. -/
structure AccessToken where
  sub : String
  companyId : Option String
  type : Option TokenType
  scope : Option TokenScope
  sessionId : Option String
  impersonatedBy : Option String
  iat : Nat
  exp : Int
  deriving DecidableEq, Repr

/-- `jwtService.verify` on a token signed with the secret. -/
def AccessToken.verified (now : Nat) (t : AccessToken) : Bool := ((now / 1000 : Nat) : Int) < t.exp

/-- The access token of `generateTokens`, for a lifetime of `seconds`. -/
def accessTokenFor (user : User) (sessionId : String) (now : Nat) (seconds : Int) : AccessToken :=
  { sub := user.id, companyId := some user.companyId, type := none, scope := none
    sessionId := some sessionId, impersonatedBy := none
    iat := now / 1000, exp := ((now / 1000 : Nat) : Int) + seconds }

/-- `30m`. -/
def impersonationSeconds : Nat := 1800

/-- The token of `impersonate`: it is for the admin of a tenant, with a session of its own. -/
def impersonationTokenFor (adminId : String) (user : User) (impersonationSessionId : String)
    (now : Nat) : AccessToken :=
  { sub := user.id, companyId := some user.companyId, type := some .user, scope := none
    sessionId := some impersonationSessionId, impersonatedBy := some adminId
    iat := now / 1000, exp := ((now / 1000 : Nat) : Int) + impersonationSeconds }

/-! ## Rows -/

/-- The columns of `users` that only the ways in read. -/
structure Credentials where
  passwordHash : String
  googleId : Option String
  totpSecret : Option String
  totpEnabled : Bool
  resetTokenId : Option String
  resetTokenHash : Option String
  resetTokenExpiry : Option Nat
  deriving DecidableEq, Repr

structure PlatformAdmin where
  id : String
  isActive : Bool
  deriving DecidableEq, Repr

structure ApiKey where
  id : String
  keyHash : String
  companyId : String
  isActive : Bool
  expiresAt : Option Nat
  scopes : List String
  deriving DecidableEq, Repr

/-- The tables the ways in read. -/
structure Store (Hash : Type) where
  fleet : FleetTables
  /-- Of the user with an id. -/
  credentials : String → Credentials
  /-- Of the company with an id. -/
  companyDeletedAt : String → Option Int
  sessions : String → Option (UserSession Hash)
  sessions_key : ∀ {k se}, sessions k = some se → se.id = k
  platformAdmins : String → Option PlatformAdmin
  apiKeys : List ApiKey

/-! ## Markers -/

/-- `revoked:user:` or `revoked:session:` with an id. -/
inductive RevokedKey where
  | user (id : String)
  | session (id : String)
  deriving DecidableEq, Repr

/-- The cutoff, in seconds, under each key that is there. -/
abbrev Redis := RevokedKey → Option (Lease Nat)

namespace Redis

/-- `SET key cutoff EX ttl`, which refuses a ttl of zero. -/
def set (redis : Redis) (now : Nat) (key : RevokedKey) (cutoff ttl : Nat) : Option Redis :=
  if ttl = 0 then none
  else some (Function.update redis key (some ⟨cutoff, now + ttl * 1000⟩))

/-- The marker under a key, if it is there, is after the token. -/
def revokes (redis : Redis) (now : Nat) (key : RevokedKey) (iat : Nat) : Bool :=
  (Lease.get now (redis key)).any fun cutoff => iat < cutoff

end Redis

/-! ## Guards -/

inductive Rejection where
  | invalidToken
  | invalidScope
  | invalidType
  | malformed
  | revoked
  | userInactive
  | companyDeleted
  | adminInactive
  | sessionRevoked
  | sessionExpired
  | invalidApiKey
  | apiKeyExpired
  | apiKeyScope
  deriving DecidableEq, Repr

/-- What a guard leaves in the request. -/
inductive Principal where
  | user (u : User) (sessionId impersonatedBy : Option String)
  | platformAdmin (id : String)
  | apiKey (companyId keyId : String)
  deriving DecidableEq, Repr

/-- The user of a row. -/
def userOf (account : Fleet.User) : User where
  id := account.id
  email := account.email
  role := account.role.name
  companyId := account.companyId
  firstName := account.firstName
  lastName := account.lastName
  isActive := account.isActive

/-- Throw unless a check passes. -/
def passes (passed : Bool) (e : Rejection) : Except Rejection Unit :=
  if passed then .ok () else .error e

/-- The keys of the markers that can revoke a token. -/
def AccessToken.keys (t : AccessToken) : List RevokedKey :=
  .user t.sub :: t.sessionId.toList.map .session

def assertNotRevoked (redis : Option Redis) (now : Nat) (t : AccessToken) : Except Rejection Unit :=
  match redis with
  | none => .ok ()
  | some redis => passes (t.iat == 0 || !t.keys.any fun key => redis.revokes now key t.iat) .revoked

namespace Store

variable {Hash : Type} (s : Store Hash)

def findAccount (id : String) : Option Fleet.User := s.fleet.users.findFirst (·.id == id)

/-- The account of a token is active and its company is there. -/
def activeAccount (id : String) : Except Rejection Fleet.User :=
  match s.findAccount id with
  | none => .error .userInactive
  | some account => do
    passes account.isActive .userInactive
    passes (s.companyDeletedAt account.companyId).isNone .companyDeleted
    .ok account

/-- Passport verifies the token, then calls `validate`. -/
def jwtStrategy (redis : Option Redis) (now : Nat) (t : AccessToken) : Except Rejection Principal := do
  passes (t.verified now) .invalidToken
  passes (t.scope.all (· == .access)) .invalidScope
  assertNotRevoked redis now t
  if t.type = some .platform_admin then
    passes ((s.platformAdmins t.sub).any (·.isActive)) .adminInactive
    .ok (.platformAdmin t.sub)
  else
    let account ← s.activeAccount t.sub
    .ok (.user (userOf account) t.sessionId t.impersonatedBy)

/-- `ApiKeyOrJwtGuard`, for a bearer token. -/
def validateJwt (redis : Option Redis) (now : Nat) (t : AccessToken) : Except Rejection Principal := do
  passes (t.verified now) .invalidToken
  passes (t.scope.all (· == .access)) .invalidScope
  passes (t.type != some .platform_admin) .invalidType
  assertNotRevoked redis now t
  let account ← s.activeAccount t.sub
  .ok (.user (userOf account) t.sessionId none)

/-- `ApiKeyOrJwtGuard`, for an API key with a digest, on a route that may ask for a scope. -/
def validateApiKey (now : Nat) (hash : String) (requiredScope : Option String) :
    Except Rejection Principal :=
  match s.apiKeys.find? fun k => k.keyHash == hash && k.isActive with
  | none => .error .invalidApiKey
  | some keyRecord => do
    passes (!keyRecord.expiresAt.any (· < now)) .apiKeyExpired
    passes (requiredScope.all keyRecord.scopes.contains) .apiKeyScope
    .ok (.apiKey keyRecord.companyId keyRecord.id)

/-- A device token needs its session too. -/
def deviceTrackingAuthGuard (redis : Option Redis) (now : Nat) (t : AccessToken) :
    Except Rejection Principal := do
  passes (t.verified now) .invalidToken
  passes (t.scope != some .two_factor_pending) .invalidScope
  passes (t.type != some .platform_admin) .invalidType
  assertNotRevoked redis now t
  let account ← s.activeAccount t.sub
  match t.scope, t.sessionId with
  | some .device_tracking, some sessionId =>
    match s.sessions sessionId with
    | none => .error .sessionRevoked
    | some session => do
      passes (session.userId == account.id) .sessionRevoked
      passes (now ≤ session.expiresAt) .sessionExpired
      .ok (.user (userOf account) t.sessionId none)
  | _, _ => .ok (.user (userOf account) t.sessionId none)

end Store

/-- `client.data.authCache`. -/
structure WsAuthCacheEntry where
  user : User
  token : AccessToken
  checkedAt : Nat
  deriving DecidableEq, Repr

/-- `WS_AUTH_CACHE_TTL_MS`. -/
def wsAuthCacheTtlMs : Nat := 10000

/-- The entry of a socket that still answers for a token. -/
def cached (cache : Option WsAuthCacheEntry) (now : Nat) (t : AccessToken) :
    Option WsAuthCacheEntry :=
  cache.filter fun entry => entry.token == t && decide (now - entry.checkedAt < wsAuthCacheTtlMs)

namespace Store

variable {Hash : Type} (s : Store Hash)

/-- The token of a socket, checked in full. -/
def wsVerifyFull (redis : Option Redis) (now : Nat) (t : AccessToken) : Except Rejection User := do
  passes (t.sub != "" && t.companyId.any (· != "")) .malformed
  assertNotRevoked redis now t
  let account ← s.activeAccount t.sub
  .ok (userOf account)

/-- `WsAuthService.verify`: the user, and the cache of the socket after it. -/
def wsVerify (redis : Option Redis) (cache : Option WsAuthCacheEntry) (now : Nat) (t : AccessToken) :
    Except Rejection User × Option WsAuthCacheEntry :=
  match (do
    passes (t.verified now) .invalidToken
    passes (t.scope.all (· == .access)) .invalidScope
    passes (t.type != some .platform_admin) .invalidType : Except Rejection Unit) with
  | .error e => (.error e, cache)
  | .ok _ =>
    match cached cache now t with
    | some entry => (.ok entry.user, cache)
    | none =>
      match s.wsVerifyFull redis now t with
      | .error e => (.error e, cache)
      | .ok user => (.ok user, some ⟨user, t, now⟩)

end Store

/-! ## What a guard that lets in has checked -/

theorem passes_eq_ok {passed : Bool} {e : Rejection} {a : Unit} :
    passes passed e = .ok a ↔ passed = true := by
  cases passed <;> simp [passes]

/-- No marker that is there is after the token. -/
theorem assertNotRevoked_eq_ok {redis : Redis} {now : Nat} {t : AccessToken} (hiat : 0 < t.iat) :
    assertNotRevoked (some redis) now t = .ok () ↔
      ∀ key ∈ t.keys, redis.revokes now key t.iat = false := by
  have hne : (t.iat == 0) = false := by simpa using Nat.pos_iff_ne_zero.mp hiat
  rw [assertNotRevoked, passes_eq_ok, hne, Bool.false_or, Bool.not_eq_true', List.any_eq_false]
  simp only [Bool.not_eq_true]

theorem Redis.revokes_eq_true_iff {redis : Redis} {now iat : Nat} {key : RevokedKey} :
    redis.revokes now key iat = true ↔
      ∃ l, redis key = some l ∧ now < l.expiresAt ∧ iat < l.holder := by
  rw [revokes]
  constructor
  · intro h
    obtain ⟨cutoff, hget, hlt⟩ := (Option.any_eq_true _ _).mp h
    obtain ⟨expiresAt, hkey, hlive⟩ := Lease.get_eq_some_iff.mp hget
    exact ⟨_, hkey, hlive, of_decide_eq_true hlt⟩
  · rintro ⟨l, hkey, hlive, hlt⟩
    have hget : Lease.get now (redis key) = some l.holder :=
      Lease.get_eq_some_iff.mpr ⟨l.expiresAt, hkey, hlive⟩
    rw [hget]
    exact decide_eq_true hlt

namespace Store

variable {Hash : Type} {s : Store Hash} {redis : Option Redis} {now : Nat} {t : AccessToken}

/-- An active account of a company that is there. -/
def Admits (s : Store Hash) (a : Fleet.User) : Prop :=
  a.isActive = true ∧ s.companyDeletedAt a.companyId = none

theorem activeAccount_eq_ok {id : String} {account : Fleet.User} :
    s.activeAccount id = .ok account ↔ s.findAccount id = some account ∧ s.Admits account := by
  unfold activeAccount Admits
  cases h : s.findAccount id with
  | none => simp
  | some a =>
    simp only [bind_eq_ok, passes_eq_ok, Option.isNone_iff_eq_none, Option.some.injEq, Except.ok.injEq]
    constructor
    · rintro ⟨_, hactive, _, hcompany, rfl⟩
      exact ⟨rfl, hactive, hcompany⟩
    · rintro ⟨rfl, hactive, hcompany⟩
      exact ⟨(), hactive, (), hcompany, rfl⟩

/-- What every guard has checked of a token it lets in. -/
structure Passed (s : Store Hash) (redis : Option Redis) (now : Nat) (t : AccessToken) : Prop where
  verified : t.verified now = true
  unrevoked : assertNotRevoked redis now t = .ok ()
  account : t.type ≠ some .platform_admin →
    ∃ account, s.findAccount t.sub = some account ∧ s.Admits account

theorem passed_of_jwtStrategy {p : Principal} (h : s.jwtStrategy redis now t = .ok p) :
    s.Passed redis now t := by
  simp only [jwtStrategy, bind_eq_ok, passes_eq_ok] at h
  obtain ⟨_, hverified, _, -, _, hunrevoked, h⟩ := h
  refine ⟨hverified, hunrevoked, fun huser => ?_⟩
  rw [if_neg huser] at h
  obtain ⟨account, haccount, -⟩ := bind_eq_ok.mp h
  exact ⟨account, activeAccount_eq_ok.mp haccount⟩

theorem passed_of_validateJwt {p : Principal} (h : s.validateJwt redis now t = .ok p) :
    s.Passed redis now t := by
  simp only [validateJwt, bind_eq_ok, passes_eq_ok] at h
  obtain ⟨_, hverified, _, -, _, -, _, hunrevoked, account, haccount, -⟩ := h
  exact ⟨hverified, hunrevoked, fun _ => ⟨account, activeAccount_eq_ok.mp haccount⟩⟩

theorem passed_of_deviceTrackingAuthGuard {p : Principal}
    (h : s.deviceTrackingAuthGuard redis now t = .ok p) : s.Passed redis now t := by
  simp only [deviceTrackingAuthGuard, bind_eq_ok, passes_eq_ok] at h
  obtain ⟨_, hverified, _, -, _, -, _, hunrevoked, account, haccount, -⟩ := h
  exact ⟨hverified, hunrevoked, fun _ => ⟨account, activeAccount_eq_ok.mp haccount⟩⟩

end Store

/-! ### A store with one account -/

def oneAccount (Hash : Type) (account : Fleet.User) (credentials : Credentials) : Store Hash where
  fleet :=
    { vehicles := .empty
      drivers := .empty
      history := .empty
      users := ⟨[account], List.pairwise_singleton _ _⟩
      invitations := .empty
      deliveries := [] }
  credentials := fun _ => credentials
  companyDeletedAt := fun _ => none
  sessions := fun _ => none
  sessions_key := fun {k se} h => Db.keyed_none k se h
  platformAdmins := fun _ => none
  apiKeys := []

/-- An active admin. -/
def plainAccount : Fleet.User :=
  ⟨"user-1", "company-1", "hery@example.mg", "Hery", "Rakoto", none, .admin, true, none⟩

/-- A password, and no second factor. -/
def plainCredentials : Credentials := ⟨"hash-1", none, none, false, none, none, none⟩

end Auth

end DeliveryTracking
