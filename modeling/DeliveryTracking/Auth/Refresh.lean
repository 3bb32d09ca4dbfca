/-
# `DeliveryTracking.Auth.Refresh` — sessions, `refresh` and `generateTokens`

A `UserSession` row holds the hash of its current refresh token and of the one
before.  `refresh` verifies the JWT, checks the row inside an interactive
transaction (`refreshTx`) and then calls `generateTokens`, whose raw `UPDATE`
moves the current hash to `previous` and writes the new one: two atomic steps,
the second outside the transaction.

The hash is a parameter.  `Bcrypt` is bcrypt as documented (it compares the
first 72 bytes), `Ideal` a hash without collisions.
-/
import Mathlib.Logic.Function.Basic
import DeliveryTracking.Auth.Jwt
import DeliveryTracking.Transaction

namespace DeliveryTracking.Auth

/-! ## Rows -/

/-- The columns of `users` that `refresh` and `generateTokens` read. -/
structure User where
  id : String
  email : String
  role : String
  companyId : String
  firstName : String
  lastName : String
  isActive : Bool
  deriving DecidableEq, Repr

/-- A row of `user_sessions`. -/
structure UserSession (Hash : Type) where
  id : String
  userId : String
  refreshTokenHash : Option Hash
  previousRefreshTokenHash : Option Hash
  /-- Milliseconds. -/
  expiresAt : Nat

/-- The two tables, by primary key. -/
structure Db (Hash : Type) where
  users : String → Option User
  sessions : String → Option (UserSession Hash)
  users_key : ∀ {k u}, users k = some u → u.id = k
  sessions_key : ∀ {k se}, sessions k = some se → se.id = k

variable {Hash : Type}

namespace Db

/-- A row that is deleted has no key. -/
theorem keyed_none (k : String) : ∀ se : UserSession Hash, none = some se → se.id = k := by
  intro se h
  cases h

/-- Write the session row `k`; a row keeps its key. -/
def setSession (db : Db Hash) (k : String) (row : Option (UserSession Hash))
    (hk : ∀ se, row = some se → se.id = k) : Db Hash where
  users := db.users
  sessions := Function.update db.sessions k row
  users_key := db.users_key
  sessions_key := by
    intro j se h
    by_cases hj : j = k
    · subst hj
      rw [Function.update_self] at h
      exact hk se h
    · rw [Function.update_of_ne hj] at h
      exact db.sessions_key h

@[simp] theorem setSession_self (db : Db Hash) (k : String) (row hk) :
    (db.setSession k row hk).sessions k = row := Function.update_self ..

theorem setSession_of_ne (db : Db Hash) {j k : String} (h : j ≠ k) (row hk) :
    (db.setSession k row hk).sessions j = db.sessions j := Function.update_of_ne h ..

end Db

/-! ## The hash -/

/-- `bcrypt.hash` and `bcrypt.compare`.  The salt is inside the hash value. -/
structure TokenHash (Hash : Type) where
  hash : Jwt → Hash
  compare : Jwt → Hash → Bool

/-- bcrypt, as documented: equal on what it reads. -/
def TokenHash.Bcrypt (hs256 : List UInt8 → List UInt8) (H : TokenHash Hash) : Prop :=
  ∀ x y, H.compare x (H.hash y) = true ↔
    (x.bytes hs256).take bcryptLimit = (y.bytes hs256).take bcryptLimit

/-- A hash without collisions. -/
def TokenHash.Ideal (H : TokenHash Hash) : Prop :=
  ∀ x y, H.compare x (H.hash y) = true ↔ x = y

/-- bcrypt with the read bytes as hash value. -/
def bcryptPrefix (hs256 : List UInt8 → List UInt8) : TokenHash (List UInt8) where
  hash t := (t.bytes hs256).take bcryptLimit
  compare t h := (t.bytes hs256).take bcryptLimit == h

theorem bcryptPrefix_bcrypt (hs256 : List UInt8 → List UInt8) :
    (bcryptPrefix hs256).Bcrypt hs256 := by
  intro x y
  simp [bcryptPrefix]

/-- The token itself as hash value. -/
def identityHash : TokenHash Jwt where
  hash t := t
  compare t h := t == h

theorem identityHash_ideal : identityHash.Ideal := by
  intro x y
  simp [identityHash]

/-! ## `refresh` -/

/-- The `UnauthorizedException`s of `refresh` and `generateTokens`. -/
inductive AuthError where
  | invalidRefreshToken
  | reuseDetected
  | userNotFound
  deriving DecidableEq, Repr

def AuthError.message : AuthError → String
  | .invalidRefreshToken => "Invalid refresh token"
  | .reuseDetected => "Refresh token reuse detected — session revoked"
  | .userNotFound => "User not found"

structure TokenResponse where
  accessToken : Jwt
  refreshToken : Jwt
  user : User
  deriving DecidableEq, Repr

/-- `JWT_ACCESS_EXPIRATION`, `JWT_REFRESH_EXPIRATION` and the row lifetime
`parseExpirationSeconds` reads from the latter, all in seconds. -/
structure AuthConfig where
  accessExpiration : Nat
  refreshExpiration : Nat
  refreshExpirationSeconds : Nat

/-- `jwtService.verify` on a token this service signed: it fails once `exp` is reached. -/
def jwtVerify (now : Nat) (t : Jwt) : Option JwtPayload :=
  if now / 1000 < t.payload.exp then some t.payload else none

/-- `bcrypt.compare` against a nullable column. -/
def matchesSlot (H : TokenHash Hash) (t : Jwt) : Option Hash → Bool
  | some h => H.compare t h
  | none => false

/-- The transaction callback of `refresh`. -/
def refreshTx (H : TokenHash Hash) (now : Nat) (t : Jwt) (sessionId : String) (db : Db Hash) :
    Except AuthError User × Db Hash :=
  match db.sessions sessionId with
  | none => (.error .invalidRefreshToken, db)
  | some session =>
    match db.users session.userId with
    | none => (.error .invalidRefreshToken, db)
    | some user =>
      if user.isActive = false then (.error .invalidRefreshToken, db)
      else if session.refreshTokenHash.isNone then (.error .invalidRefreshToken, db)
      else if session.expiresAt < now then (.error .invalidRefreshToken, db)
      else if matchesSlot H t session.refreshTokenHash = false ∧
          matchesSlot H t session.previousRefreshTokenHash = false then
        -- reuse: both slots are cleared and the row deleted, then the callback throws
        (.error .reuseDetected, db.setSession sessionId none (Db.keyed_none sessionId))
      else (.ok user, db)

/-- The `UPDATE user_sessions` of `generateTokens`: the current hash moves to `previous`.
`none` when no row matches. -/
def rotate (cfg : AuthConfig) (h : Hash) (now : Nat) (sessionId userId : String) (db : Db Hash) :
    Option (Db Hash) :=
  match hs : db.sessions sessionId with
  | none => none
  | some session =>
    have hk : session.id = sessionId := db.sessions_key hs
    if session.userId = userId then
      some (db.setSession sessionId
        (some { session with
          refreshTokenHash := some h
          previousRefreshTokenHash := session.refreshTokenHash
          expiresAt := max session.expiresAt (now + cfg.refreshExpirationSeconds * 1000) })
        (fun _ h => Option.some.inj h ▸ hk))
    else none

/-- The payload `generateTokens` signs at `now`, valid for `seconds`. -/
def tokenFor (user : User) (sessionId : String) (now seconds : Nat) : Jwt :=
  ⟨{ sub := user.id, email := user.email, role := user.role, companyId := user.companyId,
     firstName := user.firstName, lastName := user.lastName, sessionId := sessionId,
     iat := now / 1000, exp := now / 1000 + seconds }⟩

/-- `generateTokens` for an existing session: the tokens are signed at `signedAt`, the
`UPDATE` runs at `rotatedAt`, after the hash. -/
def generateTokens (cfg : AuthConfig) (H : TokenHash Hash) (signedAt rotatedAt : Nat)
    (userId sessionId : String) (db : Db Hash) : Except AuthError TokenResponse × Db Hash :=
  match db.users userId with
  | none => (.error .userNotFound, db)
  | some user =>
    let accessToken := tokenFor user sessionId signedAt cfg.accessExpiration
    let refreshToken := tokenFor user sessionId signedAt cfg.refreshExpiration
    match rotate cfg (H.hash refreshToken) rotatedAt sessionId userId db with
    | none => (.error .invalidRefreshToken, db)
    | some db' => (.ok ⟨accessToken, refreshToken, user⟩, db')

/-- One call of `refresh`: the token, and the clock when it is checked, when the new tokens
are signed and when the row is updated. -/
structure RefreshCall where
  token : Jwt
  now : Nat
  signedAt : Nat
  rotatedAt : Nat
  deriving DecidableEq, Repr

/-- `AuthService.refresh`, run without interruption. -/
def refresh (cfg : AuthConfig) (H : TokenHash Hash) (db : Db Hash) (c : RefreshCall) :
    Except AuthError TokenResponse × Db Hash :=
  match jwtVerify c.now c.token with
  | none => (.error .invalidRefreshToken, db)
  | some payload =>
    match transaction (refreshTx H c.now c.token payload.sessionId) db with
    | (.error e, db') => (.error e, db')
    | (.ok user, db') => generateTokens cfg H c.signedAt c.rotatedAt user.id payload.sessionId db'

/-- A session as login leaves it: the row, then its first tokens. -/
def createSession (cfg : AuthConfig) (H : TokenHash Hash) (now : Nat) (user : User)
    (sessionId : String) (db : Db Hash) : Except AuthError TokenResponse × Db Hash :=
  generateTokens cfg H now now user.id sessionId
    (db.setSession sessionId
      (some ⟨sessionId, user.id, none, none, now + cfg.refreshExpirationSeconds * 1000⟩)
      (by rintro _ ⟨rfl⟩; rfl))

/-! ## What a call can do -/

/-- The session exists with a current token, has not expired, and its user is active. -/
def SessionOpen (db : Db Hash) (now : Nat) (sid : String) : Prop :=
  ∃ session, db.sessions sid = some session ∧
    session.refreshTokenHash.isSome ∧ now ≤ session.expiresAt ∧
    ∃ user, db.users session.userId = some user ∧ user.isActive = true

/-- A token passes everything but the hash comparison: its JWT has not expired and its
session is open. -/
def Open (db : Db Hash) (now : Nat) (t : Jwt) : Prop :=
  now / 1000 < t.payload.exp ∧ SessionOpen db now t.payload.sessionId

/-- The token matches the current or the previous slot of its session. -/
def InSlots (H : TokenHash Hash) (db : Db Hash) (t : Jwt) : Prop :=
  ∃ session, db.sessions t.payload.sessionId = some session ∧
    (matchesSlot H t session.refreshTokenHash = true ∨
      matchesSlot H t session.previousRefreshTokenHash = true)

/-- Everything the transaction callback can do. -/
theorem refreshTx_cases (H : TokenHash Hash) (now : Nat) (t : Jwt) (db : Db Hash) :
    (¬ SessionOpen db now t.payload.sessionId ∧
      refreshTx H now t t.payload.sessionId db = (.error .invalidRefreshToken, db)) ∨
    (SessionOpen db now t.payload.sessionId ∧ ¬ InSlots H db t ∧
      (refreshTx H now t t.payload.sessionId db).1 = .error .reuseDetected) ∨
    (SessionOpen db now t.payload.sessionId ∧ InSlots H db t ∧ ∃ session user,
      db.sessions t.payload.sessionId = some session ∧ db.users session.userId = some user ∧
      refreshTx H now t t.payload.sessionId db = (.ok user, db)) := by
  cases hs : db.sessions t.payload.sessionId with
  | none =>
      refine Or.inl ⟨?_, by simp [refreshTx, hs]⟩
      rintro ⟨session, hs', _⟩
      rw [hs] at hs'
      cases hs'
  | some session =>
    have hopen : SessionOpen db now t.payload.sessionId ↔ session.refreshTokenHash.isSome ∧
        now ≤ session.expiresAt ∧
        ∃ user, db.users session.userId = some user ∧ user.isActive = true := by
      simp [SessionOpen, hs]
    have hslots : InSlots H db t ↔ ¬ (matchesSlot H t session.refreshTokenHash = false ∧
        matchesSlot H t session.previousRefreshTokenHash = false) := by
      simp only [InSlots, hs, Option.some.injEq, exists_eq_left', not_and_or, Bool.not_eq_false]
    rw [hopen, hslots]
    cases hu : db.users session.userId with
    | none => exact Or.inl ⟨by simp, by simp [refreshTx, hs, hu]⟩
    | some user =>
      simp only [refreshTx, hs, hu]
      by_cases hact : user.isActive = false
      · exact Or.inl ⟨by simp [hact], by simp [hact]⟩
      · by_cases hnone : session.refreshTokenHash.isNone
        · refine Or.inl ⟨?_, by simp [hact, hnone]⟩
          simp only [Option.isNone_iff_eq_none] at hnone
          simp [hnone]
        · have hsome : session.refreshTokenHash.isSome := by
            simpa [Option.isSome_iff_ne_none] using hnone
          by_cases hlt : session.expiresAt < now
          · exact Or.inl ⟨fun h => absurd h.2.1 (Nat.not_le.mpr hlt), by simp [hact, hnone, hlt]⟩
          · have hall : session.refreshTokenHash.isSome ∧ now ≤ session.expiresAt ∧
                ∃ u, some user = some u ∧ u.isActive = true :=
              ⟨hsome, Nat.le_of_not_lt hlt, user, rfl, by simpa using hact⟩
            by_cases hno : matchesSlot H t session.refreshTokenHash = false ∧
                matchesSlot H t session.previousRefreshTokenHash = false
            · exact Or.inr (Or.inl ⟨hall, not_not.mpr hno, by
                simp only [if_neg hact, if_neg hnone, if_neg hlt, if_pos hno]⟩)
            · exact Or.inr (Or.inr ⟨hall, hno, session, user, rfl, hu, by
                simp only [if_neg hact, if_neg hnone, if_neg hlt, if_neg hno]⟩)

/-- The transaction as `refresh` sees it: the reuse branch writes nothing in the end. -/
theorem transaction_refreshTx (H : TokenHash Hash) (now : Nat) (t : Jwt) (db : Db Hash) :
    (transaction (refreshTx H now t t.payload.sessionId) db).2 = db := by
  rcases refreshTx_cases H now t db with ⟨-, h⟩ | ⟨-, -, h⟩ | ⟨-, -, _, _, -, -, h⟩
  · simp only [transaction, h]
  · exact transaction_of_error h
  · simp only [transaction, h]

/-- What a rotation writes: the old current slot becomes `previous`. -/
theorem rotate_eq_some {cfg : AuthConfig} {h : Hash} {now : Nat} {sid uid : String}
    {db db' : Db Hash} (hr : rotate cfg h now sid uid db = some db') :
    ∃ session, db.sessions sid = some session ∧ session.userId = uid ∧
      db'.users = db.users ∧
      db'.sessions sid = some { session with
        refreshTokenHash := some h
        previousRefreshTokenHash := session.refreshTokenHash
        expiresAt := max session.expiresAt (now + cfg.refreshExpirationSeconds * 1000) } ∧
      ∀ k, k ≠ sid → db'.sessions k = db.sessions k := by
  unfold rotate at hr
  split at hr
  · cases hr
  · rename_i session hs
    split_ifs at hr with hu
    simp only [Option.some.injEq] at hr
    subst hr
    exact ⟨session, hs, hu, rfl, Db.setSession_self .., fun k hk => Db.setSession_of_ne _ hk ..⟩

theorem rotate_isSome (cfg : AuthConfig) (h : Hash) (now : Nat) {sid : String} {db : Db Hash}
    {session : UserSession Hash} (hs : db.sessions sid = some session) :
    (rotate cfg h now sid session.userId db).isSome := by
  unfold rotate
  split
  · rename_i hn; rw [hs] at hn; cases hn
  · rename_i se hse
    rw [hs] at hse
    cases hse
    simp

/-- The tokens `generateTokens` returns for the session's own user, and the row it leaves. -/
theorem generateTokens_session (cfg : AuthConfig) (H : TokenHash Hash) (signedAt rotatedAt : Nat)
    {sid : String} {db : Db Hash} {session : UserSession Hash} {user : User}
    (hs : db.sessions sid = some session) (hu : db.users session.userId = some user) :
    ∃ db', generateTokens cfg H signedAt rotatedAt user.id sid db
        = (.ok ⟨tokenFor user sid signedAt cfg.accessExpiration,
                tokenFor user sid signedAt cfg.refreshExpiration, user⟩, db') ∧
      db'.users = db.users ∧
      db'.sessions sid = some { session with
        refreshTokenHash := some (H.hash (tokenFor user sid signedAt cfg.refreshExpiration))
        previousRefreshTokenHash := session.refreshTokenHash
        expiresAt := max session.expiresAt (rotatedAt + cfg.refreshExpirationSeconds * 1000) } ∧
      ∀ k, k ≠ sid → db'.sessions k = db.sessions k := by
  have hkey : user.id = session.userId := db.users_key hu
  have hrot := rotate_isSome cfg (H.hash (tokenFor user sid signedAt cfg.refreshExpiration))
    rotatedAt hs
  obtain ⟨db', hdb'⟩ := Option.isSome_iff_exists.mp hrot
  obtain ⟨session', hs', -, husers, hrow, hother⟩ := rotate_eq_some hdb'
  obtain rfl : session = session' := by rw [hs] at hs'; exact Option.some.inj hs'
  refine ⟨db', ?_, husers, hrow, hother⟩
  simp only [generateTokens, hkey, hu, hdb']

/-- A call goes through: the token would be accepted by `db` at the call's time. -/
def Accepts (H : TokenHash Hash) (db : Db Hash) (c : RefreshCall) : Prop :=
  Open db c.now c.token ∧ InSlots H db c.token

/-- Everything a call of `refresh` can do. -/
theorem refresh_cases (cfg : AuthConfig) (H : TokenHash Hash) (db : Db Hash) (c : RefreshCall) :
    (¬ Open db c.now c.token ∧ refresh cfg H db c = (.error .invalidRefreshToken, db)) ∨
    (Open db c.now c.token ∧ ¬ InSlots H db c.token ∧
      refresh cfg H db c = (.error .reuseDetected, db)) ∨
    (Accepts H db c ∧ ∃ session user,
      db.sessions c.token.payload.sessionId = some session ∧
      db.users session.userId = some user ∧
      refresh cfg H db c
        = generateTokens cfg H c.signedAt c.rotatedAt user.id c.token.payload.sessionId db) := by
  by_cases hexp : c.now / 1000 < c.token.payload.exp
  · have hverify : jwtVerify c.now c.token = some c.token.payload := by simp [jwtVerify, hexp]
    rcases refreshTx_cases H c.now c.token db with ⟨hop, htx⟩ | ⟨hop, hno, htx⟩ |
        ⟨hop, hin, session, user, hs, hu, htx⟩
    · refine Or.inl ⟨fun h => hop h.2, ?_⟩
      simp only [refresh, hverify, transaction, htx]
    · refine Or.inr (Or.inl ⟨⟨hexp, hop⟩, hno, ?_⟩)
      have htrans : transaction (refreshTx H c.now c.token c.token.payload.sessionId) db
          = (.error .reuseDetected, db) :=
        Prod.ext (by rw [transaction_fst]; exact htx) (transaction_refreshTx H c.now c.token db)
      simp only [refresh, hverify, htrans]
    · refine Or.inr (Or.inr ⟨⟨⟨hexp, hop⟩, hin⟩, session, user, hs, hu, ?_⟩)
      simp only [refresh, hverify, transaction, htx]
  · refine Or.inl ⟨fun h => hexp h.1, ?_⟩
    simp [refresh, jwtVerify, hexp]

/-- A call succeeds exactly when its token passes the guards and matches a slot. -/
theorem refresh_ok_iff {cfg : AuthConfig} {H : TokenHash Hash} {db : Db Hash} {c : RefreshCall} :
    (∃ r, (refresh cfg H db c).1 = .ok r) ↔ Accepts H db c := by
  rcases refresh_cases cfg H db c with ⟨hop, h⟩ | ⟨hop, hno, h⟩ | ⟨hacc, session, user, hs, hu, h⟩
  · simp [h, Accepts, hop]
  · simp [h, Accepts, hno]
  · obtain ⟨db', hgen, -⟩ := generateTokens_session cfg H c.signedAt c.rotatedAt hs hu
    simp [h, hgen, hacc]

/-- A call reports reuse exactly for a token that passes the guards and matches no slot. -/
theorem refresh_reuse_iff {cfg : AuthConfig} {H : TokenHash Hash} {db : Db Hash}
    {c : RefreshCall} : (refresh cfg H db c).1 = .error .reuseDetected ↔
      Open db c.now c.token ∧ ¬ InSlots H db c.token := by
  rcases refresh_cases cfg H db c with ⟨hop, h⟩ | ⟨hop, hno, h⟩ | ⟨hacc, session, user, hs, hu, h⟩
  · simp [h, hop]
  · simp [h, hop, hno]
  · obtain ⟨db', hgen, -⟩ := generateTokens_session cfg H c.signedAt c.rotatedAt hs hu
    simp [h, hgen, hacc.2]

/-- A failing call leaves both tables as they were, the reuse branch included: its
writes are rolled back with the transaction. -/
theorem refresh_of_error {cfg : AuthConfig} {H : TokenHash Hash} {db : Db Hash} {c : RefreshCall}
    {e : AuthError} (h : (refresh cfg H db c).1 = .error e) : (refresh cfg H db c).2 = db := by
  rcases refresh_cases cfg H db c with ⟨-, hr⟩ | ⟨-, -, hr⟩ | ⟨-, session, user, hs, hu, hr⟩
  · rw [hr]
  · rw [hr]
  · obtain ⟨db', hgen, -⟩ := generateTokens_session cfg H c.signedAt c.rotatedAt hs hu
    rw [hr, hgen] at h
    cases h

/-- What a successful call returns and writes. -/
theorem refresh_of_ok {cfg : AuthConfig} {H : TokenHash Hash} {db : Db Hash} {c : RefreshCall}
    {r : TokenResponse} (h : (refresh cfg H db c).1 = .ok r) :
    ∃ session user, db.sessions c.token.payload.sessionId = some session ∧
      db.users session.userId = some user ∧
      r.refreshToken
        = tokenFor user c.token.payload.sessionId c.signedAt cfg.refreshExpiration ∧
      (refresh cfg H db c).2.users = db.users ∧
      (refresh cfg H db c).2.sessions c.token.payload.sessionId = some { session with
        refreshTokenHash := some (H.hash r.refreshToken)
        previousRefreshTokenHash := session.refreshTokenHash
        expiresAt := max session.expiresAt
          (c.rotatedAt + cfg.refreshExpirationSeconds * 1000) } ∧
      ∀ k, k ≠ c.token.payload.sessionId →
        (refresh cfg H db c).2.sessions k = db.sessions k := by
  rcases refresh_cases cfg H db c with ⟨-, hr⟩ | ⟨-, -, hr⟩ | ⟨-, session, user, hs, hu, hr⟩
  · simp [hr] at h
  · simp [hr] at h
  · obtain ⟨db', hgen, husers, hrow, hother⟩ := generateTokens_session cfg H c.signedAt c.rotatedAt hs hu
    rw [hr, hgen] at h ⊢
    obtain rfl : _ = r := Except.ok.inj h
    exact ⟨session, user, hs, hu, rfl, husers, hrow, hother⟩

end DeliveryTracking.Auth
