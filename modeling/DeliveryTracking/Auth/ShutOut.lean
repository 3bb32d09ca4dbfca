/-
# `DeliveryTracking.Auth.ShutOut` — who is shut out, and where

A user is shut out when it is inactive, deleted, or its company is deleted.  Ten
ways in check that in their own code, each some of it:

    login                                   inactive, deleted
    verify2faToken, refresh,
    validateGoogleUser, createSessionForUser  inactive
    the four guards of a token              inactive, company deleted
    an API key                              nothing

A way keeps out every user of a standing exactly when the standing is among
those it checks (`keepsOut_iff`), so the ways do not agree.
-/
import DeliveryTracking.Auth.Login

namespace DeliveryTracking.Auth

open Fleet (FleetTables)

/-! ## Ways in -/

inductive WayIn where
  | login
  | verify2faToken
  | refresh
  | validateGoogleUser
  | createSessionForUser
  | jwtStrategy
  | apiKeyOrJwtGuard
  | wsAuthService
  | deviceTrackingAuthGuard
  | apiKey
  deriving DecidableEq, Repr

/-- A request with what it carries, and the ids it gives to new rows. -/
inductive WayCall where
  | login (email password sessionId jti : String)
  | verify2faToken (tempToken : TempToken) (code sessionId : String)
  | refresh (call : RefreshCall)
  | validateGoogleUser (call : GoogleCall) (profile : GoogleProfile)
  | createSessionForUser (userId sessionId : String)
  | jwtStrategy (token : AccessToken)
  | apiKeyOrJwtGuard (token : AccessToken)
  | wsAuthService (token : AccessToken)
  | deviceTrackingAuthGuard (token : AccessToken)
  | apiKey (hash : String) (requiredScope : Option String)

def WayCall.way : WayCall → WayIn
  | .login .. => .login
  | .verify2faToken .. => .verify2faToken
  | .refresh _ => .refresh
  | .validateGoogleUser .. => .validateGoogleUser
  | .createSessionForUser .. => .createSessionForUser
  | .jwtStrategy _ => .jwtStrategy
  | .apiKeyOrJwtGuard _ => .apiKeyOrJwtGuard
  | .wsAuthService _ => .wsAuthService
  | .deviceTrackingAuthGuard _ => .deviceTrackingAuthGuard
  | .apiKey .. => .apiKey

/-- What is there besides the tables. -/
structure Surroundings where
  lib : Libraries
  cfg : AuthConfig
  lockouts : Lockouts
  marks : Option UsedMarks
  redis : Option Redis
  now : Nat

namespace Store

variable {Hash : Type}

/-- The call issues tokens for the account, accepts a token of it, or a key of its company. -/
def LetsIn (s : Store Hash) (H : TokenHash Hash) (env : Surroundings) (account : Fleet.User) :
    WayCall → Prop
  | .login email password sessionId jti =>
    ∃ r, (s.login env.lib env.lockouts env.cfg H env.now email password sessionId jti).1 =
      .ok (.tokens r) ∧ r.user.id = account.id
  | .verify2faToken tempToken code sessionId =>
    ∃ r, (s.verify2faToken env.lib env.lockouts env.marks env.cfg H env.now tempToken code
      sessionId).1 = .ok r ∧ r.user.id = account.id
  | .refresh call => ∃ r, (Auth.refresh env.cfg H s.db call).1 = .ok r ∧ r.user.id = account.id
  | .validateGoogleUser call profile =>
    ∃ r, (s.validateGoogleUser env.cfg H call profile).1 = .ok r ∧ r.user.id = account.id
  | .createSessionForUser userId sessionId =>
    ∃ r, (s.createSessionForUser env.cfg H env.now userId sessionId).1 = .ok r ∧
      r.user.id = account.id
  | .jwtStrategy t =>
    ∃ u sessionId by', s.jwtStrategy env.redis env.now t = .ok (.user u sessionId by') ∧
      u.id = account.id
  | .apiKeyOrJwtGuard t =>
    ∃ u sessionId by', s.validateJwt env.redis env.now t = .ok (.user u sessionId by') ∧
      u.id = account.id
  | .wsAuthService t =>
    ∃ u, (s.wsVerify env.redis none env.now t).1 = .ok u ∧ u.id = account.id
  | .deviceTrackingAuthGuard t =>
    ∃ u sessionId by', s.deviceTrackingAuthGuard env.redis env.now t =
      .ok (.user u sessionId by') ∧ u.id = account.id
  | .apiKey hash requiredScope =>
    ∃ keyId, s.validateApiKey env.now hash requiredScope = .ok (.apiKey account.companyId keyId)

end Store

/-! ## Standing -/

/-- What decides whether a user is shut out. -/
structure Standing where
  isActive : Bool
  deleted : Bool
  companyDeleted : Bool
  deriving DecidableEq, Repr

def Store.standing {Hash : Type} (s : Store Hash) (account : Fleet.User) : Standing where
  isActive := account.isActive
  deleted := account.deletedAt.isSome
  companyDeleted := (s.companyDeletedAt account.companyId).isSome

/-- Who is shut out: of an API key, the company alone counts. -/
def WayIn.shutsOut (w : WayIn) (standing : Standing) : Bool :=
  match w with
  | .apiKey => standing.companyDeleted
  | _ => !standing.isActive || standing.deleted || standing.companyDeleted

/-- The standings a way checks. -/
def WayIn.refuses (w : WayIn) (standing : Standing) : Bool :=
  match w with
  | .login => !standing.isActive || standing.deleted
  | .verify2faToken | .refresh | .validateGoogleUser | .createSessionForUser => !standing.isActive
  | .jwtStrategy | .apiKeyOrJwtGuard | .wsAuthService | .deviceTrackingAuthGuard =>
    !standing.isActive || standing.companyDeleted
  | .apiKey => false

/-- In every state and surroundings, no call of the way lets in a user of the standing. -/
def KeepsOut {Hash : Type} (H : TokenHash Hash) (lib : Libraries) (w : WayIn) (standing : Standing) :
    Prop :=
  ∀ (s : Store Hash) (env : Surroundings), env.lib = lib → ∀ account ∈ s.fleet.users.rows,
    s.standing account = standing → ∀ call : WayCall, call.way = w →
      ¬s.LetsIn H env account call

/-! ## What a way checks it keeps out -/

namespace Store

variable {Hash : Type} {s : Store Hash} {H : TokenHash Hash} {env : Surroundings}
  {account user : Fleet.User}

theorem of_loginCheck {lib : Libraries} {lockouts : Lockouts} {email password : String}
    (h : s.loginCheck lib lockouts email password = .ok user) :
    user ∈ s.fleet.users.rows ∧ user.isActive = true ∧ user.deletedAt = none := by
  simp only [loginCheck, bind_eq_ok, require_eq_ok] at h
  obtain ⟨_, -, h⟩ := h
  split at h
  · cases h
  · rename_i found hfound
    obtain ⟨_, hcheck, h⟩ := bind_eq_ok.mp h
    rw [require_eq_ok, Bool.and_eq_true] at hcheck
    cases h
    obtain ⟨hmem, hq⟩ := Table.mem_of_findFirst hfound
    rw [Bool.and_eq_true, Option.isNone_iff_eq_none] at hq
    exact ⟨hmem, hcheck.1, hq.2⟩

theorem of_twoFactorCheck {lib : Libraries} {lockouts : Lockouts} {now : Nat} {temp : TempToken}
    {code : String} (h : s.twoFactorCheck lib lockouts now temp code = .ok user) :
    user ∈ s.fleet.users.rows ∧ user.isActive = true := by
  simp only [twoFactorCheck, bind_eq_ok, require_eq_ok] at h
  obtain ⟨_, -, _, -, h⟩ := h
  split at h
  · cases h
  · rename_i found hfound
    split at h
    · cases h
    · simp only [bind_eq_ok, require_eq_ok, Bool.and_eq_true] at h
      obtain ⟨_, hactive, _, -, _, -, h⟩ := h
      cases h
      exact ⟨(mem_of_findAccount hfound).1, hactive.1⟩

theorem of_createSessionCheck {userId : String} (h : s.createSessionCheck userId = .ok user) :
    user ∈ s.fleet.users.rows ∧ user.isActive = true := by
  unfold createSessionCheck at h
  split at h
  · cases h
  · rename_i found hfound
    simp only [bind_eq_ok, require_eq_ok] at h
    obtain ⟨_, hactive, _, -, h⟩ := h
    cases h
    exact ⟨(mem_of_findAccount hfound).1, hactive⟩

theorem of_googleCheck {found : Fleet.User} (h : s.googleCheck found = .ok user) :
    user = found ∧ found.isActive = true := by
  simp only [googleCheck, bind_eq_ok, require_eq_ok] at h
  obtain ⟨_, hactive, _, -, h⟩ := h
  cases h
  exact ⟨rfl, hactive⟩

/-- A new account takes an id that no account has. -/
theorem of_createGoogleUser {call : GoogleCall} {profile : GoogleProfile} {email : String}
    {invitation : Option Fleet.Invitation} {t : Store Hash}
    (h : s.createGoogleUser call profile email invitation = .ok (user, t)) :
    ∀ a ∈ s.fleet.users.rows, a.id ≠ user.id := by
  unfold createGoogleUser at h
  split at h
  · cases h
  · rename_i users hcreate
    cases h
    intro a ha hid
    have hnone : s.fleet.users.create (googleUser call profile email invitation) = none :=
      Table.create_eq_none_iff.mpr ⟨a, ha, Or.inl hid⟩
    rw [hcreate] at hnone
    cases hnone

theorem user_of_login {lib : Libraries} {lockouts : Lockouts} {cfg : AuthConfig} {now : Nat}
    {email password sessionId jti : String} {r : TokenResponse}
    (h : (s.login lib lockouts cfg H now email password sessionId jti).1 = .ok (.tokens r)) :
    ∃ user, s.loginCheck lib lockouts email password = .ok user ∧ r.user.id = user.id := by
  unfold login at h
  split at h
  · cases h
  · rename_i user hcheck
    split at h
    · cases h
    · refine ⟨user, hcheck, ?_⟩
      cases hopen : (s.openSession cfg H now user sessionId).1 with
      | error e =>
        simp only [hopen] at h
        cases h
      | ok r' =>
        simp only [hopen] at h
        cases h
        exact user_of_openSession hopen

/-- A refresh returns the tokens of an active user. -/
theorem user_of_refresh {cfg : AuthConfig} {call : RefreshCall} {r : TokenResponse}
    (h : (Auth.refresh cfg H s.db call).1 = .ok r) :
    ∃ user ∈ s.fleet.users.rows, user.isActive = true ∧ r.user.id = user.id := by
  rcases refresh_cases cfg H s.db call with ⟨-, hr⟩ | ⟨-, -, hr⟩ | ⟨hacc, session, u, hs, hu, hr⟩
  · simp [hr] at h
  · simp [hr] at h
  · rw [hr] at h
    obtain ⟨⟨-, session', hs', -, -, user', hu', hactive⟩, -⟩ := hacc
    obtain rfl : session' = session := Option.some.inj (hs'.symm.trans hs)
    obtain rfl : user' = u := Option.some.inj (hu'.symm.trans hu)
    obtain ⟨account, hfound, rfl⟩ := Option.map_eq_some_iff.mp hu
    exact ⟨account, (mem_of_findAccount hfound).1, hactive, user_of_generateTokens h⟩

/-- An account that comes in through Google is active, or new. -/
theorem user_of_validateGoogleUser {cfg : AuthConfig} {call : GoogleCall} {profile : GoogleProfile}
    {r : TokenResponse} (h : (s.validateGoogleUser cfg H call profile).1 = .ok r) :
    (∃ user ∈ s.fleet.users.rows, user.isActive = true ∧ r.user.id = user.id) ∨
      ∀ a ∈ s.fleet.users.rows, a.id ≠ r.user.id := by
  simp only [validateGoogleUser] at h
  split at h
  · rename_i found hfound
    obtain ⟨user, hcheck, huser⟩ := user_of_openFor h
    obtain ⟨rfl, hactive⟩ := of_googleCheck hcheck
    exact Or.inl ⟨user, (Table.mem_of_findFirst hfound).1, hactive, huser⟩
  · split at h
    · rename_i found hfound
      split at h
      · cases h
      · rename_i user hcheck
        obtain ⟨rfl, hactive⟩ := of_googleCheck hcheck
        exact Or.inl ⟨user, (Table.mem_of_findFirst hfound).1, hactive, user_of_openSession h⟩
    · split at h
      · cases h
      · rename_i user t hcreate
        refine Or.inr fun a ha => ?_
        rw [user_of_openSession h]
        exact of_createGoogleUser hcreate a ha

variable {redis : Option Redis} {now : Nat} {t : AccessToken} {u : User}
  {sessionId impersonatedBy : Option String}

/-- The user of a request is the account of its token. -/
theorem user_of_jwtStrategy (h : s.jwtStrategy redis now t = .ok (.user u sessionId impersonatedBy)) :
    ∃ user ∈ s.fleet.users.rows, s.Admits user ∧ u.id = user.id := by
  simp only [jwtStrategy, bind_eq_ok] at h
  obtain ⟨_, -, _, -, _, -, h⟩ := h
  split at h
  · obtain ⟨_, -, h⟩ := bind_eq_ok.mp h
    cases h
  · obtain ⟨account, haccount, h⟩ := bind_eq_ok.mp h
    cases h
    obtain ⟨hfound, hadmits⟩ := activeAccount_eq_ok.mp haccount
    exact ⟨account, (mem_of_findAccount hfound).1, hadmits, rfl⟩

theorem user_of_validateJwt (h : s.validateJwt redis now t = .ok (.user u sessionId impersonatedBy)) :
    ∃ user ∈ s.fleet.users.rows, s.Admits user ∧ u.id = user.id := by
  simp only [validateJwt, bind_eq_ok] at h
  obtain ⟨_, -, _, -, _, -, _, -, account, haccount, h⟩ := h
  cases h
  obtain ⟨hfound, hadmits⟩ := activeAccount_eq_ok.mp haccount
  exact ⟨account, (mem_of_findAccount hfound).1, hadmits, rfl⟩

theorem user_of_deviceTrackingAuthGuard
    (h : s.deviceTrackingAuthGuard redis now t = .ok (.user u sessionId impersonatedBy)) :
    ∃ user ∈ s.fleet.users.rows, s.Admits user ∧ u.id = user.id := by
  simp only [deviceTrackingAuthGuard, bind_eq_ok] at h
  obtain ⟨_, -, _, -, _, -, _, -, account, haccount, h⟩ := h
  obtain ⟨hfound, hadmits⟩ := activeAccount_eq_ok.mp haccount
  refine ⟨account, (mem_of_findAccount hfound).1, hadmits, ?_⟩
  split at h
  · split at h
    · cases h
    · simp only [bind_eq_ok] at h
      obtain ⟨_, -, _, -, h⟩ := h
      cases h
      rfl
  · cases h
    rfl

/-- Without an entry in its cache a socket is checked in full. -/
theorem user_of_wsVerify (h : (s.wsVerify redis none now t).1 = .ok u) :
    ∃ user ∈ s.fleet.users.rows, s.Admits user ∧ u.id = user.id := by
  have hfull : s.wsVerifyFull redis now t = .ok u := by
    unfold wsVerify at h
    split at h
    · cases h
    · simp only [cached, Option.filter_none] at h
      split at h
      · cases h
      · rename_i u' hu'
        cases h
        exact hu'
  simp only [wsVerifyFull, bind_eq_ok] at hfull
  obtain ⟨_, -, _, -, account, haccount, h⟩ := hfull
  cases h
  obtain ⟨hfound, hadmits⟩ := activeAccount_eq_ok.mp haccount
  exact ⟨account, (mem_of_findAccount hfound).1, hadmits, rfl⟩

/-- A way that lets in an account that is there does not refuse its standing. -/
theorem not_refuses_of_letsIn (ha : account ∈ s.fleet.users.rows) {call : WayCall}
    (h : s.LetsIn H env account call) : call.way.refuses (s.standing account) = false := by
  have hactive : ∀ {v : Fleet.User}, v ∈ s.fleet.users.rows → v.isActive = true →
      v.id = account.id → (!(s.standing account).isActive) = false := by
    intro v hv hvactive hid
    obtain rfl := Fleet.FleetTables.eq_of_id hv ha hid
    simpa [standing] using hvactive
  have hadmits : ∀ {v : Fleet.User}, v ∈ s.fleet.users.rows → s.Admits v →
      v.id = account.id →
      (!(s.standing account).isActive || (s.standing account).companyDeleted) = false := by
    rintro v hv ⟨hvactive, hcompany⟩ hid
    obtain rfl := Fleet.FleetTables.eq_of_id hv ha hid
    simp [standing, hvactive, hcompany]
  cases call with
  | login email password sessionId jti =>
    obtain ⟨r, hr, hid⟩ := h
    obtain ⟨v, hcheck, huser⟩ := user_of_login hr
    obtain ⟨hv, hvactive, hdeleted⟩ := of_loginCheck hcheck
    obtain rfl := Fleet.FleetTables.eq_of_id hv ha (huser.symm.trans hid)
    simp [WayCall.way, WayIn.refuses, standing, hvactive, hdeleted]
  | verify2faToken temp code sessionId =>
    obtain ⟨r, hr, hid⟩ := h
    obtain ⟨v, hcheck, huser⟩ := user_of_openFor hr
    simp only [bind_eq_ok] at hcheck
    obtain ⟨found, hfound, _, -, hsome⟩ := hcheck
    cases hsome
    obtain ⟨hv, hvactive⟩ := of_twoFactorCheck hfound
    exact hactive hv hvactive (huser.symm.trans hid)
  | refresh call =>
    obtain ⟨r, hr, hid⟩ := h
    obtain ⟨v, hv, hvactive, huser⟩ := user_of_refresh hr
    exact hactive hv hvactive (huser.symm.trans hid)
  | validateGoogleUser call profile =>
    obtain ⟨r, hr, hid⟩ := h
    rcases user_of_validateGoogleUser hr with ⟨v, hv, hvactive, huser⟩ | hnew
    · exact hactive hv hvactive (huser.symm.trans hid)
    · exact absurd hid.symm (hnew account ha)
  | createSessionForUser userId sessionId =>
    obtain ⟨r, hr, hid⟩ := h
    obtain ⟨v, hcheck, huser⟩ := user_of_openFor hr
    obtain ⟨hv, hvactive⟩ := of_createSessionCheck hcheck
    exact hactive hv hvactive (huser.symm.trans hid)
  | jwtStrategy t =>
    obtain ⟨_, _, _, hu, hid⟩ := h
    obtain ⟨v, hv, hvadmits, huser⟩ := user_of_jwtStrategy hu
    exact hadmits hv hvadmits (huser.symm.trans hid)
  | apiKeyOrJwtGuard t =>
    obtain ⟨_, _, _, hu, hid⟩ := h
    obtain ⟨v, hv, hvadmits, huser⟩ := user_of_validateJwt hu
    exact hadmits hv hvadmits (huser.symm.trans hid)
  | wsAuthService t =>
    obtain ⟨_, hu, hid⟩ := h
    obtain ⟨v, hv, hvadmits, huser⟩ := user_of_wsVerify hu
    exact hadmits hv hvadmits (huser.symm.trans hid)
  | deviceTrackingAuthGuard t =>
    obtain ⟨_, _, _, hu, hid⟩ := h
    obtain ⟨v, hv, hvadmits, huser⟩ := user_of_deviceTrackingAuthGuard hu
    exact hadmits hv hvadmits (huser.symm.trans hid)
  | apiKey hash requiredScope => rfl

end Store

/-! ## What it does not check it lets in -/

section LetIn

/-- An account of a standing. -/
def standingAccount (standing : Standing) : Fleet.User :=
  { plainAccount with
    isActive := standing.isActive
    deletedAt := if standing.deleted then some 0 else none }

/-- It is alone, with a password, a secret, and a second factor or not. -/
def standingStore (Hash : Type) (lib : Libraries) (totpEnabled : Bool) (standing : Standing) :
    Store Hash :=
  { oneAccount Hash (standingAccount standing)
      ⟨lib.hash "password", none, some "secret", totpEnabled, none, none, none⟩ with
    companyDeletedAt := fun _ => if standing.companyDeleted then some 0 else none
    apiKeys := [⟨"key-1", "digest-1", "company-1", true, none, []⟩] }

/-- Nobody is locked out, and no token is revoked or used. -/
def quiet (lib : Libraries) : Surroundings :=
  ⟨lib, ⟨900, 604800, 604800⟩, ⟨fun _ => false, fun _ => false⟩, none, none, 1000000⟩

variable {Hash : Type} {lib : Libraries} {totpEnabled : Bool} {standing : Standing}

theorem standing_standingStore :
    (standingStore Hash lib totpEnabled standing).standing (standingAccount standing) = standing := by
  obtain ⟨isActive, deleted, companyDeleted⟩ := standing
  cases deleted <;> cases companyDeleted <;> rfl

theorem findAccount_standingStore :
    (standingStore Hash lib totpEnabled standing).findAccount "user-1" =
      some (standingAccount standing) := rfl

theorem loginCheck_standingStore (hactive : standing.isActive = true)
    (hdeleted : standing.deleted = false) :
    (standingStore Hash lib totpEnabled standing).loginCheck lib ⟨fun _ => false, fun _ => false⟩
      "hery@example.mg" "password" = .ok (standingAccount standing) := by
  have hemail : Fleet.normalizeEmail "hery@example.mg" = "hery@example.mg" := by decide +kernel
  have hfound : (standingStore Hash lib totpEnabled standing).fleet.users.findFirst
      (fun u => u.email == "hery@example.mg" && u.deletedAt.isNone) =
        some (standingAccount standing) := by
    simp [Table.findFirst, standingStore, oneAccount, standingAccount, plainAccount, hdeleted]
  have hhash : (truthy (some (lib.hash "password"))).getD lib.dummyHash = lib.hash "password" := by
    simp [truthy, Option.filter, lib.hash_ne]
  have hactive' : (standingAccount standing).isActive = true := hactive
  simp only [Store.loginCheck, hemail, hfound, bind_eq_ok, require_eq_ok]
  refine ⟨(), rfl, (), ?_, trivial⟩
  rw [hactive', show ((standingStore Hash lib totpEnabled standing).credentials
    (standingAccount standing).id).passwordHash = lib.hash "password" from rfl, hhash,
    lib.compare_hash]
  rfl

/-- A session of the account can be opened. -/
theorem openSession_standingStore {cfg : AuthConfig} {H : TokenHash Hash} {now : Nat} {sid : String} :
    ∃ r, ((standingStore Hash lib totpEnabled standing).openSession cfg H now
      (standingAccount standing) sid).1 = .ok r ∧ r.user.id = "user-1" := by
  obtain ⟨db', h, -⟩ : ∃ db', (standingStore Hash lib totpEnabled standing).openSession cfg H now
      (standingAccount standing) sid = _ ∧ _ := Store.openSession_eq rfl
  exact ⟨_, congrArg Prod.fst h, rfl⟩

/-- The account through a check that passes it. -/
theorem openFor_standingStore {cfg : AuthConfig} {H : TokenHash Hash} {now : Nat} {sid : String}
    {check : Except LoginError Fleet.User} (h : check = .ok (standingAccount standing)) :
    ∃ r, ((standingStore Hash lib totpEnabled standing).openFor cfg H now sid check).1 = .ok r ∧
      r.user.id = "user-1" := by
  rw [h]
  exact openSession_standingStore

theorem twoFactorCheck_standingStore (hactive : standing.isActive = true) :
    (standingStore Hash lib true standing).twoFactorCheck lib ⟨fun _ => false, fun _ => false⟩ 1000000
      (tempTokenFor "user-1" "jti-1" 1000000) (lib.totpCode "secret" 1000000) =
        .ok (standingAccount standing) := by
  have hsecret : truthy ((standingStore Hash lib true standing).credentials
      (standingAccount standing).id).totpSecret = some "secret" := rfl
  have hflags : ((standingAccount standing).isActive && ((standingStore Hash lib true
      standing).credentials (standingAccount standing).id).totpEnabled) = true :=
    (Bool.and_true _).trans hactive
  have hscope : ((tempTokenFor "user-1" "jti-1" 1000000).scope == some .two_factor_pending) = true :=
    rfl
  have hlive : decide (1000000 / 1000 < (tempTokenFor "user-1" "jti-1" 1000000).exp) = true := rfl
  have hfound : (standingStore Hash lib true standing).findAccount
      (tempTokenFor "user-1" "jti-1" 1000000).sub = some (standingAccount standing) := rfl
  simp only [Store.twoFactorCheck, hlive, hscope, hfound, hsecret, hflags, lib.totpVerify_code]
  rfl

theorem createSessionCheck_standingStore (hactive : standing.isActive = true) :
    (standingStore Hash lib false standing).createSessionCheck "user-1" =
      .ok (standingAccount standing) := by
  have hactive' : (standingAccount standing).isActive = true := hactive
  simp only [Store.createSessionCheck, findAccount_standingStore, bind_eq_ok, require_eq_ok]
  exact ⟨(), hactive', (), rfl, trivial⟩

/-- A token of the account. -/
def standingToken : AccessToken := accessTokenFor (userOf plainAccount) "session-1" 1000000 900

theorem activeAccount_standingStore (hactive : standing.isActive = true)
    (hcompany : standing.companyDeleted = false) :
    (standingStore Hash lib totpEnabled standing).activeAccount "user-1" =
      .ok (standingAccount standing) := by
  refine Store.activeAccount_eq_ok.mpr ⟨rfl, hactive, ?_⟩
  show (if standing.companyDeleted then some 0 else none) = none
  rw [hcompany]
  rfl

/-- In some state a call of the way lets in an account of the standing. -/
def LetsInSome (H : TokenHash Hash) (lib : Libraries) (w : WayIn) (standing : Standing) : Prop :=
  ∃ (s : Store Hash) (env : Surroundings) (account : Fleet.User) (call : WayCall), env.lib = lib ∧
    account ∈ s.fleet.users.rows ∧ s.standing account = standing ∧ call.way = w ∧
      s.LetsIn H env account call

theorem letsInSome_of_store {H : TokenHash Hash} {w : WayIn} (totpEnabled : Bool) (call : WayCall)
    (hway : call.way = w) (h : (standingStore Hash lib totpEnabled standing).LetsIn H (quiet lib)
      (standingAccount standing) call) : LetsInSome H lib w standing :=
  ⟨standingStore Hash lib totpEnabled standing, quiet lib, standingAccount standing, call, rfl,
    List.mem_singleton_self _, standing_standingStore, hway, h⟩

/-- What opening a session of the account returns. -/
theorem openSession_of_standingAccount {s : Store Hash} {H : TokenHash Hash}
    (h : s.findAccount "user-1" = some (standingAccount standing)) :
    ∃ r, (s.openSession (quiet lib).cfg H (quiet lib).now (standingAccount standing)
      "session-1").1 = .ok r ∧ r.user.id = "user-1" := by
  obtain ⟨db', hopen, -⟩ : ∃ db', s.openSession (quiet lib).cfg H (quiet lib).now
      (standingAccount standing) "session-1" = _ ∧ _ := Store.openSession_eq h
  exact ⟨_, congrArg Prod.fst hopen, rfl⟩

theorem login_letsIn {H : TokenHash Hash} (hactive : standing.isActive = true)
    (hdeleted : standing.deleted = false) : LetsInSome H lib .login standing := by
  refine letsInSome_of_store false (.login "hery@example.mg" "password" "session-1" "jti-1") rfl ?_
  obtain ⟨r, hr, hid⟩ : ∃ r, ((standingStore Hash lib false standing).openSession (quiet lib).cfg H
      (quiet lib).now (standingAccount standing) "session-1").1 = .ok r ∧ r.user.id = "user-1" :=
    openSession_of_standingAccount rfl
  refine ⟨r, ?_, hid⟩
  have hcheck : (standingStore Hash lib false standing).loginCheck (quiet lib).lib
      (quiet lib).lockouts "hery@example.mg" "password" = .ok (standingAccount standing) :=
    loginCheck_standingStore hactive hdeleted
  have hplain : ((standingStore Hash lib false standing).credentials
      (standingAccount standing).id).totpEnabled = false := rfl
  simp only [Store.login, hcheck, hplain, hr]
  rfl

theorem verify2faToken_letsIn {H : TokenHash Hash} (hactive : standing.isActive = true) :
    LetsInSome H lib .verify2faToken standing := by
  refine letsInSome_of_store true (.verify2faToken (tempTokenFor "user-1" "jti-1" 1000000)
    (lib.totpCode "secret" 1000000) "session-1") rfl (openFor_standingStore ?_)
  exact bind_eq_ok.mpr ⟨_, twoFactorCheck_standingStore hactive, bind_eq_ok.mpr ⟨(), rfl, rfl⟩⟩

theorem createSessionForUser_letsIn {H : TokenHash Hash} (hactive : standing.isActive = true) :
    LetsInSome H lib .createSessionForUser standing :=
  letsInSome_of_store false (.createSessionForUser "user-1" "session-1") rfl
    (openFor_standingStore (createSessionCheck_standingStore hactive))

theorem validateGoogleUser_letsIn {H : TokenHash Hash} (hactive : standing.isActive = true) :
    LetsInSome H lib .validateGoogleUser standing := by
  refine letsInSome_of_store false (.validateGoogleUser ⟨1000000, "user-2", "company-2", "session-1",
    "hash-2"⟩ ⟨"google-1", "hery@example.mg", "Hery", "Rakoto"⟩) rfl ?_
  obtain ⟨r, hr, hid⟩ : ∃ r, (((standingStore Hash lib false standing).linkGoogle "user-1"
      "google-1").openSession (quiet lib).cfg H (quiet lib).now (standingAccount standing)
        "session-1").1 = .ok r ∧ r.user.id = "user-1" := openSession_of_standingAccount rfl
  refine ⟨r, ?_, hid⟩
  have hemail : Fleet.normalizeEmail "hery@example.mg" = "hery@example.mg" := by decide +kernel
  have hgoogle : (standingStore Hash lib false standing).findByGoogleId "google-1" = none := rfl
  have hfound : (standingStore Hash lib false standing).findByEmail "hery@example.mg" =
      some (standingAccount standing) := rfl
  have hcheck : (standingStore Hash lib false standing).googleCheck (standingAccount standing) =
      .ok (standingAccount standing) := bind_eq_ok.mpr ⟨(), require_eq_ok.mpr hactive, rfl⟩
  simp only [Store.validateGoogleUser, hemail, hgoogle, hfound, hcheck]
  exact hr

theorem refresh_letsIn {H : TokenHash Hash} (hH : ∀ t, H.compare t (H.hash t) = true)
    (hactive : standing.isActive = true) : LetsInSome H lib .refresh standing := by
  -- the session of a login, and its first token
  obtain ⟨db', -, husers, hrow⟩ : ∃ db', (standingStore Hash lib false standing).openSession
      (quiet lib).cfg H (quiet lib).now (standingAccount standing) "session-1" = _ ∧ _ :=
    Store.openSession_eq rfl
  let token := tokenFor (userOf (standingAccount standing)) "session-1" 1000000 604800
  let s := (standingStore Hash lib false standing).withSessions db'
  have huser : s.db.users "user-1" = some (userOf (standingAccount standing)) := rfl
  have haccepts : Accepts H s.db ⟨token, 1000000, 1000000, 1000000⟩ := by
    have hlive : 1000000 / 1000 < 1000000 / 1000 + 604800 := by decide
    have hopen : 1000000 ≤ 1000000 + 604800 * 1000 := by decide
    exact ⟨⟨hlive, _, hrow, rfl, hopen, _, huser, hactive⟩, _, hrow, Or.inl (hH token)⟩
  have hstanding : (standingStore Hash lib false standing).standing (standingAccount standing) =
      standing := standing_standingStore
  obtain ⟨r, hr⟩ : ∃ r, (Auth.refresh (quiet lib).cfg H s.db
      ⟨token, 1000000, 1000000, 1000000⟩).1 = .ok r := refresh_ok_iff.mpr haccepts
  refine ⟨s, quiet lib, standingAccount standing, .refresh ⟨token, 1000000, 1000000, 1000000⟩, rfl,
    List.mem_singleton_self _, hstanding, rfl, r, hr, ?_⟩
  obtain ⟨user, hmem, -, hid⟩ := Store.user_of_refresh hr
  rw [hid, List.mem_singleton.mp hmem]

theorem guards_letIn {H : TokenHash Hash} (hactive : standing.isActive = true)
    (hcompany : standing.companyDeleted = false) :
    LetsInSome H lib .jwtStrategy standing ∧ LetsInSome H lib .apiKeyOrJwtGuard standing ∧
      LetsInSome H lib .wsAuthService standing ∧
        LetsInSome H lib .deviceTrackingAuthGuard standing := by
  have haccount : (standingStore Hash lib false standing).activeAccount standingToken.sub =
      .ok (standingAccount standing) := activeAccount_standingStore hactive hcompany
  have hverified : standingToken.verified 1000000 = true := by decide
  have hpass : ∀ {b : Bool} {e : Rejection}, b = true → passes b e = .ok () := passes_eq_ok.mpr
  have hthen : ∀ {α β : Type} {x : Except Rejection α} {f : α → Except Rejection β} {b : β} (a : α),
      x = .ok a → f a = .ok b → (x >>= f) = .ok b := fun a hx hf => bind_eq_ok.mpr ⟨a, hx, hf⟩
  refine ⟨?_, ?_, ?_, ?_⟩
  · refine letsInSome_of_store false (.jwtStrategy standingToken) rfl
      ⟨userOf (standingAccount standing), some "session-1", none, ?_, rfl⟩
    exact hthen () (hpass hverified) (hthen () (hpass rfl) (hthen () rfl (hthen _ haccount rfl)))
  · refine letsInSome_of_store false (.apiKeyOrJwtGuard standingToken) rfl
      ⟨userOf (standingAccount standing), some "session-1", none, ?_, rfl⟩
    exact hthen () (hpass hverified) (hthen () (hpass rfl) (hthen () (hpass rfl) (hthen () rfl
      (hthen _ haccount rfl))))
  · refine letsInSome_of_store false (.wsAuthService standingToken) rfl
      ⟨userOf (standingAccount standing), ?_, rfl⟩
    have hfull : (standingStore Hash lib false standing).wsVerifyFull (quiet lib).redis (quiet lib).now
        standingToken = .ok (userOf (standingAccount standing)) :=
      hthen () (hpass rfl) (hthen () rfl (hthen _ haccount rfl))
    have hpre : (do
        passes (standingToken.verified (quiet lib).now) .invalidToken
        passes (standingToken.scope.all (· == .access)) .invalidScope
        passes (standingToken.type != some .platform_admin) .invalidType) =
          (.ok () : Except Rejection Unit) :=
      hthen () (hpass hverified) (hthen () (hpass rfl) (hpass rfl))
    simp only [Store.wsVerify, hpre, cached, Option.filter_none, hfull]
  · refine letsInSome_of_store false (.deviceTrackingAuthGuard standingToken) rfl
      ⟨userOf (standingAccount standing), some "session-1", none, ?_, rfl⟩
    exact hthen () (hpass hverified) (hthen () (hpass rfl) (hthen () (hpass rfl) (hthen () rfl
      (hthen _ haccount rfl))))

end LetIn

/-- **A way keeps out every user of a standing exactly when it checks that standing.** -/
theorem keepsOut_iff {Hash : Type} {H : TokenHash Hash} (hH : ∀ t, H.compare t (H.hash t) = true)
    (lib : Libraries) (w : WayIn) (standing : Standing) :
    KeepsOut H lib w standing ↔ w.refuses standing = true := by
  constructor
  · intro hout
    by_contra hnot
    have hfree : w.refuses standing = false := Bool.eq_false_iff.mpr hnot
    have hsome : LetsInSome H lib w standing := by
      cases w with
      | login =>
        rw [WayIn.refuses, Bool.or_eq_false_iff, Bool.not_eq_false'] at hfree
        exact login_letsIn hfree.1 hfree.2
      | verify2faToken => exact verify2faToken_letsIn (by simpa [WayIn.refuses] using hfree)
      | refresh => exact refresh_letsIn hH (by simpa [WayIn.refuses] using hfree)
      | validateGoogleUser => exact validateGoogleUser_letsIn (by simpa [WayIn.refuses] using hfree)
      | createSessionForUser => exact createSessionForUser_letsIn (by simpa [WayIn.refuses] using hfree)
      | jwtStrategy =>
        rw [WayIn.refuses, Bool.or_eq_false_iff, Bool.not_eq_false'] at hfree
        exact (guards_letIn hfree.1 hfree.2).1
      | apiKeyOrJwtGuard =>
        rw [WayIn.refuses, Bool.or_eq_false_iff, Bool.not_eq_false'] at hfree
        exact (guards_letIn hfree.1 hfree.2).2.1
      | wsAuthService =>
        rw [WayIn.refuses, Bool.or_eq_false_iff, Bool.not_eq_false'] at hfree
        exact (guards_letIn hfree.1 hfree.2).2.2.1
      | deviceTrackingAuthGuard =>
        rw [WayIn.refuses, Bool.or_eq_false_iff, Bool.not_eq_false'] at hfree
        exact (guards_letIn hfree.1 hfree.2).2.2.2
      | apiKey => exact letsInSome_of_store false (.apiKey "digest-1" none) rfl ⟨"key-1", rfl⟩
    obtain ⟨s, env, account, call, hlib, hmem, hstanding, hway, hin⟩ := hsome
    exact hout s env hlib account hmem hstanding call hway hin
  · rintro hrefuses s env - account hmem hstanding call rfl hin
    have hfree := Store.not_refuses_of_letsIn hmem hin
    rw [hstanding, hrefuses] at hfree
    cases hfree

/-! ### A company that was deleted -/

/-- An inactive user is kept out by the guard of requests. -/
theorem jwtStrategy_keepsOut_inactive :
    KeepsOut identityHash spelledLibraries .jwtStrategy ⟨false, false, false⟩ :=
  (keepsOut_iff (fun t => (identityHash_ideal t t).mpr rfl) spelledLibraries .jwtStrategy
    ⟨false, false, false⟩).mpr rfl

/-- The user of a deleted company logs in, and a key of the company is accepted. -/
theorem deletedCompany_let_in :
    WayIn.login.shutsOut ⟨true, false, true⟩ = true ∧
    WayIn.apiKey.shutsOut ⟨true, false, true⟩ = true ∧
    (standingStore Jwt spelledLibraries false ⟨true, false, true⟩).standing
      (standingAccount ⟨true, false, true⟩) = ⟨true, false, true⟩ ∧
    (standingStore Jwt spelledLibraries false ⟨true, false, true⟩).LetsIn identityHash
      (quiet spelledLibraries) (standingAccount ⟨true, false, true⟩)
      (.login "hery@example.mg" "password" "session-1" "jti-1") ∧
    (standingStore Jwt spelledLibraries false ⟨true, false, true⟩).LetsIn identityHash
      (quiet spelledLibraries) (standingAccount ⟨true, false, true⟩) (.apiKey "digest-1" none) := by
  refine ⟨rfl, rfl, rfl, ⟨⟨tokenFor (userOf plainAccount) "session-1" 1000000 900,
    tokenFor (userOf plainAccount) "session-1" 1000000 604800, userOf plainAccount⟩, ?_, rfl⟩,
    "key-1", rfl⟩
  decide +kernel

end DeliveryTracking.Auth
