/-
# `DeliveryTracking.Auth.TwoFactor` — no session without the second factor

Four operations open sessions, each in steps of its own:

    login                 password; with a second factor a temporary token instead
    verify2faToken        temporary token, then code, then `SET NX` of its mark
    validateGoogleUser    Google id, or address, or a new account
    createSessionForUser  an exchange code

`refresh` opens none.  The last two look at the second factor in the row they
read, so a user who keeps it on has sessions from `verify2faToken` alone
(`two_factor_required`, first part).

A temporary token is used up by its mark, which lives 360 s from the first use.
The token itself is looked at before, when the call begins.  A call that begins
in time and comes to its `SET NX` after the mark is gone uses the token again; in
a run where none does each token yields one session at most (second part).
-/
import DeliveryTracking.Auth.Login
import DeliveryTracking.Auth.Ending

namespace DeliveryTracking.Auth

variable {Hash : Type}

/-! ## The checks of `verify2faToken`, apart -/

/-- `jwtService.verify` and the check of the scope, when the call begins. -/
def TempToken.check (now : Nat) (t : TempToken) : Except LoginError Unit := do
  require (now / 1000 < t.exp) .invalidTempToken
  require (t.scope == some .two_factor_pending) .invalidScope

namespace Store

variable (s : Store Hash)

/-- The user of a temporary token, and the secret its code passed for. -/
def twoFactorUser (lib : Libraries) (lockouts : Lockouts) (now : Nat) (tempToken : TempToken)
    (code : String) : Except LoginError (Fleet.User × String) :=
  match s.findAccount tempToken.sub with
  | none => .error .twoFactorNotEnabled
  | some user =>
    match truthy (s.credentials user.id).totpSecret with
    | none => .error .twoFactorNotEnabled
    | some totpSecret => do
      require (user.isActive && (s.credentials user.id).totpEnabled) .twoFactorNotEnabled
      require (!lockouts.twoFactor user.id) .twoFactorLockedOut
      require (lib.totpVerify totpSecret code now) .invalidCode
      .ok (user, totpSecret)

/-- Made at one time, the two are `twoFactorCheck`. -/
theorem twoFactorCheck_ok_iff {lib : Libraries} {lockouts : Lockouts} {now : Nat}
    {tempToken : TempToken} {code : String} {user : Fleet.User} :
    s.twoFactorCheck lib lockouts now tempToken code = .ok user ↔
      tempToken.check now = .ok () ∧
        ∃ totpSecret, s.twoFactorUser lib lockouts now tempToken code = .ok (user, totpSecret) := by
  unfold twoFactorCheck twoFactorUser TempToken.check
  simp only [bind_eq_ok, require_eq_ok, exists_const]
  cases s.findAccount tempToken.sub with
  | none => simp
  | some account =>
    dsimp only
    cases truthy (s.credentials account.id).totpSecret with
    | none => simp
    | some secret => simp [bind_eq_ok, require_eq_ok, and_assoc]

end Store

/-! ## The calls together -/

/-- A code that passed, with the temporary token it came with and the secret it passed for. -/
structure CodeCheck where
  tempToken : TempToken
  code : String
  totpSecret : String
  checkedAt : Nat
  deriving DecidableEq, Repr

/-- How a session came about. -/
inductive Via where
  | password
  | twoFactor (check : CodeCheck)
  | google
  | exchange
  deriving DecidableEq, Repr

/-- The temporary token that was used up. -/
def Via.tempToken : Via → Option TempToken
  | .twoFactor check => some check.tempToken
  | .password | .google | .exchange => none

/-- Where a call stands. -/
inductive SessionTask where
  /-- A refresh; or the last steps of a call that opened a session. -/
  | refresh (task : RefreshTask)
  /-- `verify2faToken` past the check of the temporary token. -/
  | verified (tempToken : TempToken) (code : String)
  /-- Its code passed; `SET NX` comes next. -/
  | consuming (user : Fleet.User) (check : CodeCheck)
  /-- `validateGoogleUser` found no account of the Google id. -/
  | byEmail (profile : GoogleProfile)
  | linking (user : Fleet.User) (googleId : String)
  | inviting (profile : GoogleProfile)
  | creating (profile : GoogleProfile) (pendingInvitation : Option Fleet.Invitation)
  /-- `generateTokens` without a session: it reads the names first. -/
  | generating (user : Fleet.User) (via : Via)
  /-- The row of the session comes next, with the names if they were read. -/
  | opening (user : Fleet.User) (via : Via) (names : Option Fleet.User)
  | requiresTwoFactor (tempToken : TempToken)
  | refused (e : LoginError)
  deriving DecidableEq, Repr

/-- The user a call lets in, and how. -/
def SessionTask.lets : SessionTask → Option (Fleet.User × Via)
  | .consuming user check => some (user, .twoFactor check)
  | .linking user _ => some (user, .google)
  | .generating user via => some (user, via)
  | .opening user via _ => some (user, via)
  | _ => none

/-- The temporary token that a call has used up and will open a session for. -/
def SessionTask.holds : SessionTask → Option TempToken
  | .generating _ via => via.tempToken
  | .opening _ via _ => via.tempToken
  | _ => none

/-- A temporary token that a login signed, with the password it compared. -/
structure RightLogin where
  userId : String
  password : String
  passwordHash : String
  tempToken : TempToken
  deriving DecidableEq, Repr

/-- A session that a call opened. -/
structure Opening where
  sessionId : String
  userId : String
  via : Via
  deriving DecidableEq, Repr

structure SessionState (Hash : Type) where
  /-- Milliseconds. -/
  clock : Nat
  store : Store Hash
  marks : UsedMarks
  tasks : List SessionTask
  /-- The temporary tokens that were signed: others do not verify. -/
  signed : List RightLogin
  /-- The ids of temporary tokens whose `SET NX` took the mark; no code reads it. -/
  used : List String
  /-- No code reads it. -/
  opened : List Opening

inductive SessionEvent (Hash : Type) where
  | login (lockouts : Lockouts) (email password jti : String)
  | verify2faToken (tempToken : TempToken) (code : String)
  | validateGoogleUser (profile : GoogleProfile)
  | createSessionForUser (userId : String)
  | refresh (token : Jwt)
  /-- The next step of a call, with the ids of new rows. -/
  | next (i : Nat) (call : GoogleCall) (lockouts : Lockouts)
  /-- Others write the tables. -/
  | written (store : Store Hash)
  | later (ms : Nat)

namespace SessionState

variable (lib : Libraries) (H : TokenHash Hash) (cfg : AuthConfig) (s : SessionState Hash)

def start (clock : Nat) (store : Store Hash) (marks : UsedMarks) : SessionState Hash :=
  ⟨clock, store, marks, [], [], [], []⟩

/-- A call starts. -/
def add (task : SessionTask) : SessionState Hash := { s with tasks := s.tasks ++ [task] }

/-- `userSession.create`. -/
def openSession (user : Fleet.User) (via : Via) (sessionId : String) : SessionState Hash :=
  { s with
    store := s.store.withSessions (s.store.db.setSession sessionId
      (some ⟨sessionId, user.id, none, none, s.clock + cfg.refreshExpirationSeconds * 1000⟩)
      (by rintro _ ⟨rfl⟩; rfl))
    opened := ⟨sessionId, user.id, via⟩ :: s.opened }

/-- `SET NX` of the mark of a temporary token. -/
def consumeMark (user : Fleet.User) (check : CodeCheck) : SessionTask × SessionState Hash :=
  let result := consume (some s.marks) s.clock check.tempToken.jti
  if result.1 then
    (.opening user (.twoFactor check) none,
      { s with
        marks := result.2.getD s.marks
        used := check.tempToken.jti.toList ++ s.used })
  else (.refused .stepCompleted, { s with marks := result.2.getD s.marks })

/-- The next step of a call; one that ended takes none. -/
def advance (call : GoogleCall) (lockouts : Lockouts) :
    SessionTask → Option (SessionTask × SessionState Hash)
  | .refresh task =>
    let result := task.advance cfg H s.clock s.store.db
    some (.refresh result.1, { s with store := s.store.withSessions result.2 })
  | .verified tempToken code =>
    match s.store.twoFactorUser lib lockouts s.clock tempToken code with
    | .error e => some (.refused e, s)
    | .ok (user, totpSecret) => some (.consuming user ⟨tempToken, code, totpSecret, s.clock⟩, s)
  | .consuming user check => some (s.consumeMark user check)
  | .byEmail profile =>
    match s.store.findByEmail (Fleet.normalizeEmail profile.email) with
    | none => some (.inviting profile, s)
    | some user =>
      match s.store.googleCheck user with
      | .error e => some (.refused e, s)
      | .ok user => some (.linking user profile.googleId, s)
  | .linking user googleId =>
    if s.store.googleIdTaken user.id googleId then
      some (.refused (.prisma (.unique ["google_id"])), s)
    else some (.generating user .google, { s with store := s.store.linkGoogle user.id googleId })
  | .inviting profile =>
    some (.creating profile
      (s.store.findPendingInvitation s.clock (Fleet.normalizeEmail profile.email)), s)
  | .creating profile pendingInvitation =>
    if s.store.googleIdTaken call.userId profile.googleId then
      some (.refused (.prisma (.unique ["google_id"])), s)
    else
      match s.store.createGoogleUser { call with now := s.clock } profile
          (Fleet.normalizeEmail profile.email) pendingInvitation with
      | .error e => some (.refused e, s)
      | .ok (user, store) => some (.generating user .google, { s with store := store })
  | .generating user via =>
    match s.store.findAccount user.id with
    | none => some (.refused (.auth .userNotFound), s)
    | some userRecord => some (.opening user via (some userRecord), s)
  | .opening user via names =>
    if (s.store.sessions call.sessionId).isSome then none
    else
      some (.refresh (names.elim (.validated call.sessionId (userOf user)) fun userRecord =>
          .sign cfg s.clock call.sessionId (userOf user) (userOf userRecord)),
        s.openSession cfg user via call.sessionId)
  | task => some (task, s)

/-- The first step of `login`: a right password with a second factor gives a temporary token. -/
def login (lockouts : Lockouts) (email password jti : String) : SessionState Hash :=
  match s.store.loginCheck lib lockouts email password with
  | .error e => s.add (.refused e)
  | .ok user =>
    if (s.store.credentials user.id).totpEnabled then
      { s.add (.requiresTwoFactor (tempTokenFor user.id jti s.clock)) with
        signed :=
          ⟨user.id, password,
            (truthy (some (s.store.credentials user.id).passwordHash)).getD lib.dummyHash,
            tempTokenFor user.id jti s.clock⟩ :: s.signed }
    else s.add (.opening user .password none)

/-- The first step of `verify2faToken`. -/
def verify2faToken (tempToken : TempToken) (code : String) : SessionTask :=
  if tempToken ∈ s.signed.map (·.tempToken) then
    match tempToken.check s.clock with
    | .error e => .refused e
    | .ok _ => .verified tempToken code
  else .refused .invalidTempToken

/-- The first step of `validateGoogleUser`. -/
def validateGoogleUser (profile : GoogleProfile) : SessionTask :=
  match s.store.findByGoogleId profile.googleId with
  | none => .byEmail profile
  | some user =>
    match s.store.googleCheck user with
    | .error e => .refused e
    | .ok user => .generating user .google

/-- The first step of `createSessionForUser`. -/
def createSessionForUser (userId : String) : SessionTask :=
  match s.store.createSessionCheck userId with
  | .error e => .refused e
  | .ok user => .generating user .exchange

def step : SessionEvent Hash → Option (SessionState Hash)
  | .login lockouts email password jti => some (s.login lib lockouts email password jti)
  | .verify2faToken tempToken code => some (s.add (s.verify2faToken tempToken code))
  | .validateGoogleUser profile => some (s.add (s.validateGoogleUser profile))
  | .createSessionForUser userId => some (s.add (s.createSessionForUser userId))
  | .refresh token => some (s.add (.refresh (.call s.clock token)))
  | .next i call lockouts =>
    match s.tasks[i]? with
    | none => none
    | some task =>
      (s.advance lib H cfg call lockouts task).map fun (task', t) =>
        { t with tasks := t.tasks.set i task' }
  | .written store => some { s with store := store }
  | .later ms => some { s with clock := s.clock + ms }

/-- The second factor of a user is on. -/
def TotpOn (userId : String) (s : SessionState Hash) (_ : SessionEvent Hash) : Prop :=
  (s.store.credentials userId).totpEnabled = true

instance (userId : String) (s : SessionState Hash) (e : SessionEvent Hash) :
    Decidable (TotpOn userId s e) :=
  inferInstanceAs (Decidable (_ = true))

/-- A session of a user came from a code valid for the stored secret and a temporary token of a
login with the right password. -/
def FromTwoFactor (o : Opening) : Prop :=
  ∃ check, o.via = .twoFactor check ∧
    lib.totpVerify check.totpSecret check.code check.checkedAt = true ∧
    ∃ r ∈ s.signed, r.tempToken = check.tempToken ∧ r.userId = o.userId ∧
      lib.compare r.password r.passwordHash = true

/-- Each temporary token has yielded one session at most. -/
def SingleUse : Prop :=
  ∀ tempToken, s.opened.countP (fun o => o.via.tempToken == some tempToken) ≤ 1

/-- A call that comes to its `SET NX` with a token used before finds the mark there. -/
def marksInTime : SessionTask → Bool
  | .consuming _ check => check.tempToken.jti.all fun jti =>
    !s.used.contains jti || (Lease.alive s.clock (s.marks jti)).isSome
  | _ => true

def MarksInTime (s : SessionState Hash) : SessionEvent Hash → Prop
  | .next i _ _ => (s.tasks[i]?).all s.marksInTime = true
  | _ => True

instance (s : SessionState Hash) : DecidablePred s.MarksInTime
  | .next .. => inferInstanceAs (Decidable (_ = true))
  | .login .. | .verify2faToken .. | .validateGoogleUser _ | .createSessionForUser _ | .refresh _
  | .written _ | .later _ => .isTrue trivial

/-! ## What a step of a call does -/

variable {lib H cfg s} {t : SessionState Hash} {task task' : SessionTask}

/-- Everything a step of a call can do. -/
inductive Moved (lib : Libraries) (s t : SessionState Hash) : SessionTask → SessionTask → Prop
  /-- It lets nobody else in and opens nothing. -/
  | onward {task task' : SessionTask} (lets : task'.lets = none ∨ task'.lets = task.lets)
      (holds : task'.holds = none ∨ task'.holds = task.holds)
      (verified : ∀ tempToken code, task' ≠ .verified tempToken code)
      (opened : t.opened = s.opened) (used : t.used = s.used) : Moved lib s t task task'
  /-- A code passed. -/
  | checked {tempToken : TempToken} {code totpSecret : String} {user : Fleet.User}
      (sub : user.id = tempToken.sub) (right : lib.totpVerify totpSecret code s.clock = true)
      (opened : t.opened = s.opened) (used : t.used = s.used) :
      Moved lib s t (.verified tempToken code) (.consuming user ⟨tempToken, code, totpSecret, s.clock⟩)
  /-- A mark was not there and is now. -/
  | consumed {user : Fleet.User} {check : CodeCheck}
      (free : ∀ jti, check.tempToken.jti = some jti → Lease.alive s.clock (s.marks jti) = none)
      (opened : t.opened = s.opened) (used : t.used = check.tempToken.jti.toList ++ s.used) :
      Moved lib s t (.consuming user check) (.opening user (.twoFactor check) none)
  /-- An account without a second factor comes in through Google. -/
  | google {task task' : SessionTask} {user : Fleet.User} (lets : task'.lets = some (user, .google))
      (holds : task'.holds = none) (totp : (t.store.credentials user.id).totpEnabled = false)
      (opened : t.opened = s.opened) (used : t.used = s.used) : Moved lib s t task task'
  /-- A session is opened. -/
  | opening {user : Fleet.User} {via : Via} {names : Option Fleet.User} {sessionId : String}
      {task : RefreshTask} (opened : t.opened = ⟨sessionId, user.id, via⟩ :: s.opened)
      (used : t.used = s.used) : Moved lib s t (.opening user via names) (.refresh task)

theorem Moved.refused (task : SessionTask) (e : LoginError) : Moved lib s s task (.refused e) :=
  .onward (Or.inl rfl) (Or.inl rfl) (by rintro _ _ ⟨⟩) rfl rfl

theorem twoFactorUser_spec {store : Store Hash} {lockouts : Lockouts} {now : Nat}
    {tempToken : TempToken} {code totpSecret : String} {user : Fleet.User}
    (h : store.twoFactorUser lib lockouts now tempToken code = .ok (user, totpSecret)) :
    user.id = tempToken.sub ∧ lib.totpVerify totpSecret code now = true := by
  unfold Store.twoFactorUser at h
  split at h
  · cases h
  · rename_i account hfound
    split at h
    · cases h
    · simp only [bind_eq_ok, require_eq_ok] at h
      obtain ⟨_, -, _, -, _, hright, heq⟩ := h
      cases heq
      exact ⟨(Store.mem_of_findAccount hfound).2, hright⟩

theorem googleCheck_spec {store : Store Hash} {user user' : Fleet.User}
    (h : store.googleCheck user = .ok user') :
    user' = user ∧ (store.credentials user.id).totpEnabled = false := by
  simp only [Store.googleCheck, bind_eq_ok, require_eq_ok] at h
  obtain ⟨_, -, _, htotp, heq⟩ := h
  cases heq
  exact ⟨rfl, Bool.not_eq_true' _ ▸ htotp⟩

theorem createGoogleUser_spec {store store' : Store Hash} {call : GoogleCall}
    {profile : GoogleProfile} {email : String} {pendingInvitation : Option Fleet.Invitation}
    {user : Fleet.User}
    (h : store.createGoogleUser call profile email pendingInvitation = .ok (user, store')) :
    (store'.credentials user.id).totpEnabled = false := by
  unfold Store.createGoogleUser at h
  split at h
  · cases h
  · cases h
    show (Function.update store.credentials call.userId _ call.userId).totpEnabled = false
    rw [Function.update_self]

/-- The mark was free, and it is set. -/
theorem consumeMark_cases (user : Fleet.User) (check : CodeCheck) :
    Moved lib s (s.consumeMark user check).2 (.consuming user check) (s.consumeMark user check).1 := by
  rw [consumeMark]
  split
  · rename_i hfresh
    refine .consumed ?_ rfl rfl
    intro jti hjti
    simp only [hjti, consume] at hfresh
    by_contra hnot
    obtain ⟨l, hl⟩ := Option.ne_none_iff_exists'.mp hnot
    rw [Lease.setNx_of_alive hl] at hfresh
    cases hfresh
  · exact .onward (Or.inl rfl) (Or.inl rfl) (by rintro _ _ ⟨⟩) rfl rfl

theorem advance_cases {call : GoogleCall} {lockouts : Lockouts}
    (h : s.advance lib H cfg call lockouts task = some (task', t)) :
    t.signed = s.signed ∧ t.tasks = s.tasks ∧ Moved lib s t task task' := by
  cases task with
  | refresh task =>
    cases h
    exact ⟨rfl, rfl, .onward (Or.inl rfl) (Or.inl rfl) (by rintro _ _ ⟨⟩) rfl rfl⟩
  | verified tempToken code =>
    rw [advance] at h
    split at h
    · cases h
      exact ⟨rfl, rfl, .refused _ _⟩
    · rename_i user totpSecret huser
      cases h
      obtain ⟨hsub, hright⟩ := twoFactorUser_spec huser
      exact ⟨rfl, rfl, .checked hsub hright rfl rfl⟩
  | consuming user check =>
    have hresult := Option.some.inj h
    have hmoved : Moved lib s (s.consumeMark user check).2 _ _ := consumeMark_cases user check
    rw [hresult] at hmoved
    have hsigned : (s.consumeMark user check).2.signed = s.signed ∧
        (s.consumeMark user check).2.tasks = s.tasks := by
      rw [consumeMark]
      split <;> exact ⟨rfl, rfl⟩
    rw [hresult] at hsigned
    exact ⟨hsigned.1, hsigned.2, hmoved⟩
  | byEmail profile =>
    rw [advance] at h
    split at h
    · cases h
      exact ⟨rfl, rfl, .onward (Or.inl rfl) (Or.inl rfl) (by rintro _ _ ⟨⟩) rfl rfl⟩
    · split at h
      · cases h
        exact ⟨rfl, rfl, .refused _ _⟩
      · rename_i user hcheck
        cases h
        obtain ⟨rfl, htotp⟩ := googleCheck_spec hcheck
        exact ⟨rfl, rfl, .google rfl rfl htotp rfl rfl⟩
  | linking user googleId =>
    rw [advance] at h
    split at h
    · cases h
      exact ⟨rfl, rfl, .refused _ _⟩
    · cases h
      exact ⟨rfl, rfl, .onward (Or.inr rfl) (Or.inr rfl) (by rintro _ _ ⟨⟩) rfl rfl⟩
  | inviting profile =>
    cases h
    exact ⟨rfl, rfl, .onward (Or.inl rfl) (Or.inl rfl) (by rintro _ _ ⟨⟩) rfl rfl⟩
  | creating profile pendingInvitation =>
    rw [advance] at h
    split at h
    · cases h
      exact ⟨rfl, rfl, .refused _ _⟩
    · split at h
      · cases h
        exact ⟨rfl, rfl, .refused _ _⟩
      · rename_i user store hcreate
        cases h
        exact ⟨rfl, rfl, .google rfl rfl (createGoogleUser_spec hcreate) rfl rfl⟩
  | generating user via =>
    rw [advance] at h
    split at h
    · cases h
      exact ⟨rfl, rfl, .refused _ _⟩
    · cases h
      exact ⟨rfl, rfl, .onward (Or.inr rfl) (Or.inr rfl) (by rintro _ _ ⟨⟩) rfl rfl⟩
  | opening user via names =>
    rw [advance] at h
    split at h
    · cases h
    · cases h
      exact ⟨rfl, rfl, .opening rfl rfl⟩
  | requiresTwoFactor tempToken =>
    cases h
    exact ⟨rfl, rfl, .onward (Or.inl rfl) (Or.inl rfl) (by rintro _ _ ⟨⟩) rfl rfl⟩
  | refused e =>
    cases h
    exact ⟨rfl, rfl, .onward (Or.inl rfl) (Or.inl rfl) (by rintro _ _ ⟨⟩) rfl rfl⟩

/-! ## Codes and temporary tokens are right -/

/-- A code passed, and its temporary token is of a right password of the user. -/
def Right (lib : Libraries) (s : SessionState Hash) (userId : String) (check : CodeCheck) : Prop :=
  lib.totpVerify check.totpSecret check.code check.checkedAt = true ∧
    ∃ r ∈ s.signed, r.tempToken = check.tempToken ∧ r.userId = userId ∧
      lib.compare r.password r.passwordHash = true

structure Sound (lib : Libraries) (s : SessionState Hash) : Prop where
  signed : ∀ r ∈ s.signed, lib.compare r.password r.passwordHash = true ∧
    r.tempToken.sub = r.userId ∧ r.tempToken.jti.isSome = true
  verified : ∀ tempToken code, .verified tempToken code ∈ s.tasks →
    ∃ r ∈ s.signed, r.tempToken = tempToken
  lets : ∀ task ∈ s.tasks, ∀ user check, task.lets = some (user, .twoFactor check) →
    s.Right lib user.id check
  opened : ∀ o ∈ s.opened, ∀ check, o.via = .twoFactor check → s.Right lib o.userId check

theorem Right.mono {userId : String} {check : CodeCheck} (h : s.Right lib userId check)
    (hsigned : ∀ r ∈ s.signed, r ∈ t.signed) : t.Right lib userId check := by
  obtain ⟨hright, r, hr, hrest⟩ := h
  exact ⟨hright, r, hsigned r hr, hrest⟩

/-- A call that starts lets nobody in by a code, and what it has verified was signed. -/
theorem sound_add (hs : s.Sound lib)
    (hlets : ∀ user check, task.lets ≠ some (user, .twoFactor check))
    (hverified : ∀ tempToken code, task = .verified tempToken code →
      ∃ r ∈ s.signed, r.tempToken = tempToken) : (s.add task).Sound lib := by
  refine ⟨hs.signed, fun tempToken code htask => ?_, forall_mem_concat hs.lets ?_, hs.opened⟩
  · rcases List.mem_append.mp htask with htask | htask
    · exact hs.verified tempToken code htask
    · exact hverified tempToken code (List.mem_singleton.mp htask).symm
  · intro user check hnew
    exact absurd hnew (hlets user check)

theorem loginCheck_spec {store : Store Hash} {lockouts : Lockouts} {email password : String}
    {user : Fleet.User} (h : store.loginCheck lib lockouts email password = .ok user) :
    lib.compare password
      ((truthy (some (store.credentials user.id).passwordHash)).getD lib.dummyHash) = true := by
  simp only [Store.loginCheck, bind_eq_ok] at h
  obtain ⟨_, -, h⟩ := h
  split at h
  · cases h
  · simp only [bind_eq_ok, require_eq_ok, Bool.and_eq_true] at h
    obtain ⟨_, ⟨-, hright⟩, heq⟩ := h
    cases heq
    exact hright

theorem sound_login {lockouts : Lockouts} {email password jti : String} (hs : s.Sound lib) :
    (s.login lib lockouts email password jti).Sound lib := by
  rw [login]
  split
  · exact sound_add hs (by rintro _ _ ⟨⟩) (by rintro _ _ ⟨⟩)
  · rename_i user hcheck
    split
    · have hadd : (s.add (.requiresTwoFactor (tempTokenFor user.id jti s.clock))).Sound lib :=
        sound_add hs (by rintro _ _ ⟨⟩) (by rintro _ _ ⟨⟩)
      refine ⟨fun r hr => ?_, fun tempToken code htask => ?_, fun task htask user' check hlets => ?_,
        fun o ho check hvia => ?_⟩
      · rcases List.mem_cons.mp hr with rfl | hr
        · exact ⟨loginCheck_spec hcheck, rfl, rfl⟩
        · exact hs.signed r hr
      · obtain ⟨r, hr, heq⟩ := hadd.verified tempToken code htask
        exact ⟨r, List.mem_cons_of_mem _ hr, heq⟩
      · exact (hadd.lets task htask user' check hlets).mono fun r => List.mem_cons_of_mem _
      · exact (hadd.opened o ho check hvia).mono fun r => List.mem_cons_of_mem _
    · exact sound_add hs (by rintro _ _ ⟨⟩) (by rintro _ _ ⟨⟩)

/-- The task that goes on is one of those there were. -/
theorem step_next {i : Nat} {call : GoogleCall} {lockouts : Lockouts}
    (hstep : s.step lib H cfg (.next i call lockouts) = some t) :
    ∃ task task' u, s.tasks[i]? = some task ∧ u.signed = s.signed ∧ u.tasks = s.tasks ∧
      Moved lib s u task task' ∧ t = { u with tasks := u.tasks.set i task' } := by
  simp only [step] at hstep
  split at hstep
  · cases hstep
  · rename_i task hi
    obtain ⟨⟨task', u⟩, hadvance, rfl⟩ := Option.map_eq_some_iff.mp hstep
    obtain ⟨hsigned, htasks, hmoved⟩ := advance_cases hadvance
    exact ⟨task, task', u, hi, hsigned, htasks, hmoved, rfl⟩

theorem sound_moved {i : Nat} (hs : s.Sound lib) (hi : s.tasks[i]? = some task)
    (hsigned : t.signed = s.signed) (htasks : t.tasks = s.tasks) (h : Moved lib s t task task') :
    ({ t with tasks := t.tasks.set i task' } : SessionState Hash).Sound lib := by
  have hmem := List.mem_of_getElem? hi
  have hright : ∀ {userId check}, s.Right lib userId check →
      ({ t with tasks := t.tasks.set i task' } : SessionState Hash).Right lib userId check :=
    fun h => h.mono fun r hr => hsigned ▸ hr
  refine ⟨fun r hr => hs.signed r (hsigned ▸ hr), fun tempToken code htask => ?_,
    fun task₁ htask user check hlets => ?_, fun o ho check hvia => ?_⟩
  · rw [htasks] at htask
    show ∃ r ∈ t.signed, _
    rw [hsigned]
    rcases List.mem_or_eq_of_mem_set htask with htask | hnew
    · exact hs.verified tempToken code htask
    · cases h with
      | onward _ _ hnot => exact absurd hnew.symm (hnot tempToken code)
      | checked => cases hnew
      | consumed => cases hnew
      | google hlets => rw [← hnew] at hlets; cases hlets
      | opening => cases hnew
  · rw [htasks] at htask
    refine hright ?_
    rcases List.mem_or_eq_of_mem_set htask with htask | rfl
    · exact hs.lets task₁ htask user check hlets
    · cases h with
      | onward hkeep =>
        rcases hkeep with hnone | hsame
        · rw [hnone] at hlets
          cases hlets
        · exact hs.lets task hmem user check (hsame ▸ hlets)
      | checked hsub hpass =>
        cases hlets
        obtain ⟨r, hr, heq⟩ := hs.verified _ _ hmem
        obtain ⟨hcompare, hrsub, -⟩ := hs.signed r hr
        exact ⟨hpass, r, hr, heq, by rw [hsub, ← hrsub, heq], hcompare⟩
      | consumed =>
        cases hlets
        exact hs.lets _ hmem _ _ rfl
      | google hgoogle => rw [hgoogle] at hlets; cases hlets
      | opening => cases hlets
  · refine hright ?_
    have hold : o ∈ s.opened → s.Right lib o.userId check := fun ho => hs.opened o ho check hvia
    cases h with
    | onward _ _ _ hopened => exact hold (hopened ▸ ho)
    | checked _ _ hopened => exact hold (hopened ▸ ho)
    | consumed _ hopened => exact hold (hopened ▸ ho)
    | google _ _ _ hopened => exact hold (hopened ▸ ho)
    | opening hopened =>
      have ho' : o ∈ t.opened := ho
      rw [hopened] at ho'
      rcases List.mem_cons.mp ho' with rfl | ho'
      · exact hs.lets _ hmem _ check (by rw [← hvia]; rfl)
      · exact hold ho'

/-- What the first steps of the other calls let in. -/
theorem lets_verify2faToken {tempToken : TempToken} {code : String} :
    (s.verify2faToken tempToken code).lets = none ∧
      ∀ tempToken' code', s.verify2faToken tempToken code = .verified tempToken' code' →
        ∃ r ∈ s.signed, r.tempToken = tempToken' := by
  rw [verify2faToken]
  split
  · rename_i hmem
    split
    · exact ⟨rfl, by rintro _ _ ⟨⟩⟩
    · refine ⟨rfl, ?_⟩
      rintro _ _ ⟨⟩
      exact List.mem_map.mp hmem
  · exact ⟨rfl, by rintro _ _ ⟨⟩⟩

theorem lets_validateGoogleUser {profile : GoogleProfile} :
    (∀ user via, (s.validateGoogleUser profile).lets = some (user, via) →
      via = .google ∧ (s.store.credentials user.id).totpEnabled = false) ∧
    ∀ tempToken code, s.validateGoogleUser profile ≠ .verified tempToken code := by
  rw [validateGoogleUser]
  split
  · exact ⟨by rintro _ _ ⟨⟩, by rintro _ _ ⟨⟩⟩
  · split
    · exact ⟨by rintro _ _ ⟨⟩, by rintro _ _ ⟨⟩⟩
    · rename_i user hcheck
      obtain ⟨rfl, htotp⟩ := googleCheck_spec hcheck
      exact ⟨by rintro _ _ ⟨⟩; exact ⟨rfl, htotp⟩, by rintro _ _ ⟨⟩⟩

theorem createSessionCheck_spec {store : Store Hash} {userId : String} {user : Fleet.User}
    (h : store.createSessionCheck userId = .ok user) :
    (store.credentials user.id).totpEnabled = false := by
  unfold Store.createSessionCheck at h
  split at h
  · cases h
  · simp only [bind_eq_ok, require_eq_ok] at h
    obtain ⟨_, -, _, htotp, heq⟩ := h
    cases heq
    exact Bool.not_eq_true' _ ▸ htotp

theorem lets_createSessionForUser {userId : String} :
    (∀ user via, (s.createSessionForUser userId).lets = some (user, via) →
      via = .exchange ∧ (s.store.credentials user.id).totpEnabled = false) ∧
    ∀ tempToken code, s.createSessionForUser userId ≠ .verified tempToken code := by
  rw [createSessionForUser]
  split
  · exact ⟨by rintro _ _ ⟨⟩, by rintro _ _ ⟨⟩⟩
  · rename_i user hcheck
    exact ⟨by rintro _ _ ⟨⟩; exact ⟨rfl, createSessionCheck_spec hcheck⟩, by rintro _ _ ⟨⟩⟩

variable {e : SessionEvent Hash}

theorem sound_step (hs : s.Sound lib) (hstep : s.step lib H cfg e = some t) : t.Sound lib := by
  cases e with
  | login lockouts email password jti =>
    cases hstep
    exact sound_login hs
  | verify2faToken tempToken code =>
    cases hstep
    obtain ⟨hlets, hverified⟩ := lets_verify2faToken (s := s)
    refine sound_add hs (fun user check h => ?_) hverified
    rw [hlets] at h
    cases h
  | validateGoogleUser profile =>
    cases hstep
    obtain ⟨hlets, hnot⟩ := lets_validateGoogleUser (s := s)
    refine sound_add hs (fun user check h => ?_) fun tempToken code h => absurd h (hnot _ _)
    cases (hlets _ _ h).1
  | createSessionForUser userId =>
    cases hstep
    obtain ⟨hlets, hnot⟩ := lets_createSessionForUser (s := s)
    refine sound_add hs (fun user check h => ?_) fun tempToken code h => absurd h (hnot _ _)
    cases (hlets _ _ h).1
  | refresh token =>
    cases hstep
    exact sound_add hs (by rintro _ _ ⟨⟩) (by rintro _ _ ⟨⟩)
  | next i call lockouts =>
    obtain ⟨task, task', u, hi, hsigned, htasks, hmoved, rfl⟩ := step_next hstep
    exact sound_moved hs hi hsigned htasks hmoved
  | written store =>
    cases hstep
    exact ⟨hs.signed, hs.verified, hs.lets, hs.opened⟩
  | later ms =>
    cases hstep
    exact ⟨hs.signed, hs.verified, hs.lets, hs.opened⟩

/-! ## A user with the second factor on -/

/-- Who is let in or has a session came by a code. -/
structure ByCode (userId : String) (s : SessionState Hash) : Prop where
  lets : (s.store.credentials userId).totpEnabled = true → ∀ task ∈ s.tasks, ∀ user via,
    task.lets = some (user, via) → user.id = userId → ∃ check, via = .twoFactor check
  opened : ∀ o ∈ s.opened, o.userId = userId → ∃ check, o.via = .twoFactor check

variable {userId : String}

/-- A call that starts lets in only who has no second factor. -/
theorem byCode_add (hs : s.ByCode userId) (hlets : ∀ user via, task.lets = some (user, via) →
      (s.store.credentials user.id).totpEnabled = false) : (s.add task).ByCode userId := by
  refine ⟨fun htotp task' htask user via hvia huser => ?_, hs.opened⟩
  rcases List.mem_append.mp htask with htask | htask
  · exact hs.lets htotp task' htask user via hvia huser
  · rw [List.mem_singleton.mp htask] at hvia
    have hoff : (s.store.credentials userId).totpEnabled = false := huser ▸ hlets user via hvia
    exact absurd (hoff.symm.trans htotp) Bool.false_ne_true

theorem byCode_moved {i : Nat} (hs : s.ByCode userId)
    (hon : (s.store.credentials userId).totpEnabled = true) (hi : s.tasks[i]? = some task)
    (htasks : t.tasks = s.tasks) (h : Moved lib s t task task') :
    ({ t with tasks := t.tasks.set i task' } : SessionState Hash).ByCode userId := by
  have hold := hs.lets hon
  have hmem := List.mem_of_getElem? hi
  refine ⟨fun htotp task₁ htask user via hvia huser => ?_, fun o ho huser => ?_⟩
  · rw [htasks] at htask
    rcases List.mem_or_eq_of_mem_set htask with htask | rfl
    · exact hold task₁ htask user via hvia huser
    · cases h with
      | onward hkeep =>
        rcases hkeep with hnone | hsame
        · rw [hnone] at hvia
          cases hvia
        · exact hold task hmem user via (hsame ▸ hvia) huser
      | checked =>
        cases hvia
        exact ⟨_, rfl⟩
      | consumed =>
        cases hvia
        exact ⟨_, rfl⟩
      | google hgoogle _ hoff =>
        cases hgoogle.symm.trans hvia
        rw [huser] at hoff
        exact absurd (hoff.symm.trans htotp) Bool.false_ne_true
      | opening => cases hvia
  · have ho' : o ∈ t.opened := ho
    cases h with
    | onward _ _ _ hopened => exact hs.opened o (hopened ▸ ho') huser
    | checked _ _ hopened => exact hs.opened o (hopened ▸ ho') huser
    | consumed _ hopened => exact hs.opened o (hopened ▸ ho') huser
    | google _ _ _ hopened => exact hs.opened o (hopened ▸ ho') huser
    | opening hopened =>
      rw [hopened] at ho'
      rcases List.mem_cons.mp ho' with rfl | ho'
      · exact hold _ hmem _ _ rfl huser
      · exact hs.opened o ho' huser

theorem byCode_step (hs : s.ByCode userId) (hon : s.TotpOn userId e)
    (hstep : s.step lib H cfg e = some t) : t.ByCode userId := by
  cases e with
  | login lockouts email password jti =>
    cases hstep
    rw [login]
    split
    · exact byCode_add hs (by rintro _ _ ⟨⟩)
    · split
      · rename_i user _ _
        have hadd : (s.add (.requiresTwoFactor (tempTokenFor user.id jti s.clock))).ByCode userId :=
          byCode_add hs (by rintro _ _ ⟨⟩)
        exact ⟨hadd.lets, hadd.opened⟩
      · rename_i user _ hoff
        exact byCode_add hs (by rintro _ _ ⟨⟩; exact Bool.eq_false_iff.mpr hoff)
  | verify2faToken tempToken code =>
    cases hstep
    refine byCode_add hs fun user via h => ?_
    rw [(lets_verify2faToken (s := s)).1] at h
    cases h
  | validateGoogleUser profile =>
    cases hstep
    exact byCode_add hs fun user via h => ((lets_validateGoogleUser (s := s)).1 user via h).2
  | createSessionForUser id =>
    cases hstep
    exact byCode_add hs fun user via h => ((lets_createSessionForUser (s := s)).1 user via h).2
  | refresh token =>
    cases hstep
    exact byCode_add hs (by rintro _ _ ⟨⟩)
  | next i call lockouts =>
    obtain ⟨task, task', u, hi, -, htasks, hmoved, rfl⟩ := step_next hstep
    exact byCode_moved hs hon hi htasks hmoved
  | written store =>
    cases hstep
    exact ⟨fun _ => hs.lets hon, hs.opened⟩
  | later ms =>
    cases hstep
    exact ⟨hs.lets, hs.opened⟩

/-! ## A temporary token and its mark -/

/-- A temporary token has an id. -/
def hasJti (jti : String) (tempToken : Option TempToken) : Bool := tempToken.any (·.jti == some jti)

/-- Each mark was taken once, and is behind one session, or one call that will open it. -/
structure Counted (s : SessionState Hash) : Prop where
  nodup : s.used.Nodup
  count : ∀ jti, s.opened.countP (fun o => hasJti jti o.via.tempToken) +
    s.tasks.countP (fun task => hasJti jti task.holds) ≤ s.used.count jti

theorem counted_add (hs : s.Counted) (hholds : task.holds = none) : (s.add task).Counted := by
  refine ⟨hs.nodup, fun jti => ?_⟩
  have hzero : [task].countP (fun task => hasJti jti task.holds) = 0 := by
    rw [List.countP_singleton, hholds]
    rfl
  show _ + (s.tasks ++ [task]).countP _ ≤ _
  rw [List.countP_append, hzero]
  exact hs.count jti

/-- A token that is used up in time had not been. -/
theorem not_used {user : Fleet.User} {check : CodeCheck} {jti : String}
    (htime : s.marksInTime (.consuming user check) = true) (hjti : check.tempToken.jti = some jti)
    (hfree : Lease.alive s.clock (s.marks jti) = none) : jti ∉ s.used := by
  intro hused
  rw [marksInTime, hjti, Option.all_some, hfree, List.contains_iff_mem.mpr hused] at htime
  cases htime

theorem counted_moved {i : Nat} (hs : s.Counted) (hi : s.tasks[i]? = some task)
    (htime : s.marksInTime task = true) (htasks : t.tasks = s.tasks) (h : Moved lib s t task task') :
    ({ t with tasks := t.tasks.set i task' } : SessionState Hash).Counted := by
  have hmove : ∀ jti, (t.tasks.set i task').countP (fun task => hasJti jti task.holds) +
      (if hasJti jti task.holds then 1 else 0) =
      s.tasks.countP (fun task => hasJti jti task.holds) +
        (if hasJti jti task'.holds then 1 else 0) := by
    intro jti
    rw [htasks]
    exact countP_set_add _ (fun task => hasJti jti task.holds) hi
  -- what is kept: nothing is opened or used, and no other token is held
  have hkeep : t.opened = s.opened → t.used = s.used →
      (task'.holds = none ∨ task'.holds = task.holds) →
      ({ t with tasks := t.tasks.set i task' } : SessionState Hash).Counted := by
    intro hopened hused hholds
    refine ⟨?_, fun jti => ?_⟩
    · show t.used.Nodup
      exact hused ▸ hs.nodup
    · show t.opened.countP _ + (t.tasks.set i task').countP _ ≤ t.used.count jti
      rw [hopened, hused]
      have hcount := hs.count jti
      have hmove := hmove jti
      rcases hholds with hnone | hsame
      · have hzero : (if hasJti jti task'.holds then 1 else 0) = 0 := by rw [hnone]; rfl
        omega
      · rw [hsame] at hmove
        omega
  cases h with
  | onward _ hholds _ hopened hused => exact hkeep hopened hused hholds
  | checked _ _ hopened hused => exact hkeep hopened hused (Or.inl rfl)
  | google _ hholds _ hopened hused => exact hkeep hopened hused (Or.inl hholds)
  | @consumed user check hfree hopened hused =>
    refine ⟨?_, fun jti => ?_⟩
    · show t.used.Nodup
      rw [hused]
      cases hjti : check.tempToken.jti with
      | none => exact hs.nodup
      | some jti => exact List.nodup_cons.mpr ⟨not_used htime hjti (hfree jti hjti), hs.nodup⟩
    · show t.opened.countP _ + (t.tasks.set i _).countP _ ≤ t.used.count jti
      have hcount := hs.count jti
      have hmove : (t.tasks.set i (.opening user (.twoFactor check) none)).countP
          (fun task => hasJti jti task.holds) + 0 =
          s.tasks.countP (fun task => hasJti jti task.holds) +
            (if check.tempToken.jti == some jti then 1 else 0) := hmove jti
      have hlist : check.tempToken.jti.toList.count jti =
          if check.tempToken.jti == some jti then 1 else 0 := by
        cases check.tempToken.jti with
        | none => rfl
        | some k => simp [List.count_singleton]
      rw [hopened, hused, List.count_append, hlist]
      omega
  | @opening user via names sessionId task hopened hused =>
    refine ⟨?_, fun jti => ?_⟩
    · show t.used.Nodup
      exact hused ▸ hs.nodup
    · show t.opened.countP _ + (t.tasks.set i _).countP _ ≤ t.used.count jti
      have hcount := hs.count jti
      have hmove : (t.tasks.set i (.refresh task)).countP (fun task => hasJti jti task.holds) +
          (if hasJti jti via.tempToken then 1 else 0) =
          s.tasks.countP (fun task => hasJti jti task.holds) + 0 := hmove jti
      rw [hopened, hused, List.countP_cons]
      dsimp only
      omega

theorem counted_step (hs : s.Counted) (htime : s.MarksInTime e)
    (hstep : s.step lib H cfg e = some t) : t.Counted := by
  cases e with
  | login lockouts email password jti =>
    cases hstep
    rw [login]
    split
    · exact counted_add hs rfl
    · split
      · rename_i user _ _
        have hadd : (s.add (.requiresTwoFactor (tempTokenFor user.id jti s.clock))).Counted :=
          counted_add hs rfl
        exact ⟨hadd.nodup, hadd.count⟩
      · exact counted_add hs rfl
  | verify2faToken tempToken code =>
    cases hstep
    refine counted_add hs ?_
    rw [verify2faToken]
    split
    · split <;> rfl
    · rfl
  | validateGoogleUser profile =>
    cases hstep
    refine counted_add hs ?_
    rw [validateGoogleUser]
    split
    · rfl
    · split <;> rfl
  | createSessionForUser id =>
    cases hstep
    refine counted_add hs ?_
    rw [createSessionForUser]
    split <;> rfl
  | refresh token =>
    cases hstep
    exact counted_add hs rfl
  | next i call lockouts =>
    obtain ⟨task, task', u, hi, -, htasks, hmoved, rfl⟩ := step_next hstep
    have hall : (s.tasks[i]?).all s.marksInTime = true := htime
    rw [hi] at hall
    exact counted_moved hs hi hall htasks hmoved
  | written store =>
    cases hstep
    exact ⟨hs.nodup, hs.count⟩
  | later ms =>
    cases hstep
    exact ⟨hs.nodup, hs.count⟩

/-! ## Runs -/

theorem singleUse_of_counted (hs : s.Sound lib) (hcounted : s.Counted) : s.SingleUse := by
  intro tempToken
  by_contra hmany
  obtain ⟨o, ho, hvia⟩ := List.countP_pos_iff.mp (Nat.lt_trans Nat.zero_lt_one (Nat.not_le.mp hmany))
  have htoken : o.via.tempToken = some tempToken := beq_iff_eq.mp hvia
  -- the token was signed by a login, so it has an id
  obtain ⟨check, hcheck, rfl⟩ : ∃ check, o.via = .twoFactor check ∧ check.tempToken = tempToken := by
    cases hw : o.via with
    | twoFactor check =>
      rw [hw] at htoken
      exact ⟨check, rfl, Option.some.inj htoken⟩
    | password => rw [hw] at htoken; cases htoken
    | google => rw [hw] at htoken; cases htoken
    | exchange => rw [hw] at htoken; cases htoken
  obtain ⟨-, r, hr, hrtoken, -⟩ := hs.opened o ho check hcheck
  obtain ⟨jti, hjti⟩ := Option.isSome_iff_exists.mp (hs.signed r hr).2.2
  rw [hrtoken] at hjti
  have hle : s.opened.countP (fun o => o.via.tempToken == some check.tempToken) ≤
      s.opened.countP (fun o => hasJti jti o.via.tempToken) := by
    refine List.countP_mono_left fun o' _ ho' => ?_
    rw [beq_iff_eq.mp ho', hasJti, Option.any_some, hjti]
    exact beq_self_eq_true _
  have hcount := hcounted.count jti
  have hone := List.nodup_iff_count_le_one.mp hcounted.nodup jti
  omega

theorem sound_start (clock : Nat) (store : Store Hash) (marks : UsedMarks) :
    (start clock store marks).Sound lib :=
  ⟨fun _ h => absurd h List.not_mem_nil, fun _ _ h => absurd h List.not_mem_nil,
    fun _ h => absurd h List.not_mem_nil, fun _ h => absurd h List.not_mem_nil⟩

/-- **While the second factor of a user is on, each session opened for the user came from
`verify2faToken`, with a code valid for the secret and a temporary token of a login with the right
password; and in a run whose marks are in time each temporary token yields one session at most.** -/
theorem two_factor_required {clock : Nat} {store : Store Hash} {marks : UsedMarks}
    {es : List (SessionEvent Hash)}
    (hrun : Run (Guarded (Steps (step lib H cfg)) (TotpOn userId)) (start clock store marks) es t) :
    (∀ o ∈ t.opened, o.userId = userId → t.FromTwoFactor lib o) ∧
      (Run (Guarded (Steps (step lib H cfg)) MarksInTime) (start clock store marks) es t →
        t.SingleUse) := by
  have hsound : t.Sound lib := by
    refine hrun.of_guarded.invariant (I := Sound lib) ?_ (sound_start clock store marks)
    intro u e v hu hnext
    exact sound_step hu hnext
  refine ⟨fun o ho huser => ?_, fun htimed => ?_⟩
  · have hby : t.ByCode userId := by
      refine hrun.invariant (I := ByCode userId) ?_
        ⟨fun _ _ h => absurd h List.not_mem_nil, fun _ h => absurd h List.not_mem_nil⟩
      intro u e v hu hnext
      exact byCode_step hu hnext.2 hnext.1
    obtain ⟨check, hcheck⟩ := hby.opened o ho huser
    obtain ⟨hright, hlogin⟩ := hsound.opened o ho check hcheck
    exact ⟨check, hcheck, hright, hlogin⟩
  · have hcounted : t.Counted := by
      refine htimed.invariant (I := Counted) ?_ ⟨List.nodup_nil, fun _ => Nat.zero_le _⟩
      intro u e v hu hnext
      exact counted_step hu hnext.2 hnext.1
    exact singleUse_of_counted hsound hcounted

end SessionState

/-! ### A call that waits until the mark is gone -/

def withTotp : Store Jwt :=
  oneAccount Jwt plainAccount
    { plainCredentials with
      passwordHash := "hash of password", totpSecret := some "secret", totpEnabled := true }

def beforeLogin : SessionState Jwt := .start 0 withTotp fun _ => none

def tempToken1 : TempToken := tempTokenFor "user-1" "jti-1" 0

/-- The next step of a call, which may open a session. -/
def advanceFor (i : Nat) (sessionId : String) : SessionEvent Jwt :=
  .next i ⟨0, "", "", sessionId, ""⟩ ⟨fun _ => false, fun _ => false⟩

/-- A login, and a code for its temporary token. -/
def oneCode : List (SessionEvent Jwt) :=
  [.login ⟨fun _ => false, fun _ => false⟩ "hery@example.mg" "password" "jti-1",
    .verify2faToken tempToken1 "code of secret", advanceFor 1 "", advanceFor 1 "",
    advanceFor 1 "session-1", advanceFor 1 "", advanceFor 1 ""]

theorem oneCode_single : ∃ s : SessionState Jwt,
    Run (Steps (SessionState.step spelledLibraries identityHash sampleConfig)) beforeLogin oneCode s ∧
    s.opened.length = 1 ∧
    (∀ o ∈ s.opened, o.userId = "user-1" → s.FromTwoFactor spelledLibraries o) ∧ s.SingleUse := by
  have hend : (oneCode.foldlM (guardStep
      (SessionState.step spelledLibraries identityHash sampleConfig) fun s e =>
        SessionState.TotpOn "user-1" s e ∧ s.MarksInTime e) beforeLogin).any
      (fun s => s.opened.length == 1) = true := by
    decide +kernel
  obtain ⟨s, hs, hlength⟩ := (Option.any_eq_true _ _).mp hend
  have hrun := Run.of_guardStep hs
  have hall := SessionState.two_factor_required
    (hrun.mono fun h => (⟨h.1, h.2.1⟩ : Guarded _ (SessionState.TotpOn "user-1") _ _ _))
  exact ⟨s, hrun.of_guarded, beq_iff_eq.mp hlength, hall.1, hall.2 (hrun.mono fun h => ⟨h.1, h.2.2⟩)⟩

/-- A second call passes its checks at 299 s and comes to its `SET NX` at 360 s. -/
def codeAgain : List (SessionEvent Jwt) :=
  oneCode ++
    [.later 299000, .verify2faToken tempToken1 "code of secret", advanceFor 2 "", .later 61000,
      advanceFor 2 "", advanceFor 2 "session-2", advanceFor 2 "", advanceFor 2 ""]

/-- One temporary token, two sessions. -/
theorem codeAgain_twice : ∃ s : SessionState Jwt,
    Run (Guarded (Steps (SessionState.step spelledLibraries identityHash sampleConfig))
      (SessionState.TotpOn "user-1")) beforeLogin codeAgain s ∧
    s.opened.map (fun o => (o.sessionId, o.via.tempToken)) =
      [("session-2", some tempToken1), ("session-1", some tempToken1)] ∧ ¬ s.SingleUse := by
  have hend : (codeAgain.foldlM (guardStep
      (SessionState.step spelledLibraries identityHash sampleConfig)
      (SessionState.TotpOn "user-1")) beforeLogin).any
      (fun s => s.opened.map (fun o => (o.sessionId, o.via.tempToken)) ==
        [("session-2", some tempToken1), ("session-1", some tempToken1)] &&
        s.opened.countP (fun o => o.via.tempToken == some tempToken1) == 2) = true := by
    decide +kernel
  obtain ⟨s, hs, hopened⟩ := (Option.any_eq_true _ _).mp hend
  rw [Bool.and_eq_true, beq_iff_eq, beq_iff_eq] at hopened
  refine ⟨s, Run.of_guardStep hs, hopened.1, fun hsingle => ?_⟩
  have hone := hsingle tempToken1
  omega

end DeliveryTracking.Auth
