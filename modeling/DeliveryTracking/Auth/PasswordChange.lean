/-
# `DeliveryTracking.Auth.PasswordChange` — what a new password ends

A new password is to end every session that was opened under an older one.

    login            compares the password; then writes a session row, signs
                     and rotates
    refresh          checks the token; then signs and rotates
    changePassword   compares the password; then, in one transaction, writes the
                     new one and deletes the sessions
    resetPassword    compares the secret of a reset token; then writes the new
                     password and clears the token; then clears the hashes of
                     the sessions; then deletes them

A `login` that compared before the write and opens its session after the delete
leaves a session of the old password, and two `resetPassword`s that compared
before the first write both write.  In a run where each acts on what it compared
neither happens (`old_password_ended`).
-/
import DeliveryTracking.Auth.Login
import DeliveryTracking.Auth.Ending

namespace DeliveryTracking.Auth

variable {Hash : Type}

/-! ## Writes -/

/-- Every session row goes through `f`. -/
def Db.mapSessions (db : Db Hash) (f : UserSession Hash → Option (UserSession Hash))
    (hf : ∀ {se se'}, f se = some se' → se'.id = se.id) : Db Hash where
  users := db.users
  sessions := fun k => (db.sessions k).bind f
  users_key := db.users_key
  sessions_key := by
    intro k se h
    obtain ⟨old, hold, hse⟩ := Option.bind_eq_some_iff.mp h
    exact (hf hse).trans (db.sessions_key hold)

/-- `updateMany` of the hashes of a user's sessions. -/
def Db.purgeUser (db : Db Hash) (userId : String) : Db Hash :=
  db.mapSessions
    (fun se => some (if se.userId = userId then { se with refreshTokenHash := none } else se))
    (by
      rintro se _ ⟨rfl⟩
      split <;> rfl)

/-- `deleteMany` of a user's sessions. -/
def Db.deleteUser (db : Db Hash) (userId : String) : Db Hash :=
  db.mapSessions (fun se => if se.userId = userId then none else some se)
    (by
      intro se se' h
      split at h
      · cases h
      · cases h
        rfl)

/-- What the write of `resetPassword` leaves. -/
def Credentials.afterReset (c : Credentials) (passwordHash : String) : Credentials :=
  { c with
    passwordHash := passwordHash, resetTokenId := none, resetTokenHash := none
    resetTokenExpiry := none }

namespace Store

variable (s : Store Hash)

def setCredentials (userId : String) (f : Credentials → Credentials) : Store Hash :=
  { s with credentials := Function.update s.credentials userId (f (s.credentials userId)) }

end Store

/-! ## The checks of `changePassword` and `resetPassword` -/

inductive PasswordError where
  | notConfirmed
  | userNotFound
  | wrongPassword
  | invalidLink
  | login (e : LoginError)
  deriving DecidableEq, Repr

def PasswordError.message : PasswordError → String
  | .notConfirmed => "New password and confirmation do not match"
  | .userNotFound => "User not found"
  | .wrongPassword => "Current password is incorrect"
  | .invalidLink => "The reset link is invalid or has expired."
  | .login e => e.message

structure ChangePasswordDto where
  currentPassword : String
  newPassword : String
  confirmPassword : String
  deriving DecidableEq, Repr

/-- The id and the secret of a reset token, at its first colon. -/
def resetTokenParts (combinedToken : String) : Option (String × String) :=
  match combinedToken.toList.span (· != ':') with
  | (_, []) => none
  | (id, _ :: secret) => some (String.ofList id, String.ofList secret)

namespace Store

variable (s : Store Hash)

def changePasswordCheck (lib : Libraries) (userId : String) (dto : ChangePasswordDto) :
    Except PasswordError Fleet.User :=
  if dto.newPassword ≠ dto.confirmPassword then .error .notConfirmed
  else
    match s.fleet.users.findFirst fun u => u.id == userId && u.deletedAt.isNone with
    | none => .error .userNotFound
    | some user =>
      if lib.compare dto.currentPassword (s.credentials user.id).passwordHash then .ok user
      else .error .wrongPassword

/-- The user of a reset token that is there, in time and has the right secret. -/
def resetPasswordCheck (lib : Libraries) (now : Nat) (resetTokenId rawSecret : String) :
    Except PasswordError Fleet.User :=
  match s.fleet.users.findFirst fun u => (s.credentials u.id).resetTokenId == some resetTokenId with
  | none => .error .invalidLink
  | some user =>
    match truthy (s.credentials user.id).resetTokenHash, (s.credentials user.id).resetTokenExpiry with
    | some resetTokenHash, some resetTokenExpiry =>
      if resetTokenExpiry < now ∨ lib.compare rawSecret resetTokenHash = false then
        .error .invalidLink
      else .ok user
    | _, _ => .error .invalidLink

end Store

/-! ## The calls together -/

/-- Where a call stands. -/
inductive PasswordTask where
  /-- A refresh; or the last steps of a login, which are those of a refresh. -/
  | refresh (task : RefreshTask)
  /-- A login whose password was right, when the user had had that many new passwords. -/
  | opening (user : Fleet.User) (under : Nat)
  | changing (userId newPassword : String)
  | resetting (userId resetTokenId newPassword : String)
  /-- `resetPassword` after its write: `updateMany`, then `deleteMany`. -/
  | purging (userId : String)
  | deleting (userId : String)
  | returned
  | requiresTwoFactor (tempToken : TempToken)
  | refused (e : PasswordError)
  deriving DecidableEq, Repr

namespace PasswordTask

def underWay : PasswordTask → Bool
  | .refresh task => task.session.isSome
  | .opening .. | .changing .. | .resetting .. | .purging _ | .deleting _ => true
  | .returned | .requiresTwoFactor _ | .refused _ => false

/-- The call will still delete the sessions of a user. -/
def deletes (userId : String) : PasswordTask → Bool
  | .purging u | .deleting u => u == userId
  | _ => false

end PasswordTask

structure PasswordState (Hash : Type) where
  /-- Milliseconds. -/
  clock : Nat
  store : Store Hash
  tasks : List PasswordTask
  /-- How many new passwords a user has had; no code reads it. -/
  changes : String → Nat
  /-- How many its user had had when the password of a session was compared; no code reads it. -/
  openedUnder : String → Option Nat
  /-- The users and reset tokens of the passwords that `resetPassword` wrote; no code reads it. -/
  resets : List (String × String)

inductive PasswordEvent where
  | login (lockouts : Lockouts) (email password jti : String)
  | refresh (token : Jwt)
  | changePassword (userId : String) (dto : ChangePasswordDto)
  | resetPassword (combinedToken newPassword : String)
  /-- The next step of a call, with an id for a new row. -/
  | next (i : Nat) (sessionId : String)
  | later (ms : Nat)

namespace PasswordState

variable (lib : Libraries) (H : TokenHash Hash) (cfg : AuthConfig) (s : PasswordState Hash)

def start (clock : Nat) (store : Store Hash) : PasswordState Hash where
  clock := clock
  store := store
  tasks := []
  changes := fun _ => 0
  openedUnder := fun k => (store.sessions k).map fun _ => 0
  resets := []

def withDb (db : Db Hash) : PasswordState Hash := { s with store := s.store.withSessions db }

/-- A new password is written. -/
def setPassword (userId : String) (f : Credentials → Credentials) : PasswordState Hash :=
  { s with
    store := s.store.setCredentials userId f
    changes := Function.update s.changes userId (s.changes userId + 1) }

/-- `userSession.create`, with an id that was never given. -/
def createSession (user : Fleet.User) (under : Nat) (sessionId : String) :
    Option (PasswordState Hash) :=
  if (s.openedUnder sessionId).isSome ∨ (s.store.sessions sessionId).isSome then none
  else
    some
      { s.withDb (s.store.db.setSession sessionId
          (some ⟨sessionId, user.id, none, none, s.clock + cfg.refreshExpirationSeconds * 1000⟩)
          (by rintro _ ⟨rfl⟩; rfl)) with
        openedUnder := Function.update s.openedUnder sessionId (some under) }

/-- The next step of a call; one that ended takes none. -/
def advance (sessionId : String) : PasswordTask → Option (PasswordTask × PasswordState Hash)
  | .refresh task =>
    let result := task.advance cfg H s.clock s.store.db
    some (.refresh result.1, s.withDb result.2)
  | .opening user under =>
    (s.createSession cfg user under sessionId).map fun t =>
      (.refresh (.validated sessionId (userOf user)), t)
  | .changing userId newPassword =>
    some (.returned, (s.withDb (s.store.db.deleteUser userId)).setPassword userId fun c =>
      { c with passwordHash := lib.hash newPassword })
  | .resetting userId resetTokenId newPassword =>
    some (.purging userId,
      { s.setPassword userId fun c => c.afterReset (lib.hash newPassword) with
        resets := (userId, resetTokenId) :: s.resets })
  | .purging userId => some (.deleting userId, s.withDb (s.store.db.purgeUser userId))
  | .deleting userId => some (.returned, s.withDb (s.store.db.deleteUser userId))
  | task => some (task, s)

/-- The first step of a login: the checks, and what they lead to. -/
def login (lockouts : Lockouts) (email password jti : String) : PasswordTask :=
  match s.store.loginCheck lib lockouts email password with
  | .error e => .refused (.login e)
  | .ok user =>
    if (s.store.credentials user.id).totpEnabled then
      .requiresTwoFactor (tempTokenFor user.id jti s.clock)
    else .opening user (s.changes user.id)

def changePassword (userId : String) (dto : ChangePasswordDto) : PasswordTask :=
  match s.store.changePasswordCheck lib userId dto with
  | .error e => .refused e
  | .ok _ => .changing userId dto.newPassword

def resetPassword (combinedToken newPassword : String) : PasswordTask :=
  match resetTokenParts combinedToken with
  | none => .refused .invalidLink
  | some (resetTokenId, rawSecret) =>
    match s.store.resetPasswordCheck lib s.clock resetTokenId rawSecret with
    | .error e => .refused e
    | .ok user => .resetting user.id resetTokenId newPassword

/-- A call starts. -/
def add (task : PasswordTask) : PasswordState Hash := { s with tasks := s.tasks ++ [task] }

def step : PasswordEvent → Option (PasswordState Hash)
  | .login lockouts email password jti => some (s.add (s.login lib lockouts email password jti))
  | .refresh token => some (s.add (.refresh (.call s.clock token)))
  | .changePassword userId dto => some (s.add (s.changePassword lib userId dto))
  | .resetPassword combinedToken newPassword =>
    some (s.add (s.resetPassword lib combinedToken newPassword))
  | .next i sessionId =>
    match s.tasks[i]? with
    | none => none
    | some task =>
      (s.advance lib H cfg sessionId task).map fun (task', t) =>
        { t with tasks := t.tasks.set i task' }
  | .later ms => some { s with clock := s.clock + ms }

/-- The session of a token was opened under a password that its user has replaced. -/
def Old (token : Jwt) : Prop :=
  ∃ session n, s.store.sessions token.payload.sessionId = some session ∧
    s.openedUnder token.payload.sessionId = some n ∧ n < s.changes session.userId

/-- With nothing under way no token of an older password is accepted; and no reset token has changed
a password twice. -/
def OldPasswordEnded : Prop :=
  ((∀ task ∈ s.tasks, task.underWay = false) →
    ∀ c : RefreshCall, s.Old c.token → ¬ Accepts H s.store.db c) ∧
  s.resets.Nodup

/-- A call will still delete the sessions of a user. -/
def deletes (userId : String) : Bool := s.tasks.any (·.deletes userId)

/-- A login opens its session under the password it compared, or before sessions are deleted; a
reset writes while the token it compared is there. -/
def actsInTime : PasswordTask → Bool
  | .opening user under => under == s.changes user.id || s.deletes user.id
  | .resetting userId resetTokenId _ =>
    (s.store.credentials userId).resetTokenId == some resetTokenId
  | _ => true

/-- The call that moves on, if one does, acts in time. -/
def ActsInTime (s : PasswordState Hash) : PasswordEvent → Prop
  | .next i _ => (s.tasks[i]?).all s.actsInTime = true
  | _ => True

instance (s : PasswordState Hash) : DecidablePred s.ActsInTime
  | .next .. => inferInstanceAs (Decidable (_ = true))
  | .login .. | .refresh _ | .changePassword .. | .resetPassword .. | .later _ => .isTrue trivial

end PasswordState

/-! ## Rows after a write -/

section Rows

variable {db : Db Hash} {userId k : String} {se : UserSession Hash}

theorem Db.of_purgeUser (h : (db.purgeUser userId).sessions k = some se) :
    ∃ old, db.sessions k = some old ∧ se.userId = old.userId := by
  obtain ⟨old, hold, hse⟩ := Option.bind_eq_some_iff.mp h
  refine ⟨old, hold, ?_⟩
  cases hse
  split <;> rfl

theorem Db.of_deleteUser (h : (db.deleteUser userId).sessions k = some se) :
    db.sessions k = some se ∧ se.userId ≠ userId := by
  obtain ⟨old, hold, hse⟩ := Option.bind_eq_some_iff.mp h
  split at hse
  · cases hse
  · rename_i hne
    cases hse
    exact ⟨hold, hne⟩

end Rows

/-! ## What calls in time keep -/

namespace PasswordState

variable {lib : Libraries} {H : TokenHash Hash} {cfg : AuthConfig} {s t : PasswordState Hash}
  {e : PasswordEvent}

/-- A session of an older password has its deletion ahead, and a used reset token is gone. -/
structure Inv (s : PasswordState Hash) : Prop where
  opened : ∀ k se, s.store.sessions k = some se →
    ∃ n, s.openedUnder k = some n ∧ (n < s.changes se.userId → s.deletes se.userId = true)
  used : ∀ p ∈ s.resets, (s.store.credentials p.1).resetTokenId ≠ some p.2
  nodup : s.resets.Nodup

/-- A step that writes no password and opens no session. -/
theorem Inv.of_rows (hs : s.Inv)
    (hrows : ∀ k se, t.store.sessions k = some se →
      ∃ old, s.store.sessions k = some old ∧ se.userId = old.userId)
    (hopened : t.openedUnder = s.openedUnder) (hchanges : t.changes = s.changes)
    (hcredentials : t.store.credentials = s.store.credentials) (hresets : t.resets = s.resets)
    (hdeletes : ∀ k se, t.store.sessions k = some se → s.deletes se.userId = true →
      t.deletes se.userId = true) : t.Inv := by
  refine ⟨fun k se hse => ?_, ?_, hresets ▸ hs.nodup⟩
  · obtain ⟨old, hold, huser⟩ := hrows k se hse
    obtain ⟨n, hn, hlater⟩ := hs.opened k old hold
    refine ⟨n, hopened ▸ hn, fun hlt => hdeletes k se hse ?_⟩
    rw [huser]
    rw [hchanges, huser] at hlt
    exact hlater hlt
  · rw [hresets, hcredentials]
    exact hs.used

theorem deletes_eq_true_iff {userId : String} :
    s.deletes userId = true ↔ ∃ task ∈ s.tasks, task.deletes userId = true := List.any_eq_true

/-- A call moves on, and still deletes what it was to delete. -/
theorem deletes_set {i : Nat} {task task' : PasswordTask} {userId : String}
    (hi : s.tasks[i]? = some task) (hd : s.deletes userId = true)
    (hkeep : task.deletes userId = true → task'.deletes userId = true) :
    (s.tasks.set i task').any (·.deletes userId) = true := by
  obtain ⟨other, hmem, hother⟩ := deletes_eq_true_iff.mp hd
  by_cases hsame : other = task
  · exact List.any_eq_true.mpr ⟨task', mem_set_self hi, hkeep (hsame ▸ hother)⟩
  · exact List.any_eq_true.mpr ⟨other, mem_set_of_ne hi hmem hsame, hother⟩

theorem inv_add (hs : s.Inv) (task : PasswordTask) : (s.add task).Inv := by
  refine hs.of_rows (fun k se hse => ⟨se, hse, rfl⟩) rfl rfl rfl rfl fun k se _ hd => ?_
  obtain ⟨other, hmem, hother⟩ := deletes_eq_true_iff.mp hd
  exact deletes_eq_true_iff.mpr ⟨other, List.mem_append_left _ hmem, hother⟩

/-- A session is opened in time. -/
theorem inv_opening {user : Fleet.User} {under i : Nat} {sessionId : String} {task' : PasswordTask}
    (hs : s.Inv) (hi : s.tasks[i]? = some (.opening user under))
    (htime : s.actsInTime (.opening user under) = true)
    (h : s.createSession cfg user under sessionId = some t) :
    ({ t with tasks := t.tasks.set i task' } : PasswordState Hash).Inv := by
  rw [createSession] at h
  split at h
  · cases h
  · rename_i hfresh
    cases h
    refine ⟨fun k se hse => ?_, hs.used, hs.nodup⟩
    have hrow : Function.update s.store.sessions sessionId (some ⟨sessionId, user.id, none, none,
        s.clock + cfg.refreshExpirationSeconds * 1000⟩) k = some se := hse
    by_cases hk : k = sessionId
    · subst hk
      refine ⟨under, Function.update_self .., fun hlt => ?_⟩
      rw [Function.update_self] at hrow
      cases hrow
      rcases (Bool.or_eq_true ..).mp htime with hunder | hd
      · exact absurd hlt (Nat.not_lt.mpr (beq_iff_eq.mp hunder).ge)
      · exact deletes_set hi hd fun hself => by cases hself
    · rw [Function.update_of_ne hk] at hrow
      obtain ⟨n, hn, hlater⟩ := hs.opened k se hrow
      exact ⟨n, (Function.update_of_ne hk ..).trans hn, fun hlt =>
        deletes_set hi (hlater hlt) fun hself => by cases hself⟩

/-- A new password and the deletion of the sessions, in one transaction. -/
theorem inv_changing {userId : String} {f : Credentials → Credentials} {i : Nat}
    {task task' : PasswordTask} (hs : s.Inv) (hi : s.tasks[i]? = some task)
    (htask : ∀ u, task.deletes u = false) (hf : ∀ c, (f c).resetTokenId = c.resetTokenId) :
    ({ (s.withDb (s.store.db.deleteUser userId)).setPassword userId f with
        tasks := s.tasks.set i task' } : PasswordState Hash).Inv := by
  refine ⟨fun k se hse => ?_, fun p hp => ?_, hs.nodup⟩
  · obtain ⟨hrow, hne⟩ := Db.of_deleteUser hse
    obtain ⟨n, hn, hlater⟩ := hs.opened k se hrow
    refine ⟨n, hn, fun hlt => ?_⟩
    have hsame : Function.update s.changes userId (s.changes userId + 1) se.userId =
        s.changes se.userId := Function.update_of_ne hne ..
    have hd := hlater (hsame ▸ hlt)
    exact deletes_set hi hd fun hself => absurd hself (Bool.eq_false_iff.mp (htask _))
  · have hid : (Function.update s.store.credentials userId (f (s.store.credentials userId))
        p.1).resetTokenId = (s.store.credentials p.1).resetTokenId := by
      by_cases hp1 : p.1 = userId
      · rw [hp1, Function.update_self, hf]
      · rw [Function.update_of_ne hp1]
    exact fun h => hs.used p hp (hid.symm.trans h)

/-- A new password by a reset token that is there: the deletion of the sessions comes next. -/
theorem inv_resetting {userId resetTokenId newPassword : String} {i : Nat} (hs : s.Inv)
    (hi : s.tasks[i]? = some (.resetting userId resetTokenId newPassword))
    (htime : s.actsInTime (.resetting userId resetTokenId newPassword) = true)
    {f : Credentials → Credentials} (hf : ∀ c, (f c).resetTokenId = none) :
    ({ s.setPassword userId f with
        resets := (userId, resetTokenId) :: s.resets
        tasks := s.tasks.set i (.purging userId) } : PasswordState Hash).Inv := by
  refine ⟨fun k se hse => ?_, fun p hp => ?_, List.nodup_cons.mpr ⟨fun hused => ?_, hs.nodup⟩⟩
  · obtain ⟨n, hn, hlater⟩ := hs.opened k se hse
    refine ⟨n, hn, fun hlt => ?_⟩
    by_cases huser : se.userId = userId
    · exact List.any_eq_true.mpr ⟨_, mem_set_self hi, beq_iff_eq.mpr huser.symm⟩
    · have hsame : Function.update s.changes userId (s.changes userId + 1) se.userId =
          s.changes se.userId := Function.update_of_ne huser ..
      exact deletes_set hi (hlater (hsame ▸ hlt)) fun hself => by cases hself
  · by_cases hp1 : p.1 = userId
    · have hnone : (Function.update s.store.credentials userId (f (s.store.credentials userId))
          p.1).resetTokenId = none := by rw [hp1, Function.update_self, hf]
      intro h
      cases hnone.symm.trans h
    · have hsame : Function.update s.store.credentials userId (f (s.store.credentials userId)) p.1 =
          s.store.credentials p.1 := Function.update_of_ne hp1 ..
      rcases List.mem_cons.mp hp with rfl | hp
      · exact absurd rfl hp1
      · exact fun h => hs.used p hp (hsame ▸ h)
  · exact hs.used _ hused (beq_iff_eq.mp htime)

/-- A call that ended stays as it is. -/
theorem inv_ended {i : Nat} {task : PasswordTask} (hs : s.Inv) (hi : s.tasks[i]? = some task) :
    ({ s with tasks := s.tasks.set i task } : PasswordState Hash).Inv :=
  hs.of_rows (fun _ se hse => ⟨se, hse, rfl⟩) rfl rfl rfl rfl fun _ _ _ hd =>
    deletes_set hi hd fun hself => hself

theorem inv_advance {i : Nat} {sessionId : String} {task task' : PasswordTask} (hs : s.Inv)
    (hi : s.tasks[i]? = some task) (htime : s.actsInTime task = true)
    (hadvance : s.advance lib H cfg sessionId task = some (task', t)) :
    ({ t with tasks := t.tasks.set i task' } : PasswordState Hash).Inv := by
  cases task with
  | refresh task =>
    cases hadvance
    exact hs.of_rows (task.advance_kept).rows rfl rfl rfl rfl fun _ _ _ hd =>
      deletes_set hi hd fun hself => by cases hself
  | opening user under =>
    obtain ⟨v, hcreate, heq⟩ := Option.map_eq_some_iff.mp hadvance
    cases heq
    exact inv_opening hs hi htime hcreate
  | changing userId newPassword =>
    cases hadvance
    exact inv_changing hs hi (fun _ => rfl) fun _ => rfl
  | resetting userId resetTokenId newPassword =>
    cases hadvance
    have hnext := inv_resetting (f := fun c => c.afterReset (lib.hash newPassword)) hs hi htime
      fun _ => rfl
    exact hnext
  | purging userId =>
    cases hadvance
    exact hs.of_rows (fun _ _ => Db.of_purgeUser) rfl rfl rfl rfl fun _ _ _ hd =>
      deletes_set hi hd fun hself => hself
  | deleting userId =>
    cases hadvance
    refine hs.of_rows (fun k se hse => ⟨se, (Db.of_deleteUser hse).1, rfl⟩) rfl rfl rfl rfl ?_
    intro _ se hse hd
    refine deletes_set hi hd fun hself => ?_
    exact absurd (beq_iff_eq.mp hself).symm (Db.of_deleteUser hse).2
  | returned =>
    cases hadvance
    exact inv_ended hs hi
  | requiresTwoFactor tempToken =>
    cases hadvance
    exact inv_ended hs hi
  | refused e =>
    cases hadvance
    exact inv_ended hs hi

theorem inv_step (hs : s.Inv) (hguard : s.ActsInTime e) (hstep : s.step lib H cfg e = some t) :
    t.Inv := by
  cases e with
  | login lockouts email password jti =>
    cases hstep
    exact inv_add hs _
  | refresh token =>
    cases hstep
    exact inv_add hs _
  | changePassword userId dto =>
    cases hstep
    exact inv_add hs _
  | resetPassword combinedToken newPassword =>
    cases hstep
    exact inv_add hs _
  | later ms =>
    cases hstep
    exact hs.of_rows (fun k se hse => ⟨se, hse, rfl⟩) rfl rfl rfl rfl fun _ _ _ h => h
  | next i sessionId =>
    simp only [step] at hstep
    split at hstep
    · cases hstep
    · rename_i task hi
      obtain ⟨⟨task', u⟩, hadvance, rfl⟩ := Option.map_eq_some_iff.mp hstep
      have hall : (s.tasks[i]?).all s.actsInTime = true := hguard
      rw [hi] at hall
      exact inv_advance hs hi hall hadvance

theorem inv_start (clock : Nat) (store : Store Hash) : (start clock store).Inv := by
  refine ⟨fun k se hse => ⟨0, ?_, fun hlt => absurd hlt (Nat.lt_irrefl 0)⟩,
    fun p hp => absurd hp List.not_mem_nil, List.nodup_nil⟩
  show (store.sessions k).map _ = _
  rw [show store.sessions k = some se from hse]
  rfl

/-- Nothing under way deletes nothing. -/
theorem deletes_eq_false {userId : String} (h : ∀ task ∈ s.tasks, task.underWay = false) :
    s.deletes userId = false := by
  refine List.any_eq_false.mpr fun task htask hd => ?_
  have hover := h task htask
  cases task with
  | purging u => cases hover
  | deleting u => cases hover
  | _ => cases hd

theorem Inv.oldPasswordEnded (hs : s.Inv) : s.OldPasswordEnded H := by
  refine ⟨fun hquiet c hold hacc => ?_, hs.nodup⟩
  obtain ⟨session, n, hrow, hn, hlt⟩ := hold
  obtain ⟨m, hm, hlater⟩ := hs.opened _ session hrow
  obtain rfl : n = m := Option.some.inj (hn.symm.trans hm)
  exact absurd (hlater hlt) (Bool.eq_false_iff.mp (deletes_eq_false hquiet))

/-- **In a run whose calls act in time, no token of a replaced password is accepted once all calls
are over, and a reset token changes the password at most once.** -/
theorem old_password_ended {clock : Nat} {store : Store Hash} {es : List PasswordEvent}
    (hrun : Run (Guarded (Steps (step lib H cfg)) ActsInTime) (start clock store) es t) :
    t.OldPasswordEnded H := by
  have ht : t.Inv := by
    refine hrun.invariant (I := Inv) ?_ (inv_start clock store)
    intro u e v hu hnext
    exact inv_step hu hnext.2 hnext.1
  exact ht.oldPasswordEnded

end PasswordState

/-! ### A login and two resets that compared too early -/

def resetLink : Credentials :=
  { plainCredentials with
    passwordHash := "hash of password", resetTokenId := some "reset-1"
    resetTokenHash := some "hash of secret", resetTokenExpiry := some 1800000 }

/-- Nobody is locked out. -/
def noLockouts : Lockouts := ⟨fun _ => false, fun _ => false⟩

def beforePasswords : PasswordState Jwt := .start 0 (oneAccount Jwt plainAccount resetLink)

def newPassword : ChangePasswordDto := ⟨"password", "new-password", "new-password"⟩

/-- A login with the old password. -/
def oldLogin : PasswordEvent := .login noLockouts "hery@example.mg" "password" "jti-1"

/-- The password is changed after the login has opened its session. -/
def changeAfterLogin : List PasswordEvent :=
  [oldLogin, .next 0 "session-1", .next 0 "", .next 0 "", .changePassword "user-1" newPassword,
    .next 1 ""]

/-- The password is changed after the login has compared it. -/
def changeDuringLogin : List PasswordEvent :=
  [oldLogin, .changePassword "user-1" newPassword, .next 1 "", .next 0 "session-1", .next 0 "",
    .next 0 ""]

/-- Two calls with one link. -/
def resetTwice : List PasswordEvent :=
  [.resetPassword "reset-1:secret" "first", .resetPassword "reset-1:secret" "second", .next 0 "",
    .next 1 "", .next 0 "", .next 0 "", .next 1 "", .next 1 ""]

theorem changeAfterLogin_ended : ∃ s : PasswordState Jwt,
    Run (Steps (PasswordState.step spelledLibraries identityHash sampleConfig)) beforePasswords
      changeAfterLogin s ∧
    s.changes "user-1" = 1 ∧ s.OldPasswordEnded identityHash := by
  have hend : (changeAfterLogin.foldlM (guardStep
      (PasswordState.step spelledLibraries identityHash sampleConfig) PasswordState.ActsInTime)
      beforePasswords).any (fun s => s.changes "user-1" == 1) = true := by
    decide +kernel
  obtain ⟨s, hs, hchanges⟩ := (Option.any_eq_true _ _).mp hend
  have hrun := Run.of_guardStep hs
  exact ⟨s, hrun.of_guarded, beq_iff_eq.mp hchanges, PasswordState.old_password_ended hrun⟩

/-- The refresh token of the login. -/
def oldToken : Jwt := tokenFor (userOf plainAccount) "session-1" 0 604800

/-- All calls are over, the session of the token is older than the password, and `refresh` takes
it. -/
def oldTokenTaken (s : PasswordState Jwt) : Bool :=
  s.tasks.all (fun task => !task.underWay) &&
    ((s.store.sessions "session-1").any (fun session =>
      (s.openedUnder "session-1").any fun n => decide (n < s.changes session.userId)) &&
    (refresh sampleConfig identityHash s.store.db ⟨oldToken, 0, 0, 0⟩).1.isOk)

theorem oldTokenTaken_iff {s : PasswordState Jwt} (h : oldTokenTaken s = true) :
    (∀ task ∈ s.tasks, task.underWay = false) ∧ s.Old oldToken ∧
      Accepts identityHash s.store.db ⟨oldToken, 0, 0, 0⟩ := by
  rw [oldTokenTaken, Bool.and_eq_true, Bool.and_eq_true, List.all_eq_true] at h
  obtain ⟨hquiet, hold, hok⟩ := h
  obtain ⟨session, hrow, hopened⟩ := (Option.any_eq_true _ _).mp hold
  obtain ⟨n, hn, hlt⟩ := (Option.any_eq_true _ _).mp hopened
  refine ⟨fun task htask => ?_, ⟨session, n, hrow, hn, of_decide_eq_true hlt⟩, ?_⟩
  · exact Bool.not_eq_true' _ ▸ hquiet task htask
  · exact refresh_ok_iff.mp (isOk_iff.mp hok)

/-- The old password's token outlives the change, and one link changes the password twice. -/
theorem changeDuringLogin_accepted : identityHash.Ideal ∧
    (∃ s : PasswordState Jwt,
      Run (Steps (PasswordState.step spelledLibraries identityHash sampleConfig)) beforePasswords
        changeDuringLogin s ∧
      (∀ task ∈ s.tasks, task.underWay = false) ∧ s.Old oldToken ∧
      Accepts identityHash s.store.db ⟨oldToken, 0, 0, 0⟩ ∧ ¬ s.OldPasswordEnded identityHash) ∧
    ∃ s : PasswordState Jwt,
      Run (Steps (PasswordState.step spelledLibraries identityHash sampleConfig)) beforePasswords
        resetTwice s ∧
      s.resets = [("user-1", "reset-1"), ("user-1", "reset-1")] ∧
      ¬ s.OldPasswordEnded identityHash := by
  refine ⟨identityHash_ideal, ?_, ?_⟩
  · have hend : (changeDuringLogin.foldlM
        (PasswordState.step spelledLibraries identityHash sampleConfig)
        beforePasswords).any oldTokenTaken = true := by
      decide +kernel
    obtain ⟨s, hrun, hs⟩ := Run.of_foldlM_any hend
    obtain ⟨hquiet, hold, hacc⟩ := oldTokenTaken_iff hs
    exact ⟨s, hrun, hquiet, hold, hacc, fun hended => hended.1 hquiet _ hold hacc⟩
  · have hend : (resetTwice.foldlM
        (PasswordState.step spelledLibraries identityHash sampleConfig) beforePasswords).any
        (fun s => s.resets == [("user-1", "reset-1"), ("user-1", "reset-1")]) = true := by
      decide +kernel
    obtain ⟨s, hrun, hs⟩ := Run.of_foldlM_any hend
    have hresets := beq_iff_eq.mp hs
    refine ⟨s, hrun, hresets, fun hended => ?_⟩
    have hnodup := hended.2
    rw [hresets] at hnodup
    exact absurd hnodup (by decide)

end DeliveryTracking.Auth
