/-
# `DeliveryTracking.Auth.Ending` — a session that was ended

`logout` and `revokeSession` end one session of a user: both clear its hash and
then delete its row, in two statements.  Calls of `refresh` on the session run
beside them, each in steps of its own:

    verified    the JWT passed `jwtService.verify`
    validated   the transaction found the token in a slot
    signed      the new tokens are signed, their hash is computed
    returned    the `UPDATE` found the row

A rotation between the two statements writes a new hash, and the row is deleted
all the same.  What decides is that a rotation needs the row: once it is deleted
none brings it back, and a refresh under way is refused (`ended_session_final`).
-/
import DeliveryTracking.Auth.Rotation

namespace DeliveryTracking.Auth

variable {Hash : Type}

/-! ## A refresh, step by step -/

/-- Where a call of `refresh` stands. -/
inductive RefreshTask where
  | verified (token : Jwt)
  | validated (sessionId : String) (user : User)
  | signed (sessionId : String) (r : TokenResponse)
  | returned (r : TokenResponse)
  | refused (e : AuthError)
  deriving DecidableEq, Repr

/-- What a step of a call about a session leaves of the tables: the users, the rows of other
sessions, and no row that was not there, or for another user. -/
structure Db.Kept (session : Option String) (db db' : Db Hash) : Prop where
  users : db'.users = db.users
  others : ∀ k, session ≠ some k → db'.sessions k = db.sessions k
  rows : ∀ k se, db'.sessions k = some se → ∃ old, db.sessions k = some old ∧ se.userId = old.userId

namespace Db.Kept

variable {session : Option String} {db db' : Db Hash}

theorem refl (session : Option String) (db : Db Hash) : Db.Kept session db db :=
  ⟨rfl, fun _ _ => rfl, fun _ se h => ⟨se, h, rfl⟩⟩

/-- One row is written, from the row that was there. -/
theorem of_row {sessionId : String} (husers : db'.users = db.users)
    (hothers : ∀ k, k ≠ sessionId → db'.sessions k = db.sessions k)
    (hrow : ∀ se, db'.sessions sessionId = some se →
      ∃ old, db.sessions sessionId = some old ∧ se.userId = old.userId) :
    Db.Kept (some sessionId) db db' := by
  refine ⟨husers, fun k hk => hothers k fun h => hk (by rw [h]), fun k se hse => ?_⟩
  by_cases hk : k = sessionId
  · subst hk
    exact hrow se hse
  · rw [hothers k hk] at hse
    exact ⟨se, hse, rfl⟩

theorem deleted (h : Db.Kept session db db') {k : String} (hk : db.sessions k = none) :
    db'.sessions k = none := by
  refine Option.eq_none_iff_forall_ne_some.mpr fun se hse => ?_
  obtain ⟨old, hold, -⟩ := h.rows k se hse
  rw [hk] at hold
  cases hold

end Db.Kept

namespace RefreshTask

/-- A call with a token: it verifies the JWT. -/
def call (now : Nat) (token : Jwt) : RefreshTask :=
  match jwtVerify now token with
  | none => .refused .invalidRefreshToken
  | some _ => .verified token

/-- Sign for a user, with the names of its row. -/
def sign (cfg : AuthConfig) (now : Nat) (sessionId : String) (user userRecord : User) : RefreshTask :=
  let signer := { user with firstName := userRecord.firstName, lastName := userRecord.lastName }
  .signed sessionId
    ⟨tokenFor signer sessionId now cfg.accessExpiration,
      tokenFor signer sessionId now cfg.refreshExpiration, signer⟩

/-- The next step of a call; one that ended takes none. -/
def advance (cfg : AuthConfig) (H : TokenHash Hash) (now : Nat) (db : Db Hash) :
    RefreshTask → RefreshTask × Db Hash
  | .verified token =>
    match transaction (refreshTx H now token token.payload.sessionId) db with
    | (.error e, db') => (.refused e, db')
    | (.ok user, db') => (.validated token.payload.sessionId user, db')
  | .validated sessionId user =>
    match db.users user.id with
    | none => (.refused .userNotFound, db)
    | some userRecord => (sign cfg now sessionId user userRecord, db)
  | .signed sessionId r =>
    match rotate cfg (H.hash r.refreshToken) now sessionId r.user.id db with
    | none => (.refused .invalidRefreshToken, db)
    | some db' => (.returned { r with user := (db'.users r.user.id).getD r.user }, db')
  | task => (task, db)

/-- The session a call is about, until it ends. -/
def session : RefreshTask → Option String
  | .verified token => some token.payload.sessionId
  | .validated sessionId _ => some sessionId
  | .signed sessionId _ => some sessionId
  | .returned _ => none
  | .refused _ => none

/-- What a call signed is for its session. -/
def Signs (task : RefreshTask) : Prop :=
  ∀ sessionId r, task = .signed sessionId r → r.refreshToken.payload.sessionId = sessionId

variable {cfg : AuthConfig} {H : TokenHash Hash} {now : Nat} {db : Db Hash}

theorem advance_kept (task : RefreshTask) : Db.Kept task.session db (task.advance cfg H now db).2 := by
  cases task with
  | verified token =>
    have htx := transaction_refreshTx H now token db
    rw [advance]
    split
    · rename_i e db' heq
      rw [heq] at htx
      obtain rfl : db' = db := htx
      exact .refl ..
    · rename_i user db' heq
      rw [heq] at htx
      obtain rfl : db' = db := htx
      exact .refl ..
  | validated sessionId user =>
    rw [advance]
    split
    · exact .refl ..
    · exact .refl ..
  | signed sessionId r =>
    rw [advance]
    split
    · exact .refl ..
    · rename_i db' hr
      obtain ⟨session, hs, -, husers, hrow, hothers⟩ := rotate_eq_some hr
      exact .of_row husers hothers fun se hse => ⟨session, hs, by rw [hrow] at hse; cases hse; rfl⟩
  | returned r => exact .refl ..
  | refused e => exact .refl ..

/-- A call stays with its session and signs for it. -/
theorem advance_session (task : RefreshTask) (htask : task.Signs) :
    (∀ k, (task.advance cfg H now db).1.session = some k → task.session = some k) ∧
      (task.advance cfg H now db).1.Signs := by
  cases task with
  | verified token =>
    rw [advance]
    split
    · exact ⟨by rintro k ⟨⟩, by rintro sessionId r ⟨⟩⟩
    · exact ⟨fun k hk => hk, by rintro sessionId r ⟨⟩⟩
  | validated sessionId user =>
    rw [advance]
    split
    · exact ⟨by rintro k ⟨⟩, by rintro sessionId r ⟨⟩⟩
    · exact ⟨fun k hk => hk, by rintro sessionId r ⟨⟩; rfl⟩
  | signed sessionId r =>
    rw [advance]
    split
    · exact ⟨by rintro k ⟨⟩, by rintro sessionId r ⟨⟩⟩
    · exact ⟨by rintro k ⟨⟩, by rintro sessionId r ⟨⟩⟩
  | returned r => exact ⟨fun k hk => hk, htask⟩
  | refused e => exact ⟨fun k hk => hk, htask⟩

/-- A call that returns now had signed for a session that is there. -/
theorem session_of_returns {task : RefreshTask} {r : TokenResponse} (htask : task.Signs)
    (h : (task.advance cfg H now db).1 = .returned r) :
    task = .returned r ∨ db.sessions r.refreshToken.payload.sessionId ≠ none := by
  cases task with
  | verified token =>
    rw [advance] at h
    split at h
    · cases h
    · cases h
  | validated sessionId user =>
    rw [advance] at h
    split at h
    · cases h
    · cases h
  | signed sessionId r' =>
    rw [advance] at h
    split at h
    · cases h
    · rename_i db' hr
      obtain ⟨session, hs, -⟩ := rotate_eq_some hr
      cases h
      refine Or.inr ?_
      rw [show r'.refreshToken.payload.sessionId = sessionId from htask sessionId r' rfl, hs]
      rintro ⟨⟩
  | returned r' => exact Or.inl h
  | refused e => cases h

end RefreshTask

/-! ## Ending a session -/

inductive EndWay where
  | logout
  | revokeSession
  deriving DecidableEq, Repr

inductive EndError where
  | sessionNotFound
  | forbidden
  /-- The row to delete is not there (code P2025). -/
  | recordNotFound
  deriving DecidableEq, Repr

def EndError.message : EndError → String
  | .sessionNotFound => "Session not found"
  | .forbidden => "Cannot revoke another user's session"
  | .recordNotFound => "Internal server error"

/-- The statement a call comes to next, or how it ended. -/
inductive EndPhase where
  /-- `findUnique`, of `revokeSession` only. -/
  | find
  /-- `updateMany` of the hash. -/
  | purge
  /-- `deleteMany`, or `delete`. -/
  | delete
  | returned
  | thrown (e : EndError)
  deriving DecidableEq, Repr

/-- A call of `logout` or `revokeSession` by a user. -/
structure EndTask where
  way : EndWay
  userId : String
  sessionId : String
  phase : EndPhase
  deriving DecidableEq, Repr

namespace Db

/-- Clear the hash of a session that `q` picks. -/
def purge (db : Db Hash) (sessionId : String) (q : UserSession Hash → Bool) : Db Hash :=
  match h : db.sessions sessionId with
  | none => db
  | some session =>
    have hk : session.id = sessionId := db.sessions_key h
    if q session then
      db.setSession sessionId (some { session with refreshTokenHash := none })
        (fun _ he => Option.some.inj he ▸ hk)
    else db

/-- Delete a session that `q` picks. -/
def delete (db : Db Hash) (sessionId : String) (q : UserSession Hash → Bool) : Db Hash :=
  if (db.sessions sessionId).any q then db.setSession sessionId none (keyed_none sessionId) else db

end Db

namespace EndTask

/-- The `where` of a call: `logout` asks for the user too. -/
def picks (task : EndTask) (session : UserSession Hash) : Bool :=
  match task.way with
  | .logout => session.userId == task.userId
  | .revokeSession => true

/-- The next statement of a call; one that ended has none. -/
def advance (task : EndTask) (db : Db Hash) : EndPhase × Db Hash :=
  match task.phase with
  | .find =>
    match db.sessions task.sessionId with
    | none => (.thrown .sessionNotFound, db)
    | some session =>
      if session.userId = task.userId then (.purge, db) else (.thrown .forbidden, db)
  | .purge => (.delete, db.purge task.sessionId task.picks)
  | .delete =>
    if task.way = .revokeSession ∧ (db.sessions task.sessionId).isNone then
      (.thrown .recordNotFound, db)
    else (.returned, db.delete task.sessionId task.picks)
  | phase => (phase, db)

end EndTask

namespace EndTask

variable {db : Db Hash}

theorem advance_kept (task : EndTask) : Db.Kept (some task.sessionId) db (task.advance db).2 := by
  cases hphase : task.phase with
  | find =>
    simp only [advance, hphase]
    split
    · exact .refl ..
    · split <;> exact .refl ..
  | purge =>
    simp only [advance, hphase, Db.purge]
    split
    · exact .refl ..
    · rename_i session hs
      split
      · refine .of_row rfl (fun k hk => Db.setSession_of_ne _ hk ..) fun se hse => ?_
        rw [Db.setSession_self] at hse
        cases hse
        exact ⟨session, hs, rfl⟩
      · exact .refl ..
  | delete =>
    simp only [advance, hphase, Db.delete]
    split
    · exact .refl ..
    · dsimp only
      split
      · refine .of_row rfl (fun k hk => Db.setSession_of_ne _ hk ..) fun se hse => ?_
        rw [Db.setSession_self] at hse
        cases hse
      · exact .refl ..
  | returned =>
    simp only [advance, hphase]
    exact .refl ..
  | thrown e =>
    simp only [advance, hphase]
    exact .refl ..

/-- A call that returns leaves no session of its user. -/
theorem deleted_of_returns {task : EndTask} (h : (task.advance db).1 = .returned)
    (hown : ∀ se, db.sessions task.sessionId = some se → se.userId = task.userId) :
    task.phase = .returned ∨ (task.advance db).2.sessions task.sessionId = none := by
  cases hphase : task.phase with
  | find =>
    simp only [advance, hphase] at h
    split at h
    · cases h
    · split at h <;> cases h
  | purge =>
    simp only [advance, hphase] at h
    cases h
  | delete =>
    refine Or.inr ?_
    simp only [advance, hphase, Db.delete]
    split
    · rename_i hnone
      exact Option.isNone_iff_eq_none.mp hnone.2
    · dsimp only
      split
      · exact Db.setSession_self ..
      · rename_i hkeep
        refine Option.eq_none_iff_forall_ne_some.mpr fun se hse => hkeep ?_
        rw [hse, Option.any_some, picks]
        cases task.way with
        | logout => exact beq_iff_eq.mpr (hown se hse)
        | revokeSession => rfl
  | returned => exact Or.inl rfl
  | thrown e =>
    simp only [advance, hphase] at h
    cases h

end EndTask

/-! ## The calls together -/

structure EndingState (Hash : Type) where
  /-- Milliseconds. -/
  clock : Nat
  db : Db Hash
  refreshes : List RefreshTask
  endings : List EndTask

inductive EndingEvent where
  | refresh (token : Jwt)
  | logout (userId sessionId : String)
  | revokeSession (userId sessionId : String)
  /-- The next step of a refresh. -/
  | refreshStep (i : Nat)
  /-- The next statement of a `logout` or `revokeSession`. -/
  | endStep (i : Nat)
  | later (ms : Nat)
  deriving DecidableEq, Repr

/-- A call that starts is about a session. -/
def EndingEvent.About (sessionId : String) : EndingEvent → Prop
  | .refresh token => token.payload.sessionId = sessionId
  | .logout _ k => k = sessionId
  | .revokeSession _ k => k = sessionId
  | _ => True

namespace EndingState

def start (clock : Nat) (db : Db Hash) : EndingState Hash := ⟨clock, db, [], []⟩

def step (cfg : AuthConfig) (H : TokenHash Hash) (s : EndingState Hash) :
    EndingEvent → Option (EndingState Hash)
  | .refresh token => some { s with refreshes := s.refreshes ++ [.call s.clock token] }
  | .logout userId sessionId =>
    some { s with endings := s.endings ++ [⟨.logout, userId, sessionId, .purge⟩] }
  | .revokeSession userId sessionId =>
    some { s with endings := s.endings ++ [⟨.revokeSession, userId, sessionId, .find⟩] }
  | .refreshStep i =>
    (s.refreshes[i]?).map fun task =>
      let result := task.advance cfg H s.clock s.db
      { s with refreshes := s.refreshes.set i result.1, db := result.2 }
  | .endStep i =>
    (s.endings[i]?).map fun task =>
      let result := task.advance s.db
      { s with endings := s.endings.set i { task with phase := result.1 }, db := result.2 }
  | .later ms => some { s with clock := s.clock + ms }

/-- A `logout` or `revokeSession` of a session by a user has returned. -/
def Ended (s : EndingState Hash) (userId sessionId : String) : Prop :=
  ∃ way, ⟨way, userId, sessionId, .returned⟩ ∈ s.endings

/-! ## What the calls keep -/

variable {cfg : AuthConfig} {H : TokenHash Hash} {db : Db Hash} {s t : EndingState Hash}
  {e : EndingEvent}

theorem step_kept (h : step cfg H s e = some t) : ∃ session, Db.Kept session s.db t.db := by
  cases e with
  | refreshStep i =>
    obtain ⟨task, -, rfl⟩ := Option.map_eq_some_iff.mp h
    exact ⟨_, task.advance_kept⟩
  | endStep i =>
    obtain ⟨task, -, rfl⟩ := Option.map_eq_some_iff.mp h
    exact ⟨_, task.advance_kept⟩
  | refresh token =>
    cases h
    exact ⟨none, .refl ..⟩
  | logout userId sessionId =>
    cases h
    exact ⟨none, .refl ..⟩
  | revokeSession userId sessionId =>
    cases h
    exact ⟨none, .refl ..⟩
  | later ms =>
    cases h
    exact ⟨none, .refl ..⟩

/-- From the tables `db`: no session is new or changes its user, and the sessions that were ended
are gone. -/
structure Inv (db : Db Hash) (s : EndingState Hash) : Prop where
  rows : ∀ k se, s.db.sessions k = some se → ∃ old, db.sessions k = some old ∧ se.userId = old.userId
  signs : ∀ task ∈ s.refreshes, task.Signs
  gone : ∀ task ∈ s.endings, task.phase = .returned →
    (∀ se, db.sessions task.sessionId = some se → se.userId = task.userId) →
    s.db.sessions task.sessionId = none

theorem call_signs (now : Nat) (token : Jwt) : (RefreshTask.call now token).Signs := by
  rw [RefreshTask.call]
  split <;> rintro sessionId r ⟨⟩

theorem inv_step (hs : s.Inv db) (h : step cfg H s e = some t) : t.Inv db := by
  cases e with
  | refresh token =>
    cases h
    exact ⟨hs.rows, forall_mem_concat hs.signs (call_signs _ _), hs.gone⟩
  | logout userId sessionId =>
    cases h
    exact ⟨hs.rows, hs.signs, forall_mem_concat hs.gone fun hphase => by cases hphase⟩
  | revokeSession userId sessionId =>
    cases h
    exact ⟨hs.rows, hs.signs, forall_mem_concat hs.gone fun hphase => by cases hphase⟩
  | refreshStep i =>
    obtain ⟨task, hi, rfl⟩ := Option.map_eq_some_iff.mp h
    have hkept : Db.Kept task.session s.db (task.advance cfg H s.clock s.db).2 := task.advance_kept
    have hsigns : (task.advance cfg H s.clock s.db).1.Signs :=
      (task.advance_session (hs.signs task (List.mem_of_getElem? hi))).2
    refine ⟨fun k se hse => ?_, forall_mem_set hs.signs hsigns, fun task' htask' hphase hown => ?_⟩
    · obtain ⟨mid, hmid, huser⟩ := hkept.rows k se hse
      obtain ⟨old, hold, huser'⟩ := hs.rows k mid hmid
      exact ⟨old, hold, huser.trans huser'⟩
    · exact hkept.deleted (hs.gone task' htask' hphase hown)
  | endStep i =>
    obtain ⟨task, hi, rfl⟩ := Option.map_eq_some_iff.mp h
    have hkept : Db.Kept (some task.sessionId) s.db (task.advance s.db).2 := task.advance_kept
    refine ⟨fun k se hse => ?_, hs.signs, fun task' htask' hphase hown => ?_⟩
    · obtain ⟨mid, hmid, huser⟩ := hkept.rows k se hse
      obtain ⟨old, hold, huser'⟩ := hs.rows k mid hmid
      exact ⟨old, hold, huser.trans huser'⟩
    · rcases List.mem_or_eq_of_mem_set htask' with htask' | rfl
      · exact hkept.deleted (hs.gone task' htask' hphase hown)
      · have hown' : ∀ se, s.db.sessions task.sessionId = some se → se.userId = task.userId := by
          intro se hse
          obtain ⟨old, hold, huser⟩ := hs.rows _ se hse
          exact huser.trans (hown old hold)
        rcases task.deleted_of_returns hphase hown' with hbefore | hgone
        · exact hkept.deleted (hs.gone task (List.mem_of_getElem? hi) hbefore hown)
        · exact hgone
  | later ms =>
    cases h
    exact ⟨hs.rows, hs.signs, hs.gone⟩

/-- Once a session is gone, a step lets no call return tokens for it. -/
theorem returned_step {sessionId : String} (hsigns : ∀ task ∈ s.refreshes, task.Signs)
    (hgone : s.db.sessions sessionId = none) (h : step cfg H s e = some t) {i : Nat}
    {r : TokenResponse} (hr : t.refreshes[i]? = some (.returned r))
    (hsession : r.refreshToken.payload.sessionId = sessionId) :
    s.refreshes[i]? = some (.returned r) := by
  cases e with
  | refresh token =>
    cases h
    rcases Nat.lt_or_ge i s.refreshes.length with hlt | hge
    · rwa [List.getElem?_append_left hlt] at hr
    · rw [List.getElem?_append_right hge] at hr
      have hcall := List.mem_singleton.mp (List.mem_of_getElem? hr)
      rw [RefreshTask.call] at hcall
      split at hcall <;> cases hcall
  | logout userId k =>
    cases h
    exact hr
  | revokeSession userId k =>
    cases h
    exact hr
  | refreshStep j =>
    obtain ⟨task, hj, rfl⟩ := Option.map_eq_some_iff.mp h
    by_cases hij : j = i
    · subst hij
      have hadvance := Option.some.inj
        ((List.getElem?_set_self (List.getElem?_eq_some_iff.mp hj).1).symm.trans hr)
      rcases RefreshTask.session_of_returns (hsigns task (List.mem_of_getElem? hj)) hadvance with
        rfl | hthere
      · exact hj
      · exact absurd (hsession ▸ hgone) hthere
    · rwa [List.getElem?_set_ne hij] at hr
  | endStep j =>
    obtain ⟨task, hj, rfl⟩ := Option.map_eq_some_iff.mp h
    exact hr
  | later ms =>
    cases h
    exact hr

/-- Calls about one session only, and the rows of the others as they were. -/
structure Only (sessionId : String) (db : Db Hash) (s : EndingState Hash) : Prop where
  users : s.db.users = db.users
  others : ∀ k, k ≠ sessionId → s.db.sessions k = db.sessions k
  signs : ∀ task ∈ s.refreshes, task.Signs
  refreshes : ∀ task ∈ s.refreshes, ∀ k, task.session = some k → k = sessionId
  endings : ∀ task ∈ s.endings, task.sessionId = sessionId

theorem only_step {sessionId : String} (hs : s.Only sessionId db) (habout : e.About sessionId)
    (h : step cfg H s e = some t) : t.Only sessionId db := by
  cases e with
  | refresh token =>
    cases h
    refine ⟨hs.users, hs.others, forall_mem_concat hs.signs (call_signs _ _),
      forall_mem_concat hs.refreshes ?_, hs.endings⟩
    rw [RefreshTask.call]
    split
    · rintro k ⟨⟩
    · rintro k ⟨⟩
      exact habout
  | logout userId k =>
    cases h
    exact ⟨hs.users, hs.others, hs.signs, hs.refreshes, forall_mem_concat hs.endings habout⟩
  | revokeSession userId k =>
    cases h
    exact ⟨hs.users, hs.others, hs.signs, hs.refreshes, forall_mem_concat hs.endings habout⟩
  | refreshStep i =>
    obtain ⟨task, hi, rfl⟩ := Option.map_eq_some_iff.mp h
    have htask := List.mem_of_getElem? hi
    have hkept : Db.Kept task.session s.db (task.advance cfg H s.clock s.db).2 := task.advance_kept
    obtain ⟨hsession, hsigns⟩ :
        (∀ k, (task.advance cfg H s.clock s.db).1.session = some k → task.session = some k) ∧
          (task.advance cfg H s.clock s.db).1.Signs := task.advance_session (hs.signs task htask)
    refine ⟨hkept.users.trans hs.users, fun k hk => ?_, forall_mem_set hs.signs hsigns,
      forall_mem_set hs.refreshes fun k hk => ?_, hs.endings⟩
    · exact (hkept.others k fun he => hk (hs.refreshes task htask k he)).trans (hs.others k hk)
    · exact hs.refreshes task htask k (hsession k hk)
  | endStep i =>
    obtain ⟨task, hi, rfl⟩ := Option.map_eq_some_iff.mp h
    have hown := hs.endings task (List.mem_of_getElem? hi)
    have hkept : Db.Kept (some task.sessionId) s.db (task.advance s.db).2 := task.advance_kept
    refine ⟨hkept.users.trans hs.users, fun k hk => ?_, hs.signs, hs.refreshes,
      forall_mem_set hs.endings hown⟩
    exact (hkept.others k fun he => hk ((Option.some.inj he).symm.trans hown)).trans (hs.others k hk)
  | later ms =>
    cases h
    exact ⟨hs.users, hs.others, hs.signs, hs.refreshes, hs.endings⟩

theorem inv_start (clock : Nat) (db : Db Hash) : (start clock db).Inv db :=
  ⟨fun _ se h => ⟨se, h, rfl⟩, fun _ h => absurd h List.not_mem_nil,
    fun _ h => absurd h List.not_mem_nil⟩

theorem only_start (clock : Nat) (sessionId : String) (db : Db Hash) :
    (start clock db).Only sessionId db :=
  ⟨rfl, fun _ _ => rfl, fun _ h => absurd h List.not_mem_nil, fun _ h => absurd h List.not_mem_nil,
    fun _ h => absurd h List.not_mem_nil⟩

/-- A run whose calls are all about one session keeps the rows of the others. -/
theorem only_run {sessionId : String} {es : List EndingEvent}
    (hrun : Run (Steps (step cfg H)) s es t) (habout : ∀ e ∈ es, e.About sessionId)
    (hs : s.Only sessionId db) : t.Only sessionId db := by
  induction hrun with
  | nil => exact hs
  | cons hstep _ ih =>
    refine ih (fun e he => habout e (List.mem_cons_of_mem _ he)) ?_
    exact only_step hs (habout _ List.mem_cons_self) hstep

/-- **Once a `logout` or `revokeSession` of a session has returned, no token of the session is
accepted, no refresh of it that was under way returns, and calls about this session alone leave
every other session as it was.** -/
theorem ended_session_final {clock : Nat} {userId sessionId : String} {es fs : List EndingEvent}
    {u : EndingState Hash} (hown : ∀ se, db.sessions sessionId = some se → se.userId = userId)
    (hrun : Run (Steps (step cfg H)) (start clock db) es t) (hended : t.Ended userId sessionId)
    (hafter : Run (Steps (step cfg H)) t fs u) :
    (∀ c : RefreshCall, c.token.payload.sessionId = sessionId → ¬ Accepts H u.db c) ∧
    (∀ (i : Nat) (r : TokenResponse), u.refreshes[i]? = some (.returned r) →
      r.refreshToken.payload.sessionId = sessionId → t.refreshes[i]? = some (.returned r)) ∧
    ((∀ e ∈ es ++ fs, e.About sessionId) → ∀ c : RefreshCall,
      c.token.payload.sessionId ≠ sessionId → (Accepts H u.db c ↔ Accepts H db c)) := by
  have ht : t.Inv db := hrun.invariant (I := Inv db) inv_step (inv_start clock db)
  obtain ⟨way, htask⟩ := hended
  have hgone : t.db.sessions sessionId = none := ht.gone _ htask rfl hown
  -- from here on the session stays gone, and what is returned for it was returned before
  have hu : u.Inv db ∧ u.db.sessions sessionId = none ∧ ∀ (i : Nat) (r : TokenResponse),
      u.refreshes[i]? = some (.returned r) → r.refreshToken.payload.sessionId = sessionId →
      t.refreshes[i]? = some (.returned r) := by
    refine hafter.invariant (I := fun v => v.Inv db ∧ v.db.sessions sessionId = none ∧
      ∀ (i : Nat) (r : TokenResponse), v.refreshes[i]? = some (.returned r) →
        r.refreshToken.payload.sessionId = sessionId → t.refreshes[i]? = some (.returned r))
      ?_ ⟨ht, hgone, fun i r hr _ => hr⟩
    rintro v e w ⟨hv, hvgone, hreturned⟩ hstep
    obtain ⟨session, hkept⟩ := step_kept hstep
    refine ⟨inv_step hv hstep, hkept.deleted hvgone, fun i r hr hsession => ?_⟩
    exact hreturned i r (returned_step hv.signs hvgone hstep hr hsession) hsession
  refine ⟨?_, hu.2.2, ?_⟩
  · rintro c rfl ⟨-, session, hs, -⟩
    rw [hu.2.1] at hs
    cases hs
  · intro habout c hc
    have honly : u.Only sessionId db := by
      refine only_run hafter (fun e he => habout e (List.mem_append_right _ he)) ?_
      exact only_run hrun (fun e he => habout e (List.mem_append_left _ he)) (only_start ..)
    exact accepts_congr ⟨honly.users, honly.others _ hc⟩

end EndingState

/-! ### A rotation between the two statements of a logout -/

/-- The tables with the session of a login at 0 s. -/
def loggedInDb : Db Jwt := (createSession sampleConfig identityHash 0 sampleUser sampleSid sampleDb).2

def logoutAmidRefresh : List EndingEvent :=
  [.refresh (sampleToken 0), .later 60000, .refreshStep 0, .logout sampleUser.id sampleSid,
    .refreshStep 0, .endStep 0, .refreshStep 0, .endStep 0]

theorem logoutAmidRefresh_final : ∃ t,
    Run (Steps (EndingState.step sampleConfig identityHash)) (.start 0 loggedInDb) logoutAmidRefresh t ∧
      ∀ now signedAt rotatedAt,
        ¬ Accepts identityHash t.db ⟨sampleToken 60000, now, signedAt, rotatedAt⟩ := by
  have hend : (logoutAmidRefresh.foldlM (EndingState.step sampleConfig identityHash)
      (.start 0 loggedInDb)).any (fun t => decide
        (⟨.logout, sampleUser.id, sampleSid, .returned⟩ ∈ t.endings)) = true := by
    decide +kernel
  obtain ⟨t, hrun, ht⟩ := Run.of_foldlM_any hend
  refine ⟨t, hrun, fun now signedAt rotatedAt => ?_⟩
  have hown : ∀ se, loggedInDb.sessions sampleSid = some se → se.userId = sampleUser.id := by
    have hrow : (loggedInDb.sessions sampleSid).map (·.userId) = some sampleUser.id := by
      decide +kernel
    intro se hse
    rw [hse] at hrow
    exact Option.some.inj hrow
  exact (EndingState.ended_session_final hown hrun ⟨.logout, of_decide_eq_true ht⟩ (.nil t)).1 _ rfl

end DeliveryTracking.Auth
