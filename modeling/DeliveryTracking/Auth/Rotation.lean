/-
# `DeliveryTracking.Auth.Rotation` — rotations and replays, over whole runs

Two properties `refresh` promises of a session, each with the exact condition
under which its runs have it.

* **Only the two newest tokens pass** (`rotation_onlyTwoNewest_iff`).  bcrypt
  reads 72 bytes, all refresh tokens of a session agree on them
  (`Jwt.prefix72`), so the comparison lets every issued token through; what is
  left are the guards in front of it (`Open`).
* **Reuse revokes the session** (`reuse_revokes_iff`).  The reuse branch clears
  the row and throws inside its transaction, which rolls the writes back
  (`refresh_of_error`), so the session lives on.
-/
import DeliveryTracking.Runs
import DeliveryTracking.Auth.Refresh

namespace DeliveryTracking.Auth

variable {Hash : Type}

/-! ## The run of one session -/

/-- The tables, and the refresh tokens issued for one session, newest first: the
head is its current token, the next one the token before. -/
structure Rotation (Hash : Type) where
  db : Db Hash
  issued : List Jwt

def Rotation.step (cfg : AuthConfig) (H : TokenHash Hash) (s : Rotation Hash) (c : RefreshCall) :
    Except AuthError TokenResponse × Rotation Hash :=
  match refresh cfg H s.db c with
  | (.ok r, db') => (.ok r, ⟨db', r.refreshToken :: s.issued⟩)
  | (.error e, db') => (.error e, ⟨db', s.issued⟩)

/-- The session right after login. -/
def Rotation.start (cfg : AuthConfig) (H : TokenHash Hash) (now : Nat) (user : User)
    (sid : String) (db : Db Hash) : Rotation Hash :=
  match createSession cfg H now user sid db with
  | (.ok r, db') => ⟨db', [r.refreshToken]⟩
  | (.error _, db') => ⟨db', []⟩

/-- The steps of a session's run. -/
abbrev RotationTick (Hash : Type) :=
  Tick (Rotation Hash) RefreshCall (Except AuthError TokenResponse)

/-- Every presented token was issued for the session before. -/
def PresentsIssued (tr : List (RotationTick Hash)) : Prop :=
  ∀ x ∈ tr, x.input.token ∈ x.before.issued

/-- A call succeeds only with the current token or the one before. -/
def OnlyTwoNewest (tr : List (RotationTick Hash)) : Prop :=
  ∀ x ∈ tr, x.output.isOk = true → x.input.token ∈ x.before.issued.take 2

/-- Every older token is presented after its expiry, after the session's, or for an
inactive user. -/
def OlderOnesClosed (tr : List (RotationTick Hash)) : Prop :=
  ∀ x ∈ tr, x.input.token ∉ x.before.issued.take 2 →
    ¬ Open x.before.db x.input.now x.input.token

theorem isOk_iff {ε α : Type*} {x : Except ε α} : x.isOk = true ↔ ∃ a, x = .ok a := by
  cases x <;> simp [Except.isOk, Except.toBool]

theorem Rotation.step_fst (cfg : AuthConfig) (H : TokenHash Hash) (s : Rotation Hash)
    (c : RefreshCall) : (Rotation.step cfg H s c).1 = (refresh cfg H s.db c).1 := by
  unfold Rotation.step
  rcases refresh cfg H s.db c with ⟨_ | _, _⟩ <;> rfl

/-- What a session's run keeps: the slots hold the hashes of the two newest tokens, and
every issued token carries the user and the session. -/
structure Rotation.Inv (H : TokenHash Hash) (user : User) (sid : String) (s : Rotation Hash) :
    Prop where
  users : s.db.users user.id = some user
  row : ∃ session, s.db.sessions sid = some session ∧ session.userId = user.id ∧
    session.refreshTokenHash = s.issued.head?.map H.hash ∧
    session.previousRefreshTokenHash = s.issued.tail.head?.map H.hash
  issued : s.issued ≠ []
  carries : ∀ t ∈ s.issued, t.payload.sub = user.id ∧ t.payload.sessionId = sid

theorem Rotation.inv_start (cfg : AuthConfig) (H : TokenHash Hash) (now : Nat) {user : User}
    (sid : String) {db : Db Hash} (hu : db.users user.id = some user) :
    (Rotation.start cfg H now user sid db).Inv H user sid := by
  have hs : (db.setSession sid
      (some ⟨sid, user.id, none, none, now + cfg.refreshExpirationSeconds * 1000⟩)
      (by rintro _ ⟨rfl⟩; rfl)).sessions sid
        = some ⟨sid, user.id, none, none, now + cfg.refreshExpirationSeconds * 1000⟩ :=
    Db.setSession_self ..
  obtain ⟨db', hgen, husers, hrow, -⟩ := generateTokens_session cfg H now now hs hu
  simp only [Rotation.start, createSession, hgen]
  refine ⟨?_, ⟨_, hrow, rfl, rfl, rfl⟩, by simp, ?_⟩
  · rw [husers]; exact hu
  · intro t ht
    rw [List.mem_singleton] at ht
    subst ht
    exact ⟨rfl, rfl⟩

/-- Step lemma. -/
theorem Rotation.inv_step {cfg : AuthConfig} {H : TokenHash Hash} {user : User} {sid : String}
    {s : Rotation Hash} (c : RefreshCall) (hc : c.token ∈ s.issued) (hs : s.Inv H user sid) :
    (Rotation.step cfg H s c).2.Inv H user sid := by
  have hsid : c.token.payload.sessionId = sid := (hs.carries _ hc).2
  rcases hr : refresh cfg H s.db c with ⟨e | r, db'⟩
  · have herr : (refresh cfg H s.db c).1 = .error e := by rw [hr]
    have hdb : db' = s.db := by
      have := refresh_of_error herr
      rwa [hr] at this
    simp only [Rotation.step, hr, hdb]
    exact ⟨hs.users, hs.row, hs.issued, hs.carries⟩
  · have hok : (refresh cfg H s.db c).1 = .ok r := by rw [hr]
    obtain ⟨session, u, hse, hu, htok, husers, hrow, -⟩ := refresh_of_ok hok
    obtain ⟨session', hse', huid, hcur, -⟩ := hs.row
    rw [hsid] at hse htok hrow
    obtain rfl : session = session' := by rw [hse] at hse'; exact Option.some.inj hse'
    obtain rfl : u = user := by
      rw [huid, hs.users] at hu; exact (Option.some.inj hu).symm
    simp only [hr] at husers hrow
    simp only [Rotation.step, hr]
    refine ⟨by rw [husers]; exact hs.users, ⟨_, hrow, huid, rfl, hcur⟩, by simp, ?_⟩
    intro t ht
    rcases List.mem_cons.mp ht with rfl | ht
    · rw [htok]; exact ⟨rfl, rfl⟩
    · exact hs.carries t ht

/-- Run lemma. -/
theorem Rotation.inv_trace {cfg : AuthConfig} {H : TokenHash Hash} {user : User} {sid : String} :
    ∀ {calls : List RefreshCall} {s : Rotation Hash}, s.Inv H user sid →
      PresentsIssued (trace (Rotation.step cfg H) s calls) →
      ∀ x ∈ trace (Rotation.step cfg H) s calls, x.before.Inv H user sid
  | [], _, _, _ => by simp [trace]
  | c :: cs, s, hs, hp => by
      intro x hx
      rcases List.mem_cons.mp hx with rfl | hx
      · exact hs
      · have hc : c.token ∈ s.issued := hp ⟨s, c, _⟩ (List.mem_cons_self ..)
        exact Rotation.inv_trace (Rotation.inv_step c hc hs)
          (fun y hy => hp y (List.mem_cons_of_mem _ hy)) x hx

/-- Under bcrypt every token issued for the session matches its current slot. -/
theorem Rotation.Inv.inSlots {hs256 : List UInt8 → List UInt8} {H : TokenHash Hash}
    (hH : H.Bcrypt hs256) {user : User} (hid : user.id.length = 36) {sid : String}
    {s : Rotation Hash} (hs : s.Inv H user sid) {t : Jwt} (ht : t ∈ s.issued) :
    InSlots H s.db t := by
  obtain ⟨hsub, hsid⟩ := hs.carries t ht
  obtain ⟨session, hse, -, hcur, -⟩ := hs.row
  refine ⟨session, by rw [hsid]; exact hse, Or.inl ?_⟩
  cases hi : s.issued with
  | nil => exact absurd hi hs.issued
  | cons newest older =>
      rw [hcur, hi]
      have hnew := (hs.carries newest (by rw [hi]; exact List.mem_cons_self ..)).1
      exact (hH t newest).mpr (Jwt.prefix72 hs256 (hsub.trans hnew.symm) (by rw [hsub]; omega))

/-- **In a session's run only the two newest tokens pass exactly when every older token
is presented too late for another guard.** -/
theorem rotation_onlyTwoNewest_iff (cfg : AuthConfig) {hs256 : List UInt8 → List UInt8}
    {H : TokenHash Hash} (hH : H.Bcrypt hs256) {user : User} (hid : user.id.length = 36)
    {db : Db Hash} (hu : db.users user.id = some user) (now : Nat) (sid : String)
    (calls : List RefreshCall)
    (hp : PresentsIssued (trace (Rotation.step cfg H)
      (Rotation.start cfg H now user sid db) calls)) :
    OnlyTwoNewest (trace (Rotation.step cfg H) (Rotation.start cfg H now user sid db) calls) ↔
      OlderOnesClosed
        (trace (Rotation.step cfg H) (Rotation.start cfg H now user sid db) calls) := by
  have hinv := Rotation.inv_trace (Rotation.inv_start cfg H now sid hu) hp
  have hok : ∀ x ∈ trace (Rotation.step cfg H) (Rotation.start cfg H now user sid db) calls,
      x.output.isOk = true ↔ Open x.before.db x.input.now x.input.token := by
    intro x hx
    rw [trace_output x hx, Rotation.step_fst, isOk_iff, refresh_ok_iff]
    exact ⟨And.left, fun h => ⟨h, (hinv x hx).inSlots hH hid (hp x hx)⟩⟩
  constructor
  · intro h x hx hold hopen
    exact hold (h x hx ((hok x hx).mpr hopen))
  · intro h x hx hout
    by_contra hold
    exact h x hx hold ((hok x hx).mp hout)

instance (tr : List (RotationTick Hash)) : Decidable (PresentsIssued tr) :=
  inferInstanceAs (Decidable (∀ x ∈ tr, x.input.token ∈ x.before.issued))

instance (tr : List (RotationTick Hash)) : Decidable (OnlyTwoNewest tr) :=
  inferInstanceAs
    (Decidable (∀ x ∈ tr, x.output.isOk = true → x.input.token ∈ x.before.issued.take 2))

/-! ### A replay three generations late -/

def sampleUser : User :=
  ⟨"0b6f9d6e-5a3c-4f0e-9c57-2f6d3f1a7e10", "hery@example.mg", "driver",
   "6d1c1c52-0f7b-4a57-8b3e-1a2b3c4d5e6f", "Hery", "Rakoto", true⟩

def sampleSid : String := "f4b1a2c3-7d8e-4f90-a1b2-c3d4e5f60718"

def sampleDb : Db Hash where
  users := Function.update (fun _ => none) sampleUser.id (some sampleUser)
  sessions := fun _ => none
  users_key := by
    intro k u h
    by_cases hk : k = sampleUser.id
    · subst hk
      rw [Function.update_self] at h
      exact Option.some.inj h ▸ rfl
    · rw [Function.update_of_ne hk] at h
      cases h
  sessions_key := fun {k se} h => Db.keyed_none k se h

/-- The default lifetimes: 15 minutes and 7 days. -/
def sampleConfig : AuthConfig := ⟨900, 604800, 604800⟩

/-- The session's token signed at `now`. -/
def sampleToken (now : Nat) : Jwt := tokenFor sampleUser sampleSid now sampleConfig.refreshExpiration

/-- Login at 0 s, refreshes at 60 s and 120 s, each with the current token; at 180 s the
token of the login is presented again. -/
def replayLate : List RefreshCall :=
  [⟨sampleToken 0, 60000, 60000, 60000⟩, ⟨sampleToken 60000, 120000, 120000, 120000⟩,
   ⟨sampleToken 0, 180000, 180000, 180000⟩]

/-- Two refreshes, each with the current token: both sides hold. -/
theorem rotation_onlyTwoNewest_iff_sample :
    OnlyTwoNewest (trace (Rotation.step sampleConfig (bcryptPrefix fun _ => []))
      (Rotation.start sampleConfig (bcryptPrefix fun _ => []) 0 sampleUser sampleSid sampleDb)
      [⟨sampleToken 0, 60000, 60000, 60000⟩, ⟨sampleToken 60000, 120000, 120000, 120000⟩]) ↔
    OlderOnesClosed (trace (Rotation.step sampleConfig (bcryptPrefix fun _ => []))
      (Rotation.start sampleConfig (bcryptPrefix fun _ => []) 0 sampleUser sampleSid sampleDb)
      [⟨sampleToken 0, 60000, 60000, 60000⟩, ⟨sampleToken 60000, 120000, 120000, 120000⟩]) :=
  rotation_onlyTwoNewest_iff sampleConfig (bcryptPrefix_bcrypt fun _ => []) (by decide +kernel)
    (by decide +kernel) 0 sampleSid _ (by decide +kernel)

theorem replay_three_generations_late :
    PresentsIssued (trace (Rotation.step sampleConfig (bcryptPrefix fun _ => []))
      (Rotation.start sampleConfig (bcryptPrefix fun _ => []) 0 sampleUser sampleSid sampleDb)
      replayLate) ∧
    ¬ OnlyTwoNewest (trace (Rotation.step sampleConfig (bcryptPrefix fun _ => []))
      (Rotation.start sampleConfig (bcryptPrefix fun _ => []) 0 sampleUser sampleSid sampleDb)
      replayLate) := by
  decide +kernel

/-! ## Reuse and revocation -/

/-- The steps of a run of `refresh` calls on any sessions. -/
abbrev RefreshTick (Hash : Type) :=
  Tick (Db Hash) RefreshCall (Except AuthError TokenResponse)

/-- The session a step is about. -/
def RefreshTick.session (x : RefreshTick Hash) : String := x.input.token.payload.sessionId

/-- Once a call has reported reuse, no later call on that session succeeds. -/
def RevokesOnReuse (tr : List (RefreshTick Hash)) : Prop :=
  tr.Pairwise fun x y => x.output = .error .reuseDetected →
    RefreshTick.session y = RefreshTick.session x → y.output.isOk = false

/-- After a call with a token that passes the guards and is in neither slot, no later call
on that session presents a token which was in a slot then and is not yet expired. -/
def SilentAfterReplay (H : TokenHash Hash) (tr : List (RefreshTick Hash)) : Prop :=
  tr.Pairwise fun x y => Open x.before x.input.now x.input.token →
    ¬ InSlots H x.before x.input.token → RefreshTick.session y = RefreshTick.session x →
    ¬ Accepts H x.before y.input

/-- Two states with the same users and the same row for `sid`. -/
def SameRow (sid : String) (db db' : Db Hash) : Prop :=
  db'.users = db.users ∧ db'.sessions sid = db.sessions sid

theorem accepts_congr {H : TokenHash Hash} {db db' : Db Hash} {c : RefreshCall}
    (h : SameRow c.token.payload.sessionId db db') : Accepts H db' c ↔ Accepts H db c := by
  obtain ⟨hu, hs⟩ := h
  simp only [Accepts, Open, SessionOpen, InSlots, hu, hs]

/-- A call on another session, or one that fails, keeps the row. -/
theorem sameRow_step {cfg : AuthConfig} {H : TokenHash Hash} {sid : String} {db db' : Db Hash}
    {c : RefreshCall} (h : SameRow sid db db')
    (hc : c.token.payload.sessionId = sid → (refresh cfg H db' c).1.isOk = false) :
    SameRow sid db (refresh cfg H db' c).2 := by
  cases hr : (refresh cfg H db' c).1 with
  | error e => rw [refresh_of_error hr]; exact h
  | ok r =>
      have hne : c.token.payload.sessionId ≠ sid := by
        intro he
        have := hc he
        rw [hr] at this
        cases this
      obtain ⟨_, _, -, -, -, husers, -, hother⟩ := refresh_of_ok hr
      exact ⟨husers.trans h.1, (hother sid (Ne.symm hne)).trans h.2⟩

/-- From a state with the row of `db`, the calls on `sid` all fail exactly when `db`
accepts none of them: a failing call keeps the row, so the first success would be
accepted by `db` itself. -/
theorem all_fail_iff (cfg : AuthConfig) (H : TokenHash Hash) {sid : String} {db : Db Hash} :
    ∀ (calls : List RefreshCall) {db' : Db Hash}, SameRow sid db db' →
      ((∀ y ∈ trace (refresh cfg H) db' calls, RefreshTick.session y = sid →
          y.output.isOk = false) ↔
        ∀ y ∈ trace (refresh cfg H) db' calls, RefreshTick.session y = sid →
          ¬ Accepts H db y.input)
  | [], _, _ => by simp [trace]
  | c :: cs, db', h => by
      have hhead : (c.token.payload.sessionId = sid → (refresh cfg H db' c).1.isOk = false) ↔
          (c.token.payload.sessionId = sid → ¬ Accepts H db c) := by
        refine forall_congr' fun he => ?_
        subst he
        rw [← accepts_congr h, ← @refresh_ok_iff _ cfg, ← isOk_iff, Bool.not_eq_true]
      simp only [trace, List.forall_mem_cons]
      constructor
      · rintro ⟨h₁, h₂⟩
        exact ⟨hhead.mp h₁, (all_fail_iff cfg H cs (sameRow_step h h₁)).mp h₂⟩
      · rintro ⟨h₁, h₂⟩
        have h₁' := hhead.mpr h₁
        exact ⟨h₁', (all_fail_iff cfg H cs (sameRow_step h h₁')).mpr h₂⟩

/-- **In a run of `refresh` calls reuse revokes the session exactly when, after each reuse,
nobody presents a token that was still in a slot.** -/
theorem reuse_revokes_iff (cfg : AuthConfig) (H : TokenHash Hash) (db : Db Hash)
    (calls : List RefreshCall) :
    RevokesOnReuse (trace (refresh cfg H) db calls) ↔
      SilentAfterReplay H (trace (refresh cfg H) db calls) := by
  induction calls generalizing db with
  | nil => simp [RevokesOnReuse, SilentAfterReplay, trace]
  | cons c cs ih =>
      simp only [RevokesOnReuse, SilentAfterReplay] at ih ⊢
      simp only [trace, List.pairwise_cons]
      refine and_congr ?_ (ih _)
      by_cases hreuse : (refresh cfg H db c).1 = .error .reuseDetected
      · have hback := refresh_of_error hreuse
        obtain ⟨hopen, hno⟩ := refresh_reuse_iff.mp hreuse
        have hsame : SameRow c.token.payload.sessionId db (refresh cfg H db c).2 := by
          rw [hback]; exact ⟨rfl, rfl⟩
        have htail := all_fail_iff cfg H cs hsame
        simpa [hreuse, hopen, hno, RefreshTick.session] using htail
      · have hguard : Open db c.now c.token → InSlots H db c.token := by
          intro hopen
          by_contra hno
          exact hreuse (refresh_reuse_iff.mpr ⟨hopen, hno⟩)
        constructor
        · intro _ y _ hopen hno
          exact absurd (hguard hopen) hno
        · intro _ y _ he
          exact absurd he hreuse

instance (tr : List (RefreshTick Hash)) : Decidable (RevokesOnReuse tr) :=
  inferInstanceAs (Decidable (tr.Pairwise fun x y => x.output = .error .reuseDetected →
    RefreshTick.session y = RefreshTick.session x → y.output.isOk = false))

/-- The two refreshes of `replayLate`, the replay (reported as reuse under a collision-free
hash), and then the current token again. -/
def reuseThenCurrent : List RefreshCall := replayLate ++ [⟨sampleToken 120000, 240000, 240000, 240000⟩]

theorem session_survives_reuse :
    ¬ RevokesOnReuse (trace (refresh sampleConfig identityHash)
      (Rotation.start sampleConfig identityHash 0 sampleUser sampleSid sampleDb).db
      reuseThenCurrent) := by
  decide +kernel

end DeliveryTracking.Auth
