/-
# `DeliveryTracking.Auth.Revocation` — a revoked token stays revoked

A change of password, the end of a session and the logout of a platform admin
each write a marker with a cutoff one second after now, for a time to live:

    changePassword, resetPassword   revoked:user       lifetime of an access token
    markAccessRevoked               revoked:session    lifetime of an access token
    revokeActiveImpersonations      revoked:session    30 minutes

The lifetime of an access token is parsed from `JWT_ACCESS_EXPIRATION` by a
pattern of one number and one letter, and is 15 minutes for anything else; the
JWT library reads more.  Tokens of an impersonation live 30 minutes.  A token
revoked once stays rejected when every marker outlives it (`revoked_rejected`).
-/
import DeliveryTracking.Runs
import DeliveryTracking.Auth.Guards

namespace DeliveryTracking.Auth

/-! ## Times to live -/

/-- Seconds of a unit. -/
def unitSeconds (unit : Char) : Option Nat :=
  if unit = 's' then some 1 else if unit = 'm' then some 60 else if unit = 'h' then some 3600
  else if unit = 'd' then some 86400 else none

/-- `parseInt` of decimal digits. -/
def decimal (digits : List Char) : Nat :=
  digits.foldl (fun n c => 10 * n + (c.toNat - '0'.toNat)) 0

/-- The seconds of a text that matches `^(\d+)([smhd])$`. -/
def matchedSeconds (raw : String) : Option Nat :=
  match raw.toList.reverse with
  | [] => none
  | unit :: digits =>
    if digits ≠ [] ∧ digits.all Char.isDigit then
      (unitSeconds unit).map (decimal digits.reverse * ·)
    else none

/-- The variable, or its default when it is not set or empty. -/
def accessTokenTtlSeconds (jwtAccessExpiration : Option String) : Nat :=
  let raw := (jwtAccessExpiration.filter (· ≠ "")).getD "15m"
  (matchedSeconds raw).getD 900

/-- The variable, or its default when it is not set. -/
def getAccessTokenExpirySeconds (jwtAccessExpiration : Option String) : Nat :=
  let raw := jwtAccessExpiration.getD "15m"
  (matchedSeconds raw).getD 900

/-- The two parsers agree. -/
theorem getAccessTokenExpirySeconds_eq (raw : Option String) :
    getAccessTokenExpirySeconds raw = accessTokenTtlSeconds raw := by
  cases raw with
  | none => rfl
  | some text =>
    by_cases h : text = ""
    · subst h
      rfl
    · simp [getAccessTokenExpirySeconds, accessTokenTtlSeconds, Option.filter, h]

/-! ## Markers -/

/-- The cutoff of a marker: after every token of this second. -/
def cutoffAt (now : Nat) : Nat := now / 1000 + 1

/-- `revokeUserAccessTokens`, and `revokeSessionAccessTokens`: a failure is ignored. -/
def revokeAccessTokens (redis : Redis) (now : Nat) (key : RevokedKey) (ttlSeconds : Nat) : Redis :=
  (redis.set now key (cutoffAt now) (max ttlSeconds 1)).getD redis

def revokeUserAccessTokens (redis : Redis) (now : Nat) (userId : String) (ttlSeconds : Nat) : Redis :=
  revokeAccessTokens redis now (.user userId) ttlSeconds

def revokeSessionAccessTokens (redis : Redis) (now : Nat) (sessionId : String) (ttlSeconds : Nat) :
    Redis :=
  revokeAccessTokens redis now (.session sessionId) ttlSeconds

/-- `AuthController.markAccessRevoked`; it throws where Redis refuses, and then nothing is written. -/
def markAccessRevoked (redis : Redis) (now : Nat) (jwtAccessExpiration : Option String)
    (userId : String) (sessionId : Option String) : Redis :=
  (redis.set now (sessionId.elim (.user userId) .session) (cutoffAt now)
    (getAccessTokenExpirySeconds jwtAccessExpiration)).getD redis

/-- The sessions are those in `impersonation:active`. -/
def revokeActiveImpersonations (redis : Redis) (now : Nat) (sessionIds : List String) : Redis :=
  sessionIds.foldl (fun r id => revokeSessionAccessTokens r now id impersonationSeconds) redis

/-! ## Runs -/

structure RevocationState (Hash : Type) where
  /-- Milliseconds. -/
  clock : Nat
  redis : Redis
  store : Store Hash

/-- What revokes tokens, and what else happens: time passes, and the tables are written. -/
inductive RevocationEvent (Hash : Type) where
  | changePassword (userId : String)
  | resetPassword (userId : String)
  | markAccessRevoked (userId : String) (sessionId : Option String)
  | revokeActiveImpersonations (sessionIds : List String)
  | later (ms : Nat)
  | written (store : Store Hash)

namespace RevocationState

variable {Hash : Type}

/-- `raw` is `JWT_ACCESS_EXPIRATION`. -/
def step (raw : Option String) (s : RevocationState Hash) :
    RevocationEvent Hash → Option (RevocationState Hash)
  | .changePassword userId | .resetPassword userId =>
    some { s with
      redis := revokeUserAccessTokens s.redis s.clock userId (accessTokenTtlSeconds raw) }
  | .markAccessRevoked userId sessionId =>
    some { s with redis := Auth.markAccessRevoked s.redis s.clock raw userId sessionId }
  | .revokeActiveImpersonations sessionIds =>
    some { s with redis := Auth.revokeActiveImpersonations s.redis s.clock sessionIds }
  | .later ms => some { s with clock := s.clock + ms }
  | .written store => some { s with store := store }

end RevocationState

/-- The markers an event writes, with their times to live. -/
def RevocationEvent.marks {Hash : Type} (raw : Option String) :
    RevocationEvent Hash → List (RevokedKey × Nat)
  | .changePassword userId | .resetPassword userId =>
    [(.user userId, max (accessTokenTtlSeconds raw) 1)]
  | .markAccessRevoked userId sessionId =>
    [(sessionId.elim (.user userId) .session, getAccessTokenExpirySeconds raw)]
  | .revokeActiveImpersonations sessionIds =>
    sessionIds.map fun id => (.session id, max impersonationSeconds 1)
  | .later _ | .written _ => []

/-- An event revokes a token: it writes a marker of its user or its session. -/
def RevocationEvent.Revokes {Hash : Type} (raw : Option String) (t : AccessToken)
    (e : RevocationEvent Hash) : Prop :=
  ∃ mark ∈ e.marks raw, mark.1 ∈ t.keys

/-- Each marker that an event writes of the user or the session of a token outlives the token. -/
def RevocationState.Outlasts {Hash : Type} (raw : Option String) (t : AccessToken)
    (s : RevocationState Hash) (e : RevocationEvent Hash) : Prop :=
  ∀ mark ∈ e.marks raw, mark.1 ∈ t.keys → t.exp * 1000 ≤ ((s.clock + mark.2 * 1000 : Nat) : Int)

/-! ## Markers hold -/

/-- One marker written; Redis refuses a time to live of zero. -/
def writeMark (redis : Redis) (now : Nat) (mark : RevokedKey × Nat) : Redis :=
  (redis.set now mark.1 (cutoffAt now) mark.2).getD redis

theorem redis_step {Hash : Type} {raw : Option String} {s u : RevocationState Hash}
    {e : RevocationEvent Hash} (h : s.step raw e = some u) :
    u.redis = (e.marks raw).foldl (fun redis mark => writeMark redis s.clock mark) s.redis := by
  cases e with
  | revokeActiveImpersonations sessionIds =>
    cases h
    simp only [RevocationEvent.marks, List.foldl_map]
    rfl
  | _ =>
    cases h
    rfl

/-- A token is over, or a marker of its user or its session is there until it is. -/
def Held (t : AccessToken) (clock : Nat) (redis : Redis) : Prop :=
  t.exp * 1000 ≤ (clock : Int) ∨
    ∃ key ∈ t.keys, ∃ l, redis key = some l ∧ t.iat < l.holder ∧ t.exp * 1000 ≤ (l.expiresAt : Int)

section Held

variable {t : AccessToken} {clock : Nat} {redis : Redis} {mark : RevokedKey × Nat}

theorem writeMark_self (httl : mark.2 ≠ 0) :
    writeMark redis clock mark mark.1 = some ⟨cutoffAt clock, clock + mark.2 * 1000⟩ := by
  simp [writeMark, Redis.set, httl]

theorem writeMark_of_ne {key : RevokedKey} (hne : key ≠ mark.1) :
    writeMark redis clock mark key = redis key := by
  unfold writeMark Redis.set
  split
  · rfl
  · exact Function.update_of_ne hne ..

/-- A marker of the token that outlives it. -/
theorem held_of_writeMark (hissued : t.iat ≤ clock / 1000) (hkey : mark.1 ∈ t.keys)
    (hlong : t.exp * 1000 ≤ ((clock + mark.2 * 1000 : Nat) : Int)) :
    Held t clock (writeMark redis clock mark) := by
  by_cases httl : mark.2 = 0
  · -- refused, and then the token is over
    refine Or.inl ?_
    rw [httl] at hlong
    simpa using hlong
  · exact Or.inr ⟨mark.1, hkey, _, writeMark_self httl, Nat.lt_succ_of_le hissued, hlong⟩

theorem Held.writeMark (h : Held t clock redis) (hissued : t.iat ≤ clock / 1000)
    (hlong : mark.1 ∈ t.keys → t.exp * 1000 ≤ ((clock + mark.2 * 1000 : Nat) : Int)) :
    Held t clock (writeMark redis clock mark) := by
  rcases h with hover | ⟨key, hkey, l, hl, hcutoff, hexp⟩
  · exact Or.inl hover
  · by_cases hsame : key = mark.1
    · subst hsame
      exact held_of_writeMark hissued hkey (hlong hkey)
    · exact Or.inr ⟨key, hkey, l, (writeMark_of_ne hsame).trans hl, hcutoff, hexp⟩

/-- Markers written one after the other. -/
theorem held_of_marks (hissued : t.iat ≤ clock / 1000) : ∀ (marks : List (RevokedKey × Nat))
    (redis : Redis), (∀ mark ∈ marks, mark.1 ∈ t.keys →
      t.exp * 1000 ≤ ((clock + mark.2 * 1000 : Nat) : Int)) →
    (Held t clock redis ∨ ∃ mark ∈ marks, mark.1 ∈ t.keys) →
      Held t clock (marks.foldl (fun redis mark => writeMark redis clock mark) redis) := by
  intro marks
  induction marks with
  | nil =>
    rintro redis - (h | ⟨mark, hmark, -⟩)
    · exact h
    · exact absurd hmark List.not_mem_nil
  | cons mark rest ih =>
    intro redis hlong h
    have hfirst := hlong mark List.mem_cons_self
    refine ih _ (fun m hm => hlong m (List.mem_cons_of_mem _ hm)) ?_
    rcases h with h | ⟨m, hm, hkey⟩
    · exact Or.inl (h.writeMark hissued hfirst)
    · rcases List.mem_cons.mp hm with rfl | hm
      · exact Or.inl (held_of_writeMark hissued hkey (hfirst hkey))
      · exact Or.inr ⟨m, hm, hkey⟩

/-- A token that is held passes no guard. -/
theorem Held.not_passed {Hash : Type} {store : Store Hash} (h : Held t clock redis)
    (hiat : 0 < t.iat) : ¬store.Passed (some redis) clock t := by
  intro hpassed
  rcases h with hover | ⟨key, hkey, l, hl, hcutoff, hexp⟩
  · have hlt := of_decide_eq_true hpassed.verified
    omega
  · have hlt := of_decide_eq_true hpassed.verified
    have hnone := (assertNotRevoked_eq_ok hiat).mp hpassed.unrevoked key hkey
    have hrevokes : redis.revokes clock key t.iat = true :=
      Redis.revokes_eq_true_iff.mpr ⟨l, hl, by omega, hcutoff⟩
    rw [hrevokes] at hnone
    cases hnone

end Held

namespace RevocationState

variable {Hash : Type} {raw : Option String} {t : AccessToken} {s u : RevocationState Hash}
  {e : RevocationEvent Hash}

theorem clock_le_of_step (h : s.step raw e = some u) : s.clock ≤ u.clock := by
  cases e with
  | later ms =>
    cases h
    exact Nat.le_add_right ..
  | _ =>
    cases h
    exact Nat.le_refl _

/-- What a token keeps once it is revoked. -/
def Holds (t : AccessToken) (s : RevocationState Hash) : Prop :=
  t.iat ≤ s.clock / 1000 ∧ Held t s.clock s.redis

theorem holds_step (hissued : t.iat ≤ s.clock / 1000) (hstep : s.step raw e = some u)
    (hlong : s.Outlasts raw t e) (h : Held t s.clock s.redis ∨ e.Revokes raw t) : u.Holds t := by
  have hclock := clock_le_of_step hstep
  have hheld := held_of_marks hissued (e.marks raw) s.redis hlong h
  rw [← redis_step hstep] at hheld
  refine ⟨hissued.trans (Nat.div_le_div_right hclock), ?_⟩
  rcases hheld with hover | hmarker
  · exact Or.inl (by omega)
  · exact Or.inr hmarker

/-- **A token that is revoked after it was issued passes neither `JwtStrategy` nor
`DeviceTrackingAuthGuard` at any later instant, in every run whose markers of its user and its
session outlive it.** -/
theorem revoked_rejected {es : List (RevocationEvent Hash)} (hiat : 0 < t.iat)
    (hissued : t.iat * 1000 ≤ s.clock) (hrevokes : e.Revokes raw t)
    (hrun : Run (Guarded (Steps (step raw)) (Outlasts raw t)) s (e :: es) u) :
    (∀ p, u.store.jwtStrategy (some u.redis) u.clock t ≠ .ok p) ∧
      ∀ p, u.store.deviceTrackingAuthGuard (some u.redis) u.clock t ≠ .ok p := by
  have hholds : u.Holds t := by
    cases hrun with
    | cons hstep hrest =>
      refine hrest.invariant (I := Holds t) ?_ ?_
      · intro v f w hv hnext
        exact holds_step hv.1 hnext.1 hnext.2 (Or.inl hv.2)
      · exact holds_step (by omega) hstep.1 hstep.2 (Or.inr hrevokes)
  have hnot : ¬u.store.Passed (some u.redis) u.clock t := hholds.2.not_passed hiat
  exact ⟨fun p h => hnot (Store.passed_of_jwtStrategy h),
    fun p h => hnot (Store.passed_of_deviceTrackingAuthGuard h)⟩

end RevocationState

/-! ## Which markers outlive which tokens -/

/-- Where nothing else marks a token, one marker holds it until it is over exactly when the marker
outlives it. -/
theorem rejected_until_iff {t : AccessToken} {redis : Redis} {clock : Nat} {mark : RevokedKey × Nat}
    (hiat : 0 < t.iat) (hissued : t.iat ≤ clock / 1000) (httl : mark.2 ≠ 0) (hkey : mark.1 ∈ t.keys)
    (hnone : ∀ key ∈ t.keys, redis key = none) :
    (∀ now, clock ≤ now → t.verified now = true →
        assertNotRevoked (some (writeMark redis clock mark)) now t ≠ .ok ()) ↔
      t.exp * 1000 ≤ ((clock + mark.2 * 1000 : Nat) : Int) := by
  constructor
  · intro hrejected
    by_contra hshort
    have hlive : t.verified (clock + mark.2 * 1000) = true := decide_eq_true (by omega)
    refine hrejected (clock + mark.2 * 1000) (Nat.le_add_right ..) hlive ?_
    refine (assertNotRevoked_eq_ok hiat).mpr fun key hother => ?_
    rw [Bool.eq_false_iff]
    intro hrevokes
    obtain ⟨l, hl, halive, -⟩ := Redis.revokes_eq_true_iff.mp hrevokes
    by_cases hsame : key = mark.1
    · subst hsame
      rw [writeMark_self httl] at hl
      cases hl
      exact Nat.lt_irrefl _ halive
    · rw [writeMark_of_ne hsame, hnone key hother] at hl
      cases hl
  · intro hlong now hnow hverified hpassed
    have hlive := of_decide_eq_true hverified
    have hfree := (assertNotRevoked_eq_ok hiat).mp hpassed _ hkey
    have hbefore : now < clock + mark.2 * 1000 := by omega
    have hrevokes : (writeMark redis clock mark).revokes now mark.1 t.iat = true :=
      Redis.revokes_eq_true_iff.mpr
        ⟨_, writeMark_self httl, hbefore, Nat.lt_succ_of_le hissued⟩
    rw [hrevokes] at hfree
    cases hfree

section Lifetimes

variable {Hash : Type} {raw : Option String} {s : RevocationState Hash} {e : RevocationEvent Hash}
  {user : User} {sid : String} {now : Nat}

/-- Where the JWT library reads the variable as the pattern does, every marker outlives the tokens
that `generateTokens` issued before it. -/
theorem outlasts_accessToken {seconds : Nat}
    (hmatched : matchedSeconds (raw.getD "15m") = some seconds) (hnow : now ≤ s.clock)
    (hown : ∀ ids, e = .revokeActiveImpersonations ids → sid ∉ ids) :
    s.Outlasts raw (accessTokenFor user sid now seconds) e := by
  have hexpiry : getAccessTokenExpirySeconds raw = seconds := by
    rw [getAccessTokenExpirySeconds, hmatched]
    rfl
  have httl : accessTokenTtlSeconds raw = seconds := by
    rw [← getAccessTokenExpirySeconds_eq, hexpiry]
  intro mark hmark hkey
  have hlong : seconds ≤ mark.2 → (accessTokenFor user sid now seconds).exp * 1000 ≤
      ((s.clock + mark.2 * 1000 : Nat) : Int) := by
    intro hle
    simp only [accessTokenFor]
    omega
  cases e with
  | changePassword userId =>
    obtain rfl := List.mem_singleton.mp hmark
    exact hlong (httl ▸ Nat.le_max_left ..)
  | resetPassword userId =>
    obtain rfl := List.mem_singleton.mp hmark
    exact hlong (httl ▸ Nat.le_max_left ..)
  | markAccessRevoked userId sessionId =>
    obtain rfl := List.mem_singleton.mp hmark
    exact hlong hexpiry.ge
  | revokeActiveImpersonations ids =>
    obtain ⟨id, hid, rfl⟩ := List.mem_map.mp hmark
    have hsid : id = sid := by simpa [AccessToken.keys, accessTokenFor] using hkey
    exact absurd (hsid ▸ hid) (hown ids rfl)
  | later ms => exact absurd hmark List.not_mem_nil
  | written store => exact absurd hmark List.not_mem_nil

/-- The logout of the platform admin outlives the impersonations it ends. -/
theorem outlasts_impersonation {adminId : String} (hnow : now ≤ s.clock) (ids : List String) :
    s.Outlasts raw (impersonationTokenFor adminId user sid now)
      (.revokeActiveImpersonations ids) := by
  intro mark hmark _
  obtain ⟨id, -, rfl⟩ := List.mem_map.mp hmark
  simp only [impersonationTokenFor, impersonationSeconds]
  omega

end Lifetimes

/-! ### A change of password, and an impersonation under way -/

/-- A token of an account is issued, and a minute passes. -/
def aMinuteLater : RevocationState Unit := ⟨1060000, fun _ => none, oneAccount Unit plainAccount plainCredentials⟩

/-- The password is changed, and a quarter of an hour passes. -/
def passwordChanged : List (RevocationEvent Unit) := [.changePassword "user-1", .later 900000]

def sampleAccessToken : AccessToken := accessTokenFor (userOf plainAccount) "session-1" 1000000 900

theorem accessToken_rejected : ∃ u,
    Run (Steps (RevocationState.step (some "15m"))) aMinuteLater passwordChanged u ∧
      (∀ p, u.store.jwtStrategy (some u.redis) u.clock sampleAccessToken ≠ .ok p) ∧
      ∀ p, u.store.deviceTrackingAuthGuard (some u.redis) u.clock sampleAccessToken ≠ .ok p := by
  obtain ⟨u, hrun⟩ : ∃ u, Run (Guarded (Steps (RevocationState.step (some "15m")))
      (RevocationState.Outlasts (some "15m") sampleAccessToken)) aMinuteLater passwordChanged u := by
    refine ⟨_, .cons ⟨rfl, ?_⟩ (.single ⟨rfl, ?_⟩)⟩
    · exact outlasts_accessToken (by decide +kernel) (by decide) fun _ h => by cases h
    · exact outlasts_accessToken (by decide +kernel) (by decide) fun _ h => by cases h
  exact ⟨u, hrun.of_guarded, RevocationState.revoked_rejected (by decide) (by decide)
    ⟨_, List.mem_singleton_self _, List.mem_cons_self⟩ hrun⟩

def sampleImpersonation : AccessToken :=
  impersonationTokenFor "admin-1" (userOf plainAccount) "impersonation-1" 1000000

/-- The marker of a change of password is gone after a quarter of an hour, and the impersonation of
the account goes on. -/
theorem impersonation_accepted_again : ∃ u,
    (.changePassword "user-1" : RevocationEvent Unit).Revokes (some "15m") sampleImpersonation ∧
      Run (Steps (RevocationState.step (some "15m"))) aMinuteLater passwordChanged u ∧
      u.store.jwtStrategy (some u.redis) u.clock sampleImpersonation =
        .ok (.user (userOf plainAccount) (some "impersonation-1") (some "admin-1")) ∧
      u.store.deviceTrackingAuthGuard (some u.redis) u.clock sampleImpersonation =
        .ok (.user (userOf plainAccount) (some "impersonation-1") none) := by
  refine ⟨_, ⟨_, List.mem_singleton_self _, List.mem_cons_self⟩, .cons rfl (.single rfl), ?_, ?_⟩
  · decide +kernel
  · decide +kernel

end DeliveryTracking.Auth
