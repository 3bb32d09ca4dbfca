/-
# `DeliveryTracking.Auth.Tabs` — concurrent refreshes of one token

Several tabs call `refresh` with the same current token `R₀`.  A call is two
atomic steps: the transaction that checks the token (`validate`) and, later, the
`UPDATE` of `generateTokens` (`rotate`).  The steps of different tabs interleave
freely.

The row remembers two generations.  With the tokens signed so far, newest first,
put in front of `R₀`, the slots always hold the first two of that list
(`Tabs.Inv`), so

    a check of R₀ passes          ⟺  R₀ is one of the first two
    a returned token passes later ⟺  it is one of the first two at the end

and the calls converge exactly when this holds of every check and every token
(`tabs_converge_iff`): always for two tabs (`twoGenerations_of_le_two`), never
once three calls signed in different seconds (`not_twoGenerations_of_three`).
-/
import Mathlib.Data.Finset.Card
import DeliveryTracking.Auth.Rotation

namespace DeliveryTracking.Auth

variable {Hash : Type}

/-! ## The interleaved calls -/

/-- Where a tab's call stands. -/
inductive TabState where
  | waiting
  | validated (user : User)
  | returned (r : TokenResponse)
  | refused (e : AuthError)
  deriving DecidableEq, Repr

/-- The tables, the tabs, and the clock readings at which tokens were signed, newest first. -/
structure Tabs (Hash : Type) where
  db : Db Hash
  tab : Nat → TabState
  signed : List Nat

inductive TabEvent where
  /-- The tab's transaction runs, at `now`. -/
  | validate (i now : Nat)
  /-- The tab's tokens are signed, and its `UPDATE` runs. -/
  | rotate (i signedAt rotatedAt : Nat)
  deriving DecidableEq, Repr

def TabEvent.tab : TabEvent → Nat
  | .validate i _ => i
  | .rotate i _ _ => i

def Tabs.setTab (s : Tabs Hash) (i : Nat) (x : TabState) : Tabs Hash :=
  { s with tab := Function.update s.tab i x }

/-- One step of one tab; an event that is not the tab's next one changes nothing. -/
def Tabs.step (cfg : AuthConfig) (H : TokenHash Hash) (R₀ : Jwt) (s : Tabs Hash) :
    TabEvent → Unit × Tabs Hash
  | .validate i now =>
    match s.tab i with
    | .waiting =>
      match jwtVerify now R₀ with
      | none => ((), s.setTab i (.refused .invalidRefreshToken))
      | some payload =>
        match transaction (refreshTx H now R₀ payload.sessionId) s.db with
        | (.error e, db') => ((), { s with db := db' }.setTab i (.refused e))
        | (.ok user, db') => ((), { s with db := db' }.setTab i (.validated user))
    | _ => ((), s)
  | .rotate i signedAt rotatedAt =>
    match s.tab i with
    | .validated user =>
      match generateTokens cfg H signedAt rotatedAt user.id R₀.payload.sessionId s.db with
      | (.error e, db') => ((), { s with db := db' }.setTab i (.refused e))
      | (.ok r, db') =>
        ((), { s with db := db', signed := signedAt :: s.signed }.setTab i (.returned r))
    | _ => ((), s)

/-- No tab has called yet. -/
def Tabs.start (db : Db Hash) : Tabs Hash := ⟨db, fun _ => .waiting, []⟩

/-- No tab is taken for a thief: no call is refused as reuse, and every returned token is
accepted by `refresh` when it is the next one presented, until it expires. -/
def Converges (cfg : AuthConfig) (H : TokenHash Hash) (s : Tabs Hash) : Prop :=
  (∀ i, s.tab i ≠ .refused .reuseDetected) ∧
  ∀ i r, s.tab i = .returned r → ∀ c : RefreshCall, c.token = r.refreshToken →
    Open s.db c.now c.token → (refresh cfg H s.db c).1.isOk = true

/-- The tokens signed at `signed`, then the one all tabs present: newest first. -/
def generations (cfg : AuthConfig) (user : User) (R₀ : Jwt) (signed : List Nat) : List Jwt :=
  signed.map (fun t => tokenFor user R₀.payload.sessionId t cfg.refreshExpiration) ++ [R₀]

/-- A check that passes the other guards comes while `R₀` is one of the two newest tokens. -/
def ChecksInTime (cfg : AuthConfig) (user : User) (R₀ : Jwt)
    (x : Tick (Tabs Hash) TabEvent Unit) : Prop :=
  match x.input with
  | .validate i now => x.before.tab i = .waiting → Open x.before.db now R₀ →
      R₀ ∈ (generations cfg user R₀ x.before.signed).take 2
  | .rotate _ _ _ => True

/-- Every check comes while `R₀` is one of the two newest tokens, and every signed token
that can still be presented is one of the two newest at the end. -/
def TwoGenerations (cfg : AuthConfig) (H : TokenHash Hash) (user : User) (R₀ : Jwt)
    (s : Tabs Hash) (events : List TabEvent) : Prop :=
  (∀ x ∈ trace (Tabs.step cfg H R₀) s events, ChecksInTime cfg user R₀ x) ∧
  ∀ t ∈ (final (Tabs.step cfg H R₀) s events).signed, ∀ now,
    Open (final (Tabs.step cfg H R₀) s events).db now
      (tokenFor user R₀.payload.sessionId t cfg.refreshExpiration) →
    tokenFor user R₀.payload.sessionId t cfg.refreshExpiration ∈
      (generations cfg user R₀ (final (Tabs.step cfg H R₀) s events).signed).take 2

/-! ## The slots hold two generations -/

/-- The session row for `R₀`, with `R₀` as current token. -/
structure Presents (H : TokenHash Hash) (user : User) (R₀ : Jwt) (db : Db Hash) : Prop where
  users : db.users user.id = some user
  row : ∃ session, db.sessions R₀.payload.sessionId = some session ∧
    session.userId = user.id ∧ session.refreshTokenHash = some (H.hash R₀)

/-- What the interleaved calls keep. -/
structure Tabs.Inv (cfg : AuthConfig) (H : TokenHash Hash) (user : User) (R₀ : Jwt)
    (s : Tabs Hash) : Prop where
  users : s.db.users user.id = some user
  row : ∃ session, s.db.sessions R₀.payload.sessionId = some session ∧
    session.userId = user.id ∧
    session.refreshTokenHash = (generations cfg user R₀ s.signed).head?.map H.hash ∧
    (s.signed ≠ [] → session.previousRefreshTokenHash
      = (generations cfg user R₀ s.signed).tail.head?.map H.hash)
  validated : ∀ i u, s.tab i = .validated u → u = user
  returned : ∀ i r, s.tab i = .returned r → ∃ t ∈ s.signed,
    r.refreshToken = tokenFor user R₀.payload.sessionId t cfg.refreshExpiration
  signed : ∀ t ∈ s.signed, ∃ i r, s.tab i = .returned r ∧
    r.refreshToken = tokenFor user R₀.payload.sessionId t cfg.refreshExpiration

variable {cfg : AuthConfig} {H : TokenHash Hash} {user : User} {R₀ : Jwt}

theorem Tabs.inv_start {db : Db Hash} (h : Presents H user R₀ db) :
    (Tabs.start db).Inv cfg H user R₀ := by
  obtain ⟨session, hs, hu, hcur⟩ := h.row
  refine ⟨h.users, ⟨session, hs, hu, hcur, fun hne => absurd rfl hne⟩, ?_, ?_, ?_⟩
  · intro i u hi; cases hi
  · intro i r hi; cases hi
  · intro t ht; cases ht

/-- Every token of the list names the session. -/
theorem sessionId_of_mem_generations {signed : List Nat} {t : Jwt}
    (ht : t ∈ generations cfg user R₀ signed) : t.payload.sessionId = R₀.payload.sessionId := by
  rcases List.mem_append.mp ht with ht | ht
  · obtain ⟨_, -, rfl⟩ := List.mem_map.mp ht
    rfl
  · rw [List.mem_singleton.mp ht]

/-- Under a collision-free hash a token of the list passes exactly when it is one of the
first two. -/
theorem Tabs.Inv.inSlots_iff (hH : H.Ideal) {s : Tabs Hash} (hs : s.Inv cfg H user R₀) {t : Jwt}
    (ht : t ∈ generations cfg user R₀ s.signed) :
    InSlots H s.db t ↔ t ∈ (generations cfg user R₀ s.signed).take 2 := by
  obtain ⟨session, hse, -, hcur, hprev⟩ := hs.row
  have hslots : InSlots H s.db t ↔ matchesSlot H t session.refreshTokenHash = true ∨
      matchesSlot H t session.previousRefreshTokenHash = true := by
    simp [InSlots, sessionId_of_mem_generations ht, hse]
  rw [hslots]
  cases hsig : s.signed with
  | nil =>
      rw [hsig] at hcur ht
      obtain rfl : t = R₀ := List.mem_singleton.mp ht
      have hmatch : matchesSlot H t session.refreshTokenHash = true := by
        rw [hcur]; exact (hH t t).mpr rfl
      exact ⟨fun _ => List.mem_singleton_self t, fun _ => Or.inl hmatch⟩
  | cons t₁ older =>
      have hprev := hprev (by simp [hsig])
      rw [hsig] at hcur hprev
      obtain ⟨second, rest, hgen⟩ : ∃ second rest, generations cfg user R₀ (t₁ :: older)
          = tokenFor user R₀.payload.sessionId t₁ cfg.refreshExpiration :: second :: rest := by
        cases older with
        | nil => exact ⟨R₀, [], rfl⟩
        | cons t₂ older => exact ⟨_, _, rfl⟩
      rw [hgen] at hcur hprev ⊢
      rw [hcur, hprev]
      show (H.compare t (H.hash _) = true ∨ H.compare t (H.hash _) = true) ↔ _
      rw [hH, hH]
      simp

/-! ## One step -/

theorem setTab_self (s : Tabs Hash) (i : Nat) (x : TabState) : (s.setTab i x).tab i = x :=
  Function.update_self ..

theorem setTab_of_ne (s : Tabs Hash) {i j : Nat} (h : j ≠ i) (x : TabState) :
    (s.setTab i x).tab j = s.tab j :=
  Function.update_of_ne h ..

/-- Everything a check can do. -/
theorem Tabs.validate_cases (cfg : AuthConfig) (H : TokenHash Hash) (R₀ : Jwt) (s : Tabs Hash)
    (i now : Nat) :
    (s.tab i ≠ .waiting ∧ (Tabs.step cfg H R₀ s (.validate i now)).2 = s) ∨
    (s.tab i = .waiting ∧ ¬ Open s.db now R₀ ∧
      (Tabs.step cfg H R₀ s (.validate i now)).2 = s.setTab i (.refused .invalidRefreshToken)) ∨
    (s.tab i = .waiting ∧ Open s.db now R₀ ∧ ¬ InSlots H s.db R₀ ∧
      (Tabs.step cfg H R₀ s (.validate i now)).2 = s.setTab i (.refused .reuseDetected)) ∨
    (s.tab i = .waiting ∧ Open s.db now R₀ ∧ InSlots H s.db R₀ ∧ ∃ session u,
      s.db.sessions R₀.payload.sessionId = some session ∧ s.db.users session.userId = some u ∧
      (Tabs.step cfg H R₀ s (.validate i now)).2 = s.setTab i (.validated u)) := by
  cases htab : s.tab i with
  | validated _ => exact Or.inl ⟨by simp, by simp [Tabs.step, htab]⟩
  | returned _ => exact Or.inl ⟨by simp, by simp [Tabs.step, htab]⟩
  | refused _ => exact Or.inl ⟨by simp, by simp [Tabs.step, htab]⟩
  | waiting =>
    refine Or.inr ?_
    by_cases hexp : now / 1000 < R₀.payload.exp
    · have hverify : jwtVerify now R₀ = some R₀.payload := by simp [jwtVerify, hexp]
      have hback := transaction_refreshTx H now R₀ s.db
      rcases refreshTx_cases H now R₀ s.db with ⟨hop, htx⟩ | ⟨hop, hno, htx⟩ |
          ⟨hop, hin, session, u, hs, hu, htx⟩
      · refine Or.inl ⟨rfl, fun h => hop h.2, ?_⟩
        simp only [Tabs.step, htab, hverify, transaction, htx]
      · refine Or.inr (Or.inl ⟨rfl, ⟨hexp, hop⟩, hno, ?_⟩)
        have htrans : transaction (refreshTx H now R₀ R₀.payload.sessionId) s.db
            = (.error .reuseDetected, s.db) :=
          Prod.ext (by rw [transaction_fst]; exact htx) hback
        simp only [Tabs.step, htab, hverify, htrans]
      · refine Or.inr (Or.inr ⟨rfl, ⟨hexp, hop⟩, hin, session, u, hs, hu, ?_⟩)
        simp only [Tabs.step, htab, hverify, transaction, htx]
    · refine Or.inl ⟨rfl, fun h => hexp h.1, ?_⟩
      simp [Tabs.step, htab, jwtVerify, hexp]

/-- Everything a rotation can do, from a state of the run. -/
theorem Tabs.Inv.rotate_cases {s : Tabs Hash} (hs : s.Inv cfg H user R₀)
    (i signedAt rotatedAt : Nat) :
    ((∀ u, s.tab i ≠ .validated u) ∧
      (Tabs.step cfg H R₀ s (.rotate i signedAt rotatedAt)).2 = s) ∨
    (s.tab i = .validated user ∧ ∃ session db' r,
      s.db.sessions R₀.payload.sessionId = some session ∧
      r.refreshToken = tokenFor user R₀.payload.sessionId signedAt cfg.refreshExpiration ∧
      db'.users = s.db.users ∧
      db'.sessions R₀.payload.sessionId = some { session with
        refreshTokenHash := some (H.hash r.refreshToken)
        previousRefreshTokenHash := session.refreshTokenHash
        expiresAt := max session.expiresAt (rotatedAt + cfg.refreshExpirationSeconds * 1000) } ∧
      (Tabs.step cfg H R₀ s (.rotate i signedAt rotatedAt)).2
        = { s with db := db', signed := signedAt :: s.signed }.setTab i (.returned r)) := by
  cases htab : s.tab i with
  | waiting => exact Or.inl ⟨by simp, by simp [Tabs.step, htab]⟩
  | returned _ => exact Or.inl ⟨by simp, by simp [Tabs.step, htab]⟩
  | refused _ => exact Or.inl ⟨by simp, by simp [Tabs.step, htab]⟩
  | validated u =>
    obtain rfl : u = user := hs.validated i u htab
    obtain ⟨session, hse, hid, -, -⟩ := hs.row
    have hu : s.db.users session.userId = some u := by rw [hid]; exact hs.users
    obtain ⟨db', hgen, husers, hrow, -⟩ :=
      generateTokens_session cfg H signedAt rotatedAt hse hu
    refine Or.inr ⟨rfl, session, db', ⟨tokenFor u R₀.payload.sessionId signedAt cfg.accessExpiration,
      tokenFor u R₀.payload.sessionId signedAt cfg.refreshExpiration, u⟩, hse, rfl, husers, hrow, ?_⟩
    simp only [Tabs.step, htab, hgen]

/-- A check that only moves its own tab keeps the invariant. -/
theorem Tabs.Inv.setTab {s : Tabs Hash} (hs : s.Inv cfg H user R₀) {i : Nat}
    (hwait : s.tab i = .waiting) {x : TabState} (hval : ∀ u, x = .validated u → u = user)
    (hret : ∀ r, x ≠ .returned r) : (s.setTab i x).Inv cfg H user R₀ := by
  refine ⟨hs.users, hs.row, ?_, ?_, ?_⟩
  · intro j u hj
    by_cases hji : j = i
    · subst hji
      exact hval u ((setTab_self s j x).symm.trans hj)
    · exact hs.validated j u ((setTab_of_ne s hji x).symm.trans hj)
  · intro j r hj
    by_cases hji : j = i
    · subst hji
      exact absurd ((setTab_self s j x).symm.trans hj) (hret r)
    · exact hs.returned j r ((setTab_of_ne s hji x).symm.trans hj)
  · intro t ht
    obtain ⟨j, r, hj, hr⟩ := hs.signed t ht
    have hji : j ≠ i := by
      rintro rfl
      rw [hwait] at hj
      cases hj
    exact ⟨j, r, (setTab_of_ne s hji x).trans hj, hr⟩

/-- Step lemma. -/
theorem Tabs.inv_step {s : Tabs Hash} (hs : s.Inv cfg H user R₀) (e : TabEvent) :
    (Tabs.step cfg H R₀ s e).2.Inv cfg H user R₀ := by
  cases e with
  | validate i now =>
    rcases Tabs.validate_cases cfg H R₀ s i now with ⟨-, h⟩ | ⟨hw, -, h⟩ | ⟨hw, -, -, h⟩ |
        ⟨hw, -, -, session, u, hse, hu, h⟩
    · rw [h]; exact hs
    · rw [h]; exact hs.setTab hw (by simp) (by simp)
    · rw [h]; exact hs.setTab hw (by simp) (by simp)
    · rw [h]
      refine hs.setTab hw ?_ (by simp)
      intro u' hu'
      obtain ⟨session', hse', hid, -, -⟩ := hs.row
      obtain rfl : session = session' := by rw [hse] at hse'; exact Option.some.inj hse'
      rw [hid, hs.users] at hu
      cases hu'
      exact (Option.some.inj hu).symm
  | rotate i signedAt rotatedAt =>
    rcases hs.rotate_cases i signedAt rotatedAt with ⟨-, h⟩ |
        ⟨hval, session, db', r, hse, hr, husers, hrow, h⟩
    · rw [h]; exact hs
    · rw [h]
      obtain ⟨session', hse', hid, hcur, -⟩ := hs.row
      obtain rfl : session = session' := by rw [hse] at hse'; exact Option.some.inj hse'
      refine ⟨?_, ⟨_, hrow, hid, ?_, fun _ => hcur⟩, ?_, ?_, ?_⟩
      · show db'.users user.id = some user
        rw [husers]; exact hs.users
      · show some (H.hash r.refreshToken) = _
        rw [hr]; rfl
      · intro j u hj
        by_cases hji : j = i
        · subst hji
          rw [setTab_self] at hj
          cases hj
        · rw [setTab_of_ne _ hji] at hj
          exact hs.validated j u hj
      · intro j r' hj
        by_cases hji : j = i
        · subst hji
          rw [setTab_self] at hj
          cases hj
          exact ⟨signedAt, List.mem_cons_self .., hr⟩
        · rw [setTab_of_ne _ hji] at hj
          obtain ⟨t, ht, hrt⟩ := hs.returned j r' hj
          exact ⟨t, List.mem_cons_of_mem _ ht, hrt⟩
      · intro t ht
        rcases List.mem_cons.mp ht with rfl | ht
        · exact ⟨i, r, setTab_self .., hr⟩
        · obtain ⟨j, r', hj, hr'⟩ := hs.signed t ht
          have hji : j ≠ i := by
            rintro rfl
            rw [hval] at hj
            cases hj
          exact ⟨j, r', (setTab_of_ne _ hji _).trans hj, hr'⟩

/-- Moving one tab between states that are not a refused thief finds no thief. -/
theorem noThief_setTab {s s' : Tabs Hash} {i : Nat} {x : TabState} (hst : s'.tab = s.tab)
    (hi : s.tab i ≠ .refused .reuseDetected) (hx : x ≠ .refused .reuseDetected) :
    (∀ j, (s'.setTab i x).tab j ≠ .refused .reuseDetected) ↔
      ∀ j, s.tab j ≠ .refused .reuseDetected := by
  constructor
  · intro h j
    by_cases hji : j = i
    · rw [hji]; exact hi
    · rw [← hst, ← setTab_of_ne s' hji x]; exact h j
  · intro h j
    by_cases hji : j = i
    · rw [hji, setTab_self]; exact hx
    · rw [setTab_of_ne s' hji x, hst]; exact h j

/-- A step refuses a tab as a thief exactly when its check comes too late. -/
theorem Tabs.noThief_step (hH : H.Ideal) {s : Tabs Hash} (hs : s.Inv cfg H user R₀)
    (e : TabEvent) :
    (∀ i, (Tabs.step cfg H R₀ s e).2.tab i ≠ .refused .reuseDetected) ↔
      (∀ i, s.tab i ≠ .refused .reuseDetected) ∧ ChecksInTime cfg user R₀ ⟨s, e, ()⟩ := by
  have hmem : R₀ ∈ generations cfg user R₀ s.signed :=
    List.mem_append_right _ (List.mem_singleton_self R₀)
  cases e with
  | validate i now =>
    show _ ↔ _ ∧ (s.tab i = .waiting → Open s.db now R₀ →
      R₀ ∈ (generations cfg user R₀ s.signed).take 2)
    rcases Tabs.validate_cases cfg H R₀ s i now with ⟨hw, h⟩ | ⟨hw, hop, h⟩ |
        ⟨hw, hop, hno, h⟩ | ⟨hw, hop, hin, _, u, -, -, h⟩
    · rw [h]; simp [hw]
    · rw [h, noThief_setTab rfl (by simp [hw]) (by simp)]; simp [hop]
    · rw [h]
      rw [hs.inSlots_iff hH hmem] at hno
      constructor
      · intro hall
        exact absurd (setTab_self s i _) (hall i)
      · rintro ⟨-, hin⟩
        exact absurd (hin hw hop) hno
    · rw [hs.inSlots_iff hH hmem] at hin
      rw [h, noThief_setTab rfl (by simp [hw]) (by simp)]; simp [hin]
  | rotate i signedAt rotatedAt =>
    show _ ↔ _ ∧ True
    rcases hs.rotate_cases i signedAt rotatedAt with ⟨-, h⟩ | ⟨hval, _, _, r, -, -, -, -, h⟩
    · rw [h]; simp
    · rw [h]
      exact (noThief_setTab rfl (by simp [hval]) (by simp)).trans (iff_of_eq (and_true _).symm)

/-! ## The whole run -/

/-- Run lemma: a thief is found exactly by a check that comes too late. -/
theorem Tabs.noThief_run (hH : H.Ideal) :
    ∀ (events : List TabEvent) {s : Tabs Hash}, s.Inv cfg H user R₀ →
      ((∀ i, (final (Tabs.step cfg H R₀) s events).tab i ≠ .refused .reuseDetected) ↔
        (∀ i, s.tab i ≠ .refused .reuseDetected) ∧
          ∀ x ∈ trace (Tabs.step cfg H R₀) s events, ChecksInTime cfg user R₀ x)
  | [], s, _ => by simp [final, trace]
  | e :: es, s, hs => by
      have hstep := Tabs.noThief_step hH hs e
      have hrest := Tabs.noThief_run hH es (Tabs.inv_step hs e)
      simp only [final, trace, List.forall_mem_cons]
      rw [hrest, hstep, and_assoc]

/-- At the end, the returned tokens are accepted exactly when they are the two newest. -/
theorem Tabs.Inv.accepted_iff (hH : H.Ideal) {s : Tabs Hash} (hs : s.Inv cfg H user R₀) :
    (∀ i r, s.tab i = .returned r → ∀ c : RefreshCall, c.token = r.refreshToken →
      Open s.db c.now c.token → (refresh cfg H s.db c).1.isOk = true) ↔
    ∀ t ∈ s.signed, ∀ now,
      Open s.db now (tokenFor user R₀.payload.sessionId t cfg.refreshExpiration) →
      tokenFor user R₀.payload.sessionId t cfg.refreshExpiration ∈
        (generations cfg user R₀ s.signed).take 2 := by
  have hmem : ∀ t ∈ s.signed, tokenFor user R₀.payload.sessionId t cfg.refreshExpiration ∈
      generations cfg user R₀ s.signed :=
    fun t ht => List.mem_append_left _ (List.mem_map_of_mem ht)
  constructor
  · intro h t ht now hop
    obtain ⟨i, r, hi, hr⟩ := hs.signed t ht
    have hok := h i r hi ⟨r.refreshToken, now, 0, 0⟩ rfl (hr ▸ hop)
    rw [isOk_iff, refresh_ok_iff] at hok
    rw [← hs.inSlots_iff hH (hmem t ht), ← hr]
    exact hok.2
  · intro h i r hi c hc hop
    obtain ⟨t, ht, hr⟩ := hs.returned i r hi
    rw [isOk_iff, refresh_ok_iff]
    refine ⟨hop, ?_⟩
    rw [hc, hr] at hop ⊢
    exact (hs.inSlots_iff hH (hmem t ht)).mpr (h t ht c.now hop)

/-- **Tabs that refresh the same current token converge exactly when every check, and every
token still alive at the end, falls within two generations.** -/
theorem tabs_converge_iff (cfg : AuthConfig) {H : TokenHash Hash} (hH : H.Ideal) {user : User}
    {R₀ : Jwt} {db : Db Hash} (h : Presents H user R₀ db) (events : List TabEvent) :
    Converges cfg H (final (Tabs.step cfg H R₀) (Tabs.start db) events) ↔
      TwoGenerations cfg H user R₀ (Tabs.start db) events := by
  have hstart : (Tabs.start db).Inv cfg H user R₀ := Tabs.inv_start h
  have hend : (final (Tabs.step cfg H R₀) (Tabs.start db) events).Inv cfg H user R₀ :=
    final_invariant (I := Tabs.Inv cfg H user R₀) (fun _ e hs => Tabs.inv_step hs e) hstart
  refine and_congr ?_ (hend.accepted_iff hH)
  rw [Tabs.noThief_run hH events hstart]
  exact and_iff_right fun i => by simp [Tabs.start]

/-! ## How many tabs -/

def TabState.isReturned : TabState → Bool
  | .returned _ => true
  | _ => false

/-- The tabs below `n` that have returned. -/
def returnedTabs (n : Nat) (s : Tabs Hash) : Finset Nat :=
  (Finset.range n).filter fun i => (s.tab i).isReturned = true

theorem returnedTabs_setTab {n i : Nat} {s s' : Tabs Hash} (hst : s'.tab = s.tab) {x : TabState}
    (hi : (s.tab i).isReturned = false) (hx : x.isReturned = false) :
    returnedTabs n (s'.setTab i x) = returnedTabs n s := by
  refine Finset.filter_congr fun j _ => ?_
  by_cases hji : j = i
  · rw [hji, setTab_self, hx, hi]
  · rw [setTab_of_ne s' hji x, hst]

theorem returnedTabs_insert {n i : Nat} {s s' : Tabs Hash} (hst : s'.tab = s.tab) {x : TabState}
    (hn : i < n) (hx : x.isReturned = true) :
    returnedTabs n (s'.setTab i x) = insert i (returnedTabs n s) := by
  ext j
  simp only [returnedTabs, Finset.mem_filter, Finset.mem_insert, Finset.mem_range]
  by_cases hji : j = i
  · subst hji
    simp [setTab_self, hn, hx]
  · simp [setTab_of_ne s' hji x, hst, hji]

/-- Step lemma: as many tokens are signed as tabs have returned. -/
theorem Tabs.signed_length_step {n : Nat} {s : Tabs Hash} (hs : s.Inv cfg H user R₀)
    {e : TabEvent} (he : e.tab < n) (hlen : s.signed.length = (returnedTabs n s).card) :
    (Tabs.step cfg H R₀ s e).2.signed.length
      = (returnedTabs n (Tabs.step cfg H R₀ s e).2).card := by
  cases e with
  | validate i now =>
    rcases Tabs.validate_cases cfg H R₀ s i now with ⟨-, h⟩ | ⟨hw, -, h⟩ | ⟨hw, -, -, h⟩ |
        ⟨hw, -, -, _, u, -, -, h⟩
    · rw [h]; exact hlen
    · rw [h, returnedTabs_setTab rfl (by rw [hw]; rfl) rfl]; exact hlen
    · rw [h, returnedTabs_setTab rfl (by rw [hw]; rfl) rfl]; exact hlen
    · rw [h, returnedTabs_setTab rfl (by rw [hw]; rfl) rfl]; exact hlen
  | rotate i signedAt rotatedAt =>
    rcases hs.rotate_cases i signedAt rotatedAt with ⟨-, h⟩ | ⟨hval, _, _, r, -, -, -, -, h⟩
    · rw [h]; exact hlen
    · have hnot : i ∉ returnedTabs n s := by
        intro hmem
        have hret := (Finset.mem_filter.mp hmem).2
        rw [hval] at hret
        cases hret
      have hi : i < n := he
      rw [h, returnedTabs_insert rfl hi rfl]
      exact (congrArg Nat.succ hlen).trans (Finset.card_insert_of_notMem hnot).symm

/-- Before the check of a tab below `n` has run, fewer than `n` tokens are signed. -/
theorem signed_length_lt {n i : Nat} {s : Tabs Hash} (hi : i < n) (hw : s.tab i = .waiting)
    (hlen : s.signed.length = (returnedTabs n s).card) : s.signed.length < n := by
  have hnot : i ∉ returnedTabs n s := by
    intro hmem
    have hret := (Finset.mem_filter.mp hmem).2
    rw [hw] at hret
    cases hret
  have hsub : insert i (returnedTabs n s) ⊆ Finset.range n := by
    intro j hj
    rcases Finset.mem_insert.mp hj with rfl | hj
    · exact Finset.mem_range.mpr hi
    · exact (Finset.mem_filter.mp hj).1
  have hcard := Finset.card_le_card hsub
  rw [Finset.card_insert_of_notMem hnot, Finset.card_range, ← hlen] at hcard
  exact hcard

theorem length_generations (signed : List Nat) :
    (generations cfg user R₀ signed).length = signed.length + 1 := by
  simp [generations]

/-- **Two tabs always converge.** -/
theorem twoGenerations_of_le_two {db : Db Hash} (h : Presents H user R₀ db)
    {events : List TabEvent} (htwo : ∀ e ∈ events, e.tab < 2) :
    TwoGenerations cfg H user R₀ (Tabs.start db) events := by
  have hrun : ∀ (es : List TabEvent) {s : Tabs Hash}, (∀ e ∈ es, e.tab < 2) →
      s.Inv cfg H user R₀ → s.signed.length = (returnedTabs 2 s).card →
      (∀ x ∈ trace (Tabs.step cfg H R₀) s es, ChecksInTime cfg user R₀ x) ∧
        (final (Tabs.step cfg H R₀) s es).signed.length ≤ 2 := by
    intro es
    induction es with
    | nil =>
      intro s _ _ hlen
      refine ⟨by simp [trace], ?_⟩
      have hcard := Finset.card_le_card (Finset.filter_subset
        (fun i => (s.tab i).isReturned = true) (Finset.range 2))
      rw [Finset.card_range] at hcard
      exact hlen.trans_le hcard
    | cons e es ih =>
      intro s hes hs hlen
      have he := hes e (List.mem_cons_self ..)
      obtain ⟨hrest, hend⟩ := ih (fun e' he' => hes e' (List.mem_cons_of_mem _ he'))
        (Tabs.inv_step hs e) (Tabs.signed_length_step hs he hlen)
      refine ⟨List.forall_mem_cons.mpr ⟨?_, hrest⟩, hend⟩
      cases e with
      | rotate _ _ _ => exact trivial
      | validate i now =>
        intro hw _
        have hlt := signed_length_lt he hw hlen
        rw [List.take_of_length_le (by rw [length_generations]; exact hlt)]
        exact List.mem_append_right _ (List.mem_singleton_self R₀)
  obtain ⟨hchecks, hend⟩ := hrun events htwo (Tabs.inv_start h) (by
    simp [Tabs.start, returnedTabs, TabState.isReturned])
  refine ⟨hchecks, ?_⟩
  intro t ht _ _
  rw [generations, List.take_append, List.take_of_length_le (by simpa using hend)]
  exact List.mem_append_left _ (List.mem_map_of_mem ht)

/-- **A third token dies**: signed in a different second than the two newest ones, it keeps
the calls from converging as long as it could be presented. -/
theorem not_twoGenerations_of_third {s : Tabs Hash} {events : List TabEvent}
    {t₁ t₂ t now : Nat} {older : List Nat}
    (hsig : (final (Tabs.step cfg H R₀) s events).signed = t₁ :: t₂ :: older) (ht : t ∈ older)
    (h₁ : t / 1000 ≠ t₁ / 1000) (h₂ : t / 1000 ≠ t₂ / 1000)
    (hop : Open (final (Tabs.step cfg H R₀) s events).db now
      (tokenFor user R₀.payload.sessionId t cfg.refreshExpiration)) :
    ¬ TwoGenerations cfg H user R₀ s events := by
  rintro ⟨-, htwo⟩
  have hiat : ∀ a b : Nat, tokenFor user R₀.payload.sessionId a cfg.refreshExpiration
      = tokenFor user R₀.payload.sessionId b cfg.refreshExpiration → a / 1000 = b / 1000 :=
    fun a b h => congrArg (fun j : Jwt => j.payload.iat) h
  have hmem := htwo t (by rw [hsig]; simp [ht]) now hop
  rw [hsig] at hmem
  simp only [generations, List.map_cons, List.cons_append, List.take_succ_cons, List.take_zero,
    List.mem_cons, List.not_mem_nil, or_false] at hmem
  rcases hmem with hmem | hmem
  · exact h₁ (hiat _ _ hmem)
  · exact h₂ (hiat _ _ hmem)

/-! ### Three tabs -/

/-- Three tabs check the login token at 60 s, then rotate one second after the other. -/
def threeTabs : List TabEvent :=
  [.validate 0 60000, .validate 1 60000, .validate 2 60000,
   .rotate 0 61000 61000, .rotate 1 62000 62000, .rotate 2 63000 63000]

theorem sample_presents : Presents identityHash sampleUser (sampleToken 0)
    (Rotation.start sampleConfig identityHash 0 sampleUser sampleSid sampleDb).db :=
  ⟨by decide +kernel, _, rfl, rfl, rfl⟩

/-- The state the three tabs end in, from the session right after login. -/
def afterThreeTabs : Tabs Jwt :=
  final (Tabs.step sampleConfig identityHash (sampleToken 0))
    (Tabs.start (Rotation.start sampleConfig identityHash 0 sampleUser sampleSid sampleDb).db)
    threeTabs

theorem tabs_converge_iff_sample :
    Converges sampleConfig identityHash afterThreeTabs ↔
      TwoGenerations sampleConfig identityHash sampleUser (sampleToken 0)
        (Tabs.start (Rotation.start sampleConfig identityHash 0 sampleUser sampleSid sampleDb).db)
        threeTabs :=
  tabs_converge_iff sampleConfig identityHash_ideal sample_presents threeTabs

/-- All three calls return, and the first returned token is then taken for stolen. -/
theorem three_tabs_diverge :
    (∀ i < 3, (afterThreeTabs.tab i).isReturned = true) ∧
    afterThreeTabs.tab 0 = .returned ⟨tokenFor sampleUser sampleSid 61000 900,
      sampleToken 61000, sampleUser⟩ ∧
    (refresh sampleConfig identityHash afterThreeTabs.db
      ⟨sampleToken 61000, 64000, 64000, 64000⟩).1 = .error .reuseDetected ∧
    ¬ Converges sampleConfig identityHash afterThreeTabs := by
  have hret : afterThreeTabs.tab 0 = .returned ⟨tokenFor sampleUser sampleSid 61000 900,
      sampleToken 61000, sampleUser⟩ := by decide +kernel
  have hreuse : (refresh sampleConfig identityHash afterThreeTabs.db
      ⟨sampleToken 61000, 64000, 64000, 64000⟩).1 = .error .reuseDetected := by decide +kernel
  refine ⟨by decide +kernel, hret, hreuse, ?_⟩
  rintro ⟨-, hacc⟩
  have hok := hacc 0 _ hret ⟨sampleToken 61000, 64000, 64000, 64000⟩ rfl
    (refresh_reuse_iff.mp hreuse).1
  rw [hreuse] at hok
  cases hok

end DeliveryTracking.Auth
