/-
# `DeliveryTracking.Auth.SingleFlight` — one refresh at a time

`sharedRefresh` hands every caller of a tab the promise in `refreshPromise`, or begins
a refresh and keeps its promise there until it is over.  `runRefreshExclusive` puts the
refreshes of all tabs behind one lock of the browser:

    requested     behind the lock
    csrf          fetchCsrfToken()
    posting       POST /auth/refresh; a 403 goes back to the token, once
    returned      doRefresh is over, the lock is still held
    finished      the lock is free, the promise in refreshPromise pending
    released      refreshPromise = null
    settled       its callers may go on

The lock is exclusive, and given in the order of the requests.  Tabs, answers and
callers take their steps in any order (`step`).  What holds in every state reached is
`SingleFlight`.
-/
import DeliveryTracking.Auth.SharedRefresh
import Mathlib.Data.Nat.Find

namespace DeliveryTracking.Auth

/-- What a promise of a refresh settles with: `doRefresh` does not throw, a request for the lock
may. -/
abbrev RefreshResult := Except String RefreshOutcome

inductive RefreshStage where
  | absent
  | requested
  | csrf
  | posting
  | csrfAgain
  | postingAgain
  | returned (o : RefreshOutcome)
  | finished (r : RefreshResult)
  | released (r : RefreshResult)
  | settled (r : RefreshResult)

namespace RefreshStage

/-- `refreshPromise` holds it. -/
def pending : RefreshStage → Bool
  | absent | released _ | settled _ => false
  | _ => true

/-- `doRefresh` runs, or has returned to the lock. -/
def inside : RefreshStage → Bool
  | csrf | posting | csrfAgain | postingAgain | returned _ => true
  | _ => false

def inFlight : RefreshStage → Bool
  | posting | postingAgain => true
  | _ => false

def isRequested : RefreshStage → Bool
  | requested => true
  | _ => false

def isReleased : RefreshStage → Bool
  | released _ | settled _ => true
  | _ => false

def result : RefreshStage → Option RefreshResult
  | settled r => some r
  | _ => none

/-- How far a refresh has come. -/
def rank : RefreshStage → Nat
  | absent | requested => 0
  | csrf => 1
  | posting => 2
  | csrfAgain => 3
  | postingAgain => 4
  | returned _ => 5
  | finished _ => 6
  | released _ => 7
  | settled _ => 8

theorem rank_le (st : RefreshStage) : st.rank ≤ 8 := by
  cases st <;> simp [rank]

theorem inside_of_inFlight {st : RefreshStage} (h : st.inFlight = true) : st.inside = true := by
  cases st with
  | posting | postingAgain => rfl
  | _ => cases h

theorem pending_of_inside {st : RefreshStage} (h : st.inside = true) : st.pending = true := by
  cases st with
  | csrf | posting | csrfAgain | postingAgain | returned => rfl
  | _ => cases h

theorem not_released_of_pending {st : RefreshStage} (h : st.pending = true) :
    st.isReleased = false ∧ st.result = none := by
  cases st with
  | absent | released | settled => cases h
  | _ => exact ⟨rfl, rfl⟩

end RefreshStage

/-- What can be observed, of a caller and of the refresh it waits for. -/
inductive RefreshMark where
  /-- Caller `c` of a tab gets the promise of refresh `k`. -/
  | called (c tab k : Nat)
  | posted (k : Nat)
  | released (k : Nat)
  | settled (k : Nat) (r : RefreshResult)
  | received (c : Nat) (r : RefreshResult)

def RefreshMark.isReceived (c : Nat) : RefreshMark → Bool
  | .received i _ => i = c
  | _ => false

/-- The tabs of a browser: the variables of each, the lock, where every refresh is and in which
tab, which promise every caller got, and what was observed, newest first. -/
structure Browser where
  refreshPromise : Nat → Option Nat
  accessToken : Nat → Option String
  lockHolder : Option Nat
  tab : Nat → Nat
  stage : Nat → RefreshStage
  refreshes : Nat
  promise : Nat → Nat
  calls : Nat
  log : List RefreshMark

inductive RefreshEvent where
  | call (tab : Nat)
  | grant (k : Nat)
  /-- The request for the lock is rejected. -/
  | refuse (k : Nat) (e : String)
  | csrf (k : Nat)
  | answer (k : Nat) (a : PostAnswer)
  | unlock (k : Nat)
  | release (k : Nat)
  | settle (k : Nat)
  | deliver (c : Nat)

/-- The refresh an event is a step of. -/
def RefreshEvent.refresh : RefreshEvent → Option Nat
  | .grant k | .refuse k _ | .csrf k | .answer k _ | .unlock k | .release k | .settle k => some k
  | .call _ | .deliver _ => none

/-- A mark of a refresh, and of no caller. -/
def RefreshMark.ofRefresh : RefreshMark → Bool
  | .posted _ | .released _ | .settled _ _ => true
  | _ => false

/-- A caller gets a promise that is not released, and once, after it has settled, its result. -/
def RefreshesOrderly : List RefreshMark → Prop
  | [] => True
  | .called _ _ k :: log => .released k ∉ log ∧ RefreshesOrderly log
  | .received c r :: log =>
      (∃ tab k, .called c tab k ∈ log ∧ .settled k r ∈ log) ∧ (∀ r', .received c r' ∉ log) ∧
        RefreshesOrderly log
  | _ :: log => RefreshesOrderly log

namespace Browser

def start (accessToken : Nat → Option String) : Browser :=
  ⟨fun _ => none, accessToken, none, fun _ => 0, fun _ => .absent, 0, fun _ => 0, 0, []⟩

def setStage (s : Browser) (k : Nat) (st : RefreshStage) : Browser :=
  { s with stage := Function.update s.stage k st }

def mark (s : Browser) (m : RefreshMark) : Browser := { s with log := m :: s.log }

/-- Without the lock manager a refresh goes on at once. -/
def runRefreshExclusive (hasWebLocks : Bool) (s : Browser) (tab : Nat) : Browser :=
  { s with
    tab := Function.update s.tab s.refreshes tab
    stage := Function.update s.stage s.refreshes (if hasWebLocks then .requested else .csrf)
    refreshes := s.refreshes + 1 }

/-- The caller of the tab awaits the promise of refresh `k`. -/
def await (s : Browser) (tab k : Nat) : Browser :=
  { s with
    promise := Function.update s.promise s.calls k
    calls := s.calls + 1
    log := .called s.calls tab k :: s.log }

def sharedRefresh (hasWebLocks : Bool) (s : Browser) (tab : Nat) : Browser :=
  match s.refreshPromise tab with
  | some k => s.await tab k
  | none =>
      { s.runRefreshExclusive hasWebLocks tab with
        refreshPromise := Function.update s.refreshPromise tab (some s.refreshes)
        }.await tab s.refreshes

/-- `doRefresh` returns; a token is stored first. -/
def returns (s : Browser) (k : Nat) (o : RefreshOutcome) : Browser :=
  { s.setStage k (.returned o) with
    accessToken :=
      if o.token.isSome then Function.update s.accessToken (s.tab k) o.token else s.accessToken }

def step (hasWebLocks : Bool) (s : Browser) : RefreshEvent → Option Browser
  | .call tab => some (s.sharedRefresh hasWebLocks tab)
  | .grant k =>
      if (s.stage k).isRequested = true ∧ s.lockHolder = none ∧
          ∀ i < k, (s.stage i).isRequested = false then
        some { s.setStage k .csrf with lockHolder := some k }
      else none
  | .refuse k e =>
      match s.stage k with
      | .requested => some (s.setStage k (.finished (.error e)))
      | _ => none
  | .csrf k =>
      match s.stage k with
      | .csrf => some ((s.setStage k .posting).mark (.posted k))
      | .csrfAgain => some ((s.setStage k .postingAgain).mark (.posted k))
      | _ => none
  | .answer k a =>
      match s.stage k with
      | .posting =>
          some (if a = .status 403 then s.setStage k .csrfAgain else s.returns k (doRefresh a a))
      | .postingAgain => some (s.returns k (doRefresh (.status 403) a))
      | _ => none
  | .unlock k =>
      match s.stage k with
      | .returned o =>
          some { s.setStage k (.finished (.ok o)) with
            lockHolder := if s.lockHolder = some k then none else s.lockHolder }
      | _ => none
  | .release k =>
      match s.stage k with
      | .finished r =>
          some ({ s.setStage k (.released r) with
            refreshPromise := Function.update s.refreshPromise (s.tab k) none
            }.mark (.released k))
      | _ => none
  | .settle k =>
      match s.stage k with
      | .released r => some ((s.setStage k (.settled r)).mark (.settled k r))
      | _ => none
  | .deliver c =>
      match s.stage (s.promise c) with
      | .settled r =>
          if c < s.calls ∧ s.log.any (·.isReceived c) = false then some (s.mark (.received c r))
          else none
      | _ => none

/-! ## What a step can do -/

/-- Refresh `k` goes on to the stage `st`, and nothing else happens to it than that. -/
structure Moved (s t : Browser) (k : Nat) (st : RefreshStage) : Prop where
  present : (s.stage k).rank < st.rank
  stage : t.stage = Function.update s.stage k st
  tab : t.tab = s.tab
  refreshes : t.refreshes = s.refreshes
  promise : t.promise = s.promise
  calls : t.calls = s.calls

/-- The steps of a refresh: to get the lock, to give it back, to free the promise of its tab, to
settle, and those that do none of this. -/
inductive Advance (s t : Browser) (k : Nat) (st : RefreshStage) : Prop
  | grant (hold : s.stage k = .requested) (hst : st = .csrf) (hfree : s.lockHolder = none)
      (hfirst : ∀ i < k, (s.stage i).isRequested = false) (hlock : t.lockHolder = some k)
      (hpromise : t.refreshPromise = s.refreshPromise) (hlog : t.log = s.log)
  | within (hpending : (s.stage k).pending = true ∧ st.pending = true)
      (hinside : st.inside = (s.stage k).inside) (hrequested : st.isRequested = false)
      (hlock : t.lockHolder = s.lockHolder) (hpromise : t.refreshPromise = s.refreshPromise)
      (hlog : t.log = s.log ∨ t.log = .posted k :: s.log)
  | unlock (hold : (s.stage k).inside = true) (r : RefreshResult) (hst : st = .finished r)
      (hlock : t.lockHolder = if s.lockHolder = some k then none else s.lockHolder)
      (hpromise : t.refreshPromise = s.refreshPromise) (hlog : t.log = s.log)
  | release (r : RefreshResult) (hold : s.stage k = .finished r) (hst : st = .released r)
      (hlock : t.lockHolder = s.lockHolder)
      (hpromise : t.refreshPromise = Function.update s.refreshPromise (s.tab k) none)
      (hlog : t.log = .released k :: s.log)
  | settle (r : RefreshResult) (hold : s.stage k = .released r) (hst : st = .settled r)
      (hlock : t.lockHolder = s.lockHolder) (hpromise : t.refreshPromise = s.refreshPromise)
      (hlog : t.log = .settled k r :: s.log)

variable {w : Bool} {s t : Browser} {k : Nat} {st : RefreshStage}

theorem moved_setStage (h : (s.stage k).rank < st.rank) : Moved s (s.setStage k st) k st :=
  ⟨h, rfl, rfl, rfl, rfl, rfl⟩

theorem moved_returns {o : RefreshOutcome} (h : (s.stage k).rank < 5) :
    Moved s (s.returns k o) k (.returned o) :=
  ⟨h, rfl, rfl, rfl, rfl, rfl⟩

theorem step_cases {e : RefreshEvent} (h : s.step w e = some t) :
    (∃ tab, e = .call tab ∧ t = s.sharedRefresh w tab) ∨
    (∃ c r, e = .deliver c ∧ s.stage (s.promise c) = .settled r ∧ c < s.calls ∧
      s.log.any (·.isReceived c) = false ∧ t = s.mark (.received c r)) ∨
    ∃ k st, e.refresh = some k ∧ Moved s t k st ∧ Advance s t k st := by
  cases e with
  | call tab => exact .inl ⟨tab, rfl, (Option.some.inj h).symm⟩
  | deliver c =>
      simp only [step] at h
      split at h
      · rename_i r hr
        split at h
        · rename_i hc
          exact .inr (.inl ⟨c, r, rfl, hr, hc.1, hc.2, (Option.some.inj h).symm⟩)
        · cases h
      · cases h
  | grant k =>
      refine .inr (.inr ⟨k, .csrf, rfl, ?_⟩)
      simp only [step] at h
      split at h
      · rename_i hfree
        obtain rfl := Option.some.inj h
        have hold : s.stage k = .requested := by
          cases hst : s.stage k with
          | requested => rfl
          | _ =>
              rw [hst] at hfree
              cases hfree.1
        have hrank : (s.stage k).rank < 1 := by
          rw [hold]
          exact Nat.one_pos
        exact ⟨⟨hrank, rfl, rfl, rfl, rfl, rfl⟩, .grant hold rfl hfree.2.1 hfree.2.2 rfl rfl rfl⟩
      · cases h
  | refuse k e =>
      refine .inr (.inr ⟨k, .finished (.error e), rfl, ?_⟩)
      simp only [step] at h
      split at h
      · rename_i hold
        obtain rfl := Option.some.inj h
        refine ⟨moved_setStage ?_, .within ⟨?_, rfl⟩ ?_ rfl rfl rfl (.inl rfl)⟩ <;> rw [hold]
        · exact Nat.succ_pos 5
        · rfl
        · rfl
      · cases h
  | csrf k =>
      simp only [step] at h
      split at h
      · rename_i hold
        obtain rfl := Option.some.inj h
        refine .inr (.inr ⟨k, .posting, rfl, ?_⟩)
        have hmoved : Moved s (s.setStage k .posting) k .posting :=
          moved_setStage (by rw [hold]; decide)
        refine ⟨{ hmoved with }, .within ⟨?_, rfl⟩ ?_ rfl rfl rfl (.inr rfl)⟩ <;> rw [hold] <;> rfl
      · rename_i hold
        obtain rfl := Option.some.inj h
        refine .inr (.inr ⟨k, .postingAgain, rfl, ?_⟩)
        have hmoved : Moved s (s.setStage k .postingAgain) k .postingAgain :=
          moved_setStage (by rw [hold]; decide)
        refine ⟨{ hmoved with }, .within ⟨?_, rfl⟩ ?_ rfl rfl rfl (.inr rfl)⟩ <;> rw [hold] <;> rfl
      · cases h
  | answer k a =>
      simp only [step] at h
      split at h
      · rename_i hold
        obtain rfl := Option.some.inj h
        split
        · refine .inr (.inr ⟨k, .csrfAgain, rfl, moved_setStage (by rw [hold]; decide), ?_⟩)
          refine .within ⟨?_, rfl⟩ ?_ rfl rfl rfl (.inl rfl) <;> rw [hold] <;> rfl
        · refine .inr (.inr ⟨k, .returned _, rfl, moved_returns (by rw [hold]; decide), ?_⟩)
          refine .within ⟨?_, rfl⟩ ?_ rfl rfl rfl (.inl rfl) <;> rw [hold] <;> rfl
      · rename_i hold
        obtain rfl := Option.some.inj h
        refine .inr (.inr ⟨k, .returned _, rfl, moved_returns (by rw [hold]; decide), ?_⟩)
        refine .within ⟨?_, rfl⟩ ?_ rfl rfl rfl (.inl rfl) <;> rw [hold] <;> rfl
      · cases h
  | unlock k =>
      simp only [step] at h
      split at h
      · rename_i o hold
        obtain rfl := Option.some.inj h
        have hmoved : Moved s (s.setStage k (.finished (.ok o))) k (.finished (.ok o)) :=
          moved_setStage (by rw [hold]; exact Nat.lt_succ_self _)
        refine .inr (.inr ⟨k, _, rfl, { hmoved with }, .unlock ?_ (.ok o) rfl rfl rfl rfl⟩)
        rw [hold]
        rfl
      · cases h
  | release k =>
      simp only [step] at h
      split at h
      · rename_i r hold
        obtain rfl := Option.some.inj h
        have hmoved : Moved s (s.setStage k (.released r)) k (.released r) :=
          moved_setStage (by rw [hold]; exact Nat.lt_succ_self _)
        exact .inr (.inr ⟨k, _, rfl, { hmoved with }, .release r hold rfl rfl rfl rfl⟩)
      · cases h
  | settle k =>
      simp only [step] at h
      split at h
      · rename_i r hold
        obtain rfl := Option.some.inj h
        have hmoved : Moved s (s.setStage k (.settled r)) k (.settled r) :=
          moved_setStage (by rw [hold]; exact Nat.lt_succ_self _)
        exact .inr (.inr ⟨k, _, rfl, { hmoved with }, .settle r hold rfl rfl rfl rfl⟩)
      · cases h

/-! ## The promise of a tab and the lock -/

/-- A tab keeps the promise of the one refresh of it that is not over. -/
structure Promised (s : Browser) : Prop where
  absent : ∀ k, s.refreshes ≤ k ↔ s.stage k = .absent
  pending : ∀ tab k, s.refreshPromise tab = some k ↔ s.tab k = tab ∧ (s.stage k).pending = true

/-- The lock is held by the refresh that is inside, and those that wait for it are later ones. -/
structure Locked (s : Browser) : Prop where
  holder : ∀ k, s.lockHolder = some k ↔ (s.stage k).inside = true
  order : ∀ j k, (s.stage j).inside = true → (s.stage k).isRequested = true → j < k

theorem stage_absent (hs : Promised s) : s.stage s.refreshes = .absent :=
  (hs.absent _).mp (Nat.le_refl _)

theorem Promised.lt (hs : Promised s) (h : s.stage k ≠ .absent) : k < s.refreshes := by
  by_contra hle
  exact h ((hs.absent k).mp (Nat.le_of_not_lt hle))

theorem Promised.call (hs : Promised s) (tab : Nat) : Promised (s.sharedRefresh w tab) := by
  rw [sharedRefresh]
  split
  · exact ⟨hs.absent, hs.pending⟩
  · rename_i hnone
    have hnew := stage_absent hs
    constructor
    · intro k
      have habsent := hs.absent k
      by_cases hk : k = s.refreshes
      · subst hk
        refine iff_of_false (Nat.not_succ_le_self _) ?_
        cases w <;> simp [await, runRefreshExclusive]
      · have hle : s.refreshes + 1 ≤ k ↔ s.refreshes ≤ k := by omega
        simpa [await, runRefreshExclusive, hk, hle] using habsent
    · intro tab' k
      have hpending := hs.pending tab' k
      by_cases hk : k = s.refreshes
      · subst hk
        have hnot : ¬ s.refreshPromise tab' = some s.refreshes := by
          rw [hpending, hnew]
          exact fun h => Bool.false_ne_true h.2
        by_cases htab : tab' = tab
        · subst htab
          cases w <;> simp [await, runRefreshExclusive, RefreshStage.pending]
        · have htab' : ¬ tab = tab' := fun h => htab h.symm
          simp [await, runRefreshExclusive, Function.update_of_ne htab, hnot, htab']
      · by_cases htab : tab' = tab
        · subst htab
          have hnot : ¬ (s.tab k = tab' ∧ (s.stage k).pending = true) := by
            rw [← hpending, hnone]
            exact nofun
          simpa [await, runRefreshExclusive, Function.update_of_ne hk, Ne.symm hk] using hnot
        · simpa [await, runRefreshExclusive, Function.update_of_ne hk, Function.update_of_ne htab]
            using hpending

theorem Promised.advance (hs : Promised s) (hmoved : Moved s t k st) (h : Advance s t k st) :
    Promised t := by
  have hpresent : s.stage k ≠ .absent := by
    intro habsent
    cases h with
    | grant hold => exact absurd (hold.symm.trans habsent) nofun
    | within hpending =>
        rw [habsent] at hpending
        exact Bool.false_ne_true hpending.1
    | unlock hold =>
        rw [habsent] at hold
        cases hold
    | release r hold => exact absurd (hold.symm.trans habsent) nofun
    | settle r hold => exact absurd (hold.symm.trans habsent) nofun
  constructor
  · intro j
    rw [hmoved.refreshes, hmoved.stage]
    by_cases hj : j = k
    · subst hj
      rw [Function.update_self]
      refine iff_of_false (fun hle => hpresent ((hs.absent j).mp hle)) ?_
      intro hst
      have hrank := hmoved.present
      rw [hst] at hrank
      exact Nat.not_lt_zero _ hrank
    · rw [Function.update_of_ne hj]
      exact hs.absent j
  · intro tab j
    rw [hmoved.stage, hmoved.tab]
    -- a refresh that stays with the promise of its tab
    have hkeep : st.pending = (s.stage k).pending → t.refreshPromise = s.refreshPromise →
        (t.refreshPromise tab = some j ↔
          s.tab j = tab ∧ (Function.update s.stage k st j).pending = true) := by
      intro hpending hpromise
      rw [hpromise, hs.pending]
      by_cases hj : j = k
      · subst hj
        rw [Function.update_self, hpending]
      · rw [Function.update_of_ne hj]
    cases h with
    | grant hold hst _ _ _ hpromise => exact hkeep (by rw [hst, hold]; rfl) hpromise
    | within hpending _ _ _ hpromise => exact hkeep (hpending.2.trans hpending.1.symm) hpromise
    | unlock hold r hst _ hpromise =>
        exact hkeep (by rw [hst, RefreshStage.pending_of_inside hold]; rfl) hpromise
    | settle r hold hst _ hpromise => exact hkeep (by rw [hst, hold]; rfl) hpromise
    | release r hold hst _ hpromise =>
        have hk : s.refreshPromise (s.tab k) = some k := by
          rw [hs.pending, hold]
          exact ⟨rfl, rfl⟩
        rw [hpromise]
        by_cases hj : j = k
        · subst hj
          rw [Function.update_self, hst]
          refine iff_of_false ?_ (fun h => Bool.false_ne_true h.2)
          by_cases htab : tab = s.tab j
          · rw [htab, Function.update_self]
            exact nofun
          · rw [Function.update_of_ne htab, hs.pending]
            exact fun h => htab h.1.symm
        · rw [Function.update_of_ne hj]
          by_cases htab : tab = s.tab k
          · rw [htab, Function.update_self]
            refine iff_of_false nofun ?_
            intro hpending
            have hsame := (hs.pending (s.tab k) j).mpr hpending
            exact hj (Option.some.inj (hsame.symm.trans hk))
          · rw [Function.update_of_ne htab, hs.pending]

theorem Locked.call (hs : Locked s) (hpromised : Promised s) (tab : Nat) :
    Locked (s.sharedRefresh true tab) := by
  rw [sharedRefresh]
  split
  · exact ⟨hs.holder, hs.order⟩
  · have hnew := stage_absent hpromised
    have hinside : ∀ k, (Function.update s.stage s.refreshes RefreshStage.requested k).inside =
        (s.stage k).inside := by
      intro k
      by_cases hk : k = s.refreshes
      · subst hk
        rw [Function.update_self, hnew]
        rfl
      · rw [Function.update_of_ne hk]
    constructor
    · intro k
      exact (hs.holder k).trans (by rw [← hinside k]; rfl)
    · intro j k hj hk
      have hj' : (s.stage j).inside = true := (hinside j).symm.trans hj
      by_cases hkn : k = s.refreshes
      · rw [hkn]
        refine hpromised.lt ?_
        intro habsent
        rw [habsent] at hj'
        cases hj'
      · have hk' : (Function.update s.stage s.refreshes RefreshStage.requested k).isRequested = true :=
          hk
        rw [Function.update_of_ne hkn] at hk'
        exact hs.order j k hj' hk'

theorem Locked.advance (hs : Locked s) (hmoved : Moved s t k st) (h : Advance s t k st) :
    Locked t := by
  -- a step that leaves the lock, and those who wait for it, alone
  have hkeep : st.inside = (s.stage k).inside → st.isRequested = false →
      t.lockHolder = s.lockHolder → Locked t := by
    intro hinside hrequested hlock
    have hall : ∀ j, (t.stage j).inside = (s.stage j).inside := by
      intro j
      rw [hmoved.stage]
      by_cases hj : j = k
      · subst hj
        rw [Function.update_self, hinside]
      · rw [Function.update_of_ne hj]
    constructor
    · intro j
      rw [hlock, hs.holder, hall]
    · intro i j hi hj
      rw [hall] at hi
      have hne : j ≠ k := by
        rintro rfl
        rw [hmoved.stage, Function.update_self, hrequested] at hj
        cases hj
      rw [hmoved.stage, Function.update_of_ne hne] at hj
      exact hs.order i j hi hj
  cases h with
  | within _ hinside hrequested hlock => exact hkeep hinside hrequested hlock
  | release r hold hst hlock => exact hkeep (by rw [hst, hold]; rfl) (by rw [hst]; rfl) hlock
  | settle r hold hst hlock => exact hkeep (by rw [hst, hold]; rfl) (by rw [hst]; rfl) hlock
  | grant hold hst hfree hfirst hlock =>
      have hempty : ∀ j, (s.stage j).inside = false := by
        intro j
        have hj := hs.holder j
        rw [hfree] at hj
        exact Bool.eq_false_iff.mpr fun h => absurd (hj.mpr h) nofun
      constructor
      · intro j
        rw [hlock, hmoved.stage]
        by_cases hj : j = k
        · subst hj
          rw [Function.update_self, hst]
          exact iff_of_true rfl rfl
        · rw [Function.update_of_ne hj, hempty]
          exact iff_of_false (fun h => hj (Option.some.inj h).symm) Bool.false_ne_true
      · intro i j hi hj
        rw [hmoved.stage] at hi hj
        by_cases hik : i = k
        · subst hik
          by_cases hji : j = i
          · rw [hji, Function.update_self, hst] at hj
            cases hj
          · rw [Function.update_of_ne hji] at hj
            refine Nat.lt_of_le_of_ne (Nat.le_of_not_lt fun hlt => ?_) (Ne.symm hji)
            rw [hfirst j hlt] at hj
            cases hj
        · rw [Function.update_of_ne hik, hempty] at hi
          cases hi
  | unlock hold r hst hlock =>
      have hk : s.lockHolder = some k := (hs.holder k).mpr hold
      have hempty : ∀ j, (t.stage j).inside = false := by
        intro j
        rw [hmoved.stage]
        by_cases hj : j = k
        · subst hj
          rw [Function.update_self, hst]
          rfl
        · rw [Function.update_of_ne hj]
          refine Bool.eq_false_iff.mpr fun h => hj ?_
          exact Option.some.inj (((hs.holder j).mpr h).symm.trans hk)
      rw [if_pos hk] at hlock
      constructor
      · intro j
        rw [hlock, hempty]
        exact iff_of_false nofun Bool.false_ne_true
      · intro i j hi
        rw [hempty] at hi
        cases hi

/-! ## The marks -/

/-- The log records the stages. -/
structure Marked (s : Browser) : Prop where
  released : ∀ k, .released k ∈ s.log ↔ (s.stage k).isReleased = true
  settled : ∀ k r, .settled k r ∈ s.log ↔ (s.stage k).result = some r
  called : ∀ c tab k, .called c tab k ∈ s.log →
    c < s.calls ∧ s.promise c = k ∧ s.tab k = tab ∧ k < s.refreshes
  made : ∀ c < s.calls, .called c (s.tab (s.promise c)) (s.promise c) ∈ s.log
  orderly : RefreshesOrderly s.log

theorem Marked.await (hs : Marked s) {tab : Nat} (hk : (s.stage k).pending = true)
    (htab : s.tab k = tab) (hlt : k < s.refreshes) : Marked (s.await tab k) where
  released j := by simpa [Browser.await] using hs.released j
  settled j r := by simpa [Browser.await] using hs.settled j r
  called c tab' j hmem := by
    rcases List.mem_cons.mp hmem with heq | hmem
    · injection heq with hc htab' hj
      subst hc hj
      refine ⟨Nat.lt_succ_self _, ?_, htab.trans htab'.symm, hlt⟩
      exact Function.update_self ..
    · obtain ⟨hc, hj, hrest⟩ := hs.called c tab' j hmem
      refine ⟨Nat.lt_succ_of_lt hc, ?_, hrest⟩
      exact (Function.update_of_ne (Nat.ne_of_lt hc) ..).trans hj
  made c hc := by
    rcases Nat.lt_succ_iff_lt_or_eq.mp hc with hlt' | rfl
    · have hpromise : (s.await tab k).promise c = s.promise c :=
        Function.update_of_ne (Nat.ne_of_lt hlt') ..
      rw [hpromise]
      exact List.mem_cons_of_mem _ (hs.made c hlt')
    · have hpromise : (s.await tab k).promise s.calls = k := Function.update_self ..
      rw [hpromise]
      refine List.mem_cons.mpr (.inl ?_)
      rw [← htab]
      rfl
  orderly := by
    refine ⟨?_, hs.orderly⟩
    rw [hs.released, (RefreshStage.not_released_of_pending hk).1]
    exact Bool.false_ne_true

theorem Marked.call (hs : Marked s) (hpromised : Promised s) (tab : Nat) :
    Marked (s.sharedRefresh w tab) := by
  rw [sharedRefresh]
  split
  · rename_i k hk
    obtain ⟨htab, hpending⟩ := (hpromised.pending tab k).mp hk
    refine hs.await hpending htab (hpromised.lt ?_)
    intro habsent
    rw [habsent] at hpending
    cases hpending
  · have hnew := stage_absent hpromised
    have hstage : ∀ k, ((s.runRefreshExclusive w tab).stage k).isReleased = (s.stage k).isReleased ∧
        ((s.runRefreshExclusive w tab).stage k).result = (s.stage k).result := by
      intro k
      by_cases hk : k = s.refreshes
      · subst hk
        rw [hnew]
        cases w <;> simp [runRefreshExclusive, RefreshStage.isReleased, RefreshStage.result]
      · simp [runRefreshExclusive, hk]
    have htab : ∀ k < s.refreshes, (s.runRefreshExclusive w tab).tab k = s.tab k := fun k hk =>
      Function.update_of_ne (Nat.ne_of_lt hk) ..
    have hown : (s.runRefreshExclusive w tab).tab s.refreshes = tab := Function.update_self ..
    refine Marked.await (s := { s.runRefreshExclusive w tab with
      refreshPromise := Function.update s.refreshPromise tab (some s.refreshes) })
      ⟨?_, ?_, ?_, ?_, hs.orderly⟩ ?_ hown (Nat.lt_succ_self _)
    · intro k
      exact (hs.released k).trans (by rw [← (hstage k).1])
    · intro k r
      exact (hs.settled k r).trans (by rw [← (hstage k).2])
    · intro c tab' k hmem
      obtain ⟨hc, hk, htab', hlt⟩ := hs.called c tab' k hmem
      exact ⟨hc, hk, (htab k hlt).trans htab', Nat.lt_succ_of_lt hlt⟩
    · intro c hc
      have hmem := hs.made c hc
      obtain ⟨-, -, -, hlt⟩ := hs.called _ _ _ hmem
      have hsame := htab _ hlt
      exact hsame ▸ hmem
    · cases w <;> simp [runRefreshExclusive, RefreshStage.pending]

theorem orderly_append {ms log : List RefreshMark} (hms : ∀ m ∈ ms, m.ofRefresh = true)
    (h : RefreshesOrderly log) : RefreshesOrderly (ms ++ log) := by
  induction ms with
  | nil => exact h
  | cons m ms ih =>
      have hrest := ih fun x hx => hms x (List.mem_cons_of_mem _ hx)
      have hm := hms m (List.mem_cons_self ..)
      cases m with
      | posted | released | settled => exact hrest
      | _ => cases hm

/-- A step of a refresh adds marks of that refresh. -/
theorem Marked.append (hs : Marked s) (hmoved : Moved s t k st) (ms : List RefreshMark)
    (hms : ∀ m ∈ ms, m.ofRefresh = true) (hlog : t.log = ms ++ s.log)
    (hreleased : ∀ j, .released j ∈ t.log ↔ (t.stage j).isReleased = true)
    (hsettled : ∀ j r, .settled j r ∈ t.log ↔ (t.stage j).result = some r) : Marked t where
  released := hreleased
  settled := hsettled
  called c tab j hmem := by
    rw [hlog] at hmem
    rw [hmoved.calls, hmoved.promise, hmoved.tab, hmoved.refreshes]
    rcases List.mem_append.mp hmem with hmem | hmem
    · cases hms _ hmem
    · exact hs.called c tab j hmem
  made c hc := by
    rw [hmoved.calls] at hc
    rw [hmoved.promise, hmoved.tab, hlog]
    exact List.mem_append_right _ (hs.made c hc)
  orderly := by
    rw [hlog]
    exact orderly_append hms hs.orderly

theorem Marked.advance (hs : Marked s) (hmoved : Moved s t k st) (h : Advance s t k st) :
    Marked t := by
  have hreleased : st.isReleased = (s.stage k).isReleased →
      ∀ j, .released j ∈ s.log ↔ (t.stage j).isReleased = true := by
    intro hsame j
    rw [hs.released, hmoved.stage]
    by_cases hj : j = k
    · subst hj
      rw [Function.update_self, hsame]
    · rw [Function.update_of_ne hj]
  have hsettled : st.result = (s.stage k).result →
      ∀ j r, .settled j r ∈ s.log ↔ (t.stage j).result = some r := by
    intro hsame j r
    rw [hs.settled, hmoved.stage]
    by_cases hj : j = k
    · subst hj
      rw [Function.update_self, hsame]
    · rw [Function.update_of_ne hj]
  cases h with
  | grant hold hst _ _ _ _ hlog =>
      refine hs.append hmoved [] (by simp) hlog ?_ ?_
      · rw [hlog]
        exact hreleased (by rw [hold, hst]; rfl)
      · rw [hlog]
        exact hsettled (by rw [hold, hst]; rfl)
  | unlock hold r hst _ _ hlog =>
      have hold' := RefreshStage.not_released_of_pending (RefreshStage.pending_of_inside hold)
      refine hs.append hmoved [] (by simp) hlog ?_ ?_
      · rw [hlog]
        exact hreleased (by rw [hold'.1, hst]; rfl)
      · rw [hlog]
        exact hsettled (by rw [hold'.2, hst]; rfl)
  | within hpending _ _ _ _ hlog =>
      have hold := RefreshStage.not_released_of_pending hpending.1
      have hnew := RefreshStage.not_released_of_pending hpending.2
      have hreleased' := hreleased (hnew.1.trans hold.1.symm)
      have hsettled' := hsettled (hnew.2.trans hold.2.symm)
      rcases hlog with hlog | hlog
      · refine hs.append hmoved [] (by simp) hlog ?_ ?_
        · rw [hlog]
          exact hreleased'
        · rw [hlog]
          exact hsettled'
      · refine hs.append hmoved [.posted k] (by simp [RefreshMark.ofRefresh]) hlog ?_ ?_
        · simpa [hlog] using hreleased'
        · simpa [hlog] using hsettled'
  | release r hold hst _ _ hlog =>
      refine hs.append hmoved [.released k] (by simp [RefreshMark.ofRefresh]) hlog ?_ ?_
      · intro j
        rw [hlog, List.mem_cons, hs.released, hmoved.stage]
        by_cases hj : j = k
        · subst hj
          rw [Function.update_self, hst]
          exact iff_of_true (.inl rfl) rfl
        · simp [hj]
      · simpa [hlog] using hsettled (by rw [hold, hst]; rfl)
  | settle r hold hst _ _ hlog =>
      refine hs.append hmoved [.settled k r] (by simp [RefreshMark.ofRefresh]) hlog ?_ ?_
      · simpa [hlog] using hreleased (by rw [hold, hst]; rfl)
      · intro j r'
        rw [hlog, List.mem_cons, hs.settled, hmoved.stage]
        by_cases hj : j = k
        · subst hj
          rw [Function.update_self, hst, hold]
          simp [RefreshStage.result, eq_comm]
        · simp [hj]

theorem Marked.deliver (hs : Marked s) {c : Nat} {r : RefreshResult} (hc : c < s.calls)
    (hr : s.stage (s.promise c) = .settled r) (hnot : s.log.any (·.isReceived c) = false) :
    Marked (s.mark (.received c r)) where
  released j := by simpa [mark] using hs.released j
  settled j r' := by simpa [mark] using hs.settled j r'
  called c' tab j hmem := by
    rcases List.mem_cons.mp hmem with heq | hmem
    · cases heq
    · exact hs.called c' tab j hmem
  made c' hc' := List.mem_cons_of_mem _ (hs.made c' hc')
  orderly := by
    refine ⟨⟨_, _, hs.made c hc, (hs.settled _ r).mpr (by rw [hr]; rfl)⟩, ?_, hs.orderly⟩
    intro r' hmem
    rw [List.any_eq_false] at hnot
    exact hnot _ hmem (decide_eq_true rfl)

/-! ## Every run -/

structure Inv (s : Browser) : Prop where
  promised : Promised s
  locked : Locked s
  marked : Marked s

theorem inv_start (accessToken : Nat → Option String) : Inv (start accessToken) where
  promised := {
    absent := fun _ => iff_of_true (Nat.zero_le _) rfl
    pending := fun _ _ => iff_of_false nofun (fun h => Bool.false_ne_true h.2) }
  locked := ⟨fun _ => iff_of_false nofun Bool.false_ne_true, fun _ _ h => by cases h⟩
  marked :=
    { released := fun _ => by simp [start, RefreshStage.isReleased]
      settled := fun _ _ => by simp [start, RefreshStage.result]
      called := fun _ _ _ h => by cases h
      made := fun _ h => absurd h (Nat.not_lt_zero _)
      orderly := trivial }

theorem Inv.step {e : RefreshEvent} (hi : Inv s) (h : s.step true e = some t) : Inv t := by
  rcases step_cases h with ⟨tab, -, rfl⟩ | ⟨c, r, -, hr, hc, hnot, rfl⟩ | ⟨k, st, -, hmoved, hadvance⟩
  · exact ⟨hi.promised.call tab, hi.locked.call hi.promised tab, hi.marked.call hi.promised tab⟩
  · exact ⟨⟨hi.promised.absent, hi.promised.pending⟩, ⟨hi.locked.holder, hi.locked.order⟩,
      hi.marked.deliver hc hr hnot⟩
  · exact ⟨hi.promised.advance hmoved hadvance, hi.locked.advance hmoved hadvance,
      hi.marked.advance hmoved hadvance⟩

/-- A refresh that is not over and does not wait for the lock can take a step. -/
theorem enabled (hpresent : s.stage k ≠ .absent) (hresult : (s.stage k).result = none)
    (hrequested : (s.stage k).isRequested = false) :
    ∃ e : RefreshEvent, e.refresh = some k ∧ (s.step w e).isSome := by
  cases hst : s.stage k with
  | absent => exact absurd hst hpresent
  | requested =>
      rw [hst] at hrequested
      cases hrequested
  | settled r =>
      rw [hst] at hresult
      cases hresult
  | csrf => exact ⟨.csrf k, rfl, by simp [Browser.step, hst]⟩
  | posting => exact ⟨.answer k .network, rfl, by simp [Browser.step, hst]⟩
  | csrfAgain => exact ⟨.csrf k, rfl, by simp [Browser.step, hst]⟩
  | postingAgain => exact ⟨.answer k .network, rfl, by simp [Browser.step, hst]⟩
  | returned o => exact ⟨.unlock k, rfl, by simp [Browser.step, hst]⟩
  | finished r => exact ⟨.release k, rfl, by simp [Browser.step, hst]⟩
  | released r => exact ⟨.settle k, rfl, by simp [Browser.step, hst]⟩

/-- A refresh that is not over can take a step, or one before it that has the lock or gets it first. -/
theorem progress (hi : Inv s) (hpresent : s.stage k ≠ .absent) (hresult : (s.stage k).result = none) :
    ∃ i ≤ k, ∃ e : RefreshEvent, e.refresh = some i ∧ (s.step true e).isSome := by
  cases hrequested : (s.stage k).isRequested with
  | false =>
      obtain ⟨e, he, hstep⟩ := enabled hpresent hresult hrequested
      exact ⟨k, Nat.le_refl k, e, he, hstep⟩
  | true =>
      cases hlock : s.lockHolder with
      | some j =>
          have hinside := (hi.locked.holder j).mp hlock
          obtain ⟨e, he, hstep⟩ : ∃ e : RefreshEvent, e.refresh = some j ∧ (s.step true e).isSome := by
            have hpending := RefreshStage.pending_of_inside hinside
            refine enabled ?_ (RefreshStage.not_released_of_pending hpending).2 ?_
            · intro habsent
              rw [habsent] at hpending
              cases hpending
            · cases hst : s.stage j with
              | requested =>
                  rw [hst] at hinside
                  cases hinside
              | _ => rfl
          exact ⟨j, Nat.le_of_lt (hi.locked.order j k hinside hrequested), e, he, hstep⟩
      | none =>
          have hex : ∃ i, (s.stage i).isRequested = true := ⟨k, hrequested⟩
          refine ⟨Nat.find hex, Nat.find_min' hex hrequested, .grant (Nat.find hex), rfl, ?_⟩
          have hfirst : ∀ i < Nat.find hex, (s.stage i).isRequested = false := fun i hlt =>
            Bool.eq_false_iff.mpr (Nat.find_min hex hlt)
          rw [Browser.step, if_pos ⟨Nat.find_spec hex, hlock, hfirst⟩]
          rfl

/-- Every step of a refresh takes it further. -/
theorem rank_step {e : RefreshEvent} (hi : Inv s) (h : s.step true e = some t) (k : Nat) :
    (s.stage k).rank + (if e.refresh = some k then 1 else 0) ≤ (t.stage k).rank := by
  rcases step_cases h with ⟨tab, rfl, rfl⟩ | ⟨c, r, rfl, -, -, -, rfl⟩ | ⟨j, st, he, hmoved, -⟩
  · rw [if_neg nofun, Nat.add_zero, sharedRefresh]
    split
    · exact Nat.le_refl _
    · by_cases hk : k = s.refreshes
      · subst hk
        rw [stage_absent hi.promised]
        exact Nat.zero_le _
      · simp [await, runRefreshExclusive, hk]
  · exact Nat.le_of_eq (by rw [if_neg nofun]; rfl)
  · rw [he, hmoved.stage]
    by_cases hk : k = j
    · subst hk
      rw [if_pos rfl, Function.update_self]
      exact hmoved.present
    · rw [if_neg fun heq => hk (Option.some.inj heq).symm, Function.update_of_ne hk]
      exact Nat.le_refl _

theorem rank_run {es : List RefreshEvent} (hi : Inv s) (h : Run (Steps (step true)) s es t) (k : Nat) :
    (s.stage k).rank + es.countP (·.refresh = some k) ≤ (t.stage k).rank := by
  induction h with
  | nil => exact Nat.le_refl _
  | cons hstep _ ih =>
      have hrest := ih (hi.step hstep)
      have hfirst := rank_step hi hstep k
      rw [List.countP_cons]
      simp only [decide_eq_true_eq]
      omega

theorem RefreshesOrderly.tail {after before : List RefreshMark}
    (h : RefreshesOrderly (after ++ before)) : RefreshesOrderly before := by
  induction after with
  | nil => exact h
  | cons m after ih =>
      refine ih ?_
      cases m with
      | called => exact h.2
      | received => exact h.2.2
      | _ => exact h

/-- What a caller received is the result of the refresh whose promise it got. -/
theorem Inv.received (hi : Inv s) {c : Nat} {r : RefreshResult} (h : .received c r ∈ s.log) :
    .called c (s.tab (s.promise c)) (s.promise c) ∈ s.log ∧ .settled (s.promise c) r ∈ s.log := by
  obtain ⟨after, before, hlog⟩ := List.append_of_mem h
  have horderly := hi.marked.orderly
  rw [hlog] at horderly
  obtain ⟨⟨tab, k, hcalled, hsettled⟩, -⟩ := RefreshesOrderly.tail horderly
  have hbefore : before ⊆ s.log := by
    rw [hlog]
    intro m hm
    exact List.mem_append_right _ (List.mem_cons_of_mem _ hm)
  obtain ⟨-, rfl, rfl, -⟩ := hi.marked.called c tab k (hbefore hcalled)
  exact ⟨hbefore hcalled, hbefore hsettled⟩

/-- What the tabs of a browser keep, whatever they do, and in whatever order. -/
structure SingleFlight (s : Browser) : Prop where
  exclusive : ∀ j k, (s.stage j).inFlight = true → (s.stage k).inFlight = true → j = k
  /-- The result a caller receives is that of the refresh whose promise it got, of its own tab. -/
  outcome : ∀ c r, .received c r ∈ s.log → ∃ tab k, .called c tab k ∈ s.log ∧ .settled k r ∈ s.log ∧
    s.tab k = tab
  /-- It got the promise before it was released. -/
  fresh : ∀ c tab k after before, s.log = after ++ .called c tab k :: before → .released k ∉ before
  once : ∀ c r r', .received c r ∈ s.log → .received c r' ∈ s.log → r = r'
  /-- A promise that is kept is on its way: it, or an earlier refresh, can take a step. -/
  released : ∀ tab k, s.refreshPromise tab = some k → .released k ∉ s.log ∧
    ∃ i ≤ k, ∃ e : RefreshEvent, e.refresh = some i ∧ (s.step true e).isSome
  /-- So is the result of a caller. -/
  served : ∀ c < s.calls, (∃ r, .received c r ∈ s.log) ∨ (s.step true (.deliver c)).isSome ∨
    ∃ i ≤ s.promise c, ∃ e : RefreshEvent, e.refresh = some i ∧ (s.step true e).isSome
  /-- No refresh takes more than eight steps. -/
  bounded : ∀ k es t, Run (Steps (step true)) s es t → es.countP (·.refresh = some k) ≤ 8

/-- **A browser with a lock manager has one refresh in flight, over all tabs, its callers get the
outcome of one that was not released when they called, and every promise is released.** -/
theorem singleFlight {accessToken : Nat → Option String} {es : List RefreshEvent}
    (h : Run (Steps (step true)) (start accessToken) es s) : SingleFlight s := by
  have hi : Inv s := h.invariant (I := Inv) (fun hi hstep => hi.step hstep) (inv_start accessToken)
  constructor
  · intro j k hj hk
    have hj' := (hi.locked.holder j).mpr (RefreshStage.inside_of_inFlight hj)
    have hk' := (hi.locked.holder k).mpr (RefreshStage.inside_of_inFlight hk)
    exact Option.some.inj (hj'.symm.trans hk')
  · intro c r hmem
    obtain ⟨hcalled, hsettled⟩ := hi.received hmem
    exact ⟨_, _, hcalled, hsettled, rfl⟩
  · intro c tab k after before hlog
    have horderly := hi.marked.orderly
    rw [hlog] at horderly
    exact (RefreshesOrderly.tail horderly).1
  · intro c r r' hr hr'
    have hown := (hi.marked.settled _ r).mp (hi.received hr).2
    have hown' := (hi.marked.settled _ r').mp (hi.received hr').2
    exact Option.some.inj (hown.symm.trans hown')
  · intro tab k hk
    obtain ⟨-, hpending⟩ := (hi.promised.pending tab k).mp hk
    have hkeep := RefreshStage.not_released_of_pending hpending
    refine ⟨?_, progress hi ?_ hkeep.2⟩
    · rw [hi.marked.released, hkeep.1]
      exact Bool.false_ne_true
    · intro habsent
      rw [habsent] at hpending
      cases hpending
  · intro c hc
    obtain ⟨-, -, -, hlt⟩ := hi.marked.called _ _ _ (hi.marked.made c hc)
    have hpresent : s.stage (s.promise c) ≠ .absent := fun habsent =>
      absurd ((hi.promised.absent _).mpr habsent) (Nat.not_le_of_lt hlt)
    by_cases hreceived : ∃ r, .received c r ∈ s.log
    · exact .inl hreceived
    · refine .inr ?_
      cases hresult : (s.stage (s.promise c)).result with
      | none => exact .inr (progress hi hpresent hresult)
      | some r =>
          refine .inl ?_
          have hst : s.stage (s.promise c) = .settled r := by
            cases hst : s.stage (s.promise c) with
            | settled r' =>
                rw [hst] at hresult
                rw [Option.some.inj hresult]
            | _ =>
                rw [hst] at hresult
                cases hresult
          have hnot : s.log.any (·.isReceived c) = false := by
            rw [List.any_eq_false]
            intro m hm hown
            cases m with
            | received i r' =>
                obtain rfl : i = c := of_decide_eq_true hown
                exact hreceived ⟨r', hm⟩
            | _ => cases hown
          simp [Browser.step, hst, hc, hnot]
  · intro k es t hrun
    have hrank := rank_run hi hrun k
    have hle := (t.stage k).rank_le
    omega

/-- Two tabs: the first refresh is posted again after a 403, the second meets no network, the third
gets no lock. -/
def twoTabs : List RefreshEvent :=
  [.call 0, .call 1, .call 0, .grant 0, .csrf 0, .answer 0 (.status 403), .csrf 0,
    .answer 0 (.ok (some "fresh")), .unlock 0, .grant 1, .csrf 1, .release 0, .call 0, .settle 0,
    .deliver 0, .deliver 2, .answer 1 .network, .unlock 1, .release 1, .settle 1, .deliver 1,
    .refuse 2 "InvalidStateError", .release 2, .settle 2, .deliver 3]

theorem singleFlight_twoTabs : ∃ s,
    twoTabs.foldlM (step true) (start fun _ => none) = some s ∧ SingleFlight s := by
  have hsome : (twoTabs.foldlM (step true) (start fun _ => none)).isSome := by decide +kernel
  obtain ⟨s, hs⟩ := Option.isSome_iff_exists.mp hsome
  exact ⟨s, hs, singleFlight (Run.of_foldlM hs)⟩

/-- Without a lock manager one tab still has one refresh in flight. -/
theorem exclusive_of_tab {accessToken : Nat → Option String} {es : List RefreshEvent}
    (h : Run (Steps (step w)) (start accessToken) es s) {j k : Nat} (htab : s.tab j = s.tab k)
    (hj : (s.stage j).inFlight = true) (hk : (s.stage k).inFlight = true) : j = k := by
  have hs : Promised s := by
    refine h.invariant (I := Promised) ?_ (inv_start accessToken).promised
    intro s e t hs hstep
    rcases step_cases hstep with ⟨tab, -, rfl⟩ | ⟨c, r, -, -, -, -, rfl⟩ | ⟨k, st, -, hmoved, hadvance⟩
    · exact hs.call tab
    · exact ⟨hs.absent, hs.pending⟩
    · exact hs.advance hmoved hadvance
  have hpending : ∀ i, (s.stage i).inFlight = true → s.refreshPromise (s.tab i) = some i := fun i hi =>
    (hs.pending _ i).mpr ⟨rfl, RefreshStage.pending_of_inside (RefreshStage.inside_of_inFlight hi)⟩
  have hj' := hpending j hj
  rw [htab] at hj'
  exact Option.some.inj (hj'.symm.trans (hpending k hk))

end Browser

end DeliveryTracking.Auth
