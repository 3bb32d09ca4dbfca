/-
# `DeliveryTracking.Auth.LoginLockout` — a locked account opens again

`login` counts the failures of an email in Redis, and refuses it at 15.  INCR and the
EXPIRE that gives the count its window are two commands, and either may fail:

    GET ──▶ look up, compare ──▶ wrong: INCR ──▶ EXPIRE, if the count is 1
     │                           right: DEL
     └─ at 15 or more: refused

So the count has an expiry, or an EXPIRE is under way (`Inv`), unless the EXPIRE of a
new count fails: the next INCR finds 2 and gives none.  `Expires` says when such a
failure does no harm.  In runs that meet it the lockout ends, and after a step that
does not, fifteen wrong passwords lock the account for good (`lockout_ends`).
-/
import DeliveryTracking.Counter
import DeliveryTracking.Runs

namespace DeliveryTracking.Auth

def loginFailMaxAttempts : Nat := 15

/-- `loginFailWindowSeconds`, in milliseconds. -/
def loginFailWindow : Nat := 15 * 60 * 1000

/-! ## Attempts -/

/-- Where an attempt to log in stands. -/
inductive LoginStage where
  /-- Before the GET of `checkLoginLockout`. -/
  | entered
  /-- Before the user is looked up and the password compared. -/
  | passed
  /-- Before the INCR of `recordLoginFailure`. -/
  | failed
  /-- Before the EXPIRE of `recordLoginFailure`. -/
  | expiring
  /-- Before the DEL of `clearLoginFailures`. -/
  | accepted
  deriving DecidableEq, Repr

/-- A command that is not `ok` fails without an effect, and its error is swallowed. -/
inductive LoginEvent where
  | login
  | get (i : Nat) (ok : Bool)
  /-- `valid`: the account is there and active, and the password is right. -/
  | compare (i : Nat) (valid : Bool)
  | incr (i : Nat) (ok : Bool)
  | expire (i : Nat) (ok : Bool)
  | del (i : Nat) (ok : Bool)
  /-- Time passes. -/
  | wait (ms : Nat)
  deriving DecidableEq, Repr

/-- The key `login_fail:` of an email, and the attempts with this email that are under way. -/
structure LoginRun where
  key : Option Counter
  now : Nat
  attempts : List LoginStage
  /-- When `recordLoginFailure` was last through with a failure it had counted. -/
  recordedAt : Option Nat

namespace LoginRun

def start (now : Nat) : LoginRun := ⟨none, now, [], none⟩

variable (s : LoginRun)

/-- `checkLoginLockout` refuses at the count it reads. -/
def locked : Bool := (Counter.get s.now s.key).any fun count => loginFailMaxAttempts ≤ count

def move (i : Nat) (stage : LoginStage) : LoginRun := { s with attempts := s.attempts.set i stage }

def finish (i : Nat) : LoginRun := { s with attempts := s.attempts.eraseIdx i }

/-- The count goes up; the first failure has its window started by the next command. -/
def count (i : Nat) : LoginRun :=
  let counted := { s with key := (Counter.incr s.now s.key).2 }
  if (Counter.incr s.now s.key).1 = 1 then counted.move i .expiring
  else { counted.finish i with recordedAt := some s.now }

/-- The window starts, if the command gets through. -/
def expire (i : Nat) (ok : Bool) : LoginRun :=
  { s.finish i with
    key := if ok then Counter.expire s.now loginFailWindow s.key else s.key
    recordedAt := some s.now }

def step : LoginEvent → Option LoginRun
  | .login => some { s with attempts := s.attempts ++ [.entered] }
  | .get i ok =>
    if s.attempts[i]? = some .entered then
      if ok && s.locked then some (s.finish i) else some (s.move i .passed)
    else none
  | .compare i valid =>
    if s.attempts[i]? = some .passed then some (s.move i (if valid then .accepted else .failed))
    else none
  | .incr i ok =>
    if s.attempts[i]? = some .failed then some (if ok then s.count i else s.finish i) else none
  | .expire i ok => if s.attempts[i]? = some .expiring then some (s.expire i ok) else none
  | .del i ok =>
    if s.attempts[i]? = some .accepted then
      some { s.finish i with key := if ok then none else s.key }
    else none
  | .wait ms => some { s with now := s.now + ms }

/-! ## When a lockout ends -/

/-- An account that is locked has a failure that is being recorded, or was less than a window ago. -/
def Ends : Prop :=
  s.locked = true → .expiring ∈ s.attempts ∨ ∃ t, s.recordedAt = some t ∧ s.now < t + loginFailWindow

/-- An EXPIRE that fails leaves a key that goes by itself, or none, or another EXPIRE under way. -/
def Expires (s : LoginRun) : LoginEvent → Prop
  | .expire i false => Counter.Stays s.key → .expiring ∈ s.attempts.eraseIdx i
  | _ => True

instance : ∀ e, Decidable (s.Expires e)
  | .expire _ false => inferInstanceAs (Decidable (_ → _))
  | .expire _ true => .isTrue trivial
  | .login => .isTrue trivial
  | .get _ _ => .isTrue trivial
  | .compare _ _ => .isTrue trivial
  | .incr _ _ => .isTrue trivial
  | .del _ _ => .isTrue trivial
  | .wait _ => .isTrue trivial

/-- A key that stays is about to be given an expiry; one that has an expiry was given it by a failure
that was recorded. -/
structure Inv : Prop where
  stays : Counter.Stays s.key → .expiring ∈ s.attempts
  expiresAt : ∀ c e, s.key = some c → c.expiresAt = some e →
    ∃ t, s.recordedAt = some t ∧ e ≤ t + loginFailWindow
  past : ∀ t, s.recordedAt = some t → t ≤ s.now
  positive : ∀ c, s.key = some c → 0 < c.count

variable {s t : LoginRun} {e : LoginEvent} {i : Nat}

theorem inv_start (now : Nat) : (start now).Inv where
  stays := by
    rintro ⟨n, h⟩
    cases h
  expiresAt c e h := by cases h
  past t h := by cases h
  positive c h := by cases h

theorem Inv.ends (h : s.Inv) : s.Ends := by
  intro hlocked
  rw [locked, Option.any_eq_true] at hlocked
  obtain ⟨n, hget, -⟩ := hlocked
  rcases Counter.get_eq_some_iff.mp hget with hkey | ⟨e, hkey, hlt⟩
  · exact Or.inl (h.stays ⟨n, hkey⟩)
  · obtain ⟨t, ht, hle⟩ := h.expiresAt _ e hkey rfl
    exact Or.inr ⟨t, ht, Nat.lt_of_lt_of_le hlt hle⟩

/-! ### One step -/

/-- A step that leaves the key and the attempts in their EXPIRE. -/
theorem Inv.of_same (h : s.Inv) (hkey : t.key = s.key) (hrecorded : t.recordedAt = s.recordedAt)
    (hnow : s.now ≤ t.now) (hexpiring : .expiring ∈ s.attempts → .expiring ∈ t.attempts) : t.Inv where
  stays hstays := hexpiring (h.stays (hkey ▸ hstays))
  expiresAt c e hc he := by
    rw [hrecorded]
    exact h.expiresAt c e (hkey ▸ hc) he
  past r hr := Nat.le_trans (h.past r (hrecorded ▸ hr)) hnow
  positive c hc := h.positive c (hkey ▸ hc)

theorem count_eq {n : Nat} {key : Option Counter} (h : Counter.incr s.now s.key = (n, key)) :
    s.count i = if n = 1 then ⟨key, s.now, s.attempts.set i .expiring, s.recordedAt⟩
      else ⟨key, s.now, s.attempts.eraseIdx i, some s.now⟩ := by
  rw [count, h]
  rfl

theorem Inv.count (h : s.Inv) (hi : s.attempts[i]? = some .failed) : (s.count i).Inv := by
  have hne : LoginStage.expiring ≠ .failed := LoginStage.noConfusion
  rcases Counter.incr_cases s.now s.key with
    ⟨n, hkey, hincr⟩ | ⟨n, e, hkey, -, hincr⟩ | ⟨-, hincr⟩
  · -- the key stays, and the EXPIRE of another failure is under way
    have hexpiring := h.stays ⟨n, hkey⟩
    have hnone : ∀ c e, some (⟨n + 1, none⟩ : Counter) = some c → c.expiresAt ≠ some e := by
      intro c e hc
      obtain rfl := Option.some.inj hc
      exact nofun
    have hpos : ∀ c, some (⟨n + 1, none⟩ : Counter) = some c → 0 < c.count := by
      intro c hc
      obtain rfl := Option.some.inj hc
      exact Nat.succ_pos n
    rw [count_eq hincr]
    split
    · refine ⟨?_, ?_, h.past, ?_⟩
      · intro _
        exact mem_set_of_ne hi hexpiring hne
      · intro c e hc he
        exact absurd he (hnone c e hc)
      · exact hpos
    · refine ⟨?_, ?_, ?_, ?_⟩
      · intro _
        exact mem_eraseIdx_of_ne hi hexpiring hne
      · intro c e hc he
        exact absurd he (hnone c e hc)
      · intro r hr
        obtain rfl := Option.some.inj hr
        exact Nat.le_refl _
      · exact hpos
  · -- the expiry is kept
    obtain ⟨r, hr, hle⟩ := h.expiresAt _ e hkey rfl
    have hnot : ¬Counter.Stays (some ⟨n + 1, some e⟩) := by
      rintro ⟨m, hm⟩
      cases hm
    have hexpiry : ∀ c e', some (⟨n + 1, some e⟩ : Counter) = some c → c.expiresAt = some e' →
        e' = e := by
      intro c e' hc he
      obtain rfl := Option.some.inj hc
      exact (Option.some.inj he).symm
    have hpos : ∀ c, some (⟨n + 1, some e⟩ : Counter) = some c → 0 < c.count := by
      intro c hc
      obtain rfl := Option.some.inj hc
      exact Nat.succ_pos n
    rw [count_eq hincr]
    split
    · refine ⟨?_, ?_, h.past, ?_⟩
      · intro hstays
        exact absurd hstays hnot
      · intro c e' hc he
        rw [hexpiry c e' hc he]
        exact ⟨r, hr, hle⟩
      · exact hpos
    · refine ⟨?_, ?_, ?_, ?_⟩
      · intro hstays
        exact absurd hstays hnot
      · intro c e' hc he
        rw [hexpiry c e' hc he]
        exact ⟨s.now, rfl, Nat.le_trans hle (Nat.add_le_add_right (h.past r hr) _)⟩
      · intro r' hr'
        obtain rfl := Option.some.inj hr'
        exact Nat.le_refl _
      · exact hpos
  · -- a new key: its own EXPIRE comes next
    rw [count_eq hincr, if_pos rfl]
    refine ⟨?_, ?_, h.past, ?_⟩
    · intro _
      exact mem_set_self hi
    · intro c e hc he
      obtain rfl := Option.some.inj hc
      cases he
    · intro c hc
      obtain rfl := Option.some.inj hc
      exact Nat.one_pos

theorem Inv.expire (h : s.Inv) (ok : Bool) (hguard : s.Expires (.expire i ok)) :
    (s.expire i ok).Inv := by
  refine ⟨?_, ?_, ?_, ?_⟩
  · intro hstays
    cases ok with
    | true => exact absurd hstays Counter.not_stays_expire
    | false => exact hguard hstays
  · intro c e hc he
    refine ⟨s.now, rfl, ?_⟩
    cases ok with
    | true =>
      rw [Counter.expiresAt_expire hc] at he
      obtain rfl := Option.some.inj he
      exact Nat.le_refl _
    | false =>
      obtain ⟨r, hr, hle⟩ := h.expiresAt c e hc he
      exact Nat.le_trans hle (Nat.add_le_add_right (h.past r hr) _)
  · intro r hr
    obtain rfl := Option.some.inj hr
    exact Nat.le_refl _
  · intro c hc
    cases ok with
    | true =>
      obtain ⟨old, hold, hcount⟩ := Counter.count_expire hc
      rw [hcount]
      exact h.positive old hold
    | false => exact h.positive c hc

theorem inv_step (h : s.Inv) (hstep : s.step e = some t) (hguard : s.Expires e) : t.Inv := by
  cases e with
  | login =>
    cases hstep
    exact h.of_same rfl rfl (Nat.le_refl _) (List.mem_append_left _)
  | get i ok =>
    obtain ⟨hi, hstep⟩ := Option.ite_none_right_eq_some.mp hstep
    have hne : LoginStage.expiring ≠ .entered := LoginStage.noConfusion
    split at hstep
    · cases hstep
      exact h.of_same rfl rfl (Nat.le_refl _) fun hm => mem_eraseIdx_of_ne hi hm hne
    · cases hstep
      exact h.of_same rfl rfl (Nat.le_refl _) fun hm => mem_set_of_ne hi hm hne
  | compare i valid =>
    obtain ⟨hi, hstep⟩ := Option.ite_none_right_eq_some.mp hstep
    cases hstep
    exact h.of_same rfl rfl (Nat.le_refl _) fun hm => mem_set_of_ne hi hm LoginStage.noConfusion
  | incr i ok =>
    obtain ⟨hi, hstep⟩ := Option.ite_none_right_eq_some.mp hstep
    cases ok with
    | true =>
      cases hstep
      exact h.count hi
    | false =>
      cases hstep
      exact h.of_same rfl rfl (Nat.le_refl _) fun hm => mem_eraseIdx_of_ne hi hm LoginStage.noConfusion
  | expire i ok =>
    obtain ⟨-, hstep⟩ := Option.ite_none_right_eq_some.mp hstep
    cases hstep
    exact h.expire ok hguard
  | del i ok =>
    obtain ⟨hi, hstep⟩ := Option.ite_none_right_eq_some.mp hstep
    cases hstep
    cases ok with
    | true =>
      refine ⟨?_, ?_, h.past, ?_⟩
      · rintro ⟨n, hn⟩
        cases hn
      · intro c e hc
        cases hc
      · intro c hc
        cases hc
    | false =>
      exact h.of_same rfl rfl (Nat.le_refl _) fun hm => mem_eraseIdx_of_ne hi hm LoginStage.noConfusion
  | wait ms =>
    cases hstep
    exact h.of_same rfl rfl (Nat.le_add_right _ _) fun hm => hm

/-! ### A key that stays -/

/-- One more attempt, which stands at `stage`. -/
def adding (s : LoginRun) (stage : LoginStage) : LoginRun :=
  { s with attempts := s.attempts ++ [stage] }

theorem attempts_adding (s : LoginRun) (stage : LoginStage) :
    (s.adding stage).attempts[s.attempts.length]? = some stage :=
  List.getElem?_concat_length

theorem move_adding (s : LoginRun) (stage new : LoginStage) :
    (s.adding stage).move s.attempts.length new = s.adding new := by
  have hset : (s.attempts ++ [stage]).set s.attempts.length new = s.attempts ++ [new] := by
    rw [List.set_append_right _ _ (Nat.le_refl _), Nat.sub_self]
    rfl
  rw [move, adding, adding, hset]

theorem erase_adding (s : LoginRun) (stage : LoginStage) :
    (s.adding stage).attempts.eraseIdx s.attempts.length = s.attempts := by
  show (s.attempts ++ [stage]).eraseIdx s.attempts.length = s.attempts
  rw [List.eraseIdx_append_of_length_le (Nat.le_refl _), Nat.sub_self, List.eraseIdx_cons_zero,
    List.append_nil]

/-- An attempt with a wrong password, whose GET fails. -/
def failedAttempt (i : Nat) : List LoginEvent :=
  [.login, .get i false, .compare i false, .incr i true]

/-- It counts one more on a key that stays, and gives it no expiry. -/
theorem run_failedAttempt {n : Nat} (hpos : 0 < n) (hkey : s.key = some ⟨n, none⟩) :
    Run (Guarded (Steps step) Expires) s (failedAttempt s.attempts.length)
      { s with key := some ⟨n + 1, none⟩, recordedAt := some s.now } := by
  have hget : (s.adding .entered).step (.get s.attempts.length false) = some (s.adding .passed) := by
    rw [step, if_pos (attempts_adding s .entered), Bool.false_and, if_neg Bool.false_ne_true,
      move_adding]
  have hcompare : (s.adding .passed).step (.compare s.attempts.length false) =
      some (s.adding .failed) := by
    rw [step, if_pos (attempts_adding s .passed), if_neg Bool.false_ne_true, move_adding]
  have hcount : Counter.incr (s.adding .failed).now (s.adding .failed).key =
      (n + 1, some ⟨n + 1, none⟩) := by
    show Counter.incr s.now s.key = _
    rw [hkey]
    rfl
  have hincr : (s.adding .failed).step (.incr s.attempts.length true) =
      some { s with key := some ⟨n + 1, none⟩, recordedAt := some s.now } := by
    rw [step, if_pos (attempts_adding s .failed), if_pos rfl, count_eq hcount, if_neg (by omega),
      erase_adding]
    rfl
  exact .cons ⟨rfl, trivial⟩ (.cons ⟨hget, trivial⟩ (.cons ⟨hcompare, trivial⟩
    (.single ⟨hincr, trivial⟩)))

/-- As many as one likes, one after the other. -/
theorem run_failedAttempts {n : Nat} (hpos : 0 < n) (hkey : s.key = some ⟨n, none⟩) (m : Nat) :
    ∃ es, Run (Guarded (Steps step) Expires) s es
      { s with key := some ⟨n + (m + 1), none⟩, recordedAt := some s.now } := by
  induction m with
  | zero => exact ⟨_, run_failedAttempt hpos hkey⟩
  | succ m ih =>
    obtain ⟨es, hrun⟩ := ih
    have hlast := run_failedAttempt (n := n + (m + 1))
      (s := { s with key := some ⟨n + (m + 1), none⟩, recordedAt := some s.now })
      (Nat.add_pos_left hpos _) rfl
    exact ⟨_, hrun.append hlast⟩

/-- Once a key stays and no EXPIRE is under way, the account can be locked for good. -/
theorem not_ends_of_stays (h : ∀ c, s.key = some c → 0 < c.count) (hstays : Counter.Stays s.key)
    (hnone : .expiring ∉ s.attempts) :
    ∃ es u, Run (Guarded (Steps step) Expires) s es u ∧ ¬u.Ends := by
  obtain ⟨n, hkey⟩ := hstays
  obtain ⟨es, hrun⟩ := run_failedAttempts (h _ hkey) hkey loginFailMaxAttempts
  have hwait : Guarded (Steps step) Expires
      { s with key := some ⟨n + (loginFailMaxAttempts + 1), none⟩, recordedAt := some s.now }
      (.wait loginFailWindow)
      { s with
        key := some ⟨n + (loginFailMaxAttempts + 1), none⟩, now := s.now + loginFailWindow
        recordedAt := some s.now } := ⟨rfl, trivial⟩
  refine ⟨_, _, hrun.append (.single hwait), ?_⟩
  intro hends
  have hlocked : locked { s with
      key := some ⟨n + (loginFailMaxAttempts + 1), none⟩, now := s.now + loginFailWindow
      recordedAt := some s.now } = true := by
    rw [locked, Counter.get_of_stays rfl, Option.any_some, decide_eq_true_eq]
    omega
  rcases hends hlocked with hexpiring | ⟨t, ht, hlt⟩
  · exact hnone hexpiring
  · obtain rfl := Option.some.inj ht
    exact Nat.lt_irrefl _ hlt

/-- **In every run in which an EXPIRE fails only where that does no harm, a lockout ends a window
after the last failure; after one that fails elsewhere the run can go on to a lockout that does
not.** -/
theorem lockout_ends (now : Nat) :
    (∀ es s, Run (Guarded (Steps step) Expires) (start now) es s → s.Ends) ∧
      ∀ es s e t, Run (Guarded (Steps step) Expires) (start now) es s → s.step e = some t →
        ¬s.Expires e → ∃ es' u, Run (Guarded (Steps step) Expires) t es' u ∧ ¬u.Ends := by
  have hinv : ∀ {es s}, Run (Guarded (Steps step) Expires) (start now) es s → s.Inv := by
    intro es s hrun
    refine hrun.invariant ?_ (inv_start now)
    intro s e t hs hstep
    exact inv_step hs hstep.1 hstep.2
  constructor
  · intro es s hrun
    exact (hinv hrun).ends
  · intro es s e t hrun hstep hnot
    cases e with
    | expire i ok =>
      cases ok with
      | true => exact absurd trivial hnot
      | false =>
        obtain ⟨-, hstep⟩ := Option.ite_none_right_eq_some.mp hstep
        cases hstep
        obtain ⟨hstays, hnone⟩ := Classical.not_imp.mp hnot
        exact not_ends_of_stays (hinv hrun).positive hstays hnone
    | login => exact absurd trivial hnot
    | get i ok => exact absurd trivial hnot
    | compare i valid => exact absurd trivial hnot
    | incr i ok => exact absurd trivial hnot
    | del i ok => exact absurd trivial hnot
    | wait ms => exact absurd trivial hnot

end LoginRun

/-! ## Fifteen failures -/

/-- A wrong password, one attempt at a time; the EXPIRE of the first failure gets through, or not. -/
def failures (n : Nat) (ok : Bool) : List LoginEvent :=
  (List.range n).flatMap fun k => [.login, .get 0 true, .compare 0 false, .incr 0 true] ++
    if k = 0 then [.expire 0 ok] else []

/-- Without the expiry the account is still locked a year later. -/
theorem lockout_stays :
    ¬∀ (now : Nat) (es : List LoginEvent) (s : LoginRun),
      Run (Steps LoginRun.step) (.start now) es s → s.Ends := by
  intro hclaim
  have hend : ((failures 15 false ++ [LoginEvent.wait 31536000000]).foldlM LoginRun.step
      (.start 0)).any (fun s : LoginRun => s.locked && s.attempts.isEmpty && s.recordedAt == some 0 &&
        s.now == 31536000000) = true := by
    decide +kernel
  obtain ⟨s, hrun, hs⟩ := Run.of_foldlM_any hend
  simp only [Bool.and_eq_true, List.isEmpty_iff, beq_iff_eq] at hs
  obtain ⟨⟨⟨hlocked, hattempts⟩, hrecorded⟩, hnow⟩ := hs
  rcases hclaim 0 _ s hrun hlocked with hexpiring | ⟨t, ht, hlt⟩
  · rw [hattempts] at hexpiring
    cases hexpiring
  · rw [hrecorded] at ht
    obtain rfl := Option.some.inj ht
    rw [hnow] at hlt
    exact absurd hlt (by decide)

end DeliveryTracking.Auth
