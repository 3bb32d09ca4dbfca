/-
# `DeliveryTracking.Tracking.RateLimits` — positions and lots that come too fast

Two limits of a driver, each on a key of the cache that a call reads, and sets again
where it is let through.

    isRateLimited        true, for a time that is set apart
    isBatchRateLimited   how many lots were let through, for a minute

The count of the second is renewed with each lot: it is that of the lots let through one
within a minute of the other, up to now (`batch_budget`).  So a minute never holds more
than the budget, and a driver is refused as well who sends them a minute apart, but for a
second.  Redis counts whole seconds: another time leaves the first limit without effect
while it answers (`position_refused_iff`).
-/
import DeliveryTracking.Cache.CacheService
import Mathlib.Data.List.Induction
import Mathlib.Algebra.Order.Field.Rat
import Mathlib.Tactic.Linarith
import Mathlib.Tactic.NormNum

namespace DeliveryTracking.Tracking.RateLimits

open DeliveryTracking.Cache

/-! ## A key of the cache -/

/-- Redis, that answers, or the memory of the process. -/
inductive Backing where
  | redis
  | memory
  deriving DecidableEq, Repr

/-- What either holds of the key. -/
structure Cell (α : Type) where
  redis : Option (Lease α)
  memory : Option (α × ℚ)

def Cell.empty {α : Type} : Cell α := ⟨none, none⟩

section Cell

variable {α : Type}

def Cell.get (b : Backing) (now : Nat) (cell : Cell α) : Option α :=
  match b with
  | .redis => Lease.get now cell.redis
  | .memory => (cell.memory.filter fun entry => (now : ℚ) ≤ entry.2).map Prod.fst

/-- A time that `SETEX` refuses is kept in the memory. -/
def Cell.set (b : Backing) (now : Nat) (ttlSeconds : ℚ) (a : α) (cell : Cell α) : Cell α :=
  match b, redisTtl ttlSeconds with
  | .redis, some ttl => { cell with redis := some ⟨a, now + ttl * 1000⟩ }
  | _, _ => { cell with memory := some (a, now + ttlSeconds * 1000) }

/-- What is set at `t` is found at `now`. -/
def serves (b : Backing) (ttlSeconds : ℚ) (t now : Nat) : Bool :=
  match b with
  | .redis => (redisTtl ttlSeconds).any fun ttl => decide (now < t + ttl * 1000)
  | .memory => decide ((now : ℚ) ≤ t + ttlSeconds * 1000)

variable {b : Backing} {ttlSeconds : ℚ} {t now : Nat} {a : α} {cell : Cell α}

theorem get_set (h : b = .redis → (redisTtl ttlSeconds).isSome = true) :
    (cell.set b t ttlSeconds a).get b now = if serves b ttlSeconds t now then some a else none := by
  cases b with
  | memory =>
    show ((some (a, (t : ℚ) + ttlSeconds * 1000)).filter _).map Prod.fst = _
    rw [Option.filter_some, serves]
    split
    · rfl
    · rfl
  | redis =>
    obtain ⟨ttl, httl⟩ := Option.isSome_iff_exists.mp (h rfl)
    simp only [Cell.set, Cell.get, httl, serves, Option.any_some, decide_eq_true_eq, Lease.get,
      Lease.alive_some]
    split
    · rfl
    · rfl

end Cell

/-! ## The two limits -/

def BATCH_WINDOW_S : ℚ := 60

/-- `isRateLimited`; `ttlMs` is `POSITION_RATE_LIMIT_TTL_MS`. -/
def isRateLimited (b : Backing) (ttlMs : ℚ) (cell : Cell Bool) (now : Nat) : Bool × Cell Bool :=
  if ttlMs ≤ 0 then (false, cell)
  else if (cell.get b now).any id then (true, cell)
  else (false, cell.set b now (ttlMs / 1000) true)

/-- `isBatchRateLimited`; `max` is `BATCH_RATE_LIMIT_PER_MIN`. -/
def isBatchRateLimited (b : Backing) (max : ℚ) (cell : Cell Nat) (now : Nat) : Bool × Cell Nat :=
  if max ≤ 0 then (false, cell)
  else if (cell.get b now).any fun current : Nat => decide (max ≤ (current : ℚ)) then (true, cell)
  else (false, cell.set b now BATCH_WINDOW_S ((cell.get b now).getD 0 + 1))

section Calls

variable {α : Type} (limit : Cell α → Nat → Bool × Cell α)

/-- The key after the calls at these times, one after the other. -/
def after (times : List Nat) : Cell α := final limit .empty times

/-- Whether a call at `now` is refused. -/
def refused (times : List Nat) (now : Nat) : Bool := (limit (after limit times) now).1

/-- The times of the calls that were let through, the last one first. -/
def accepted (times : List Nat) : List Nat :=
  (((trace limit .empty times).filter fun call => !call.output).map Tick.input).reverse

theorem after_append (times : List Nat) (now : Nat) :
    after limit (times ++ [now]) = (limit (after limit times) now).2 := final_append ..

theorem accepted_append (times : List Nat) (now : Nat) :
    accepted limit (times ++ [now]) =
      if refused limit times now then accepted limit times else now :: accepted limit times := by
  rw [accepted, trace_append, List.filter_append, List.map_append, List.reverse_append]
  show ((([⟨after limit times, now, refused limit times now⟩] : List (Tick ..)).filter
    fun call => !call.output).map Tick.input).reverse ++ accepted limit times = _
  cases hrefused : refused limit times now with
  | true => rfl
  | false => rfl

theorem accepted_subset (times : List Nat) : ∀ t ∈ accepted limit times, t ∈ times := by
  induction times using List.reverseRecOn with
  | nil => exact fun t ht => ht
  | append_singleton times now ih =>
    intro t ht
    rw [accepted_append] at ht
    split at ht
    · exact List.mem_append_left _ (ih t ht)
    · rcases List.mem_cons.mp ht with rfl | ht
      · exact List.mem_append_right _ (List.mem_singleton_self _)
      · exact List.mem_append_left _ (ih t ht)

/-- Calls one after the other are let through one after the other. -/
theorem accepted_sorted {times : List Nat} (h : times.Pairwise (· ≤ ·)) :
    (accepted limit times).Pairwise (· ≥ ·) := by
  induction times using List.reverseRecOn with
  | nil => exact List.Pairwise.nil
  | append_singleton times now ih =>
    obtain ⟨hsorted, -, hlast⟩ := List.pairwise_append.mp h
    rw [accepted_append]
    split
    · exact ih hsorted
    · exact List.pairwise_cons.mpr ⟨fun t ht =>
        hlast t (accepted_subset limit times t ht) now (List.mem_singleton_self _), ih hsorted⟩

end Calls

/-! ## Lots -/

/-- How many lots, the last one first, were let through one within a minute of the other, up to
`now`. -/
def chained (b : Backing) (now : Nat) : List Nat → Nat
  | [] => 0
  | t :: earlier => if serves b BATCH_WINDOW_S t now then chained b t earlier + 1 else 0

/-- The time is in the minute from `a` on. -/
def inMinute (a t : Nat) : Bool := decide (a ≤ t ∧ t < a + 60000)

variable {b : Backing} {max ttlMs : ℚ}

theorem redisTtl_window : redisTtl BATCH_WINDOW_S = some 60 := by decide +kernel

theorem serves_of_lt {t now : Nat} (h : now < t + 60000) : serves b BATCH_WINDOW_S t now = true := by
  cases b with
  | redis =>
    rw [serves, redisTtl_window]
    exact decide_eq_true h
  | memory =>
    refine decide_eq_true ?_
    have hcast : (now : ℚ) < t + 60000 := by exact_mod_cast h
    rw [BATCH_WINDOW_S]
    linarith

/-- The key holds the count. -/
theorem getD_after (hmax : 0 < max) (times : List Nat) : ∀ now,
    ((after (isBatchRateLimited b max) times).get b now).getD 0 =
      chained b now (accepted (isBatchRateLimited b max) times) := by
  induction times using List.reverseRecOn with
  | nil =>
    intro now
    cases b with
    | redis => rfl
    | memory => rfl
  | append_singleton times t ih =>
    intro now
    rw [after_append, accepted_append]
    show ((isBatchRateLimited b max (after _ times) t).2.get b now).getD 0 =
      chained b now (if (isBatchRateLimited b max (after _ times) t).1 then _ else _)
    rw [isBatchRateLimited, if_neg (not_le.mpr hmax)]
    split
    · exact ih now
    · show ((Cell.set b t BATCH_WINDOW_S _ _).get b now).getD 0 = chained b now (t :: _)
      rw [get_set (fun _ => by rw [redisTtl_window]; rfl), chained, ih t]
      split
      · rfl
      · rfl

/-- A lot is refused where the count has reached the budget. -/
theorem batch_refused_iff (hmax : 0 < max) (times : List Nat) (now : Nat) :
    refused (isBatchRateLimited b max) times now = true ↔
      max ≤ chained b now (accepted (isBatchRateLimited b max) times) := by
  have hcount := getD_after (b := b) hmax times now
  rw [refused, isBatchRateLimited, if_neg (not_le.mpr hmax)]
  cases hget : (after (isBatchRateLimited b max) times).get b now with
  | none =>
    rw [hget, Option.getD_none] at hcount
    rw [← hcount]
    exact ⟨fun h => (by cases h), fun h => absurd h (not_le.mpr (by simpa using hmax))⟩
  | some current =>
    rw [hget, Option.getD_some] at hcount
    rw [← hcount, Option.any_some]
    by_cases hfull : max ≤ (current : ℚ)
    · simp [hfull]
    · simp [hfull]

/-- Each lot was let through below the budget. -/
theorem chained_lt (hmax : 0 < max) (times : List Nat) : ∀ t earlier,
    t :: earlier <:+ accepted (isBatchRateLimited b max) times → (chained b t earlier : ℚ) < max := by
  induction times using List.reverseRecOn with
  | nil =>
    intro t earlier h
    cases List.suffix_nil.mp h
  | append_singleton times now ih =>
    intro t earlier h
    rw [accepted_append] at h
    split at h
    · exact ih t earlier h
    · rename_i hrefused
      rcases List.suffix_cons_iff.mp h with hhere | hbefore
      · obtain ⟨rfl, rfl⟩ := List.cons.inj hhere
        exact not_le.mp (mt (batch_refused_iff hmax times t).mpr hrefused)
      · exact ih t earlier hbefore

/-- The lots of a minute before a lot of that minute are all in its chain. -/
theorem countP_le_chained {a : Nat} (earlier : List Nat) : ∀ t, t < a + 60000 →
    (t :: earlier).Pairwise (· ≥ ·) →
      earlier.countP (inMinute a) ≤ chained b t earlier := by
  induction earlier with
  | nil => exact fun _ _ _ => Nat.le_refl _
  | cons u earlier ih =>
    intro t ht hsorted
    obtain ⟨hbefore, hrest⟩ := List.pairwise_cons.mp hsorted
    have hut : t ≥ u := hbefore u (List.mem_cons_self ..)
    by_cases hu : a ≤ u
    · have hin : inMinute a u = true := decide_eq_true ⟨hu, Nat.lt_of_le_of_lt hut ht⟩
      rw [List.countP_cons_of_pos hin, chained, if_pos (serves_of_lt (by omega))]
      exact Nat.succ_le_succ (ih u (Nat.lt_of_le_of_lt hut ht) hrest)
    · have hnone : (u :: earlier).countP (inMinute a) = 0 := by
        refine List.countP_eq_zero.mpr fun w hw hin => ?_
        obtain ⟨haw, -⟩ := of_decide_eq_true hin
        rcases List.mem_cons.mp hw with rfl | hw
        · exact hu haw
        · have hwu : u ≥ w := (List.pairwise_cons.mp hrest).1 w hw
          omega
      rw [hnone]
      exact Nat.zero_le _

theorem countP_window_lt (hmax : 0 < max) {a : Nat} : ∀ lots : List Nat, lots.Pairwise (· ≥ ·) →
    (∀ t earlier, t :: earlier <:+ lots → (chained b t earlier : ℚ) < max) →
      (lots.countP (inMinute a) : ℚ) < max + 1 := by
  intro lots
  induction lots with
  | nil =>
    intro _ _
    rw [List.countP_nil, Nat.cast_zero]
    linarith
  | cons t earlier ih =>
    intro hsorted hchained
    by_cases ht : a ≤ t ∧ t < a + 60000
    · have hle : earlier.countP (inMinute a) ≤ chained b t earlier :=
        countP_le_chained earlier t ht.2 hsorted
      have hlt := hchained t earlier (List.suffix_refl _)
      have hcast : (earlier.countP (inMinute a) : ℚ) ≤ chained b t earlier := by
        exact_mod_cast hle
      rw [List.countP_cons_of_pos (show inMinute a t = true from decide_eq_true ht)]
      push_cast
      linarith
    · rw [List.countP_cons_of_neg (show ¬ inMinute a t = true from mt of_decide_eq_true ht)]
      exact ih (List.pairwise_cons.mp hsorted).2
        fun u rest hsuffix => hchained u rest (hsuffix.trans (List.suffix_cons ..))

/-- **A lot is refused exactly where the lots let through one within a minute of the other have
reached the budget**, and no minute holds more than the budget. -/
theorem batch_budget (b : Backing) (hmax : 0 < max) {times : List Nat} (h : times.Pairwise (· ≤ ·)) :
    (∀ now, refused (isBatchRateLimited b max) times now = true ↔
      max ≤ chained b now (accepted (isBatchRateLimited b max) times)) ∧
    ∀ a, ((accepted (isBatchRateLimited b max) times).countP
      (inMinute a) : ℚ) < max + 1 :=
  ⟨batch_refused_iff hmax times, fun _ =>
    countP_window_lt hmax _ (accepted_sorted _ h) (chained_lt hmax times)⟩

/-- Two lots are allowed: the third one is refused, fifty seconds after the second one. -/
theorem batch_budget_third :
    refused (isBatchRateLimited .redis 2) [1000, 51000] 101000 = true := by
  refine ((batch_budget .redis (show (0 : ℚ) < 2 by norm_num)
    (show [1000, 51000].Pairwise (· ≤ ·) by decide)).1 101000).mpr ?_
  decide +kernel

/-! ## Positions -/

/-- Redis never has a key whose time it refuses. -/
theorem redis_after (httl : redisTtl (ttlMs / 1000) = none) (times : List Nat) :
    (after (isRateLimited .redis ttlMs) times).redis = none := by
  induction times using List.reverseRecOn with
  | nil => rfl
  | append_singleton times t ih =>
    rw [after_append, isRateLimited]
    split
    · exact ih
    · split
      · exact ih
      · simp only [Cell.set, httl]
        exact ih

/-- The key is there while the last position that was let through is served. -/
theorem get_after (httl : 0 < ttlMs) (times : List Nat) : ∀ now,
    (after (isRateLimited b ttlMs) times).get b now =
      if (accepted (isRateLimited b ttlMs) times).head?.any (serves b (ttlMs / 1000) · now)
      then some true else none := by
  by_cases hwhole : b = .redis → (redisTtl (ttlMs / 1000)).isSome = true
  · induction times using List.reverseRecOn with
    | nil =>
      intro now
      cases b with
      | redis => rfl
      | memory => rfl
    | append_singleton times t ih =>
      intro now
      rw [after_append, accepted_append]
      show (isRateLimited b ttlMs (after _ times) t).2.get b now =
        if (if (isRateLimited b ttlMs (after _ times) t).1 then _ else _ : List Nat).head?.any _
        then _ else _
      rw [isRateLimited, if_neg (not_le.mpr httl)]
      split
      · exact ih now
      · exact get_set hwhole
  · obtain ⟨rfl, hnone⟩ := Classical.not_imp.mp hwhole
    rw [Option.not_isSome_iff_eq_none] at hnone
    intro now
    rw [Cell.get, redis_after hnone, if_neg]
    · rfl
    · rw [Bool.not_eq_true, Option.any_eq_false]
      intro t _
      rw [serves, hnone]
      rfl

/-- `SETEX` takes a number of seconds that is whole and positive. -/
theorem redisTtl_eq_some_iff {x : ℚ} {n : Nat} : redisTtl x = some n ↔ 0 < n ∧ x = n := by
  rw [redisTtl]
  constructor
  · intro h
    obtain ⟨⟨hden, hnum⟩, hn⟩ := Option.ite_none_right_eq_some.mp h
    have hx : ((x.num : ℤ) : ℚ) = x := (Rat.den_eq_one_iff x).mp hden
    obtain rfl : x.num.toNat = n := Option.some.inj hn
    have hcast : ((x.num.toNat : ℤ) : ℚ) = x := by rw [Int.toNat_of_nonneg hnum.le, hx]
    exact ⟨by omega, by exact_mod_cast hcast.symm⟩
  · rintro ⟨hn, rfl⟩
    rw [if_pos ⟨Rat.den_natCast n, by rw [Rat.num_natCast]; exact_mod_cast hn⟩, Rat.num_natCast]
    rfl

/-- When a position that was let through at `t` keeps back one at `now`. -/
def KeepsBack (b : Backing) (ttlMs : ℚ) (t now : Nat) : Prop :=
  match b with
  | .redis => ∃ seconds : Nat, ttlMs = seconds * 1000 ∧ now < t + seconds * 1000
  | .memory => (now : ℚ) ≤ t + ttlMs

theorem serves_iff (httl : 0 < ttlMs) {t now : Nat} :
    serves b (ttlMs / 1000) t now = true ↔ KeepsBack b ttlMs t now := by
  cases b with
  | memory =>
    rw [serves, decide_eq_true_eq, KeepsBack, div_mul_cancel₀ _ (by norm_num)]
  | redis =>
    rw [serves, Option.any_eq_true]
    constructor
    · rintro ⟨n, hn, hlt⟩
      exact ⟨n, (div_eq_iff (by norm_num)).mp (redisTtl_eq_some_iff.mp hn).2, of_decide_eq_true hlt⟩
    · rintro ⟨n, rfl, hlt⟩
      have hpos : 0 < n := by
        by_contra hzero
        rw [Nat.eq_zero_of_not_pos hzero] at httl
        norm_num at httl
      refine ⟨n, redisTtl_eq_some_iff.mpr ⟨hpos, ?_⟩, decide_eq_true hlt⟩
      exact mul_div_cancel_right₀ _ (by norm_num)

/-- **A position is refused exactly while the last one that was let through keeps it back**: with
Redis never, where the time that is set is not one of whole seconds. -/
theorem position_refused_iff (b : Backing) (ttlMs : ℚ) (times : List Nat) (now : Nat) :
    refused (isRateLimited b ttlMs) times now = true ↔ 0 < ttlMs ∧
      ∃ t, (accepted (isRateLimited b ttlMs) times).head? = some t ∧ KeepsBack b ttlMs t now := by
  rw [refused, isRateLimited]
  by_cases httl : ttlMs ≤ 0
  · rw [if_pos httl]
    exact ⟨fun h => (by cases h), fun h => absurd h.1 (not_lt.mpr httl)⟩
  · have hpos : 0 < ttlMs := not_le.mp httl
    rw [if_neg httl, get_after hpos]
    constructor
    · intro h
      split at h
      · rename_i hserved
        obtain ⟨t, ht, hserves⟩ := (Option.any_eq_true ..).mp hserved
        exact ⟨hpos, t, ht, (serves_iff hpos).mp hserves⟩
      · cases h
    · rintro ⟨-, t, ht, hkeeps⟩
      rw [ht, Option.any_some, (serves_iff hpos).mpr hkeeps]
      rfl

end DeliveryTracking.Tracking.RateLimits
