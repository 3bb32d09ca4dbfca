/-
# `DeliveryTracking.Cache.CacheService` — what the cache still serves

The cache is Redis, and a map in memory for the calls that Redis fails.

    get          Redis; where the call fails the map
    set          Redis; where the call fails the map
    invalidate   Redis; where the call fails the map

A call that Redis answers does not touch the map, and one that fails on the way
to Redis leaves what is there.  So each of the two stores misses what the other
took, and serves it when it is asked again.  A get is answered with the latest set
or nothing exactly when the store it reads has nothing live or has missed nothing
since its entry of the key (`cache_fresh_iff`).
-/
import Mathlib.Data.Rat.Defs
import DeliveryTracking.Copies
import DeliveryTracking.Lease
import DeliveryTracking.Runs

namespace DeliveryTracking.Cache

/-! ## The two stores -/

/-- `JSON.stringify` and `JSON.parse` on the values that are cached, and `MATCH` of Redis. -/
structure Libraries (α : Type) where
  stringify : α → String
  parse : String → Option α
  parse_stringify : ∀ value, parse (stringify value) = some value
  /-- Of a pattern and a key. -/
  glob : String → String → Bool

/-- A value and the set it is of. -/
structure Written (α : Type) where
  value : α
  /-- The number of the call; no code reads it. -/
  call : Nat
  deriving DecidableEq, Repr

structure RedisEntry where
  raw : String
  call : Nat
  deriving DecidableEq, Repr

structure FallbackEntry (α : Type) where
  written : Written α
  expiry : Rat
  deriving DecidableEq, Repr

/-- How a call of Redis ends. -/
inductive Reply where
  | answered
  /-- It was executed, and the answer is lost. -/
  | lost
  | failed
  deriving DecidableEq, Repr

structure CacheService (α : Type) where
  /-- None where no client is injected. -/
  redis : Option (String → Option (Lease RedisEntry))
  fallback : String → Option (FallbackEntry α)
  /-- The sets so far; with the next three what no code reads. -/
  calls : Nat
  /-- The latest set of each key since the latest invalidate that matches it. -/
  latest : String → Option (Written α)
  redisBehind : String → Bool
  fallbackBehind : String → Bool

inductive CacheEvent (α : Type) where
  | get (key : String) (now : Nat) (reply : Reply)
  | set (key : String) (value : α) (ttlSeconds : Option Rat) (now : Nat) (reply : Reply)
  | invalidate (pattern : String) (reply : Reply)

/-- `SETEX` takes a whole number of seconds that is positive. -/
def redisTtl (ttlSeconds : Rat) : Option Nat :=
  if ttlSeconds.den = 1 ∧ 0 < ttlSeconds.num then some ttlSeconds.num.toNat else none

/-- `key.startsWith(pattern.replace('*', ''))` -/
def startsWithPattern (pattern key : String) : Bool :=
  (pattern.toList.erase '*').isPrefixOf key.toList

def FallbackEntry.expired {α : Type} (now : Nat) (entry : FallbackEntry α) : Bool :=
  decide (entry.expiry ≠ 0) && decide (entry.expiry < (now : Rat))

namespace CacheService

variable {α : Type} (lib : Libraries α) (s : CacheService α)

/-- Without entries; a client is injected or not. -/
def start (client : Bool) : CacheService α where
  redis := if client then some fun _ => none else none
  fallback := fun _ => none
  calls := 0
  latest := fun _ => none
  redisBehind := fun _ => false
  fallbackBehind := fun _ => false

def getFallback (key : String) (now : Nat) : Option (Written α) × CacheService α :=
  match s.fallback key with
  | none => (none, s)
  | some entry =>
    if entry.expired now then
      (none, { s with fallback := Function.update s.fallback key none })
    else (some entry.written, s)

def get (key : String) (now : Nat) (reply : Reply) : Option (Written α) × CacheService α :=
  match s.redis, reply with
  | some redis, .answered =>
    match Lease.get now (redis key) with
    | none => (none, s)
    | some entry =>
      match lib.parse entry.raw with
      | some value => (some ⟨value, entry.call⟩, s)
      | none => s.getFallback key now
  | _, _ => s.getFallback key now

/-- Redis executes the call. -/
def executed (reply : Reply) : Bool := s.redis.isSome && reply != .failed

/-- The call returns without the map. -/
def returned (reply : Reply) : Bool := s.redis.isSome && reply == .answered

def set (key : String) (value : α) (ttlSeconds : Option Rat) (now : Nat) (reply : Reply) :
    CacheService α :=
  let ttl := ttlSeconds.getD 60
  -- a time to live that SETEX refuses is a call that fails
  let reply := if (redisTtl ttl).isSome then reply else .failed
  let written : Written α := ⟨value, s.calls⟩
  { redis :=
      if s.executed reply then
        s.redis.map fun redis => Function.update redis key
          (some ⟨⟨lib.stringify value, s.calls⟩, now + ((redisTtl ttl).getD 0) * 1000⟩)
      else s.redis
    fallback :=
      if s.returned reply then s.fallback
      else Function.update s.fallback key (some ⟨written, (now : Rat) + ttl * 1000⟩)
    calls := s.calls + 1
    latest := Function.update s.latest key (some written)
    redisBehind := Function.update s.redisBehind key !s.executed reply
    fallbackBehind := Function.update s.fallbackBehind key (s.returned reply) }

/-- The keys that `invalidate` deletes from Redis: it scans, then deletes what it found. -/
def redisDeletes (pattern : String) (reply : Reply) (key : String) : Bool :=
  s.executed reply && lib.glob pattern key

def fallbackDeletes (pattern : String) (reply : Reply) (key : String) : Bool :=
  !s.returned reply && startsWithPattern pattern key

def invalidate (pattern : String) (reply : Reply) : CacheService α :=
  { s with
    redis := s.redis.map fun redis key =>
      if s.redisDeletes lib pattern reply key then none else redis key
    fallback := fun key => if s.fallbackDeletes pattern reply key then none else s.fallback key
    latest := fun key => if lib.glob pattern key then none else s.latest key
    redisBehind := fun key =>
      !s.redisDeletes lib pattern reply key && (lib.glob pattern key || s.redisBehind key)
    fallbackBehind := fun key =>
      !s.fallbackDeletes pattern reply key && (lib.glob pattern key || s.fallbackBehind key) }

def step : CacheEvent α → CacheService α
  | .get key now reply => (s.get lib key now reply).2
  | .set key value ttlSeconds now reply => s.set lib key value ttlSeconds now reply
  | .invalidate pattern reply => s.invalidate lib pattern reply

/-- A get returns nothing or the latest set of its key, and none from before an invalidate of it. -/
def Fresh (s : CacheService α) : CacheEvent α → Prop
  | .get key now reply =>
    (s.get lib key now reply).1 = none ∨ (s.get lib key now reply).1 = s.latest key
  | _ => True

/-- The store that a get reads has nothing of the key that lives, or has missed no set and no
invalidate of the key. -/
def upToDate : CacheEvent α → Bool
  | .get key now reply =>
    match s.redis, reply with
    | some redis, .answered => (Lease.get now (redis key)).isNone || !s.redisBehind key
    | _, _ => (s.fallback key).all (FallbackEntry.expired now) || !s.fallbackBehind key
  | _ => true

def UpToDate (s : CacheService α) (e : CacheEvent α) : Prop := s.upToDate e = true

instance (e : CacheEvent α) : Decidable (s.UpToDate e) := inferInstanceAs (Decidable (_ = true))

end CacheService

/-! ## The stores as copies -/

def RedisEntry.decode {α : Type} (lib : Libraries α) (entry : RedisEntry) : Option (Written α) :=
  (lib.parse entry.raw).map fun value => ⟨value, entry.call⟩

namespace CacheService

variable {α : Type} (lib : Libraries α) (s : CacheService α)

def redisCopy (key : String) : Option (Written α) :=
  s.redis.bind fun redis => (redis key).bind fun l => l.holder.decode lib

def fallbackCopy (key : String) : Option (Written α) := (s.fallback key).map FallbackEntry.written

/-- Every entry of a copy is of a set before. -/
def Numbered (copy : String → Option (Written α)) : Prop :=
  ∀ key w, copy key = some w → w.call < s.calls

structure Inv : Prop where
  redis : Tracks s.latest (s.redisCopy lib) s.redisBehind
  fallback : Tracks s.latest s.fallbackCopy s.fallbackBehind
  redisNumbered : s.Numbered (s.redisCopy lib)
  fallbackNumbered : s.Numbered s.fallbackCopy
  /-- What is in Redis was made by `stringify`. -/
  decodes : ∀ redis key l, s.redis = some redis → redis key = some l →
    ∃ w, l.holder.decode lib = some w

variable {lib s} {key pattern : String} {value : α} {ttlSeconds : Option Rat} {now : Nat} {reply : Reply}

theorem decode_stringify (value : α) (n : Nat) :
    RedisEntry.decode lib ⟨lib.stringify value, n⟩ = some ⟨value, n⟩ := by
  rw [RedisEntry.decode, lib.parse_stringify, Option.map_some]

/-- A number not given before is of no entry. -/
theorem Numbered.ne {copy : String → Option (Written α)} (h : s.Numbered copy) :
    copy key ≠ some ⟨value, s.calls⟩ :=
  fun heq => Nat.lt_irrefl _ (h key _ heq)

theorem Numbered.write {copy : String → Option (Written α)} (h : s.Numbered copy) {l : String}
    {w : Written α} (hw : Function.update copy key (some ⟨value, s.calls⟩) l = some w) :
    w.call < s.calls + 1 := by
  rw [Function.update_apply] at hw
  split at hw
  · cases hw
    exact Nat.lt_succ_self _
  · exact Nat.lt_succ_of_lt (h l w hw)

theorem redis_isSome_of_executed (h : s.executed reply = true) : ∃ redis, s.redis = some redis :=
  Option.isSome_iff_exists.mp (Bool.and_eq_true_iff.mp h).1

/-- What is in Redis after a set: the entry, if Redis executed the call. -/
theorem redis_set (lib : Libraries α) (s : CacheService α) (key : String) (value : α)
    (ttlSeconds : Option Rat) (now : Nat) (reply : Reply) :
    ∃ executed : Bool, (s.set lib key value ttlSeconds now reply).redisBehind =
        Function.update s.redisBehind key !executed ∧
      (s.set lib key value ttlSeconds now reply).redisCopy lib =
        (if executed then Function.update (s.redisCopy lib) key (some ⟨value, s.calls⟩)
          else s.redisCopy lib) ∧
      ∀ redis l entry, (s.set lib key value ttlSeconds now reply).redis = some redis →
        redis l = some entry → entry.holder = ⟨lib.stringify value, s.calls⟩ ∨
          ∃ old, s.redis = some old ∧ old l = some entry := by
  unfold set
  dsimp only
  generalize (if (redisTtl (ttlSeconds.getD 60)).isSome then reply else .failed) = reply
  cases hexecuted : s.executed reply with
  | false => exact ⟨false, rfl, rfl, fun redis l entry hredis hentry => Or.inr ⟨redis, hredis, hentry⟩⟩
  | true =>
    obtain ⟨old, hold⟩ := redis_isSome_of_executed hexecuted
    refine ⟨true, rfl, ?_, ?_⟩
    · funext l
      unfold redisCopy
      dsimp only
      rw [hold, if_pos rfl, if_pos rfl, Option.map_some, Option.bind_some, Function.update_apply,
        Function.update_apply]
      split
      · rw [Option.bind_some, decode_stringify]
      · rfl
    · intro redis l entry hredis hentry
      rw [hold, if_pos rfl, Option.map_some] at hredis
      cases hredis
      rw [Function.update_apply] at hentry
      split at hentry
      · cases hentry
        exact Or.inl rfl
      · exact Or.inr ⟨old, hold, hentry⟩

/-- What is in the map after a set: the entry, unless the call returned without it. -/
theorem fallback_set (lib : Libraries α) (s : CacheService α) (key : String) (value : α)
    (ttlSeconds : Option Rat) (now : Nat) (reply : Reply) :
    ∃ returned : Bool, (s.set lib key value ttlSeconds now reply).fallbackBehind =
        Function.update s.fallbackBehind key returned ∧
      (s.set lib key value ttlSeconds now reply).fallbackCopy =
        if returned then s.fallbackCopy
        else Function.update s.fallbackCopy key (some ⟨value, s.calls⟩) := by
  unfold set
  dsimp only
  generalize (if (redisTtl (ttlSeconds.getD 60)).isSome then reply else .failed) = reply
  cases s.returned reply with
  | true => exact ⟨true, rfl, rfl⟩
  | false =>
    refine ⟨false, rfl, ?_⟩
    funext l
    unfold fallbackCopy
    dsimp only
    rw [if_neg Bool.noConfusion, if_neg Bool.noConfusion, Function.update_apply, Function.update_apply]
    split <;> rfl

theorem inv_set (h : s.Inv lib) : (s.set lib key value ttlSeconds now reply).Inv lib := by
  obtain ⟨executed, hbehind, hcopy, hentries⟩ := redis_set lib s key value ttlSeconds now reply
  obtain ⟨returned, hbehind', hcopy'⟩ := fallback_set lib s key value ttlSeconds now reply
  refine ⟨?_, ?_, ?_, ?_, ?_⟩
  · rw [hbehind, hcopy]
    cases executed with
    | true => exact h.redis.write_taken
    | false => exact h.redis.write_missed h.redisNumbered.ne
  · rw [hbehind', hcopy']
    cases returned with
    | true => exact h.fallback.write_missed h.fallbackNumbered.ne
    | false => exact h.fallback.write_taken
  · intro l w hw
    rw [hcopy] at hw
    split at hw
    · exact h.redisNumbered.write hw
    · exact Nat.lt_succ_of_lt (h.redisNumbered l w hw)
  · intro l w hw
    rw [hcopy'] at hw
    split at hw
    · exact Nat.lt_succ_of_lt (h.fallbackNumbered l w hw)
    · exact h.fallbackNumbered.write hw
  · intro redis l entry hredis hentry
    rcases hentries redis l entry hredis hentry with hnew | ⟨old, hold, hkept⟩
    · rw [hnew]
      exact ⟨_, decode_stringify value s.calls⟩
    · exact h.decodes old l entry hold hkept

theorem redisCopy_invalidate : (s.invalidate lib pattern reply).redisCopy lib =
    fun key => if s.redisDeletes lib pattern reply key then none else s.redisCopy lib key := by
  funext key
  unfold redisCopy invalidate
  cases s.redis with
  | none => simp
  | some redis =>
    dsimp only
    rw [Option.map_some, Option.bind_some, Option.bind_some]
    dsimp only
    split <;> rfl

theorem fallbackCopy_invalidate : (s.invalidate lib pattern reply).fallbackCopy =
    fun key => if s.fallbackDeletes pattern reply key then none else s.fallbackCopy key := by
  funext key
  unfold fallbackCopy invalidate
  dsimp only
  split <;> rfl

theorem inv_invalidate (h : s.Inv lib) : (s.invalidate lib pattern reply).Inv lib := by
  refine ⟨?_, ?_, ?_, ?_, ?_⟩
  · rw [redisCopy_invalidate]
    exact h.redis.clear (lib.glob pattern) (s.redisDeletes lib pattern reply)
  · rw [fallbackCopy_invalidate]
    exact h.fallback.clear (lib.glob pattern) (s.fallbackDeletes pattern reply)
  · intro key w hw
    rw [redisCopy_invalidate] at hw
    exact h.redisNumbered key w (Option.ite_none_left_eq_some.mp hw).2
  · intro key w hw
    rw [fallbackCopy_invalidate] at hw
    exact h.fallbackNumbered key w (Option.ite_none_left_eq_some.mp hw).2
  · intro redis key l hredis hentry
    obtain ⟨old, hold, rfl⟩ := Option.map_eq_some_iff.mp hredis
    exact h.decodes old key l hold (Option.ite_none_left_eq_some.mp hentry).2

/-- The map of a get loses at most the entry that has expired. -/
theorem inv_getFallback (h : s.Inv lib) : (s.getFallback key now).2.Inv lib := by
  unfold getFallback
  split
  · exact h
  · split
    · have hsub : ∀ l w, fallbackCopy { s with fallback := Function.update s.fallback key none } l =
          some w → s.fallbackCopy l = some w := by
        intro l w hw
        unfold fallbackCopy at hw ⊢
        dsimp only at hw
        rw [Function.update_apply] at hw
        split at hw
        · cases hw
        · exact hw
      exact ⟨h.redis, h.fallback.drop hsub, h.redisNumbered,
        fun l w hw => h.fallbackNumbered l w (hsub l w hw), h.decodes⟩
    · exact h

theorem inv_get (h : s.Inv lib) : (s.get lib key now reply).2.Inv lib := by
  unfold get
  split
  · split
    · exact h
    · split
      · exact h
      · exact inv_getFallback h
  · exact inv_getFallback h

theorem inv_step (e : CacheEvent α) (h : s.Inv lib) : (s.step lib e).Inv lib := by
  cases e with
  | get key now reply => exact inv_get h
  | set key value ttlSeconds now reply => exact inv_set h
  | invalidate pattern reply => exact inv_invalidate h

theorem inv_start (client : Bool) : (start client : CacheService α).Inv lib := by
  have hnone : (start client : CacheService α).redisCopy lib = fun _ => none := by
    cases client <;> rfl
  refine ⟨?_, Tracks.empty _ _, ?_, fun key w hw => (nomatch hw), ?_⟩
  · rw [hnone]
    exact Tracks.empty _ _
  · intro key w hw
    rw [hnone] at hw
    cases hw
  · intro redis key l hredis hentry
    cases client with
    | false => cases hredis
    | true =>
      cases hredis
      cases hentry

/-! ## What a get returns -/

theorem getFallback_fresh_iff (h : s.Inv lib) :
    ((s.getFallback key now).1 = none ∨ (s.getFallback key now).1 = s.latest key) ↔
      ((s.fallback key).all (FallbackEntry.expired now) || !s.fallbackBehind key) = true := by
  unfold getFallback
  cases hentry : s.fallback key with
  | none => exact iff_of_true (Or.inl rfl) rfl
  | some entry =>
    have hcopy : s.fallbackCopy key = some entry.written := by rw [fallbackCopy, hentry, Option.map_some]
    rw [Option.all_some]
    dsimp only
    cases entry.expired now with
    | true => exact iff_of_true (Or.inl rfl) rfl
    | false =>
      rw [if_neg Bool.noConfusion, Bool.false_or, Bool.not_eq_true']
      refine Iff.trans ?_ (h.fallback key entry.written hcopy)
      exact ⟨fun hor => (hor.resolve_left (Option.some_ne_none _)).symm, fun heq => Or.inr heq.symm⟩

theorem get_fresh_iff (h : s.Inv lib) :
    s.Fresh lib (.get key now reply) ↔ s.UpToDate (.get key now reply) := by
  unfold Fresh UpToDate upToDate get
  dsimp only
  split
  · rename_i redis hredis
    cases hget : Lease.get now (redis key) with
    | none => exact iff_of_true (Or.inl rfl) rfl
    | some entry =>
      obtain ⟨exp, hkey, -⟩ := Lease.get_eq_some_iff.mp hget
      obtain ⟨w, hw⟩ := h.decodes redis key _ hredis hkey
      obtain ⟨value, hparse, rfl⟩ := Option.map_eq_some_iff.mp hw
      have hcopy : s.redisCopy lib key = some ⟨value, entry.call⟩ := by
        rw [redisCopy, hredis, Option.bind_some, hkey]
        exact hw
      dsimp only
      rw [hparse, Option.isNone_some, Bool.false_or, Bool.not_eq_true']
      refine Iff.trans ?_ (h.redis key _ hcopy)
      exact ⟨fun hor => (hor.resolve_left (Option.some_ne_none _)).symm, fun heq => Or.inr heq.symm⟩
  · exact getFallback_fresh_iff h

/-- **Every get of a run returns nothing or the latest set of its key that no invalidate came after,
exactly when every get reads a store that has nothing live of the key, or that has missed no set and
no invalidate of it.** -/
theorem cache_fresh_iff {client : Bool} {es : List (CacheEvent α)} {t : CacheService α} :
    Run (fun s e t => s.step lib e = t ∧ s.Fresh lib e) (start client) es t ↔
      Run (Guarded (fun s e t => s.step lib e = t) UpToDate) (start client) es t := by
  refine Run.each_iff_guarded (I := Inv lib) (Q := fun s e _ => s.Fresh lib e) ?_ ?_
    (inv_start client)
  · rintro s e t hs rfl
    exact inv_step e hs
  · rintro s e t hs -
    cases e with
    | get key now reply => exact get_fresh_iff hs
    | set key value ttlSeconds now reply => exact iff_of_true trivial rfl
    | invalidate pattern reply => exact iff_of_true trivial rfl

/-- A get writes nothing to Redis. -/
theorem redis_get (reply : Reply) : (s.get lib key now reply).2.redis = s.redis ∧
    (s.get lib key now reply).2.redisBehind = s.redisBehind := by
  have hfallback : (s.getFallback key now).2.redis = s.redis ∧
      (s.getFallback key now).2.redisBehind = s.redisBehind := by
    unfold getFallback
    split
    · exact ⟨rfl, rfl⟩
    · split <;> exact ⟨rfl, rfl⟩
  unfold get
  split
  · split
    · exact ⟨rfl, rfl⟩
    · split
      · exact ⟨rfl, rfl⟩
      · exact hfallback
  · exact hfallback

/-- Redis answers the call. -/
def Answers (_ : CacheService α) : CacheEvent α → Prop
  | .get _ _ reply | .invalidate _ reply => reply = .answered
  | .set _ _ ttlSeconds _ reply => (redisTtl (ttlSeconds.getD 60)).isSome ∧ reply = .answered

/-- Without an outage every get is fresh. -/
theorem fresh_of_answered {es : List (CacheEvent α)} {t : CacheService α}
    (hrun : Run (Guarded (fun s e t => s.step lib e = t) Answers) (start true) es t) :
    Run (fun s e t => s.step lib e = t ∧ s.Fresh lib e) (start true) es t := by
  refine cache_fresh_iff.mpr ?_
  have hall : Run (fun s e t => Guarded (fun s e t => s.step lib e = t) Answers s e t ∧ s.UpToDate e)
      (start true) es t := by
    refine (Run.each_iff_guarded (G := fun _ _ => True) (Q := fun s e _ => s.UpToDate e)
      (I := fun s : CacheService α => s.redis.isSome ∧ ∀ key, s.redisBehind key = false) ?_ ?_
      ⟨rfl, fun _ => rfl⟩).mpr (hrun.mono fun hstep => ⟨hstep, trivial⟩)
    · rintro s e t ⟨hclient, hcurrent⟩ ⟨rfl, hanswers⟩
      obtain ⟨redis, hredis⟩ := Option.isSome_iff_exists.mp hclient
      cases e with
      | get key now reply =>
        obtain ⟨hsame, hbehind⟩ := redis_get (s := s) reply
        exact ⟨hsame ▸ hclient, hbehind ▸ hcurrent⟩
      | set key value ttlSeconds now reply =>
        obtain ⟨httl, rfl⟩ := hanswers
        refine ⟨by simp [step, set, hredis, executed, httl], fun l => ?_⟩
        simp only [step, set, httl, if_true, executed, hclient, Function.update_apply]
        split
        · rfl
        · exact hcurrent l
      | invalidate pattern reply =>
        cases hanswers
        refine ⟨by simp [step, invalidate, hredis], fun key => ?_⟩
        simp [step, invalidate, redisDeletes, executed, hclient, hcurrent key]
    · rintro s e t ⟨hclient, hcurrent⟩ ⟨-, hanswers⟩
      refine iff_of_true ?_ trivial
      obtain ⟨redis, hredis⟩ := Option.isSome_iff_exists.mp hclient
      cases e with
      | get key now reply =>
        cases hanswers
        simp [UpToDate, upToDate, hredis, hcurrent key]
      | set key value ttlSeconds now reply => rfl
      | invalidate pattern reply => rfl
  exact hall.mono fun hstep => ⟨hstep.1.1, hstep.2⟩

end CacheService

/-! ### An outage of Redis around a set -/

/-- `MATCH` of the patterns whose only special character is the star. -/
def starGlob : List Char → List Char → Bool
  | [], key => key.isEmpty
  | c :: pattern, key =>
    if c = '*' then key.tails.any (starGlob pattern)
    else
      match key with
      | [] => false
      | d :: rest => c == d && starGlob pattern rest

/-- Booleans in the cache. -/
def booleans : Libraries Bool where
  stringify := fun value => if value then "true" else "false"
  parse := fun raw => if raw = "true" then some true else if raw = "false" then some false else none
  parse_stringify := by decide
  glob := fun pattern key => starGlob pattern.toList key.toList

/-- Redis fails, is there again, and fails again. -/
def outages : List (CacheEvent Bool) :=
  [.set "key-1" true none 1000 .failed, .set "key-1" false none 2000 .answered]

/-- The second outage brings the value of the first one back. -/
theorem outages_supersede : ∃ s,
    Run (fun s e t => CacheService.step booleans s e = t) (.start true) outages s ∧
      s.latest "key-1" = some ⟨false, 1⟩ ∧
        (s.get booleans "key-1" 3000 .failed).1 = some ⟨true, 0⟩ ∧
          ¬s.Fresh booleans (.get "key-1" 3000 .failed) := by
  refine ⟨_, Run.of_foldl (CacheService.step booleans) outages (.start true), ?_⟩
  have hlatest : (outages.foldl (CacheService.step booleans) (.start true)).latest "key-1" =
      some ⟨false, 1⟩ := by decide +kernel
  have hget : ((outages.foldl (CacheService.step booleans) (.start true)).get booleans "key-1" 3000
      .failed).1 = some ⟨true, 0⟩ := by decide +kernel
  refine ⟨hlatest, hget, ?_⟩
  rintro (hnone | hfresh)
  · rw [hget] at hnone
    cases hnone
  · rw [hget, hlatest] at hfresh
    cases hfresh

end DeliveryTracking.Cache
