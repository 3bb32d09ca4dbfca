/-
# `DeliveryTracking.Scheduling.CronLock` — a scheduled task on one instance at a time

`acquireCronLock`: every instance reaches each task at its hour, and the one that takes
the key of the task runs it.  The key is left to expire.

    lock granted   no other lock of the task within its lifetime
    refused        an instance ran the task, less than a lifetime before
    no Redis       the task runs: twice rather than never

Nothing is asked of the clocks but that the lifetime is counted on the one of Redis.
-/
import DeliveryTracking.Lease
import DeliveryTracking.Spacing
import Mathlib.Data.List.Induction

namespace DeliveryTracking.Scheduling

/-- The tasks that ask for a lock, and the lifetime each asks for, in seconds. -/
def cronLocks : List (String × Nat) :=
  [("companies.schedulePendingPurges", 3600), ("fuel.generateDailyReports", 3600),
    ("digest.weekly", 3600), ("digest.daily", 3600), ("notifications.purgeOldRead", 3600),
    ("billing.expiredSubscriptions", 3600), ("billing.unpaidSubscriptions", 3600),
    ("maintenance.checkDueMaintenances", 3600), ("sessions.purgeExpired", 3000),
    ("gps.purgeOldPositions", 3600), ("driverScore.generateDailyScores", 3600),
    ("webhook.enqueueFailedDeliveries", 240)]

/-- What becomes of the `SET`. -/
inductive RedisAnswer where
  | answers
  /-- The call throws; the command may have been executed. -/
  | throws (executed : Bool)
  | noClient
  deriving DecidableEq, Repr

/-- An instance reaches a task. -/
structure CronAttempt where
  name : String
  ttlSeconds : Nat
  scheduled : (name, ttlSeconds) ∈ cronLocks
  instanceId : String
  redis : RedisAnswer
  /-- In milliseconds, on the clock of Redis. -/
  now : Nat
  deriving DecidableEq

abbrev CronKeys := Keys String String

def lockKey (name : String) : String := "cron:lock:" ++ name

/-- `SET cron:lock:name instance EX ttl NX` -/
def setLock (keys : CronKeys) (a : CronAttempt) : Bool × Option (Lease String) :=
  Lease.setNx a.now (a.ttlSeconds * 1000) a.instanceId (keys (lockKey a.name))

/-- Whether this process runs the task, and the keys after it. -/
def acquireCronLock (keys : CronKeys) (a : CronAttempt) : Bool × CronKeys :=
  match a.redis with
  | .noClient => (true, keys)
  | .throws executed =>
      (true, if executed then Function.update keys (lockKey a.name) (setLock keys a).2 else keys)
  | .answers => ((setLock keys a).1, Function.update keys (lockKey a.name) (setLock keys a).2)

/-- When an attempt runs the task `name` because it took its key. -/
def grantedAt (name : String) (keys : CronKeys) (a : CronAttempt) : Option Int :=
  if a.name = name ∧ a.redis = .answers ∧ (acquireCronLock keys a).1 then some a.now else none

/-- From when on the key may be taken. -/
def freeFrom (name : String) (keys : CronKeys) : Int :=
  match keys (lockKey name) with
  | some l => l.expiresAt
  | none => 0

variable {name : String} {ttlSeconds : Nat} {keys : CronKeys} {a : CronAttempt}

theorem lockKey_injective : Function.Injective lockKey := fun _ _ h =>
  (String.append_right_inj _).mp h

/-- Each task asks for one lifetime. -/
theorem ttlSeconds_eq (h : (name, ttlSeconds) ∈ cronLocks) (ha : a.name = name) :
    a.ttlSeconds = ttlSeconds := by
  have hall : ∀ x ∈ cronLocks, ∀ y ∈ cronLocks, x.1 = y.1 → x.2 = y.2 := by decide
  exact hall _ a.scheduled _ h ha

/-- What an attempt does to a key: nothing, or what its `SET` does. -/
theorem acquireCronLock_key (keys : CronKeys) (a : CronAttempt) (name : String) :
    (acquireCronLock keys a).2 (lockKey name) = keys (lockKey name) ∨
      a.name = name ∧ (acquireCronLock keys a).2 (lockKey name) = (setLock keys a).2 := by
  have hupdate : Function.update keys (lockKey a.name) (setLock keys a).2 (lockKey name) =
      keys (lockKey name) ∨
      a.name = name ∧
        Function.update keys (lockKey a.name) (setLock keys a).2 (lockKey name) =
          (setLock keys a).2 := by
    by_cases hname : a.name = name
    · subst hname
      exact Or.inr ⟨rfl, Function.update_self ..⟩
    · exact Or.inl (Function.update_of_ne (fun h => hname (lockKey_injective h).symm) ..)
  unfold acquireCronLock
  cases a.redis with
  | answers => exact hupdate
  | noClient => exact Or.inl rfl
  | throws executed =>
      cases executed with
      | true => exact hupdate
      | false => exact Or.inl rfl

/-- On a key that is free, whatever Redis does, the task runs. -/
theorem acquireCronLock_of_dead (h : Lease.alive a.now (keys (lockKey a.name)) = none) :
    (acquireCronLock keys a).1 = true ∧
      (setLock keys a).2 = some ⟨a.instanceId, a.now + a.ttlSeconds * 1000⟩ := by
  have hset : setLock keys a = (true, some ⟨a.instanceId, a.now + a.ttlSeconds * 1000⟩) :=
    Lease.setNx_of_dead h a.instanceId
  refine ⟨?_, congrArg Prod.snd hset⟩
  unfold acquireCronLock
  cases a.redis with
  | answers => exact congrArg Prod.fst hset
  | noClient => rfl
  | throws executed => rfl

/-- A key that is there stays as it is. -/
theorem setLock_of_alive {l : Lease String}
    (h : Lease.alive a.now (keys (lockKey a.name)) = some l) :
    setLock keys a = (false, keys (lockKey a.name)) := by
  rw [(Lease.alive_eq_some_iff.mp h).1]
  exact Lease.setNx_of_alive h a.instanceId

/-- A lock is granted on a key that is free, and takes it. -/
theorem acquireCronLock_granted (hredis : a.redis = .answers) (h : (acquireCronLock keys a).1 = true) :
    Lease.alive a.now (keys (lockKey a.name)) = none ∧
      (acquireCronLock keys a).2 (lockKey a.name) =
        some ⟨a.instanceId, a.now + a.ttlSeconds * 1000⟩ := by
  unfold acquireCronLock at h ⊢
  rw [hredis] at h ⊢
  cases halive : Lease.alive a.now (keys (lockKey a.name)) with
  | some l =>
      have hset : (setLock keys a).1 = true := h
      rw [setLock_of_alive halive] at hset
      cases hset
  | none => exact ⟨rfl, (Function.update_self ..).trans (acquireCronLock_of_dead halive).2⟩

/-- A task is refused where its key is there. -/
theorem acquireCronLock_refused (h : (acquireCronLock keys a).1 = false) :
    ∃ l, Lease.alive a.now (keys (lockKey a.name)) = some l := by
  cases halive : Lease.alive a.now (keys (lockKey a.name)) with
  | some l => exact ⟨l, rfl⟩
  | none => cases h.symm.trans (acquireCronLock_of_dead halive).1

/-- A key that an attempt changes was free; the attempt takes it, and runs the task. -/
theorem acquireCronLock_changes (h : (acquireCronLock keys a).2 (lockKey name) ≠ keys (lockKey name)) :
    a.name = name ∧ Lease.alive a.now (keys (lockKey name)) = none ∧
      (acquireCronLock keys a).1 = true ∧
      (acquireCronLock keys a).2 (lockKey name) =
        some ⟨a.instanceId, a.now + a.ttlSeconds * 1000⟩ := by
  rcases acquireCronLock_key keys a name with hsame | ⟨rfl, hset⟩
  · exact absurd hsame h
  · cases halive : Lease.alive a.now (keys (lockKey a.name)) with
    | some l =>
        rw [setLock_of_alive halive] at hset
        exact absurd hset h
    | none =>
        obtain ⟨hruns, hkey⟩ := acquireCronLock_of_dead halive
        exact ⟨rfl, rfl, hruns, hset.trans hkey⟩

theorem freeFrom_le_of_dead {now : Nat} (h : Lease.alive now (keys (lockKey name)) = none) :
    freeFrom name keys ≤ now := by
  unfold freeFrom
  cases hkey : keys (lockKey name) with
  | none => exact Int.natCast_nonneg now
  | some l =>
      rw [hkey, Lease.alive_some] at h
      split_ifs at h with hlive
      exact Int.ofNat_le.mpr (not_lt.mp hlive)

/-- The locks of a task are kept apart by its key. -/
theorem throttled (h : (name, ttlSeconds) ∈ cronLocks) :
    Throttled (fun keys a => (acquireCronLock keys a).2) (grantedAt name) (freeFrom name)
      (ttlSeconds * 1000 : Nat) where
  emits := by
    intro keys a t ht
    unfold grantedAt at ht
    split_ifs at ht with hgranted
    obtain ⟨rfl, hredis, hruns⟩ := hgranted
    obtain rfl := Option.some.inj ht
    obtain ⟨hdead, hkey⟩ := acquireCronLock_granted hredis hruns
    refine ⟨freeFrom_le_of_dead hdead, ?_⟩
    unfold freeFrom
    rw [hkey, ttlSeconds_eq h rfl]
    exact le_of_eq (Nat.cast_add ..).symm
  keeps := by
    intro keys a _
    by_cases hsame : (acquireCronLock keys a).2 (lockKey name) = keys (lockKey name)
    · unfold freeFrom
      rw [hsame]
    · obtain ⟨-, hdead, -, hkey⟩ := acquireCronLock_changes hsame
      have hfree : freeFrom name keys ≤ a.now := freeFrom_le_of_dead hdead
      have hafter : freeFrom name (acquireCronLock keys a).2 =
          (a.now + a.ttlSeconds * 1000 : Nat) := by
        unfold freeFrom
        rw [hkey]
      omega

/-- Each key was written by an attempt of the run that ran its task. -/
def Accounted (as : List CronAttempt) (keys : CronKeys) : Prop :=
  ∀ name l, keys (lockKey name) = some l →
    ∃ pre b post, as = pre ++ b :: post ∧ b.name = name ∧
      (acquireCronLock (final acquireCronLock (fun _ => none) pre) b).1 = true ∧
      l.expiresAt = b.now + b.ttlSeconds * 1000

theorem accounted (as : List CronAttempt) :
    Accounted as (final acquireCronLock (fun _ => none) as) := by
  induction as using List.reverseRecOn with
  | nil => intro name l h; cases h
  | append_singleton as a ih =>
      intro name l h
      rw [final_append] at h
      have hlast : (acquireCronLock (final acquireCronLock (fun _ => none) as) a).2
          (lockKey name) = some l := h
      by_cases hsame : (acquireCronLock (final acquireCronLock (fun _ => none) as) a).2
          (lockKey name) = final acquireCronLock (fun _ => none) as (lockKey name)
      · obtain ⟨pre, b, post, rfl, hb, hruns, hexp⟩ := ih name l (hsame.symm.trans hlast)
        exact ⟨pre, b, post ++ [a], by simp, hb, hruns, hexp⟩
      · obtain ⟨hname, -, hruns, hkey⟩ := acquireCronLock_changes hsame
        obtain rfl := Option.some.inj (hkey.symm.trans hlast)
        exact ⟨as, a, [], rfl, hname, hruns, rfl⟩

/-- Whatever instances reach a task, in whatever order: the locks that are granted are a lifetime
apart, and an attempt is refused only within a lifetime of one that ran the task. -/
theorem cronLock_spaced (h : (name, ttlSeconds) ∈ cronLocks) (as : List CronAttempt) :
    (emissions (fun keys a => (acquireCronLock keys a).2) (grantedAt name) (fun _ => none)
      as).Pairwise (· + ((ttlSeconds * 1000 : Nat) : Int) ≤ ·) ∧
    ∀ pre a post, as = pre ++ a :: post → a.name = name →
      (acquireCronLock (final acquireCronLock (fun _ => none) pre) a).1 = false →
        ∃ pre' b post', pre = pre' ++ b :: post' ∧ b.name = name ∧
          (acquireCronLock (final acquireCronLock (fun _ => none) pre') b).1 = true ∧
          a.now < b.now + ttlSeconds * 1000 := by
  refine ⟨(throttled h).pairwise (Int.natCast_nonneg _) as _, ?_⟩
  intro pre a post _ ha hrefused
  subst ha
  obtain ⟨l, hl⟩ := acquireCronLock_refused hrefused
  obtain ⟨hkey, hlive⟩ := Lease.alive_eq_some_iff.mp hl
  obtain ⟨pre', b, post', hpre, hb, hruns, hexp⟩ := accounted pre a.name l hkey
  rw [hexp, ttlSeconds_eq h hb] at hlive
  exact ⟨pre', b, post', hpre, hb, hruns, hlive⟩

/-- An instance at the hour of the daily digest. -/
def digestAt (instanceId : String) (now : Nat) : CronAttempt where
  name := "digest.daily"
  ttlSeconds := 3600
  scheduled := by decide
  instanceId := instanceId
  redis := .answers
  now := now

/-- Two instances, a moment apart: the second one is refused, since the first one ran. -/
theorem cronLock_spaced_digest :
    (acquireCronLock (final acquireCronLock (fun _ => none) [digestAt "api" 0])
      (digestAt "worker" 5)).1 = false ∧
    ∃ pre' b post', [digestAt "api" 0] = pre' ++ b :: post' ∧ b.name = "digest.daily" ∧
      (acquireCronLock (final acquireCronLock (fun _ => none) pre') b).1 = true ∧
      5 < b.now + 3600 * 1000 := by
  have hrefused : (acquireCronLock (final acquireCronLock (fun _ => none) [digestAt "api" 0])
      (digestAt "worker" 5)).1 = false := by decide +kernel
  exact ⟨hrefused, (cronLock_spaced (show ("digest.daily", 3600) ∈ cronLocks by decide)
    [digestAt "api" 0, digestAt "worker" 5]).2 [digestAt "api" 0] (digestAt "worker" 5) [] rfl rfl
    hrefused⟩

end DeliveryTracking.Scheduling
