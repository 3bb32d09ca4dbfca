/-
# `DeliveryTracking.Lease` — a key that expires

One key of a store with expiry, over an arbitrary type of holders: the value and
the instant from which it is gone.  Each command reads and writes the key in one
step at an instant `now`:

    get      the holder, if the key is there
    setNx    take the key if it is not there
    expire   put the expiry off, if the key is there

`Keys` is a store of such keys, with `set` and `getDel` (read and remove in one
step).  Two stores that look alike now look alike later (`alive_congr`).

Nothing below names the repository.
-/
import Mathlib.Data.Option.Basic
import Mathlib.Logic.Function.Basic

namespace DeliveryTracking

/-- A holder and the instant from which its key is gone. -/
@[ext]
structure Lease (α : Type*) where
  holder : α
  expiresAt : Nat
  deriving DecidableEq, Repr

namespace Lease

variable {α : Type*} {now ttl : Nat} {key : Option (Lease α)}

/-- The key as a command at `now` finds it. -/
def alive (now : Nat) (key : Option (Lease α)) : Option (Lease α) :=
  key.filter fun l => now < l.expiresAt

def get (now : Nat) (key : Option (Lease α)) : Option α := (alive now key).map holder

/-- `SET key a NX EX ttl`: whether it took the key, and the key after it. -/
def setNx (now ttl : Nat) (a : α) (key : Option (Lease α)) : Bool × Option (Lease α) :=
  match alive now key with
  | some l => (false, some l)
  | none => (true, some ⟨a, now + ttl⟩)

/-- `EXPIRE key ttl` -/
def expire (now ttl : Nat) (key : Option (Lease α)) : Option (Lease α) :=
  (alive now key).map fun l => { l with expiresAt := now + ttl }

theorem alive_eq_some_iff {l : Lease α} : alive now key = some l ↔ key = some l ∧ now < l.expiresAt := by
  simp [alive, Option.filter_eq_some_iff]

theorem get_eq_some_iff {a : α} :
    get now key = some a ↔ ∃ exp, key = some ⟨a, exp⟩ ∧ now < exp := by
  simp only [get, Option.map_eq_some_iff, alive_eq_some_iff]
  constructor
  · rintro ⟨l, ⟨hkey, hlt⟩, rfl⟩
    exact ⟨l.expiresAt, hkey, hlt⟩
  · rintro ⟨exp, hkey, hlt⟩
    exact ⟨_, ⟨hkey, hlt⟩, rfl⟩

/-- A key that is there is not taken. -/
theorem setNx_of_alive {l : Lease α} (h : alive now key = some l) (a : α) :
    setNx now ttl a key = (false, some l) := by
  simp [setNx, h]

theorem setNx_of_dead (h : alive now key = none) (a : α) :
    setNx now ttl a key = (true, some ⟨a, now + ttl⟩) := by
  simp [setNx, h]

theorem expire_of_alive {l : Lease α} (h : alive now key = some l) :
    expire now ttl key = some { l with expiresAt := now + ttl } := by
  simp [expire, h]

/-- What is found now decides what is found later. -/
theorem alive_alive {later : Nat} (h : now ≤ later) : alive later (alive now key) = alive later key := by
  cases hkey : key with
  | none => rfl
  | some l =>
    by_cases hlive : now < l.expiresAt
    · rw [alive_eq_some_iff.mpr ⟨rfl, hlive⟩]
    · have hdead : ¬ later < l.expiresAt := by omega
      simp [alive, Option.filter_some, hlive, hdead]

theorem alive_congr {key' : Option (Lease α)} {later : Nat} (h : alive now key = alive now key')
    (hle : now ≤ later) : alive later key = alive later key' := by
  rw [← alive_alive hle, h, alive_alive hle]

theorem alive_some (l : Lease α) :
    alive now (some l) = if now < l.expiresAt then some l else none := by
  simp [alive, Option.filter_some]

/-- Sorting out entries that are gone changes nothing. -/
theorem alive_map_filter {β : Type*} {lease : β → Lease α} {q : β → Bool}
    (hq : ∀ e, q e = false → ¬ now < (lease e).expiresAt) (entry : Option β) :
    alive now ((entry.filter q).map lease) = alive now (entry.map lease) := by
  cases entry with
  | none => rfl
  | some e =>
    cases hkept : q e with
    | true => rw [Option.filter_some, if_pos hkept]
    | false =>
      rw [Option.filter_some, if_neg (by simp [hkept]), Option.map_some, alive_some,
        if_neg (hq e hkept)]
      rfl

end Lease

/-! ## A store of keys -/

abbrev Keys (κ α : Type*) := κ → Option (Lease α)

namespace Keys

variable {κ α : Type*} [DecidableEq κ]

/-- `SET k a EX ttl` -/
def set (now ttl : Nat) (k : κ) (a : α) (keys : Keys κ α) : Keys κ α :=
  Function.update keys k (some ⟨a, now + ttl⟩)

/-- `GET k` and `DEL k`, in one step. -/
def getDel (now : Nat) (k : κ) (keys : Keys κ α) : Option α × Keys κ α :=
  (Lease.get now (keys k), Function.update keys k none)

/-- What a command at `now` or later finds is the same in both. -/
def Alike (now : Nat) (a b : Keys κ α) : Prop := ∀ k, Lease.alive now (a k) = Lease.alive now (b k)

namespace Alike

variable {now t : Nat} {a b c : Keys κ α}

omit [DecidableEq κ] in
theorem symm (h : Alike now a b) : Alike now b a := fun k => (h k).symm

omit [DecidableEq κ] in
theorem trans (h : Alike now a b) (h' : Alike now b c) : Alike now a c := fun k => (h k).trans (h' k)

omit [DecidableEq κ] in
theorem mono (h : Alike now a b) (hle : now ≤ t) : Alike t a b :=
  fun k => Lease.alive_congr (h k) hle

theorem update (h : Alike now a b) (k : κ) {x y : Option (Lease α)}
    (hxy : Lease.alive now x = Lease.alive now y) :
    Alike now (Function.update a k x) (Function.update b k y) := by
  intro k'
  by_cases hk : k' = k
  · subst hk
    rw [Function.update_self, Function.update_self, hxy]
  · rw [Function.update_of_ne hk, Function.update_of_ne hk, h k']

/-- Removing a key that is gone changes nothing. -/
theorem remove_dead {k : κ} (h : Lease.alive now (a k) = none) :
    Alike now a (Function.update a k none) := by
  intro k'
  by_cases hk : k' = k
  · subst hk
    rw [Function.update_self, h]
    rfl
  · rw [Function.update_of_ne hk]

end Alike

end Keys

end DeliveryTracking
