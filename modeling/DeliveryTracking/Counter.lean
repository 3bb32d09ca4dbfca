/-
# `DeliveryTracking.Counter` — a key that counts, and may expire

One integer key of a store with expiry, as single commands at an instant `now` read
and write it:

    get      the count, if the key is there
    incr     one more; a key that is not there is created at 1, without an expiry
    expire   the key goes after `ttl`, if it is there

`incr` keeps the expiry there is.  A key without one stays (`Stays`) until a command
gives it one or deletes it.

Nothing below names the repository.
-/
import Mathlib.Data.Option.Basic

namespace DeliveryTracking

/-- A count, and the instant from which its key is gone, if it has one. -/
structure Counter where
  count : Nat
  expiresAt : Option Nat
  deriving DecidableEq, Repr

namespace Counter

/-- The key as a command at `now` finds it. -/
def alive (now : Nat) (key : Option Counter) : Option Counter :=
  key.filter fun c => c.expiresAt.all fun instant => now < instant

/-- `GET key` -/
def get (now : Nat) (key : Option Counter) : Option Nat := (alive now key).map count

/-- `INCR key`: the new count, and the key. -/
def incr (now : Nat) (key : Option Counter) : Nat × Option Counter :=
  match alive now key with
  | some c => (c.count + 1, some { c with count := c.count + 1 })
  | none => (1, some ⟨1, none⟩)

/-- `EXPIRE key ttl` -/
def expire (now ttl : Nat) (key : Option Counter) : Option Counter :=
  (alive now key).map fun c => { c with expiresAt := some (now + ttl) }

/-- The key is there, and does not go by itself. -/
def Stays (key : Option Counter) : Prop := ∃ n, key = some ⟨n, none⟩

instance (key : Option Counter) : Decidable (Stays key) :=
  match key with
  | some ⟨n, none⟩ => .isTrue ⟨n, rfl⟩
  | some ⟨_, some _⟩ => .isFalse fun ⟨_, h⟩ => by cases h
  | none => .isFalse fun ⟨_, h⟩ => by cases h

variable {now later ttl n : Nat} {key : Option Counter} {c : Counter}

theorem alive_eq_some_iff :
    alive now key = some c ↔ key = some c ∧ ∀ e, c.expiresAt = some e → now < e := by
  rw [alive, Option.filter_eq_some_iff]
  cases c.expiresAt with
  | none => simp
  | some e => simp

/-- A count is read from a key that stays, or from one that has not expired. -/
theorem get_eq_some_iff : get now key = some n ↔
    key = some ⟨n, none⟩ ∨ ∃ e, key = some ⟨n, some e⟩ ∧ now < e := by
  rw [get, Option.map_eq_some_iff]
  constructor
  · rintro ⟨c, halive, rfl⟩
    obtain ⟨rfl, hexpiry⟩ := alive_eq_some_iff.mp halive
    obtain ⟨count, expiresAt⟩ := c
    cases expiresAt with
    | none => exact Or.inl rfl
    | some e => exact Or.inr ⟨e, rfl, hexpiry e rfl⟩
  · rintro (rfl | ⟨e, rfl, hlt⟩)
    · refine ⟨_, alive_eq_some_iff.mpr ⟨rfl, ?_⟩, rfl⟩
      intro e he
      cases he
    · refine ⟨_, alive_eq_some_iff.mpr ⟨rfl, ?_⟩, rfl⟩
      intro e' he
      obtain rfl := Option.some.inj he
      exact hlt

theorem get_of_stays (h : key = some ⟨n, none⟩) : get now key = some n :=
  get_eq_some_iff.mpr (Or.inl h)

/-- What `INCR` leaves: a key that stayed stays, a new one stays, and an expiry is kept. -/
theorem incr_cases (now : Nat) (key : Option Counter) :
    (∃ n, key = some ⟨n, none⟩ ∧ incr now key = (n + 1, some ⟨n + 1, none⟩)) ∨
    (∃ n e, key = some ⟨n, some e⟩ ∧ now < e ∧ incr now key = (n + 1, some ⟨n + 1, some e⟩)) ∨
    (get now key = none ∧ incr now key = (1, some ⟨1, none⟩)) := by
  unfold incr get
  cases halive : alive now key with
  | none => exact Or.inr (Or.inr ⟨rfl, rfl⟩)
  | some c =>
    obtain ⟨rfl, hexpiry⟩ := alive_eq_some_iff.mp halive
    obtain ⟨count, expiresAt⟩ := c
    cases expiresAt with
    | none => exact Or.inl ⟨count, rfl, rfl⟩
    | some e => exact Or.inr (Or.inl ⟨count, e, rfl, hexpiry e rfl, rfl⟩)

/-- After `EXPIRE` a key that is there has the new expiry. -/
theorem expiresAt_expire (h : expire now ttl key = some c) : c.expiresAt = some (now + ttl) := by
  rw [expire, Option.map_eq_some_iff] at h
  obtain ⟨_, -, rfl⟩ := h
  rfl

theorem count_expire (h : expire now ttl key = some c) :
    ∃ old, key = some old ∧ c.count = old.count := by
  rw [expire, Option.map_eq_some_iff] at h
  obtain ⟨old, halive, rfl⟩ := h
  exact ⟨old, (alive_eq_some_iff.mp halive).1, rfl⟩

theorem not_stays_expire : ¬Stays (expire now ttl key) := by
  rintro ⟨n, h⟩
  cases expiresAt_expire h

end Counter

end DeliveryTracking
