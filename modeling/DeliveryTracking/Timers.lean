/-
# `DeliveryTracking.Timers` — the timers of an event loop

Timers that fire once, by handle, over an arbitrary type of callbacks.

    set     a new handle, due after a delay
    clear   the timer of a handle, if it is still pending
    late    how much later than due a timer may fire: time stops there

A program that keeps the handle of its latest timer in a field, and clears it
before it sets another, has at most one timer of that callback (`Slot`): the field
owns it, and no other field does.

Nothing below names the repository.
-/
import Mathlib.Data.List.Nodup

namespace DeliveryTracking

/-- A timer that has neither fired nor been cleared. -/
structure Timer (κ : Type*) where
  handle : Nat
  callback : κ
  due : Nat
  deriving DecidableEq, Repr

structure Timers (κ : Type*) where
  pending : List (Timer κ)
  /-- The next handle. -/
  fresh : Nat
  deriving DecidableEq, Repr

namespace Timers

variable {κ : Type*}

def empty : Timers κ := ⟨[], 0⟩

/-- `setTimeout(k, delay)`; its handle is `fresh`. -/
def set (now delay : Nat) (k : κ) (s : Timers κ) : Timers κ :=
  ⟨⟨s.fresh, k, now + delay⟩ :: s.pending, s.fresh + 1⟩

/-- `if (field) clearTimeout(field)` -/
def clear (field : Option Nat) (s : Timers κ) : Timers κ :=
  { s with pending := s.pending.filter fun t => some t.handle ≠ field }

/-- Time may pass up to `t`, if no timer fires more than `late` after it is due. -/
def allows (late t : Nat) (s : Timers κ) : Bool := s.pending.all fun x => t ≤ x.due + late

/-- The pending timers of the callback `k` are those whose handle is in `field`. -/
structure Slot (s : Timers κ) (k : κ) (field : Option Nat) : Prop where
  owns : ∀ t ∈ s.pending, t.callback = k ↔ field = some t.handle
  known : ∀ h, field = some h → h < s.fresh

/-- Handles are given in order, each to one timer. -/
structure Known (s : Timers κ) : Prop where
  given : ∀ t ∈ s.pending, t.handle < s.fresh
  nodup : (s.pending.map Timer.handle).Nodup

variable {s : Timers κ} {k k' : κ} {field field' : Option Nat} {now delay late : Nat}

theorem mem_clear {t : Timer κ} :
    t ∈ (s.clear field).pending ↔ t ∈ s.pending ∧ field ≠ some t.handle := by
  simp only [clear, List.mem_filter, decide_eq_true_eq, ne_comm]

theorem allows_iff {t : Nat} : s.allows late t = true ↔ ∀ x ∈ s.pending, t ≤ x.due + late := by
  simp [allows]

theorem known_empty : (empty : Timers κ).Known where
  given := by intro t ht; cases ht
  nodup := List.nodup_nil

theorem Known.clear (h : s.Known) : (s.clear field).Known where
  given := fun t ht => h.given t (mem_clear.mp ht).1
  nodup := h.nodup.sublist (List.filter_sublist.map _)

theorem Known.set (h : s.Known) : (s.set now delay k).Known where
  given := by
    intro t ht
    rcases List.mem_cons.mp ht with rfl | ht
    · exact Nat.lt_succ_self _
    · exact Nat.lt_succ_of_lt (h.given t ht)
  nodup := by
    refine List.nodup_cons.mpr ⟨?_, h.nodup⟩
    intro hmem
    obtain ⟨t, ht, hhandle⟩ := List.mem_map.mp hmem
    exact Nat.ne_of_lt (h.given t ht) hhandle

theorem slot_empty : (empty : Timers κ).Slot k none where
  owns := by intro t ht; cases ht
  known := by intro h hh; cases hh

/-- Clearing any handle leaves the fields as they are. -/
theorem Slot.clear (h : s.Slot k field) : (s.clear field').Slot k field where
  owns := fun t ht => h.owns t (mem_clear.mp ht).1
  known := h.known

/-- After `clearTimeout(field)` no timer of that callback is pending. -/
theorem Slot.not_pending (h : s.Slot k field) : ∀ t ∈ (s.clear field).pending, t.callback ≠ k := by
  intro t ht hk
  obtain ⟨hmem, hne⟩ := mem_clear.mp ht
  exact hne ((h.owns t hmem).mp hk)

/-- A field whose timer is gone takes the next one. -/
theorem Slot.set_self (hknown : s.Known) (h : ∀ t ∈ s.pending, t.callback ≠ k) :
    (s.set now delay k).Slot k (some s.fresh) where
  owns := by
    intro t ht
    rcases List.mem_cons.mp ht with rfl | ht
    · exact iff_of_true rfl rfl
    · refine iff_of_false (h t ht) ?_
      intro heq
      have hlt : t.handle < s.fresh := hknown.given t ht
      have hfresh : s.fresh = t.handle := Option.some.inj heq
      omega
  known := by
    intro h' hh
    obtain rfl : s.fresh = h' := Option.some.inj hh
    exact Nat.lt_succ_self _

/-- A timer of another callback is not in the field. -/
theorem Slot.set_other (hne : k' ≠ k) (h : s.Slot k field) : (s.set now delay k').Slot k field where
  owns := by
    intro t ht
    rcases List.mem_cons.mp ht with rfl | ht
    · refine iff_of_false hne ?_
      intro heq
      exact Nat.lt_irrefl _ (h.known _ heq)
    · exact h.owns t ht
  known := fun h' hh => Nat.lt_succ_of_lt (h.known h' hh)

/-- `if (field) clearTimeout(field); field = setTimeout(k, delay)` -/
theorem Slot.reset (hknown : s.Known) (h : s.Slot k field) :
    ((s.clear field).set now delay k).Slot k (some s.fresh) :=
  Slot.set_self hknown.clear h.not_pending

/-- Clearing one field does not touch the timer of another. -/
theorem Slot.mem_clear_other (h : s.Slot k field) (hne : k' ≠ k) {t : Timer κ} (ht : t ∈ s.pending)
    (hk : t.callback = k') : t ∈ (s.clear field).pending := by
  refine mem_clear.mpr ⟨ht, ?_⟩
  intro heq
  exact hne (hk.symm.trans ((h.owns t ht).mpr heq))

/-- A field owns at most one timer. -/
theorem Slot.unique (hknown : s.Known) (h : s.Slot k field) {t t' : Timer κ} (ht : t ∈ s.pending)
    (ht' : t' ∈ s.pending) (hk : t.callback = k) (hk' : t'.callback = k) : t = t' :=
  List.inj_on_of_nodup_map hknown.nodup ht ht' <|
    Option.some.inj (((h.owns t ht).mp hk).symm.trans ((h.owns t' ht').mp hk'))

end Timers

end DeliveryTracking
