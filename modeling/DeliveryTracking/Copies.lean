/-
# `DeliveryTracking.Copies` — a copy that misses writes

A table of keys is written and cleared, and a copy of it takes part in some of
this.  What was written last stays in the copy until the copy takes part again, so
one bit for each key says what its entry is worth: it is behind from a write or a
clearing that it missed to the next one it did not.

    write      taken: the entry, not behind     missed: behind
    clear p    of the copy q is cleared: not behind, and behind where p without q
    drop       entries are lost, which no bit tells

In all of these an entry of the copy is what the table holds exactly where the copy
is not behind (`Tracks`), if the writes are told apart.

Nothing below names the repository.
-/
import Mathlib.Logic.Function.Basic
import Mathlib.Data.Option.Basic

namespace DeliveryTracking

variable {κ ω : Type*}

/-- Entries of the copy are those of the table exactly where it is not behind. -/
def Tracks (table copy : κ → Option ω) (behind : κ → Bool) : Prop :=
  ∀ k w, copy k = some w → (table k = some w ↔ behind k = false)

namespace Tracks

variable {table copy : κ → Option ω} {behind : κ → Bool}

theorem empty (table : κ → Option ω) (behind : κ → Bool) : Tracks table (fun _ => none) behind :=
  fun _ _ h => nomatch h

/-- Entries may be lost. -/
theorem drop {copy' : κ → Option ω} (h : Tracks table copy behind)
    (hsub : ∀ k w, copy' k = some w → copy k = some w) : Tracks table copy' behind :=
  fun k w hw => h k w (hsub k w hw)

section Write

variable [DecidableEq κ] {k : κ} {w : ω}

theorem write_taken (h : Tracks table copy behind) :
    Tracks (Function.update table k (some w)) (Function.update copy k (some w))
      (Function.update behind k false) := by
  intro l v hv
  by_cases hl : l = k
  · subst hl
    rw [Function.update_self] at hv
    rw [Function.update_self, Function.update_self]
    exact iff_of_true hv rfl
  · rw [Function.update_of_ne hl] at hv
    rw [Function.update_of_ne hl, Function.update_of_ne hl]
    exact h l v hv

/-- What the copy has is not what is written. -/
theorem write_missed (h : Tracks table copy behind) (hnew : copy k ≠ some w) :
    Tracks (Function.update table k (some w)) copy (Function.update behind k true) := by
  intro l v hv
  by_cases hl : l = k
  · subst hl
    rw [Function.update_self, Function.update_self]
    refine iff_of_false ?_ Bool.noConfusion
    intro heq
    exact hnew (heq ▸ hv)
  · rw [Function.update_of_ne hl, Function.update_of_ne hl]
    exact h l v hv

end Write

/-- The keys of `p` are cleared, and in the copy those of `q`. -/
theorem clear (h : Tracks table copy behind) (p q : κ → Bool) :
    Tracks (fun k => if p k then none else table k) (fun k => if q k then none else copy k)
      (fun k => !q k && (p k || behind k)) := by
  intro k w hw
  dsimp only at hw ⊢
  split at hw
  · cases hw
  · rename_i hq
    rw [eq_false_of_ne_true hq, Bool.not_false, Bool.true_and]
    split
    · rename_i hp
      rw [hp, Bool.true_or]
      exact iff_of_false (Option.some_ne_none w).symm Bool.noConfusion
    · rename_i hp
      rw [eq_false_of_ne_true hp, Bool.false_or]
      exact h k w hw

end Tracks

end DeliveryTracking
