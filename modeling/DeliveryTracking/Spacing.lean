/-
# `DeliveryTracking.Spacing` — emissions kept apart by a stamp

A program that may emit at a step, at a time the step knows, and that keeps the time
from which it may emit again.

    Throttled   an emission is not before that time, and moves it `gap` further;
                no other step brings it back

    any two emissions of a run are `gap` apart, and none is before the first such time;
    so few of them are between any two times

The times are those the program reads: nothing is asked of its clock.

Nothing below names the repository.
-/
import DeliveryTracking.Runs
import Mathlib.Algebra.Order.Group.Int
import Mathlib.Tactic.Linarith

namespace DeliveryTracking

variable {σ ι : Type*} {step : σ → ι → σ} {emit : σ → ι → Option Int} {ready : σ → Int} {gap : Int}

/-- The times of the emissions of a run, in order. -/
def emissions (step : σ → ι → σ) (emit : σ → ι → Option Int) : σ → List ι → List Int
  | _, [] => []
  | s, i :: is => (emit s i).toList ++ emissions step emit (step s i) is

structure Throttled (step : σ → ι → σ) (emit : σ → ι → Option Int) (ready : σ → Int) (gap : Int) :
    Prop where
  emits : ∀ s i t, emit s i = some t → ready s ≤ t ∧ t + gap ≤ ready (step s i)
  keeps : ∀ s i, emit s i = none → ready s ≤ ready (step s i)

namespace Throttled

/-- No emission is before the time from which the run may emit. -/
theorem le (h : Throttled step emit ready gap) (hgap : 0 ≤ gap) :
    ∀ (is : List ι) (s : σ), ∀ t ∈ emissions step emit s is, ready s ≤ t := by
  intro is
  induction is with
  | nil => intro s t ht; cases ht
  | cons i is ih =>
      intro s t ht
      rcases List.mem_append.mp ht with ht | ht
      · exact (h.emits s i t (Option.mem_toList.mp ht)).1
      · have hrest : ready (step s i) ≤ t := ih (step s i) t ht
        cases hemit : emit s i with
        | none => exact (h.keeps s i hemit).trans hrest
        | some u =>
            obtain ⟨hready, hnext⟩ := h.emits s i u hemit
            omega

/-- Any two emissions are `gap` apart. -/
theorem pairwise (h : Throttled step emit ready gap) (hgap : 0 ≤ gap) :
    ∀ (is : List ι) (s : σ), (emissions step emit s is).Pairwise (· + gap ≤ ·) := by
  intro is
  induction is with
  | nil => intro s; exact List.Pairwise.nil
  | cons i is ih =>
      intro s
      refine List.pairwise_append.mpr ⟨?_, ih (step s i), ?_⟩
      · cases emit s i with
        | none => exact List.Pairwise.nil
        | some t => exact List.pairwise_singleton ..
      · intro t ht u hu
        have hrest : ready (step s i) ≤ u := h.le hgap is (step s i) u hu
        exact (h.emits s i t (Option.mem_toList.mp ht)).2.trans hrest

end Throttled

/-- Times that are `gap` apart: each takes up its gap of the time there is, the last one past it. -/
theorem length_mul_gap_le {b : Int} : ∀ {l : List Int} {a : Int}, a ≤ b + gap →
    l.Pairwise (· + gap ≤ ·) → (∀ t ∈ l, a ≤ t ∧ t ≤ b) → l.length * gap ≤ b + gap - a := by
  intro l
  induction l with
  | nil =>
      intro a hab _ _
      rw [List.length_nil, Nat.cast_zero, zero_mul]
      omega
  | cons t l ih =>
      intro a hab hspaced hwithin
      obtain ⟨hfirst, hrest⟩ := List.pairwise_cons.mp hspaced
      obtain ⟨hat, htb⟩ := hwithin t (List.mem_cons_self ..)
      have hlater : l.length * gap ≤ b + gap - (t + gap) := by
        refine ih (by omega) hrest ?_
        intro u hu
        exact ⟨hfirst u hu, (hwithin u (List.mem_cons_of_mem _ hu)).2⟩
      rw [List.length_cons, Nat.cast_succ, add_mul, one_mul]
      omega

/-- So few emissions of a run are between two times. -/
theorem Throttled.length_mul_gap_le (h : Throttled step emit ready gap) (hgap : 0 ≤ gap) (is : List ι)
    (s : σ) {a b : Int} (hab : a ≤ b) :
    ((emissions step emit s is).filter fun t => a ≤ t ∧ t ≤ b).length * gap ≤ b + gap - a := by
  refine DeliveryTracking.length_mul_gap_le (by omega) ((h.pairwise hgap is s).filter _) ?_
  intro t ht
  exact of_decide_eq_true (List.mem_filter.mp ht).2

end DeliveryTracking
