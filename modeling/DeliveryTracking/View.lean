/-
# `DeliveryTracking.View` — what an observer learns of a system

A system shows its observer something at every step.  The observer has a view of
its own: of each state, and of each input, or nothing of it.  Where a step shows
what the system would show if the view were all there is, and leaves the view as
that system would, the step is *explained*.

A run whose steps are all explained shows what the view of the run shows
(`shown_eq`), so two such runs with the same view show the same (`shown_congr`).
-/
import DeliveryTracking.Runs

namespace DeliveryTracking

/-- A system, and an observer of it whose view is a state and an input again. -/
structure Observer (σ ι ο : Type*) where
  step : σ → ι → List ο × σ
  view : σ → σ
  visible : σ → ι → Option ι

namespace Observer

variable {σ ι ο : Type*} (V : Observer σ ι ο)

/-- What the observer is shown, in order. -/
def shown (s : σ) (is : List ι) : List ο := (trace V.step s is).flatMap Tick.output

/-- What the observer sees of the inputs. -/
def witnessed (s : σ) (is : List ι) : List ι :=
  (trace V.step s is).flatMap fun x => (V.visible x.before x.input).toList

/-- The view accounts for what a step shows and does. -/
def Explained (s : σ) (i : ι) : Prop :=
  match V.visible s i with
  | none => (V.step s i).1 = [] ∧ V.view (V.step s i).2 = V.view s
  | some j => V.step (V.view s) j = ((V.step s i).1, V.view (V.step s i).2)

variable {V}

theorem explained_of_none {s : σ} {i : ι} (h : V.visible s i = none) :
    V.Explained s i ↔ (V.step s i).1 = [] ∧ V.view (V.step s i).2 = V.view s := by
  rw [Explained, h]

theorem explained_of_some {s : σ} {i j : ι} (h : V.visible s i = some j) :
    V.Explained s i ↔ V.step (V.view s) j = ((V.step s i).1, V.view (V.step s i).2) := by
  rw [Explained, h]

variable (V)

/-- A run that is explained shows what its view shows. -/
theorem shown_eq : ∀ {is : List ι} {s : σ},
    (∀ x ∈ trace V.step s is, V.Explained x.before x.input) →
      V.shown s is = V.shown (V.view s) (V.witnessed s is)
  | [], _, _ => rfl
  | i :: is, s, h => by
      have hhead : V.Explained s i := h ⟨s, i, _⟩ (List.mem_cons_self ..)
      have hrest : V.shown (V.step s i).2 is =
          V.shown (V.view (V.step s i).2) (V.witnessed (V.step s i).2 is) :=
        shown_eq fun x hx => h x (List.mem_cons_of_mem _ hx)
      have hcons : V.shown s (i :: is) = (V.step s i).1 ++ V.shown (V.step s i).2 is := rfl
      have hwitnessed : V.witnessed s (i :: is) =
          (V.visible s i).toList ++ V.witnessed (V.step s i).2 is := rfl
      rw [hcons, hwitnessed, hrest]
      cases hvisible : V.visible s i with
      | none =>
        rw [explained_of_none hvisible] at hhead
        rw [hhead.1, hhead.2]
        rfl
      | some j =>
        rw [explained_of_some hvisible] at hhead
        have hview : V.shown (V.view s) (j :: V.witnessed (V.step s i).2 is) =
            (V.step (V.view s) j).1 ++
              V.shown (V.step (V.view s) j).2 (V.witnessed (V.step s i).2 is) := rfl
        rw [Option.toList_some, List.singleton_append, hview, hhead]

/-- Two runs that are explained and have the same view show the same. -/
theorem shown_congr {s t : σ} {is js : List ι}
    (hs : ∀ x ∈ trace V.step s is, V.Explained x.before x.input)
    (ht : ∀ x ∈ trace V.step t js, V.Explained x.before x.input) (hview : V.view s = V.view t)
    (hsame : V.witnessed s is = V.witnessed t js) : V.shown s is = V.shown t js := by
  rw [V.shown_eq hs, V.shown_eq ht, hview, hsame]

end Observer

end DeliveryTracking
