/-
# `DeliveryTracking.Emitter` — listeners that are called once

The listeners of one event, by name, in the order in which they were registered.

    once   at the end of the list
    off    the first of that name is taken out
    emit   goes through a copy of the list; each listener is taken out, and its
           handler called, which may register it again

What a handler keeps, as long as it leaves the other listeners where they are, `emit`
keeps (`emit_invariant`).  `Lists` says who is registered.

Nothing below names the repository.
-/
import Mathlib.Data.List.Nodup

namespace DeliveryTracking

/-- An event, by where a state has its listeners. -/
structure Event (σ κ : Type*) where
  listeners : σ → List κ
  set : List κ → σ → σ

namespace Event

variable {σ κ : Type*} [DecidableEq κ] (ev : Event σ κ)

omit [DecidableEq κ] in
def once (k : κ) (s : σ) : σ := ev.set (ev.listeners s ++ [k]) s

def off (k : κ) (s : σ) : σ := ev.set ((ev.listeners s).erase k) s

def emit (handle : κ → σ → σ) (s : σ) : σ :=
  (ev.listeners s).foldl (fun s k => handle k (ev.off k s)) s

variable {ev}

theorem emit_invariant {handle : κ → σ → σ} {I : σ → Prop}
    (hnodup : ∀ s, I s → (ev.listeners s).Nodup)
    (hI : ∀ s k, I s → k ∈ ev.listeners s → I (handle k (ev.off k s)))
    (hothers : ∀ s k j, I s → j ∈ ev.listeners s → j ≠ k → j ∈ ev.listeners (handle k (ev.off k s)))
    {s : σ} (hs : I s) : I (ev.emit handle s) := by
  -- every listener of the copy is still there when its turn comes
  have hfold : ∀ (copy : List κ) (s : σ), copy.Nodup → (∀ j ∈ copy, j ∈ ev.listeners s) → I s →
      I (copy.foldl (fun s k => handle k (ev.off k s)) s) := by
    intro copy
    induction copy with
    | nil => exact fun s _ _ hs => hs
    | cons k copy ih =>
        intro s hcopy hmem hs
        obtain ⟨hk, hcopy⟩ := List.nodup_cons.mp hcopy
        refine ih _ hcopy ?_ (hI s k hs (hmem k (List.mem_cons_self ..)))
        intro j hj
        refine hothers s k j hs (hmem j (List.mem_cons_of_mem _ hj)) ?_
        rintro rfl
        exact hk hj
  exact hfold _ s (hnodup s hs) (fun _ hj => hj) hs

/-- What relates a state to what a handler makes of it, reflexive and transitive, relates it to what
all of them do. -/
theorem emit_rel {handle : κ → σ → σ} {r : σ → σ → Prop} (hrefl : ∀ {s}, r s s)
    (htrans : ∀ {s t u}, r s t → r t u → r s u) (hr : ∀ s k, r s (handle k (ev.off k s))) (s : σ) :
    r s (ev.emit handle s) := by
  have hfold : ∀ (copy : List κ) (s : σ),
      r s (copy.foldl (fun s k => handle k (ev.off k s)) s) := by
    intro copy
    induction copy with
    | nil => exact fun s => hrefl
    | cons k copy ih => exact fun s => htrans (hr s k) (ih _)
  exact hfold _ s

end Event

/-! ## Who is in a list of listeners -/

/-- The names of which `P` holds, once each. -/
def Lists {κ : Type*} (l : List κ) (P : κ → Prop) : Prop := l.Nodup ∧ ∀ k, k ∈ l ↔ P k

namespace Lists

variable {κ : Type*} {l : List κ} {P Q : κ → Prop} {k : κ}

theorem congr (h : Lists l P) (hPQ : ∀ j, P j ↔ Q j) : Lists l Q :=
  ⟨h.1, fun j => (h.2 j).trans (hPQ j)⟩

theorem concat (h : Lists l P) (hk : ¬P k) : Lists (l ++ [k]) fun j => P j ∨ j = k := by
  refine ⟨List.nodup_append.mpr ⟨h.1, List.nodup_singleton k, ?_⟩, fun j => ?_⟩
  · intro j hj i hi hji
    obtain rfl := List.mem_singleton.mp hi
    subst hji
    exact hk ((h.2 j).mp hj)
  · rw [List.mem_append, List.mem_singleton, h.2 j]

variable [DecidableEq κ]

theorem erase (h : Lists l P) : Lists (l.erase k) fun j => P j ∧ j ≠ k := by
  refine ⟨h.1.erase k, fun j => ?_⟩
  rw [h.1.mem_erase_iff, h.2 j]
  exact and_comm

/-- One that is taken out and registers again is where the others are. -/
theorem again (h : Lists l P) (hk : k ∈ l) : Lists (l.erase k ++ [k]) P := by
  refine (h.erase.concat fun hk => hk.2 rfl).congr fun j => ?_
  constructor
  · rintro (hj | rfl)
    · exact hj.1
    · exact (h.2 j).mp hk
  · intro hj
    by_cases hjk : j = k
    · exact Or.inr hjk
    · exact Or.inl ⟨hj, hjk⟩

end Lists

end DeliveryTracking
