/-
# `DeliveryTracking.Matching` — one-to-one relations and their updates

A matching relates each element of one side to at most one of the other, in both
directions.  It changes by three operations:

    put a b      relate a and b, after freeing both
    dropLeft a   free a
    dropRight b  free b

Two representations of a matching that go through the same operations stay
equal.  `put_of_rel` and `put_drop` are the steps that one of them may skip.

Nothing below names the repository.
-/
import Mathlib.Logic.Relator

namespace DeliveryTracking

@[ext] structure Matching (α β : Type*) where
  rel : α → β → Prop
  biUnique : Relator.BiUnique rel

namespace Matching

variable {α β : Type*} (m : Matching α β) {a a' : α} {b b' : β}

theorem left_unique (h : m.rel a b) (h' : m.rel a' b) : a = a' := m.biUnique.1 h h'

theorem right_unique (h : m.rel a b) (h' : m.rel a b') : b = b' := m.biUnique.2 h h'

def put (a : α) (b : β) : Matching α β where
  rel a' b' := a' = a ∧ b' = b ∨ a' ≠ a ∧ b' ≠ b ∧ m.rel a' b'
  biUnique := by
    constructor
    · rintro a₁ a₂ b' (⟨rfl, hb⟩ | ⟨-, hb, h₁⟩) (⟨rfl, hb'⟩ | ⟨-, hb', h₂⟩)
      · rfl
      · exact absurd hb hb'
      · exact absurd hb' hb
      · exact m.left_unique h₁ h₂
    · rintro a' b₁ b₂ (⟨ha, rfl⟩ | ⟨ha, -, h₁⟩) (⟨ha', rfl⟩ | ⟨ha', -, h₂⟩)
      · rfl
      · exact absurd ha ha'
      · exact absurd ha' ha
      · exact m.right_unique h₁ h₂

def dropLeft (a : α) : Matching α β where
  rel a' b' := a' ≠ a ∧ m.rel a' b'
  biUnique := ⟨fun _ _ _ h h' => m.left_unique h.2 h'.2, fun _ _ _ h h' => m.right_unique h.2 h'.2⟩

def dropRight (b : β) : Matching α β where
  rel a' b' := b' ≠ b ∧ m.rel a' b'
  biUnique := ⟨fun _ _ _ h h' => m.left_unique h.2 h'.2, fun _ _ _ h h' => m.right_unique h.2 h'.2⟩

/-- Putting a pair that is there changes nothing. -/
theorem put_of_rel (h : m.rel a b) : m.put a b = m := by
  ext a' b'
  constructor
  · rintro (⟨rfl, rfl⟩ | ⟨-, -, h'⟩)
    · exact h
    · exact h'
  · intro h'
    by_cases ha : a' = a
    · subst ha
      exact .inl ⟨rfl, m.right_unique h' h⟩
    · refine .inr ⟨ha, ?_, h'⟩
      rintro rfl
      exact ha (m.left_unique h' h)

/-- A put frees both sides itself. -/
theorem put_drop : ((m.dropRight b).dropLeft a).put a b = m.put a b := by
  ext a' b'
  constructor
  · rintro (h | ⟨ha, hb, -, -, h⟩)
    · exact .inl h
    · exact .inr ⟨ha, hb, h⟩
  · rintro (h | ⟨ha, hb, h⟩)
    · exact .inl h
    · exact .inr ⟨ha, hb, ha, hb, h⟩

end Matching

end DeliveryTracking
