/-
# `DeliveryTracking.Transaction` — interactive transactions

The callback of `prisma.$transaction(async (tx) => …)` reads and writes through
`tx` and may throw.  It is a function `body : σ → Except ε α × σ` whose state
component holds every write it made, also those made before a throw;
`transaction body` is the call as the caller sees it: a callback that throws
leaves the state it found.  The steps of a callback that returned all returned
(`bind_eq_ok`).
-/
import Mathlib.Data.List.Basic

namespace DeliveryTracking

variable {σ ε α : Type*}

/-- Commit the callback's writes if it returns, roll them back if it throws. -/
def transaction (body : σ → Except ε α × σ) (s : σ) : Except ε α × σ :=
  match body s with
  | (.ok a, s') => (.ok a, s')
  | (.error e, _) => (.error e, s)

/-- The caller gets the callback's result. -/
@[simp] theorem transaction_fst (body : σ → Except ε α × σ) (s : σ) :
    (transaction body s).1 = (body s).1 := by
  unfold transaction
  rcases body s with ⟨_ | _, _⟩ <;> rfl

/-- A thrown error undoes every write of the callback. -/
theorem transaction_of_error {body : σ → Except ε α × σ} {s : σ} {e : ε}
    (h : (body s).1 = .error e) : (transaction body s).2 = s := by
  unfold transaction
  rcases hb : body s with ⟨_ | _, _⟩
  · rfl
  · simp [hb] at h

theorem bind_eq_ok {ε α β : Type} {x : Except ε α} {f : α → Except ε β} {b : β} :
    (x >>= f) = .ok b ↔ ∃ a, x = .ok a ∧ f a = .ok b := by
  cases x with
  | error e => simp [bind, Except.bind]
  | ok a => simp [bind, Except.bind]

end DeliveryTracking
