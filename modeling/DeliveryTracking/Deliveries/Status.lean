/-
# `DeliveryTracking.Deliveries.Status` — the delivery state machine

    pending ──▶ assigned ──▶ in_progress ──▶ delivered | failed
       │           │             │
       └───────────┴─────────────┴────────▶ cancelled

`transitionMatrix` is the table every writer checks its target against;
`driverAllowed` is the part of it a driver may use.
-/
import Mathlib.Data.List.Basic

namespace DeliveryTracking.Deliveries

inductive DeliveryStatus where
  | pending
  | assigned
  | in_progress
  | delivered
  | failed
  | cancelled
  deriving DecidableEq, Repr

def DeliveryStatus.name : DeliveryStatus → String
  | .pending => "pending"
  | .assigned => "assigned"
  | .in_progress => "in_progress"
  | .delivered => "delivered"
  | .failed => "failed"
  | .cancelled => "cancelled"

/-- `TRANSITION_MATRIX`. -/
def transitionMatrix : DeliveryStatus → List DeliveryStatus
  | .pending => [.assigned, .cancelled]
  | .assigned => [.in_progress, .cancelled]
  | .in_progress => [.delivered, .failed, .cancelled]
  | .delivered => []
  | .failed => []
  | .cancelled => []

/-- The statuses a driver may set from `s`. -/
def driverAllowed (s : DeliveryStatus) : List DeliveryStatus :=
  (transitionMatrix s).filter fun t => t = .in_progress ∨ t = .delivered ∨ t = .failed

/-- `delivered`, `failed`, `cancelled`. -/
def DeliveryStatus.Terminal (s : DeliveryStatus) : Prop :=
  s = .delivered ∨ s = .failed ∨ s = .cancelled

instance (s : DeliveryStatus) : Decidable s.Terminal :=
  inferInstanceAs (Decidable (_ ∨ _ ∨ _))

/-- The terminal statuses are the ones without a way out. -/
theorem terminal_iff {s : DeliveryStatus} : s.Terminal ↔ transitionMatrix s = [] := by
  cases s <;> decide

theorem transitionMatrix_of_driverAllowed {s t : DeliveryStatus} (h : t ∈ driverAllowed s) :
    t ∈ transitionMatrix s :=
  (List.mem_filter.mp h).1

/-- A delivery that has not started: import may advance it. -/
def notStarted (s : DeliveryStatus) : Bool := s = .pending ∨ s = .assigned

end DeliveryTracking.Deliveries
