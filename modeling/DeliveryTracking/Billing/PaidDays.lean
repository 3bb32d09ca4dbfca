/-
# `DeliveryTracking.Billing.PaidDays` — where a payment leaves the end of the period

An activation code and a Stripe renewal both count the paid duration from the instant they
are handled, whatever is left of the period before: paying early gives the days left away.
-/
import DeliveryTracking.Billing.Manual
import DeliveryTracking.Billing.Stripe

namespace DeliveryTracking.Billing

/-- The webhook of a renewal. -/
def renewalHook (eventId invoiceId subscriptionId : String) : StripeWebhook :=
  { id := eventId, event := .invoicePaid invoiceId (some subscriptionId) }

theorem tables_renewal {w : BillingWorld} {eventId invoiceId subscriptionId : String} {now : Int}
    {s : Subscription} (hfresh : w.marked eventId now = false) (hid : subscriptionId ≠ "")
    (hrow : w.tables.byStripeId subscriptionId = some s) :
    (handleStripeWebhook w (renewalHook eventId invoiceId subscriptionId) now).tables =
      (w.tables.update s.companyId (Subscription.activate now)
        (Subscription.companyId_activate now)).createInvoice s.companyId s.plan.price
          s.plan.currency .stripe (some invoiceId) now := by
  rw [tables_handleStripeWebhook hfresh]
  simp only [renewalHook, stripeSteps, present_of_ne hid, Option.bind_some, hrow]
  split <;> rfl

/-- An approved proof of the company. -/
def approvedProof (id code : String) : PaymentProof :=
  { id := id, companyId := "company-1", claimedPlan := waitingRow.plan, status := .approved
    reviewedById := some "admin-1", reviewedAt := some paidAt, rejectionReason := none
    activationCodeHash := some code, activationCodePrefix := none
    activationExpiresAt := some (paidAt + activationCodeValidity), redeemedAt := none }

def twoCodes : ManualTables :=
  { proofs := ⟨[approvedProof "proof-1" "PAY-AAAA2222", approvedProof "proof-2" "PAY-BBBB3333"],
      by decide⟩
    billing := waitingWorld.tables }

end DeliveryTracking.Billing
