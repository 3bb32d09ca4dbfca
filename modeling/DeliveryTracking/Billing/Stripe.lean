/-
# `DeliveryTracking.Billing.Stripe` — the Stripe webhook, step by step

`handleStripeWebhook` marks the event in Redis for a day, reads the subscription the event
is about and then writes: the row, an invoice, a mail to every admin.  A webhook is its
list of writes (`stripeSteps`), and one that fails has made the first few of them.

    checkout.session.completed      active for a month, an invoice, mails
    invoice.paid                    active for the plan's interval, an invoice
    invoice.payment_failed          past_due, mails
    customer.subscription.deleted   canceled, mails
-/
import DeliveryTracking.Billing.Checkout

namespace DeliveryTracking.Billing

open Calendar

/-! ## Model -/

/-- What the handler reads of an event. -/
inductive StripeEvent where
  | checkoutCompleted (companyId subscription customer : Option String)
  | invoicePaid (invoiceId : String) (subscription : Option String)
  | paymentFailed (subscription : Option String)
  | subscriptionDeleted (subscription : Option String)
  | other (type : String)
  deriving DecidableEq, Repr

structure StripeWebhook where
  id : String
  event : StripeEvent
  deriving DecidableEq, Repr

inductive BillingMail where
  | activated (email planName : String)
  | paymentFailed (email : String)
  | canceled (email : String)
  deriving DecidableEq, Repr

structure BillingWorld where
  tables : BillingTables
  /-- The active admins of a company. -/
  admins : String → List String
  /-- Until when an event is marked, when there is a Redis. -/
  marks : Option (String → Option Int)
  mails : List BillingMail

/-- A text that is there and not empty. -/
def present (s : Option String) : Option String := s.filter (· ≠ "")

/-- The row a Stripe event is about. -/
def BillingTables.byStripeId (db : BillingTables) (subscriptionId : String) :
    Option Subscription :=
  db.subscriptions.findFirst (·.stripeSubscriptionId == some subscriptionId)

namespace BillingWorld

variable (w : BillingWorld)

/-- `redis.get` finds the mark. -/
def marked (eventId : String) (now : Int) : Bool :=
  w.marks.any fun marks => (marks eventId).any (now < ·)

/-- `EX 86400`, in milliseconds. -/
def markTtl : Int := 86400 * 1000

def mark (eventId : String) (now : Int) : BillingWorld :=
  { w with marks := w.marks.map fun marks => Function.update marks eventId (some (now + markTtl)) }

def write (f : BillingTables → BillingTables) : BillingWorld := { w with tables := f w.tables }

def send (mail : BillingMail) : BillingWorld := { w with mails := w.mails ++ [mail] }

end BillingWorld

/-- The end of the period a completed checkout starts. -/
def checkoutPeriodEnd (now : Int) : Int := setUTCMonth now (getUTCMonth now + 1)

def Subscription.completeCheckout (customer : Option String) (now : Int) (s : Subscription) :
    Subscription :=
  { s with
    status := .active, currentPeriodStart := now, currentPeriodEnd := checkoutPeriodEnd now
    stripeCustomerId := customer }

def Subscription.setStatus (status : SubscriptionStatus) (s : Subscription) : Subscription :=
  { s with status := status }

def Subscription.cancelAt (now : Int) (s : Subscription) : Subscription :=
  { s with status := .canceled, canceledAt := some now }

@[simp] theorem Subscription.companyId_completeCheckout (customer : Option String) (now : Int)
    (s : Subscription) : (s.completeCheckout customer now).companyId = s.companyId := rfl

@[simp] theorem Subscription.companyId_setStatus (status : SubscriptionStatus) (s : Subscription) :
    (s.setStatus status).companyId = s.companyId := rfl

@[simp] theorem Subscription.companyId_cancelAt (now : Int) (s : Subscription) :
    (s.cancelAt now).companyId = s.companyId := rfl

/-- The writes of an event after its mark, in order. -/
def stripeSteps (w : BillingWorld) (event : StripeEvent) (now : Int) :
    List (BillingWorld → BillingWorld) :=
  match event with
  | .checkoutCompleted companyId subscription customer =>
    match present companyId, present subscription with
    | some _, some subscriptionId =>
      match w.tables.byStripeId subscriptionId with
      | none => []
      | some sub =>
        [(·.write fun db => db.update sub.companyId (Subscription.completeCheckout customer now)
            (Subscription.companyId_completeCheckout customer now)),
          (·.write fun db => db.createInvoice sub.companyId sub.plan.price sub.plan.currency .stripe
            (some subscriptionId) now)] ++
          (w.admins sub.companyId).map fun email => (·.send (.activated email sub.plan.name))
    | _, _ => []
  | .invoicePaid invoiceId subscription =>
    match (present subscription).bind w.tables.byStripeId with
    | none => []
    | some sub =>
      [(·.write fun db => db.update sub.companyId (Subscription.activate now)
          (Subscription.companyId_activate now)),
        (·.write fun db => db.createInvoice sub.companyId sub.plan.price sub.plan.currency .stripe
          (some invoiceId) now)]
  | .paymentFailed subscription =>
    match (present subscription).bind w.tables.byStripeId with
    | none => []
    | some sub =>
      (·.write fun db => db.update sub.companyId (Subscription.setStatus .pastDue)
          (Subscription.companyId_setStatus .pastDue)) ::
        (w.admins sub.companyId).map fun email => (·.send (.paymentFailed email))
  | .subscriptionDeleted subscription =>
    match (present subscription).bind w.tables.byStripeId with
    | none => []
    | some sub =>
      (·.write fun db => db.update sub.companyId (Subscription.cancelAt now)
          (Subscription.companyId_cancelAt now)) ::
        (w.admins sub.companyId).map fun email => (·.send (.canceled email))
  | .other _ => []

/-- The writes of a webhook that is not skipped: the mark comes first. -/
def webhookSteps (w : BillingWorld) (hook : StripeWebhook) (now : Int) :
    List (BillingWorld → BillingWorld) :=
  if w.marks.isSome then (·.mark hook.id now) :: stripeSteps w hook.event now
  else stripeSteps w hook.event now

/-- The first steps of a list. -/
def runSteps (steps : List (BillingWorld → BillingWorld)) (w : BillingWorld) : BillingWorld :=
  steps.foldl (fun w step => step w) w

def handleStripeWebhook (w : BillingWorld) (hook : StripeWebhook) (now : Int) : BillingWorld :=
  if w.marked hook.id now then w else runSteps (webhookSteps w hook now) w

/-- A webhook that fails once it has made `made` of its writes. -/
def failStripeWebhook (w : BillingWorld) (hook : StripeWebhook) (now : Int) (made : Nat) :
    BillingWorld :=
  if w.marked hook.id now then w else runSteps ((webhookSteps w hook now).take made) w

/-! ## Marks -/

section Marks

variable {w : BillingWorld} {hook : StripeWebhook} {event : StripeEvent} {now later : Int}

/-- Only the mark of a webhook is written to Redis. -/
theorem marks_stripeSteps : ∀ step ∈ stripeSteps w event now, ∀ v, (step v).marks = v.marks := by
  have hmails : ∀ (mails : List String) (mail : String → BillingMail),
      ∀ step ∈ mails.map fun email (w : BillingWorld) => w.send (mail email),
        ∀ v : BillingWorld, (step v).marks = v.marks := by
    intro mails mail step hstep v
    obtain ⟨email, -, rfl⟩ := List.mem_map.mp hstep
    rfl
  cases event with
  | checkoutCompleted companyId subscription customer =>
    rw [stripeSteps]
    split
    · split
      · simp
      · rename_i sub _
        intro step hstep v
        rcases List.mem_append.mp hstep with hwrite | hmail
        · rcases List.mem_pair.mp hwrite with rfl | rfl
          · rfl
          · rfl
        · exact hmails _ _ step hmail v
    · simp
  | invoicePaid invoiceId subscription =>
    rw [stripeSteps]
    split
    · simp
    · intro step hstep v
      rcases List.mem_pair.mp hstep with rfl | rfl
      · rfl
      · rfl
  | paymentFailed subscription =>
    rw [stripeSteps]
    split
    · simp
    · intro step hstep v
      rcases List.mem_cons.mp hstep with rfl | hmail
      · rfl
      · exact hmails _ _ step hmail v
  | subscriptionDeleted subscription =>
    rw [stripeSteps]
    split
    · simp
    · intro step hstep v
      rcases List.mem_cons.mp hstep with rfl | hmail
      · rfl
      · exact hmails _ _ step hmail v
  | other type => simp [stripeSteps]

theorem marks_runSteps {steps : List (BillingWorld → BillingWorld)}
    (h : ∀ step ∈ steps, ∀ v, (step v).marks = v.marks) (w : BillingWorld) :
    (runSteps steps w).marks = w.marks := by
  induction steps generalizing w with
  | nil => rfl
  | cons step steps ih =>
    have hrest : (runSteps steps (step w)).marks = (step w).marks :=
      ih (fun g hg => h g (List.mem_cons_of_mem _ hg)) (step w)
    exact hrest.trans (h step List.mem_cons_self w)

/-- The marks after the first writes of a webhook. -/
theorem marks_failStripeWebhook (hfresh : w.marked hook.id now = false) (made : Nat) :
    (failStripeWebhook w hook now made).marks =
      if made = 0 then w.marks else (w.mark hook.id now).marks := by
  rw [failStripeWebhook, if_neg (by rw [hfresh]; exact Bool.false_ne_true), webhookSteps]
  have hrest : ∀ n v, (runSteps ((stripeSteps w hook.event now).take n) v).marks = v.marks :=
    fun n v => marks_runSteps
      (fun step hstep => marks_stripeSteps step (List.mem_of_mem_take hstep)) v
  cases hmarks : w.marks with
  | none =>
    rw [if_neg (by simp), hrest, BillingWorld.mark, hmarks]
    simp
  | some marks =>
    cases made with
    | zero => simp [runSteps, hmarks]
    | succ n => exact hrest n (w.mark hook.id now)

/-- The marks after a webhook that is not skipped. -/
theorem marks_handleStripeWebhook (hfresh : w.marked hook.id now = false) :
    (handleStripeWebhook w hook now).marks = (w.mark hook.id now).marks := by
  rw [handleStripeWebhook, if_neg (by rw [hfresh]; exact Bool.false_ne_true), webhookSteps]
  cases hmarks : w.marks with
  | none =>
    rw [if_neg (by simp), marks_runSteps marks_stripeSteps, BillingWorld.mark, hmarks]
    rfl
  | some marks => exact marks_runSteps marks_stripeSteps (w.mark hook.id now)

/-- The mark is all a webhook writes before its steps, and none of these reads it. -/
theorem tables_handleStripeWebhook (hfresh : w.marked hook.id now = false) :
    (handleStripeWebhook w hook now).tables =
      (runSteps (stripeSteps w hook.event now)
        (if w.marks.isSome then w.mark hook.id now else w)).tables := by
  rw [handleStripeWebhook, if_neg (by rw [hfresh]; exact Bool.false_ne_true), webhookSteps]
  split <;> rfl

/-- Mails leave the tables alone. -/
theorem tables_mails (mails : List String) (mail : String → BillingMail) (w : BillingWorld) :
    (runSteps (mails.map fun email (v : BillingWorld) => v.send (mail email)) w).tables =
      w.tables := by
  induction mails generalizing w with
  | nil => rfl
  | cons email mails ih => exact ih (w.send (mail email))

theorem present_of_ne {t : String} (h : t ≠ "") : present (some t) = some t := by
  simp [present, h]

theorem marked_mark :
    (w.mark hook.id now).marked hook.id later = false ↔
      w.marks = none ∨ now + BillingWorld.markTtl ≤ later := by
  cases hmarks : w.marks with
  | none => simp [BillingWorld.marked, BillingWorld.mark, hmarks]
  | some marks => simp [BillingWorld.marked, BillingWorld.mark, hmarks]

/-- A mark that is gone stays gone. -/
theorem marked_later (hle : now ≤ later) (hfresh : w.marked hook.id now = false) :
    w.marked hook.id later = false := by
  unfold BillingWorld.marked at hfresh ⊢
  cases hmarks : w.marks with
  | none => rfl
  | some marks =>
    rw [hmarks] at hfresh
    cases hmark : marks hook.id with
    | none => simp [hmark]
    | some stop =>
      simp only [Option.any_some, hmark, decide_eq_false_iff_not] at hfresh ⊢
      omega

end Marks

/-! ## A webhook that fails -/

/-- A failed event is not lost: it had made all its writes, or the redelivery is not skipped. -/
def NotLost (w : BillingWorld) (hook : StripeWebhook) (now later : Int) (made : Nat) : Prop :=
  (webhookSteps w hook now).length ≤ made ∨
    (failStripeWebhook w hook now made).marked hook.id later = false

/-- An event whose handler fails is not lost exactly when there is no mark for the redelivery to
find: no Redis, a failure before the mark, none before the last write, or a day gone by. -/
theorem stripeEvent_notLost_iff (w : BillingWorld) (hook : StripeWebhook) {now later : Int}
    (made : Nat) (hle : now ≤ later) (hfresh : w.marked hook.id now = false) :
    NotLost w hook now later made ↔
      w.marks = none ∨ made = 0 ∨ (webhookSteps w hook now).length ≤ made ∨
        now + BillingWorld.markTtl ≤ later := by
  have hmarks := marks_failStripeWebhook hfresh made
  have hmarked : (failStripeWebhook w hook now made).marked hook.id later =
      if made = 0 then w.marked hook.id later else (w.mark hook.id now).marked hook.id later := by
    unfold BillingWorld.marked
    rw [hmarks]
    split <;> rfl
  rw [NotLost, hmarked]
  by_cases hzero : made = 0
  · simp [hzero, marked_later hle hfresh]
  · rw [if_neg hzero, marked_mark]
    constructor
    · rintro (hall | hnone | hold)
      · exact .inr (.inr (.inl hall))
      · exact .inl hnone
      · exact .inr (.inr (.inr hold))
    · rintro (hnone | hz | hall | hold)
      · exact .inr (.inl hnone)
      · exact absurd hz hzero
      · exact .inl hall
      · exact .inr (.inr hold)

/-! ### The handler dies after the mark -/

/-- A row that waits for its Stripe payment. -/
def waitingRow : Subscription :=
  { companyId := "company-1"
    plan := {
      id := "plan-pro", tier := .pro, name := "Pro", price := 9900, currency := "EUR"
      interval := "year", maxVehicles := 20, maxDeliveriesPerMonth := 1000, maxUsers := 10 }
    status := .incomplete, provider := .stripe, stripeSubscriptionId := some "sub_1"
    stripeCustomerId := none, mobileMoneyRef := none, currentPeriodStart := 1788220800000
    currentPeriodEnd := 1819756800000, canceledAt := none, trialEndsAt := none }

def waitingWorld : BillingWorld :=
  { tables := {
      plans := [waitingRow.plan], companies := ["company-1"], subscriptions := ⟨[waitingRow], by simp⟩
      invoices := [] }
    admins := fun _ => ["admin@company-1.mg"], marks := some fun _ => none, mails := [] }

def checkoutHook : StripeWebhook :=
  { id := "evt_1", event := .checkoutCompleted (some "company-1") (some "sub_1") (some "cus_1") }

/-- 2026-09-01 at 08:00 UTC. -/
def paidAt : Int := 1788249600000

theorem checkoutHook_notLost_iff :
    NotLost waitingWorld checkoutHook paidAt (paidAt + 60000) 0 ↔
      waitingWorld.marks = none ∨ 0 = 0 ∨ (webhookSteps waitingWorld checkoutHook paidAt).length ≤ 0 ∨
        paidAt + BillingWorld.markTtl ≤ paidAt + 60000 :=
  stripeEvent_notLost_iff waitingWorld checkoutHook 0 (by decide) (by decide)

/-- The handler fails once the event is marked; the redelivery of a minute later is skipped and the
row still waits. -/
theorem marked_event_lost :
    (webhookSteps waitingWorld checkoutHook paidAt).length = 4 ∧
      (failStripeWebhook waitingWorld checkoutHook paidAt 1).marked "evt_1" (paidAt + 60000) = true ∧
      ((handleStripeWebhook (failStripeWebhook waitingWorld checkoutHook paidAt 1) checkoutHook
        (paidAt + 60000)).tables.subscription "company-1").map Subscription.status =
          some .incomplete ∧
      ¬NotLost waitingWorld checkoutHook paidAt (paidAt + 60000) 1 := by
  have hskipped : (failStripeWebhook waitingWorld checkoutHook paidAt 1).marked "evt_1"
      (paidAt + 60000) = true := by decide +kernel
  have hwrites : (webhookSteps waitingWorld checkoutHook paidAt).length = 4 := by decide +kernel
  refine ⟨hwrites, hskipped, by decide +kernel, ?_⟩
  rintro (hall | hagain)
  · rw [hwrites] at hall
    exact absurd hall (by decide)
  · exact absurd (hskipped.symm.trans hagain) (by decide)

end DeliveryTracking.Billing
