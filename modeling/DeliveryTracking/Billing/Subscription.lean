/-
# `DeliveryTracking.Billing.Subscription` — plans, subscriptions and invoices

A company has at most one row of `subscriptions`; every payment, checkout and expiry
check writes it.  A payment buys the plan's interval from the instant it is handled:

    periodEnd now     now and a month, or now and twelve months

`new Date().setMonth` is read in UTC, the zone the containers run in.
-/
import DeliveryTracking.Calendar
import DeliveryTracking.Table

namespace DeliveryTracking.Billing

open Calendar

/-! ## Rows -/

inductive PlanTier where
  | free
  | starter
  | pro
  | enterprise
  deriving DecidableEq, Repr

inductive SubscriptionStatus where
  | active
  | canceled
  | pastDue
  | incomplete
  | unpaid
  | trialing
  deriving DecidableEq, Repr

inductive BillingProvider where
  | stripe
  | mvola
  | orangeMoney
  | manual
  deriving DecidableEq, Repr

/-- A row of `billing_plans`. -/
structure BillingPlan where
  id : String
  tier : PlanTier
  name : String
  /-- In cents, for an interval. -/
  price : Int
  currency : String
  interval : String
  maxVehicles : Nat
  maxDeliveriesPerMonth : Nat
  maxUsers : Nat
  deriving DecidableEq, Repr

/-- A row of `subscriptions`. -/
structure Subscription where
  companyId : String
  /-- The row `plan_id` refers to. -/
  plan : BillingPlan
  status : SubscriptionStatus
  provider : BillingProvider
  stripeSubscriptionId : Option String
  stripeCustomerId : Option String
  mobileMoneyRef : Option String
  currentPeriodStart : Int
  currentPeriodEnd : Int
  canceledAt : Option Int
  trialEndsAt : Option Int
  deriving DecidableEq, Repr

/-- A row of `invoices`, all of them paid. -/
structure Invoice where
  companyId : String
  invoiceNumber : String
  amount : Int
  currency : String
  provider : BillingProvider
  providerInvoiceId : Option String
  paidAt : Int
  deriving DecidableEq, Repr

abbrev SubscriptionTable := Table Subscription.companyId Eq

structure BillingTables where
  plans : List BillingPlan
  companies : List String
  subscriptions : SubscriptionTable
  invoices : List Invoice

/-- The exceptions of the billing services. -/
inductive BillingError where
  | notFound (message : String)
  | badRequest (message : String)
  /-- A payment provider refused or could not be reached. -/
  | provider (message : String)
  deriving DecidableEq, Repr

namespace BillingPlan

/-- `plan.interval === 'year' ? 12 : 1` -/
def months (plan : BillingPlan) : Int := if plan.interval = "year" then 12 else 1

/-- The end of a period that starts now. -/
def periodEnd (plan : BillingPlan) (now : Int) : Int :=
  setUTCMonth now (getUTCMonth now + plan.months)

end BillingPlan

namespace BillingTables

variable (db : BillingTables)

/-- `billingPlan.findUnique({ where: { id } })`. -/
def plan (id : String) : Option BillingPlan := db.plans.find? (·.id == id)

/-- `subscription.findUnique({ where: { companyId } })`. -/
def subscription (companyId : String) : Option Subscription := db.subscriptions.lookup companyId

/-- `subscription.update({ where: { id } })`, by the company the row is of. -/
def update (companyId : String) (f : Subscription → Subscription)
    (hf : ∀ s, (f s).companyId = s.companyId) : BillingTables :=
  { db with subscriptions := db.subscriptions.update (·.companyId == companyId) f hf }

/-- `INV-2026-00042`: the year and one more than the invoices there are. -/
def invoiceNumber (now : Int) : String :=
  "INV-" ++ toString (getUTCFullYear now) ++ "-" ++
    String.ofList (List.leftpad 5 '0' (toString (db.invoices.length + 1)).toList)

/-- An invoice of the provider is recorded once. -/
def createInvoice (companyId : String) (amount : Int) (currency : String)
    (provider : BillingProvider) (providerInvoiceId : Option String) (now : Int) : BillingTables :=
  if providerInvoiceId.isSome && db.invoices.any (·.providerInvoiceId == providerInvoiceId) then db
  else
    { db with
      invoices := db.invoices ++ [{
        companyId := companyId, invoiceNumber := db.invoiceNumber now, amount := amount
        currency := currency, provider := provider, providerInvoiceId := providerInvoiceId
        paidAt := now }] }

/-! ## What a write leaves -/

variable {db}

@[simp] theorem subscription_update (c c' : String) (f : Subscription → Subscription)
    (hf : ∀ s, (f s).companyId = s.companyId) :
    (db.update c f hf).subscription c' =
      if c' = c then (db.subscription c').map f else db.subscription c' :=
  Table.lookup_update db.subscriptions c f hf c'

/-- What a write to every row a predicate picks leaves. -/
theorem subscription_updateMany (p : Subscription → Bool) (f : Subscription → Subscription)
    (hf : ∀ s, (f s).companyId = s.companyId) (c : String) :
    ({ db with subscriptions := db.subscriptions.update p f hf } : BillingTables).subscription c =
      (db.subscription c).map fun s => if p s then f s else s :=
  Table.findFirst_update db.subscriptions p f hf
    (q := (Subscription.companyId · = c)) (fun s => by rw [hf])

@[simp] theorem subscriptions_createInvoice (companyId : String) (amount : Int) (currency : String)
    (provider : BillingProvider) (providerInvoiceId : Option String) (now : Int) :
    (db.createInvoice companyId amount currency provider providerInvoiceId now).subscriptions =
      db.subscriptions := by
  unfold createInvoice
  split <;> rfl

@[simp] theorem subscription_createInvoice (c companyId : String) (amount : Int)
    (currency : String) (provider : BillingProvider) (providerInvoiceId : Option String)
    (now : Int) :
    (db.createInvoice companyId amount currency provider providerInvoiceId now).subscription c =
      db.subscription c := by
  rw [subscription, subscriptions_createInvoice, subscription]

/-- A row that is found is its company's. -/
theorem subscription_of_find {q : Subscription → Bool} {s : Subscription}
    (h : db.subscriptions.findFirst q = some s) : db.subscription s.companyId = some s :=
  Table.mem_rows_iff.mp (Table.mem_of_findFirst h).1

end BillingTables

end DeliveryTracking.Billing
