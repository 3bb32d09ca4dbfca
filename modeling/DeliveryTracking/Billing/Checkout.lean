/-
# `DeliveryTracking.Billing.Checkout` — checkouts, mobile-money payments and expiry

The calls of `billing.service.ts` that write a subscription, the Stripe webhook apart.
What a payment provider answers to a call is an argument of it: the Stripe session, whose
subscription may not exist before the payment, or the reference of the mobile payment.

    createOrUpdateSubscription   the row waits for the payment of the new plan
    confirmMobileMoney           the row that carries the reference is paid for
    cancelSubscription           canceled, the reference staying on the row
    handleExpiredSubscriptions   active and over → past_due
    handleUnpaidSubscriptions    past_due for a week → unpaid
-/
import DeliveryTracking.Runs
import DeliveryTracking.Billing.Subscription

namespace DeliveryTracking.Billing

/-- The settings the payment providers are called with. -/
structure BillingConfig where
  /-- `STRIPE_SECRET_KEY` is set. -/
  stripeSecretKey : Bool
  production : Bool
  mobileMoneySandbox : Bool
  mvolaApiKey : Bool
  orangeMoneyApiKey : Bool
  deriving DecidableEq, Repr

structure CreateCheckoutDto where
  planId : String
  provider : BillingProvider
  mobileMoneyPhone : Option String
  deriving DecidableEq, Repr

/-- What the providers answer: Stripe with the subscription of the session, if it has one yet, the
operator with the reference of the payment. -/
structure ProviderReplies where
  session : Except BillingError (Option String)
  payment : Except BillingError String

inductive CheckoutReply where
  | stripe (subscriptionId : Option String)
  | mobileMoney (transactionRef : String)
  deriving DecidableEq, Repr

/-! ## Payment providers -/

/-- Without a key a checkout is simulated, outside production. -/
def createCheckoutSession (cfg : BillingConfig) (companyId : String)
    (session : Except BillingError (Option String)) : Except BillingError (Option String) :=
  if cfg.stripeSecretKey then session
  else if cfg.production then
    .error (.provider "Stripe is not configured and simulated checkout is forbidden in production (STRIPE_SECRET_KEY missing).")
  else .ok (some ("sim_sub_" ++ companyId))

def BillingProvider.label : BillingProvider → String
  | .stripe => "stripe"
  | .mvola => "mvola"
  | .orangeMoney => "orange_money"
  | .manual => "manual"

/-- Without a key, or in the sandbox, a payment is simulated; the sandbox lets some fail. -/
def requestPayment (cfg : BillingConfig) (provider : BillingProvider) (now : Int)
    (payment : Except BillingError String) : Except BillingError String :=
  let apiKey := if provider = .mvola then cfg.mvolaApiKey else cfg.orangeMoneyApiKey
  if !apiKey || cfg.mobileMoneySandbox then
    match payment with
    | .error e => if cfg.mobileMoneySandbox then .error e else .ok (simulated provider)
    | .ok _ => .ok (simulated provider)
  else if provider = .mvola then payment
  else
    .error (.provider ("Mode production " ++ provider.label ++
      " non implémenté dans cette version. Utilisez MOBILE_MONEY_SANDBOX=true pour le test."))
where
  simulated (provider : BillingProvider) : String :=
    "sim_" ++ provider.label ++ "_" ++ toString now

/-! ## The calls -/

section Calls

variable (cfg : BillingConfig) (db : BillingTables)

/-- The row of a company is rewritten, or made. -/
def BillingTables.put (fresh : Subscription) (f : Subscription → Subscription)
    (hf : ∀ s, (f s).companyId = s.companyId) : BillingTables :=
  { db with subscriptions := db.subscriptions.upsert fresh f hf }

@[simp] theorem BillingTables.subscription_put (fresh : Subscription)
    (f : Subscription → Subscription) (hf : ∀ s, (f s).companyId = s.companyId) (c : String) :
    (db.put fresh f hf).subscription c =
      if c = fresh.companyId then some ((db.subscription c).elim fresh f)
      else db.subscription c :=
  Table.lookup_upsert db.subscriptions fresh f hf c

def isSimulated (subscriptionId : Option String) : Bool :=
  subscriptionId.any (·.startsWith "sim_")

/-- A row as a checkout makes it. -/
def checkoutRow (companyId : String) (plan : BillingPlan) (provider : BillingProvider)
    (status : SubscriptionStatus) (stripeSubscriptionId mobileMoneyRef : Option String) (now : Int) :
    Subscription :=
  { companyId := companyId, plan := plan, status := status, provider := provider
    stripeSubscriptionId := stripeSubscriptionId, stripeCustomerId := none
    mobileMoneyRef := mobileMoneyRef, currentPeriodStart := now
    currentPeriodEnd := plan.periodEnd now, canceledAt := none, trialEndsAt := none }

def createOrUpdateSubscription (companyId : String) (dto : CreateCheckoutDto) (now : Int)
    (replies : ProviderReplies) : Except BillingError (CheckoutReply × BillingTables) := do
  let some plan := db.plan dto.planId | .error (.notFound "Plan not found")
  let existing := db.subscription companyId
  if existing.any fun s => s.status == .active && s.plan.id == dto.planId then
    .error (.badRequest "Company already has an active subscription on this plan")
  if !db.companies.contains companyId then .error (.notFound "Company not found")
  match dto.provider with
  | .stripe =>
    let subscriptionId ← createCheckoutSession cfg companyId replies.session
    let status := if isSimulated subscriptionId then SubscriptionStatus.active else .incomplete
    .ok (.stripe subscriptionId,
      db.put (checkoutRow companyId plan .stripe status subscriptionId none now)
        (fun s => { s with
          plan := plan, provider := .stripe, stripeSubscriptionId := subscriptionId
          status := status
          currentPeriodStart := if isSimulated subscriptionId then now else s.currentPeriodStart
          currentPeriodEnd := plan.periodEnd now }) fun _ => rfl)
  | .manual => .error (.badRequest "Invalid payment provider")
  | provider =>
    if dto.mobileMoneyPhone.all (· == "") then
      .error (.badRequest "Phone number required for mobile money")
    let transactionRef ← requestPayment cfg provider now replies.payment
    .ok (.mobileMoney transactionRef,
      db.put (checkoutRow companyId plan provider .incomplete none (some transactionRef) now)
        (fun s => { s with
          plan := plan, provider := provider, mobileMoneyRef := some transactionRef
          status := .incomplete, currentPeriodEnd := plan.periodEnd now }) fun _ => rfl)

def cancelSubscription (companyId : String) (now : Int) : Except BillingError BillingTables :=
  match db.subscription companyId with
  | none => .error (.notFound "No active subscription")
  | some _ =>
    .ok (db.update companyId (fun s => { s with status := .canceled, canceledAt := some now })
      fun _ => rfl)

/-- The row a mobile-money webhook finds. -/
def BillingTables.byMobileMoneyRef (transactionRef : String) : Option Subscription :=
  db.subscriptions.findFirst (·.mobileMoneyRef == some transactionRef)

/-- A payment is handled: the row is active for a period of its plan from now on. -/
def Subscription.activate (now : Int) (s : Subscription) : Subscription :=
  { s with status := .active, currentPeriodStart := now, currentPeriodEnd := s.plan.periodEnd now }

@[simp] theorem Subscription.companyId_activate (now : Int) (s : Subscription) :
    (s.activate now).companyId = s.companyId := rfl

def confirmMobileMoney (transactionRef : String) (now : Int) : BillingTables :=
  match db.byMobileMoneyRef transactionRef with
  | none => db
  | some sub =>
    if sub.status = .active then db
    else
      (db.update sub.companyId (Subscription.activate now)
        (Subscription.companyId_activate now)).createInvoice sub.companyId sub.plan.price
        sub.plan.currency sub.provider (some transactionRef) now

def handleExpiredSubscriptions (now : Int) : BillingTables :=
  { db with
    subscriptions := db.subscriptions.update
      (fun s => s.status == .active && decide (s.currentPeriodEnd < now))
      (fun s => { s with status := .pastDue }) fun _ => rfl }

/-- A week after the end of the period. -/
def handleUnpaidSubscriptions (now : Int) : BillingTables :=
  { db with
    subscriptions := db.subscriptions.update
      (fun s => s.status == .pastDue && decide (s.currentPeriodEnd < now - 7 * 24 * 60 * 60 * 1000))
      (fun s => { s with status := .unpaid }) fun _ => rfl }

end Calls

/-! ## A checkout that is accepted -/

/-- What the provider of a checkout answers, its own checks included. -/
def paymentReply (cfg : BillingConfig) (companyId : String) (dto : CreateCheckoutDto) (now : Int)
    (replies : ProviderReplies) : Except BillingError CheckoutReply :=
  match dto.provider with
  | .stripe => (createCheckoutSession cfg companyId replies.session).map CheckoutReply.stripe
  | .manual => .error (.badRequest "Invalid payment provider")
  | provider =>
    if dto.mobileMoneyPhone.all (· == "") then
      .error (.badRequest "Phone number required for mobile money")
    else (requestPayment cfg provider now replies.payment).map CheckoutReply.mobileMoney

/-- A checkout Stripe simulates is paid for at once. -/
def CheckoutReply.simulated : CheckoutReply → Bool
  | .stripe subscriptionId => isSimulated subscriptionId
  | .mobileMoney _ => false

/-- The row an accepted checkout makes. -/
def checkoutFresh (companyId : String) (plan : BillingPlan) (provider : BillingProvider)
    (reply : CheckoutReply) (now : Int) : Subscription :=
  match reply with
  | .stripe subscriptionId =>
    checkoutRow companyId plan .stripe (if isSimulated subscriptionId then .active else .incomplete)
      subscriptionId none now
  | .mobileMoney transactionRef =>
    checkoutRow companyId plan provider .incomplete none (some transactionRef) now

/-- What an accepted checkout makes of the row there is. -/
def Subscription.checkout (plan : BillingPlan) (provider : BillingProvider) (reply : CheckoutReply)
    (now : Int) (s : Subscription) : Subscription :=
  match reply with
  | .stripe subscriptionId =>
    { s with
      plan := plan, provider := .stripe, stripeSubscriptionId := subscriptionId
      status := if isSimulated subscriptionId then .active else .incomplete
      currentPeriodStart := if isSimulated subscriptionId then now else s.currentPeriodStart
      currentPeriodEnd := plan.periodEnd now }
  | .mobileMoney transactionRef =>
    { s with
      plan := plan, provider := provider, mobileMoneyRef := some transactionRef
      status := .incomplete, currentPeriodEnd := plan.periodEnd now }

theorem Subscription.companyId_checkout (plan : BillingPlan) (provider : BillingProvider)
    (reply : CheckoutReply) (now : Int) (s : Subscription) :
    (s.checkout plan provider reply now).companyId = s.companyId := by
  cases reply <;> rfl

/-- What an accepted checkout was asked and answered. -/
structure Accepted (cfg : BillingConfig) (db : BillingTables) (companyId : String)
    (dto : CreateCheckoutDto) (now : Int) (replies : ProviderReplies) (plan : BillingPlan)
    (reply : CheckoutReply) : Prop where
  hasPlan : db.plan dto.planId = some plan
  other : (db.subscription companyId).any
    (fun s => s.status == .active && s.plan.id == dto.planId) = false
  company : companyId ∈ db.companies
  answered : paymentReply cfg companyId dto now replies = .ok reply

section Accepted

variable {cfg : BillingConfig} {db db' : BillingTables} {companyId : String}
  {dto : CreateCheckoutDto} {now : Int} {replies : ProviderReplies} {plan : BillingPlan}
  {reply : CheckoutReply}

/-- Once the plan and the company are checked, the provider decides. -/
theorem createOrUpdateSubscription_eq (hplan : db.plan dto.planId = some plan)
    (hother : (db.subscription companyId).any
      (fun s => s.status == .active && s.plan.id == dto.planId) = false)
    (hcompany : companyId ∈ db.companies) :
    createOrUpdateSubscription cfg db companyId dto now replies =
      (paymentReply cfg companyId dto now replies).map fun reply =>
        (reply, db.put (checkoutFresh companyId plan dto.provider reply now)
          (Subscription.checkout plan dto.provider reply now)
          (Subscription.companyId_checkout plan dto.provider reply now)) := by
  have hknown : db.companies.contains companyId = true := List.contains_iff_mem.mpr hcompany
  simp only [createOrUpdateSubscription, hplan, hother, hknown, bind, Except.bind,
    Bool.not_true, Bool.false_eq_true, if_false]
  unfold paymentReply
  cases dto.provider with
  | stripe => cases createCheckoutSession cfg companyId replies.session <;> rfl
  | manual => rfl
  | mvola =>
    dsimp only
    cases dto.mobileMoneyPhone.all (· == "") with
    | true => rfl
    | false =>
      simp only [Bool.false_eq_true, if_false]
      cases requestPayment cfg .mvola now replies.payment <;> rfl
  | orangeMoney =>
    dsimp only
    cases dto.mobileMoneyPhone.all (· == "") with
    | true => rfl
    | false =>
      simp only [Bool.false_eq_true, if_false]
      cases requestPayment cfg .orangeMoney now replies.payment <;> rfl

/-- A checkout succeeds exactly when it is accepted, and then one row is written. -/
theorem createOrUpdateSubscription_ok_iff :
    createOrUpdateSubscription cfg db companyId dto now replies = .ok (reply, db') ↔
      ∃ plan, Accepted cfg db companyId dto now replies plan reply ∧
        db' = db.put (checkoutFresh companyId plan dto.provider reply now)
          (Subscription.checkout plan dto.provider reply now)
          (Subscription.companyId_checkout plan dto.provider reply now) := by
  constructor
  · intro h
    cases hplan : db.plan dto.planId with
    | none => simp [createOrUpdateSubscription, hplan] at h
    | some plan =>
      cases hother : (db.subscription companyId).any
          (fun s => s.status == .active && s.plan.id == dto.planId) with
      | true => simp [createOrUpdateSubscription, hplan, hother, bind, Except.bind] at h
      | false =>
        by_cases hcompany : companyId ∈ db.companies
        · rw [createOrUpdateSubscription_eq hplan hother hcompany] at h
          cases hreply : paymentReply cfg companyId dto now replies with
          | error e => rw [hreply] at h; cases h
          | ok reply' =>
            rw [hreply] at h
            cases h
            exact ⟨plan, ⟨hplan, hother, hcompany, hreply⟩, rfl⟩
        · simp [createOrUpdateSubscription, hplan, hother, hcompany, bind, Except.bind] at h
  · rintro ⟨plan, haccepted, rfl⟩
    rw [createOrUpdateSubscription_eq haccepted.hasPlan haccepted.other haccepted.company,
      haccepted.answered]
    rfl

end Accepted

end DeliveryTracking.Billing
