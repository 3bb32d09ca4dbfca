/-
# `DeliveryTracking.Billing.Guards` — who may pass: the subscription and the usage guard

Two guards read the subscription of the company of a request:

    subscriptionGuard   trial and paid period not over, else past_due and refused
    usageGuard          active, and below the limits of the plan (BILLING_ENABLED)

The second was written before there were trials: a company in its trial passes the first
and is refused by the second (`guards_agree_iff`).
-/
import DeliveryTracking.Billing.Manual
import DeliveryTracking.Billing.Stripe

namespace DeliveryTracking.Billing

/-! ## Model -/

structure JwtPayload where
  platformAdmin : Bool
  companyId : Option String
  deriving DecidableEq, Repr

/-- What the guards read of a request. -/
structure GuardedRequest where
  /-- The route carries `@SkipSubscriptionCheck()`. -/
  skip : Bool
  /-- What the bearer token verifies to, if there is one and it does. -/
  payload : Option JwtPayload
  /-- `request.route.path` -/
  path : String
  method : String
  deriving DecidableEq, Repr

/-- What is done about a row that is read. -/
inductive Access where
  | pass
  | refused
  /-- Over: `past_due` is written, and the request refused. -/
  | expired
  deriving DecidableEq, Repr

/-- The row as `SubscriptionGuard` reads it. -/
def Subscription.access (now : Int) (s : Subscription) : Access :=
  match s.status with
  | .trialing => if s.trialEndsAt.any (· < now) then .expired else .pass
  | .active => if s.currentPeriodEnd < now then .expired else .pass
  | _ => .refused

/-- The company the guard looks up. -/
def GuardedRequest.company (req : GuardedRequest) : Option String :=
  if req.skip then none
  else (req.payload.filter (!·.platformAdmin)).bind fun payload => present payload.companyId

def subscriptionGuard (db : BillingTables) (req : GuardedRequest) (now : Int) :
    Bool × BillingTables :=
  match req.company with
  | none => (true, db)
  | some companyId =>
    match db.subscription companyId with
    | none => (false, db)
    | some sub =>
      match sub.access now with
      | .pass => (true, db)
      | .refused => (false, db)
      | .expired =>
        (false, db.update companyId (Subscription.setStatus .pastDue)
          (Subscription.companyId_setStatus .pastDue))

/-- The items a plan limits. -/
inductive Quota where
  | deliveries
  | vehicles
  | users
  deriving DecidableEq, Repr

/-- What there is of them: the deliveries of the month, the vehicles, the active users. -/
structure UsageCounts where
  deliveries : Nat
  vehicles : Nat
  users : Nat
  deriving DecidableEq, Repr

inductive UsageRefusal where
  /-- `Votre abonnement est suspendu.` -/
  | suspended
  | limit (quota : Quota) (limit : Nat) (planName : String)
  deriving DecidableEq, Repr

namespace Quota

def limit (plan : BillingPlan) : Quota → Nat
  | .deliveries => plan.maxDeliveriesPerMonth
  | .vehicles => plan.maxVehicles
  | .users => plan.maxUsers

def count (counts : UsageCounts) : Quota → Nat
  | .deliveries => counts.deliveries
  | .vehicles => counts.vehicles
  | .users => counts.users

/-- The text looked for in the path of a request. -/
def segment : Quota → String
  | .deliveries => "/deliveries"
  | .vehicles => "/vehicles"
  | .users => "/users"

end Quota

/-- `path.includes(segment) && request.method === 'POST'`. -/
def GuardedRequest.creates (req : GuardedRequest) (quota : Quota) : Bool :=
  decide (quota.segment.toList <:+: req.path.toList) && req.method == "POST"

/-- One check of `enforceLimit`. -/
def limitReached (plan : BillingPlan) (counts : UsageCounts) (req : GuardedRequest)
    (quota : Quota) : Option UsageRefusal :=
  if req.creates quota && quota.limit plan ≤ quota.count counts then
    some (.limit quota (quota.limit plan) plan.name)
  else none

/-- The first limit that is reached. -/
def enforceLimit (plan : BillingPlan) (counts : UsageCounts) (req : GuardedRequest) :
    Option UsageRefusal :=
  [Quota.deliveries, .vehicles, .users].findSome? (limitReached plan counts req)

def BillingTables.freePlan (db : BillingTables) : Option BillingPlan :=
  db.plans.find? (·.tier == .free)

/-- Why `UsageGuard` refuses a request, if it does. -/
def usageGuard (billingEnabled : Bool) (db : BillingTables) (counts : UsageCounts)
    (req : GuardedRequest) : Option UsageRefusal :=
  if !billingEnabled then none
  else
    match req.payload.bind fun payload => present payload.companyId with
    | none => none
    | some companyId =>
      match db.subscription companyId with
      | none => db.freePlan.bind fun plan => enforceLimit plan counts req
      | some sub =>
        if sub.status ≠ .active then some .suspended else enforceLimit sub.plan counts req

/-- The fourteen days of `register`. -/
def trialDuration : Int := 14 * 24 * 60 * 60 * 1000

/-- The row a registration makes. -/
def trialRow (companyId : String) (plan : BillingPlan) (now : Int) : Subscription :=
  { companyId := companyId, plan := plan, status := .trialing, provider := .manual
    stripeSubscriptionId := none, stripeCustomerId := none, mobileMoneyRef := none
    currentPeriodStart := now, currentPeriodEnd := now + trialDuration, canceledAt := none
    trialEndsAt := some (now + trialDuration) }

/-- A trial of the enterprise plan, when there is one. -/
def BillingTables.startTrial (db : BillingTables) (companyId : String) (now : Int) : BillingTables :=
  match db.plans.find? (·.tier == .enterprise) with
  | none => db
  | some plan =>
    match db.subscriptions.create (trialRow companyId plan now) with
    | none => db
    | some subscriptions => { db with subscriptions := subscriptions }

/-- What `register` leaves of a new company. -/
def register (db : BillingTables) (companyId : String) (now : Int) : BillingTables :=
  { db with companies := db.companies ++ [companyId] }.startTrial companyId now

/-! ## Runs from registration on -/

inductive SubscriptionEvent where
  | register (companyId : String)
  | redeem (companyId rawCode : String)
  | request (req : GuardedRequest)
  | cancel (companyId : String)
  | expired
  | unpaid

/-- An event at an instant; a call that throws writes nothing. -/
def subscriptionStep (sha256 : String → String) (db : ManualTables) :
    Int × SubscriptionEvent → Option ManualTables
  | (now, .register companyId) => some { db with billing := register db.billing companyId now }
  | (now, .redeem companyId rawCode) => some ((db.redeem sha256 companyId rawCode now).toOption.getD db)
  | (now, .request req) => some { db with billing := (subscriptionGuard db.billing req now).2 }
  | (now, .cancel companyId) =>
    some { db with billing := (cancelSubscription db.billing companyId now).toOption.getD db.billing }
  | (now, .expired) => some { db with billing := handleExpiredSubscriptions db.billing now }
  | (now, .unpaid) => some { db with billing := handleUnpaidSubscriptions db.billing now }

/-- A trial has an end. -/
def TrialsEnd (db : BillingTables) : Prop :=
  ∀ c s, db.subscription c = some s → s.status = .trialing → s.trialEndsAt.isSome

namespace TrialsEnd

variable {db db' : BillingTables}

/-- A row on trial was there before, or has an end. -/
theorem of_rows (h : TrialsEnd db)
    (hrows : ∀ c s, db'.subscription c = some s → s.status = .trialing →
      db.subscription c = some s ∨ s.trialEndsAt.isSome) : TrialsEnd db' := by
  intro c s hs htrial
  rcases hrows c s hs htrial with hold | hend
  · exact h c s hold htrial
  · exact hend

theorem update (h : TrialsEnd db) (c : String) {f : Subscription → Subscription}
    (hf : ∀ s, (f s).companyId = s.companyId) (hnot : ∀ s, (f s).status ≠ .trialing) :
    TrialsEnd (db.update c f hf) := by
  refine h.of_rows fun c' s hs htrial => ?_
  rw [BillingTables.subscription_update] at hs
  split at hs
  · obtain ⟨s', -, rfl⟩ := Option.map_eq_some_iff.mp hs
    exact absurd htrial (hnot s')
  · exact .inl hs

theorem updateMany (h : TrialsEnd db) (p : Subscription → Bool) {f : Subscription → Subscription}
    (hf : ∀ s, (f s).companyId = s.companyId) (hnot : ∀ s, (f s).status ≠ .trialing) :
    TrialsEnd { db with subscriptions := db.subscriptions.update p f hf } := by
  refine h.of_rows fun c s hs htrial => ?_
  rw [BillingTables.subscription_updateMany] at hs
  obtain ⟨s', hs', rfl⟩ := Option.map_eq_some_iff.mp hs
  split at htrial
  · exact absurd htrial (hnot s')
  · rename_i hp
    rw [if_neg hp]
    exact .inl hs'

theorem startTrial (h : TrialsEnd db) (companyId : String) (now : Int) :
    TrialsEnd (db.startTrial companyId now) := by
  refine h.of_rows fun c s hs _ => ?_
  rw [BillingTables.startTrial] at hs
  split at hs
  · exact .inl hs
  · rename_i plan _
    split at hs
    · exact .inl hs
    · rename_i subscriptions hcreate
      have hread : subscriptions.findFirst (Subscription.companyId · = c) = some s := hs
      rw [Table.findFirst_create hcreate, Option.or_eq_some_iff] at hread
      rcases hread with hold | ⟨-, hnew⟩
      · exact .inl hold
      · split at hnew
        · obtain rfl := Option.some.inj hnew
          exact .inr rfl
        · cases hnew

theorem guard (h : TrialsEnd db) (req : GuardedRequest) (now : Int) :
    TrialsEnd (subscriptionGuard db req now).2 := by
  unfold subscriptionGuard
  split
  · exact h
  · split
    · exact h
    · split
      · exact h
      · exact h
      · exact h.update _ _ (fun s => by simp [Subscription.setStatus])

theorem redeem {sha256 : String → String} {db t : ManualTables} (h : TrialsEnd db.billing)
    {companyId rawCode : String} {now : Int} (hok : db.redeem sha256 companyId rawCode now = .ok t) :
    TrialsEnd t.billing := by
  obtain ⟨proof, -, rfl⟩ := ManualTables.redeem_eq_ok hok
  refine h.of_rows fun c s hs htrial => ?_
  rw [ManualTables.subscription_commitRedeem] at hs
  split at hs
  · obtain ⟨s', hs', hactive, -⟩ := Subscription.paid_redeem companyId proof.claimedPlan now
      (db.billing.subscription c)
    rw [hs'] at hs
    obtain rfl := Option.some.inj hs
    rw [hactive] at htrial
    cases htrial
  · exact .inl hs

theorem step {sha256 : String → String} {db t : ManualTables} {e : Int × SubscriptionEvent}
    (h : TrialsEnd db.billing) (hstep : Steps (subscriptionStep sha256) db e t) :
    TrialsEnd t.billing := by
  obtain ⟨now, event⟩ := e
  cases event with
  | register companyId =>
    obtain rfl := Option.some.inj hstep
    have hadded : TrialsEnd { db.billing with companies := db.billing.companies ++ [companyId] } := h
    exact hadded.startTrial companyId now
  | redeem companyId rawCode =>
    obtain rfl := Option.some.inj hstep
    cases hok : db.redeem sha256 companyId rawCode now with
    | error e => exact h
    | ok t => exact h.redeem hok
  | request req =>
    obtain rfl := Option.some.inj hstep
    exact h.guard req now
  | cancel companyId =>
    obtain rfl := Option.some.inj hstep
    show TrialsEnd ((cancelSubscription db.billing companyId now).toOption.getD db.billing)
    unfold cancelSubscription
    split
    · exact h
    · exact h.update _ _ (fun s => by simp)
  | expired =>
    obtain rfl := Option.some.inj hstep
    exact h.updateMany _ _ (fun s => by simp)
  | unpaid =>
    obtain rfl := Option.some.inj hstep
    exact h.updateMany _ _ (fun s => by simp)

end TrialsEnd

/-! ## The two guards -/

section Guards

variable {db : BillingTables} {req : GuardedRequest} {c : String} {now : Int} {sub : Subscription}

/-- The row is on trial, and the trial is not over. -/
def OnTrial (db : BillingTables) (c : String) (now : Int) : Prop :=
  ∃ s stop, db.subscription c = some s ∧ s.status = .trialing ∧ s.trialEndsAt = some stop ∧
    now ≤ stop

theorem company_payload (h : req.company = some c) :
    (req.payload.bind fun payload => present payload.companyId) = some c := by
  unfold GuardedRequest.company at h
  split at h
  · cases h
  · obtain ⟨payload, hpayload, hcompany⟩ := Option.bind_eq_some_iff.mp h
    exact Option.bind_eq_some_iff.mpr ⟨payload, (Option.filter_eq_some_iff.mp hpayload).1, hcompany⟩

theorem subscriptionGuard_pass_iff (h : req.company = some c) :
    (subscriptionGuard db req now).1 = true ↔
      ∃ s, db.subscription c = some s ∧ s.access now = .pass := by
  simp only [subscriptionGuard, h]
  cases hrow : db.subscription c with
  | none => simp
  | some s =>
    cases haccess : s.access now with
    | pass => simp [haccess]
    | refused => simp [haccess]
    | expired => simp [haccess]

/-- A row lets a request pass when it is active or on trial, and that is not over. -/
theorem access_pass_iff (s : Subscription) :
    s.access now = .pass ↔
      s.status = .active ∧ now ≤ s.currentPeriodEnd ∨
        s.status = .trialing ∧ ∀ stop, s.trialEndsAt = some stop → now ≤ stop := by
  unfold Subscription.access
  cases hstatus : s.status with
  | trialing =>
    cases htrial : s.trialEndsAt with
    | none => simp
    | some stop => simp
  | active => simp
  | canceled => simp
  | pastDue => simp
  | incomplete => simp
  | unpaid => simp

theorem usageGuard_of_row (h : req.company = some c) (hrow : db.subscription c = some sub)
    (counts : UsageCounts) :
    usageGuard true db counts req =
      if sub.status ≠ .active then some .suspended else enforceLimit sub.plan counts req := by
  simp only [usageGuard, company_payload h, hrow, Bool.not_true, Bool.false_eq_true, if_false]

/-- A refusal for a limit names one that is reached. -/
theorem enforceLimit_eq_some {plan : BillingPlan} {counts : UsageCounts} {refusal : UsageRefusal}
    (h : enforceLimit plan counts req = some refusal) :
    ∃ quota, refusal = .limit quota (quota.limit plan) plan.name ∧ req.creates quota = true ∧
      quota.limit plan ≤ quota.count counts := by
  obtain ⟨quota, -, hquota⟩ := List.exists_of_findSome?_eq_some h
  unfold limitReached at hquota
  split at hquota
  · rename_i hreached
    rw [Bool.and_eq_true, decide_eq_true_iff] at hreached
    exact ⟨quota, (Option.some.inj hquota).symm, hreached.1, hreached.2⟩
  · cases hquota

end Guards

/-- The usage guard refuses only for a limit of the plan of the company's subscription. -/
def RefusedForLimit (db : BillingTables) (req : GuardedRequest) (c : String) : Prop :=
  ∀ counts refusal, usageGuard true db counts req = some refusal →
    ∃ sub quota, db.subscription c = some sub ∧
      refusal = .limit quota (quota.limit sub.plan) sub.plan.name ∧ req.creates quota = true ∧
      quota.limit sub.plan ≤ quota.count counts

/-- In every state reached from registrations on, the guards agree about a company exactly when it
is not on trial: there the first one lets it pass, and the second takes it for suspended. -/
theorem guards_agree_iff {sha256 : String → String} {db t : ManualTables}
    {es : List (Int × SubscriptionEvent)} (hstart : ∀ c, db.billing.subscription c = none)
    (hrun : Run (Steps (subscriptionStep sha256)) db es t) (req : GuardedRequest) {c : String}
    (hcompany : req.company = some c) (now : Int) :
    ((subscriptionGuard t.billing req now).1 = true → RefusedForLimit t.billing req c) ↔
      ¬OnTrial t.billing c now := by
  have htrials : TrialsEnd t.billing := by
    refine hrun.invariant (I := fun db => TrialsEnd db.billing) (fun h hstep => h.step hstep) ?_
    intro c s hs
    rw [hstart c] at hs
    cases hs
  rw [subscriptionGuard_pass_iff hcompany]
  constructor
  · rintro hagree ⟨s, stop, hrow, htrial, hstop, hle⟩
    have hpass : s.access now = .pass := by
      refine (access_pass_iff s).mpr (.inr ⟨htrial, fun stop' hstop' => ?_⟩)
      obtain rfl := Option.some.inj (hstop.symm.trans hstop')
      exact hle
    have hsuspended := usageGuard_of_row hcompany hrow ⟨0, 0, 0⟩
    rw [if_pos (by simp [htrial])] at hsuspended
    obtain ⟨sub, quota, -, hlimit, -⟩ := hagree ⟨s, hrow, hpass⟩ _ _ hsuspended
    cases hlimit
  · rintro hnot ⟨s, hrow, hpass⟩ counts refusal hrefused
    rcases (access_pass_iff s).mp hpass with ⟨hactive, -⟩ | ⟨htrial, hall⟩
    · rw [usageGuard_of_row hcompany hrow, if_neg (by simp [hactive])] at hrefused
      obtain ⟨quota, hquota⟩ := enforceLimit_eq_some hrefused
      exact ⟨s, quota, hrow, hquota⟩
    · obtain ⟨stop, hstop⟩ := Option.isSome_iff_exists.mp (htrials c s hrow htrial)
      exact absurd ⟨s, stop, hrow, htrial, hstop, hall stop hstop⟩ hnot

/-! ### A new company -/

def enterprisePlan : BillingPlan :=
  { id := "plan-enterprise", tier := .enterprise, name := "Business", price := 200000
    currency := "MGA", interval := "month", maxVehicles := 100, maxDeliveriesPerMonth := 10000
    maxUsers := 50 }

def newPlatform : ManualTables :=
  { proofs := ⟨[], .nil⟩
    billing := {
      plans := [enterprisePlan], companies := [], subscriptions := ⟨[], .nil⟩, invoices := [] } }

def newDelivery : GuardedRequest :=
  { skip := false, payload := some ⟨false, some "company-1"⟩, path := "/api/v1/deliveries"
    method := "POST" }

/-- The state after the registration of a company. -/
def registered : ManualTables :=
  { newPlatform with billing := register newPlatform.billing "company-1" paidAt }

theorem registered_reached :
    Run (Steps (subscriptionStep id)) newPlatform [(paidAt, .register "company-1")] registered :=
  .single rfl

/-- A month later the trial is over, and the guards agree. -/
theorem registered_agree_later :
    ¬OnTrial registered.billing "company-1" (paidAt + paidSubscriptionDuration) ∧
      ((subscriptionGuard registered.billing newDelivery (paidAt + paidSubscriptionDuration)).1 =
          true → RefusedForLimit registered.billing newDelivery "company-1") := by
  have hover : ¬OnTrial registered.billing "company-1" (paidAt + paidSubscriptionDuration) := by
    rintro ⟨s, stop, hrow, -, hstop, hle⟩
    obtain rfl : trialRow "company-1" enterprisePlan paidAt = s := Option.some.inj hrow
    obtain rfl : paidAt + trialDuration = stop := Option.some.inj hstop
    exact absurd hle (by decide)
  exact ⟨hover, (guards_agree_iff (fun _ => rfl) registered_reached newDelivery rfl
    (paidAt + paidSubscriptionDuration)).mpr hover⟩

/-- An hour after its registration a company has no delivery, passes the first guard and is
suspended for the second. -/
theorem trial_is_suspended :
    Run (Steps (subscriptionStep id)) newPlatform [(paidAt, .register "company-1")] registered ∧
      (subscriptionGuard registered.billing newDelivery (paidAt + 3600000)).1 = true ∧
      usageGuard true registered.billing ⟨0, 0, 0⟩ newDelivery = some .suspended ∧
      ¬RefusedForLimit registered.billing newDelivery "company-1" := by
  have hrefused : usageGuard true registered.billing ⟨0, 0, 0⟩ newDelivery = some .suspended := by
    decide +kernel
  refine ⟨.single rfl, by decide +kernel, hrefused, fun honly => ?_⟩
  obtain ⟨sub, quota, -, hlimit, -⟩ := honly _ _ hrefused
  cases hlimit

end DeliveryTracking.Billing
