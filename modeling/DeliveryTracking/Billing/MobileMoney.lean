/-
# `DeliveryTracking.Billing.MobileMoney` — what a mobile payment buys

Runs of checkouts, cancellations, expiry checks and webhooks, in any order and with any
repetition.  `bought` collects the periods webhooks have activated a row for.  A webhook
is skipped when the row is active; the reference stays on a row that was canceled or has
expired, and there a repeated webhook buys another period (`replay_buys_again`).
-/
import DeliveryTracking.Billing.Checkout

namespace DeliveryTracking.Billing

/-! ## Model -/

inductive BillingEvent where
  | checkout (companyId : String) (dto : CreateCheckoutDto) (replies : ProviderReplies)
  | confirmMobileMoney (transactionRef : String)
  | cancel (companyId : String)
  | expired
  | unpaid

/-- A period a payment was handled for. -/
structure BoughtPeriod where
  transactionRef : String
  companyId : String
  plan : BillingPlan
  start : Int
  stop : Int
  deriving DecidableEq, Repr

structure PaymentRun where
  tables : BillingTables
  bought : List BoughtPeriod

/-- The row a webhook activates. -/
def BillingTables.paidRow (db : BillingTables) (transactionRef : String) : Option Subscription :=
  (db.byMobileMoneyRef transactionRef).filter (·.status ≠ .active)

namespace PaymentRun

/-- What a webhook buys. -/
def boughtBy (db : BillingTables) (transactionRef : String) (now : Int) : Option BoughtPeriod :=
  (db.paidRow transactionRef).map fun sub =>
    { transactionRef := transactionRef, companyId := sub.companyId, plan := sub.plan, start := now
      stop := sub.plan.periodEnd now }

/-- An event at an instant; a call that throws writes nothing. -/
def step (cfg : BillingConfig) (s : PaymentRun) : Int × BillingEvent → Option PaymentRun
  | (now, .checkout companyId dto replies) =>
    match createOrUpdateSubscription cfg s.tables companyId dto now replies with
    | .ok (_, tables) => some { s with tables := tables }
    | .error _ => some s
  | (now, .confirmMobileMoney transactionRef) =>
    some { tables := confirmMobileMoney s.tables transactionRef now
           bought := s.bought ++ (boughtBy s.tables transactionRef now).toList }
  | (now, .cancel companyId) =>
    match cancelSubscription s.tables companyId now with
    | .ok tables => some { s with tables := tables }
    | .error _ => some s
  | (now, .expired) => some { s with tables := handleExpiredSubscriptions s.tables now }
  | (now, .unpaid) => some { s with tables := handleUnpaidSubscriptions s.tables now }

/-- The reference has bought a period. -/
def Consumed (s : PaymentRun) (transactionRef : String) : Prop :=
  ∃ b ∈ s.bought, b.transactionRef = transactionRef

/-- The webhook of a consumed reference finds no row that it would activate: the row is active, or
carries another reference by now. -/
def ReplayFindsNone (s : PaymentRun) (e : Int × BillingEvent) : Prop :=
  ∀ transactionRef, e.2 = .confirmMobileMoney transactionRef → s.Consumed transactionRef →
    s.tables.paidRow transactionRef = none

/-! ## A webhook -/

theorem confirmMobileMoney_of_none {db : BillingTables} {transactionRef : String} {now : Int}
    (h : db.paidRow transactionRef = none) : confirmMobileMoney db transactionRef now = db := by
  unfold confirmMobileMoney
  cases hfound : db.byMobileMoneyRef transactionRef with
  | none => rfl
  | some sub =>
    rw [BillingTables.paidRow, hfound, Option.filter_some] at h
    split_ifs at h with hactive
    have hstatus : sub.status = .active := by simpa using hactive
    exact if_pos hstatus

theorem subscription_confirmMobileMoney {db : BillingTables} {transactionRef : String} {now : Int}
    {sub : Subscription} (h : db.paidRow transactionRef = some sub) (c : String) :
    (confirmMobileMoney db transactionRef now).subscription c =
      if c = sub.companyId then (db.subscription c).map (Subscription.activate now)
      else db.subscription c := by
  obtain ⟨hfound, hstatus⟩ := Option.filter_eq_some_iff.mp h
  have hinactive : sub.status ≠ .active := by simpa using hstatus
  rw [confirmMobileMoney, hfound]
  simp only [if_neg hinactive, BillingTables.subscription_createInvoice,
    BillingTables.subscription_update]

/-- A webhook leaves the rows alone exactly when it finds none to activate. -/
theorem confirmMobileMoney_unchanged_iff (db : BillingTables) (transactionRef : String) (now : Int) :
    (confirmMobileMoney db transactionRef now).subscriptions = db.subscriptions ↔
      db.paidRow transactionRef = none := by
  constructor
  · intro hsame
    by_contra hsome
    obtain ⟨sub, hpaid⟩ := Option.ne_none_iff_exists'.mp hsome
    obtain ⟨hfound, hstatus⟩ := Option.filter_eq_some_iff.mp hpaid
    have hrow : db.subscription sub.companyId = some sub := BillingTables.subscription_of_find hfound
    have hafter : (confirmMobileMoney db transactionRef now).subscription sub.companyId = _ :=
      subscription_confirmMobileMoney hpaid sub.companyId
    rw [BillingTables.subscription, hsame, ← BillingTables.subscription, if_pos rfl, hrow,
      Option.map_some] at hafter
    have hactive : sub.status = .active :=
      congrArg Subscription.status (Option.some.inj hafter)
    simp [hactive] at hstatus
  · intro hnone
    rw [confirmMobileMoney_of_none hnone]

/-! ## A payment buys at most one period -/

/-- What the webhooks of a run have bought: a period of the plan each time, and no reference twice. -/
structure OneEach (s : PaymentRun) : Prop where
  nodup : (s.bought.map BoughtPeriod.transactionRef).Nodup
  period : ∀ b ∈ s.bought, b.stop = b.plan.periodEnd b.start

theorem OneEach.step {cfg : BillingConfig} {s t : PaymentRun} {e : Int × BillingEvent}
    (hs : s.OneEach) (h : Guarded (Steps (step cfg)) ReplayFindsNone s e t) : t.OneEach := by
  obtain ⟨hstep, hguard⟩ := h
  have hkeep : t.bought = s.bought → t.OneEach := by
    intro hsame
    exact ⟨hsame ▸ hs.nodup, hsame ▸ hs.period⟩
  obtain ⟨now, event⟩ := e
  cases event with
  | checkout companyId dto replies =>
    refine hkeep ?_
    simp only [Steps, PaymentRun.step] at hstep
    split at hstep <;> cases hstep <;> rfl
  | cancel companyId =>
    refine hkeep ?_
    simp only [Steps, PaymentRun.step] at hstep
    split at hstep <;> cases hstep <;> rfl
  | expired => cases hstep; exact hkeep rfl
  | unpaid => cases hstep; exact hkeep rfl
  | confirmMobileMoney transactionRef =>
    obtain rfl := Option.some.inj hstep
    cases hbuys : boughtBy s.tables transactionRef now with
    | none => exact ⟨by simpa [hbuys] using hs.nodup, by simpa [hbuys] using hs.period⟩
    | some b =>
      obtain ⟨sub, hpaid, rfl⟩ := Option.map_eq_some_iff.mp hbuys
      -- the reference has bought nothing so far, or the webhook would find no row
      have hfresh : transactionRef ∉ s.bought.map BoughtPeriod.transactionRef := by
        intro hmem
        obtain ⟨b, hb, href⟩ := List.mem_map.mp hmem
        have hnone := hguard transactionRef rfl ⟨b, hb, href⟩
        rw [hpaid] at hnone
        cases hnone
      constructor
      · simp only [Option.toList_some, List.map_append, List.map_cons, List.map_nil]
        exact List.nodup_append.mpr ⟨hs.nodup, List.nodup_singleton _, by
          intro a ha b hb hab
          rw [List.mem_singleton.mp hb] at hab
          exact hfresh (hab ▸ ha)⟩
      · intro b hb
        rcases List.mem_append.mp hb with hold | hnew
        · exact hs.period b hold
        · rw [Option.toList_some, List.mem_singleton] at hnew
          rw [hnew]

/-- In a run whose repeated webhooks find no row to activate, a reference buys at most one period,
of its row's plan; and a repeated webhook changes no subscription exactly when it finds none. -/
theorem mobileMoney_onePeriod (cfg : BillingConfig) {s t : PaymentRun}
    {es : List (Int × BillingEvent)} (hs : s.bought = [])
    (h : Run (Guarded (Steps (step cfg)) ReplayFindsNone) s es t) :
    (∀ transactionRef, t.bought.countP (·.transactionRef = transactionRef) ≤ 1) ∧
      (∀ b ∈ t.bought, b.stop = b.plan.periodEnd b.start) ∧
      ∀ transactionRef now, t.Consumed transactionRef →
        ((confirmMobileMoney t.tables transactionRef now).subscriptions = t.tables.subscriptions ↔
          t.ReplayFindsNone (now, .confirmMobileMoney transactionRef)) := by
  have hone : t.OneEach := h.invariant (fun hinv hstep => OneEach.step hinv hstep) ⟨by simp [hs], by simp [hs]⟩
  refine ⟨fun transactionRef => ?_, hone.period, fun transactionRef now hconsumed => ?_⟩
  · have hcount := List.nodup_iff_count_le_one.mp hone.nodup transactionRef
    rw [List.count, List.countP_map] at hcount
    simpa [Function.comp_def, Bool.beq_eq_decide_eq] using hcount
  · rw [confirmMobileMoney_unchanged_iff]
    constructor
    · intro hnone ref hevent _
      cases hevent
      exact hnone
    · intro hguard
      exact hguard transactionRef rfl hconsumed

end PaymentRun

/-! ## A webhook repeated after a cancellation -/

def samplePlan : BillingPlan :=
  { id := "plan-pro", tier := .pro, name := "Pro", price := 9000000, currency := "MGA"
    interval := "month", maxVehicles := 20, maxDeliveriesPerMonth := 1000, maxUsers := 10 }

def sampleConfig : BillingConfig :=
  { stripeSecretKey := true, production := true, mobileMoneySandbox := false, mvolaApiKey := true
    orangeMoneyApiKey := false }

/-- One company, without a subscription. -/
def sampleTables : BillingTables :=
  { plans := [samplePlan], companies := ["company-1"], subscriptions := .empty, invoices := [] }

/-- 2026-09-01. -/
def sampleNow : Int := 1788220800000

def mvolaCheckout (transactionRef : String) : BillingEvent :=
  .checkout "company-1"
    { planId := "plan-pro", provider := .mvola, mobileMoneyPhone := some "+261340000000" }
    { session := .ok none, payment := .ok transactionRef }

/-- A payment, and its webhook a second time while the row is active. -/
def payOnce : List (Int × BillingEvent) :=
  [(sampleNow, mvolaCheckout "ref-1"), (sampleNow + 60000, .confirmMobileMoney "ref-1"),
    (sampleNow + 90000, .confirmMobileMoney "ref-1")]

/-- The same payment; the company cancels, and the webhook comes again. -/
def payAndCancel : List (Int × BillingEvent) :=
  [(sampleNow, mvolaCheckout "ref-1"), (sampleNow + 60000, .confirmMobileMoney "ref-1"),
    (sampleNow + 120000, .cancel "company-1"), (sampleNow + 180000, .confirmMobileMoney "ref-1")]

instance (s : PaymentRun) (e : Int × BillingEvent) : Decidable (s.ReplayFindsNone e) :=
  match e with
  | (_, .confirmMobileMoney transactionRef) =>
    decidable_of_iff ((∃ b ∈ s.bought, b.transactionRef = transactionRef) →
        (s.tables.paidRow transactionRef).isNone)
      ⟨by rintro h ref ⟨⟩ hconsumed; exact Option.isNone_iff_eq_none.mp (h hconsumed),
        fun h hconsumed => Option.isNone_iff_eq_none.mpr (h transactionRef rfl hconsumed)⟩
  | (_, .checkout ..) => .isTrue fun _ h => nomatch h
  | (_, .cancel _) => .isTrue fun _ h => nomatch h
  | (_, .expired) => .isTrue fun _ h => nomatch h
  | (_, .unpaid) => .isTrue fun _ h => nomatch h

theorem payOnce_onePeriod : ∃ t : PaymentRun,
    Run (Guarded (Steps (PaymentRun.step sampleConfig)) PaymentRun.ReplayFindsNone)
      ⟨sampleTables, []⟩ payOnce t ∧
    ∀ transactionRef, t.bought.countP (·.transactionRef = transactionRef) ≤ 1 := by
  cases ht : payOnce.foldlM (guardStep (PaymentRun.step sampleConfig) PaymentRun.ReplayFindsNone)
      ⟨sampleTables, []⟩ with
  | none =>
    have hruns : (payOnce.foldlM (guardStep (PaymentRun.step sampleConfig)
      PaymentRun.ReplayFindsNone) ⟨sampleTables, []⟩).isSome = true := by decide +kernel
    rw [ht] at hruns
    cases hruns
  | some t =>
    have hrun := Run.of_guardStep ht
    exact ⟨t, hrun, (PaymentRun.mobileMoney_onePeriod sampleConfig rfl hrun).1⟩

/-- After the cancellation the same reference buys a second period. -/
theorem replay_buys_again : ∃ t : PaymentRun,
    Run (Steps (PaymentRun.step sampleConfig)) ⟨sampleTables, []⟩ payAndCancel t ∧
      t.bought.countP (·.transactionRef = "ref-1") = 2 ∧
      (t.tables.subscription "company-1").map Subscription.status = some .active := by
  have hend : (payAndCancel.foldlM (PaymentRun.step sampleConfig) ⟨sampleTables, []⟩).any
      (fun t => t.bought.countP (·.transactionRef = "ref-1") == 2 &&
        (t.tables.subscription "company-1").map Subscription.status == some .active) = true := by
    decide +kernel
  obtain ⟨t, hrun, ht⟩ := Run.of_foldlM_any hend
  rw [Bool.and_eq_true, beq_iff_eq, beq_iff_eq] at ht
  exact ⟨t, hrun, ht⟩

end DeliveryTracking.Billing
