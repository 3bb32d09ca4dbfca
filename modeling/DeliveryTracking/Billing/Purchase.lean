/-
# `DeliveryTracking.Billing.Purchase` — the two events of a Stripe purchase

Stripe sends `checkout.session.completed` and `invoice.paid` for one purchase, in any
order and with any repetition.  Each handler computes the end of the period and bills by
itself: the first counts a month whatever the plan, the second the plan's interval.

    deliver    the webhooks of a list of deliveries, one after the other
    handled    those of them the marks let through
    outcome    status, plan and end of every row, and what was billed

The event handled last sets the end (`payAll_concat`), so two orders agree exactly when
their last events set the same one.
-/
import DeliveryTracking.Billing.Stripe

namespace DeliveryTracking.Billing

open Calendar

/-! ## Model -/

structure Purchase where
  companyId : String
  subscriptionId : String
  customer : Option String
  invoiceId : String
  checkoutEventId : String
  invoiceEventId : String
  named : companyId ≠ "" ∧ subscriptionId ≠ ""
  distinct : checkoutEventId ≠ invoiceEventId

inductive PurchaseEvent where
  | checkout
  | invoice
  deriving DecidableEq, Repr

structure Delivery where
  event : PurchaseEvent
  instant : Int
  deriving DecidableEq, Repr

/-- What an invoice bills; its number and its instant tell when it was written. -/
structure Bill where
  companyId : String
  amount : Int
  currency : String
  provider : BillingProvider
  providerInvoiceId : Option String
  deriving DecidableEq, Repr

def Invoice.bill (i : Invoice) : Bill :=
  { companyId := i.companyId, amount := i.amount, currency := i.currency, provider := i.provider
    providerInvoiceId := i.providerInvoiceId }

@[ext] structure Outcome where
  rows : String → Option (SubscriptionStatus × BillingPlan × Int)
  bills : Set Bill

def BillingTables.outcome (db : BillingTables) : Outcome where
  rows c := (db.subscription c).map fun s => (s.status, s.plan, s.currentPeriodEnd)
  bills := {b | ∃ i ∈ db.invoices, i.bill = b}

/-- An invoice is recorded unless its provider's id has been billed. -/
theorem BillingTables.mem_bills_createInvoice (db : BillingTables) (bill : Bill) {id : String}
    (hid : bill.providerInvoiceId = some id) (now : Int) (b : Bill) :
    b ∈ (db.createInvoice bill.companyId bill.amount bill.currency bill.provider (some id)
        now).outcome.bills ↔
      b ∈ db.outcome.bills ∨
        b = bill ∧ ∀ b' ∈ db.outcome.bills, b'.providerInvoiceId ≠ some id := by
  have hbilled : (∀ b' ∈ db.outcome.bills, b'.providerInvoiceId ≠ some id) ↔
      db.invoices.any (·.providerInvoiceId == some id) = false := by
    simp [BillingTables.outcome, Invoice.bill]
  rw [hbilled, BillingTables.createInvoice]
  cases hany : db.invoices.any (·.providerInvoiceId == some id) with
  | true => simp [BillingTables.outcome]
  | false =>
    simp only [Option.isSome_some, Bool.and_false, if_neg Bool.false_ne_true, and_true]
    constructor
    · rintro ⟨i, hi, rfl⟩
      rcases List.mem_append.mp hi with hold | hnew
      · exact .inl ⟨i, hold, rfl⟩
      · rw [List.mem_singleton.mp hnew]
        exact .inr (by simp [Invoice.bill, ← hid])
    · rintro (⟨i, hi, rfl⟩ | rfl)
      · exact ⟨i, List.mem_append_left _ hi, rfl⟩
      · exact ⟨_, List.mem_append_right _ (List.mem_singleton_self _), by simp [Invoice.bill, ← hid]⟩

namespace Purchase

variable (p : Purchase)

def hook : PurchaseEvent → StripeWebhook
  | .checkout =>
    { id := p.checkoutEventId
      event := .checkoutCompleted (some p.companyId) (some p.subscriptionId) p.customer }
  | .invoice =>
    { id := p.invoiceEventId, event := .invoicePaid p.invoiceId (some p.subscriptionId) }

def deliver (w : BillingWorld) (ds : List Delivery) : BillingWorld :=
  ds.foldl (fun w d => handleStripeWebhook w (p.hook d.event) d.instant) w

/-- The deliveries that are not skipped. -/
def handled : BillingWorld → List Delivery → List Delivery
  | _, [] => []
  | w, d :: ds =>
    if w.marked (p.hook d.event).id d.instant then handled w ds
    else d :: handled (handleStripeWebhook w (p.hook d.event) d.instant) ds

/-- Both events are handled. -/
def Complete (w : BillingWorld) (ds : List Delivery) : Prop :=
  ∀ event, ∃ d ∈ p.handled w ds, d.event = event

/-- What a handled event makes of the row. -/
def pay (event : PurchaseEvent) (now : Int) : Subscription → Subscription :=
  match event with
  | .checkout => Subscription.completeCheckout p.customer now
  | .invoice => Subscription.activate now

/-- The invoice a handled event records. -/
def invoiceOf : PurchaseEvent → String
  | .checkout => p.subscriptionId
  | .invoice => p.invoiceId

def billOf (s : Subscription) (event : PurchaseEvent) : Bill :=
  { companyId := s.companyId, amount := s.plan.price, currency := s.plan.currency
    provider := .stripe, providerInvoiceId := some (p.invoiceOf event) }

/-- The end of the period a handled event starts. -/
def periodEnd (plan : BillingPlan) (d : Delivery) : Int :=
  match d.event with
  | .checkout => checkoutPeriodEnd d.instant
  | .invoice => plan.periodEnd d.instant

/-- If the purchase has a row, the last events of two orders set the same end. -/
def SameEnd (w : BillingWorld) (ds ds' : List Delivery) : Prop :=
  ∀ s, w.tables.byStripeId p.subscriptionId = some s →
    (p.handled w ds).getLast?.map (periodEnd s.plan) =
      (p.handled w ds').getLast?.map (periodEnd s.plan)

/-! ## A handled event -/

variable {p} {w : BillingWorld} {s : Subscription} {event : PurchaseEvent} {now : Int}

@[simp] theorem companyId_pay (event : PurchaseEvent) (now : Int) (s : Subscription) :
    (p.pay event now s).companyId = s.companyId := by
  cases event <;> rfl

@[simp] theorem plan_pay (event : PurchaseEvent) (now : Int) (s : Subscription) :
    (p.pay event now s).plan = s.plan := by
  cases event <;> rfl

@[simp] theorem stripeSubscriptionId_pay (event : PurchaseEvent) (now : Int) (s : Subscription) :
    (p.pay event now s).stripeSubscriptionId = s.stripeSubscriptionId := by
  cases event <;> rfl

theorem paid_pay (d : Delivery) (s : Subscription) :
    ((p.pay d.event d.instant s).status, (p.pay d.event d.instant s).plan,
      (p.pay d.event d.instant s).currentPeriodEnd) = (.active, s.plan, periodEnd s.plan d) := by
  obtain ⟨event, instant⟩ := d
  cases event <;> rfl

theorem tables_handle_none (h : w.tables.byStripeId p.subscriptionId = none) :
    (handleStripeWebhook w (p.hook event) now).tables = w.tables := by
  cases hfresh : w.marked (p.hook event).id now with
  | true => rw [handleStripeWebhook, if_pos hfresh]
  | false =>
    have hsteps : stripeSteps w (p.hook event).event now = [] := by
      cases event with
      | checkout =>
        simp [hook, stripeSteps, present_of_ne p.named.1, present_of_ne p.named.2, h]
      | invoice => simp [hook, stripeSteps, present_of_ne p.named.2, h]
    rw [tables_handleStripeWebhook hfresh, hsteps]
    split <;> rfl

theorem tables_handle_some (hfresh : w.marked (p.hook event).id now = false)
    (h : w.tables.byStripeId p.subscriptionId = some s) :
    (handleStripeWebhook w (p.hook event) now).tables =
      (w.tables.update s.companyId (p.pay event now) (companyId_pay event now)).createInvoice
        s.companyId s.plan.price s.plan.currency .stripe (some (p.invoiceOf event)) now := by
  rw [tables_handleStripeWebhook hfresh]
  have hmark : (if w.marks.isSome then w.mark (p.hook event).id now else w).tables = w.tables := by
    split <;> rfl
  generalize (if w.marks.isSome then w.mark (p.hook event).id now else w) = v at hmark
  cases event with
  | checkout =>
    simp only [hook, stripeSteps, present_of_ne p.named.1, present_of_ne p.named.2, h]
    rw [runSteps, List.foldl_append, ← runSteps, tables_mails, ← hmark]
    rfl
  | invoice =>
    simp only [hook, stripeSteps, present_of_ne p.named.2, Option.bind_some, h]
    rw [← hmark]
    rfl

/-- A handled event leaves the row it is about, paid. -/
theorem byStripeId_handle (hfresh : w.marked (p.hook event).id now = false)
    (h : w.tables.byStripeId p.subscriptionId = some s) :
    (handleStripeWebhook w (p.hook event) now).tables.byStripeId p.subscriptionId =
      some (p.pay event now s) := by
  rw [BillingTables.byStripeId, tables_handle_some hfresh h,
    BillingTables.subscriptions_createInvoice]
  have hread := Table.findFirst_update w.tables.subscriptions (·.companyId == s.companyId)
    (p.pay event now) (companyId_pay event now)
    (q := (·.stripeSubscriptionId == some p.subscriptionId)) (fun s => by simp)
  refine hread.trans ?_
  rw [← BillingTables.byStripeId, h, Option.map_some, if_pos (beq_self_eq_true _)]

theorem subscription_handle (hfresh : w.marked (p.hook event).id now = false)
    (h : w.tables.byStripeId p.subscriptionId = some s) (c : String) :
    (handleStripeWebhook w (p.hook event) now).tables.subscription c =
      if c = s.companyId then some (p.pay event now s) else w.tables.subscription c := by
  rw [tables_handle_some hfresh h, BillingTables.subscription_createInvoice,
    BillingTables.subscription_update]
  split
  · rename_i hc
    rw [hc, BillingTables.subscription_of_find h, Option.map_some]
  · rfl

theorem bills_handle (hfresh : w.marked (p.hook event).id now = false)
    (h : w.tables.byStripeId p.subscriptionId = some s) (b : Bill) :
    b ∈ (handleStripeWebhook w (p.hook event) now).tables.outcome.bills ↔
      b ∈ w.tables.outcome.bills ∨ b = p.billOf s event ∧
        ∀ b' ∈ w.tables.outcome.bills, b'.providerInvoiceId ≠ some (p.invoiceOf event) := by
  rw [tables_handle_some hfresh h]
  exact BillingTables.mem_bills_createInvoice _ (p.billOf s event) rfl now b

/-! ## A list of deliveries -/

/-- The row after the events of a list. -/
def payAll (p : Purchase) (ds : List Delivery) (s : Subscription) : Subscription :=
  ds.foldl (fun s d => p.pay d.event d.instant s) s

@[simp] theorem plan_payAll (ds : List Delivery) (s : Subscription) :
    (p.payAll ds s).plan = s.plan := by
  induction ds generalizing s with
  | nil => rfl
  | cons d ds ih => exact (ih _).trans (plan_pay d.event d.instant s)

/-- The event handled last sets the end. -/
theorem payAll_concat (ds : List Delivery) (d : Delivery) (s : Subscription) :
    ((p.payAll (ds ++ [d]) s).status, (p.payAll (ds ++ [d]) s).plan,
      (p.payAll (ds ++ [d]) s).currentPeriodEnd) = (.active, s.plan, periodEnd s.plan d) := by
  have hlast : p.payAll (ds ++ [d]) s = p.pay d.event d.instant (p.payAll ds s) := by
    rw [payAll, List.foldl_append]
    rfl
  rw [hlast, paid_pay, plan_payAll]

theorem deliver_cons (w : BillingWorld) (d : Delivery) (ds : List Delivery) :
    p.deliver w (d :: ds) =
      p.deliver (handleStripeWebhook w (p.hook d.event) d.instant) ds := rfl

theorem handle_of_marked (h : w.marked (p.hook event).id now = true) :
    handleStripeWebhook w (p.hook event) now = w := if_pos h

theorem tables_deliver_none (h : w.tables.byStripeId p.subscriptionId = none)
    (ds : List Delivery) : (p.deliver w ds).tables = w.tables := by
  induction ds generalizing w with
  | nil => rfl
  | cons d ds ih =>
    have hsame : (handleStripeWebhook w (p.hook d.event) d.instant).tables = w.tables :=
      tables_handle_none h
    rw [deliver_cons, ih (by rw [hsame]; exact h), hsame]

theorem subscription_deliver (h : w.tables.byStripeId p.subscriptionId = some s)
    (ds : List Delivery) (c : String) :
    (p.deliver w ds).tables.subscription c =
      if c = s.companyId then some (p.payAll (p.handled w ds) s)
      else w.tables.subscription c := by
  induction ds generalizing w s with
  | nil =>
    show w.tables.subscription c = _
    split
    · rename_i hc
      rw [hc]
      exact BillingTables.subscription_of_find h
    · rfl
  | cons d ds ih =>
    rw [deliver_cons, handled]
    cases hfresh : w.marked (p.hook d.event).id d.instant with
    | true =>
      rw [handle_of_marked hfresh, if_pos rfl]
      exact ih h
    | false =>
      rw [if_neg Bool.false_ne_true, ih (byStripeId_handle hfresh h), companyId_pay,
        subscription_handle hfresh h]
      split <;> rfl

/-- What a list of deliveries bills: an invoice for every event handled, unless its id was billed
before. -/
theorem bills_deliver (h : w.tables.byStripeId p.subscriptionId = some s) (ds : List Delivery)
    (b : Bill) :
    b ∈ (p.deliver w ds).tables.outcome.bills ↔
      b ∈ w.tables.outcome.bills ∨ ∃ d ∈ p.handled w ds, b = p.billOf s d.event ∧
        ∀ b' ∈ w.tables.outcome.bills, b'.providerInvoiceId ≠ some (p.invoiceOf d.event) := by
  induction ds generalizing w s with
  | nil => simp [deliver, handled]
  | cons d ds ih =>
    rw [deliver_cons, handled]
    cases hfresh : w.marked (p.hook d.event).id d.instant with
    | true =>
      rw [handle_of_marked hfresh, if_pos rfl]
      exact ih h
    | false =>
      have hbill : ∀ event, p.billOf (p.pay d.event d.instant s) event = p.billOf s event := by
        intro event
        simp [billOf]
      have hold := bills_handle hfresh h
      rw [if_neg Bool.false_ne_true, ih (byStripeId_handle hfresh h), hold b]
      simp only [hbill, List.mem_cons, exists_eq_or_imp]
      constructor
      · rintro ((hmem | hnew) | ⟨d', hd', rfl, hnone⟩)
        · exact .inl hmem
        · exact .inr (.inl hnew)
        · exact .inr (.inr ⟨d', hd', rfl, fun b' hb' => hnone b' ((hold b').mpr (.inl hb'))⟩)
      · rintro (hmem | hnew | ⟨d', hd', rfl, hnone⟩)
        · exact .inl (.inl hmem)
        · exact .inl (.inr hnew)
        -- one id has one bill, so an id billed twice is billed as if by the first event
        · by_cases hsame : p.invoiceOf d'.event = p.invoiceOf d.event
          · refine .inl (.inr ⟨by rw [billOf, billOf, hsame], ?_⟩)
            rw [← hsame]
            exact hnone
          · refine .inr ⟨d', hd', rfl, fun b' hb' => ?_⟩
            rcases (hold b').mp hb' with hmem | ⟨rfl, -⟩
            · exact hnone b' hmem
            · exact fun hid => hsame (Option.some.inj hid).symm

/-! ## Two orders -/

theorem Complete.exists_last {ds : List Delivery} (h : p.Complete w ds) :
    ∃ hs d, p.handled w ds = hs ++ [d] := by
  obtain ⟨d, hd, -⟩ := h .checkout
  have hne : p.handled w ds ≠ [] := List.ne_nil_of_mem hd
  exact ⟨_, _, (List.dropLast_append_getLast hne).symm⟩

/-- Every order that handles both events bills the same. -/
theorem bills_of_complete {ds ds' : List Delivery} (h : p.Complete w ds) (h' : p.Complete w ds') :
    (p.deliver w ds).tables.outcome.bills = (p.deliver w ds').tables.outcome.bills := by
  cases hrow : w.tables.byStripeId p.subscriptionId with
  | none => rw [tables_deliver_none hrow, tables_deliver_none hrow]
  | some s =>
    have hsub : ∀ {es es' : List Delivery}, p.Complete w es' →
        ∀ b ∈ (p.deliver w es).tables.outcome.bills,
          b ∈ (p.deliver w es').tables.outcome.bills := by
      intro es es' hall b hb
      rw [bills_deliver hrow] at hb ⊢
      refine hb.imp_right ?_
      rintro ⟨d, -, hd⟩
      obtain ⟨d', hmem, hevent⟩ := hall d.event
      exact ⟨d', hmem, by rwa [hevent]⟩
    exact Set.ext fun b => ⟨hsub h' b, hsub h b⟩

/-- Two orders of a purchase have one outcome exactly when their last events set the same end. -/
theorem outcome_eq_iff {ds ds' : List Delivery} (h : p.Complete w ds) (h' : p.Complete w ds') :
    (p.deliver w ds).tables.outcome = (p.deliver w ds').tables.outcome ↔ p.SameEnd w ds ds' := by
  rw [Outcome.ext_iff, and_iff_left (bills_of_complete h h')]
  cases hrow : w.tables.byStripeId p.subscriptionId with
  | none =>
    rw [tables_deliver_none hrow, tables_deliver_none hrow]
    simp [SameEnd, hrow]
  | some s =>
    obtain ⟨hs, d, hlast⟩ := h.exists_last
    obtain ⟨hs', d', hlast'⟩ := h'.exists_last
    have hsame : p.SameEnd w ds ds' ↔ periodEnd s.plan d = periodEnd s.plan d' := by
      simp [SameEnd, hrow, hlast, hlast']
    have hrows : ∀ (es : List Delivery) (c : String),
        (p.deliver w es).tables.outcome.rows c =
          if c = s.companyId then some ((p.payAll (p.handled w es) s).status,
            (p.payAll (p.handled w es) s).plan, (p.payAll (p.handled w es) s).currentPeriodEnd)
          else w.tables.outcome.rows c := by
      intro es c
      show ((p.deliver w es).tables.subscription c).map _ = _
      rw [subscription_deliver hrow]
      split
      · rfl
      · rfl
    rw [hsame, funext_iff]
    constructor
    · intro heq
      have hcompany := heq s.companyId
      rw [hrows, hrows, if_pos rfl, if_pos rfl, hlast, hlast', payAll_concat, payAll_concat]
        at hcompany
      exact congrArg (·.2.2) (Option.some.inj hcompany)
    · intro hend c
      rw [hrows, hrows, hlast, hlast', payAll_concat, payAll_concat, hend]

/-! ## Every order at one instant -/

section OneInstant

variable {ds ds' : List Delivery}

/-- The events of the purchase have not been marked. -/
def Fresh (p : Purchase) (w : BillingWorld) (now : Int) : Prop :=
  ∀ event, w.marked (p.hook event).id now = false

theorem id_hook_injective (p : Purchase) : Function.Injective fun event => (p.hook event).id := by
  intro event event' h
  cases event <;> cases event'
  · rfl
  · exact absurd h p.distinct
  · exact absurd h.symm p.distinct
  · rfl

/-- An event handled leaves the other one unmarked. -/
theorem marked_handle {event' : PurchaseEvent} (hne : event' ≠ event)
    (hfresh : w.marked (p.hook event).id now = false)
    (hother : w.marked (p.hook event').id now = false) :
    (handleStripeWebhook w (p.hook event) now).marked (p.hook event').id now = false := by
  have hids : (p.hook event').id ≠ (p.hook event).id := fun h => hne (p.id_hook_injective h)
  unfold BillingWorld.marked at hother ⊢
  rw [marks_handleStripeWebhook hfresh, BillingWorld.mark]
  cases hmarks : w.marks with
  | none => rfl
  | some marks =>
    rw [hmarks] at hother
    simpa [Function.update_of_ne hids] using hother

/-- The two events, one after the other. -/
theorem handled_pair {event' : PurchaseEvent} (hne : event' ≠ event) (hfresh : p.Fresh w now) :
    p.handled w [⟨event, now⟩, ⟨event', now⟩] = [⟨event, now⟩, ⟨event', now⟩] := by
  simp [handled, hfresh event, marked_handle hne (hfresh event) (hfresh event')]

theorem complete_pair {event' : PurchaseEvent} (hne : event' ≠ event) (hfresh : p.Fresh w now) :
    p.Complete w [⟨event, now⟩, ⟨event', now⟩] := by
  intro e
  rw [handled_pair hne hfresh]
  cases event <;> cases event' <;> cases e <;> simp at hne ⊢

theorem mem_of_handled {ds : List Delivery} {d : Delivery} (h : d ∈ p.handled w ds) : d ∈ ds := by
  induction ds generalizing w with
  | nil => exact h
  | cons d' ds ih =>
    rw [handled] at h
    split at h
    · exact List.mem_cons_of_mem _ (ih h)
    · rcases List.mem_cons.mp h with rfl | hrest
      · exact List.mem_cons_self
      · exact List.mem_cons_of_mem _ (ih hrest)

/-- Handled at one instant, the two events set one end unless the plan is yearly. -/
theorem periodEnd_eq {plan : BillingPlan} (h : plan.interval ≠ "year") {d : Delivery} :
    periodEnd plan d = checkoutPeriodEnd d.instant := by
  obtain ⟨event, instant⟩ := d
  cases event with
  | checkout => rfl
  | invoice => rw [periodEnd, BillingPlan.periodEnd, BillingPlan.months, if_neg h, checkoutPeriodEnd]

theorem periodEnd_lt {plan : BillingPlan} (h : plan.interval = "year") (now : Int) :
    checkoutPeriodEnd now < plan.periodEnd now := by
  rw [BillingPlan.periodEnd, BillingPlan.months, if_pos h]
  exact setUTCMonth_lt now (by omega)

end OneInstant

/-- The outcome of a purchase depends on the order of its events exactly when the last ones set
different ends; at one instant, that is when the plan of its row is yearly. -/
theorem orderIndependent_iff (p : Purchase) (w : BillingWorld) :
    (∀ ds ds', p.Complete w ds → p.Complete w ds' →
      ((p.deliver w ds).tables.outcome = (p.deliver w ds').tables.outcome ↔ p.SameEnd w ds ds')) ∧
    ∀ now, p.Fresh w now →
      ((∀ ds ds', (∀ d ∈ ds, d.instant = now) → (∀ d ∈ ds', d.instant = now) →
          p.Complete w ds → p.Complete w ds' →
          (p.deliver w ds).tables.outcome = (p.deliver w ds').tables.outcome) ↔
        ∀ s, w.tables.byStripeId p.subscriptionId = some s → s.plan.interval ≠ "year") := by
  refine ⟨fun ds ds' h h' => outcome_eq_iff h h', fun now hfresh => ⟨?_, ?_⟩⟩
  · intro hall s hrow hyear
    have hne : PurchaseEvent.invoice ≠ .checkout := by decide
    have hone : ∀ e e' : PurchaseEvent, ∀ d ∈ [(⟨e, now⟩ : Delivery), ⟨e', now⟩],
        d.instant = now := by
      intro e e' d hd
      rcases List.mem_pair.mp hd with rfl | rfl
      · rfl
      · rfl
    have hsame := hall _ _ (hone .checkout .invoice) (hone .invoice .checkout)
      (complete_pair hne hfresh) (complete_pair hne.symm hfresh)
    rw [outcome_eq_iff (complete_pair hne hfresh) (complete_pair hne.symm hfresh)] at hsame
    have hends := hsame s hrow
    rw [handled_pair hne hfresh, handled_pair hne.symm hfresh] at hends
    have hend : s.plan.periodEnd now = checkoutPeriodEnd now := Option.some.inj hends
    exact absurd hend (periodEnd_lt hyear now).ne'
  · intro hplan ds ds' hnow hnow' h h'
    rw [outcome_eq_iff h h']
    intro s hrow
    have hlast : ∀ es, p.Complete w es → (∀ d ∈ es, d.instant = now) →
        (p.handled w es).getLast?.map (periodEnd s.plan) = some (checkoutPeriodEnd now) := by
      intro es hes hinstant
      obtain ⟨hs, d, hlast⟩ := hes.exists_last
      have hmem : d ∈ es := mem_of_handled (hlast ▸ List.mem_append_right hs (List.mem_singleton_self d))
      rw [hlast, List.getLast?_concat, Option.map_some, periodEnd_eq (hplan s hrow), hinstant d hmem]
    rw [hlast ds h hnow, hlast ds' h' hnow']

/-! ### A yearly purchase -/

/-- The purchase of the row that waits. -/
def yearlyPurchase : Purchase :=
  { companyId := "company-1", subscriptionId := "sub_1", customer := some "cus_1"
    invoiceId := "in_1", checkoutEventId := "evt_1", invoiceEventId := "evt_2"
    named := by decide, distinct := by decide }

theorem yearlyPurchase_fresh : yearlyPurchase.Fresh waitingWorld paidAt := by
  intro event
  cases event <;> rfl

theorem yearlyPurchase_complete :
    yearlyPurchase.Complete waitingWorld [⟨.checkout, paidAt⟩, ⟨.invoice, paidAt⟩] ∧
      yearlyPurchase.Complete waitingWorld [⟨.invoice, paidAt⟩, ⟨.checkout, paidAt⟩] :=
  ⟨complete_pair (by decide) yearlyPurchase_fresh, complete_pair (by decide) yearlyPurchase_fresh⟩

theorem yearlyPurchase_orderIndependent :
    ((yearlyPurchase.deliver waitingWorld
          [⟨.checkout, paidAt⟩, ⟨.invoice, paidAt⟩]).tables.outcome =
        (yearlyPurchase.deliver waitingWorld
          [⟨.invoice, paidAt⟩, ⟨.checkout, paidAt⟩]).tables.outcome ↔
      yearlyPurchase.SameEnd waitingWorld [⟨.checkout, paidAt⟩, ⟨.invoice, paidAt⟩]
        [⟨.invoice, paidAt⟩, ⟨.checkout, paidAt⟩]) :=
  (orderIndependent_iff yearlyPurchase waitingWorld).1 _ _ yearlyPurchase_complete.1
    yearlyPurchase_complete.2

/-- The invoice first, then the checkout: a year was paid for and a month is left. -/
theorem checkout_cuts_year :
    ((yearlyPurchase.deliver waitingWorld
        [⟨.checkout, paidAt⟩, ⟨.invoice, paidAt + 1000⟩]).tables.subscription "company-1").map
          (fun s => (s.status, s.currentPeriodEnd)) = some (.active, 1819785601000) ∧
      ((yearlyPurchase.deliver waitingWorld
        [⟨.invoice, paidAt⟩, ⟨.checkout, paidAt + 1000⟩]).tables.subscription "company-1").map
          (fun s => (s.status, s.currentPeriodEnd)) = some (.active, 1790841601000) ∧
      (yearlyPurchase.deliver waitingWorld
          [⟨.checkout, paidAt⟩, ⟨.invoice, paidAt + 1000⟩]).tables.outcome ≠
        (yearlyPurchase.deliver waitingWorld
          [⟨.invoice, paidAt⟩, ⟨.checkout, paidAt + 1000⟩]).tables.outcome := by
  refine ⟨by decide +kernel, by decide +kernel, ?_⟩
  intro hsame
  have hrow := congrFun (congrArg Outcome.rows hsame) "company-1"
  revert hrow
  decide +kernel

end Purchase

end DeliveryTracking.Billing
