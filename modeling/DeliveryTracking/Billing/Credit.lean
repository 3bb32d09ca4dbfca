/-
# `DeliveryTracking.Billing.Credit` — payments and the checkouts they were made for

A company may start several checkouts and pay any of them, in any order.  Its one row
holds the plan of the last one and a reference for each kind of provider, so a payment is
credited only as long as the row still says what was paid for:

    Ready              the row has the plan of the checkout, and is active or found
    payments_credited  the payments of a run are credited, exactly at the ready ones
    latest_ready       the last checkout of a company is ready, if its reference is known
-/
import DeliveryTracking.Billing.MobileMoney
import DeliveryTracking.Billing.PaidAccess

namespace DeliveryTracking.Billing

/-! ## Model -/

/-- A checkout that was accepted. -/
structure StartedCheckout where
  companyId : String
  plan : BillingPlan
  reply : CheckoutReply
  deriving DecidableEq, Repr

inductive CreditEvent where
  | checkout (companyId : String) (call : CheckoutCall)
  /-- The webhook of the operator for the reference of the checkout. -/
  | confirmMobileMoney (started : StartedCheckout) (now : Int)
  /-- The event of Stripe for the session of the checkout, with the subscription it has by then. -/
  | completeCheckout (started : StartedCheckout) (eventId subscriptionId : String)
    (customer : Option String) (now : Int)

structure CreditRun where
  world : BillingWorld
  started : List StartedCheckout
  /-- The confirmed checkouts that were not credited. -/
  missed : List StartedCheckout

/-- The company has the plan of the checkout, active. -/
def StartedCheckout.credited (started : StartedCheckout) (db : BillingTables) : Bool :=
  (db.subscription started.companyId).any fun s => s.status == .active && s.plan == started.plan

namespace CreditRun

variable (s : CreditRun)

/-- A confirmation is handled. -/
def confirm (started : StartedCheckout) (world : BillingWorld) : CreditRun :=
  { world := world, started := s.started
    missed := if started.credited world.tables then s.missed else s.missed ++ [started] }

/-- The webhook of a completed checkout. -/
def completion (started : StartedCheckout) (eventId subscriptionId : String)
    (customer : Option String) : StripeWebhook :=
  { id := eventId
    event := .checkoutCompleted (some started.companyId) (some subscriptionId) customer }

/-- A confirmation is of a checkout that was started: the operator's carries the reference that was
returned, and Stripe's the subscription that was, or one it made since. -/
def step (cfg : BillingConfig) (s : CreditRun) : CreditEvent → Option CreditRun
  | .checkout companyId call =>
    match createOrUpdateSubscription cfg s.world.tables companyId call.dto call.now call.replies with
    | .error _ => some s
    | .ok (reply, tables) =>
      some { s with
        world := { s.world with tables := tables }
        started := s.started ++
          ((s.world.tables.plan call.dto.planId).map fun plan => ⟨companyId, plan, reply⟩).toList }
  | .confirmMobileMoney started now =>
    match started.reply with
    | .stripe _ => none
    | .mobileMoney transactionRef =>
      if started ∈ s.started then
        some (s.confirm started
          { s.world with tables := confirmMobileMoney s.world.tables transactionRef now })
      else none
  | .completeCheckout started eventId subscriptionId customer now =>
    match started.reply with
    | .mobileMoney _ => none
    | .stripe returned =>
      if started ∈ s.started ∧ started.companyId ≠ "" ∧ subscriptionId ≠ "" ∧
          returned.all (· == subscriptionId) = true ∧ s.world.marked eventId now = false then
        some (s.confirm started
          (handleStripeWebhook s.world (completion started eventId subscriptionId customer) now))
      else none

end CreditRun

/-- The row a confirmation finds. -/
def CreditEvent.found (db : BillingTables) : CreditEvent → Option Subscription
  | .checkout _ _ => none
  | .confirmMobileMoney started _ =>
    match started.reply with
    | .mobileMoney transactionRef => db.byMobileMoneyRef transactionRef
    | .stripe _ => none
  | .completeCheckout _ _ subscriptionId _ _ => db.byStripeId subscriptionId

/-- The checkout a confirmation is of. -/
def CreditEvent.confirms : CreditEvent → Option StartedCheckout
  | .checkout _ _ => none
  | .confirmMobileMoney started _ => some started
  | .completeCheckout started _ _ _ _ => some started

/-- The company's row has the plan of the checkout that is paid, and is active or the one the
confirmation finds. -/
def Ready (s : CreditRun) (e : CreditEvent) : Prop :=
  ∀ started, e.confirms = some started → ∃ row, s.world.tables.subscription started.companyId = some row ∧
    row.plan = started.plan ∧ (row.status = .active ∨ e.found s.world.tables = some row)

/-! ## A confirmation -/

section Confirmation

variable {db db' : BillingTables} {started : StartedCheckout} {found : Subscription}

theorem credited_iff :
    started.credited db = true ↔
      ∃ row, db.subscription started.companyId = some row ∧ row.status = .active ∧
        row.plan = started.plan := by
  simp [StartedCheckout.credited, Option.any_eq_true]

/-- A confirmation that finds no row, or one that is active already, leaves it to the company's. -/
theorem credited_iff_of_same {o : Option Subscription}
    (ho : ∀ sub, o = some sub → sub.status = .active) :
    started.credited db = true ↔
      ∃ row, db.subscription started.companyId = some row ∧ row.plan = started.plan ∧
        (row.status = .active ∨ o = some row) := by
  rw [credited_iff]
  constructor
  · rintro ⟨row, hrow, hactive, hplan⟩
    exact ⟨row, hrow, hplan, .inl hactive⟩
  · rintro ⟨row, hrow, hplan, hactive | hfound⟩
    · exact ⟨row, hrow, hactive, hplan⟩
    · exact ⟨row, hrow, ho row hfound, hplan⟩

/-- A confirmation that activates the row it finds credits its company, for the plan it has. -/
theorem credited_iff_of_activated {paid : Subscription}
    (hfound : db.subscription found.companyId = some found)
    (hrows : ∀ c, db'.subscription c = if c = found.companyId then some paid else db.subscription c)
    (hactive : paid.status = .active) (hplan : paid.plan = found.plan) :
    started.credited db' = true ↔
      ∃ row, db.subscription started.companyId = some row ∧ row.plan = started.plan ∧
        (row.status = .active ∨ some found = some row) := by
  rw [credited_iff, hrows]
  split
  · rename_i hc
    rw [hc, hfound]
    constructor
    · rintro ⟨row, hrow, -, hrowPlan⟩
      obtain rfl := Option.some.inj hrow
      exact ⟨found, rfl, hplan ▸ hrowPlan, .inr rfl⟩
    · rintro ⟨row, hrow, hrowPlan, -⟩
      obtain rfl := Option.some.inj hrow
      exact ⟨paid, rfl, hactive, hplan.trans hrowPlan⟩
  · rename_i hc
    constructor
    · rintro ⟨row, hrow, hrowActive, hrowPlan⟩
      exact ⟨row, hrow, hrowPlan, .inl hrowActive⟩
    · rintro ⟨row, hrow, hrowPlan, hrowActive | hsame⟩
      · exact ⟨row, hrow, hrowActive, hrowPlan⟩
      · obtain rfl := Option.some.inj hsame
        have hkey := (Table.mem_of_findFirst hrow).2
        exact absurd (of_decide_eq_true hkey).symm hc

theorem credited_confirmMobileMoney (transactionRef : String) (now : Int) :
    started.credited (confirmMobileMoney db transactionRef now) = true ↔
      ∃ row, db.subscription started.companyId = some row ∧ row.plan = started.plan ∧
        (row.status = .active ∨ db.byMobileMoneyRef transactionRef = some row) := by
  cases hpaid : db.paidRow transactionRef with
  | none =>
    rw [PaymentRun.confirmMobileMoney_of_none hpaid]
    refine credited_iff_of_same fun sub hsub => ?_
    rw [BillingTables.paidRow, hsub, Option.filter_some] at hpaid
    split_ifs at hpaid with hstatus
    simpa using hstatus
  | some sub =>
    have hfound := (Option.filter_eq_some_iff.mp hpaid).1
    have hrow := BillingTables.subscription_of_find hfound
    rw [hfound]
    have hactive : (sub.activate now).status = .active := rfl
    refine credited_iff_of_activated hrow (fun c => ?_) hactive rfl
    rw [PaymentRun.subscription_confirmMobileMoney hpaid]
    split
    · rename_i hc
      rw [hc, hrow, Option.map_some]
    · rfl

/-- The rows after the event of a completed checkout. -/
theorem subscription_completion {w : BillingWorld} {eventId subscriptionId : String}
    {customer : Option String} {now : Int} (hcompany : started.companyId ≠ "")
    (hid : subscriptionId ≠ "") (hfresh : w.marked eventId now = false) (c : String) :
    (handleStripeWebhook w (CreditRun.completion started eventId subscriptionId customer)
        now).tables.subscription c =
      match w.tables.byStripeId subscriptionId with
      | none => w.tables.subscription c
      | some sub =>
        if c = sub.companyId then some (sub.completeCheckout customer now)
        else w.tables.subscription c := by
  rw [tables_handleStripeWebhook hfresh]
  have hmark : (if w.marks.isSome then w.mark eventId now else w).tables = w.tables := by
    split <;> rfl
  simp only [CreditRun.completion, stripeSteps, present_of_ne hcompany, present_of_ne hid]
  cases hrow : w.tables.byStripeId subscriptionId with
  | none => exact congrArg (·.subscription c) hmark
  | some sub =>
    generalize (if w.marks.isSome then w.mark eventId now else w) = v at hmark
    dsimp only
    rw [runSteps, List.foldl_append, ← runSteps, tables_mails]
    show ((v.tables.update sub.companyId (Subscription.completeCheckout customer now)
      (Subscription.companyId_completeCheckout customer now)).createInvoice sub.companyId
        sub.plan.price sub.plan.currency .stripe (some subscriptionId) now).subscription c = _
    rw [hmark, BillingTables.subscription_createInvoice, BillingTables.subscription_update]
    split
    · rename_i hc
      rw [hc, BillingTables.subscription_of_find hrow, Option.map_some]
    · rfl

theorem credited_completion {w : BillingWorld} {eventId subscriptionId : String}
    {customer : Option String} {now : Int} (hcompany : started.companyId ≠ "")
    (hid : subscriptionId ≠ "") (hfresh : w.marked eventId now = false) :
    started.credited (handleStripeWebhook w
        (CreditRun.completion started eventId subscriptionId customer) now).tables = true ↔
      ∃ row, w.tables.subscription started.companyId = some row ∧ row.plan = started.plan ∧
        (row.status = .active ∨ w.tables.byStripeId subscriptionId = some row) := by
  have hrows : ∀ c, (handleStripeWebhook w
      (CreditRun.completion started eventId subscriptionId customer) now).tables.subscription c = _ :=
    subscription_completion hcompany hid hfresh
  cases hfound : w.tables.byStripeId subscriptionId with
  | none =>
    have hsame : started.credited (handleStripeWebhook w
        (CreditRun.completion started eventId subscriptionId customer) now).tables =
          started.credited w.tables := by
      rw [StartedCheckout.credited, hrows, hfound]
      rfl
    rw [hsame]
    exact credited_iff_of_same fun sub hsub => absurd hsub (Option.some_ne_none sub).symm
  | some sub =>
    have hactive : (sub.completeCheckout customer now).status = .active := rfl
    refine credited_iff_of_activated (BillingTables.subscription_of_find hfound) (fun c => ?_)
      hactive rfl
    rw [hrows, hfound]

end Confirmation

/-! ## Runs -/

section Runs

variable {cfg : BillingConfig} {s t : CreditRun} {e : CreditEvent} {started : StartedCheckout}

theorem step_confirmMobileMoney {now : Int}
    (h : CreditRun.step cfg s (.confirmMobileMoney started now) = some t) :
    ∃ transactionRef, started.reply = .mobileMoney transactionRef ∧
      t = s.confirm started
        { s.world with tables := confirmMobileMoney s.world.tables transactionRef now } := by
  rw [CreditRun.step] at h
  split at h
  · cases h
  · rename_i transactionRef hreply
    split at h
    · exact ⟨transactionRef, hreply, (Option.some.inj h).symm⟩
    · cases h

theorem step_completeCheckout {eventId subscriptionId : String} {customer : Option String} {now : Int}
    (h : CreditRun.step cfg s (.completeCheckout started eventId subscriptionId customer now) =
      some t) :
    ∃ returned, started.reply = .stripe returned ∧ returned.all (· == subscriptionId) = true ∧
      started.companyId ≠ "" ∧ subscriptionId ≠ "" ∧ s.world.marked eventId now = false ∧
      t = s.confirm started (handleStripeWebhook s.world
        (CreditRun.completion started eventId subscriptionId customer) now) := by
  rw [CreditRun.step] at h
  split at h
  · cases h
  · rename_i returned hreply
    split at h
    · rename_i hwell
      obtain ⟨-, hcompany, hid, hreturned, hunmarked⟩ := hwell
      exact ⟨returned, hreply, hreturned, hcompany, hid, hunmarked, (Option.some.inj h).symm⟩
    · cases h

/-- A confirmation credits its checkout exactly when that is ready. -/
theorem credited_iff_ready (hstep : CreditRun.step cfg s e = some t)
    (hconfirms : e.confirms = some started) :
    ∃ world, t = s.confirm started world ∧
      (started.credited world.tables = true ↔ Ready s e) := by
  have hready : Ready s e ↔ ∃ row, s.world.tables.subscription started.companyId = some row ∧
      row.plan = started.plan ∧ (row.status = .active ∨ e.found s.world.tables = some row) := by
    constructor
    · intro h
      exact h started hconfirms
    · intro h started' hconfirms'
      obtain rfl := Option.some.inj (hconfirms.symm.trans hconfirms')
      exact h
  rw [hready]
  cases e with
  | checkout companyId call => cases hconfirms
  | confirmMobileMoney started' now =>
    obtain rfl := Option.some.inj hconfirms
    obtain ⟨transactionRef, hreply, rfl⟩ := step_confirmMobileMoney hstep
    refine ⟨_, rfl, ?_⟩
    rw [CreditEvent.found, hreply]
    exact credited_confirmMobileMoney transactionRef now
  | completeCheckout started' eventId subscriptionId customer now =>
    obtain rfl := Option.some.inj hconfirms
    obtain ⟨-, -, -, hcompany, hid, hfresh, rfl⟩ := step_completeCheckout hstep
    exact ⟨_, rfl, credited_completion hcompany hid hfresh⟩

theorem missed_of_ready (hstep : CreditRun.step cfg s e = some t) (hready : Ready s e) :
    t.missed = s.missed := by
  cases hconfirms : e.confirms with
  | some started =>
    obtain ⟨world, rfl, hiff⟩ := credited_iff_ready hstep hconfirms
    rw [CreditRun.confirm, if_pos (hiff.mpr hready)]
  | none =>
    cases e with
    | checkout companyId call =>
      rw [CreditRun.step] at hstep
      split at hstep
      · obtain rfl := Option.some.inj hstep
        rfl
      · obtain rfl := Option.some.inj hstep
        rfl
    | confirmMobileMoney started now => cases hconfirms
    | completeCheckout started eventId subscriptionId customer now => cases hconfirms

end Runs

/-! ## The last checkout of a company -/

/-- What a payment is told by: the plan of a row and its references. -/
structure RowTerms where
  plan : BillingPlan
  mobileMoneyRef : Option String
  stripeSubscriptionId : Option String
  deriving DecidableEq, Repr

def Subscription.terms (s : Subscription) : RowTerms :=
  { plan := s.plan, mobileMoneyRef := s.mobileMoneyRef
    stripeSubscriptionId := s.stripeSubscriptionId }

def BillingTables.terms (db : BillingTables) (c : String) : Option RowTerms :=
  (db.subscription c).map Subscription.terms

/-- The row has the reference that was returned. -/
def RowTerms.Holds (r : RowTerms) : CheckoutReply → Prop
  | .mobileMoney transactionRef => r.mobileMoneyRef = some transactionRef
  | .stripe subscriptionId => r.stripeSubscriptionId = subscriptionId

/-- A reference was returned. -/
def CheckoutReply.known : CheckoutReply → Bool
  | .mobileMoney _ => true
  | .stripe subscriptionId => subscriptionId.isSome

/-- A reference is on one row at most. -/
def RefsDistinct (db : BillingTables) : Prop :=
  ∀ c c' r r' reply, reply.known = true → db.terms c = some r → db.terms c' = some r' →
    r.Holds reply → r'.Holds reply → c = c'

/-- The last checkout a company started. -/
def CreditRun.lastStarted (s : CreditRun) (c : String) : Option StartedCheckout :=
  (s.started.filter (·.companyId = c)).getLast?

/-- A provider returns a reference that no row of another company has. -/
def FreshReference (cfg : BillingConfig) (s : CreditRun) (e : CreditEvent) : Prop :=
  ∀ companyId call, e = .checkout companyId call → ∀ reply,
    paymentReply cfg companyId call.dto call.now call.replies = .ok reply → reply.known = true →
      ∀ c r, c ≠ companyId → s.world.tables.terms c = some r → ¬r.Holds reply

/-- The row of a company has the plan and the reference of its last checkout. -/
structure Tracked (s : CreditRun) : Prop where
  distinct : RefsDistinct s.world.tables
  latest : ∀ c started, s.lastStarted c = some started →
    ∃ r, s.world.tables.terms c = some r ∧ r.plan = started.plan ∧ r.Holds started.reply

section Tracked

variable {cfg : BillingConfig} {s t : CreditRun} {e : CreditEvent} {started : StartedCheckout}

/-- The terms of a row after a checkout. -/
def RowTerms.checkout (old : Option RowTerms) (plan : BillingPlan) : CheckoutReply → RowTerms
  | .mobileMoney transactionRef =>
    { plan := plan, mobileMoneyRef := some transactionRef
      stripeSubscriptionId := old.bind RowTerms.stripeSubscriptionId }
  | .stripe subscriptionId =>
    { plan := plan, mobileMoneyRef := old.bind RowTerms.mobileMoneyRef
      stripeSubscriptionId := subscriptionId }

theorem terms_put (db : BillingTables) (companyId : String) (plan : BillingPlan)
    (provider : BillingProvider) (reply : CheckoutReply) (now : Int) (c : String) :
    (db.put (checkoutFresh companyId plan provider reply now)
        (Subscription.checkout plan provider reply now)
        (Subscription.companyId_checkout plan provider reply now)).terms c =
      if c = companyId then some (.checkout (db.terms c) plan reply) else db.terms c := by
  have hfresh : (checkoutFresh companyId plan provider reply now).companyId = companyId := by
    cases reply <;> rfl
  rw [BillingTables.terms, BillingTables.subscription_put, hfresh]
  split
  · rw [BillingTables.terms]
    cases db.subscription c with
    | none => cases reply <;> rfl
    | some row => cases reply <;> rfl
  · rfl

theorem RowTerms.holds_checkout (old : Option RowTerms) (plan : BillingPlan)
    (reply : CheckoutReply) : (RowTerms.checkout old plan reply).Holds reply := by
  cases reply <;> rfl

/-- A reference of a row after a checkout is the one returned, or one the row had. -/
theorem RowTerms.holds_checkout_cases {old : Option RowTerms} {plan : BillingPlan}
    {reply other : CheckoutReply} (hknown : other.known = true)
    (h : (RowTerms.checkout old plan reply).Holds other) :
    other = reply ∨ ∃ r, old = some r ∧ r.Holds other := by
  cases reply with
  | mobileMoney transactionRef =>
    cases other with
    | mobileMoney ref => exact .inl (by rw [Option.some.inj h])
    | stripe id =>
      obtain ⟨id', rfl⟩ := Option.isSome_iff_exists.mp hknown
      exact .inr (Option.bind_eq_some_iff.mp h)
  | stripe subscriptionId =>
    cases other with
    | mobileMoney ref => exact .inr (Option.bind_eq_some_iff.mp h)
    | stripe id => exact .inl (by rw [show subscriptionId = id from h])

theorem Tracked.of_terms (h : Tracked s)
    (hterms : ∀ c, t.world.tables.terms c = s.world.tables.terms c)
    (hstarted : t.started = s.started) : Tracked t where
  distinct c c' r r' reply hknown hr hr' := by
    rw [hterms] at hr hr'
    exact h.distinct c c' r r' reply hknown hr hr'
  latest c started hlast := by
    rw [CreditRun.lastStarted, hstarted] at hlast
    rw [hterms]
    exact h.latest c started hlast

theorem terms_confirmMobileMoney (db : BillingTables) (transactionRef : String) (now : Int)
    (c : String) : (confirmMobileMoney db transactionRef now).terms c = db.terms c := by
  cases hpaid : db.paidRow transactionRef with
  | none => rw [PaymentRun.confirmMobileMoney_of_none hpaid]
  | some sub =>
    rw [BillingTables.terms, PaymentRun.subscription_confirmMobileMoney hpaid]
    split
    · rw [Option.map_map]
      rfl
    · rfl

theorem terms_completion {w : BillingWorld} {eventId subscriptionId : String}
    {customer : Option String} {now : Int} (hcompany : started.companyId ≠ "")
    (hid : subscriptionId ≠ "") (hfresh : w.marked eventId now = false) (c : String) :
    (handleStripeWebhook w (CreditRun.completion started eventId subscriptionId customer)
      now).tables.terms c = w.tables.terms c := by
  rw [BillingTables.terms, subscription_completion hcompany hid hfresh]
  cases hrow : w.tables.byStripeId subscriptionId with
  | none => rfl
  | some sub =>
    dsimp only
    split
    · rename_i hc
      rw [hc, BillingTables.terms, BillingTables.subscription_of_find hrow]
      rfl
    · rfl

theorem Tracked.checkout {companyId : String} {plan : BillingPlan} {reply : CheckoutReply}
    {tables : BillingTables} (h : Tracked s)
    (hnew : reply.known = true → ∀ c r, c ≠ companyId → s.world.tables.terms c = some r →
      ¬r.Holds reply)
    (hterms : ∀ c, tables.terms c = if c = companyId then
      some (.checkout (s.world.tables.terms c) plan reply) else s.world.tables.terms c) :
    Tracked { s with world := { s.world with tables := tables },
                     started := s.started ++ [⟨companyId, plan, reply⟩] } where
  distinct := by
    -- a reference that the new row shares with another one is either new there, or was shared before
    have hother : ∀ c r known, known.known = true →
        (RowTerms.checkout (s.world.tables.terms companyId) plan reply).Holds known →
        s.world.tables.terms c = some r → r.Holds known → c = companyId := by
      intro c r known hknown hholds hr hold
      by_contra hne
      rcases RowTerms.holds_checkout_cases hknown hholds with rfl | ⟨before, hbefore, hholdsBefore⟩
      · exact hnew hknown c r hne hr hold
      · exact hne (h.distinct c companyId r before known hknown hr hbefore hold hholdsBefore)
    intro c c' r r' known hknown hr hr' hholds hholds'
    rw [hterms] at hr hr'
    split at hr
    · rename_i hc
      subst hc
      obtain rfl := Option.some.inj hr
      split at hr'
      · rename_i hc'
        exact hc'.symm
      · exact (hother c' r' known hknown hholds hr' hholds').symm
    · split at hr'
      · rename_i hc'
        subst hc'
        obtain rfl := Option.some.inj hr'
        exact hother c r known hknown hholds' hr hholds
      · exact h.distinct c c' r r' known hknown hr hr' hholds hholds'
  latest := by
    intro c started hlast
    rw [hterms]
    rw [CreditRun.lastStarted, List.filter_append] at hlast
    split
    · rename_i hc
      subst hc
      rw [List.filter_cons_of_pos (by simp), List.filter_nil, List.getLast?_concat] at hlast
      obtain rfl := Option.some.inj hlast
      refine ⟨_, rfl, ?_, RowTerms.holds_checkout _ plan reply⟩
      cases reply <;> rfl
    · rename_i hc
      rw [List.filter_cons_of_neg (by simpa using Ne.symm hc), List.filter_nil, List.append_nil] at hlast
      exact h.latest c started hlast

theorem Tracked.step (h : Tracked s) (hstep : CreditRun.step cfg s e = some t)
    (hfresh : FreshReference cfg s e) : Tracked t := by
  cases e with
  | checkout companyId call =>
    rw [CreditRun.step] at hstep
    split at hstep
    · obtain rfl := Option.some.inj hstep
      exact h
    · rename_i reply tables hok
      obtain rfl := Option.some.inj hstep
      obtain ⟨plan, haccepted, rfl⟩ := createOrUpdateSubscription_ok_iff.mp hok
      rw [haccepted.hasPlan]
      refine h.checkout (fun hknown => ?_) (terms_put _ companyId plan call.dto.provider reply call.now)
      exact hfresh companyId call rfl reply haccepted.answered hknown
  | confirmMobileMoney started now =>
    obtain ⟨transactionRef, -, rfl⟩ := step_confirmMobileMoney hstep
    exact h.of_terms (terms_confirmMobileMoney s.world.tables transactionRef now) rfl
  | completeCheckout started eventId subscriptionId customer now =>
    obtain ⟨-, -, -, hcompany, hid, hunmarked, rfl⟩ := step_completeCheckout hstep
    exact h.of_terms (terms_completion hcompany hid hunmarked) rfl

/-- The row that has a reference is the one a webhook for it finds. -/
theorem found_of_holds {db : BillingTables} (h : RefsDistinct db) {c : String} {row : Subscription}
    (hrow : db.subscription c = some row) {reply : CheckoutReply} (hknown : reply.known = true)
    (hholds : row.terms.Holds reply) {q : Subscription → Bool}
    (hq : ∀ s, q s = true ↔ s.terms.Holds reply) : db.subscriptions.findFirst q = some row := by
  have hmem : row ∈ db.subscriptions.rows := (Table.mem_of_findFirst hrow).1
  refine Table.findFirst_of_unique hmem ((hq row).mpr hholds) fun found hread => ?_
  have hheld : found.terms.Holds reply := (hq found).mp (Table.mem_of_findFirst hread).2
  have hfoundRow := BillingTables.subscription_of_find hread
  have hsame : found.companyId = c :=
    h found.companyId c found.terms row.terms reply hknown
      (by rw [BillingTables.terms, hfoundRow, Option.map_some])
      (by rw [BillingTables.terms, hrow, Option.map_some]) hheld hholds
  rw [hsame] at hfoundRow
  exact Option.some.inj (hfoundRow.symm.trans hrow)

/-- Where references are not returned twice, the last checkout of a company can be paid: if its
reference is known, its confirmation finds the row and is credited. -/
theorem latest_ready {es : List CreditEvent} (hstart : s.started = [])
    (hdistinct : RefsDistinct s.world.tables)
    (hrun : Run (Guarded (Steps (CreditRun.step cfg)) (FreshReference cfg)) s es t)
    {u : CreditRun} (hstep : CreditRun.step cfg t e = some u) (hconfirms : e.confirms = some started)
    (hlast : t.lastStarted started.companyId = some started) (hknown : started.reply.known = true) :
    Ready t e := by
  have htracked : Tracked t := by
    refine hrun.invariant (I := Tracked) (fun h hstep => h.step hstep.1 hstep.2) ⟨hdistinct, ?_⟩
    intro c started hlast
    rw [CreditRun.lastStarted, hstart] at hlast
    cases hlast
  obtain ⟨r, hr, hplan, hholds⟩ := htracked.latest _ _ hlast
  obtain ⟨row, hrow, rfl⟩ := Option.map_eq_some_iff.mp hr
  intro started' hconfirms'
  obtain rfl := Option.some.inj (hconfirms.symm.trans hconfirms')
  refine ⟨row, hrow, hplan, .inr ?_⟩
  cases e with
  | checkout companyId call => cases hconfirms
  | confirmMobileMoney started' now =>
    obtain rfl := Option.some.inj hconfirms
    obtain ⟨transactionRef, hreply, -⟩ := step_confirmMobileMoney hstep
    rw [CreditEvent.found, hreply]
    refine found_of_holds htracked.distinct hrow hknown hholds (fun s => ?_)
    rw [hreply, beq_iff_eq]
    rfl
  | completeCheckout started' eventId subscriptionId customer now =>
    obtain rfl := Option.some.inj hconfirms
    obtain ⟨returned, hreply, hreturned, -⟩ := step_completeCheckout hstep
    rw [hreply] at hknown
    obtain ⟨id, rfl⟩ := Option.isSome_iff_exists.mp hknown
    have hid : id = subscriptionId := by simpa using hreturned
    refine found_of_holds htracked.distinct hrow (hreply ▸ hknown) hholds (fun s => ?_)
    rw [hreply, beq_iff_eq, ← hid]
    rfl

end Tracked

/-- In a run whose confirmations are all ready no payment is missed, and whatever the run, a payment
is credited exactly when it is ready. -/
theorem payments_credited (cfg : BillingConfig) :
    (∀ s es t, Run (Guarded (Steps (CreditRun.step cfg)) Ready) s es t → s.missed = [] →
      t.missed = []) ∧
    ∀ s e t started, CreditRun.step cfg s e = some t → e.confirms = some started →
      (started.credited t.world.tables = true ↔ Ready s e) := by
  refine ⟨fun s es t hrun hnone => ?_, fun s e t started hstep hconfirms => ?_⟩
  · refine hrun.invariant (I := fun s => s.missed = []) (fun hinv hstep => ?_) hnone
    exact (missed_of_ready hstep.1 hstep.2).trans hinv
  · obtain ⟨world, rfl, hiff⟩ := credited_iff_ready hstep hconfirms
    exact hiff

/-! ### Two checkouts, the first one paid -/

def creditStart : CreditRun :=
  { world := {
      tables := { paidTables with subscriptions := .empty }
      admins := fun _ => [], marks := some fun _ => none, mails := [] }
    started := [], missed := [] }

/-- A checkout of the smaller plan, a minute before the one of the larger. -/
def firstCall : CheckoutCall :=
  { dto := { upgradeCall.dto with planId := "plan-pro" }, now := upgradeCall.now - 60000
    replies := { upgradeCall.replies with payment := .ok "ref-0" } }

def firstStarted : StartedCheckout :=
  { companyId := "company-1", plan := waitingRow.plan, reply := .mobileMoney "ref-0" }

/-- The first checkout is started. -/
def firstWaiting : CreditRun :=
  (CreditRun.step mobileConfig creditStart (.checkout "company-1" firstCall)).getD creditStart

theorem firstPayment_credited :
    firstStarted.credited (confirmMobileMoney firstWaiting.world.tables "ref-0" upgradeCall.now) =
      true := by
  have hready : Ready firstWaiting (.confirmMobileMoney firstStarted upgradeCall.now) := by
    intro started hconfirms
    obtain rfl := Option.some.inj hconfirms
    exact ⟨_, rfl, rfl, .inr rfl⟩
  exact ((payments_credited mobileConfig).2 firstWaiting _ _ firstStarted rfl rfl).mpr hready

/-- The company starts a checkout, then another one, and pays for the first: the operator's webhook
finds no row, and the company is not active. -/
theorem first_payment_missed : ∃ t : CreditRun,
    Run (Steps (CreditRun.step mobileConfig)) creditStart
        [.checkout "company-1" firstCall, .checkout "company-1" upgradeCall,
          .confirmMobileMoney firstStarted (upgradeCall.now + 60000)] t ∧
      t.missed = [firstStarted] ∧
      (t.world.tables.subscription "company-1").map Subscription.status = some .incomplete := by
  have hend : ([CreditEvent.checkout "company-1" firstCall, .checkout "company-1" upgradeCall,
      .confirmMobileMoney firstStarted (upgradeCall.now + 60000)].foldlM
        (CreditRun.step mobileConfig) creditStart).any
      (fun t => t.missed == [firstStarted] &&
        (t.world.tables.subscription "company-1").map Subscription.status == some .incomplete) =
        true := by
    decide +kernel
  obtain ⟨t, hrun, ht⟩ := Run.of_foldlM_any hend
  rw [Bool.and_eq_true, beq_iff_eq, beq_iff_eq] at ht
  exact ⟨t, hrun, ht⟩

end DeliveryTracking.Billing
