/-
# `DeliveryTracking.Billing.PaidAccess` — what an unpaid checkout does to paid access

A checkout writes the new plan into the row that carries the period already paid for and
leaves it `incomplete`, so the subscription guard refuses the company until the payment is
confirmed.  A row keeps its access through a list of checkouts exactly when every one of
them is refused (`keepsPaidAccess_iff`).
-/
import DeliveryTracking.Billing.Guards

namespace DeliveryTracking.Billing

/-! ## Model -/

/-- A call of `createOrUpdateSubscription`, with its instant and what the provider answers. -/
structure CheckoutCall where
  dto : CreateCheckoutDto
  now : Int
  replies : ProviderReplies

section Calls

variable (cfg : BillingConfig) (companyId : String)

/-- The tables after a call; one that throws writes nothing. -/
def checkoutCall (db : BillingTables) (call : CheckoutCall) : BillingTables :=
  match createOrUpdateSubscription cfg db companyId call.dto call.now call.replies with
  | .ok (_, db') => db'
  | .error _ => db

def checkoutCalls (db : BillingTables) (calls : List CheckoutCall) : BillingTables :=
  calls.foldl (checkoutCall cfg companyId) db

/-- The call is accepted. -/
def CheckoutCall.Accepts (db : BillingTables) (call : CheckoutCall) : Prop :=
  ∃ plan reply, Accepted cfg db companyId call.dto call.now call.replies plan reply

/-- The payment the call asks for is not made; a simulated one counts as made. -/
def CheckoutCall.Unpaid (call : CheckoutCall) : Prop :=
  ∀ reply, paymentReply cfg companyId call.dto call.now call.replies = .ok reply →
    reply.simulated = false

end Calls

/-- Until when the guard lets the row pass, if that ends. -/
def Subscription.accessEnd (s : Subscription) : Option Int :=
  if s.status = .trialing then s.trialEndsAt else some s.currentPeriodEnd

/-- The guard lets the company pass as long as the row `s` said, and the row that is there now has
no better status, plan or end. -/
structure KeepsPaidAccess (db : BillingTables) (companyId : String) (s : Subscription) : Prop where
  passes : ∀ req now, req.company = some companyId → (∀ stop, s.accessEnd = some stop → now ≤ stop) →
    (subscriptionGuard db req now).1 = true
  notImproved : ∃ s', db.subscription companyId = some s' ∧
    (s'.status = .active → s.status = .active) ∧ s'.plan.price ≤ s.plan.price ∧
    s'.currentPeriodEnd ≤ s.currentPeriodEnd

/-! ## A call -/

section Calls

variable {cfg : BillingConfig} {companyId : String} {db : BillingTables} {call : CheckoutCall}
  {s : Subscription} {now : Int}

theorem checkoutCall_of_not (h : ¬call.Accepts cfg companyId db) :
    checkoutCall cfg companyId db call = db := by
  unfold checkoutCall
  split
  · rename_i reply db' hok
    obtain ⟨plan, haccepted, -⟩ := createOrUpdateSubscription_ok_iff.mp hok
    exact absurd ⟨plan, reply, haccepted⟩ h
  · rfl

/-- The company's row waits for a payment. -/
def Waits (db : BillingTables) (companyId : String) : Prop :=
  ∃ s, db.subscription companyId = some s ∧ s.status = .incomplete

theorem waits_of_accepts (hunpaid : call.Unpaid cfg companyId) (h : call.Accepts cfg companyId db) :
    Waits (checkoutCall cfg companyId db call) companyId := by
  obtain ⟨plan, reply, haccepted⟩ := h
  have hnot := hunpaid reply haccepted.answered
  have hok := createOrUpdateSubscription_ok_iff.mpr ⟨plan, haccepted, rfl⟩
  have hfresh : (checkoutFresh companyId plan call.dto.provider reply call.now).companyId =
      companyId := by
    cases reply <;> rfl
  rw [checkoutCall, hok]
  refine ⟨_, by rw [BillingTables.subscription_put, if_pos hfresh.symm], ?_⟩
  cases reply with
  | stripe subscriptionId =>
    have hreal : isSimulated subscriptionId = false := hnot
    cases db.subscription companyId with
    | none => simp [checkoutFresh, checkoutRow, hreal]
    | some s => simp [Subscription.checkout, hreal]
  | mobileMoney transactionRef =>
    cases db.subscription companyId with
    | none => rfl
    | some s => rfl

theorem Waits.checkoutCall (h : Waits db companyId) (hunpaid : call.Unpaid cfg companyId) :
    Waits (checkoutCall cfg companyId db call) companyId := by
  by_cases haccepts : call.Accepts cfg companyId db
  · exact waits_of_accepts hunpaid haccepts
  · rw [checkoutCall_of_not haccepts]
    exact h

theorem Waits.checkoutCalls {calls : List CheckoutCall} (h : Waits db companyId)
    (hunpaid : ∀ call ∈ calls, call.Unpaid cfg companyId) :
    Waits (checkoutCalls cfg companyId db calls) companyId := by
  induction calls generalizing db with
  | nil => exact h
  | cons call calls ih =>
    obtain ⟨hhead, htail⟩ := List.forall_mem_cons.mp hunpaid
    exact ih (h.checkoutCall hhead) htail

/-- Refused calls leave the tables as they are, and from an accepted one on the row waits. -/
theorem checkoutCalls_cases {calls : List CheckoutCall}
    (hunpaid : ∀ call ∈ calls, call.Unpaid cfg companyId) :
    (∀ call ∈ calls, ¬call.Accepts cfg companyId db) ∧ checkoutCalls cfg companyId db calls = db ∨
      (∃ call ∈ calls, call.Accepts cfg companyId db) ∧
        Waits (checkoutCalls cfg companyId db calls) companyId := by
  induction calls with
  | nil => exact .inl ⟨fun call hcall => absurd hcall List.not_mem_nil, rfl⟩
  | cons call calls ih =>
    obtain ⟨hhead, htail⟩ := List.forall_mem_cons.mp hunpaid
    by_cases haccepts : call.Accepts cfg companyId db
    · have hwaits : Waits (checkoutCalls cfg companyId db (call :: calls)) companyId :=
        (waits_of_accepts hhead haccepts).checkoutCalls htail
      exact .inr ⟨⟨call, List.mem_cons_self, haccepts⟩, hwaits⟩
    · have hsame : checkoutCalls cfg companyId db (call :: calls) =
          checkoutCalls cfg companyId db calls := by
        rw [checkoutCalls, List.foldl_cons, checkoutCall_of_not haccepts]
        rfl
      rw [hsame]
      rcases ih htail with ⟨hnone, htables⟩ | ⟨⟨call', hmem, haccepts'⟩, hwaits⟩
      · exact .inl ⟨List.forall_mem_cons.mpr ⟨haccepts, hnone⟩, htables⟩
      · exact .inr ⟨⟨call', List.mem_cons_of_mem _ hmem, haccepts'⟩, hwaits⟩

/-! ## Paid access -/

/-- A row the guard lets pass is let pass until the end of its access. -/
theorem access_pass_until (h : s.access now = .pass) {later : Int}
    (hlater : ∀ stop, s.accessEnd = some stop → later ≤ stop) : s.access later = .pass := by
  rcases (access_pass_iff s).mp h with ⟨hactive, -⟩ | ⟨htrial, -⟩
  · refine (access_pass_iff s).mpr (.inl ⟨hactive, hlater _ ?_⟩)
    rw [Subscription.accessEnd, if_neg (by simp [hactive])]
  · refine (access_pass_iff s).mpr (.inr ⟨htrial, fun stop hstop => hlater stop ?_⟩)
    rw [Subscription.accessEnd, if_pos htrial]
    exact hstop

theorem accessEnd_of_pass (h : s.access now = .pass) :
    ∀ stop, s.accessEnd = some stop → now ≤ stop := by
  intro stop hstop
  unfold Subscription.accessEnd at hstop
  rcases (access_pass_iff s).mp h with ⟨hactive, hle⟩ | ⟨htrial, hle⟩
  · rw [if_neg (by simp [hactive])] at hstop
    exact Option.some.inj hstop ▸ hle
  · rw [if_pos htrial] at hstop
    exact hle stop hstop

theorem keepsPaidAccess_self (hrow : db.subscription companyId = some s)
    (hpass : s.access now = .pass) : KeepsPaidAccess db companyId s where
  passes _ _ hcompany hlater :=
    (subscriptionGuard_pass_iff hcompany).mpr ⟨s, hrow, access_pass_until hpass hlater⟩
  notImproved := ⟨s, hrow, id, le_rfl, le_rfl⟩

/-- A row the guard lets pass keeps its access through a list of unpaid checkouts exactly when every
one of them is refused: for its plan, its company, its provider or the plan being the active one. -/
theorem keepsPaidAccess_iff (cfg : BillingConfig) {db : BillingTables} {companyId : String}
    {s : Subscription} {now : Int} (hne : companyId ≠ "")
    (hrow : db.subscription companyId = some s) (hpass : s.access now = .pass)
    {calls : List CheckoutCall} (hunpaid : ∀ call ∈ calls, call.Unpaid cfg companyId) :
    KeepsPaidAccess (checkoutCalls cfg companyId db calls) companyId s ↔
      ∀ call ∈ calls, ¬call.Accepts cfg companyId db := by
  rcases @checkoutCalls_cases cfg companyId db calls hunpaid with ⟨hnone, hsame⟩ | ⟨⟨call, hmem, haccepts⟩, hwaits⟩
  · rw [hsame]
    exact iff_of_true (keepsPaidAccess_self hrow hpass) hnone
  · refine iff_of_false ?_ fun hnone => hnone call hmem haccepts
    intro hkeeps
    obtain ⟨s', hrow', hincomplete⟩ := hwaits
    let req : GuardedRequest := ⟨false, some ⟨false, some companyId⟩, "", "GET"⟩
    have hcompany : req.company = some companyId := present_of_ne hne
    have hguard := hkeeps.passes req now hcompany (accessEnd_of_pass hpass)
    obtain ⟨s'', hrow'', hpass''⟩ := (subscriptionGuard_pass_iff hcompany).mp hguard
    obtain rfl : s' = s'' := Option.some.inj (hrow'.symm.trans hrow'')
    rcases (access_pass_iff s').mp hpass'' with ⟨hactive, -⟩ | ⟨htrial, -⟩
    · exact absurd (hincomplete.symm.trans hactive) (by decide)
    · exact absurd (hincomplete.symm.trans htrial) (by decide)

end Calls

/-! ### An abandoned checkout -/

/-- A company that has paid for a year of one plan. -/
def paidTables : BillingTables :=
  { plans := [waitingRow.plan, enterprisePlan], companies := ["company-1"]
    subscriptions := ⟨[(waitingRow.activate paidAt)], by simp⟩, invoices := [] }

def mobileConfig : BillingConfig :=
  { stripeSecretKey := true, production := true, mobileMoneySandbox := false, mvolaApiKey := true
    orangeMoneyApiKey := false }

/-- A checkout of the larger plan. -/
def upgradeCall : CheckoutCall :=
  { dto := { planId := "plan-enterprise", provider := .mvola, mobileMoneyPhone := some "0341234567" }
    now := paidAt + 3600000
    replies := { session := .error (.provider "unused"), payment := .ok "ref-1" } }

/-- A checkout of a plan that does not exist. -/
def unknownPlanCall : CheckoutCall :=
  { upgradeCall with dto := { upgradeCall.dto with planId := "plan-gone" } }

theorem unknownPlan_keeps :
    KeepsPaidAccess (checkoutCalls mobileConfig "company-1" paidTables [unknownPlanCall]) "company-1"
      (waitingRow.activate paidAt) := by
  have hpass : (waitingRow.activate paidAt).access paidAt = .pass := by decide +kernel
  refine (keepsPaidAccess_iff mobileConfig (by decide) rfl hpass ?_).mpr ?_
  · intro call hcall reply hreply
    obtain rfl := List.mem_singleton.mp hcall
    cases hreply
    rfl
  · rintro call hcall ⟨plan, reply, haccepted⟩
    obtain rfl := List.mem_singleton.mp hcall
    have hgone : paidTables.plan "plan-gone" = none := by decide +kernel
    exact absurd (hgone.symm.trans haccepted.hasPlan) (Option.some_ne_none plan).symm

/-- An hour after the payment of a year, a checkout of another plan is started and not paid: the
company is refused. -/
theorem abandoned_checkout_refuses :
    (waitingRow.activate paidAt).access (paidAt + 3600000) = .pass ∧ upgradeCall.Unpaid mobileConfig "company-1" ∧
      (subscriptionGuard (checkoutCalls mobileConfig "company-1" paidTables [upgradeCall])
        newDelivery (paidAt + 7200000)).1 = false ∧
      ¬KeepsPaidAccess (checkoutCalls mobileConfig "company-1" paidTables [upgradeCall]) "company-1"
        (waitingRow.activate paidAt) := by
  have hrefused : (subscriptionGuard (checkoutCalls mobileConfig "company-1" paidTables [upgradeCall])
      newDelivery (paidAt + 7200000)).1 = false := by decide +kernel
  refine ⟨by decide +kernel, ?_, hrefused, ?_⟩
  · intro reply hreply
    cases hreply
    rfl
  · intro hkeeps
    have hend : ∀ stop, (waitingRow.activate paidAt).accessEnd = some stop →
        paidAt + 7200000 ≤ stop := by decide +kernel
    exact absurd (hkeeps.passes newDelivery _ rfl hend) (by rw [hrefused]; decide)

end DeliveryTracking.Billing
