/-
# `DeliveryTracking.Billing.Expiry` — expiry checks around a redemption

The subscription guard and the two crons read the subscriptions, decide which are over and
write `past_due` or `unpaid` later, by id and whatever the row says by then.  A redemption
checks its code and commits later too.  Here each read and each write is a step of its own:

    request, expired, unpaid, redeem    a check, which leaves a task
    write i                             the next write of a task
    wait                                time passes

A redemption survives when no expiry decided before it is still to be written as it commits
(`redemption_survives`); one that is undoes it.
-/
import DeliveryTracking.Billing.Guards
import DeliveryTracking.Billing.PaidDays

namespace DeliveryTracking.Billing

/-! ## Model -/

inductive Lapse where
  | pastDue
  | unpaid
  deriving DecidableEq, Repr

def Lapse.status : Lapse → SubscriptionStatus
  | .pastDue => .pastDue
  | .unpaid => .unpaid

/-- What a check has left to write. -/
inductive Task where
  /-- The rows of these companies lapse, one after the other. -/
  | lapse (lapse : Lapse) (companies : List String)
  | redeem (companyId : String) (proof : PaymentProof) (checkedAt : Int)
  deriving DecidableEq, Repr

/-- The companies whose rows a task will let lapse. -/
def Task.pending : Task → List String
  | .lapse _ companies => companies
  | .redeem _ _ _ => []

inductive ExpiryEvent where
  | wait (ms : Nat)
  | request (req : GuardedRequest)
  | expired
  | unpaid
  | redeem (companyId rawCode : String)
  | write (i : Nat)
  deriving DecidableEq, Repr

structure ExpiryRun where
  db : ManualTables
  now : Int
  tasks : List Task
  /-- The redemptions that have returned: the company, and the end they wrote. -/
  redeemed : List (String × Int)

/-- The write a request is refused after, if the guard decides on one. -/
def guardTask (db : BillingTables) (req : GuardedRequest) (now : Int) : Option Task :=
  req.company.bind fun companyId =>
    ((db.subscription companyId).filter (·.access now == .expired)).map fun _ =>
      .lapse .pastDue [companyId]

/-- The rows `handleExpiredSubscriptions` finds. -/
def expiredTask (db : BillingTables) (now : Int) : Task :=
  .lapse .pastDue ((db.subscriptions.findMany
    fun s => s.status == .active && decide (s.currentPeriodEnd < now)).map Subscription.companyId)

/-- The rows `handleUnpaidSubscriptions` finds. -/
def unpaidTask (db : BillingTables) (now : Int) : Task :=
  .lapse .unpaid ((db.subscriptions.findMany fun s =>
    s.status == .pastDue && decide (s.currentPeriodEnd < now - 7 * 24 * 60 * 60 * 1000)).map
      Subscription.companyId)

def BillingTables.lapse (db : BillingTables) (lapse : Lapse) (companyId : String) : BillingTables :=
  db.update companyId (Subscription.setStatus lapse.status)
    (Subscription.companyId_setStatus lapse.status)

namespace ExpiryRun

def step (sha256 : String → String) (s : ExpiryRun) : ExpiryEvent → Option ExpiryRun
  | .wait ms => some { s with now := s.now + ms }
  | .request req => some { s with tasks := s.tasks ++ (guardTask s.db.billing req s.now).toList }
  | .expired => some { s with tasks := s.tasks ++ [expiredTask s.db.billing s.now] }
  | .unpaid => some { s with tasks := s.tasks ++ [unpaidTask s.db.billing s.now] }
  | .redeem companyId rawCode =>
    match s.db.redeemable sha256 companyId rawCode s.now with
    | .error _ => some s
    | .ok proof => some { s with tasks := s.tasks ++ [.redeem companyId proof s.now] }
  | .write i =>
    match s.tasks[i]? with
    | some (.lapse lapse (companyId :: companies)) =>
      some { s with
        db := { s.db with billing := s.db.billing.lapse lapse companyId }
        tasks := s.tasks.set i (.lapse lapse companies) }
    | some (.redeem companyId proof checkedAt) =>
      some { s with
        db := s.db.commitRedeem companyId proof checkedAt
        tasks := s.tasks.set i (.lapse .pastDue [])
        redeemed := s.redeemed ++ [(companyId, checkedAt + paidSubscriptionDuration)] }
    | _ => none

/-- A redemption commits when no expiry decided for its company is still to be written, and not
with an end before that of an earlier one that still runs. -/
def CommitsClean (s : ExpiryRun) (e : ExpiryEvent) : Prop :=
  ∀ i companyId proof checkedAt, e = .write i →
    s.tasks[i]? = some (.redeem companyId proof checkedAt) →
      (s.now ≤ checkedAt + paidSubscriptionDuration → ∀ task ∈ s.tasks, companyId ∉ task.pending) ∧
      ∀ stop, (companyId, stop) ∈ s.redeemed → s.now ≤ stop →
        stop ≤ checkedAt + paidSubscriptionDuration

/-- Until the end a redemption wrote the row is active and requests of the company pass. -/
def Survives (s : ExpiryRun) : Prop :=
  ∀ c stop, (c, stop) ∈ s.redeemed → s.now ≤ stop →
    ∃ row, s.db.billing.subscription c = some row ∧ row.status = .active ∧
      ∀ req, req.company = some c → (subscriptionGuard s.db.billing req s.now).1 = true

/-- Until the end a redemption wrote the row is active beyond it, and nothing will let it lapse. -/
structure Inv (s : ExpiryRun) : Prop where
  active : ∀ c stop, (c, stop) ∈ s.redeemed → s.now ≤ stop →
    ∃ row, s.db.billing.subscription c = some row ∧ row.status = .active ∧
      stop ≤ row.currentPeriodEnd
  quiet : ∀ c stop, (c, stop) ∈ s.redeemed → s.now ≤ stop → ∀ task ∈ s.tasks, c ∉ task.pending

/-! ## Reads -/

section Reads

variable {db : BillingTables} {req : GuardedRequest} {c : String} {now : Int} {row : Subscription}

theorem guardTask_eq_some {task : Task} (h : guardTask db req now = some task) :
    ∃ c s, req.company = some c ∧ db.subscription c = some s ∧ s.access now = .expired ∧
      task = .lapse .pastDue [c] := by
  obtain ⟨c, hcompany, hrest⟩ := Option.bind_eq_some_iff.mp h
  obtain ⟨s, hs, rfl⟩ := Option.map_eq_some_iff.mp hrest
  obtain ⟨hrow, hexpired⟩ := Option.filter_eq_some_iff.mp hs
  exact ⟨c, s, hcompany, hrow, beq_iff_eq.mp hexpired, rfl⟩

/-- The guard is its check and its write, with nothing in between. -/
theorem subscriptionGuard_eq (db : BillingTables) (req : GuardedRequest) (now : Int) :
    (subscriptionGuard db req now).2 =
      match guardTask db req now with
      | some (.lapse lapse (companyId :: _)) => db.lapse lapse companyId
      | _ => db := by
  unfold subscriptionGuard guardTask
  cases req.company with
  | none => rfl
  | some companyId =>
    dsimp only
    cases hrow : db.subscription companyId with
    | none => simp [hrow]
    | some sub =>
      cases haccess : sub.access now with
      | pass => simp [hrow, haccess]
      | refused => simp [hrow, haccess]
      | expired =>
        have hover : (some sub).filter (·.access now == .expired) = some sub := by
          simp [haccess]
        simp only [hrow, haccess, Option.bind_some, hover, Option.map_some]
        rfl

/-- A company among the rows that are found has a row that was looked for. -/
theorem exists_of_findMany {q : Subscription → Bool}
    (h : c ∈ (db.subscriptions.findMany q).map Subscription.companyId) :
    ∃ s, db.subscription c = some s ∧ q s = true := by
  obtain ⟨s, hs, rfl⟩ := List.mem_map.mp h
  obtain ⟨hmem, hq⟩ := List.mem_filter.mp hs
  exact ⟨s, Table.mem_rows_iff.mp hmem, hq⟩

/-! No check lets an active row lapse before its end. -/

theorem notMem_guardTask (hrow : db.subscription c = some row) (hactive : row.status = .active)
    (hstop : now ≤ row.currentPeriodEnd) {task : Task} (htask : guardTask db req now = some task) :
    c ∉ task.pending := by
  intro hmem
  obtain ⟨c', s, -, hs, hexpired, rfl⟩ := guardTask_eq_some htask
  obtain rfl := List.mem_singleton.mp hmem
  obtain rfl := Option.some.inj (hs.symm.trans hrow)
  have hpass : s.access now = .pass := (access_pass_iff s).mpr (.inl ⟨hactive, hstop⟩)
  rw [hpass] at hexpired
  cases hexpired

theorem notMem_expiredTask (hrow : db.subscription c = some row)
    (hstop : now ≤ row.currentPeriodEnd) : c ∉ (expiredTask db now).pending := by
  intro hmem
  obtain ⟨s, hs, hq⟩ := exists_of_findMany hmem
  obtain rfl := Option.some.inj (hs.symm.trans hrow)
  rw [Bool.and_eq_true, decide_eq_true_iff] at hq
  omega

theorem notMem_unpaidTask (hrow : db.subscription c = some row) (hactive : row.status = .active) :
    c ∉ (unpaidTask db now).pending := by
  intro hmem
  obtain ⟨s, hs, hq⟩ := exists_of_findMany hmem
  obtain rfl := Option.some.inj (hs.symm.trans hrow)
  simp [hactive] at hq

end Reads

/-! ## Steps -/

namespace Inv

variable {s t : ExpiryRun}

/-- A check adds a task that lets no paid row lapse. -/
theorem addTask (h : s.Inv) {task : Task}
    (hquiet : ∀ c row, s.db.billing.subscription c = some row → row.status = .active →
      s.now ≤ row.currentPeriodEnd → c ∉ task.pending) :
    Inv { s with tasks := s.tasks ++ [task] } where
  active := h.active
  quiet c stop hc hle task' htask' := by
    rcases List.mem_append.mp htask' with hold | hnew
    · exact h.quiet c stop hc hle task' hold
    · obtain rfl := List.mem_singleton.mp hnew
      obtain ⟨row, hrow, hactive, hstop⟩ := h.active c stop hc hle
      exact hquiet c row hrow hactive (hle.trans hstop)

theorem wait (h : s.Inv) (ms : Nat) : Inv { s with now := s.now + ms } where
  active c stop hc hle := h.active c stop hc (by dsimp only at hle; omega)
  quiet c stop hc hle := h.quiet c stop hc (by dsimp only at hle; omega)

theorem writeLapse (h : s.Inv) {i : Nat} {lapse : Lapse} {c : String} {cs : List String}
    (htask : s.tasks[i]? = some (.lapse lapse (c :: cs))) :
    Inv { s with
      db := { s.db with billing := s.db.billing.lapse lapse c }
      tasks := s.tasks.set i (.lapse lapse cs) } where
  active c' stop hc' hle := by
    obtain ⟨row, hrow, hrest⟩ := h.active c' stop hc' hle
    have hne : c' ≠ c := by
      rintro rfl
      exact h.quiet c' stop hc' hle _ (List.mem_of_getElem? htask) List.mem_cons_self
    refine ⟨row, ?_, hrest⟩
    show (s.db.billing.lapse lapse c).subscription c' = some row
    rw [BillingTables.lapse, BillingTables.subscription_update, if_neg hne]
    exact hrow
  quiet c' stop hc' hle task' htask' := by
    rcases List.mem_or_eq_of_mem_set htask' with hold | rfl
    · exact h.quiet c' stop hc' hle task' hold
    · intro hmem
      exact h.quiet c' stop hc' hle _ (List.mem_of_getElem? htask) (List.mem_cons_of_mem c hmem)

theorem writeRedeem (h : s.Inv) {i : Nat} {c : String} {proof : PaymentProof} {checkedAt : Int}
    (htask : s.tasks[i]? = some (.redeem c proof checkedAt)) (hclean : s.CommitsClean (.write i)) :
    Inv { s with
      db := s.db.commitRedeem c proof checkedAt
      tasks := s.tasks.set i (.lapse .pastDue [])
      redeemed := s.redeemed ++ [(c, checkedAt + paidSubscriptionDuration)] } := by
  obtain ⟨hnone, hends⟩ := hclean i c proof checkedAt rfl htask
  obtain ⟨row, hrow, hactive, -, -, hstop⟩ :=
    Subscription.paid_redeem c proof.claimedPlan checkedAt (s.db.billing.subscription c)
  have hread : (s.db.commitRedeem c proof checkedAt).billing.subscription c = some row := by
    rw [ManualTables.subscription_commitRedeem, if_pos rfl, hrow]
  have hquiet : ∀ c' : String, (∀ task ∈ s.tasks, c' ∉ task.pending) →
      ∀ task ∈ s.tasks.set i (.lapse .pastDue []), c' ∉ task.pending := by
    intro c' hold
    exact forall_mem_set hold List.not_mem_nil
  constructor
  · intro c' stop hc' hle
    rcases List.mem_append.mp hc' with hold | hnew
    · by_cases hc : c' = c
      · subst hc
        exact ⟨row, hread, hactive, hstop ▸ hends stop hold hle⟩
      · obtain ⟨row', hrow', hrest⟩ := h.active c' stop hold hle
        refine ⟨row', ?_, hrest⟩
        show (s.db.commitRedeem c proof checkedAt).billing.subscription c' = some row'
        rw [ManualTables.subscription_commitRedeem, if_neg hc]
        exact hrow'
    · obtain ⟨rfl, rfl⟩ := Prod.mk.inj (List.mem_singleton.mp hnew)
      exact ⟨row, hread, hactive, hstop.ge⟩
  · intro c' stop hc' hle
    rcases List.mem_append.mp hc' with hold | hnew
    · exact hquiet c' (h.quiet c' stop hold hle)
    · obtain ⟨rfl, rfl⟩ := Prod.mk.inj (List.mem_singleton.mp hnew)
      exact hquiet c' (hnone hle)

theorem step {sha256 : String → String} {e : ExpiryEvent} (h : s.Inv)
    (hstep : Guarded (Steps (ExpiryRun.step sha256)) CommitsClean s e t) : t.Inv := by
  obtain ⟨hstep, hclean⟩ := hstep
  cases e with
  | wait ms =>
    obtain rfl := Option.some.inj hstep
    exact h.wait ms
  | request req =>
    obtain rfl := Option.some.inj hstep
    cases htask : guardTask s.db.billing req s.now with
    | none =>
      rw [Option.toList_none, List.append_nil]
      exact h
    | some task =>
      exact h.addTask fun c row hrow hactive hstop => notMem_guardTask hrow hactive hstop htask
  | expired =>
    obtain rfl := Option.some.inj hstep
    exact h.addTask fun c row hrow _ hstop => notMem_expiredTask hrow hstop
  | unpaid =>
    obtain rfl := Option.some.inj hstep
    exact h.addTask fun c row hrow hactive _ => notMem_unpaidTask hrow hactive
  | redeem companyId rawCode =>
    simp only [Steps, ExpiryRun.step] at hstep
    split at hstep
    · obtain rfl := Option.some.inj hstep
      exact h
    · obtain rfl := Option.some.inj hstep
      exact h.addTask fun _ _ _ _ _ => List.not_mem_nil
  | write i =>
    simp only [Steps, ExpiryRun.step] at hstep
    split at hstep
    · rename_i htask
      obtain rfl := Option.some.inj hstep
      exact h.writeLapse htask
    · rename_i htask
      obtain rfl := Option.some.inj hstep
      exact h.writeRedeem htask hclean
    · cases hstep

theorem survives (h : s.Inv) : s.Survives := by
  intro c stop hc hle
  obtain ⟨row, hrow, hactive, hstop⟩ := h.active c stop hc hle
  refine ⟨row, hrow, hactive, fun req hcompany => ?_⟩
  have hpass : row.access s.now = .pass :=
    (access_pass_iff row).mpr (.inl ⟨hactive, hle.trans hstop⟩)
  exact (subscriptionGuard_pass_iff hcompany).mpr ⟨row, hrow, hpass⟩

end Inv

/-! ## A redemption that is not clean -/

section Unclean

variable {sha256 : String → String} {s t : ExpiryRun} {c : String}

theorem step_lapse {j : Nat} {lapse : Lapse} {cs : List String}
    (htask : s.tasks[j]? = some (.lapse lapse (c :: cs))) :
    step sha256 s (.write j) = some { s with
      db := { s.db with billing := s.db.billing.lapse lapse c }
      tasks := s.tasks.set j (.lapse lapse cs) } := by
  simp only [step, htask]

/-- A row that is to lapse does, once the task gets to it. -/
theorem lapses {j : Nat} {lapse : Lapse} {cs : List String}
    (htask : s.tasks[j]? = some (.lapse lapse cs)) (hmem : c ∈ cs) :
    ∃ es t, Run (Steps (step sha256)) s es t ∧ t.now = s.now ∧ t.redeemed = s.redeemed ∧
      ∀ row, t.db.billing.subscription c = some row → row.status = lapse.status := by
  induction cs generalizing s with
  | nil => exact absurd hmem List.not_mem_nil
  | cons c' cs ih =>
    have hstep : step sha256 s (.write j) = some _ := step_lapse htask
    by_cases hc : c = c'
    · subst hc
      refine ⟨[.write j], _, .single hstep, rfl, rfl, fun row hrow => ?_⟩
      have hread : (s.db.billing.lapse lapse c).subscription c = some row := hrow
      rw [BillingTables.lapse, BillingTables.subscription_update, if_pos rfl] at hread
      obtain ⟨old, -, rfl⟩ := Option.map_eq_some_iff.mp hread
      rfl
    · have hlt : j < s.tasks.length := (List.getElem?_eq_some_iff.mp htask).1
      obtain ⟨es, t, hrun, hrest⟩ := ih
        (s := { s with
          db := { s.db with billing := s.db.billing.lapse lapse c' }
          tasks := s.tasks.set j (.lapse lapse cs) })
        (List.getElem?_set_self hlt) ((List.mem_cons.mp hmem).resolve_left hc)
      exact ⟨.write j :: es, t, .cons hstep hrun, hrest⟩

/-- An expiry that is still to be written undoes the redemption. -/
theorem undone_by_task {stop : Int} (hc : (c, stop) ∈ s.redeemed) (hle : s.now ≤ stop) {task : Task}
    (htask : task ∈ s.tasks) (hpending : c ∈ task.pending) :
    ∃ es t, Run (Steps (step sha256)) s es t ∧ ¬t.Survives := by
  cases task with
  | redeem companyId proof checkedAt => exact absurd hpending List.not_mem_nil
  | lapse lapse cs =>
    obtain ⟨j, hj⟩ := List.getElem?_of_mem htask
    obtain ⟨es, t, hrun, hnow, hredeemed, hlapsed⟩ := lapses hj hpending
    refine ⟨es, t, hrun, fun hsurvives => ?_⟩
    obtain ⟨row, hrow, hactive, -⟩ := hsurvives c stop (hredeemed ▸ hc) (hnow ▸ hle)
    have hstatus := (hlapsed row hrow).symm.trans hactive
    cases lapse <;> cases hstatus

/-- A row whose period ends before the end a redemption wrote is refused in between. -/
theorem undone_by_end {stop : Int} (hc : (c, stop) ∈ s.redeemed) (hle : s.now ≤ stop) (hne : c ≠ "")
    {row : Subscription} (hrow : s.db.billing.subscription c = some row)
    (hlt : row.currentPeriodEnd < stop) :
    ∃ es t, Run (Steps (step sha256)) s es t ∧ ¬t.Survives := by
  refine ⟨[.wait (stop - s.now).toNat], _, .single rfl, fun hsurvives => ?_⟩
  have hnow : s.now + (stop - s.now).toNat = stop := by omega
  obtain ⟨row', hrow', hactive, hpasses⟩ := hsurvives c stop hc hnow.le
  let req : GuardedRequest := ⟨false, some ⟨false, some c⟩, "", "GET"⟩
  have hcompany : req.company = some c := present_of_ne hne
  obtain ⟨row'', hrow'', hpass⟩ := (subscriptionGuard_pass_iff hcompany).mp (hpasses req hcompany)
  obtain rfl : row = row'' := Option.some.inj (hrow.symm.trans hrow'')
  obtain rfl : row = row' := Option.some.inj (hrow.symm.trans hrow')
  rcases (access_pass_iff row).mp hpass with ⟨-, hstop⟩ | ⟨htrial, -⟩
  · dsimp only at hstop
    omega
  · rw [hactive] at htrial
    cases htrial

theorem undone {i : Nat} {proof : PaymentProof} {checkedAt : Int}
    (htask : s.tasks[i]? = some (.redeem c proof checkedAt)) (hne : c ≠ "")
    (hstep : step sha256 s (.write i) = some t) (hunclean : ¬s.CommitsClean (.write i)) :
    ∃ es u, Run (Steps (step sha256)) t es u ∧ ¬u.Survives := by
  simp only [step, htask] at hstep
  obtain rfl := Option.some.inj hstep
  have hnew : (c, checkedAt + paidSubscriptionDuration) ∈
      s.redeemed ++ [(c, checkedAt + paidSubscriptionDuration)] :=
    List.mem_append_right _ (List.mem_singleton_self _)
  by_cases hpending : s.now ≤ checkedAt + paidSubscriptionDuration ∧
      ∃ task ∈ s.tasks, c ∈ task.pending
  · obtain ⟨hle, task, hmem, hpending⟩ := hpending
    -- the task that commits is the redemption, so the one that lets the row lapse stays
    obtain ⟨j, hj⟩ := List.getElem?_of_mem hmem
    have hij : i ≠ j := by
      rintro rfl
      rw [htask] at hj
      obtain rfl := Option.some.inj hj
      exact absurd hpending List.not_mem_nil
    have hstays : task ∈ s.tasks.set i (.lapse .pastDue []) :=
      List.mem_of_getElem? ((List.getElem?_set_ne hij).trans hj)
    exact undone_by_task hnew hle hstays hpending
  · have hends : ∃ stop, (c, stop) ∈ s.redeemed ∧ s.now ≤ stop ∧
        checkedAt + paidSubscriptionDuration < stop := by
      by_contra hnone
      push Not at hnone hpending
      refine hunclean ?_
      intro i' c' proof' checkedAt' he htask'
      obtain rfl := ExpiryEvent.write.inj he
      obtain ⟨rfl, rfl, rfl⟩ := Task.redeem.inj (Option.some.inj (htask.symm.trans htask'))
      exact ⟨hpending, hnone⟩
    obtain ⟨stop, hold, hle, hlt⟩ := hends
    obtain ⟨row, hrow, -, -, -, hstop⟩ :=
      Subscription.paid_redeem c proof.claimedPlan checkedAt (s.db.billing.subscription c)
    have hread : (s.db.commitRedeem c proof checkedAt).billing.subscription c = some row := by
      rw [ManualTables.subscription_commitRedeem, if_pos rfl, hrow]
    exact undone_by_end (List.mem_append_left _ hold) hle hne hread (hstop ▸ hlt)

end Unclean

/-- In a run whose redemptions commit cleanly each of them survives; one that does not commit
cleanly can be undone by what follows. -/
theorem redemption_survives (sha256 : String → String) :
    (∀ s es t, Run (Guarded (Steps (step sha256)) CommitsClean) s es t → s.redeemed = [] →
      t.Survives) ∧
    ∀ s t i c proof checkedAt, s.tasks[i]? = some (.redeem c proof checkedAt) → c ≠ "" →
      step sha256 s (.write i) = some t → ¬s.CommitsClean (.write i) →
        ∃ es u, Run (Steps (step sha256)) t es u ∧ ¬u.Survives := by
  refine ⟨fun s es t hrun hnone => ?_, fun s t i c proof checkedAt htask hne hstep hunclean => ?_⟩
  · have hstart : s.Inv := by
      constructor
      · intro c stop hc
        rw [hnone] at hc
        exact absurd hc List.not_mem_nil
      · intro c stop hc
        rw [hnone] at hc
        exact absurd hc List.not_mem_nil
    have hinv : t.Inv := hrun.invariant (I := Inv) (fun h hstep => h.step hstep) hstart
    exact hinv.survives
  · exact undone htask hne hstep hunclean

end ExpiryRun

/-! ### A request around a redemption -/

/-- A company whose trial is over holds a code. -/
def trialOver : ExpiryRun :=
  { db := {
      proofs := twoCodes.proofs
      billing := {
        plans := [enterprisePlan], companies := ["company-1"]
        subscriptions := ⟨[trialRow "company-1" enterprisePlan (paidAt - 2 * trialDuration)], by simp⟩
        invoices := [] } }
    now := paidAt, tasks := [], redeemed := [] }

/-- The code is redeemed, a minute later a request comes. -/
def redeemThenRequest : List ExpiryEvent :=
  [.redeem "company-1" "PAY-AAAA2222", .write 0, .wait 60000, .request newDelivery]

theorem redeemThenRequest_survives : ∃ t,
    Run (Steps (ExpiryRun.step id)) trialOver redeemThenRequest t ∧ t.redeemed.length = 1 ∧
      t.Survives := by
  have hother : ∀ (s : ExpiryRun) e, (∀ i, e ≠ .write i) → s.CommitsClean e :=
    fun s e hnot i _ _ _ he => absurd he (hnot i)
  obtain ⟨t, hrun, hone⟩ : ∃ t, Run (Guarded (Steps (ExpiryRun.step id)) ExpiryRun.CommitsClean)
      trialOver redeemThenRequest t ∧ t.redeemed.length = 1 := by
    refine ⟨_, .cons ⟨rfl, hother _ _ (by simp)⟩ (.cons ⟨rfl, ?_⟩
      (.cons ⟨rfl, hother _ _ (by simp)⟩ (.cons ⟨rfl, hother _ _ (by simp)⟩ (.nil _)))), rfl⟩
    intro i c proof checkedAt he htask
    refine ⟨fun _ task hmem => ?_, fun stop hmem => absurd hmem List.not_mem_nil⟩
    obtain rfl := List.mem_singleton.mp hmem
    exact List.not_mem_nil
  exact ⟨t, hrun.of_guarded, hone, (ExpiryRun.redemption_survives id).1 _ _ _ hrun rfl⟩

/-- A request finds the trial over, the code is redeemed, and then the request writes what it
decided: the company that has paid is past due and refused. -/
theorem request_undoes_redemption : ∃ t,
    Run (Steps (ExpiryRun.step id)) trialOver
        [.request newDelivery, .redeem "company-1" "PAY-AAAA2222", .write 1, .write 0] t ∧
      t.redeemed = [("company-1", paidAt + paidSubscriptionDuration)] ∧ t.now = paidAt ∧
      (t.db.billing.subscription "company-1").map Subscription.status = some .pastDue ∧
      (subscriptionGuard t.db.billing newDelivery t.now).1 = false ∧ ¬t.Survives := by
  have hend : ([ExpiryEvent.request newDelivery, .redeem "company-1" "PAY-AAAA2222", .write 1,
      .write 0].foldlM (ExpiryRun.step id) trialOver).any
      (fun t => t.redeemed == [("company-1", paidAt + paidSubscriptionDuration)] &&
        (t.now == paidAt &&
          ((t.db.billing.subscription "company-1").map Subscription.status == some .pastDue &&
            (subscriptionGuard t.db.billing newDelivery t.now).1 == false))) = true := by
    decide +kernel
  obtain ⟨t, hrun, ht⟩ := Run.of_foldlM_any hend
  simp only [Bool.and_eq_true, beq_iff_eq] at ht
  obtain ⟨hredeemed, hnow, hstatus, hrefused⟩ := ht
  refine ⟨t, hrun, hredeemed, hnow, hstatus, hrefused, fun hsurvives => ?_⟩
  have hmem : ("company-1", paidAt + paidSubscriptionDuration) ∈ t.redeemed := by
    rw [hredeemed]
    exact List.mem_singleton_self _
  obtain ⟨row, hrow, hactive, -⟩ := hsurvives _ _ hmem (by rw [hnow]; decide)
  rw [hrow, Option.map_some, hactive] at hstatus
  cases hstatus

end DeliveryTracking.Billing
