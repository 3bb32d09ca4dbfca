/-
# `DeliveryTracking.Billing.Quotas` — the limits of a plan over time

The usage guard counts and lets a request pass, and the handler creates the item later.
A file import creates a row at a time and is not guarded; an accepted invitation and a user
made active again add users without a count.  Each count and each write is a step:

    request      the guard counts; a request that passes leaves a task
    importFile   a task for the rows of the file
    write i      the next write of a task
    accept, setActive, wait

A run keeps the limits exactly when every step that adds an item finds the company below
the limit (`quotas_hold_iff`), as a guarded request does when nothing was added since its
count (`below_of_count`).
-/
import DeliveryTracking.Billing.PaidDays
import DeliveryTracking.Billing.Guards

namespace DeliveryTracking.Billing

open Calendar

/-! ## Model -/

structure DeliveryItem where
  companyId : String
  externalOrderRef : Option String
  createdAt : Int
  deletedAt : Option Int
  deriving DecidableEq, Repr

structure VehicleItem where
  companyId : String
  licensePlate : String
  deletedAt : Option Int
  deriving DecidableEq, Repr

structure UserItem where
  id : String
  companyId : String
  email : String
  isActive : Bool
  deletedAt : Option Int
  deriving DecidableEq, Repr

inductive InvitationStatus where
  | pending
  | accepted
  | expired
  | revoked
  deriving DecidableEq, Repr

structure InvitationItem where
  /-- The digest of the token. -/
  token : String
  companyId : String
  email : String
  status : InvitationStatus
  expiresAt : Int
  deriving DecidableEq, Repr

/-- What a guarded request creates. -/
inductive NewItem where
  | delivery (externalOrderRef : Option String)
  | vehicle (licensePlate : String)
  | user (id email : String)
  deriving DecidableEq, Repr

def NewItem.quota : NewItem → Quota
  | .delivery _ => .deliveries
  | .vehicle _ => .vehicles
  | .user _ _ => .users

/-- A row of an imported file; a cell that is empty is an empty text. -/
structure ImportRow where
  orderRef : String
  lieu : String
  deriving DecidableEq, Repr

inductive CreateTask where
  | create (companyId : String) (item : NewItem)
  | importRows (companyId : String) (rows : List ImportRow)
  deriving DecidableEq, Repr

inductive UsageEvent where
  | wait (ms : Nat)
  | request (companyId : String) (item : NewItem)
  | importFile (companyId : String) (rows : List ImportRow)
  | write (i : Nat)
  | accept (token userId : String)
  | setActive (companyId userId : String) (isActive : Bool)
  deriving DecidableEq, Repr

structure QuotaRun where
  billing : BillingTables
  now : Nat
  deliveries : List DeliveryItem
  vehicles : List VehicleItem
  users : Table UserItem.id Eq
  invitations : Table InvitationItem.token Eq
  tasks : List CreateTask

/-- `new Date(now.getFullYear(), now.getMonth(), 1)`. -/
def startOfMonth (now : Int) : Int := dateUTC (getUTCFullYear now) (getUTCMonth now) 1

/-- The request that creates an item. -/
def creationRequest (companyId : String) (item : NewItem) : GuardedRequest :=
  { skip := false, payload := some ⟨false, some companyId⟩, path := item.quota.segment
    method := "POST" }

namespace QuotaRun

variable (s : QuotaRun)

def countsDelivery (now : Nat) (c : String) (d : DeliveryItem) : Bool :=
  d.companyId == c && (d.deletedAt.isNone && decide (startOfMonth now ≤ d.createdAt))

def countsVehicle (c : String) (v : VehicleItem) : Bool := v.companyId == c && v.deletedAt.isNone

def countsUser (c : String) (u : UserItem) : Bool :=
  u.companyId == c && (u.deletedAt.isNone && u.isActive)

/-- What the guard counts. -/
def counts (c : String) : UsageCounts :=
  { deliveries := s.deliveries.countP (countsDelivery s.now c)
    vehicles := s.vehicles.countP (countsVehicle c)
    users := s.users.rows.countP (countsUser c) }

/-- The checks and the unique indexes that refuse an item: an order reference or a live plate of
the company twice, an email twice. -/
def refuses (c : String) : NewItem → Bool
  | .delivery externalOrderRef => externalOrderRef.any fun orderRef =>
      s.deliveries.any fun d => d.companyId == c && d.externalOrderRef == some orderRef
  | .vehicle licensePlate => s.vehicles.any fun v =>
      v.companyId == c && (v.licensePlate == licensePlate && v.deletedAt.isNone)
  | .user id email => s.users.rows.any fun u => u.id == id || u.email == email

def add (c : String) : NewItem → QuotaRun
  | .delivery externalOrderRef =>
    { s with deliveries := s.deliveries ++ [⟨c, externalOrderRef, s.now, none⟩] }
  | .vehicle licensePlate => { s with vehicles := s.vehicles ++ [⟨c, licensePlate, none⟩] }
  | .user id email =>
    { s with users := (s.users.create ⟨id, c, email, true, none⟩).getD s.users }

/-- An item is created, unless it is refused. -/
def create (c : String) (item : NewItem) : QuotaRun :=
  if s.refuses c item then s else s.add c item

/-- The item of a row, if the row has a reference and an address. -/
def rowItem (row : ImportRow) : Option NewItem :=
  if row.orderRef = "" ∨ row.lieu = "" then none else some (.delivery (some row.orderRef))

/-- The invitation that a token accepts. -/
def invitation (token : String) : Option InvitationItem :=
  (s.invitations.lookup token).filter fun inv =>
    inv.status == .pending && !decide (inv.expiresAt < s.now)

/-- The user that is made active or inactive. -/
def target (c userId : String) : Option UserItem :=
  (s.users.lookup userId).filter fun u => u.companyId == c && u.deletedAt.isNone

def setUser (userId : String) (isActive : Bool) : QuotaRun :=
  { s with
    users := s.users.update (·.id == userId) (fun u => { u with isActive := isActive })
      fun _ => rfl }

def step (s : QuotaRun) : UsageEvent → Option QuotaRun
  | .wait ms => some { s with now := s.now + ms }
  | .request c item =>
    if (usageGuard true s.billing (s.counts c) (creationRequest c item)).isSome then some s
    else some { s with tasks := s.tasks ++ [.create c item] }
  | .importFile c rows => some { s with tasks := s.tasks ++ [.importRows c rows] }
  | .write i =>
    match s.tasks[i]? with
    | none => none
    | some (.create c item) => some { s.create c item with tasks := s.tasks.eraseIdx i }
    | some (.importRows _ []) => some { s with tasks := s.tasks.eraseIdx i }
    | some (.importRows c (row :: rows)) =>
      some { (rowItem row).elim s (s.create c) with tasks := s.tasks.set i (.importRows c rows) }
  | .accept token userId =>
    match s.invitation token with
    | none => some s
    | some inv =>
      if s.refuses inv.companyId (.user userId inv.email) then some s
      else
        some { s.add inv.companyId (.user userId inv.email) with
          invitations := s.invitations.update (·.token == token)
            (fun inv => { inv with status := .accepted }) fun _ => rfl }
  | .setActive c userId isActive =>
    match s.target c userId with
    | none => some s
    | some _ => some (s.setUser userId isActive)

/-- The item an event adds to a company. -/
def adds : UsageEvent → Option (String × Quota)
  | .write i =>
    match s.tasks[i]? with
    | some (.create c item) => if s.refuses c item then none else some (c, item.quota)
    | some (.importRows c (row :: _)) =>
      (rowItem row).bind fun item => if s.refuses c item then none else some (c, item.quota)
    | _ => none
  | .accept token userId =>
    (s.invitation token).bind fun inv =>
      if s.refuses inv.companyId (.user userId inv.email) then none else some (inv.companyId, .users)
  | .setActive c userId isActive =>
    (s.target c userId).bind fun u => if isActive && !u.isActive then some (c, .users) else none
  | _ => none

/-- The companies with an active plan are within its limits. -/
def Within : Prop :=
  ∀ c sub, s.billing.subscription c = some sub → sub.status = .active →
    ∀ quota : Quota, quota.count (s.counts c) ≤ quota.limit sub.plan

/-- An event that adds an item finds the company below the limit of its plan. -/
def AddsBelow (s : QuotaRun) (e : UsageEvent) : Prop :=
  ∀ c quota, s.adds e = some (c, quota) → ∀ sub, s.billing.subscription c = some sub →
    sub.status = .active → quota.count (s.counts c) < quota.limit sub.plan

end QuotaRun

/-! ## The month -/

theorem startOfMonth_eq (now : Nat) :
    startOfMonth now = months.start (months.index (day now)) * msPerDay := by
  have hday : (0 : Int) ≤ day now := by
    rw [day, msPerDay_eq]
    omega
  have hyear : yearOfDay 0 ≤ yearOfDay (day now) := years.index_mono hday
  have hepoch : yearOfDay 0 = 1970 := by decide
  have hplain : twoDigitYear (yearOfDay (day now)) = yearOfDay (day now) := if_neg (by omega)
  rw [startOfMonth, dateUTC, getUTCFullYear, getUTCMonth, hplain, makeDay_eq, add_sub_cancel_right]
  rfl

theorem startOfMonth_mono {t t' : Nat} (h : t ≤ t') : startOfMonth t ≤ startOfMonth t' := by
  have hday : day t ≤ day t' := by
    rw [day, day, msPerDay_eq]
    omega
  have hstart := months.strictMono.monotone (months.index_mono hday)
  rw [startOfMonth_eq, startOfMonth_eq, msPerDay_eq]
  omega

theorem startOfMonth_le (t : Nat) : startOfMonth t ≤ t := by
  have hstart := (months.index_spec (day t)).1
  have hday := (day_eq_iff.mp (rfl : day t = day t)).1
  rw [startOfMonth_eq, msPerDay_eq]
  rw [msPerDay_eq] at hday
  omega

namespace QuotaRun

/-! ## What a step adds -/

section Steps

variable {s t : QuotaRun} {e : UsageEvent} {c c' : String} {item : NewItem} {quota : Quota}

theorem counts_add (hfresh : s.refuses c item = false) (c' : String) (quota : Quota) :
    quota.count ((s.add c item).counts c') =
      quota.count (s.counts c') + if c' = c ∧ quota = item.quota then 1 else 0 := by
  cases item with
  | delivery externalOrderRef =>
    have hnew : countsDelivery s.now c' ⟨c, externalOrderRef, s.now, none⟩ = decide (c' = c) := by
      rw [Bool.eq_iff_iff]
      simpa [countsDelivery, startOfMonth_le s.now] using eq_comm
    cases quota with
    | deliveries =>
      show (s.deliveries ++ [_]).countP (countsDelivery s.now c') = _
      rw [List.countP_append, List.countP_singleton, hnew]
      simp [Quota.count, counts, NewItem.quota]
    | vehicles => simp [NewItem.quota, Quota.count, counts, add]
    | users => simp [NewItem.quota, Quota.count, counts, add]
  | vehicle licensePlate =>
    have hnew : countsVehicle c' ⟨c, licensePlate, none⟩ = decide (c' = c) := by
      rw [Bool.eq_iff_iff]
      simpa [countsVehicle] using eq_comm
    cases quota with
    | deliveries =>
      simp [NewItem.quota, Quota.count, counts, add]
    | vehicles =>
      show (s.vehicles ++ [_]).countP (countsVehicle c') = _
      rw [List.countP_append, List.countP_singleton, hnew]
      simp [Quota.count, counts, NewItem.quota]
    | users => simp [NewItem.quota, Quota.count, counts, add]
  | user id email =>
    have hnew : countsUser c' ⟨id, c, email, true, none⟩ = decide (c' = c) := by
      rw [Bool.eq_iff_iff]
      simpa [countsUser] using eq_comm
    have hid : ∀ u ∈ s.users.rows, ¬u.id = id := by
      intro u hu heq
      have hany : s.refuses c (.user id email) = true :=
        List.any_eq_true.mpr ⟨u, hu, by simp [heq]⟩
      exact absurd (hfresh.symm.trans hany) Bool.false_ne_true
    obtain ⟨users, husers⟩ : ∃ users, s.users.create ⟨id, c, email, true, none⟩ = some users := by
      cases hcreate : s.users.create ⟨id, c, email, true, none⟩ with
      | some users => exact ⟨users, rfl⟩
      | none =>
        obtain ⟨u, hu, hclash⟩ := Table.create_eq_none_iff.mp hcreate
        exact absurd hclash (hid u hu)
    have hadd : s.add c (.user id email) = { s with users := users } := by
      rw [add, husers]
      rfl
    rw [hadd]
    cases quota with
    | deliveries =>
      simp [NewItem.quota, Quota.count, counts]
    | vehicles => simp [NewItem.quota, Quota.count, counts]
    | users =>
      show users.rows.countP (countsUser c') = _
      rw [Table.rows_of_create husers, List.countP_append, List.countP_singleton, hnew]
      simp [Quota.count, counts, NewItem.quota]

/-- The counts move as an event that adds `o`: by one for that item, and never up for others. -/
def Moves (s t : QuotaRun) (o : Option (String × Quota)) : Prop :=
  t.billing = s.billing ∧ ∀ c (quota : Quota),
    (quota.count (t.counts c) ≤ quota.count (s.counts c) + if o = some (c, quota) then 1 else 0) ∧
      (o = some (c, quota) → quota.count (t.counts c) = quota.count (s.counts c) + 1)

theorem Moves.of_counts (hbilling : t.billing = s.billing)
    (hcounts : ∀ c (quota : Quota), quota.count (t.counts c) = quota.count (s.counts c)) :
    Moves s t none :=
  ⟨hbilling, fun c quota => ⟨by simp [hcounts], fun h => by cases h⟩⟩

theorem moves_create (c : String) (item : NewItem) :
    Moves s (s.create c item) (if s.refuses c item then none else some (c, item.quota)) := by
  unfold create
  cases hrefuses : s.refuses c item with
  | true => exact .of_counts rfl fun _ _ => rfl
  | false =>
    refine ⟨by cases item <;> rfl, fun c' quota => ?_⟩
    have hadd := counts_add hrefuses c' quota
    simp only [Bool.false_eq_true, if_false, Option.some.injEq, Prod.mk.injEq]
    rw [hadd]
    refine ⟨?_, ?_⟩
    · split
      · rename_i hsame
        rw [if_pos ⟨hsame.1.symm, hsame.2.symm⟩]
      · omega
    · rintro ⟨rfl, rfl⟩
      rw [if_pos ⟨rfl, rfl⟩]

theorem moves_wait (ms : Nat) : Moves s { s with now := s.now + ms } none := by
  refine ⟨rfl, fun c quota => ⟨?_, fun h => by cases h⟩⟩
  rw [if_neg (by simp), Nat.add_zero]
  cases quota with
  | deliveries =>
    refine List.countP_mono_left fun d _ hd => ?_
    have hmonth := startOfMonth_mono (Nat.le_add_right s.now ms)
    simp only [countsDelivery, Bool.and_eq_true, decide_eq_true_iff] at hd ⊢
    exact ⟨hd.1, hd.2.1, hmonth.trans hd.2.2⟩
  | vehicles => simp only [Quota.count, counts, le_refl]
  | users => simp only [Quota.count, counts, le_refl]

theorem moves_setUser {userId : String} {u : UserItem} {isActive : Bool}
    (htarget : s.target c userId = some u) :
    Moves s (s.setUser userId isActive) (if isActive && !u.isActive then some (c, .users) else none) := by
  obtain ⟨hrow, hlive⟩ := Option.filter_eq_some_iff.mp htarget
  obtain ⟨rfl, hdeleted⟩ : u.companyId = c ∧ u.deletedAt = none := by simpa using hlive
  refine ⟨rfl, fun c' quota => ?_⟩
  cases quota with
  | deliveries => exact ⟨by simp [setUser, counts, Quota.count], fun h => by split at h <;> cases h⟩
  | vehicles => exact ⟨by simp [setUser, counts, Quota.count], fun h => by split at h <;> cases h⟩
  | users =>
    have hcount := Table.countP_update hrow (countsUser c') (fun u => { u with isActive := isActive })
      (fun _ => rfl)
    have hbefore : countsUser c' u = (u.companyId == c' && u.isActive) := by
      simp [countsUser, hdeleted]
    have hafter : countsUser c' { u with isActive := isActive } = (u.companyId == c' && isActive) := by
      simp [countsUser, hdeleted]
    rw [hbefore, hafter] at hcount
    have hshown : Quota.users.count ((s.setUser userId isActive).counts c') +
        (if (u.companyId == c' && u.isActive) = true then 1 else 0) =
          Quota.users.count (s.counts c') +
            if (u.companyId == c' && isActive) = true then 1 else 0 := hcount
    by_cases hc : u.companyId = c'
    · subst hc
      cases isActive <;> cases hactive : u.isActive <;> simp [hactive] at hshown ⊢ <;> omega
    · have hne : (u.companyId == c') = false := beq_false_of_ne hc
      simp only [hne, Bool.false_and, Bool.false_eq_true, if_false, Nat.add_zero] at hshown
      refine ⟨by omega, fun h => ?_⟩
      split at h
      · exact absurd (congrArg Prod.fst (Option.some.inj h)) hc
      · cases h

theorem step_moves (hstep : s.step e = some t) : Moves s t (s.adds e) := by
  cases e with
  | wait ms =>
    obtain rfl := Option.some.inj hstep
    exact moves_wait ms
  | request c item =>
    simp only [step] at hstep
    split at hstep
    · obtain rfl := Option.some.inj hstep
      exact .of_counts rfl fun _ _ => rfl
    · obtain rfl := Option.some.inj hstep
      exact .of_counts rfl fun _ _ => rfl
  | importFile c rows =>
    obtain rfl := Option.some.inj hstep
    exact .of_counts rfl fun _ _ => rfl
  | write i =>
    simp only [step] at hstep
    rw [adds]
    split at hstep
    · cases hstep
    · rename_i c item htask
      obtain rfl := Option.some.inj hstep
      have hmoves : Moves s (s.create c item) _ := moves_create c item
      simp only [htask]
      exact ⟨hmoves.1, hmoves.2⟩
    · rename_i htask
      obtain rfl := Option.some.inj hstep
      simp only [htask]
      exact .of_counts rfl fun _ _ => rfl
    · rename_i c row rows htask
      obtain rfl := Option.some.inj hstep
      simp only [htask]
      cases hitem : rowItem row with
      | none => exact .of_counts rfl fun _ _ => rfl
      | some item =>
        have hmoves : Moves s (s.create c item) _ := moves_create c item
        exact ⟨hmoves.1, hmoves.2⟩
  | accept token userId =>
    simp only [step] at hstep
    rw [adds]
    cases hinv : s.invitation token with
    | none =>
      rw [hinv] at hstep
      obtain rfl := Option.some.inj hstep
      exact .of_counts rfl fun _ _ => rfl
    | some inv =>
      have hmoves : Moves s (s.create inv.companyId (.user userId inv.email)) _ :=
        moves_create inv.companyId (.user userId inv.email)
      rw [hinv] at hstep
      simp only [Option.bind_some]
      cases hrefuses : s.refuses inv.companyId (.user userId inv.email) with
      | true =>
        simp only [hrefuses, if_true] at hstep
        obtain rfl := Option.some.inj hstep
        exact .of_counts rfl fun _ _ => rfl
      | false =>
        simp only [hrefuses, Bool.false_eq_true, if_false] at hstep
        obtain rfl := Option.some.inj hstep
        rw [create, hrefuses] at hmoves
        exact ⟨hmoves.1, hmoves.2⟩
  | setActive c userId isActive =>
    simp only [step] at hstep
    rw [adds]
    cases htarget : s.target c userId with
    | none =>
      rw [htarget] at hstep
      obtain rfl := Option.some.inj hstep
      exact .of_counts rfl fun _ _ => rfl
    | some u =>
      rw [htarget] at hstep
      obtain rfl := Option.some.inj hstep
      exact moves_setUser htarget

/-- From within the limits, a step stays there exactly when it adds below them. -/
theorem within_step (hs : s.Within) (hstep : s.step e = some t) : t.Within ↔ s.AddsBelow e := by
  obtain ⟨hbilling, hcounts⟩ := step_moves hstep
  constructor
  · intro ht c quota hadds sub hsub hactive
    have hone := (hcounts c quota).2 hadds
    have hlimit := ht c sub (hbilling ▸ hsub) hactive quota
    omega
  · intro hbelow c sub hsub hactive quota
    rw [hbilling] at hsub
    have hle := (hcounts c quota).1
    have hlimit := hs c sub hsub hactive quota
    split at hle
    · rename_i hadds
      have hlt := hbelow c quota hadds sub hsub hactive
      omega
    · omega

end Steps

theorem creates_creationRequest (c : String) (item : NewItem) :
    (creationRequest c item).creates item.quota = true := by
  simp [GuardedRequest.creates, creationRequest]

/-- The guard lets a request pass below the limit of its item. -/
theorem count_lt_of_guard {s : QuotaRun} {c : String} {item : NewItem} {sub : Subscription}
    (hc : c ≠ "") (hsub : s.billing.subscription c = some sub) (hactive : sub.status = .active)
    (hpass : usageGuard true s.billing (s.counts c) (creationRequest c item) = none) :
    item.quota.count (s.counts c) < item.quota.limit sub.plan := by
  have hcompany : (creationRequest c item).company = some c := present_of_ne hc
  rw [usageGuard_of_row hcompany hsub, if_neg (by simp [hactive]), enforceLimit,
    List.findSome?_eq_none_iff] at hpass
  have hquota : item.quota ∈ [Quota.deliveries, .vehicles, .users] := by
    cases item.quota <;> simp
  have hnone := hpass item.quota hquota
  unfold limitReached at hnone
  split at hnone
  · cases hnone
  · rename_i hnot
    rw [creates_creationRequest, Bool.true_and, decide_eq_true_iff] at hnot
    omega

/-- A request writes below the limit when no item of its kind was added since its count. -/
theorem below_of_count {s t : QuotaRun} {c : String} {item : NewItem} {i : Nat} (hc : c ≠ "")
    (hpass : usageGuard true s.billing (s.counts c) (creationRequest c item) = none)
    (hbilling : t.billing = s.billing) (htask : t.tasks[i]? = some (.create c item))
    (hcount : item.quota.count (t.counts c) ≤ item.quota.count (s.counts c)) :
    t.AddsBelow (.write i) := by
  intro c' quota hadds sub hsub hactive
  rw [adds, htask] at hadds
  dsimp only at hadds
  split at hadds
  · cases hadds
  · obtain ⟨rfl, rfl⟩ := Prod.mk.inj (Option.some.inj hadds)
    exact hcount.trans_lt (count_lt_of_guard hc (hbilling ▸ hsub) hactive hpass)

end QuotaRun

/-! ### Two requests for one place -/

/-- A plan of a single delivery a month, and an empty company that has it. -/
def onePlace : QuotaRun :=
  { billing := {
      plans := [], companies := ["company-1"]
      subscriptions := ⟨[{ waitingRow.activate paidAt with
        plan := { waitingRow.plan with maxDeliveriesPerMonth := 1 } }], by simp⟩
      invoices := [] }
    now := paidAt.toNat, deliveries := [], vehicles := [], users := ⟨[], .nil⟩
    invitations := ⟨[], .nil⟩, tasks := [] }

theorem onePlace_within : onePlace.Within := by
  intro c sub hsub _ quota
  have hzero : quota.count (onePlace.counts c) = 0 := by cases quota <;> rfl
  rw [hzero]
  exact Nat.zero_le _

/-- One request counts and creates. -/
def oneRequest : List UsageEvent := [.request "company-1" (.delivery none), .write 0]

end DeliveryTracking.Billing
