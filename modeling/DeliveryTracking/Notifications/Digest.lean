/-
# `DeliveryTracking.Notifications.Digest` — the daily and the weekly digest

A digest run takes its window from the time it starts, reads the companies once
with their admins and dispatchers, and then makes a digest company by company:

    read    the notifications of the window that no digest has marked
    email   to each recipient; a failure is logged and the loop goes on
    mark    `digestSentAt` on all that were read

Runs of both kinds start at any time, run side by side and may stop anywhere.  A
notification is accounted for (`Accounts`) when it is in the window of a run that
started after its creation, once both kinds have, and is marked only if a digest
that counts it went out to every recipient.  A run of the jobs accounts for all of
them just when its starts leave none behind and its marks follow emails that were
sent (`accounts_iff`).
-/
import DeliveryTracking.Calendar
import DeliveryTracking.Fleet.Services
import DeliveryTracking.Reports.Reports
import DeliveryTracking.Runs

namespace DeliveryTracking.Notifications

open Calendar (setUTCDate getUTCDate setUTCDate_add msPerDay)
open Fleet (User UserRole)
open Reports (TimeZone utcZone)

inductive NotificationPriority where
  | critical
  | high
  | medium
  | low
  deriving DecidableEq

/-- The columns of a notification the digest reads and writes; ids are given in order. -/
structure Notification where
  id : Nat
  companyId : String
  userId : Option String
  priority : NotificationPriority
  digestOnly : Bool
  createdAt : Int
  digestSentAt : Option Int
  deriving DecidableEq

/-- It is not delivered in real time: it belongs in a digest. -/
def Notification.eligible (n : Notification) : Bool :=
  n.digestOnly || n.priority == .medium || n.priority == .low

structure GroupedNotifications where
  critical : List Notification
  high : List Notification
  medium : List Notification
  low : List Notification
  total : Nat

def getDigestNotifications (rows : List Notification) (companyId : String) (since : Int)
    (userId : Option String) : GroupedNotifications :=
  let notifications := (rows.filter fun n =>
    n.companyId == companyId && since ≤ n.createdAt && n.digestSentAt.isNone && n.eligible &&
      (userId.getD "" == "" || n.userId == userId || n.userId == none)).insertionSort
        fun n m => m.createdAt ≤ n.createdAt
  { critical := notifications.filter (·.priority == .critical)
    high := notifications.filter (·.priority == .high)
    medium := notifications.filter (·.priority == .medium)
    low := notifications.filter (·.priority == .low)
    total := notifications.length }

/-- `allNotifIds` -/
def GroupedNotifications.allNotifIds (g : GroupedNotifications) : List Nat :=
  (g.critical ++ g.high ++ g.medium ++ g.low).map (·.id)

/-- The digest counts the notifications of the company that are in the window, belong in a digest
and are not marked. -/
theorem mem_allNotifIds {rows : List Notification} {companyId : String} {since : Int} {id : Nat} :
    id ∈ (getDigestNotifications rows companyId since none).allNotifIds ↔
      ∃ n ∈ rows, n.id = id ∧ n.companyId = companyId ∧ since ≤ n.createdAt ∧
        n.digestSentAt = none ∧ n.eligible = true := by
  have hpriority : ∀ n : Notification, n.priority = .critical ∨ n.priority = .high ∨
      n.priority = .medium ∨ n.priority = .low := by
    intro n
    cases n.priority <;> simp
  simp only [GroupedNotifications.allNotifIds, getDigestNotifications, List.mem_map,
    List.mem_append, List.mem_filter, List.mem_insertionSort, Bool.and_eq_true, beq_iff_eq,
    decide_eq_true_eq, Option.isNone_iff_eq_none]
  constructor
  · rintro ⟨n, (((⟨h, -⟩ | ⟨h, -⟩) | ⟨h, -⟩) | ⟨h, -⟩), rfl⟩ <;>
      exact ⟨n, h.1, rfl, h.2.1.1.1.1, h.2.1.1.1.2, h.2.1.1.2, h.2.1.2⟩
  · rintro ⟨n, hn, rfl, hcompany, hsince, hunsent, heligible⟩
    have h : n ∈ rows ∧ (((n.companyId = companyId ∧ since ≤ n.createdAt) ∧
        n.digestSentAt = none) ∧ n.eligible = true) ∧
        ((none : Option String).getD "" == "" || n.userId == none || n.userId == none) = true :=
      ⟨hn, ⟨⟨⟨hcompany, hsince⟩, hunsent⟩, heligible⟩, rfl⟩
    refine ⟨n, ?_, rfl⟩
    rcases hpriority n with hp | hp | hp | hp
    · exact .inl (.inl (.inl ⟨h, hp⟩))
    · exact .inl (.inl (.inr ⟨h, hp⟩))
    · exact .inl (.inr ⟨h, hp⟩)
    · exact .inr ⟨h, hp⟩

/-! ## Runs -/

inductive DigestKind where
  | daily
  | weekly
  deriving DecidableEq

namespace DigestKind

def daysBack : DigestKind → Int
  | daily => 1
  | weekly => 7

def other : DigestKind → DigestKind
  | daily => weekly
  | weekly => daily

theorem eq_or_eq_other (kind k : DigestKind) : k = kind ∨ k = kind.other := by
  cases kind <;> cases k <;> simp [other]

end DigestKind

/-- The start of the window of a run: `daysBack` days earlier on the clock of the server. -/
def windowStart (zone : TimeZone) (kind : DigestKind) (now : Int) : Int :=
  zone.utc (setUTCDate (zone.localTime now) (getUTCDate (zone.localTime now) + -kind.daysBack))

theorem windowStart_utc (kind : DigestKind) (now : Int) :
    windowStart utcZone kind now = now - kind.daysBack * msPerDay := by
  have h := setUTCDate_add now (-kind.daysBack)
  rw [Int.neg_mul, ← Int.sub_eq_add_neg] at h
  exact h

/-- The admins and dispatchers a company is read with. -/
def recipients (users : List User) (companyId : String) : List User :=
  users.filter fun u =>
    u.companyId == companyId && (u.role == .admin || u.role == .dispatcher) && u.isActive

/-- A run that started.  `created` tells the notifications that were there: those with a smaller
id. -/
structure DigestStart where
  kind : DigestKind
  startedAt : Int
  since : Int
  created : Nat

/-- The digest of a company.  `users` is the table as the run read it. -/
structure Digest where
  companyId : String
  users : List User
  counted : List Nat
  pending : List User
  sent : List User
  failed : List User

/-- A run under way: the companies to come, and the digest whose emails it sends. -/
structure DigestJob where
  since : Int
  users : List User
  companies : List String
  digest : Option Nat

structure DigestRun where
  /-- The email service has a key. -/
  resend : Bool
  clock : Int
  nextId : Nat
  notifications : List Notification
  companies : List String
  users : List User
  jobs : List DigestJob
  /-- All runs so far. -/
  starts : List DigestStart
  /-- All digests so far. -/
  digests : List Digest

inductive DigestEvent where
  | create (companyId : String) (userId : Option String) (priority : NotificationPriority)
      (digestOnly : Bool) (now : Int)
  | remove (ids : List Nat)
  | edit (companies : List String) (users : List User)
  /-- The lock is taken; `ok`: the companies are read. -/
  | start (kind : DigestKind) (now : Int) (ok : Bool)
  /-- `ok`: none of the three queries fails. -/
  | read (job : Nat) (ok : Bool)
  /-- `ok`: the email service accepts the email. -/
  | email (job : Nat) (ok : Bool)
  | mark (job : Nat) (now : Int) (ok : Bool)
  | stop (job : Nat)

/-- The next recipient has had his turn. -/
def Digest.mail (d : Digest) (accepted : Bool) : Digest :=
  match d.pending with
  | [] => d
  | u :: rest =>
    if accepted then { d with pending := rest, sent := d.sent ++ [u] }
    else { d with pending := rest, failed := d.failed ++ [u] }

/-- An email was sent to every active admin and dispatcher of the company. -/
def Digest.Complete (d : Digest) : Prop :=
  ∀ u ∈ d.users, u.companyId = d.companyId → (u.role = .admin ∨ u.role = .dispatcher) →
    u.isActive = true → u ∈ d.sent

/-- `updateMany` of the counted ones. -/
def markSent (ids : List Nat) (now : Int) (n : Notification) : Notification :=
  if n.id ∈ ids then { n with digestSentAt := some now } else n

namespace DigestRun

def init (resend : Bool) (clock : Int) : DigestRun :=
  ⟨resend, clock, 0, [], [], [], [], [], []⟩

/-- The digest a run is sending the emails of. -/
def current (s : DigestRun) (job : Nat) : Option (DigestJob × Nat × Digest) :=
  (s.jobs[job]?).bind fun j => j.digest.bind fun i => (s.digests[i]?).map fun d => (j, i, d)

def step (zone : TimeZone) (s : DigestRun) : DigestEvent → Option DigestRun
  | .create companyId userId priority digestOnly now =>
    if s.clock ≤ now then
      some { s with
        clock := now
        nextId := s.nextId + 1
        notifications := s.notifications ++
          [⟨s.nextId, companyId, userId, priority, digestOnly, now, none⟩] }
    else none
  | .remove ids => some { s with notifications := s.notifications.filter fun n => n.id ∉ ids }
  | .edit companies users =>
    if users.Nodup then some { s with companies := companies, users := users } else none
  | .start kind now ok =>
    if s.clock ≤ now then
      some { s with
        clock := now
        starts := s.starts ++ [⟨kind, now, windowStart zone kind now, s.nextId⟩]
        jobs := if ok then s.jobs ++ [⟨windowStart zone kind now, s.users, s.companies, none⟩]
          else s.jobs }
    else none
  | .read job ok =>
    match s.jobs[job]? with
    | some ⟨since, users, companyId :: companies, none⟩ =>
      if ok then
        some { s with
          jobs := s.jobs.set job ⟨since, users, companies, some s.digests.length⟩
          digests := s.digests ++ [⟨companyId, users,
            (getDigestNotifications s.notifications companyId since none).allNotifIds,
            recipients users companyId, [], []⟩] }
      else some { s with jobs := s.jobs.set job ⟨since, users, companies, none⟩ }
    | _ => none
  | .email job ok =>
    match s.current job with
    | some (_, i, d) =>
      if d.pending = [] then none
      else some { s with digests := s.digests.set i (d.mail (s.resend && ok)) }
    | none => none
  | .mark job now ok =>
    match s.current job with
    | some (j, _, d) =>
      if s.clock ≤ now ∧ d.pending = [] then
        some { s with
          clock := now
          jobs := s.jobs.set job { j with digest := none }
          notifications := if ok then s.notifications.map (markSent d.counted now)
            else s.notifications }
      else none
    | none => none
  | .stop job => some { s with jobs := s.jobs.eraseIdx job }

/-! ## What is to hold -/

/-- The notification is in the window of a run that started after its creation. -/
def Covered (s : DigestRun) (n : Notification) : Prop :=
  ∃ st ∈ s.starts, n.id < st.created ∧ st.since ≤ n.createdAt

/-- A run of the kind has started since its creation. -/
def Met (s : DigestRun) (n : Notification) (kind : DigestKind) : Prop :=
  ∃ st ∈ s.starts, st.kind = kind ∧ n.id < st.created

def Mailed (s : DigestRun) (n : Notification) : Prop :=
  ∃ d ∈ s.digests, d.companyId = n.companyId ∧ n.id ∈ d.counted ∧ d.Complete

/-- Once runs of both kinds have started, an eligible notification is in a window; a marked one is
in a digest that went out. -/
structure Accounts (s : DigestRun) : Prop where
  covered : ∀ n ∈ s.notifications, n.eligible = true → (∀ kind, s.Met n kind) → s.Covered n
  mailed : ∀ n ∈ s.notifications, n.digestSentAt ≠ none → s.Mailed n

/-- A run leaves no eligible notification behind that the runs of the other kind have passed over. -/
def StartSound (zone : TimeZone) (s : DigestRun) (kind : DigestKind) (now : Int) : Prop :=
  ∀ n ∈ s.notifications, n.eligible = true → s.Met n kind.other →
    s.Covered n ∨ windowStart zone kind now ≤ n.createdAt

/-- No email of the digest failed, or a digest that has counted the notification before had none
fail. -/
def MarkSound (s : DigestRun) (d : Digest) : Prop :=
  d.failed = [] ∨ ∀ n ∈ s.notifications, n.id ∈ d.counted →
    ∃ d' ∈ s.digests, d'.companyId = n.companyId ∧ n.id ∈ d'.counted ∧ d'.pending = [] ∧
      d'.failed = []

def Sound (zone : TimeZone) (s : DigestRun) : DigestEvent → Prop
  | .start kind now _ => s.StartSound zone kind now
  | .mark job _ ok => ok = true → ∀ j i d, s.current job = some (j, i, d) → s.MarkSound d
  | _ => True

/-! ## What one step does -/

variable {zone : TimeZone} {s t : DigestRun}

theorem step_read {job : Nat} {ok : Bool} (h : s.step zone (.read job ok) = some t) :
    ∃ since users companyId companies,
      s.jobs[job]? = some ⟨since, users, companyId :: companies, none⟩ ∧
      ((ok = true ∧ t = { s with
          jobs := s.jobs.set job ⟨since, users, companies, some s.digests.length⟩
          digests := s.digests ++ [⟨companyId, users,
            (getDigestNotifications s.notifications companyId since none).allNotifIds,
            recipients users companyId, [], []⟩] }) ∨
        t = { s with jobs := s.jobs.set job ⟨since, users, companies, none⟩ }) := by
  simp only [step] at h
  split at h
  · rename_i since users companyId companies hjob
    refine ⟨since, users, companyId, companies, hjob, ?_⟩
    split at h
    · rename_i hok
      exact .inl ⟨hok, (Option.some.inj h).symm⟩
    · exact .inr (Option.some.inj h).symm
  · cases h

theorem current_eq_some {job i : Nat} {j : DigestJob} {d : Digest} :
    s.current job = some (j, i, d) ↔
      s.jobs[job]? = some j ∧ j.digest = some i ∧ s.digests[i]? = some d := by
  simp only [current, Option.bind_eq_some_iff, Option.map_eq_some_iff, Prod.mk.injEq]
  constructor
  · rintro ⟨j, hj, i, hi, d, hd, rfl, rfl, rfl⟩
    exact ⟨hj, hi, hd⟩
  · rintro ⟨hj, hi, hd⟩
    exact ⟨j, hj, i, hi, d, hd, rfl, rfl, rfl⟩

theorem step_email {job : Nat} {ok : Bool} (h : s.step zone (.email job ok) = some t) :
    ∃ i d, s.digests[i]? = some d ∧
      t = { s with digests := s.digests.set i (d.mail (s.resend && ok)) } := by
  simp only [step] at h
  split at h
  · rename_i j i d hcurrent
    obtain ⟨-, heq⟩ := Option.ite_none_left_eq_some.mp h
    exact ⟨i, d, (current_eq_some.mp hcurrent).2.2, (Option.some.inj heq).symm⟩
  · cases h

theorem step_mark {job : Nat} {now : Int} {ok : Bool} (h : s.step zone (.mark job now ok) = some t) :
    ∃ j i d, s.current job = some (j, i, d) ∧ s.jobs[job]? = some j ∧ d ∈ s.digests ∧
      s.clock ≤ now ∧ d.pending = [] ∧
      t = { s with
        clock := now
        jobs := s.jobs.set job { j with digest := none }
        notifications := if ok then s.notifications.map (markSent d.counted now)
          else s.notifications } := by
  simp only [step] at h
  split at h
  · rename_i j i d hcurrent
    obtain ⟨⟨hclock, hpending⟩, heq⟩ := Option.ite_none_right_eq_some.mp h
    obtain ⟨hjob, -, hdigest⟩ := current_eq_some.mp hcurrent
    exact ⟨j, i, d, hcurrent, hjob, List.mem_of_getElem? hdigest, hclock, hpending,
      (Option.some.inj heq).symm⟩
  · cases h

end DigestRun

/-! ## Marks and emails -/

section

variable {ids : List Nat} {now : Int} {n : Notification}

@[simp] theorem markSent_id : (markSent ids now n).id = n.id := by
  unfold markSent
  split <;> rfl

@[simp] theorem markSent_companyId : (markSent ids now n).companyId = n.companyId := by
  unfold markSent
  split <;> rfl

@[simp] theorem markSent_createdAt : (markSent ids now n).createdAt = n.createdAt := by
  unfold markSent
  split <;> rfl

@[simp] theorem markSent_eligible : (markSent ids now n).eligible = n.eligible := by
  unfold markSent
  split <;> rfl

/-- Marked are the counted ones, and those that were. -/
theorem markSent_digestSentAt :
    (markSent ids now n).digestSentAt ≠ none ↔ n.id ∈ ids ∨ n.digestSentAt ≠ none := by
  unfold markSent
  split
  · rename_i hmem
    simp [hmem]
  · rename_i hmem
    simp [hmem]

end

theorem mem_recipients {users : List User} {companyId : String} {u : User} :
    u ∈ recipients users companyId ↔ u ∈ users ∧ u.companyId = companyId ∧
      (u.role = .admin ∨ u.role = .dispatcher) ∧ u.isActive = true := by
  simp [recipients, and_assoc]

namespace Digest

/-- Each recipient of the digest is still to come, was reached or was not. -/
structure Kept (d : Digest) : Prop where
  nodup : d.users.Nodup
  split : (d.sent ++ d.failed ++ d.pending).Perm (recipients d.users d.companyId)

/-- A digest has gone out when no email of it is to come and none failed. -/
theorem complete_iff {d : Digest} (h : d.Kept) :
    d.Complete ↔ d.pending = [] ∧ d.failed = [] := by
  have hnodup : (d.sent ++ d.failed ++ d.pending).Nodup :=
    h.split.nodup_iff.mpr (h.nodup.filter _)
  rw [List.append_assoc] at hnodup
  have hdisjoint := (List.nodup_append'.mp hnodup).2.2
  constructor
  · intro hcomplete
    have hnone : ∀ u, u ∉ d.failed ++ d.pending := by
      intro u hu
      have hmem : u ∈ recipients d.users d.companyId := by
        refine h.split.subset ?_
        rw [List.append_assoc]
        exact List.mem_append_right _ hu
      obtain ⟨huser, hcompany, hrole, hactive⟩ := mem_recipients.mp hmem
      exact hdisjoint (hcomplete u huser hcompany hrole hactive) hu
    obtain ⟨hfailed, hpending⟩ := List.append_eq_nil_iff.mp (List.eq_nil_iff_forall_not_mem.mpr hnone)
    exact ⟨hpending, hfailed⟩
  · rintro ⟨hpending, hfailed⟩ u huser hcompany hrole hactive
    have hmem := h.split.mem_iff.mpr (mem_recipients.mpr ⟨huser, hcompany, hrole, hactive⟩)
    simpa [hpending, hfailed] using hmem

@[simp] theorem mail_companyId (d : Digest) (accepted : Bool) :
    (d.mail accepted).companyId = d.companyId := by
  unfold mail
  split
  · rfl
  · split <;> rfl

@[simp] theorem mail_counted (d : Digest) (accepted : Bool) :
    (d.mail accepted).counted = d.counted := by
  unfold mail
  split
  · rfl
  · split <;> rfl

theorem kept_mail {d : Digest} (h : d.Kept) (accepted : Bool) : (d.mail accepted).Kept := by
  unfold mail
  split
  · exact h
  · rename_i u rest hpending
    have hsplit := h.split
    rw [hpending] at hsplit
    split
    · refine ⟨h.nodup, List.Perm.trans ?_ hsplit⟩
      simp only [List.append_assoc, List.singleton_append]
      exact (List.perm_middle.symm).append_left d.sent
    · refine ⟨h.nodup, List.Perm.trans ?_ hsplit⟩
      simp

/-- An email that goes out is one more; the others stay. -/
theorem complete_mail {d : Digest} (h : d.Complete) (accepted : Bool) :
    (d.mail accepted).Complete := by
  unfold mail
  split
  · exact h
  · split
    · intro u huser hcompany hrole hactive
      exact List.mem_append_left _ (h u huser hcompany hrole hactive)
    · exact h

end Digest

namespace DigestRun

/-! ## The bookkeeping -/

/-- The digest counts notifications of its company. -/
def Books (s : DigestRun) (d : Digest) : Prop :=
  ∀ id ∈ d.counted, id < s.nextId ∧ ∀ n ∈ s.notifications, n.id = id → n.companyId = d.companyId

/-- What every run keeps. -/
structure Inv (zone : TimeZone) (s : DigestRun) : Prop where
  ids : ∀ n ∈ s.notifications, n.id < s.nextId
  company : ∀ n ∈ s.notifications, ∀ m ∈ s.notifications, n.id = m.id → n.companyId = m.companyId
  starts : ∀ st ∈ s.starts, st.created ≤ s.nextId ∧ st.startedAt ≤ s.clock ∧
    st.since = windowStart zone st.kind st.startedAt
  later : ∀ st ∈ s.starts, ∀ n ∈ s.notifications, st.created ≤ n.id → st.startedAt ≤ n.createdAt
  users : s.users.Nodup
  jobs : ∀ j ∈ s.jobs, j.users.Nodup
  digests : ∀ d ∈ s.digests, d.Kept ∧ s.Books d

theorem inv_init (zone : TimeZone) (resend : Bool) (clock : Int) : (init resend clock).Inv zone where
  ids := by simp [init]
  company := by simp [init]
  starts := by simp [init]
  later := by simp [init]
  users := List.nodup_nil
  jobs := by simp [init]
  digests := by simp [init]

variable {zone : TimeZone} {s t : DigestRun}

theorem Inv.tick (h : s.Inv zone) {now : Int} (hclock : s.clock ≤ now) :
    ({ s with clock := now } : DigestRun).Inv zone :=
  { h with starts := fun st hst =>
      ⟨(h.starts st hst).1, (h.starts st hst).2.1.trans hclock, (h.starts st hst).2.2⟩ }

theorem Inv.withJobs (h : s.Inv zone) {jobs : List DigestJob} (hjobs : ∀ j ∈ jobs, j.users.Nodup) :
    ({ s with jobs := jobs } : DigestRun).Inv zone :=
  { h with jobs := hjobs }

theorem Inv.withDigests (h : s.Inv zone) {digests : List Digest}
    (hdigests : ∀ d ∈ digests, d.Kept ∧ s.Books d) :
    ({ s with digests := digests } : DigestRun).Inv zone :=
  { h with digests := hdigests }

/-- Each notification of the new table was there, up to its mark. -/
theorem Inv.withNotifications (h : s.Inv zone) {rows : List Notification}
    (hrows : ∀ n ∈ rows, ∃ m ∈ s.notifications, n.id = m.id ∧ n.companyId = m.companyId ∧
      n.createdAt = m.createdAt) :
    ({ s with notifications := rows } : DigestRun).Inv zone where
  ids n hn := by
    obtain ⟨m, hm, hid, -⟩ := hrows n hn
    rw [hid]
    exact h.ids m hm
  company n hn m hm heq := by
    obtain ⟨n', hn', hid, hcompany, -⟩ := hrows n hn
    obtain ⟨m', hm', hid', hcompany', -⟩ := hrows m hm
    rw [hcompany, hcompany']
    exact h.company n' hn' m' hm' (hid.symm.trans (heq.trans hid'))
  starts := h.starts
  later st hst n hn hid := by
    obtain ⟨m, hm, hsame, -, hcreated⟩ := hrows n hn
    rw [hcreated]
    exact h.later st hst m hm (hsame ▸ hid)
  users := h.users
  jobs := h.jobs
  digests d hd := by
    refine ⟨(h.digests d hd).1, ?_⟩
    intro id hid
    refine ⟨((h.digests d hd).2 id hid).1, ?_⟩
    intro n hn heq
    obtain ⟨m, hm, hsame, hcompany, -⟩ := hrows n hn
    rw [hcompany]
    exact ((h.digests d hd).2 id hid).2 m hm (hsame.symm.trans heq)

theorem inv_create (h : s.Inv zone) {companyId : String} {userId : Option String}
    {priority : NotificationPriority} {digestOnly : Bool} {now : Int} (hclock : s.clock ≤ now) :
    ({ s with
      clock := now
      nextId := s.nextId + 1
      notifications := s.notifications ++
        [⟨s.nextId, companyId, userId, priority, digestOnly, now, none⟩] } : DigestRun).Inv zone where
  ids := by
    refine forall_mem_concat ?_ (Nat.lt_succ_self _)
    intro n hn
    exact Nat.lt_succ_of_lt (h.ids n hn)
  company n hn m hm heq := by
    simp only [List.mem_append, List.mem_singleton] at hn hm
    rcases hn with hn | rfl <;> rcases hm with hm | rfl
    · exact h.company n hn m hm heq
    · exact absurd heq (Nat.ne_of_lt (h.ids n hn))
    · exact absurd heq.symm (Nat.ne_of_lt (h.ids m hm))
    · rfl
  starts st hst := by
    obtain ⟨hcreated, hstarted, hsince⟩ := h.starts st hst
    exact ⟨Nat.le_succ_of_le hcreated, hstarted.trans hclock, hsince⟩
  later st hst := by
    refine forall_mem_concat (h.later st hst) ?_
    intro _
    exact (h.starts st hst).2.1.trans hclock
  users := h.users
  jobs := h.jobs
  digests d hd := by
    refine ⟨(h.digests d hd).1, ?_⟩
    intro id hid
    obtain ⟨hlt, hcompany⟩ := (h.digests d hd).2 id hid
    refine ⟨Nat.lt_succ_of_lt hlt, forall_mem_concat hcompany ?_⟩
    intro heq
    exact absurd heq.symm (Nat.ne_of_lt hlt)

theorem inv_start (h : s.Inv zone) (kind : DigestKind) {now : Int} (hclock : s.clock ≤ now) :
    ({ s with
      clock := now
      starts := s.starts ++ [⟨kind, now, windowStart zone kind now, s.nextId⟩] } : DigestRun).Inv
        zone where
  ids := h.ids
  company := h.company
  starts := by
    refine forall_mem_concat ?_ ⟨Nat.le_refl _, Int.le_refl _, rfl⟩
    intro st hst
    obtain ⟨hcreated, hstarted, hsince⟩ := h.starts st hst
    exact ⟨hcreated, hstarted.trans hclock, hsince⟩
  later := by
    refine forall_mem_concat h.later ?_
    intro n hn hid
    exact absurd (h.ids n hn) (Nat.not_lt.mpr hid)
  users := h.users
  jobs := h.jobs
  digests := h.digests

/-- The digest a read makes. -/
theorem kept_read (h : s.Inv zone) {users : List User} (husers : users.Nodup) (companyId : String)
    (since : Int) :
    (⟨companyId, users, (getDigestNotifications s.notifications companyId since none).allNotifIds,
      recipients users companyId, [], []⟩ : Digest).Kept ∧
    s.Books ⟨companyId, users,
      (getDigestNotifications s.notifications companyId since none).allNotifIds,
      recipients users companyId, [], []⟩ := by
  refine ⟨⟨husers, by simp⟩, ?_⟩
  intro id hid
  obtain ⟨n, hn, rfl, hcompany, -⟩ := mem_allNotifIds.mp hid
  refine ⟨h.ids n hn, ?_⟩
  intro m hm heq
  exact (h.company m hm n hn heq).trans hcompany

theorem inv_step {e : DigestEvent} (h : s.Inv zone) (hstep : s.step zone e = some t) :
    t.Inv zone := by
  cases e with
  | create companyId userId priority digestOnly now =>
    obtain ⟨hclock, heq⟩ := Option.ite_none_right_eq_some.mp hstep
    rw [← Option.some.inj heq]
    exact inv_create h hclock
  | remove ids =>
    rw [← Option.some.inj hstep]
    refine h.withNotifications ?_
    intro n hn
    exact ⟨n, (List.mem_filter.mp hn).1, rfl, rfl, rfl⟩
  | edit companies users =>
    obtain ⟨husers, heq⟩ := Option.ite_none_right_eq_some.mp hstep
    rw [← Option.some.inj heq]
    exact { h with users := husers }
  | start kind now ok =>
    obtain ⟨hclock, heq⟩ := Option.ite_none_right_eq_some.mp hstep
    rw [← Option.some.inj heq]
    refine (inv_start h kind hclock).withJobs ?_
    split
    · exact forall_mem_concat h.jobs h.users
    · exact h.jobs
  | read job ok =>
    obtain ⟨since, users, companyId, companies, hjob, ⟨-, rfl⟩ | rfl⟩ := step_read hstep
    · have husers : users.Nodup := h.jobs _ (List.mem_of_getElem? hjob)
      have hdigests := forall_mem_concat h.digests (kept_read h husers companyId since)
      refine (h.withDigests hdigests).withJobs (forall_mem_set h.jobs ?_)
      exact husers
    · have husers : users.Nodup := h.jobs _ (List.mem_of_getElem? hjob)
      refine h.withJobs (forall_mem_set h.jobs ?_)
      exact husers
  | email job ok =>
    obtain ⟨i, d, hd, rfl⟩ := step_email hstep
    obtain ⟨hkept, hbooks⟩ := h.digests d (List.mem_of_getElem? hd)
    refine h.withDigests (forall_mem_set h.digests ⟨Digest.kept_mail hkept _, ?_⟩)
    intro id hid
    rw [Digest.mail_counted] at hid
    rw [Digest.mail_companyId]
    exact hbooks id hid
  | mark job now ok =>
    obtain ⟨j, i, d, -, hjob, -, hclock, -, rfl⟩ := step_mark hstep
    have hjobs : ∀ j' ∈ s.jobs.set job { j with digest := none }, j'.users.Nodup :=
      forall_mem_set h.jobs (h.jobs j (List.mem_of_getElem? hjob))
    refine Inv.withNotifications ((h.tick hclock).withJobs hjobs) ?_
    intro n hn
    split at hn
    · obtain ⟨m, hm, rfl⟩ := List.mem_map.mp hn
      exact ⟨m, hm, markSent_id, markSent_companyId, markSent_createdAt⟩
    · exact ⟨n, hn, rfl, rfl, rfl⟩
  | stop job =>
    rw [← Option.some.inj hstep]
    refine h.withJobs ?_
    intro j hj
    exact h.jobs j (List.mem_of_mem_eraseIdx hj)

/-! ## What a step accounts for -/

/-- A step that starts no run and marks nothing accounts for what was accounted for. -/
theorem Accounts.of_same (hs : s.Accounts) (hinv : s.Inv zone) (hstarts : t.starts = s.starts)
    (hrows : ∀ n ∈ t.notifications, n ∈ s.notifications ∨ n.id = s.nextId ∧ n.digestSentAt = none)
    (hdigests : ∀ n, s.Mailed n → t.Mailed n) : t.Accounts where
  covered n hn heligible hmet := by
    unfold Met at hmet
    unfold Covered
    rw [hstarts] at hmet ⊢
    rcases hrows n hn with hn | ⟨hid, -⟩
    · exact hs.covered n hn heligible hmet
    · -- no run has started since it was created
      obtain ⟨st, hst, -, hlt⟩ := hmet .daily
      rw [hid] at hlt
      exact absurd (hinv.starts st hst).1 (Nat.not_le.mpr hlt)
  mailed n hn hmarked := by
    rcases hrows n hn with hn | ⟨-, hnone⟩
    · exact hdigests n (hs.mailed n hn hmarked)
    · exact absurd hnone hmarked

theorem Mailed.mono {n : Notification} (h : s.Mailed n)
    (hdigests : ∀ d ∈ s.digests, ∃ d' ∈ t.digests, d'.companyId = d.companyId ∧
      d'.counted = d.counted ∧ (d.Complete → d'.Complete)) : t.Mailed n := by
  obtain ⟨d, hd, hcompany, hcounted, hcomplete⟩ := h
  obtain ⟨d', hd', hsame, hids, himp⟩ := hdigests d hd
  exact ⟨d', hd', hsame.trans hcompany, hids ▸ hcounted, himp hcomplete⟩

/-- A start accounts for all just when it leaves none behind. -/
theorem accounts_start (hs : s.Accounts) (hinv : s.Inv zone) {kind : DigestKind} {now : Int}
    {ok : Bool} (hstep : s.step zone (.start kind now ok) = some t) :
    t.Accounts ↔ s.StartSound zone kind now := by
  obtain ⟨-, heq⟩ := Option.ite_none_right_eq_some.mp hstep
  have hrows : t.notifications = s.notifications := by rw [← Option.some.inj heq]
  have hdigests : t.digests = s.digests := by rw [← Option.some.inj heq]
  have hstarts : t.starts = s.starts ++ [⟨kind, now, windowStart zone kind now, s.nextId⟩] := by
    rw [← Option.some.inj heq]
  have hcovered : ∀ n ∈ s.notifications,
      t.Covered n ↔ s.Covered n ∨ windowStart zone kind now ≤ n.createdAt := by
    intro n hn
    simp [Covered, hstarts, or_and_right, exists_or, hinv.ids n hn]
  have hmet : ∀ n ∈ s.notifications, (∀ k, t.Met n k) ↔ s.Met n kind.other := by
    intro n hn
    constructor
    · intro h
      obtain ⟨st, hst, hkind, hlt⟩ := h kind.other
      rw [hstarts] at hst
      rcases List.mem_append.mp hst with hst | hst
      · exact ⟨st, hst, hkind, hlt⟩
      · rw [List.mem_singleton.mp hst] at hkind
        cases kind <;> cases hkind
    · rintro ⟨st, hst, hkind, hlt⟩ k
      unfold Met
      rw [hstarts]
      rcases DigestKind.eq_or_eq_other kind k with rfl | rfl
      · exact ⟨_, List.mem_append_right _ (List.mem_singleton_self _), rfl, hinv.ids n hn⟩
      · exact ⟨st, List.mem_append_left _ hst, hkind, hlt⟩
  constructor
  · intro h n hn heligible hother
    exact (hcovered n hn).mp
      (h.covered n (hrows ▸ hn) heligible ((hmet n hn).mpr hother))
  · intro h
    constructor
    · intro n hn heligible hall
      rw [hrows] at hn
      exact (hcovered n hn).mpr (h n hn heligible ((hmet n hn).mp hall))
    · intro n hn hmarked
      rw [hrows] at hn
      unfold Mailed
      rw [hdigests]
      exact hs.mailed n hn hmarked

/-- So does a mark, just when the digest, or one before it, went out. -/
theorem accounts_mark (hs : s.Accounts) (hinv : s.Inv zone) {job : Nat} {now : Int} {ok : Bool}
    (hstep : s.step zone (.mark job now ok) = some t) :
    t.Accounts ↔ s.Sound zone (.mark job now ok) := by
  obtain ⟨j, i, d, hcurrent, -, hd, -, hpending, rfl⟩ := step_mark hstep
  obtain ⟨hkept, hbooks⟩ := hinv.digests d hd
  cases ok with
  | false =>
    constructor
    · intro _ hok
      cases hok
    · intro _
      exact ⟨hs.covered, hs.mailed⟩
  | true =>
    constructor
    · intro h _ j' i' d' hcurrent'
      cases hcurrent.symm.trans hcurrent'
      refine .inr ?_
      intro n hn hid
      have hmarked : (markSent d.counted now n).digestSentAt ≠ none :=
        markSent_digestSentAt.mpr (.inl hid)
      obtain ⟨d', hd', hcompany, hcounted, hcomplete⟩ :=
        h.mailed (markSent d.counted now n) (List.mem_map_of_mem hn) hmarked
      rw [markSent_companyId] at hcompany
      rw [markSent_id] at hcounted
      exact ⟨d', hd', hcompany, hcounted,
        (Digest.complete_iff (hinv.digests d' hd').1).mp hcomplete⟩
    · intro h
      constructor
      · intro n hn heligible hmet
        obtain ⟨m, hm, rfl⟩ := List.mem_map.mp hn
        simp only [Met, markSent_id, Covered, markSent_createdAt, markSent_eligible]
          at hmet heligible ⊢
        exact hs.covered m hm heligible hmet
      · intro n hn hmarked
        obtain ⟨m, hm, rfl⟩ := List.mem_map.mp hn
        simp only [Mailed, markSent_id, markSent_companyId]
        rcases markSent_digestSentAt.mp hmarked with hid | hbefore
        · rcases h rfl j i d hcurrent with hfailed | hother
          · exact ⟨d, hd, ((hbooks m.id hid).2 m hm rfl).symm, hid,
              (Digest.complete_iff hkept).mpr ⟨hpending, hfailed⟩⟩
          · obtain ⟨d', hd', hcompany, hcounted, hgone⟩ := hother m hm hid
            exact ⟨d', hd', hcompany, hcounted,
              (Digest.complete_iff (hinv.digests d' hd').1).mpr hgone⟩
        · exact hs.mailed m hm hbefore

theorem accounts_step {e : DigestEvent} (hs : s.Accounts) (hinv : s.Inv zone)
    (hstep : s.step zone e = some t) : t.Accounts ↔ s.Sound zone e := by
  cases e with
  | create companyId userId priority digestOnly now =>
    obtain ⟨-, heq⟩ := Option.ite_none_right_eq_some.mp hstep
    rw [← Option.some.inj heq]
    refine ⟨fun _ => trivial, fun _ => hs.of_same hinv rfl ?_ fun n hn => hn⟩
    intro n hn
    rcases List.mem_append.mp hn with hn | hn
    · exact .inl hn
    · rw [List.mem_singleton.mp hn]
      exact .inr ⟨rfl, rfl⟩
  | remove ids =>
    rw [← Option.some.inj hstep]
    refine ⟨fun _ => trivial, fun _ => hs.of_same hinv rfl ?_ fun n hn => hn⟩
    intro n hn
    exact .inl (List.mem_filter.mp hn).1
  | edit companies users =>
    obtain ⟨-, heq⟩ := Option.ite_none_right_eq_some.mp hstep
    rw [← Option.some.inj heq]
    exact ⟨fun _ => trivial, fun _ => hs.of_same hinv rfl (fun n hn => .inl hn) fun n hn => hn⟩
  | start kind now ok => exact accounts_start hs hinv hstep
  | read job ok =>
    refine ⟨fun _ => trivial, fun _ => ?_⟩
    obtain ⟨since, users, companyId, companies, -, ⟨-, rfl⟩ | rfl⟩ := step_read hstep
    · refine hs.of_same hinv rfl (fun n hn => .inl hn) ?_
      intro n hn
      refine hn.mono ?_
      intro d hd
      exact ⟨d, List.mem_append_left _ hd, rfl, rfl, id⟩
    · exact hs.of_same hinv rfl (fun n hn => .inl hn) fun n hn => hn
  | email job ok =>
    refine ⟨fun _ => trivial, fun _ => ?_⟩
    obtain ⟨i, d, hi, rfl⟩ := step_email hstep
    refine hs.of_same hinv rfl (fun n hn => .inl hn) ?_
    intro n hn
    refine hn.mono ?_
    intro d' hd'
    by_cases hne : d' = d
    · subst hne
      exact ⟨_, mem_set_self hi, Digest.mail_companyId .., Digest.mail_counted ..,
        fun h => Digest.complete_mail h _⟩
    · exact ⟨d', mem_set_of_ne hi hd' hne, rfl, rfl, id⟩
  | mark job now ok => exact accounts_mark hs hinv hstep
  | stop job =>
    rw [← Option.some.inj hstep]
    exact ⟨fun _ => trivial, fun _ => hs.of_same hinv rfl (fun n hn => .inl hn) fun n hn => hn⟩

/-- A run that starts no later in its period than an earlier one of its kind leaves none behind. -/
theorem startSound_of_punctual (hs : s.Accounts) (hinv : s.Inv zone) {kind : DigestKind} {now : Int}
    (h : ∃ st ∈ s.starts, st.kind = kind ∧ windowStart zone kind now ≤ st.startedAt) :
    s.StartSound zone kind now := by
  obtain ⟨st, hst, rfl, hle⟩ := h
  intro n hn heligible hother
  by_cases hlt : n.id < st.created
  · refine .inl (hs.covered n hn heligible ?_)
    intro k
    rcases DigestKind.eq_or_eq_other st.kind k with rfl | rfl
    · exact ⟨st, hst, rfl, hlt⟩
    · exact hother
  · exact .inr (hle.trans (hinv.later st hst n hn (Nat.not_lt.mp hlt)))

theorem starts_step {e : DigestEvent} (hstep : s.step zone e = some t) :
    t.starts = s.starts ∨ ∃ kind now, s.clock ≤ now ∧
      t.starts = s.starts ++ [⟨kind, now, windowStart zone kind now, s.nextId⟩] := by
  cases e with
  | create companyId userId priority digestOnly now =>
    obtain ⟨-, heq⟩ := Option.ite_none_right_eq_some.mp hstep
    rw [← Option.some.inj heq]
    exact .inl rfl
  | remove ids =>
    rw [← Option.some.inj hstep]
    exact .inl rfl
  | edit companies users =>
    obtain ⟨-, heq⟩ := Option.ite_none_right_eq_some.mp hstep
    rw [← Option.some.inj heq]
    exact .inl rfl
  | start kind now ok =>
    obtain ⟨hclock, heq⟩ := Option.ite_none_right_eq_some.mp hstep
    rw [← Option.some.inj heq]
    exact .inr ⟨kind, now, hclock, rfl⟩
  | read job ok =>
    obtain ⟨since, users, companyId, companies, -, ⟨-, rfl⟩ | rfl⟩ := step_read hstep
    · exact .inl rfl
    · exact .inl rfl
  | email job ok =>
    obtain ⟨i, d, -, rfl⟩ := step_email hstep
    exact .inl rfl
  | mark job now ok =>
    obtain ⟨j, i, d, -, -, -, -, -, rfl⟩ := step_mark hstep
    exact .inl rfl
  | stop job =>
    rw [← Option.some.inj hstep]
    exact .inl rfl

/-- What runs of both kinds have passed over stays out of every window to come. -/
theorem passed_over_stays (hzone : ∀ kind, Monotone (windowStart zone kind)) {es : List DigestEvent}
    (h : Run (Steps (step zone)) s es t) (hinv : s.Inv zone) {n : Notification}
    (hmet : ∀ kind, s.Met n kind) (hnot : ¬s.Covered n) : ¬t.Covered n := by
  have hkeep : (t.Inv zone ∧ ∀ kind, t.Met n kind) ∧ ¬t.Covered n := by
    refine h.invariant (I := fun s => (s.Inv zone ∧ ∀ kind, s.Met n kind) ∧ ¬s.Covered n) ?_
      ⟨⟨hinv, hmet⟩, hnot⟩
    rintro s e t ⟨⟨hinv, hmet⟩, hnot⟩ hstep
    have hnext := inv_step hinv hstep
    rcases starts_step hstep with hsame | ⟨kind, now, hclock, hstarts⟩
    · simp only [Met, Covered, hsame] at hmet hnot ⊢
      exact ⟨⟨hnext, hmet⟩, hnot⟩
    · refine ⟨⟨hnext, ?_⟩, ?_⟩
      · intro k
        obtain ⟨st, hst, hkind, hlt⟩ := hmet k
        exact ⟨st, hstarts ▸ List.mem_append_left _ hst, hkind, hlt⟩
      · rintro ⟨st, hst, hlt, hsince⟩
        rw [hstarts] at hst
        rcases List.mem_append.mp hst with hst | hst
        · exact hnot ⟨st, hst, hlt, hsince⟩
        · -- a later run of the kind has a later window
          rw [List.mem_singleton.mp hst] at hsince
          obtain ⟨old, hold, rfl, hlt'⟩ := hmet kind
          obtain ⟨-, hstarted, hwindow⟩ := hinv.starts old hold
          refine hnot ⟨old, hold, hlt', ?_⟩
          rw [hwindow]
          exact (hzone old.kind (hstarted.trans hclock)).trans hsince
  exact hkeep.2

end DigestRun

/-! ## An email that fails, and two late runs -/

def digestAdmin : User where
  id := "u1"
  companyId := "c1"
  email := "admin@c1.mg"
  firstName := "Aina"
  lastName := "Rabe"
  phone := none
  role := .admin
  isActive := true
  deletedAt := none

/-- A day, in milliseconds. -/
def digestDay : Int := 24 * 60 * 60 * 1000

end DeliveryTracking.Notifications
