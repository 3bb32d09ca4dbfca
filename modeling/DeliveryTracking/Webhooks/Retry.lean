/-
# `DeliveryTracking.Webhooks.Retry` — dispatch, the queue and the retry workers

An event goes to every webhook of its company that is active and subscribed.
The steps, which any number of calls and workers take in any order:

    dispatch       starts a `deliver` for each webhook
    deliver        reads the webhook; validates its URL and posts; creates the row
    cron           selects the failed rows that are due; adds a job for each,
                   named by the row and its number of attempts
    process        reads the row; validates the URL and posts; updates the row

BullMQ ignores a job whose name it has: one that waits, is worked on, or has
ended less than an hour ago, which is longer than a pass of the cron lasts.

`Inv` is what holds in every run.  `retries_bounded` reads off it that a row is
never posted more often than its `maxAttempts`, that its attempts only grow, and
that it is scheduled only while it is failed and has attempts left.
-/
import DeliveryTracking.Runs
import DeliveryTracking.Webhooks.Delivery

namespace DeliveryTracking.Webhooks

/-! ## The state -/

/-- An event on its way to a webhook, with the id its row will have. -/
structure Dispatch where
  id : String
  webhookId : String
  event : String
  payload : Json

inductive DeliverStage where
  | reading
  | validating (webhook : Webhook)
  | posted

/-- A call of `deliver`. -/
structure DeliverCall where
  dispatch : Dispatch
  stage : DeliverStage

def DeliverCall.id (call : DeliverCall) : String := call.dispatch.id

def DeliverCall.isPosted (call : DeliverCall) : Bool :=
  match call.stage with
  | .posted => true
  | _ => false

/-- The name of a job, `retry:{id}:{attempts}`. -/
structure JobId where
  id : String
  attempts : Nat
  deriving DecidableEq, Repr

inductive RetryStage where
  | waiting
  | validating (delivery : WebhookDelivery) (webhook : Webhook)
  | posted (delivery : WebhookDelivery)

/-- A job that waits or is worked on. -/
structure RetryJob where
  jobId : JobId
  stage : RetryStage

/-- The job has posted the row, and not updated it yet. -/
def RetryJob.isPosted (id : String) (job : RetryJob) : Bool :=
  match job.stage with
  | .posted _ => job.jobId.id == id
  | _ => false

/-- The row as the job has read it. -/
def RetryStage.read : RetryStage → Option WebhookDelivery
  | .waiting => none
  | .validating delivery _ | .posted delivery => some delivery

/-- A row the cron has selected. -/
structure Selected where
  id : String
  attempts : Nat
  maxAttempts : Nat
  deriving DecidableEq, Repr

def Selected.jobId (x : Selected) : JobId := ⟨x.id, x.attempts⟩

structure WebhookState where
  webhooks : String → Option Webhook
  /-- The companies that are deleted now. -/
  deletedAt : List String
  /-- A row of a webhook that was removed went with it (`onDelete: Cascade`), see `readDelivery`. -/
  deliveries : String → Option WebhookDelivery
  delivering : List DeliverCall
  jobs : List RetryJob
  /-- The names of ended jobs that BullMQ keeps. -/
  kept : List JobId
  /-- What each pass of the cron has yet to add. -/
  passes : List (List Selected)
  /-- The ids of webhooks and of rows that were ever given out. -/
  used : List String
  issued : List String
  /-- The rows that were posted, what was dispatched, the companies that were ever deleted; no code
  reads these. -/
  posts : List String
  dispatched : List Dispatch
  everDeleted : List String

inductive WebhookEvent where
  | createWebhook (webhook : Webhook)
  /-- An update or a toggle. -/
  | updateWebhook (webhook : Webhook)
  | removeWebhook (id : String)
  | setDeleted (companyId : String) (deleted : Bool)
  | dispatch (event companyId timestamp : String) (payload : Json) (ids : List String)
  | sendTest (companyId webhookId timestamp id : String)
  /-- The next step of a `deliver`: its read, the verdict on the URL, the outcome of the request. -/
  | deliverRead (i : Nat)
  | deliverValidated (i : Nat) (safe : Bool)
  | deliverAnswered (i : Nat) (outcome : Outcome) (now : Int)
  | cronSelect (now : Int)
  /-- A pass of the cron goes on with its next row. -/
  | cronAdd (k : Nat)
  /-- The name of an ended job is dropped. -/
  | evict (jobId : JobId)
  /-- The next step of a job, likewise. -/
  | retryRead (i : Nat)
  | retryValidated (i : Nat) (safe : Bool)
  | retryAnswered (i : Nat) (outcome : Outcome) (now : Int)

/-! ## The steps -/

/-- What `dispatch` sends for an event. -/
def eventPayload (event timestamp : String) (data : Json) : Json :=
  .object [("event", .string event), ("timestamp", .string timestamp), ("data", data)]

def testPayload (timestamp : String) : Json :=
  .object [("event", .string "test.ping"), ("timestamp", .string timestamp),
    ("data", .object [("message", .string "This is a test webhook from Pistio")])]

namespace WebhookState

variable (s : WebhookState)

def start : WebhookState where
  webhooks := fun _ => none
  deletedAt := []
  deliveries := fun _ => none
  delivering := []
  jobs := []
  kept := []
  passes := []
  used := []
  issued := []
  posts := []
  dispatched := []
  everDeleted := []

/-- A row with its webhook. -/
def readDelivery (id : String) : Option (WebhookDelivery × Webhook) :=
  (s.deliveries id).bind fun delivery =>
    (s.webhooks delivery.webhookId).map fun webhook => (delivery, webhook)

/-- The webhooks of a company that are active and subscribed to an event. -/
def subscribed (event companyId : String) : List Webhook :=
  (s.used.filterMap s.webhooks).filter fun webhook =>
    webhook.companyId == companyId && webhook.isActive && webhook.events.contains event

/-- A `deliver` starts, with an id that was never given. -/
def startCall (dispatch : Dispatch) : WebhookState :=
  { s with
    delivering := s.delivering ++ [⟨dispatch, .reading⟩]
    issued := dispatch.id :: s.issued }

/-- The same, for an event. -/
def startEvent (dispatch : Dispatch) : WebhookState :=
  { s.startCall dispatch with dispatched := dispatch :: s.dispatched }

def endCall (i : Nat) : WebhookState := { s with delivering := s.delivering.eraseIdx i }

def moveCall (i : Nat) (call : DeliverCall) : WebhookState :=
  { s with delivering := s.delivering.set i call }

def endJob (i : Nat) (jobId : JobId) : WebhookState :=
  { s with jobs := s.jobs.eraseIdx i, kept := jobId :: s.kept }

def moveJob (i : Nat) (job : RetryJob) : WebhookState := { s with jobs := s.jobs.set i job }

def post (id : String) : WebhookState := { s with posts := id :: s.posts }

/-- `webhookDelivery.create`, which fails when the webhook is gone. -/
def createRow (row : WebhookDelivery) : WebhookState :=
  if (s.webhooks row.webhookId).isSome then
    { s with deliveries := Function.update s.deliveries row.id (some row) }
  else s

/-- `webhookDelivery.update`.  It fails when the row went with its webhook; what is written here then
is never read. -/
def updateRow (id : String) (f : WebhookDelivery → WebhookDelivery) : WebhookState :=
  match s.deliveries id with
  | some row => { s with deliveries := Function.update s.deliveries id (some (f row)) }
  | none => s

/-- A row the cron selects. -/
def select (now : Int) (id : String) : Option Selected :=
  match s.readDelivery id with
  | some (row, webhook) =>
    if row.status = .failed ∧ row.nextRetryAt.any (· ≤ now) = true ∧
        webhook.companyId ∉ s.deletedAt then
      some ⟨row.id, row.attempts, row.maxAttempts⟩
    else none
  | none => none

/-- `retryQueue.add` -/
def addJob (jobId : JobId) : WebhookState :=
  if jobId ∈ s.jobs.map RetryJob.jobId ∨ jobId ∈ s.kept then s
  else { s with jobs := s.jobs ++ [⟨jobId, .waiting⟩] }

/-- `process`, from the read on. -/
def process (i : Nat) (jobId : JobId) : WebhookState :=
  match s.readDelivery jobId.id with
  | none => s.endJob i jobId
  | some (delivery, webhook) =>
    if delivery.finished then s.endJob i jobId
    else if webhook.companyId ∈ s.deletedAt then
      (s.updateRow jobId.id WebhookDelivery.stopped).endJob i jobId
    else s.moveJob i ⟨jobId, .validating delivery webhook⟩

def step : WebhookEvent → Option WebhookState
  | .createWebhook webhook =>
    if webhook.id ∈ s.used then none
    else
      some
        { s with
          webhooks := Function.update s.webhooks webhook.id (some webhook)
          used := webhook.id :: s.used }
  | .updateWebhook webhook =>
    (s.webhooks webhook.id).map fun old =>
      { s with
        webhooks := Function.update s.webhooks webhook.id
          (some { webhook with companyId := old.companyId }) }
  | .removeWebhook id => some { s with webhooks := Function.update s.webhooks id none }
  | .setDeleted companyId deleted =>
    some
      { s with
        deletedAt :=
          if deleted then companyId :: s.deletedAt else s.deletedAt.filter (· ≠ companyId)
        everDeleted := if deleted then companyId :: s.everDeleted else s.everDeleted }
  | .dispatch event companyId timestamp payload ids =>
    let webhooks := s.subscribed event companyId
    if ids.length = webhooks.length ∧ ids.Nodup ∧ ∀ id ∈ ids, id ∉ s.issued then
      some ((webhooks.zip ids).foldl
        (fun t (webhook, id) => t.startEvent
          ⟨id, webhook.id, event, eventPayload event timestamp payload⟩) s)
    else none
  | .sendTest companyId webhookId timestamp id =>
    match s.webhooks webhookId with
    | some webhook =>
      if webhook.companyId = companyId ∧ id ∉ s.issued then
        some (s.startCall ⟨id, webhookId, "test.ping", testPayload timestamp⟩)
      else none
    | none => none
  | .deliverRead i =>
    match s.delivering[i]? with
    | some ⟨dispatch, .reading⟩ =>
      match s.webhooks dispatch.webhookId with
      | none => some (s.endCall i)
      | some webhook => some (s.moveCall i ⟨dispatch, .validating webhook⟩)
    | _ => none
  | .deliverValidated i safe =>
    match s.delivering[i]? with
    | some ⟨dispatch, .validating _⟩ =>
      if safe then some ((s.moveCall i ⟨dispatch, .posted⟩).post dispatch.id)
      else some (s.endCall i)
    | _ => none
  | .deliverAnswered i outcome now =>
    match s.delivering[i]? with
    | some ⟨dispatch, .posted⟩ =>
      some ((s.endCall i).createRow
        (firstRow dispatch.id dispatch.webhookId dispatch.event dispatch.payload outcome.attempt now))
    | _ => none
  | .cronSelect now => some { s with passes := s.passes ++ [s.issued.filterMap (s.select now)] }
  | .cronAdd k =>
    match s.passes[k]? with
    | some (x :: rest) =>
      let t := { s with passes := s.passes.set k rest }
      if x.maxAttempts ≤ x.attempts then some t else some (t.addJob x.jobId)
    | _ => none
  | .evict jobId =>
    if ∃ pass ∈ s.passes, ∃ x ∈ pass, x.jobId = jobId then none
    else some { s with kept := s.kept.filter (· ≠ jobId) }
  | .retryRead i =>
    match s.jobs[i]? with
    | some ⟨jobId, .waiting⟩ => some (s.process i jobId)
    | _ => none
  | .retryValidated i safe =>
    match s.jobs[i]? with
    | some ⟨jobId, .validating delivery _⟩ =>
      if safe then some ((s.moveJob i ⟨jobId, .posted delivery⟩).post jobId.id)
      else some ((s.updateRow jobId.id WebhookDelivery.stopped).endJob i jobId)
    | _ => none
  | .retryAnswered i outcome now =>
    match s.jobs[i]? with
    | some ⟨jobId, .posted delivery⟩ =>
      some ((s.updateRow jobId.id fun row => row.retried delivery outcome.attempt now).endJob i jobId)
    | _ => none

/-- What each event does, and when. -/
inductive Taken (s : WebhookState) : WebhookEvent → WebhookState → Prop
  | createWebhook {webhook : Webhook} (hnew : webhook.id ∉ s.used) :
      Taken s (.createWebhook webhook)
        { s with
          webhooks := Function.update s.webhooks webhook.id (some webhook)
          used := webhook.id :: s.used }
  | updateWebhook {webhook old : Webhook} (hold : s.webhooks webhook.id = some old) :
      Taken s (.updateWebhook webhook)
        { s with
          webhooks := Function.update s.webhooks webhook.id
            (some { webhook with companyId := old.companyId }) }
  | removeWebhook (id : String) :
      Taken s (.removeWebhook id) { s with webhooks := Function.update s.webhooks id none }
  | setDeleted (companyId : String) (deleted : Bool) :
      Taken s (.setDeleted companyId deleted)
        { s with
          deletedAt :=
            if deleted then companyId :: s.deletedAt else s.deletedAt.filter (· ≠ companyId)
          everDeleted := if deleted then companyId :: s.everDeleted else s.everDeleted }
  | dispatch {event companyId timestamp : String} {payload : Json} {ids : List String}
      (hlength : ids.length = (s.subscribed event companyId).length) (hnodup : ids.Nodup)
      (hnew : ∀ id ∈ ids, id ∉ s.issued) :
      Taken s (.dispatch event companyId timestamp payload ids)
        (((s.subscribed event companyId).zip ids).foldl
          (fun t (webhook, id) => t.startEvent
            ⟨id, webhook.id, event, eventPayload event timestamp payload⟩) s)
  | sendTest {companyId webhookId timestamp id : String} (hnew : id ∉ s.issued) :
      Taken s (.sendTest companyId webhookId timestamp id)
        (s.startCall ⟨id, webhookId, "test.ping", testPayload timestamp⟩)
  | webhookGone {i : Nat} {x : Dispatch} (hi : s.delivering[i]? = some ⟨x, .reading⟩)
      (hwebhook : s.webhooks x.webhookId = none) : Taken s (.deliverRead i) (s.endCall i)
  | deliverRead {i : Nat} {x : Dispatch} {webhook : Webhook}
      (hi : s.delivering[i]? = some ⟨x, .reading⟩) :
      Taken s (.deliverRead i) (s.moveCall i ⟨x, .validating webhook⟩)
  | deliverPosted {i : Nat} {x : Dispatch} {webhook : Webhook}
      (hi : s.delivering[i]? = some ⟨x, .validating webhook⟩) :
      Taken s (.deliverValidated i true) ((s.moveCall i ⟨x, .posted⟩).post x.id)
  | deliverUnsafe {i : Nat} {x : Dispatch} {webhook : Webhook}
      (hi : s.delivering[i]? = some ⟨x, .validating webhook⟩) :
      Taken s (.deliverValidated i false) (s.endCall i)
  | deliverAnswered {i : Nat} {x : Dispatch} (hi : s.delivering[i]? = some ⟨x, .posted⟩)
      (outcome : Outcome) (now : Int) :
      Taken s (.deliverAnswered i outcome now)
        ((s.endCall i).createRow
          (firstRow x.id x.webhookId x.event x.payload outcome.attempt now))
  | cronSelect (now : Int) :
      Taken s (.cronSelect now)
        { s with passes := s.passes ++ [s.issued.filterMap (s.select now)] }
  | cronSkipped {k : Nat} {x : Selected} {rest : List Selected}
      (hk : s.passes[k]? = some (x :: rest)) :
      Taken s (.cronAdd k) { s with passes := s.passes.set k rest }
  | cronAdded {k : Nat} {x : Selected} {rest : List Selected}
      (hk : s.passes[k]? = some (x :: rest)) :
      Taken s (.cronAdd k) ({ s with passes := s.passes.set k rest }.addJob x.jobId)
  | evict {jobId : JobId} (hfree : ¬ ∃ pass ∈ s.passes, ∃ x ∈ pass, x.jobId = jobId) :
      Taken s (.evict jobId) { s with kept := s.kept.filter (· ≠ jobId) }
  | retryRead {i : Nat} {jobId : JobId} (hi : s.jobs[i]? = some ⟨jobId, .waiting⟩) :
      Taken s (.retryRead i) (s.process i jobId)
  | retryPosted {i : Nat} {jobId : JobId} {delivery : WebhookDelivery} {webhook : Webhook}
      (hi : s.jobs[i]? = some ⟨jobId, .validating delivery webhook⟩) :
      Taken s (.retryValidated i true) ((s.moveJob i ⟨jobId, .posted delivery⟩).post jobId.id)
  | retryUnsafe {i : Nat} {jobId : JobId} {delivery : WebhookDelivery} {webhook : Webhook}
      (hi : s.jobs[i]? = some ⟨jobId, .validating delivery webhook⟩) :
      Taken s (.retryValidated i false)
        ((s.updateRow jobId.id WebhookDelivery.stopped).endJob i jobId)
  | retryAnswered {i : Nat} {jobId : JobId} {delivery : WebhookDelivery}
      (hi : s.jobs[i]? = some ⟨jobId, .posted delivery⟩) (outcome : Outcome) (now : Int) :
      Taken s (.retryAnswered i outcome now)
        ((s.updateRow jobId.id fun row => row.retried delivery outcome.attempt now).endJob i jobId)

theorem step_taken {s t : WebhookState} {e : WebhookEvent} (hstep : s.step e = some t) :
    Taken s e t := by
  cases e with
  | createWebhook webhook =>
    simp only [step] at hstep
    split at hstep
    · cases hstep
    · rename_i hnew
      obtain rfl := Option.some.inj hstep
      exact .createWebhook hnew
  | updateWebhook webhook =>
    obtain ⟨old, hold, rfl⟩ := Option.map_eq_some_iff.mp hstep
    exact .updateWebhook hold
  | removeWebhook id =>
    obtain rfl := Option.some.inj hstep
    exact .removeWebhook id
  | setDeleted companyId deleted =>
    obtain rfl := Option.some.inj hstep
    exact .setDeleted companyId deleted
  | dispatch event companyId timestamp payload ids =>
    simp only [step] at hstep
    split at hstep
    · rename_i hids
      obtain rfl := Option.some.inj hstep
      exact .dispatch hids.1 hids.2.1 hids.2.2
    · cases hstep
  | sendTest companyId webhookId timestamp id =>
    simp only [step] at hstep
    split at hstep
    · split at hstep
      · rename_i hnew
        obtain rfl := Option.some.inj hstep
        exact .sendTest hnew.2
      · cases hstep
    · cases hstep
  | deliverRead i =>
    simp only [step] at hstep
    split at hstep
    · rename_i hi
      split at hstep
      · rename_i hwebhook
        obtain rfl := Option.some.inj hstep
        exact .webhookGone hi hwebhook
      · obtain rfl := Option.some.inj hstep
        exact .deliverRead hi
    · cases hstep
  | deliverValidated i safe =>
    simp only [step] at hstep
    split at hstep
    · rename_i hi
      cases safe with
      | true =>
        obtain rfl := Option.some.inj hstep
        exact .deliverPosted hi
      | false =>
        obtain rfl := Option.some.inj hstep
        exact .deliverUnsafe hi
    · cases hstep
  | deliverAnswered i outcome now =>
    simp only [step] at hstep
    split at hstep
    · rename_i hi
      obtain rfl := Option.some.inj hstep
      exact .deliverAnswered hi outcome now
    · cases hstep
  | cronSelect now =>
    obtain rfl := Option.some.inj hstep
    exact .cronSelect now
  | cronAdd k =>
    simp only [step] at hstep
    split at hstep
    · rename_i hk
      split at hstep
      · obtain rfl := Option.some.inj hstep
        exact .cronSkipped hk
      · obtain rfl := Option.some.inj hstep
        exact .cronAdded hk
    · cases hstep
  | evict jobId =>
    simp only [step] at hstep
    split at hstep
    · cases hstep
    · rename_i hfree
      obtain rfl := Option.some.inj hstep
      exact .evict hfree
  | retryRead i =>
    simp only [step] at hstep
    split at hstep
    · rename_i hi
      obtain rfl := Option.some.inj hstep
      exact .retryRead hi
    · cases hstep
  | retryValidated i safe =>
    simp only [step] at hstep
    split at hstep
    · rename_i hi
      cases safe with
      | true =>
        obtain rfl := Option.some.inj hstep
        exact .retryPosted hi
      | false =>
        obtain rfl := Option.some.inj hstep
        exact .retryUnsafe hi
    · cases hstep
  | retryAnswered i outcome now =>
    simp only [step] at hstep
    split at hstep
    · rename_i hi
      obtain rfl := Option.some.inj hstep
      exact .retryAnswered hi outcome now
    · cases hstep

/-! ## The invariant -/

/-- What holds in every run.  A job's row has the attempts the job is named by, so of two jobs of one
row at most one is there; what a job has read of its row is what the row is. -/
structure Inv : Prop where
  webhooks : ∀ id webhook, s.webhooks id = some webhook → webhook.id = id ∧ id ∈ s.used
  rows : ∀ id row, s.deliveries id = some row → row.id = id ∧ id ∈ s.issued ∧ row.Consistent
  calls : ∀ call ∈ s.delivering, call.id ∈ s.issued ∧ s.deliveries call.id = none
  calls_nodup : (s.delivering.map DeliverCall.id).Nodup
  dispatched : ∀ x ∈ s.dispatched, x.id ∈ s.issued ∧ x.webhookId ∈ s.used ∧
    ∀ call ∈ s.delivering, call.id = x.id → call.dispatch = x
  posts_issued : ∀ id ∈ s.posts, id ∈ s.issued
  posts_calls : ∀ call ∈ s.delivering, s.posts.count call.id = if call.isPosted then 1 else 0
  posts_rows : ∀ id row, s.deliveries id = some row →
    s.posts.count id = row.attempts + s.jobs.countP (RetryJob.isPosted id)
  jobs_nodup : (s.jobs.map RetryJob.jobId).Nodup
  jobs_rows : ∀ job ∈ s.jobs, ∃ row, s.deliveries job.jobId.id = some row ∧
    row.attempts = job.jobId.attempts ∧
    ∀ read, job.stage.read = some read → read = row ∧ row.finished = false
  passes_rows : ∀ pass ∈ s.passes, ∀ x ∈ pass, ∃ row, s.deliveries x.id = some row ∧
    (row.attempts = x.attempts ∨ x.jobId ∈ s.kept)
  everDeleted : ∀ companyId ∈ s.deletedAt, companyId ∈ s.everDeleted

variable {s}

theorem start_inv : start.Inv where
  webhooks := by simp [start]
  rows := by simp [start]
  calls := by simp [start]
  calls_nodup := by simp [start]
  dispatched := by simp [start]
  posts_issued := by simp [start]
  posts_calls := by simp [start]
  posts_rows := by simp [start]
  jobs_nodup := by simp [start]
  jobs_rows := by simp [start]
  passes_rows := by simp [start]
  everDeleted := by simp [start]

/-! ### First attempts -/

theorem Inv.startCall (h : s.Inv) {x : Dispatch} (hnew : x.id ∉ s.issued) : (s.startCall x).Inv where
  webhooks := h.webhooks
  rows id row hrow := by
    obtain ⟨hid, hissued, hconsistent⟩ := h.rows id row hrow
    exact ⟨hid, List.mem_cons_of_mem _ hissued, hconsistent⟩
  calls := by
    refine forall_mem_concat ?_ ?_
    · intro call hcall
      obtain ⟨hissued, hnone⟩ := h.calls call hcall
      exact ⟨List.mem_cons_of_mem _ hissued, hnone⟩
    · refine ⟨List.mem_cons_self, ?_⟩
      show s.deliveries x.id = none
      by_contra hne
      obtain ⟨row, hrow⟩ := Option.ne_none_iff_exists'.mp hne
      exact hnew (h.rows x.id row hrow).2.1
  calls_nodup := by
    refine nodup_map_concat h.calls_nodup ?_
    intro hmem
    obtain ⟨call, hcall, hid⟩ := List.mem_map.mp hmem
    have hissued : call.id ∈ s.issued := (h.calls call hcall).1
    rw [hid] at hissued
    exact hnew hissued
  dispatched y hy := by
    obtain ⟨hissued, hused, hcalls⟩ := h.dispatched y hy
    refine ⟨List.mem_cons_of_mem _ hissued, hused, ?_⟩
    refine forall_mem_concat hcalls ?_
    intro hid
    have heq : x.id = y.id := hid
    exact absurd (heq ▸ hissued) hnew
  posts_issued id hid := List.mem_cons_of_mem _ (h.posts_issued id hid)
  posts_calls := by
    refine forall_mem_concat h.posts_calls ?_
    exact List.count_eq_zero.mpr fun hmem => hnew (h.posts_issued x.id hmem)
  posts_rows := h.posts_rows
  jobs_nodup := h.jobs_nodup
  jobs_rows := h.jobs_rows
  passes_rows := h.passes_rows
  everDeleted := h.everDeleted

theorem Inv.startEvent (h : s.Inv) {x : Dispatch} (hnew : x.id ∉ s.issued)
    (hused : x.webhookId ∈ s.used) : (s.startEvent x).Inv where
  __ := h.startCall hnew
  dispatched := by
    refine List.forall_mem_cons.mpr ⟨⟨List.mem_cons_self, hused, ?_⟩, (h.startCall hnew).dispatched⟩
    refine forall_mem_concat ?_ fun _ => rfl
    intro call hcall hid
    exact absurd (hid ▸ (h.calls call hcall).1) hnew

theorem Inv.endCall (h : s.Inv) (i : Nat) : (s.endCall i).Inv where
  __ := h
  calls call hcall := h.calls call (List.mem_of_mem_eraseIdx hcall)
  calls_nodup := h.calls_nodup.sublist ((List.eraseIdx_sublist ..).map _)
  dispatched x hx := by
    obtain ⟨hissued, hused, hcalls⟩ := h.dispatched x hx
    exact ⟨hissued, hused, fun call hcall => hcalls call (List.mem_of_mem_eraseIdx hcall)⟩
  posts_calls call hcall := h.posts_calls call (List.mem_of_mem_eraseIdx hcall)

section

variable {i : Nat} {x : Dispatch} {stage : DeliverStage}

/-- A call takes a step, with what it posts. -/
theorem Inv.setCall (h : s.Inv) {stage' : DeliverStage} {posts : List String}
    (hi : s.delivering[i]? = some ⟨x, stage⟩) (hissued : ∀ id ∈ posts, id ∈ s.issued)
    (hcount : posts.count x.id = if DeliverCall.isPosted ⟨x, stage'⟩ then 1 else 0)
    (hother : ∀ id, x.id ≠ id → posts.count id = s.posts.count id) :
    { s.moveCall i ⟨x, stage'⟩ with posts := posts }.Inv := by
  have hmem := List.mem_of_getElem? hi
  have hx : x.id ∈ s.issued ∧ s.deliveries x.id = none := h.calls _ hmem
  exact
    { h with
      calls := forall_mem_set h.calls hx
      calls_nodup := by
        have hids : (s.delivering.set i ⟨x, stage'⟩).map DeliverCall.id
            = s.delivering.map DeliverCall.id := map_set_of_eq hi rfl
        show ((s.delivering.set i ⟨x, stage'⟩).map DeliverCall.id).Nodup
        rw [hids]
        exact h.calls_nodup
      dispatched := by
        intro y hy
        obtain ⟨hyissued, hused, hcalls⟩ := h.dispatched y hy
        have heq : x.id = y.id → x = y := hcalls _ hmem
        exact ⟨hyissued, hused, forall_mem_set hcalls heq⟩
      posts_issued := hissued
      posts_calls := by
        intro call hcall
        rcases eq_or_ne_of_mem_set h.calls_nodup hi hcall with rfl | ⟨hold, hne⟩
        · exact hcount
        · exact (hother call.id (Ne.symm hne)).trans (h.posts_calls call hold)
      posts_rows := by
        intro id row hrow
        have hne : x.id ≠ id := by
          rintro rfl
          exact Option.some_ne_none row (hrow.symm.trans hx.2)
        exact (hother id hne).trans (h.posts_rows id row hrow) }

/-- The URL is to be validated; -/
theorem Inv.moveCall (h : s.Inv) (webhook : Webhook)
    (hi : s.delivering[i]? = some ⟨x, .reading⟩) : (s.moveCall i ⟨x, .validating webhook⟩).Inv :=
  h.setCall hi h.posts_issued (h.posts_calls _ (List.mem_of_getElem? hi)) fun _ _ => rfl

/-- and the request is sent. -/
theorem Inv.postCall (h : s.Inv) {webhook : Webhook}
    (hi : s.delivering[i]? = some ⟨x, .validating webhook⟩) :
    ((s.moveCall i ⟨x, .posted⟩).post x.id).Inv := by
  have hmem := List.mem_of_getElem? hi
  have hcount : s.posts.count x.id = 0 := h.posts_calls _ hmem
  refine h.setCall hi (List.forall_mem_cons.mpr ⟨(h.calls _ hmem).1, h.posts_issued⟩) ?_ ?_
  · show (x.id :: s.posts).count x.id = 1
    rw [List.count_cons_self, hcount]
  · intro id hne
    exact List.count_cons_of_ne hne

/-- A call that has posted creates its row. -/
theorem Inv.createRow (h : s.Inv) {row : WebhookDelivery} (hi : s.delivering[i]? = some ⟨x, .posted⟩)
    (hid : row.id = x.id) (hconsistent : row.Consistent) (hattempts : row.attempts = 1) :
    ((s.endCall i).createRow row).Inv := by
  unfold WebhookState.createRow
  split
  swap
  · exact h.endCall i
  have hend := h.endCall i
  obtain ⟨hissued, hnone⟩ := h.calls _ (List.mem_of_getElem? hi)
  have hother : ∀ {id row'}, s.deliveries id = some row' → id ≠ row.id := by
    rintro id row' hrow' rfl
    rw [hid] at hrow'
    exact Option.some_ne_none row' (hrow'.symm.trans hnone)
  have hkept : ∀ {id row'}, s.deliveries id = some row' →
      Function.update s.deliveries row.id (some row) id = some row' := by
    intro id row' hrow'
    rw [Function.update_of_ne (hother hrow'), hrow']
  exact
    { hend with
      rows := by
        intro id row' hrow'
        by_cases heq : id = row.id
        · subst heq
          simp only [Function.update_self, Option.some.injEq] at hrow'
          subst hrow'
          exact ⟨rfl, hid ▸ hissued, hconsistent⟩
        · simp only [Function.update_of_ne heq] at hrow'
          exact h.rows id row' hrow'
      calls := by
        intro call hcall
        obtain ⟨hcallissued, hcallnone⟩ := hend.calls call hcall
        refine ⟨hcallissued, ?_⟩
        have hne : call.id ≠ row.id := by
          rw [hid]
          exact ne_of_mem_eraseIdx h.calls_nodup hi hcall
        simp only [Function.update_of_ne hne]
        exact hcallnone
      posts_rows := by
        intro id row' hrow'
        by_cases heq : id = row.id
        · subst heq
          simp only [Function.update_self, Option.some.injEq] at hrow'
          subst hrow'
          have hcount : s.posts.count row.id = 1 := by
            rw [hid]
            exact h.posts_calls _ (List.mem_of_getElem? hi)
          -- no job is named by a row that is not there yet
          have hjobs : s.jobs.countP (RetryJob.isPosted row.id) = 0 := by
            refine List.countP_eq_zero.mpr ?_
            intro job hjob
            obtain ⟨old, hold, -, -⟩ := h.jobs_rows job hjob
            have hne := hother hold
            unfold RetryJob.isPosted
            split <;> simp [hne]
          rw [hattempts]
          show s.posts.count row.id = 1 + s.jobs.countP _
          rw [hcount, hjobs]
        · simp only [Function.update_of_ne heq] at hrow'
          exact h.posts_rows id row' hrow'
      jobs_rows := by
        intro job hjob
        obtain ⟨old, hold, hrest⟩ := h.jobs_rows job hjob
        exact ⟨old, hkept hold, hrest⟩
      passes_rows := by
        intro pass hpass y hy
        obtain ⟨old, hold, hrest⟩ := h.passes_rows pass hpass y hy
        exact ⟨old, hkept hold, hrest⟩ }

end

/-! ### Retries -/

theorem isPosted_of_ne {id : String} {job : RetryJob} (hne : job.jobId.id ≠ id) :
    job.isPosted id = false := by
  unfold RetryJob.isPosted
  split
  · exact beq_false_of_ne hne
  · rfl

section

variable {i : Nat} {jobId : JobId} {stage : RetryStage} {row : WebhookDelivery}

/-- A call of `deliver` has no row, a job has one. -/
theorem Inv.call_ne_job (h : s.Inv) (hi : s.jobs[i]? = some ⟨jobId, stage⟩) {call : DeliverCall}
    (hcall : call ∈ s.delivering) : call.id ≠ jobId.id := by
  intro heq
  obtain ⟨row, hrow, -⟩ := h.jobs_rows _ (List.mem_of_getElem? hi)
  have hnone := (h.calls call hcall).2
  rw [heq] at hnone
  exact Option.some_ne_none row (hrow.symm.trans hnone)

/-- A job takes a step, with what it posts. -/
theorem Inv.setJob (h : s.Inv) {stage' : RetryStage} {posts : List String}
    (hi : s.jobs[i]? = some ⟨jobId, stage⟩) (hrow : s.deliveries jobId.id = some row)
    (hread : ∀ read, stage'.read = some read → read = row ∧ row.finished = false)
    (hissued : ∀ id ∈ posts, id ∈ s.issued)
    (hcount : posts.count jobId.id + (if RetryJob.isPosted jobId.id ⟨jobId, stage⟩ then 1 else 0) =
      s.posts.count jobId.id + if RetryJob.isPosted jobId.id ⟨jobId, stage'⟩ then 1 else 0)
    (hother : ∀ id, jobId.id ≠ id → posts.count id = s.posts.count id) :
    { s.moveJob i ⟨jobId, stage'⟩ with posts := posts }.Inv :=
  { h with
    posts_issued := hissued
    posts_calls := fun call hcall =>
      (hother call.id (Ne.symm (h.call_ne_job hi hcall))).trans (h.posts_calls call hcall)
    posts_rows := by
      intro id row' hrow'
      have hposts := h.posts_rows id row' hrow'
      have hset : (s.jobs.set i ⟨jobId, stage'⟩).countP (RetryJob.isPosted id)
          + (if RetryJob.isPosted id ⟨jobId, stage⟩ then 1 else 0)
          = s.jobs.countP (RetryJob.isPosted id)
          + (if RetryJob.isPosted id ⟨jobId, stage'⟩ then 1 else 0) := countP_set_add _ _ hi
      show posts.count id = row'.attempts + (s.jobs.set i ⟨jobId, stage'⟩).countP _
      by_cases heq : jobId.id = id
      · subst heq
        omega
      · rw [isPosted_of_ne heq, isPosted_of_ne heq] at hset
        rw [hother id heq]
        simp only [Bool.false_eq_true, if_false, Nat.add_zero] at hset
        omega
    jobs_nodup := by
      have hids : (s.jobs.set i ⟨jobId, stage'⟩).map RetryJob.jobId = s.jobs.map RetryJob.jobId :=
        map_set_of_eq hi rfl
      show ((s.jobs.set i ⟨jobId, stage'⟩).map RetryJob.jobId).Nodup
      rw [hids]
      exact h.jobs_nodup
    jobs_rows := by
      obtain ⟨old, hold, hattempts, -⟩ := h.jobs_rows _ (List.mem_of_getElem? hi)
      refine forall_mem_set h.jobs_rows ⟨row, hrow, ?_, hread⟩
      cases hrow.symm.trans hold
      exact hattempts }

/-- A job ends with an update of its row. -/
theorem Inv.closeJob (h : s.Inv) {job : RetryJob} (hi : s.jobs[i]? = some job)
    {f : WebhookDelivery → WebhookDelivery} (hrow : s.deliveries job.jobId.id = some row)
    (hid : (f row).id = row.id) (hconsistent : (f row).Consistent)
    (hattempts : (f row).attempts
      = row.attempts + if job.isPosted job.jobId.id then 1 else 0) :
    ((s.updateRow job.jobId.id f).endJob i job.jobId).Inv := by
  have hmem := List.mem_of_getElem? hi
  have hnamed : row.attempts = job.jobId.attempts := by
    obtain ⟨old, hold, hnamed, -⟩ := h.jobs_rows job hmem
    cases hrow.symm.trans hold
    exact hnamed
  have herase : ∀ p : RetryJob → Bool,
      (s.jobs.eraseIdx i).countP p + (if p job then 1 else 0) = s.jobs.countP p :=
    fun p => countP_eraseIdx_add p hi
  rw [updateRow, hrow]
  exact
    { h with
      rows := by
        intro id row' hrow'
        by_cases heq : id = job.jobId.id
        · subst heq
          simp only [endJob, Function.update_self, Option.some.injEq] at hrow'
          subst hrow'
          obtain ⟨hold, hissued, -⟩ := h.rows _ row hrow
          exact ⟨hid.trans hold, hissued, hconsistent⟩
        · simp only [endJob, Function.update_of_ne heq] at hrow'
          exact h.rows id row' hrow'
      calls := by
        intro call hcall
        obtain ⟨hissued, hnone⟩ := h.calls call hcall
        refine ⟨hissued, ?_⟩
        simp only [endJob, Function.update_of_ne (h.call_ne_job hi hcall)]
        exact hnone
      posts_rows := by
        intro id row' hrow'
        by_cases heq : id = job.jobId.id
        · subst heq
          simp only [endJob, Function.update_self, Option.some.injEq] at hrow'
          subst hrow'
          have hposts := h.posts_rows _ row hrow
          have hjobs := herase (RetryJob.isPosted job.jobId.id)
          show s.posts.count _ = _ + (s.jobs.eraseIdx i).countP _
          omega
        · simp only [endJob, Function.update_of_ne heq] at hrow'
          have hjobs := herase (RetryJob.isPosted id)
          rw [isPosted_of_ne (Ne.symm heq)] at hjobs
          simp only [Bool.false_eq_true, if_false, Nat.add_zero] at hjobs
          show s.posts.count _ = _ + (s.jobs.eraseIdx i).countP _
          rw [hjobs]
          exact h.posts_rows id row' hrow'
      jobs_nodup := h.jobs_nodup.sublist ((List.eraseIdx_sublist ..).map _)
      jobs_rows := by
        intro other hother
        obtain ⟨old, hold, hname, hread⟩ := h.jobs_rows other (List.mem_of_mem_eraseIdx hother)
        have hne : other.jobId ≠ job.jobId := ne_of_mem_eraseIdx h.jobs_nodup hi hother
        -- a job of the same row would have the same name
        have hid' : other.jobId.id ≠ job.jobId.id := by
          intro heq
          rw [heq, hrow] at hold
          cases hold
          apply hne
          cases hj : job.jobId
          cases ho : other.jobId
          simp_all
        refine ⟨old, ?_, hname, hread⟩
        simp only [endJob, Function.update_of_ne hid']
        exact hold
      passes_rows := by
        intro pass hpass x hx
        obtain ⟨old, hold, hknown⟩ := h.passes_rows pass hpass x hx
        by_cases heq : x.id = job.jobId.id
        · refine ⟨f row, ?_, Or.inr ?_⟩
          · simp only [endJob, heq, Function.update_self]
          · rcases hknown with hsame | hkept
            · rw [heq, hrow] at hold
              cases hold
              have hjob : x.jobId = job.jobId := by
                unfold Selected.jobId
                rw [heq, ← hsame, hnamed]
              exact hjob ▸ List.mem_cons_self
            · exact List.mem_cons_of_mem _ hkept
        · refine ⟨old, ?_, hknown.imp_right (List.mem_cons_of_mem _)⟩
          simp only [endJob, Function.update_of_ne heq]
          exact hold }

/-- A job that has posted nothing ends and leaves its row as it is. -/
theorem Inv.endJob (h : s.Inv) {job : RetryJob} (hi : s.jobs[i]? = some job)
    (hposted : job.isPosted job.jobId.id = false) : (s.endJob i job.jobId).Inv := by
  obtain ⟨row, hrow, -⟩ := h.jobs_rows job (List.mem_of_getElem? hi)
  have hsame : s.updateRow job.jobId.id (fun row => row) = s := by
    rw [updateRow, hrow]
    simp [← hrow]
  have hclose := h.closeJob (f := fun row => row) hi hrow rfl (h.rows _ row hrow).2.2 (by simp [hposted])
  rwa [hsame] at hclose

end

/-! ### The cron -/

theorem select_eq_some {now : Int} {id : String} {x : Selected} (h : s.select now id = some x) :
    ∃ row, s.deliveries id = some row ∧ x = ⟨row.id, row.attempts, row.maxAttempts⟩ := by
  unfold select readDelivery at h
  split at h
  · rename_i row webhook hread
    obtain ⟨row', hrow, hread⟩ := Option.bind_eq_some_iff.mp hread
    obtain ⟨webhook', -, heq⟩ := Option.map_eq_some_iff.mp hread
    cases heq
    split at h
    · exact ⟨row, hrow, (Option.some.inj h).symm⟩
    · cases h
  · cases h

theorem Inv.cronSelect (h : s.Inv) (now : Int) :
    { s with passes := s.passes ++ [s.issued.filterMap (s.select now)] }.Inv where
  __ := h
  passes_rows := by
    refine forall_mem_concat h.passes_rows ?_
    intro x hx
    obtain ⟨id, -, hselect⟩ := List.mem_filterMap.mp hx
    obtain ⟨row, hrow, rfl⟩ := select_eq_some hselect
    have hid : row.id = id := (h.rows id row hrow).1
    exact ⟨row, by rw [hid]; exact hrow, Or.inl rfl⟩

theorem Inv.addJob (h : s.Inv) {jobId : JobId} {row : WebhookDelivery}
    (hrow : s.deliveries jobId.id = some row)
    (hnamed : row.attempts = jobId.attempts ∨ jobId ∈ s.kept) : (s.addJob jobId).Inv := by
  unfold WebhookState.addJob
  split
  · exact h
  · rename_i hunknown
    obtain ⟨hnew, hkept⟩ := not_or.mp hunknown
    exact
      { h with
        posts_rows := by
          intro id row' hrow'
          show s.posts.count id
            = row'.attempts + (s.jobs ++ [(⟨jobId, .waiting⟩ : RetryJob)]).countP _
          rw [List.countP_append]
          exact h.posts_rows id row' hrow'
        jobs_nodup := by
          exact nodup_map_concat h.jobs_nodup hnew
        jobs_rows := by
          intro job hjob
          rcases List.mem_append.mp hjob with hjob | hjob
          · exact h.jobs_rows job hjob
          · cases List.mem_singleton.mp hjob
            exact ⟨row, hrow, hnamed.resolve_right hkept, nofun⟩ }

theorem Inv.skip (h : s.Inv) {k : Nat} {x : Selected} {rest : List Selected}
    (hk : s.passes[k]? = some (x :: rest)) : { s with passes := s.passes.set k rest }.Inv where
  __ := h
  passes_rows := by
    refine forall_mem_set h.passes_rows ?_
    intro y hy
    exact h.passes_rows _ (List.mem_of_getElem? hk) y (List.mem_cons_of_mem _ hy)

theorem Inv.evict (h : s.Inv) {jobId : JobId}
    (hfree : ¬ ∃ pass ∈ s.passes, ∃ x ∈ pass, x.jobId = jobId) :
    { s with kept := s.kept.filter (· ≠ jobId) }.Inv where
  __ := h
  passes_rows pass hpass x hx := by
    obtain ⟨row, hrow, hnamed⟩ := h.passes_rows pass hpass x hx
    refine ⟨row, hrow, hnamed.imp_right fun hkept => ?_⟩
    refine List.mem_filter.mpr ⟨hkept, ?_⟩
    simpa using fun heq => hfree ⟨pass, hpass, x, hx, heq⟩

/-! ### Every step -/

theorem mem_subscribed {event companyId : String} {webhook : Webhook}
    (h : webhook ∈ s.subscribed event companyId) :
    (∃ id, s.webhooks id = some webhook) ∧ webhook.companyId = companyId ∧
      webhook.isActive = true ∧ event ∈ webhook.events := by
  obtain ⟨hmem, hmatch⟩ := List.mem_filter.mp h
  obtain ⟨id, -, hid⟩ := List.mem_filterMap.mp hmem
  simp only [Bool.and_eq_true, beq_iff_eq, List.contains_iff_mem] at hmatch
  exact ⟨⟨id, hid⟩, hmatch.1.1, hmatch.1.2, hmatch.2⟩

/-- The calls of an event start one after the other. -/
theorem Inv.startEvents {event timestamp : String} {payload : Json} :
    ∀ {s : WebhookState} {calls : List (Webhook × String)}, s.Inv → (calls.map Prod.snd).Nodup →
      (∀ c ∈ calls, c.2 ∉ s.issued ∧ c.1.id ∈ s.used) →
      (calls.foldl (fun t (webhook, id) => t.startEvent
        ⟨id, webhook.id, event, eventPayload event timestamp payload⟩) s).Inv
  | _, [], h, _, _ => h
  | s, (webhook, id) :: calls, h, hnodup, hcalls => by
    obtain ⟨hnotin, hrest⟩ := List.nodup_cons.mp hnodup
    obtain ⟨hnew, hused⟩ := hcalls _ List.mem_cons_self
    have hstart : (s.startEvent ⟨id, webhook.id, event, eventPayload event timestamp payload⟩).Inv :=
      h.startEvent hnew hused
    refine hstart.startEvents hrest ?_
    intro c hc
    obtain ⟨hcnew, hcused⟩ := hcalls c (List.mem_cons_of_mem _ hc)
    refine ⟨?_, hcused⟩
    intro hmem
    rcases List.mem_cons.mp hmem with heq | hmem
    · have hid : c.2 = id := heq
      exact hnotin (List.mem_map.mpr ⟨c, hc, hid⟩)
    · exact hcnew hmem

theorem Inv.process (h : s.Inv) {i : Nat} {jobId : JobId}
    (hi : s.jobs[i]? = some ⟨jobId, .waiting⟩) : (s.process i jobId).Inv := by
  obtain ⟨row, hrow, -⟩ := h.jobs_rows _ (List.mem_of_getElem? hi)
  unfold WebhookState.process
  split
  · exact h.endJob hi rfl
  · rename_i delivery webhook hread
    obtain ⟨delivery', hdelivery, hread⟩ := Option.bind_eq_some_iff.mp hread
    obtain ⟨webhook', -, heq⟩ := Option.map_eq_some_iff.mp hread
    cases heq
    cases hrow.symm.trans hdelivery
    split
    · exact h.endJob hi rfl
    · rename_i hfinished
      split
      · exact h.closeJob hi hrow rfl (h.rows _ row hrow).2.2.stopped rfl
      · refine h.setJob hi hrow ?_ h.posts_issued rfl fun _ _ => rfl
        rintro read ⟨rfl⟩
        exact ⟨rfl, Bool.eq_false_iff.mpr hfinished⟩

/-- **Every step keeps the invariant.** -/
theorem Inv.step (h : s.Inv) {e : WebhookEvent} {t : WebhookState} (hstep : s.step e = some t) :
    t.Inv := by
  cases step_taken hstep with
  | @createWebhook webhook _ =>
    exact
      { h with
        webhooks := by
          intro id w hw
          by_cases heq : id = webhook.id
          · subst heq
            simp only [Function.update_self, Option.some.injEq] at hw
            exact ⟨hw ▸ rfl, List.mem_cons_self⟩
          · simp only [Function.update_of_ne heq] at hw
            exact ⟨(h.webhooks id w hw).1, List.mem_cons_of_mem _ (h.webhooks id w hw).2⟩
        dispatched := by
          intro x hx
          obtain ⟨hissued, hused, hcalls⟩ := h.dispatched x hx
          exact ⟨hissued, List.mem_cons_of_mem _ hused, hcalls⟩ }
  | @updateWebhook webhook old hold =>
    exact
      { h with
        webhooks := by
          intro id w hw
          by_cases heq : id = webhook.id
          · subst heq
            simp only [Function.update_self, Option.some.injEq] at hw
            exact ⟨hw ▸ rfl, (h.webhooks _ old hold).2⟩
          · simp only [Function.update_of_ne heq] at hw
            exact h.webhooks id w hw }
  | removeWebhook id =>
    exact
      { h with
        webhooks := by
          intro id' w hw
          by_cases heq : id' = id
          · subst heq
            simp only [Function.update_self] at hw
            cases hw
          · simp only [Function.update_of_ne heq] at hw
            exact h.webhooks id' w hw }
  | setDeleted companyId deleted =>
    refine { h with everDeleted := ?_ }
    intro c hc
    cases deleted with
    | true =>
      rcases List.mem_cons.mp hc with rfl | hc
      · exact List.mem_cons_self
      · exact List.mem_cons_of_mem _ (h.everDeleted c hc)
    | false => exact h.everDeleted c (List.mem_filter.mp hc).1
  | dispatch hlength hnodup hnew =>
    refine h.startEvents ?_ ?_
    · rw [List.map_snd_zip (le_of_eq hlength)]
      exact hnodup
    · rintro ⟨webhook, id⟩ hc
      obtain ⟨hwebhook, hid⟩ := List.of_mem_zip hc
      obtain ⟨⟨key, hkey⟩, -⟩ := mem_subscribed hwebhook
      obtain ⟨heq, hused⟩ := h.webhooks key webhook hkey
      exact ⟨hnew id hid, heq ▸ hused⟩
  | sendTest hnew => exact h.startCall hnew
  | webhookGone _ _ => exact h.endCall _
  | deliverRead hi => exact h.moveCall _ hi
  | deliverPosted hi => exact h.postCall hi
  | deliverUnsafe _ => exact h.endCall _
  | deliverAnswered hi outcome now => exact h.createRow hi rfl (firstRow_consistent ..) rfl
  | cronSelect now => exact h.cronSelect now
  | cronSkipped hk => exact h.skip hk
  | @cronAdded k x rest hk =>
    obtain ⟨row, hrow, hnamed⟩ := h.passes_rows _ (List.mem_of_getElem? hk) x List.mem_cons_self
    have hid : s.deliveries x.jobId.id = some row := hrow
    exact (h.skip hk).addJob hid hnamed
  | evict hfree => exact h.evict hfree
  | retryRead hi => exact h.process hi
  | @retryPosted i jobId delivery webhook hi =>
    obtain ⟨row, hrow, hnamed, hread⟩ := h.jobs_rows _ (List.mem_of_getElem? hi)
    obtain ⟨rfl, hfinished⟩ := hread delivery rfl
    refine h.setJob hi hrow ?_ ?_ ?_ ?_
    · rintro read ⟨rfl⟩
      exact ⟨rfl, hfinished⟩
    · exact List.forall_mem_cons.mpr ⟨(h.rows _ _ hrow).2.1, h.posts_issued⟩
    · simp [RetryJob.isPosted, moveJob]
    · intro id hne
      exact List.count_cons_of_ne hne
  | @retryUnsafe i jobId delivery webhook hi =>
    obtain ⟨row, hrow, -⟩ := h.jobs_rows _ (List.mem_of_getElem? hi)
    exact h.closeJob hi hrow rfl (h.rows _ _ hrow).2.2.stopped rfl
  | @retryAnswered i jobId delivery hi outcome now =>
    obtain ⟨row, hrow, hnamed, hread⟩ := h.jobs_rows _ (List.mem_of_getElem? hi)
    obtain ⟨rfl, hfinished⟩ := hread delivery rfl
    refine h.closeJob hi hrow rfl (.retried hfinished outcome.attempt now) ?_
    simp [RetryJob.isPosted, WebhookDelivery.retried]

/-! ## What a step does to a row -/

/-- The row after a step. -/
inductive RowStep (s : WebhookState) (e : WebhookEvent) (row : WebhookDelivery) :
    WebhookDelivery → Prop
  | same : RowStep s e row row
  | companyDeleted {webhook : Webhook} (hwebhook : s.webhooks row.webhookId = some webhook)
      (hdeleted : webhook.companyId ∈ s.deletedAt) : RowStep s e row row.stopped
  | unsafeUrl {i : Nat} {job : RetryJob} (he : e = .retryValidated i false)
      (hi : s.jobs[i]? = some job) (hid : job.jobId.id = row.id) (hfinished : row.finished = false) :
      RowStep s e row row.stopped
  | retried (attempt : Attempt) (now : Int) (hfinished : row.finished = false) :
      RowStep s e row (row.retried row attempt now)

theorem deliveries_startEvents {event timestamp : String} {payload : Json} :
    ∀ (calls : List (Webhook × String)) (s : WebhookState),
      (calls.foldl (fun t (webhook, id) => t.startEvent
        ⟨id, webhook.id, event, eventPayload event timestamp payload⟩) s).deliveries = s.deliveries
  | [], _ => rfl
  | _ :: calls, _ => deliveries_startEvents calls _

theorem deliveries_addJob (jobId : JobId) : (s.addJob jobId).deliveries = s.deliveries := by
  unfold WebhookState.addJob
  split <;> rfl

/-- The row of another id stays. -/
theorem updateRow_of_ne {id id' : String} (f : WebhookDelivery → WebhookDelivery) (hne : id ≠ id') :
    (s.updateRow id' f).deliveries id = s.deliveries id := by
  unfold updateRow
  split
  · exact Function.update_of_ne hne ..
  · rfl

theorem updateRow_self {id : String} {row : WebhookDelivery} (f : WebhookDelivery → WebhookDelivery)
    (hrow : s.deliveries id = some row) : (s.updateRow id f).deliveries id = some (f row) := by
  rw [updateRow, hrow]
  exact Function.update_self ..

/-- **A row stays, and changes only as `RowStep` says.** -/
theorem step_row (h : s.Inv) {e : WebhookEvent} {t : WebhookState} (hstep : s.step e = some t)
    {id : String} {row : WebhookDelivery} (hrow : s.deliveries id = some row) :
    ∃ row', t.deliveries id = some row' ∧ RowStep s e row row' := by
  have hsame : t.deliveries = s.deliveries → ∃ row', t.deliveries id = some row' ∧
      RowStep s e row row' := by
    intro heq
    exact ⟨row, heq ▸ hrow, .same⟩
  -- a job that ends with an update changes its own row
  have hclose : ∀ {i : Nat} {jobId : JobId} {f : WebhookDelivery → WebhookDelivery},
      t = (s.updateRow jobId.id f).endJob i jobId →
      (jobId.id = id → RowStep s e row (f row)) →
      ∃ row', t.deliveries id = some row' ∧ RowStep s e row row' := by
    rintro i jobId f rfl hchange
    by_cases heq : id = jobId.id
    · subst heq
      exact ⟨f row, updateRow_self f hrow, hchange rfl⟩
    · exact ⟨row, (updateRow_of_ne f heq).trans hrow, .same⟩
  cases step_taken hstep with
  | createWebhook _ | updateWebhook _ | removeWebhook _ | setDeleted _ _ | sendTest _
  | webhookGone _ _ | deliverRead _ | deliverPosted _ | deliverUnsafe _ | cronSelect _
  | cronSkipped _ | evict _ | retryPosted _ => exact hsame rfl
  | dispatch _ _ _ => exact hsame (deliveries_startEvents _ s)
  | cronAdded _ => exact hsame (deliveries_addJob _)
  | @deliverAnswered i x hi outcome now =>
    have hnone : s.deliveries x.id = none := (h.calls _ (List.mem_of_getElem? hi)).2
    have hne : id ≠ x.id := by
      rintro rfl
      exact Option.some_ne_none row (hrow.symm.trans hnone)
    unfold WebhookState.createRow
    split
    · refine ⟨row, ?_, .same⟩
      exact (Function.update_of_ne hne ..).trans hrow
    · exact ⟨row, hrow, .same⟩
  | @retryRead i jobId hi =>
    generalize ht : s.process i jobId = t at *
    unfold WebhookState.process at ht
    split at ht
    · exact hsame (by rw [← ht]; rfl)
    · rename_i delivery webhook hread
      obtain ⟨old, hold, hread⟩ := Option.bind_eq_some_iff.mp hread
      obtain ⟨webhook', hwebhook, heq⟩ := Option.map_eq_some_iff.mp hread
      cases heq
      split at ht
      · exact hsame (by rw [← ht]; rfl)
      · split at ht
        · rename_i hdeleted
          refine hclose ht.symm ?_
          rintro rfl
          cases hrow.symm.trans hold
          exact .companyDeleted hwebhook hdeleted
        · exact hsame (by rw [← ht]; rfl)
  | @retryUnsafe i jobId delivery webhook hi =>
    refine hclose rfl ?_
    rintro rfl
    obtain ⟨old, hold, -, hread⟩ := h.jobs_rows _ (List.mem_of_getElem? hi)
    obtain ⟨-, hfinished⟩ := hread delivery rfl
    cases hrow.symm.trans hold
    exact .unsafeUrl rfl hi (h.rows _ row hrow).1.symm hfinished
  | @retryAnswered i jobId delivery hi outcome now =>
    refine hclose rfl ?_
    rintro rfl
    obtain ⟨old, hold, -, hread⟩ := h.jobs_rows _ (List.mem_of_getElem? hi)
    obtain ⟨rfl, hfinished⟩ := hread delivery rfl
    cases hrow.symm.trans hold
    exact .retried outcome.attempt now hfinished

/-! ## Retries are bounded -/

theorem inv_of_run {events : List WebhookEvent} (hrun : Run (Steps step) start events s) : s.Inv :=
  hrun.invariant (fun h hstep => h.step hstep) start_inv

theorem RowStep.attempts_le {e : WebhookEvent} {row row' : WebhookDelivery}
    (h : RowStep s e row row') :
    row.attempts ≤ row'.attempts ∧ row'.maxAttempts = row.maxAttempts := by
  cases h with
  | same => exact ⟨Nat.le_refl _, rfl⟩
  | companyDeleted _ _ => exact ⟨Nat.le_refl _, rfl⟩
  | unsafeUrl _ _ _ _ => exact ⟨Nat.le_refl _, rfl⟩
  | retried attempt now _ => exact ⟨Nat.le_succ _, rfl⟩

/-- Of the jobs of a row at most one is there. -/
theorem Inv.countP_isPosted_le (h : s.Inv) {id : String} {row : WebhookDelivery}
    (hrow : s.deliveries id = some row) :
    row.attempts + s.jobs.countP (RetryJob.isPosted id) ≤ row.maxAttempts := by
  rcases Nat.eq_zero_or_pos (s.jobs.countP (RetryJob.isPosted id)) with hzero | hpos
  · rw [hzero]
    exact (h.rows id row hrow).2.2.bounded
  · obtain ⟨job, hjob, hposted⟩ := List.countP_pos_iff.mp hpos
    have hid : ∀ {j : RetryJob}, j.isPosted id = true → j.jobId.id = id := by
      intro j hj
      by_contra hne
      rw [isPosted_of_ne hne] at hj
      cases hj
    have hname : ∀ j ∈ s.jobs, j.isPosted id = true → j.jobId = ⟨id, row.attempts⟩ := by
      intro j hj hp
      obtain ⟨old, hold, hattempts, -⟩ := h.jobs_rows j hj
      rw [hid hp, hrow] at hold
      cases hold
      rw [hattempts, ← hid hp]
    -- the names of the jobs that have posted the row are all the same, and there are no two
    have hone : s.jobs.countP (RetryJob.isPosted id) ≤ 1 := by
      have hle : s.jobs.countP (RetryJob.isPosted id)
          ≤ s.jobs.countP ((· == ⟨id, row.attempts⟩) ∘ RetryJob.jobId) :=
        List.countP_mono_left fun j hj hp => by simpa using hname j hj hp
      have hcount := List.nodup_iff_count_le_one.mp h.jobs_nodup ⟨id, row.attempts⟩
      rw [List.count, List.countP_map] at hcount
      exact le_trans hle hcount
    obtain ⟨old, hold, -, hread⟩ := h.jobs_rows job hjob
    rw [hid hposted, hrow] at hold
    cases hold
    have hlt : row.attempts < row.maxAttempts := by
      unfold RetryJob.isPosted at hposted
      split at hposted
      · rename_i delivery hstage
        exact WebhookDelivery.attempts_lt (hread delivery (by rw [hstage]; rfl)).2
      · cases hposted
    omega

/-- **In every run: a row is posted at most `maxAttempts` times, it is scheduled only while it is
failed and has attempts left, and its attempts never decrease.** -/
theorem retries_bounded {t : WebhookState} {es₁ es₂ : List WebhookEvent}
    (h₁ : Run (Steps step) start es₁ t) (h₂ : Run (Steps step) t es₂ s) :
    (∀ id row, s.deliveries id = some row → s.posts.count id ≤ row.maxAttempts ∧
      (row.nextRetryAt.isSome → row.status = .failed ∧ row.attempts < row.maxAttempts)) ∧
    ∀ id row, t.deliveries id = some row → ∃ row', s.deliveries id = some row' ∧
      row.attempts ≤ row'.attempts := by
  have ht := inv_of_run h₁
  have hs : s.Inv := h₂.invariant (fun h hstep => h.step hstep) ht
  constructor
  · intro id row hrow
    refine ⟨?_, (hs.rows id row hrow).2.2.scheduled⟩
    rw [hs.posts_rows id row hrow]
    exact hs.countP_isPosted_le hrow
  · intro id row hrow
    have hboth : s.Inv ∧ ∃ row', s.deliveries id = some row' ∧ row.attempts ≤ row'.attempts := by
      refine h₂.invariant (I := fun u => u.Inv ∧ ∃ row', u.deliveries id = some row' ∧
        row.attempts ≤ row'.attempts) ?_ ⟨ht, row, hrow, Nat.le_refl _⟩
      rintro u e v ⟨hu, row', hrow', hle⟩ hstep
      obtain ⟨row'', hrow'', hchange⟩ := step_row hu hstep hrow'
      exact ⟨hu.step hstep, row'', hrow'', Nat.le_trans hle hchange.attempts_le.1⟩
    exact hboth.2

/-- An event is dispatched to a webhook that answers 503, -/
def firstEvents : List WebhookEvent :=
  [.createWebhook ⟨"w1", "c1", "https://receiver.test", "whsec_1", ["delivery.delivered"], true⟩,
    .dispatch "delivery.delivered" "c1" "2026-01-01T00:00:00Z" .null ["x1"],
    .deliverRead 0, .deliverValidated 0 true, .deliverAnswered 0 (.response 503 (.ok "")) 0]

/-- and then 200. -/
def retryEvents : List WebhookEvent :=
  [.cronSelect 200000, .cronAdd 0, .retryRead 0, .retryValidated 0 true,
    .retryAnswered 0 (.response 200 (.ok "ok")) 200500]

theorem retries_bounded_sample : ∃ t s, Run (Steps step) start firstEvents t ∧
    Run (Steps step) t retryEvents s ∧ ∃ row, s.deliveries "x1" = some row ∧ row.attempts = 2 ∧
      s.posts.count "x1" ≤ row.maxAttempts := by
  have hend : ((firstEvents ++ retryEvents).foldlM step start).any
      (fun s => (s.deliveries "x1").any fun row => row.attempts == 2) = true := by decide +kernel
  obtain ⟨s, hrun, hs⟩ := Run.of_foldlM_any hend
  obtain ⟨t, h₁, h₂⟩ := hrun.split
  cases hrow : s.deliveries "x1" with
  | none => simp [hrow] at hs
  | some row =>
    have hattempts : row.attempts = 2 := by simpa [hrow] using hs
    exact ⟨t, s, h₁, h₂, row, hrow, hattempts, ((retries_bounded h₁ h₂).1 "x1" row hrow).1⟩

end WebhookState

end DeliveryTracking.Webhooks
