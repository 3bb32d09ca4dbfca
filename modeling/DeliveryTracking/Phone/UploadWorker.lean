/-
# `DeliveryTracking.Phone.UploadWorker` — the native worker that uploads the queue

WorkManager starts the worker; a second one that runs meanwhile gives up.  It
sends the queue batch by batch:

    check     at the head of the loop: stopped, out of time, 25 batches: prune
    answer    not 2xx: the run ends, with nothing marked for this batch
              2xx: the rows of the batch are marked, those in `rejected` counted;
              the next batch, or prune when the queue is empty
    prune     in three parts; after the last what was counted is added to the
              persisted counter

Positions are inserted at any time.

`rejections_counted_iff`: a row is marked only in a batch that got a 2xx answer,
and an unsynced row goes only by its age or by the cap; but the counter grows by
what was rejected exactly when no run ends on another answer after a batch with
rejected rows.
-/
import DeliveryTracking.Phone.LocationQueue
import DeliveryTracking.Runs
import Mathlib.Data.List.Range
import Mathlib.Algebra.Group.Int.Defs

namespace DeliveryTracking.Phone

variable {α : Type}

/-- `BATCH_LIMIT` -/
def batchLimit : Nat := 200

/-- `MAX_BATCHES_PER_RUN` -/
def maxBatchesPerRun : Nat := 25

/-- `MAX_RUN_DURATION_MS` -/
def maxRunDurationMs : Int := 8 * 60 * 1000

/-! ## The answer -/

/-- An object in `rejected`, with the number under its `index`. -/
structure RejectedItem where
  index : Option Int
  deriving DecidableEq, Repr

/-- What comes of a request: an `IOException`, or a status with the array under `rejected`, `none`
where the body has none or cannot be read; what is not an object in it is `none`. -/
inductive Answer where
  | ioException
  | http (httpStatus : Int) (rejected : Option (List (Option RejectedItem)))
  deriving DecidableEq, Repr

def parseRejected (rejected : Option (List (Option RejectedItem))) : List Int :=
  match rejected with
  | none => []
  | some items =>
    items.filterMap fun item =>
      item.bind fun item =>
        let index := item.index.getD (-1)
        if index < 0 then none else some index

structure UploadResult where
  httpStatus : Int
  rejectedIndexes : List Int

/-- `uploadBatch`; `none` is an `IOException`. -/
def uploadBatch : Answer → Option UploadResult
  | .ioException => none
  | .http httpStatus rejected =>
    some
      { httpStatus := httpStatus
        rejectedIndexes :=
          if 200 ≤ httpStatus ∧ httpStatus < 300 then parseRejected rejected else [] }

def rejectedIds (indexes : List Int) (batch : List (LocationRow α)) : List Nat :=
  (batch.zipIdx.filter fun (_, idx) => indexes.contains (idx : Int)).map fun (p, _) => p.id

def acceptedIds (indexes : List Int) (batch : List (LocationRow α)) : List Nat :=
  (batch.zipIdx.filter fun (_, idx) => !indexes.contains (idx : Int)).map fun (p, _) => p.id

/-! ## The state -/

structure StoredToken where
  token : String
  expiresAtEpochMs : Int
  deriving DecidableEq, Repr

def StoredToken.isExpired (token : StoredToken) (now : Int) : Bool :=
  decide (token.expiresAtEpochMs ≤ now)

/-- `Result` -/
inductive WorkResult where
  | success
  | retry
  deriving DecidableEq, Repr

/-- The parts of `pruneOld`. -/
inductive PruneStage where
  | synced
  | stale
  | overflow
  deriving DecidableEq, Repr

inductive UploadStage (α : Type) where
  | checking (batch : List (LocationRow α))
  | sending (batch : List (LocationRow α))
  | pruning (part : PruneStage)

structure UploadRun (α : Type) where
  stage : UploadStage α
  /-- How many batches were acknowledged. -/
  i : Nat
  runStartedAt : Int
  totalRejected : Nat
  /-- The counter when the run started, and how many rows the server reported as rejected; no code
  reads these. -/
  counterBefore : Int32
  reported : Nat

/-- How a run ended. -/
structure EndedRun where
  result : WorkResult
  counterBefore : Int32
  counterAfter : Int32
  reported : Nat
  deriving DecidableEq

/-- `uploadInProgress` is set exactly while there is a run. -/
structure WorkerState (α : Type) where
  db : LocationQueueDb α
  /-- `gps_rejected_total` -/
  rejectedTotal : Int32
  run : Option (UploadRun α)
  /-- The runs that ended; no code reads these. -/
  ended : List EndedRun

inductive WorkerEvent (α : Type) where
  | insert (timestampMs createdAt : Int) (fix : α)
  | doWork (token : Option StoredToken) (apiUrl : Option String) (now elapsedRealtime : Int)
  | check (isStopped : Bool) (elapsedRealtime : Int)
  | answer (answer : Answer)
  | prune (now : Int)

/-- The server reports the row at this index as rejected. -/
def reports (rejected : Option (List (Option RejectedItem))) (idx : Nat) : Bool :=
  rejected.any fun items => items.contains (some ⟨some (idx : Int)⟩)

/-- How many rows of the batch an answer reports. -/
def reportedRows (answer : Answer) (batch : List (LocationRow α)) : Nat :=
  match answer with
  | .ioException => 0
  | .http _ rejected => (List.range batch.length).countP (reports rejected)

/-- A 2xx answer. -/
def Answer.isAcknowledged : Answer → Bool
  | .ioException => false
  | .http httpStatus _ => decide (200 ≤ httpStatus ∧ httpStatus < 300)

/-- The last part of `pruneOld`, before the worker returns. -/
def UploadStage.isLast : UploadStage α → Bool
  | .pruning .overflow => true
  | .checking _ | .sending _ | .pruning .synced | .pruning .stale => false

namespace WorkerState

variable (s : WorkerState α)

def start (db : LocationQueueDb α) (rejectedTotal : Int32) : WorkerState α where
  db := db
  rejectedTotal := rejectedTotal
  run := none
  ended := []

/-! ## The steps -/

def recordRejected (count : Nat) : WorkerState α :=
  { s with rejectedTotal := s.rejectedTotal + Int32.ofNat count }

/-- The worker returns. -/
def finish (run : UploadRun α) (result : WorkResult) : WorkerState α :=
  { s with
    run := none
    ended := s.ended ++ [⟨result, run.counterBefore, s.rejectedTotal, run.reported⟩] }

/-- A worker that has the lock, before the loop. -/
def doWorkLocked (token : Option StoredToken) (apiUrl : Option String)
    (now elapsedRealtime : Int) : WorkerState α :=
  let batch := s.db.getUnsyncedBatch batchLimit
  let run (stage : UploadStage α) : UploadRun α :=
    { stage := stage
      i := 0
      runStartedAt := elapsedRealtime
      totalRejected := 0
      counterBefore := s.rejectedTotal
      reported := 0 }
  if batch.isEmpty then { s with run := some (run (.pruning .synced)) }
  else if token.all (fun token => token.isExpired now) then s.finish (run (.checking batch)) .success
  else if apiUrl.all (fun apiUrl => apiUrl.isEmpty) then s.finish (run (.checking batch)) .success
  else { s with run := some (run (.checking batch)) }

/-- The head of the loop. -/
def checked (run : UploadRun α) (isStopped : Bool) (elapsedRealtime : Int)
    (batch : List (LocationRow α)) : WorkerState α :=
  let stage : UploadStage α :=
    if maxBatchesPerRun ≤ run.i ∨ isStopped = true
        ∨ maxRunDurationMs < elapsedRealtime - run.runStartedAt then
      .pruning .synced
    else .sending batch
  { s with run := some { run with stage := stage } }

/-- The rows of a batch that got a 2xx answer are marked, and the next batch is read. -/
def acknowledged (run : UploadRun α) (batch : List (LocationRow α)) (reported : Nat)
    (rejectedIndexes : List Int) : WorkerState α :=
  let rejected := rejectedIds rejectedIndexes batch
  let db := (s.db.markSynced rejected).markSynced (acceptedIds rejectedIndexes batch)
  let next := db.getUnsyncedBatch batchLimit
  { s with
    db := db
    run := some
      { run with
        stage := if next.isEmpty then .pruning .synced else .checking next
        i := run.i + 1
        totalRejected := run.totalRejected + rejected.length
        reported := run.reported + reported } }

def answered (run : UploadRun α) (batch : List (LocationRow α)) (answer : Answer) : WorkerState α :=
  match uploadBatch answer with
  | none => s.finish run .retry
  | some res =>
    if res.httpStatus = 401 then s.finish run .success
    else if res.httpStatus < 200 ∨ 300 ≤ res.httpStatus then s.finish run .retry
    else s.acknowledged run batch (reportedRows answer batch) res.rejectedIndexes

/-- A part of `pruneOld`; after the last the run ends. -/
def pruned (run : UploadRun α) (now : Int) : PruneStage → WorkerState α
  | .synced =>
    { s with
      db := s.db.pruneSynced now
      run := some { run with stage := .pruning .stale } }
  | .stale =>
    { s with
      db := s.db.pruneStale now
      run := some { run with stage := .pruning .overflow } }
  | .overflow =>
    let capped := { s with db := s.db.capUnsynced }
    let recorded := if 0 < run.totalRejected then capped.recordRejected run.totalRejected else capped
    recorded.finish run .success

def step : WorkerEvent α → Option (WorkerState α)
  | .insert timestampMs createdAt fix =>
    some { s with db := s.db.insert timestampMs createdAt fix }
  | .doWork token apiUrl now elapsedRealtime =>
    match s.run with
    -- `compareAndSet` fails, and the worker returns at once
    | some _ =>
      some { s with ended := s.ended ++ [⟨.success, s.rejectedTotal, s.rejectedTotal, 0⟩] }
    | none => some (s.doWorkLocked token apiUrl now elapsedRealtime)
  | .check isStopped elapsedRealtime =>
    match s.run with
    | some run =>
      match run.stage with
      | .checking batch => some (s.checked run isStopped elapsedRealtime batch)
      | .sending _ | .pruning _ => none
    | none => none
  | .answer answer =>
    match s.run with
    | some run =>
      match run.stage with
      | .sending batch => some (s.answered run batch answer)
      | .checking _ | .pruning _ => none
    | none => none
  | .prune now =>
    match s.run with
    | some run =>
      match run.stage with
      | .pruning part => some (s.pruned run now part)
      | .checking _ | .sending _ => none
    | none => none

/-! ## The property and the condition -/

/-- What a step may do to the rows. -/
structure RowsKept (s : WorkerState α) (e : WorkerEvent α) (t : WorkerState α) : Prop where
  /-- A row is marked in a batch that got a 2xx answer. -/
  marked : ∀ q ∈ t.db.rows, q.synced = true → q ∈ s.db.rows ∨
    ∃ run batch httpStatus rejected, s.run = some run ∧ run.stage = .sending batch
      ∧ e = .answer (.http httpStatus rejected) ∧ 200 ≤ httpStatus ∧ httpStatus < 300
      ∧ q.id ∈ batch.map LocationRow.id
  /-- An unsynced row goes only by its age, or because 50 000 others stay that are no older. -/
  deleted : ∀ p ∈ s.db.rows, p.synced = false → p ∈ t.db.rows ∨ p.mark ∈ t.db.rows
    ∨ ∃ now, e = .prune now ∧ (p.timestampMs < now - unsyncedMaxAgeMs ∨
      t.db.countUnsynced = maxUnsyncedRows ∧ ∀ q ∈ t.db.unsynced, p.timestampMs ≤ q.timestampMs)

/-- The counter has grown by what was reported in every run that ended. -/
def Counted (s : WorkerState α) : Prop :=
  ∀ run ∈ s.ended, run.counterAfter.toInt = run.counterBefore.toInt + run.reported

/-- The answer is not the end of a run that has counted rejected rows, and the counter has room for
those that are recorded. -/
def Counts (s : WorkerState α) : WorkerEvent α → Prop
  | .answer answer =>
    answer.isAcknowledged = true ∨ s.run.all (fun run => run.totalRejected == 0) = true
  | .prune _ =>
    s.run.all (fun run => !run.stage.isLast ||
      decide (s.rejectedTotal.toInt + run.totalRejected < 2 ^ 31)) = true
  | _ => True

instance (s : WorkerState α) : DecidablePred s.Counts
  | .answer _ => inferInstanceAs (Decidable (_ ∨ _))
  | .prune _ => inferInstanceAs (Decidable (_ = _))
  | .insert .. | .doWork .. | .check .. => .isTrue trivial

variable {s} {t : WorkerState α} {e : WorkerEvent α}

/-! ## The steps that are taken -/

/-- What each event does. -/
inductive Moves (s : WorkerState α) : WorkerEvent α → WorkerState α → Prop
  | insert (timestampMs createdAt : Int) (fix : α) :
      Moves s (.insert timestampMs createdAt fix)
        { s with db := s.db.insert timestampMs createdAt fix }
  | busy {run : UploadRun α} (hrun : s.run = some run) (token : Option StoredToken)
      (apiUrl : Option String) (now elapsed : Int) :
      Moves s (.doWork token apiUrl now elapsed)
        { s with ended := s.ended ++ [⟨.success, s.rejectedTotal, s.rejectedTotal, 0⟩] }
  | started (token : Option StoredToken) (apiUrl : Option String) (now elapsed : Int) :
      Moves s (.doWork token apiUrl now elapsed) (s.doWorkLocked token apiUrl now elapsed)
  | checked {run : UploadRun α} {batch : List (LocationRow α)} (hrun : s.run = some run)
      (hstage : run.stage = .checking batch) (isStopped : Bool) (elapsed : Int) :
      Moves s (.check isStopped elapsed) (s.checked run isStopped elapsed batch)
  | answered {run : UploadRun α} {batch : List (LocationRow α)} (hrun : s.run = some run)
      (hstage : run.stage = .sending batch) (answer : Answer) :
      Moves s (.answer answer) (s.answered run batch answer)
  | pruned {run : UploadRun α} {part : PruneStage} (hrun : s.run = some run)
      (hstage : run.stage = .pruning part) (now : Int) :
      Moves s (.prune now) (s.pruned run now part)

theorem step_moves (hstep : s.step e = some t) : Moves s e t := by
  cases e with
  | insert timestampMs createdAt fix =>
    obtain rfl := Option.some.inj hstep
    exact .insert ..
  | doWork token apiUrl now elapsed =>
    simp only [step] at hstep
    split at hstep
    · rename_i hrun
      obtain rfl := Option.some.inj hstep
      exact .busy hrun ..
    · obtain rfl := Option.some.inj hstep
      exact .started ..
  | check isStopped elapsed =>
    simp only [step] at hstep
    split at hstep
    · rename_i hrun
      split at hstep
      · rename_i hstage
        obtain rfl := Option.some.inj hstep
        exact .checked hrun hstage ..
      · cases hstep
      · cases hstep
    · cases hstep
  | answer answer =>
    simp only [step] at hstep
    split at hstep
    · rename_i hrun
      split at hstep
      · rename_i hstage
        obtain rfl := Option.some.inj hstep
        exact .answered hrun hstage ..
      · cases hstep
      · cases hstep
    · cases hstep
  | prune now =>
    simp only [step] at hstep
    split at hstep
    · rename_i hrun
      split at hstep
      · rename_i hstage
        obtain rfl := Option.some.inj hstep
        exact .pruned hrun hstage ..
      · cases hstep
      · cases hstep
    · cases hstep

/-! ## The rows -/

/-- A step that leaves the rows alone. -/
theorem rowsKept_of_eq (h : t.db = s.db) : RowsKept s e t where
  marked _ hq _ := Or.inl (h ▸ hq)
  deleted _ hp _ := Or.inl (h.symm ▸ hp)

theorem mem_ids_of_mem_rejectedIds {indexes : List Int} {batch : List (LocationRow α)} {id : Nat}
    (h : id ∈ rejectedIds indexes batch) : id ∈ batch.map LocationRow.id := by
  obtain ⟨⟨p, idx⟩, hp, rfl⟩ := List.mem_map.mp h
  exact List.mem_map_of_mem (List.fst_mem_of_mem_zipIdx (List.mem_filter.mp hp).1)

theorem mem_ids_of_mem_acceptedIds {indexes : List Int} {batch : List (LocationRow α)} {id : Nat}
    (h : id ∈ acceptedIds indexes batch) : id ∈ batch.map LocationRow.id := by
  obtain ⟨⟨p, idx⟩, hp, rfl⟩ := List.mem_map.mp h
  exact List.mem_map_of_mem (List.fst_mem_of_mem_zipIdx (List.mem_filter.mp hp).1)

/-- The batch of a 2xx answer is marked. -/
theorem acknowledged_rows {run : UploadRun α} {batch : List (LocationRow α)}
    {rejected : Option (List (Option RejectedItem))} {httpStatus : Int} (hrun : s.run = some run)
    (hstage : run.stage = .sending batch) (hlow : 200 ≤ httpStatus) (hhigh : httpStatus < 300)
    (reported : Nat) (indexes : List Int) :
    RowsKept s (.answer (.http httpStatus rejected))
      (s.acknowledged run batch reported indexes) where
  marked q hq _ := by
    have hcases : q ∈ s.db.rows ∨ q.id ∈ batch.map LocationRow.id := by
      rcases LocationQueueDb.mem_markSynced hq with hq | hid
      · exact (LocationQueueDb.mem_markSynced hq).imp_right mem_ids_of_mem_rejectedIds
      · exact Or.inr (mem_ids_of_mem_acceptedIds hid)
    refine hcases.imp_right fun hid => ?_
    exact ⟨run, batch, httpStatus, rejected, hrun, hstage, rfl, hlow, hhigh, hid⟩
  deleted p hp _ := by
    rcases LocationQueueDb.markSynced_keeps (rejectedIds indexes batch) hp with hp | hp
    · rcases LocationQueueDb.markSynced_keeps (acceptedIds indexes batch) hp with hp | hp
      · exact Or.inl hp
      · exact Or.inr (Or.inl hp)
    · rcases LocationQueueDb.markSynced_keeps (acceptedIds indexes batch) hp with hp | hp
      · exact Or.inr (Or.inl hp)
      · exact Or.inr (Or.inl hp)

theorem pruned_rows (run : UploadRun α) (now : Int) (part : PruneStage) :
    RowsKept s (.prune now) (s.pruned run now part) := by
  cases part with
  | synced =>
    exact
      { marked := fun q hq _ => Or.inl (LocationQueueDb.mem_deleteWhere.mp hq).1
        deleted := fun p hp hunsynced =>
          Or.inl (LocationQueueDb.mem_deleteWhere.mpr ⟨hp, by simp [hunsynced]⟩) }
  | stale =>
    refine ⟨fun q hq _ => Or.inl (LocationQueueDb.mem_deleteWhere.mp hq).1, ?_⟩
    intro p hp hunsynced
    by_cases hold : p.timestampMs < now - unsyncedMaxAgeMs
    · exact Or.inr (Or.inr ⟨now, rfl, Or.inl hold⟩)
    · exact Or.inl (LocationQueueDb.mem_deleteWhere.mpr ⟨hp, by simp [hold]⟩)
  | overflow =>
    have hdb : (s.pruned run now .overflow).db = s.db.capUnsynced := by
      simp only [pruned]
      split <;> rfl
    constructor
    · intro q hq _
      rw [hdb] at hq
      exact Or.inl (LocationQueueDb.mem_of_mem_capUnsynced hq)
    · intro p hp _
      rw [hdb]
      by_cases hgone : p ∈ s.db.capUnsynced.rows
      · exact Or.inl hgone
      · exact Or.inr (Or.inr ⟨now, rfl, Or.inr (LocationQueueDb.capUnsynced_deletes hp hgone)⟩)

theorem answered_rows {run : UploadRun α} {batch : List (LocationRow α)} (answer : Answer)
    (hrun : s.run = some run) (hstage : run.stage = .sending batch) :
    RowsKept s (.answer answer) (s.answered run batch answer) := by
  cases answer with
  | ioException => exact rowsKept_of_eq rfl
  | http httpStatus rejected =>
    simp only [answered, uploadBatch]
    split
    · exact rowsKept_of_eq rfl
    · split
      · exact rowsKept_of_eq rfl
      · rename_i hother
        exact acknowledged_rows hrun hstage (by omega) (by omega) _ _

theorem doWorkLocked_db (token : Option StoredToken) (apiUrl : Option String) (now elapsed : Int) :
    (s.doWorkLocked token apiUrl now elapsed).db = s.db := by
  simp only [doWorkLocked]
  split
  · rfl
  · split
    · rfl
    · split <;> rfl

/-- **Every step keeps the rows.** -/
theorem step_rows (hstep : s.step e = some t) : RowsKept s e t := by
  cases step_moves hstep with
  | insert timestampMs createdAt fix =>
    constructor
    · intro q hq hsynced
      rcases List.mem_append.mp hq with hq | hq
      · exact Or.inl hq
      · rw [List.mem_singleton.mp hq] at hsynced
        cases hsynced
    · intro p hp _
      exact Or.inl (List.mem_append_left _ hp)
  | busy => exact rowsKept_of_eq rfl
  | started => exact rowsKept_of_eq (doWorkLocked_db ..)
  | checked => exact rowsKept_of_eq rfl
  | answered hrun hstage answer => exact answered_rows answer hrun hstage
  | pruned => exact pruned_rows ..

/-! ## The counter -/

/-- A 32-bit counter grows by a number exactly when it has room for it. -/
theorem toInt_add_ofNat_iff (x : Int32) (n : Nat) :
    (x + Int32.ofNat n).toInt = x.toInt + n ↔ x.toInt + n < 2 ^ 31 := by
  have hlow := x.le_toInt
  have hsize : Int32.size = 2 ^ 32 := rfl
  constructor
  · intro h
    rw [← h]
    exact Int32.toInt_lt _
  · intro h
    rw [Int32.toInt_add, Int32.toInt_ofNat', hsize, Int.add_bmod_bmod]
    exact Int.bmod_eq_of_le_mul_two (by omega) (by omega)

/-- What is read from the answer are the indexes that the server reports. -/
theorem mem_parseRejected {rejected : Option (List (Option RejectedItem))} {idx : Nat} :
    (idx : Int) ∈ parseRejected rejected ↔ reports rejected idx = true := by
  cases rejected with
  | none => simp [parseRejected, reports]
  | some items =>
    rw [parseRejected, reports, Option.any_some, List.contains_iff_mem, List.mem_filterMap]
    constructor
    · rintro ⟨item, hitem, hparsed⟩
      obtain ⟨⟨index⟩, rfl, hindex⟩ := Option.bind_eq_some_iff.mp hparsed
      cases index with
      | none => cases hindex
      | some n =>
        dsimp only [Option.getD_some] at hindex
        split at hindex
        · cases hindex
        · obtain rfl := Option.some.inj hindex
          exact hitem
    · intro hmem
      refine ⟨_, hmem, ?_⟩
      dsimp only [Option.bind_some, Option.getD_some]
      exact if_neg (by omega)

/-- The ids that are rejected are those of the rows that the server reports. -/
theorem length_rejectedIds (batch : List (LocationRow α))
    (rejected : Option (List (Option RejectedItem))) :
    (rejectedIds (parseRejected rejected) batch).length
      = (List.range batch.length).countP (reports rejected) := by
  rw [rejectedIds, List.length_map, ← List.countP_eq_length_filter, List.range_eq_range',
    ← List.zipIdx_map_snd 0 batch, List.countP_map]
  refine List.countP_congr ?_
  rintro ⟨p, idx⟩ -
  exact List.contains_iff_mem.trans mem_parseRejected

/-- A run has counted what was reported, and the counter is as it was when it started. -/
def Inv (s : WorkerState α) : Prop :=
  ∀ run, s.run = some run →
    run.totalRejected = run.reported ∧ run.counterBefore = s.rejectedTotal

theorem start_inv (db : LocationQueueDb α) (rejectedTotal : Int32) :
    (start db rejectedTotal).Inv := nofun

theorem finish_inv (run : UploadRun α) (result : WorkResult) : (s.finish run result).Inv := nofun

/-- What a run in progress goes on to. -/
theorem Inv.moved (h : s.Inv) {run : UploadRun α} (hrun : s.run = some run) (db : LocationQueueDb α)
    (stage : UploadStage α) (i n : Nat) :
    Inv { s with
      db := db
      run := some
        { run with
          stage := stage
          i := i
          totalRejected := run.totalRejected + n
          reported := run.reported + n } } := by
  rintro _ ⟨⟩
  obtain ⟨htotal, hbefore⟩ := h run hrun
  exact ⟨congrArg (· + n) htotal, hbefore⟩

theorem finish_counted {run : UploadRun α} {result : WorkResult} :
    (s.finish run result).Counted ↔
      s.Counted ∧ s.rejectedTotal.toInt = run.counterBefore.toInt + run.reported := by
  show (∀ ended ∈ s.ended ++ [_], _) ↔ _
  rw [List.forall_mem_append, List.forall_mem_singleton]
  rfl

/-- A run that has not recorded anything is counted when nothing was reported. -/
theorem Inv.finish_counted (h : s.Inv) {run : UploadRun α} (hrun : s.run = some run)
    (hcounted : s.Counted) (result : WorkResult) :
    (s.finish run result).Counted ↔ run.totalRejected = 0 := by
  obtain ⟨htotal, hbefore⟩ := h run hrun
  rw [WorkerState.finish_counted, hbefore, htotal]
  constructor
  · rintro ⟨-, heq⟩
    omega
  · intro hnone
    exact ⟨hcounted, by omega⟩

/-- The last part of `pruneOld` counts the run when the counter has room. -/
theorem Inv.overflow_counted (h : s.Inv) {run : UploadRun α} (hrun : s.run = some run)
    (hcounted : s.Counted) (now : Int) :
    (s.pruned run now .overflow).Counted ↔ s.rejectedTotal.toInt + run.totalRejected < 2 ^ 31 := by
  obtain ⟨htotal, hbefore⟩ := h run hrun
  have hlt := s.rejectedTotal.toInt_lt
  simp only [pruned]
  split
  · rw [WorkerState.finish_counted, hbefore, ← htotal, ← toInt_add_ofNat_iff]
    exact and_iff_right hcounted
  · rw [WorkerState.finish_counted, hbefore, ← htotal]
    constructor
    · intro _
      omega
    · intro _
      exact ⟨hcounted, by show s.rejectedTotal.toInt = _; omega⟩

theorem doWorkLocked_inv (token : Option StoredToken) (apiUrl : Option String) (now elapsed : Int) :
    (s.doWorkLocked token apiUrl now elapsed).Inv := by
  simp only [doWorkLocked]
  split
  · rintro _ ⟨⟩
    exact ⟨rfl, rfl⟩
  · split
    · exact finish_inv _ _
    · split
      · exact finish_inv _ _
      · rintro _ ⟨⟩
        exact ⟨rfl, rfl⟩

theorem doWorkLocked_counted (hcounted : s.Counted) (token : Option StoredToken)
    (apiUrl : Option String) (now elapsed : Int) :
    (s.doWorkLocked token apiUrl now elapsed).Counted := by
  simp only [doWorkLocked]
  split
  · exact hcounted
  · split
    · exact finish_counted.mpr ⟨hcounted, (Int.add_zero _).symm⟩
    · split
      · exact finish_counted.mpr ⟨hcounted, (Int.add_zero _).symm⟩
      · exact hcounted

/-- A run that is not acknowledged ends; one that is goes on, and counts what was reported. -/
theorem Inv.answered (h : s.Inv) {run : UploadRun α} (hrun : s.run = some run)
    (batch : List (LocationRow α)) (answer : Answer) :
    (s.answered run batch answer).Inv := by
  cases answer with
  | ioException => exact finish_inv _ _
  | http httpStatus rejected =>
    simp only [WorkerState.answered, uploadBatch]
    split
    · exact finish_inv _ _
    · split
      · exact finish_inv _ _
      · rename_i hother
        rw [if_pos (by omega), acknowledged, length_rejectedIds]
        exact h.moved hrun _ _ _ _

theorem Inv.answered_counted (h : s.Inv) {run : UploadRun α} (hrun : s.run = some run)
    (hcounted : s.Counted) (batch : List (LocationRow α)) (answer : Answer) :
    (s.answered run batch answer).Counted ↔
      answer.isAcknowledged = true ∨ run.totalRejected = 0 := by
  cases answer with
  | ioException =>
    show (s.finish run .retry).Counted ↔ _
    rw [h.finish_counted hrun hcounted]
    exact (or_iff_right Bool.false_ne_true).symm
  | http httpStatus rejected =>
    simp only [WorkerState.answered, uploadBatch, Answer.isAcknowledged, decide_eq_true_eq]
    split
    · rename_i hrefused
      rw [h.finish_counted hrun hcounted]
      exact (or_iff_right (by omega)).symm
    · split
      · rename_i hother
        rw [h.finish_counted hrun hcounted]
        exact (or_iff_right (by omega)).symm
      · rename_i hother
        exact iff_of_true hcounted (Or.inl (by omega))

theorem Inv.pruned (h : s.Inv) {run : UploadRun α} (hrun : s.run = some run) (now : Int)
    (part : PruneStage) : (s.pruned run now part).Inv := by
  cases part with
  | synced => exact h.moved hrun _ _ run.i 0
  | stale => exact h.moved hrun _ _ run.i 0
  | overflow => exact finish_inv _ _

theorem Inv.step (h : s.Inv) (hstep : s.step e = some t) : t.Inv := by
  cases step_moves hstep with
  | insert => exact h
  | busy => exact h
  | started token apiUrl now elapsed => exact doWorkLocked_inv token apiUrl now elapsed
  | @checked run _ hrun => exact h.moved hrun s.db _ run.i 0
  | @answered run batch hrun _ answer => exact h.answered hrun batch answer
  | @pruned run part hrun _ now => exact h.pruned hrun now part

/-- **A step keeps the count exactly when `Counts` allows it.** -/
theorem Inv.step_counted (h : s.Inv) (hcounted : s.Counted) (hstep : s.step e = some t) :
    t.Counted ↔ s.Counts e := by
  cases step_moves hstep with
  | insert => exact iff_of_true hcounted trivial
  | busy => exact iff_of_true (forall_mem_concat hcounted (Int.add_zero _).symm) trivial
  | started token apiUrl now elapsed =>
    exact iff_of_true (doWorkLocked_counted hcounted token apiUrl now elapsed) trivial
  | checked => exact iff_of_true hcounted trivial
  | @answered run batch hrun _ answer =>
    rw [h.answered_counted hrun hcounted, Counts, hrun, Option.all_some, beq_iff_eq]
  | @pruned run part hrun hstage now =>
    rw [Counts, hrun, Option.all_some, hstage]
    cases part with
    | synced => exact iff_of_true hcounted rfl
    | stale => exact iff_of_true hcounted rfl
    | overflow =>
      rw [h.overflow_counted hrun hcounted]
      simp [UploadStage.isLast]

/-- **The worker marks a row only in a batch that got a 2xx answer, and drops an unsynced one only by
its age or the cap; the counter grows in every run by what was rejected exactly when no run ends on
another answer after rejected rows, and the counter does not overflow.** -/
theorem rejections_counted_iff (db : LocationQueueDb α) (rejectedTotal : Int32)
    {events : List (WorkerEvent α)}
    (hrun : Run (Steps WorkerState.step) (start db rejectedTotal) events s) :
    ((∀ es₁ es₂ u, events = es₁ ++ es₂ →
        Run (Steps WorkerState.step) (start db rejectedTotal) es₁ u → u.Counted) ↔
      Run (Guarded (Steps WorkerState.step) Counts) (start db rejectedTotal) events s) ∧
    ∀ (u : WorkerState α) e v, u.step e = some v → RowsKept u e v := by
  refine ⟨?_, fun u e v hstep => step_rows hstep⟩
  have hexact : (∀ es₁ es₂ u, events = es₁ ++ es₂ →
      Run (Steps WorkerState.step) (start db rejectedTotal) es₁ u → u.Inv ∧ u.Counted) ↔
        Run (Guarded (Steps WorkerState.step) Counts) (start db rejectedTotal) events s := by
    refine Run.always_iff_guarded ?_ ?_ hrun ⟨start_inv db rejectedTotal, nofun⟩
    · intro s e t t' ht ht'
      exact Option.some.inj (ht.symm.trans ht')
    · rintro s e t ⟨hinv, hcounted⟩ hstep
      exact (and_iff_right (hinv.step hstep)).trans (hinv.step_counted hcounted hstep)
  rw [← hexact]
  constructor
  · intro h es₁ es₂ u hes hu
    exact ⟨hu.invariant (I := Inv) Inv.step (start_inv db rejectedTotal), h es₁ es₂ u hes hu⟩
  · intro h es₁ es₂ u hes hu
    exact (h es₁ es₂ u hes hu).2

def emptyDb : LocationQueueDb Unit := ⟨1, [], List.Pairwise.nil, nofun⟩

/-- Two rows are sent, of which the second one is rejected. -/
def rejectedOnce : List (WorkerEvent Unit) :=
  [.insert 1000 1000 (), .insert 2000 2000 (), .doWork (some ⟨"token", 9000⟩) (some "api") 3000 0,
    .check false 0, .answer (.http 200 (some [some ⟨some 1⟩])), .prune 3000, .prune 3000, .prune 3000]

theorem rejections_counted_sample :
    ∃ s, Run (Steps WorkerState.step) (start emptyDb 0) rejectedOnce s ∧ s.rejectedTotal = 1
      ∧ s.Counted := by
  obtain ⟨s, hs, htotal⟩ : ∃ s, rejectedOnce.foldlM (guardStep WorkerState.step Counts)
      (start emptyDb 0) = some s ∧ s.rejectedTotal = 1 := ⟨_, rfl, by decide +kernel⟩
  have hrun := Run.of_guardStep hs
  refine ⟨s, hrun.of_guarded, htotal, ?_⟩
  exact (rejections_counted_iff emptyDb 0 hrun.of_guarded).1.mpr hrun _ [] s
    (List.append_nil _).symm hrun.of_guarded

/-- A row comes in while another one is sent and rejected; its batch is answered with 401. -/
def rejectedThenRefused : List (WorkerEvent Unit) :=
  [.insert 1000 1000 (), .doWork (some ⟨"token", 9000⟩) (some "api") 3000 0, .check false 0,
    .insert 2000 2000 (), .answer (.http 200 (some [some ⟨some 0⟩])), .check false 100,
    .answer (.http 401 none)]

/-- **The rejected row is marked, and counted nowhere.** -/
theorem rejection_uncounted :
    ∃ s, Run (Steps WorkerState.step) (start emptyDb 0) rejectedThenRefused s ∧
      s.run.isNone = true ∧ ¬ s.Counted := by
  have hend : (rejectedThenRefused.foldlM WorkerState.step (start emptyDb 0)).any (fun s =>
      s.run.isNone && s.ended == [⟨.success, 0, 0, 1⟩]) = true := by decide +kernel
  obtain ⟨s, hrun, hs⟩ := Run.of_foldlM_any hend
  rw [Bool.and_eq_true, beq_iff_eq] at hs
  refine ⟨s, hrun, hs.1, ?_⟩
  intro hcounted
  have hbad := hcounted ⟨.success, 0, 0, 1⟩ (by rw [hs.2]; exact List.mem_singleton_self _)
  exact absurd hbad (by decide)

end WorkerState

end DeliveryTracking.Phone
