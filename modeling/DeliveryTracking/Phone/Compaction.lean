/-
# `DeliveryTracking.Phone.Compaction` — the phone's queue and its compaction

Positions that cannot be sent wait in an IndexedDB store, ordered by an id that
grows with each position and is never given twice.  When the store is full the
old positions are compacted: of those in one time bucket of 45 s the first stays,
marked, and the others are deleted.

The bucket is one of time alone.  `compaction_traces_iff`: the recent positions
are left alone and a second compaction changes nothing; but a deleted position
leaves another of its vehicle and delivery in its bucket exactly when the first
old one of the bucket, or a recent one in it, has the same vehicle and delivery.
-/
import DeliveryTracking.Buckets
import Mathlib.Data.List.Pairwise

namespace DeliveryTracking.Phone

/-! ## The store -/

/-- A position as it is queued.  A date is the time it parses to, `none` when it is no date; `fix` is
what else the position carries. -/
structure Position (α : Type) where
  vehicleId : Option String
  deliveryId : Option String
  timestamp : Option (Option Int)
  fix : α
  deriving DecidableEq, Repr

/-- A row of the store. -/
structure QueuedPosition (α : Type) extends Position α where
  id : Nat
  queuedAt : Int
  compressed : Bool
  deriving DecidableEq, Repr

variable {α : Type}

/-- `new Date(String(value.timestamp ?? value.queuedAt ?? ''))` -/
def QueuedPosition.time (p : QueuedPosition α) : Option Int :=
  match p.timestamp with
  | some time => time
  | none => some p.queuedAt

/-- `position-queue`, with the next id of its generator. -/
@[ext]
structure PositionStore (α : Type) where
  next : Nat
  rows : List (QueuedPosition α)
  sorted : rows.Pairwise fun p q => p.id < q.id
  fresh : ∀ p ∈ rows, p.id < next

namespace PositionStore

variable (s : PositionStore α)

/-- `add` -/
def add (pos : Position α) (queuedAt : Int) : PositionStore α where
  next := s.next + 1
  rows := s.rows ++ [⟨pos, s.next, queuedAt, false⟩]
  sorted := by
    refine List.pairwise_append.mpr ⟨s.sorted, List.pairwise_singleton _ _, ?_⟩
    intro p hp q hq
    rw [List.mem_singleton.mp hq]
    exact s.fresh p hp
  fresh := by
    intro p hp
    rcases List.mem_append.mp hp with hp | hp
    · exact Nat.lt_succ_of_lt (s.fresh p hp)
    · rw [List.mem_singleton.mp hp]
      exact Nat.lt_succ_self _

/-- `delete`, of each of the ids. -/
def delete (ids : List Nat) : PositionStore α where
  next := s.next
  rows := s.rows.filter fun p => p.id ∉ ids
  sorted := s.sorted.filter _
  fresh p hp := s.fresh p (List.mem_filter.mp hp).1

theorem nodup_ids : (s.rows.map QueuedPosition.id).Nodup := by
  rw [List.Nodup, List.pairwise_map]
  exact s.sorted.imp Nat.ne_of_lt

theorem eq_of_id {p q : QueuedPosition α} (hp : p ∈ s.rows) (hq : q ∈ s.rows) (h : p.id = q.id) :
    p = q :=
  List.inj_on_of_nodup_map s.nodup_ids hp hq h

end PositionStore

/-! ## The scan -/

/-- `COMPACT_HORIZON_MS` -/
def compactHorizonMs : Int := 5 * 60 * 1000

/-- `COMPACT_BUCKET_MS` -/
def compactBucketMs : Int := 45 * 1000

/-- `bucketTs` -/
def bucketTs (ts : Int) : Int := ts / compactBucketMs * compactBucketMs

/-- The bucket of an old position; `none` for one that is recent, or has no date. -/
def oldBucket (cutoff : Int) (p : QueuedPosition α) : Option Int :=
  match p.time with
  | some ts => if 0 < ts ∧ ts < cutoff then some (bucketTs ts) else none
  | none => none

/-- `{ ...value, compressed: true }` -/
def QueuedPosition.compress (p : QueuedPosition α) : QueuedPosition α := { p with compressed := true }

/-- The cursor over the rows: the rows with the first of each bucket marked, and `toDelete`. -/
def scan (cutoff : Int) : List (Int × Nat) → List (QueuedPosition α) →
    List (QueuedPosition α) × List Nat
  | _, [] => ([], [])
  | keptPerBucket, value :: values =>
    match oldBucket cutoff value with
    | none =>
      let (rows, toDelete) := scan cutoff keptPerBucket values
      (value :: rows, toDelete)
    | some bucket =>
      match keptPerBucket.lookup bucket with
      | none =>
        let (rows, toDelete) := scan cutoff ((bucket, value.id) :: keptPerBucket) values
        (value.compress :: rows, toDelete)
      | some keptId =>
        let (rows, toDelete) := scan cutoff keptPerBucket values
        (value :: rows, if keptId ≠ value.id then value.id :: toDelete else toDelete)

section

variable {cutoff : Int} {kept : List (Int × Nat)} {value : QueuedPosition α}
  {values : List (QueuedPosition α)} {bucket : Int}

theorem scan_recent (h : oldBucket cutoff value = none) :
    scan cutoff kept (value :: values)
      = (value :: (scan cutoff kept values).1, (scan cutoff kept values).2) := by
  rw [scan, h]

theorem scan_first (h : oldBucket cutoff value = some bucket) (hkept : kept.lookup bucket = none) :
    scan cutoff kept (value :: values)
      = (value.compress :: (scan cutoff ((bucket, value.id) :: kept) values).1,
        (scan cutoff ((bucket, value.id) :: kept) values).2) := by
  rw [scan, h]
  simp only [hkept]

theorem scan_later {keptId : Nat} (h : oldBucket cutoff value = some bucket)
    (hkept : kept.lookup bucket = some keptId) :
    scan cutoff kept (value :: values)
      = (value :: (scan cutoff kept values).1,
        if keptId ≠ value.id then value.id :: (scan cutoff kept values).2
        else (scan cutoff kept values).2) := by
  rw [scan, h]
  simp only [hkept]

end

/-- The scan leaves the ids, and so the order, as they are. -/
theorem scan_ids (cutoff : Int) : ∀ (values : List (QueuedPosition α)) (kept : List (Int × Nat)),
    (scan cutoff kept values).1.map QueuedPosition.id = values.map QueuedPosition.id
  | [], _ => rfl
  | value :: values, kept => by
    cases hbucket : oldBucket cutoff value with
    | none =>
      rw [scan_recent hbucket]
      exact congrArg (value.id :: ·) (scan_ids cutoff values kept)
    | some bucket =>
      cases hkept : kept.lookup bucket with
      | none =>
        rw [scan_first hbucket hkept]
        exact congrArg (value.id :: ·) (scan_ids cutoff values _)
      | some keptId =>
        rw [scan_later hbucket hkept]
        exact congrArg (value.id :: ·) (scan_ids cutoff values kept)

/-- `compactOldestPositions`: the result, and the store after it. -/
def compactOldestPositions (now : Int) (s : PositionStore α) : Bool × PositionStore α :=
  let scanned := scan (now - compactHorizonMs) [] s.rows
  let marked : PositionStore α :=
    { next := s.next
      rows := scanned.1
      sorted := by
        have hids : (scanned.1.map QueuedPosition.id).Pairwise (· < ·) := by
          rw [scan_ids, List.pairwise_map]
          exact s.sorted
        rwa [List.pairwise_map] at hids
      fresh := by
        intro p hp
        have hid : p.id ∈ s.rows.map QueuedPosition.id := by
          rw [← scan_ids (now - compactHorizonMs) s.rows []]
          exact List.mem_map_of_mem hp
        obtain ⟨q, hq, heq⟩ := List.mem_map.mp hid
        rw [← heq]
        exact s.fresh q hq }
  (scanned.2 ≠ [], marked.delete scanned.2)

/-! ## What is left -/

theorem oldBucket_compress (cutoff : Int) (p : QueuedPosition α) :
    oldBucket cutoff p.compress = oldBucket cutoff p := rfl

/-- The scan deletes rows it has passed. -/
theorem scan_deletes (cutoff : Int) : ∀ (values : List (QueuedPosition α)) (kept : List (Int × Nat)),
    ∀ id ∈ (scan cutoff kept values).2, id ∈ values.map QueuedPosition.id
  | [], _ => nofun
  | value :: values, kept => by
    intro id hid
    cases hbucket : oldBucket cutoff value with
    | none =>
      rw [scan_recent hbucket] at hid
      exact List.mem_cons_of_mem _ (scan_deletes cutoff values kept id hid)
    | some bucket =>
      cases hkept : kept.lookup bucket with
      | none =>
        rw [scan_first hbucket hkept] at hid
        exact List.mem_cons_of_mem _ (scan_deletes cutoff values _ id hid)
      | some keptId =>
        rw [scan_later hbucket hkept] at hid
        split at hid
        · rcases List.mem_cons.mp hid with rfl | hid
          · exact List.mem_cons_self
          · exact List.mem_cons_of_mem _ (scan_deletes cutoff values kept id hid)
        · exact List.mem_cons_of_mem _ (scan_deletes cutoff values kept id hid)

/-- What the scan marks, less what it deletes, is the first of each bucket. -/
theorem filter_scan (cutoff : Int) : ∀ {values : List (QueuedPosition α)} {kept : List (Int × Nat)},
    (values.map QueuedPosition.id).Nodup → (∀ p ∈ values, ∀ k ∈ kept, k.2 ≠ p.id) →
    (scan cutoff kept values).1.filter (fun p => p.id ∉ (scan cutoff kept values).2)
      = firstOfEach (oldBucket cutoff) QueuedPosition.compress (kept.map Prod.fst) values
  | [], _, _, _ => rfl
  | value :: values, kept, hids, hkept => by
    obtain ⟨hnew, hids⟩ := List.nodup_cons.mp hids
    have hrest : ∀ p ∈ values, ∀ k ∈ kept, k.2 ≠ p.id := fun p hp =>
      hkept p (List.mem_cons_of_mem _ hp)
    have hstays : ∀ kept', value.id ∉ (scan cutoff kept' values).2 := fun kept' hmem =>
      hnew (scan_deletes cutoff values kept' _ hmem)
    cases hbucket : oldBucket cutoff value with
    | none =>
      rw [scan_recent hbucket, firstOfEach_none hbucket, ← filter_scan cutoff hids hrest]
      exact List.filter_cons_of_pos (decide_eq_true (hstays kept))
    | some bucket =>
      cases hlookup : kept.lookup bucket with
      | none =>
        have hunseen : bucket ∉ kept.map Prod.fst := by
          intro hmem
          obtain ⟨k, hk, rfl⟩ := List.mem_map.mp hmem
          have hne := List.lookup_eq_none_iff.mp hlookup k hk
          simp at hne
        have hkept' : ∀ p ∈ values, ∀ k ∈ (bucket, value.id) :: kept, k.2 ≠ p.id := by
          intro p hp
          refine List.forall_mem_cons.mpr ⟨?_, hrest p hp⟩
          intro heq
          exact hnew (List.mem_map.mpr ⟨p, hp, heq.symm⟩)
        have ih := filter_scan cutoff hids hkept'
        rw [scan_first hbucket hlookup, firstOfEach_new hbucket hunseen]
        rw [List.map_cons] at ih
        rw [← ih]
        exact List.filter_cons_of_pos (decide_eq_true (hstays _))
      | some keptId =>
        obtain ⟨before, after, heq, -⟩ := List.lookup_eq_some_iff.mp hlookup
        have hmem : (bucket, keptId) ∈ kept := by
          rw [heq]
          exact List.mem_append_right _ List.mem_cons_self
        have hne : keptId ≠ value.id := hkept value List.mem_cons_self _ hmem
        rw [scan_later hbucket hlookup, if_pos hne,
          firstOfEach_seen hbucket (List.mem_map_of_mem (f := Prod.fst) hmem),
          ← filter_scan cutoff hids hrest]
        refine (List.filter_cons_of_neg (by simp)).trans ?_
        refine List.filter_congr ?_
        intro p hp
        have hid : p.id ∈ values.map QueuedPosition.id := by
          rw [← scan_ids cutoff values kept]
          exact List.mem_map_of_mem hp
        have hother : p.id ≠ value.id := by
          intro heq
          exact hnew (heq ▸ hid)
        simp [hother]

/-- **The compaction keeps the first old position of each bucket, and what is not old.** -/
theorem rows_compact (now : Int) (s : PositionStore α) :
    (compactOldestPositions now s).2.rows
      = firstOfEach (oldBucket (now - compactHorizonMs)) QueuedPosition.compress [] s.rows :=
  filter_scan _ s.nodup_ids (by simp)

/-! ## What is left of a bucket -/

section

variable (now : Int) (s : PositionStore α)

/-- The rows that are not old: recent, or without a date. -/
def isRecent (p : QueuedPosition α) : Bool := (oldBucket (now - compactHorizonMs) p).isNone

/-- The first old row of a bucket. -/
def firstOfBucket (bucket : Int) : Option (QueuedPosition α) :=
  s.rows.find? fun p => oldBucket (now - compactHorizonMs) p == some bucket

/-- Of the vehicle and the delivery of a row, in a bucket. -/
def Represents (bucket : Int) (p q : QueuedPosition α) : Prop :=
  q.vehicleId = p.vehicleId ∧ q.deliveryId = p.deliveryId ∧ q.time.map bucketTs = some bucket

/-- What a compaction without loss does. -/
structure Traced : Prop where
  recent : (compactOldestPositions now s).2.rows.filter (isRecent now)
    = s.rows.filter (isRecent now)
  idempotent : compactOldestPositions now (compactOldestPositions now s).2
    = (false, (compactOldestPositions now s).2)
  represented : ∀ p ∈ s.rows, ∀ bucket, oldBucket (now - compactHorizonMs) p = some bucket →
    p.id ∉ (compactOldestPositions now s).2.rows.map QueuedPosition.id →
    ∃ q ∈ (compactOldestPositions now s).2.rows, Represents bucket p q

/-- An old row is the first of its bucket, or that one or a recent one represents it. -/
def Separated : Prop :=
  ∀ p ∈ s.rows, ∀ bucket, oldBucket (now - compactHorizonMs) p = some bucket →
    firstOfBucket now s bucket = some p ∨
      ∃ q ∈ s.rows, Represents bucket p q ∧
        (isRecent now q = true ∨ firstOfBucket now s bucket = some q)

end

section

variable {now : Int} {s : PositionStore α} {p : QueuedPosition α} {bucket : Int}

theorem bucket_of_old {cutoff : Int} (h : oldBucket cutoff p = some bucket) :
    p.time.map bucketTs = some bucket := by
  unfold oldBucket at h
  split at h
  · rename_i ts hts
    split at h
    · rw [hts]
      exact h
    · cases h
  · cases h

theorem compact_recent (now : Int) (s : PositionStore α) :
    (compactOldestPositions now s).2.rows.filter (isRecent now) = s.rows.filter (isRecent now) := by
  rw [rows_compact]
  exact filter_firstOfEach (fun p => oldBucket_compress _ p) s.rows []

theorem compact_twice (now : Int) (s : PositionStore α) :
    compactOldestPositions now (compactOldestPositions now s).2
      = (false, (compactOldestPositions now s).2) := by
  have hrows : (compactOldestPositions now (compactOldestPositions now s).2).2.rows
      = (compactOldestPositions now s).2.rows := by
    rw [rows_compact now (compactOldestPositions now s).2, rows_compact now s]
    exact firstOfEach_twice (fun p => oldBucket_compress _ p) (fun p => rfl) s.rows []
  generalize (compactOldestPositions now s).2 = t at hrows
  -- a row the second scan deletes would not be left, but all are
  have hnone : (scan (now - compactHorizonMs) [] t.rows).2 = [] := by
    refine List.eq_nil_iff_forall_not_mem.mpr ?_
    intro id hid
    obtain ⟨p, hp, rfl⟩ := List.mem_map.mp (scan_deletes _ t.rows [] id hid)
    rw [← hrows] at hp
    have hstays := (List.mem_filter.mp hp).2
    exact (of_decide_eq_true hstays) hid
  refine Prod.ext ?_ (PositionStore.ext rfl hrows)
  simp [compactOldestPositions, hnone]

/-- A row that is left is one that is not old, or the first of its bucket. -/
theorem of_mem_compact {q : QueuedPosition α}
    (hq : q ∈ (compactOldestPositions now s).2.rows) :
    (q ∈ s.rows ∧ isRecent now q = true) ∨
      ∃ p ∈ s.rows, ∃ bucket, oldBucket (now - compactHorizonMs) p = some bucket ∧
        firstOfBucket now s bucket = some p ∧ q = p.compress := by
  rw [rows_compact] at hq
  rcases of_mem_firstOfEach hq with ⟨hmem, hnone⟩ | ⟨p, hp, bucket, hbucket, -, hfirst, heq⟩
  · exact Or.inl ⟨hmem, Option.isNone_iff_eq_none.mpr hnone⟩
  · exact Or.inr ⟨p, hp, bucket, hbucket, hfirst, heq⟩

theorem first_stays (h : firstOfBucket now s bucket = some p) :
    p.compress ∈ (compactOldestPositions now s).2.rows := by
  rw [rows_compact]
  exact mem_firstOfEach (by simp) h

theorem recent_stays (hp : p ∈ s.rows) (h : isRecent now p = true) :
    p ∈ (compactOldestPositions now s).2.rows := by
  have hmem : p ∈ s.rows.filter (isRecent now) := List.mem_filter.mpr ⟨hp, h⟩
  rw [← compact_recent] at hmem
  exact (List.mem_filter.mp hmem).1

/-- An old row is deleted unless it is the first of its bucket. -/
theorem deleted_iff (hp : p ∈ s.rows) (h : oldBucket (now - compactHorizonMs) p = some bucket) :
    p.id ∉ (compactOldestPositions now s).2.rows.map QueuedPosition.id ↔
      firstOfBucket now s bucket ≠ some p := by
  constructor
  · intro hdeleted hfirst
    exact hdeleted (List.mem_map.mpr ⟨_, first_stays hfirst, rfl⟩)
  · intro hnot hmem
    obtain ⟨q, hq, hid⟩ := List.mem_map.mp hmem
    rcases of_mem_compact hq with ⟨hqs, hrecent⟩ | ⟨a, ha, k, hk, hfirst, rfl⟩
    · obtain rfl := s.eq_of_id hqs hp hid
      rw [isRecent, h] at hrecent
      cases hrecent
    · obtain rfl : a = p := s.eq_of_id ha hp hid
      obtain rfl : bucket = k := Option.some.inj (h.symm.trans hk)
      exact hnot hfirst

end

/-- **A compaction leaves the recent positions alone and does nothing twice; and it keeps a position
of each vehicle and delivery in each bucket exactly when the first old one of the bucket, or a recent
one, is of that vehicle and delivery.** -/
theorem compaction_traces_iff (now : Int) (s : PositionStore α) :
    Traced now s ↔ Separated now s := by
  constructor
  · intro h p hp bucket hbucket
    by_cases hfirst : firstOfBucket now s bucket = some p
    · exact Or.inl hfirst
    · obtain ⟨q, hq, hrepresents⟩ :=
        h.represented p hp bucket hbucket ((deleted_iff hp hbucket).mpr hfirst)
      refine Or.inr ?_
      rcases of_mem_compact hq with ⟨hqs, hrecent⟩ | ⟨a, ha, k, hk, hfirst, rfl⟩
      · exact ⟨q, hqs, hrepresents, Or.inl hrecent⟩
      · have hbuckets : a.time.map bucketTs = some bucket := hrepresents.2.2
        obtain rfl : bucket = k := Option.some.inj (hbuckets.symm.trans (bucket_of_old hk))
        exact ⟨a, ha, hrepresents, Or.inr hfirst⟩
  · intro h
    refine ⟨compact_recent now s, compact_twice now s, ?_⟩
    intro p hp bucket hbucket hdeleted
    rcases h p hp bucket hbucket with hfirst | ⟨q, hq, hrepresents, hrecent | hfirst⟩
    · exact absurd hfirst ((deleted_iff hp hbucket).mp hdeleted)
    · exact ⟨q, recent_stays hq hrecent, hrepresents⟩
    · exact ⟨q.compress, first_stays hfirst, hrepresents⟩

/-- A second old, of one delivery and then, in the same bucket, of another. -/
def twoDeliveries : PositionStore Unit where
  next := 3
  rows :=
    [⟨⟨some "v1", some "d1", some (some 1000), ()⟩, 1, 1000, false⟩,
      ⟨⟨some "v1", some "d2", some (some 2000), ()⟩, 2, 2000, false⟩]
  sorted := by decide
  fresh := by decide

/-- **The second delivery has no position left.** -/
theorem compaction_loses_delivery :
    (compactOldestPositions 1000000 twoDeliveries).2.rows.map QueuedPosition.id = [1] ∧
      ¬ Traced 1000000 twoDeliveries := by
  have hids : (compactOldestPositions 1000000 twoDeliveries).2.rows.map QueuedPosition.id = [1] := by
    decide +kernel
  refine ⟨hids, ?_⟩
  intro h
  have hold : oldBucket (1000000 - compactHorizonMs)
      (⟨⟨some "v1", some "d2", some (some 2000), ()⟩, 2, 2000, false⟩ : QueuedPosition Unit)
      = some 0 := by decide +kernel
  obtain ⟨q, hq, -, hdelivery, -⟩ := h.represented
    ⟨⟨some "v1", some "d2", some (some 2000), ()⟩, 2, 2000, false⟩ (by decide) 0 hold
    (by rw [hids]; decide)
  have hall : ∀ q ∈ (compactOldestPositions 1000000 twoDeliveries).2.rows,
      q.deliveryId = some "d1" := by decide +kernel
  rw [hall q hq] at hdelivery
  exact absurd hdelivery (by decide)

end DeliveryTracking.Phone
