/-
# `DeliveryTracking.Phone.OfflineQueue` — queueing positions and flushing the queue

Any number of `enqueuePosition` calls and `flushQueue` calls are under way; every
`await` lets the others go on, and may fail.

    enqueue   size; at the quota: compaction, size again, eviction; add
    flush     returns at once while another one runs; else, with the flag up:
              read a chunk, send it, delete it, and again until nothing is left

`queue_delivers`: below the quota a position leaves the store only in a chunk that
`sendFn` acknowledged, chunks are sent oldest first, and the flag is up exactly
while a flush runs, which takes a bounded number of steps for the positions there
are and those that are enqueued meanwhile.
-/
import DeliveryTracking.Phone.Compaction
import DeliveryTracking.Runs

namespace DeliveryTracking.Phone

variable {α : Type}

/-! ## The state -/

/-- `QUEUE_MAX_SIZE` -/
def queueMaxSize : Nat := 10000

/-- `QUEUE_WARN_SIZE`, 80 % of it. -/
def queueWarnSize : Nat := queueMaxSize * 8 / 10

structure EnqueueResult where
  queued : Bool
  droppedOldest : Bool
  nearCapacity : Bool
  deriving DecidableEq, Repr

/-- What an `enqueuePosition` waits for. -/
inductive EnqueueStage where
  | sizing
  | compacting
  | resizing
  | evicting (size : Nat)
  | adding (size : Nat) (droppedOldest : Bool)
  deriving DecidableEq, Repr

structure EnqueueCall (α : Type) where
  pos : Position α
  stage : EnqueueStage

/-- What a `flushQueue` waits for, with the positions of its chunk. -/
inductive FlushStage (α : Type) where
  | reading
  | sending (positions : List (QueuedPosition α))
  | deleting (positions : List (QueuedPosition α))

/-- A flush; its `chunkSize` is `none` when it is unbounded. -/
structure FlushCall (α : Type) where
  chunkSize : Option Int
  stage : FlushStage α

structure QueueState (α : Type) where
  store : PositionStore α
  isFlushing : Bool
  enqueues : List (EnqueueCall α)
  flushes : List (FlushCall α)
  /-- What the calls of `enqueuePosition` returned. -/
  results : List EnqueueResult
  /-- The positions that were in the store at first or were added, the chunks handed to `sendFn`,
  those it acknowledged, and how many flushes have begun; no code reads these. -/
  added : List (QueuedPosition α)
  sent : List (List (QueuedPosition α))
  acknowledged : List (List (QueuedPosition α))
  begun : Nat

inductive QueueEvent (α : Type) where
  | enqueue (pos : Position α)
  /-- What an `enqueuePosition` waits for is done, or fails. -/
  | enqueueNext (i : Nat) (now : Int)
  | enqueueFails (i : Nat)
  | flush (chunkSize : Option Int)
  /-- What a `flushQueue` waits for is done, or fails. -/
  | flushNext (i : Nat)
  | flushFails (i : Nat)

/-- A flush goes on, or fails. -/
def QueueEvent.isFlushStep : QueueEvent α → Bool
  | .flushNext _ | .flushFails _ => true
  | .enqueue _ | .enqueueNext .. | .enqueueFails _ | .flush _ => false

/-- `dequeuePositions`: the oldest positions, at most `limit`. -/
def dequeuePositions (limit : Option Int) (rows : List (QueuedPosition α)) :
    List (QueuedPosition α) :=
  match limit with
  | none => rows
  | some limit => rows.take limit.toNat

namespace QueueState

variable (s : QueueState α)

def start (store : PositionStore α) : QueueState α where
  store := store
  isFlushing := false
  enqueues := []
  flushes := []
  results := []
  added := store.rows
  sent := []
  acknowledged := []
  begun := 0

/-! ## The steps -/

def moveEnqueue (i : Nat) (call : EnqueueCall α) : QueueState α :=
  { s with enqueues := s.enqueues.set i call }

def endEnqueue (i : Nat) (result : EnqueueResult) : QueueState α :=
  { s with enqueues := s.enqueues.eraseIdx i, results := s.results ++ [result] }

/-- After the size is known. -/
def sized (i : Nat) (pos : Position α) (otherwise : Nat → EnqueueStage) : QueueState α :=
  let size := s.store.rows.length
  s.moveEnqueue i ⟨pos, if queueMaxSize ≤ size then otherwise size else .adding size false⟩

def advance (i : Nat) (now : Int) (pos : Position α) : EnqueueStage → QueueState α
  | .sizing => s.sized i pos fun _ => .compacting
  | .compacting =>
    { s.moveEnqueue i ⟨pos, .resizing⟩ with store := (compactOldestPositions now s.store).2 }
  | .resizing => s.sized i pos .evicting
  | .evicting size =>
    match s.store.rows with
    | [] => s.endEnqueue i ⟨false, false, false⟩
    | oldest :: _ =>
      { s.moveEnqueue i ⟨pos, .adding size true⟩ with store := s.store.delete [oldest.id] }
  | .adding size droppedOldest =>
    { s.endEnqueue i ⟨true, droppedOldest, decide (queueWarnSize ≤ size + 1)⟩ with
      store := s.store.add pos now
      added := s.added ++ [⟨pos, s.store.next, now, false⟩] }

def moveFlush (i : Nat) (call : FlushCall α) : QueueState α :=
  { s with flushes := s.flushes.set i call }

/-- The `finally` of a flush. -/
def release (i : Nat) : QueueState α :=
  { s with flushes := s.flushes.eraseIdx i, isFlushing := false }

def advanceFlush (i : Nat) (chunkSize : Option Int) : FlushStage α → QueueState α
  | .reading =>
    let positions := dequeuePositions chunkSize s.store.rows
    if positions.isEmpty then s.release i
    else
      { s.moveFlush i ⟨chunkSize, .sending positions⟩ with sent := s.sent ++ [positions] }
  | .sending positions =>
    { s.moveFlush i ⟨chunkSize, .deleting positions⟩ with
      acknowledged := s.acknowledged ++ [positions] }
  | .deleting positions =>
    { s.moveFlush i ⟨chunkSize, .reading⟩ with
      store := s.store.delete (positions.map QueuedPosition.id) }

def step : QueueEvent α → Option (QueueState α)
  | .enqueue pos => some { s with enqueues := s.enqueues ++ [⟨pos, .sizing⟩] }
  | .enqueueNext i now => (s.enqueues[i]?).map fun call => s.advance i now call.pos call.stage
  | .enqueueFails i =>
    (s.enqueues[i]?).map fun _ => { s with enqueues := s.enqueues.eraseIdx i }
  | .flush chunkSize =>
    if s.isFlushing then some s
    else
      some
        { s with
          isFlushing := true
          flushes := s.flushes ++ [⟨chunkSize, .reading⟩]
          begun := s.begun + 1 }
  | .flushNext i => (s.flushes[i]?).map fun call => s.advanceFlush i call.chunkSize call.stage
  | .flushFails i => (s.flushes[i]?).map fun _ => s.release i

/-- The store is below its quota when an `enqueuePosition` asks for its size. -/
def BelowQuota (s : QueueState α) : QueueEvent α → Prop
  | .enqueueNext i _ =>
    (s.enqueues[i]?).all (fun call => call.stage != .sizing) = true ∨
      s.store.rows.length < queueMaxSize
  | _ => True

instance (s : QueueState α) : DecidablePred s.BelowQuota
  | .enqueueNext .. => inferInstanceAs (Decidable (_ ∨ _))
  | .enqueue _ | .enqueueFails _ | .flush _ | .flushNext _ | .flushFails _ => .isTrue trivial

/-! ## The invariant -/

/-- A position belonged to a chunk that `sendFn` acknowledged. -/
def IsAcknowledged (p : QueuedPosition α) : Prop := ∃ chunk ∈ s.acknowledged, p ∈ chunk

/-- What a flush has in its hands is sent, or acknowledged, and is still in the store. -/
def Holds : FlushStage α → Prop
  | .reading => True
  | .sending positions =>
    positions ∈ s.sent ∧ positions ≠ [] ∧ ∀ p ∈ positions, p ∈ s.store.rows
  | .deleting positions =>
    positions ∈ s.acknowledged ∧ positions ≠ [] ∧ ∀ p ∈ positions, p ∈ s.store.rows

/-- What the queue promises. -/
structure Delivered : Prop where
  /-- The ids are in the order in which the positions were added. -/
  added_sorted : s.added.Pairwise fun p q => p.id < q.id
  /-- A position that is gone was acknowledged. -/
  kept : ∀ p ∈ s.added, p ∈ s.store.rows ∨ s.IsAcknowledged p
  /-- What was acknowledged was sent. -/
  acknowledged : ∀ chunk ∈ s.acknowledged, chunk ∈ s.sent
  /-- A chunk is of positions that were added, in their order. -/
  sorted : ∀ chunk ∈ s.sent, chunk.Pairwise (fun p q => p.id < q.id) ∧ ∀ p ∈ chunk, p ∈ s.added
  /-- When a position is sent the older ones go with it or were acknowledged. -/
  oldest : ∀ chunk ∈ s.sent, ∀ q ∈ chunk, ∀ p ∈ s.added, p.id < q.id →
    p ∈ chunk ∨ s.IsAcknowledged p
  /-- A later chunk has what an earlier one had, or what came after it. -/
  ordered : s.sent.Pairwise fun earlier later =>
    ∀ q ∈ later, q ∈ earlier ∨ ∀ p ∈ earlier, p.id < q.id
  /-- The flag is up exactly while a flush runs, and one runs at most. -/
  flag : s.flushes.length = if s.isFlushing then 1 else 0

structure Inv : Prop extends Delivered s where
  enqueues : ∀ call ∈ s.enqueues, call.stage = .sizing ∨ ∃ size, call.stage = .adding size false
  rows_added : ∀ p ∈ s.store.rows, p ∈ s.added
  added_lt : ∀ p ∈ s.added, p.id < s.store.next
  sent_rows : ∀ chunk ∈ s.sent, ∀ q ∈ s.store.rows, q ∈ chunk ∨ ∀ p ∈ chunk, p.id < q.id
  stages : ∀ call ∈ s.flushes, s.Holds call.stage

variable {s} {t : QueueState α} {e : QueueEvent α}

theorem start_inv (store : PositionStore α) : (start store).Inv where
  kept p hp := Or.inl hp
  acknowledged := by simp [start]
  sorted := by simp [start]
  oldest := by simp [start]
  ordered := by simp [start]
  flag := rfl
  enqueues := by simp [start]
  rows_added p hp := hp
  added_sorted := store.sorted
  added_lt := store.fresh
  sent_rows := by simp [start]
  stages := by simp [start]

theorem dequeuePositions_isFirst (limit : Option Int) (rows : List (QueuedPosition α)) :
    dequeuePositions limit rows <+: rows := by
  cases limit with
  | none => exact List.prefix_rfl
  | some limit => exact List.take_prefix ..

/-- With one flush at most, the one that moves or ends is the only one. -/
theorem Inv.flushes_eq (h : s.Inv) {i : Nat} {call : FlushCall α} (hi : s.flushes[i]? = some call) :
    i = 0 ∧ s.flushes = [call] ∧ s.isFlushing = true := by
  have hlength := h.flag
  obtain ⟨hlt, -⟩ := List.getElem?_eq_some_iff.mp hi
  cases hflag : s.isFlushing with
  | false =>
    rw [hflag] at hlength
    simp only [Bool.false_eq_true, if_false] at hlength
    omega
  | true =>
    rw [hflag, if_pos rfl] at hlength
    obtain ⟨only, honly⟩ := List.length_eq_one_iff.mp hlength
    obtain rfl : i = 0 := by omega
    rw [honly] at hi
    obtain rfl : only = call := Option.some.inj hi
    exact ⟨rfl, honly, rfl⟩

theorem Inv.flushes_moved (h : s.Inv) {i : Nat} {call : FlushCall α}
    (hi : s.flushes[i]? = some call) (new : FlushCall α) : s.flushes.set i new = [new] := by
  obtain ⟨rfl, hcalls, -⟩ := h.flushes_eq hi
  rw [hcalls]
  rfl

theorem Inv.flushes_release (h : s.Inv) {i : Nat} {call : FlushCall α}
    (hi : s.flushes[i]? = some call) : (s.release i).flushes = [] := by
  obtain ⟨rfl, hcalls, -⟩ := h.flushes_eq hi
  show s.flushes.eraseIdx 0 = []
  rw [hcalls]
  rfl

/-! ### Enqueueing -/

/-- An `enqueuePosition` goes on or ends, and nothing else happens. -/
theorem Inv.withEnqueues (h : s.Inv) {enqueues : List (EnqueueCall α)}
    {results : List EnqueueResult}
    (hcalls : ∀ call ∈ enqueues, call.stage = .sizing ∨ ∃ size, call.stage = .adding size false) :
    { s with enqueues := enqueues, results := results }.Inv where
  __ := h
  enqueues := hcalls

/-- A position is added at the end. -/
theorem Inv.add (h : s.Inv) (pos : Position α) (now : Int) :
    { s with
      store := s.store.add pos now
      added := s.added ++ [(⟨pos, s.store.next, now, false⟩ : QueuedPosition α)] }.Inv where
  kept := by
    refine forall_mem_concat ?_ ?_
    · intro p hp
      exact (h.kept p hp).imp_left (List.mem_append_left _)
    · exact Or.inl (List.mem_append_right _ (List.mem_singleton_self _))
  acknowledged := h.acknowledged
  sorted chunk hchunk :=
    ⟨(h.sorted chunk hchunk).1, fun p hp => List.mem_append_left _ ((h.sorted chunk hchunk).2 p hp)⟩
  oldest chunk hchunk q hq := by
    refine forall_mem_concat (h.oldest chunk hchunk q hq) ?_
    intro hlt
    have hq' := h.added_lt q ((h.sorted chunk hchunk).2 q hq)
    exact absurd hlt (Nat.lt_asymm hq')
  ordered := h.ordered
  flag := h.flag
  enqueues := h.enqueues
  rows_added := by
    refine forall_mem_concat ?_ (List.mem_append_right _ (List.mem_singleton_self _))
    intro p hp
    exact List.mem_append_left _ (h.rows_added p hp)
  added_sorted := by
    refine List.pairwise_append.mpr ⟨h.added_sorted, List.pairwise_singleton _ _, ?_⟩
    intro p hp q hq
    rw [List.mem_singleton.mp hq]
    exact h.added_lt p hp
  added_lt := by
    refine forall_mem_concat ?_ (Nat.lt_succ_self _)
    intro p hp
    exact Nat.lt_succ_of_lt (h.added_lt p hp)
  sent_rows chunk hchunk := by
    refine forall_mem_concat (h.sent_rows chunk hchunk) (Or.inr ?_)
    intro p hp
    exact h.added_lt p ((h.sorted chunk hchunk).2 p hp)
  stages call hcall := by
    have hstage := h.stages call hcall
    cases hs : call.stage with
    | reading => trivial
    | sending positions =>
      rw [hs] at hstage
      exact ⟨hstage.1, hstage.2.1, fun p hp => List.mem_append_left _ (hstage.2.2 p hp)⟩
    | deleting positions =>
      rw [hs] at hstage
      exact ⟨hstage.1, hstage.2.1, fun p hp => List.mem_append_left _ (hstage.2.2 p hp)⟩

/-! ### Flushing -/

theorem Inv.begin (h : s.Inv) (hflag : s.isFlushing = false) (chunkSize : Option Int) :
    { s with
      isFlushing := true
      flushes := s.flushes ++ [(⟨chunkSize, .reading⟩ : FlushCall α)]
      begun := s.begun + 1 }.Inv where
  __ := h
  flag := by
    have hnone := h.flag
    rw [hflag] at hnone
    simp only [List.length_append, List.length_singleton, if_true]
    exact congrArg (· + 1) hnone
  stages := forall_mem_concat h.stages trivial

/-- In rows in their order, what comes before a row of the first ones is one of them. -/
theorem mem_of_isFirst {positions rows : List (QueuedPosition α)}
    (hrows : rows.Pairwise fun p q => p.id < q.id) (hfirst : positions <+: rows)
    {p q : QueuedPosition α} (hp : p ∈ rows) (hq : q ∈ positions) :
    p ∈ positions ∨ q.id < p.id := by
  obtain ⟨rest, rfl⟩ := hfirst
  rcases List.mem_append.mp hp with hp | hp
  · exact Or.inl hp
  · exact Or.inr ((List.pairwise_append.mp hrows).2.2 q hq p hp)

/-- The oldest positions are read and sent. -/
theorem Inv.read (h : s.Inv) {i : Nat} {call : FlushCall α} (hi : s.flushes[i]? = some call)
    {positions : List (QueuedPosition α)} (hfirst : positions <+: s.store.rows)
    (hne : positions ≠ []) (chunkSize : Option Int) :
    { s.moveFlush i ⟨chunkSize, .sending positions⟩ with sent := s.sent ++ [positions] }.Inv where
  kept := h.kept
  acknowledged chunk hchunk := List.mem_append_left _ (h.acknowledged chunk hchunk)
  sorted := by
    refine forall_mem_concat h.sorted ⟨s.store.sorted.sublist hfirst.sublist, ?_⟩
    intro p hp
    exact h.rows_added p (hfirst.subset hp)
  oldest := by
    refine forall_mem_concat h.oldest ?_
    intro q hq p hp hlt
    rcases h.kept p hp with hrow | hack
    · rcases mem_of_isFirst s.store.sorted hfirst hrow hq with hmem | hgt
      · exact Or.inl hmem
      · exact absurd hlt (Nat.lt_asymm hgt)
    · exact Or.inr hack
  ordered := by
    refine List.pairwise_append.mpr ⟨h.ordered, List.pairwise_singleton _ _, ?_⟩
    intro earlier hearlier later hlater q hq
    rw [List.mem_singleton.mp hlater] at hq
    exact h.sent_rows earlier hearlier q (hfirst.subset hq)
  flag := by
    obtain ⟨-, -, hflag⟩ := h.flushes_eq hi
    have hlength := h.flag
    rw [hflag] at hlength
    show (s.flushes.set i _).length = if s.isFlushing then 1 else 0
    rw [List.length_set, hlength, hflag]
  enqueues := h.enqueues
  rows_added := h.rows_added
  added_sorted := h.added_sorted
  added_lt := h.added_lt
  sent_rows := by
    refine forall_mem_concat h.sent_rows ?_
    intro q hq
    by_cases hmem : q ∈ positions
    · exact Or.inl hmem
    · refine Or.inr fun p hp => ?_
      exact (mem_of_isFirst s.store.sorted hfirst hq hp).resolve_left hmem
  stages := by
    show ∀ call ∈ s.flushes.set i _, _
    rw [h.flushes_moved hi]
    refine List.forall_mem_singleton.mpr ⟨?_, hne, fun p hp => hfirst.subset hp⟩
    exact List.mem_append_right _ (List.mem_singleton_self _)

/-- `sendFn` acknowledges the chunk. -/
theorem Inv.acknowledge (h : s.Inv) {i : Nat} {call : FlushCall α}
    (hi : s.flushes[i]? = some call) {positions : List (QueuedPosition α)}
    (hstage : s.Holds (.sending positions)) (chunkSize : Option Int) :
    { s.moveFlush i ⟨chunkSize, .deleting positions⟩ with
      acknowledged := s.acknowledged ++ [positions] }.Inv where
  __ := h
  kept p hp := by
    refine (h.kept p hp).imp_right ?_
    rintro ⟨chunk, hchunk, hmem⟩
    exact ⟨chunk, List.mem_append_left _ hchunk, hmem⟩
  acknowledged := forall_mem_concat h.acknowledged hstage.1
  oldest chunk hchunk q hq p hp hlt := by
    refine (h.oldest chunk hchunk q hq p hp hlt).imp_right ?_
    rintro ⟨earlier, hearlier, hmem⟩
    exact ⟨earlier, List.mem_append_left _ hearlier, hmem⟩
  flag := (List.length_set ..).trans h.flag
  stages := by
    show ∀ call ∈ s.flushes.set i _, _
    rw [h.flushes_moved hi]
    refine List.forall_mem_singleton.mpr ⟨?_, hstage.2.1, hstage.2.2⟩
    exact List.mem_append_right _ (List.mem_singleton_self _)

/-- The acknowledged chunk is deleted. -/
theorem Inv.delete (h : s.Inv) {i : Nat} {call : FlushCall α}
    (hi : s.flushes[i]? = some call) {positions : List (QueuedPosition α)}
    (hstage : s.Holds (.deleting positions)) (chunkSize : Option Int) :
    { s.moveFlush i ⟨chunkSize, .reading⟩ with
      store := s.store.delete (positions.map QueuedPosition.id) }.Inv where
  __ := h
  kept p hp := by
    rcases h.kept p hp with hrow | hack
    · by_cases hid : p.id ∈ positions.map QueuedPosition.id
      · obtain ⟨q, hq, heq⟩ := List.mem_map.mp hid
        obtain rfl : q = p := s.store.eq_of_id (hstage.2.2 q hq) hrow heq
        exact Or.inr ⟨positions, hstage.1, hq⟩
      · exact Or.inl (List.mem_filter.mpr ⟨hrow, decide_eq_true hid⟩)
    · exact Or.inr hack
  flag := (List.length_set ..).trans h.flag
  rows_added p hp := h.rows_added p (List.mem_filter.mp hp).1
  sent_rows chunk hchunk q hq := h.sent_rows chunk hchunk q (List.mem_filter.mp hq).1
  stages := by
    show ∀ call ∈ s.flushes.set i _, _
    rw [h.flushes_moved hi]
    exact List.forall_mem_singleton.mpr trivial

/-- The `finally` of a flush. -/
theorem Inv.release (h : s.Inv) {i : Nat} {call : FlushCall α} (hi : s.flushes[i]? = some call) :
    (s.release i).Inv where
  __ := h
  flag := congrArg List.length (h.flushes_release hi)
  stages := by
    rw [h.flushes_release hi]
    exact List.forall_mem_nil _

/-! ### Every step -/

theorem advanceFlush_of_empty {i : Nat} {chunkSize : Option Int}
    (h : (dequeuePositions chunkSize s.store.rows).isEmpty = true) :
    s.advanceFlush i chunkSize .reading = s.release i :=
  if_pos h

theorem advanceFlush_of_chunk {i : Nat} {chunkSize : Option Int}
    (h : (dequeuePositions chunkSize s.store.rows).isEmpty = false) :
    s.advanceFlush i chunkSize .reading
      = { s.moveFlush i ⟨chunkSize, .sending (dequeuePositions chunkSize s.store.rows)⟩ with
          sent := s.sent ++ [dequeuePositions chunkSize s.store.rows] } :=
  if_neg (ne_true_of_eq_false h)

theorem dequeuePositions_ne_nil {limit : Option Int} {rows : List (QueuedPosition α)}
    (h : (dequeuePositions limit rows).isEmpty = false) : dequeuePositions limit rows ≠ [] := by
  intro heq
  rw [heq] at h
  cases h

/-- Below the quota an `enqueuePosition` that knows the size adds its position. -/
theorem sized_of_lt {i : Nat} {pos : Position α} {otherwise : Nat → EnqueueStage}
    (h : s.store.rows.length < queueMaxSize) :
    s.sized i pos otherwise = s.moveEnqueue i ⟨pos, .adding s.store.rows.length false⟩ := by
  show s.moveEnqueue i ⟨pos, if queueMaxSize ≤ s.store.rows.length then _ else _⟩ = _
  rw [if_neg (Nat.not_le.mpr h)]

/-- An `enqueuePosition` goes on. -/
theorem Inv.advance (h : s.Inv) {i : Nat} {call : EnqueueCall α} (hi : s.enqueues[i]? = some call)
    (now : Int) (hquota : s.BelowQuota (.enqueueNext i now)) :
    (s.advance i now call.pos call.stage).Inv := by
  rcases h.enqueues call (List.mem_of_getElem? hi) with hstage | ⟨size, hstage⟩
  · have hlt : s.store.rows.length < queueMaxSize := by
      refine hquota.resolve_left ?_
      rw [hi]
      simp [hstage]
    rw [hstage]
    show (s.sized i call.pos fun _ => .compacting).Inv
    rw [sized_of_lt hlt]
    exact h.withEnqueues (forall_mem_set h.enqueues (Or.inr ⟨_, rfl⟩))
  · rw [hstage]
    refine (h.add call.pos now).withEnqueues ?_
    intro other hother
    exact h.enqueues other (List.mem_of_mem_eraseIdx hother)

/-- A flush goes on. -/
theorem Inv.advanceFlush (h : s.Inv) {i : Nat} {call : FlushCall α}
    (hi : s.flushes[i]? = some call) : (s.advanceFlush i call.chunkSize call.stage).Inv := by
  have hstage := h.stages call (List.mem_of_getElem? hi)
  cases hs : call.stage with
  | reading =>
    cases hempty : (dequeuePositions call.chunkSize s.store.rows).isEmpty with
    | true =>
      rw [advanceFlush_of_empty hempty]
      exact h.release hi
    | false =>
      rw [advanceFlush_of_chunk hempty]
      exact h.read hi (dequeuePositions_isFirst _ _) (dequeuePositions_ne_nil hempty) _
  | sending positions =>
    rw [hs] at hstage
    exact h.acknowledge hi hstage _
  | deleting positions =>
    rw [hs] at hstage
    exact h.delete hi hstage _

/-- **Below the quota every step keeps what the queue promises.** -/
theorem Inv.step (h : s.Inv) (hstep : Guarded (Steps step) BelowQuota s e t) : t.Inv := by
  obtain ⟨hstep, hquota⟩ := hstep
  cases e with
  | enqueue pos =>
    obtain rfl := Option.some.inj hstep
    exact h.withEnqueues (forall_mem_concat h.enqueues (Or.inl rfl))
  | enqueueNext i now =>
    obtain ⟨call, hi, rfl⟩ := Option.map_eq_some_iff.mp hstep
    exact h.advance hi now hquota
  | enqueueFails i =>
    obtain ⟨call, hi, rfl⟩ := Option.map_eq_some_iff.mp hstep
    refine h.withEnqueues ?_
    intro other hother
    exact h.enqueues other (List.mem_of_mem_eraseIdx hother)
  | flush chunkSize =>
    have ht := Option.some.inj ((apply_ite some _ _ _).trans hstep)
    cases hflag : s.isFlushing with
    | true =>
      rw [hflag, if_pos rfl] at ht
      exact ht ▸ h
    | false =>
      rw [hflag, if_neg (by decide)] at ht
      exact ht ▸ h.begin hflag chunkSize
  | flushNext i =>
    obtain ⟨call, hi, rfl⟩ := Option.map_eq_some_iff.mp hstep
    exact h.advanceFlush hi
  | flushFails i =>
    obtain ⟨call, hi, rfl⟩ := Option.map_eq_some_iff.mp hstep
    exact h.release hi

/-! ## The flag comes down -/

/-- How many steps a flush takes before it reads again, and the one that reads. -/
def stageWork : FlushStage α → Nat
  | .reading => 3
  | .sending _ => 2
  | .deleting _ => 1

theorem stageWork_pos (stage : FlushStage α) : 0 < stageWork stage := by
  cases stage <;> exact Nat.succ_pos _

theorem stageWork_le (stage : FlushStage α) : stageWork stage ≤ 3 := by
  cases stage <;> simp [stageWork]

/-- A bound on the steps the flush has still to take if nothing is enqueued. -/
def work (s : QueueState α) : Nat :=
  match s.flushes with
  | [] => 0
  | call :: _ => 3 * s.store.rows.length + stageWork call.stage

theorem work_of_nil (h : s.flushes = []) : s.work = 0 := by
  rw [work, h]

theorem work_of_single {call : FlushCall α} (h : s.flushes = [call]) :
    s.work = 3 * s.store.rows.length + stageWork call.stage := by
  rw [work, h]

/-- `n` steps of a flush led from one state to the other, positions were added, and, unless another
flush began, as much less is left to do. -/
structure Charged (s : QueueState α) (n : Nat) (t : QueueState α) : Prop where
  begun : s.begun ≤ t.begun
  work : t.begun = s.begun → n + t.work + 3 * s.added.length ≤ s.work + 3 * t.added.length

theorem Charged.of_work {n : Nat} (hbegun : t.begun = s.begun) (hadded : t.added = s.added)
    (hwork : n + t.work ≤ s.work) : s.Charged n t where
  begun := Nat.le_of_eq hbegun.symm
  work _ := by
    rw [hadded]
    exact Nat.add_le_add_right hwork _

theorem Charged.trans {u : QueueState α} {m n : Nat} (h : s.Charged m t) (h' : t.Charged n u) :
    s.Charged (m + n) u where
  begun := Nat.le_trans h.begun h'.begun
  work hbegun := by
    have hst := h.begun
    have htu := h'.begun
    have hfirst := h.work (by omega)
    have hsecond := h'.work (by omega)
    omega

theorem Inv.charged_release (h : s.Inv) {i : Nat} {call : FlushCall α}
    (hi : s.flushes[i]? = some call) : s.Charged 1 (s.release i) := by
  obtain ⟨-, hcalls, -⟩ := h.flushes_eq hi
  have hpos := stageWork_pos call.stage
  refine .of_work rfl rfl ?_
  rw [work_of_nil (h.flushes_release hi), work_of_single hcalls]
  omega

/-- A flush that goes on has less to do. -/
theorem Inv.charged_advanceFlush (h : s.Inv) {i : Nat} {call : FlushCall α}
    (hi : s.flushes[i]? = some call) :
    s.Charged 1 (s.advanceFlush i call.chunkSize call.stage) := by
  obtain ⟨-, hcalls, -⟩ := h.flushes_eq hi
  have hmoved := h.flushes_moved hi
  have hstage := h.stages call (List.mem_of_getElem? hi)
  have hwork := work_of_single hcalls
  cases hs : call.stage with
  | reading =>
    cases hempty : (dequeuePositions call.chunkSize s.store.rows).isEmpty with
    | true =>
      rw [advanceFlush_of_empty hempty]
      exact h.charged_release hi
    | false =>
      rw [advanceFlush_of_chunk hempty]
      refine .of_work rfl rfl ?_
      rw [work_of_single (hmoved _), hwork, hs]
      simp only [stageWork, moveFlush]
      omega
  | sending positions =>
    refine .of_work rfl rfl ?_
    have hnext : (s.advanceFlush i call.chunkSize (.sending positions)).flushes
        = [⟨call.chunkSize, .deleting positions⟩] := hmoved _
    rw [work_of_single hnext, hwork, hs]
    simp only [stageWork, QueueState.advanceFlush, moveFlush]
    omega
  | deleting positions =>
    rw [hs] at hstage
    obtain ⟨-, hne, hrows⟩ := hstage
    obtain ⟨p, hp⟩ := List.exists_mem_of_ne_nil positions hne
    have hfewer : (s.store.delete (positions.map QueuedPosition.id)).rows.length
        < s.store.rows.length := by
      refine List.length_filter_lt_length_iff_exists.mpr ⟨p, hrows p hp, ?_⟩
      simpa using ⟨p, hp, rfl⟩
    refine .of_work rfl rfl ?_
    have hnext : (s.advanceFlush i call.chunkSize (.deleting positions)).flushes
        = [⟨call.chunkSize, .reading⟩] := hmoved _
    rw [work_of_single hnext, hwork, hs]
    simp only [stageWork, QueueState.advanceFlush]
    omega

/-- An `enqueuePosition` goes on, or fails: the flush has no more to do than before. -/
theorem charged_enqueues {enqueues : List (EnqueueCall α)} {results : List EnqueueResult} :
    s.Charged 0 { s with enqueues := enqueues, results := results } :=
  .of_work rfl rfl (Nat.le_of_eq (Nat.zero_add _))

/-- A position that is added is one more to send. -/
theorem charged_add (pos : Position α) (now : Int) :
    s.Charged 0 { s with
      store := s.store.add pos now
      added := s.added ++ [(⟨pos, s.store.next, now, false⟩ : QueuedPosition α)] } where
  begun := Nat.le_refl _
  work _ := by
    unfold work
    simp only [PositionStore.add, List.length_append, List.length_singleton]
    cases s.flushes with
    | nil =>
      dsimp only
      omega
    | cons call _ =>
      dsimp only
      omega

theorem Inv.charged_advance (h : s.Inv) {i : Nat} {call : EnqueueCall α}
    (hi : s.enqueues[i]? = some call) (now : Int) :
    s.Charged 0 (s.advance i now call.pos call.stage) := by
  rcases h.enqueues call (List.mem_of_getElem? hi) with hstage | ⟨size, hstage⟩
  · rw [hstage]
    exact charged_enqueues
  · rw [hstage]
    exact (charged_add call.pos now).trans charged_enqueues

/-- **A step of a flush is paid for by the rows there were or a position that was added.** -/
theorem Inv.charged (h : s.Inv) (hstep : Guarded (Steps QueueState.step) BelowQuota s e t) :
    s.Charged (if e.isFlushStep then 1 else 0) t := by
  obtain ⟨hstep, -⟩ := hstep
  cases e with
  | enqueue pos =>
    obtain rfl := Option.some.inj hstep
    exact charged_enqueues
  | enqueueNext i now =>
    obtain ⟨call, hi, rfl⟩ := Option.map_eq_some_iff.mp hstep
    exact h.charged_advance hi now
  | enqueueFails i =>
    obtain ⟨call, hi, rfl⟩ := Option.map_eq_some_iff.mp hstep
    exact charged_enqueues
  | flush chunkSize =>
    have ht := Option.some.inj ((apply_ite some _ _ _).trans hstep)
    cases hflag : s.isFlushing with
    | true =>
      rw [hflag, if_pos rfl] at ht
      exact ht ▸ charged_enqueues
    | false =>
      rw [hflag, if_neg (by decide)] at ht
      subst ht
      exact
        { begun := Nat.le_succ _
          work := fun hbegun => absurd hbegun (Nat.succ_ne_self _) }
  | flushNext i =>
    obtain ⟨call, hi, rfl⟩ := Option.map_eq_some_iff.mp hstep
    exact h.charged_advanceFlush hi
  | flushFails i =>
    obtain ⟨call, hi, rfl⟩ := Option.map_eq_some_iff.mp hstep
    exact h.charged_release hi

theorem Inv.charged_run (h : s.Inv) {es : List (QueueEvent α)}
    (hrun : Run (Guarded (Steps QueueState.step) BelowQuota) s es t) :
    s.Charged (es.countP QueueEvent.isFlushStep) t := by
  induction hrun with
  | nil s => exact .of_work rfl rfl (Nat.le_of_eq (Nat.zero_add _))
  | @cons s u t e es hstep hrest ih =>
    have hall := (h.charged hstep).trans (ih (h.step hstep))
    rwa [Nat.add_comm, ← List.countP_cons] at hall

/-- What is promised of the flag. -/
structure Released (s : QueueState α) : Prop where
  /-- The flush can go on while the flag is up. -/
  goes_on : s.isFlushing = true → ∃ t, s.step (.flushNext 0) = some t
  /-- Where reading, sending or deleting fails the flag comes down. -/
  failed : s.isFlushing = true → ∃ t, s.step (.flushFails 0) = some t ∧ t.isFlushing = false
  /-- It comes down before the flush has taken three steps for each position there is, or is added
  meanwhile, and three more. -/
  ends : ∀ es t, Run (Guarded (Steps QueueState.step) BelowQuota) s es t → t.begun = s.begun →
    t.isFlushing = true →
    es.countP QueueEvent.isFlushStep + 3 * s.added.length
      < 3 * (s.store.rows.length + 1) + 3 * t.added.length

theorem Inv.flush_of_flag (h : s.Inv) (hflag : s.isFlushing = true) :
    ∃ call, s.flushes = [call] := by
  have hlength := h.flag
  rw [hflag] at hlength
  exact List.length_eq_one_iff.mp hlength

theorem work_le (s : QueueState α) : s.work ≤ 3 * (s.store.rows.length + 1) := by
  unfold work
  cases s.flushes with
  | nil => exact Nat.zero_le _
  | cons call _ =>
    have hle := stageWork_le call.stage
    dsimp only
    omega

theorem Inv.released (h : s.Inv) : s.Released where
  goes_on hflag := by
    obtain ⟨call, hcalls⟩ := h.flush_of_flag hflag
    exact ⟨_, by rw [QueueState.step, hcalls]; rfl⟩
  failed hflag := by
    obtain ⟨call, hcalls⟩ := h.flush_of_flag hflag
    exact ⟨s.release 0, by rw [QueueState.step, hcalls]; rfl, rfl⟩
  ends es t hrun hbegun hflag := by
    have hend := hrun.invariant (I := Inv) Inv.step h
    obtain ⟨call, hcalls⟩ := hend.flush_of_flag hflag
    have hpos : 0 < t.work := by
      rw [work_of_single hcalls]
      exact Nat.add_pos_right _ (stageWork_pos call.stage)
    have hpaid := (h.charged_run hrun).work hbegun
    have hle := work_le s
    omega

end QueueState

open QueueState in
/-- **The queue delivers without loss**: below the quota, whatever is under way and whatever fails,
a position that is gone was in an acknowledged chunk, chunks are sent in the order of enqueueing,
and the flag comes down. -/
theorem queue_delivers (store : PositionStore α) {es : List (QueueEvent α)} {s : QueueState α}
    (hrun : Run (Guarded (Steps step) BelowQuota) (start store) es s) :
    s.Delivered ∧ s.Released := by
  have h := hrun.invariant (I := Inv) Inv.step (start_inv store)
  exact ⟨h.toDelivered, h.released⟩

/-- No position. -/
def emptyStore : PositionStore Unit := ⟨1, [], List.Pairwise.nil, by simp⟩

/-- A position is flushed while another one is enqueued, which cannot be sent. -/
def enqueuedMeanwhile : List (QueueEvent Unit) :=
  [.enqueue ⟨some "v1", none, none, ()⟩, .enqueueNext 0 1000, .enqueueNext 0 1000, .flush (some 400),
    .flushNext 0, .enqueue ⟨some "v1", none, none, ()⟩, .enqueueNext 0 2000, .enqueueNext 0 2000,
    .flush none, .flushNext 0, .flushNext 0, .flushNext 0, .flushFails 0]

open QueueState in
theorem queue_delivers_sample :
    ∃ s, Run (Guarded (Steps step) BelowQuota) (start emptyStore) enqueuedMeanwhile s
      ∧ s.store.rows.map QueuedPosition.id = [2]
      ∧ s.acknowledged.map (List.map QueuedPosition.id) = [[1]]
      ∧ s.Delivered ∧ s.Released := by
  obtain ⟨s, hs, hrows, hack⟩ : ∃ s, enqueuedMeanwhile.foldlM (guardStep step BelowQuota)
      (start emptyStore) = some s ∧ s.store.rows.map QueuedPosition.id = [2]
      ∧ s.acknowledged.map (List.map QueuedPosition.id) = [[1]] :=
    ⟨_, rfl, by decide +kernel, by decide +kernel⟩
  have hrun := Run.of_guardStep hs
  exact ⟨s, hrun, hrows, hack, queue_delivers emptyStore hrun⟩

end DeliveryTracking.Phone
