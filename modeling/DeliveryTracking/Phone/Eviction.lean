/-
# `DeliveryTracking.Phone.Eviction` — what becomes of the oldest position

An `enqueuePosition` that finds the queue full, and nothing to compact, evicts the oldest
position and then adds its own.  These are two transactions, and only the second one's
completion returns `droppedOldest`:

    size   compaction   size   eviction   add
                                  |        |  returns droppedOldest = true
                                  |        |  fails: rejects, and says nothing
                                  |  aborts: nothing is evicted

Here the calls of `DeliveryTracking.Phone.OfflineQueue` have names, and the state records
what each evicted and returned (`EvictionState`).  A position that is gone was
acknowledged, absorbed by a compaction, or evicted by a call that returned
`droppedOldest` or is still to return, in every state of a run, exactly if no insertion
fails after an eviction, but of a position that is acknowledged (`reported_iff`).
-/
import DeliveryTracking.Phone.OfflineQueue
import Mathlib.Data.List.Perm.Subperm

namespace DeliveryTracking.Phone

variable {α : Type}

/-! ## Absorption -/

/-- The ids of the rows. -/
def PositionStore.ids (store : PositionStore α) : List Nat := store.rows.map QueuedPosition.id

/-- The rows a compaction deletes, each with the one that stays for it. -/
def absorbedBy (now : Int) (store : PositionStore α) :
    List (QueuedPosition α × QueuedPosition α) :=
  store.rows.filterMap fun p =>
    (oldBucket (now - compactHorizonMs) p).bind fun bucket =>
      (firstOfBucket now store bucket).bind fun r => if r.id = p.id then none else some (p, r)

theorem mem_absorbedBy {now : Int} {store : PositionStore α} {p r : QueuedPosition α} :
    (p, r) ∈ absorbedBy now store ↔ p ∈ store.rows ∧ ∃ bucket,
      oldBucket (now - compactHorizonMs) p = some bucket ∧
        firstOfBucket now store bucket = some r ∧ r.id ≠ p.id := by
  simp only [absorbedBy, List.mem_filterMap, Option.bind_eq_some_iff]
  constructor
  · rintro ⟨q, hq, bucket, hbucket, r', hr', hif⟩
    split at hif
    · cases hif
    · rename_i hne
      obtain ⟨rfl, rfl⟩ := Prod.mk.inj (Option.some.inj hif)
      exact ⟨hq, bucket, hbucket, hr', hne⟩
  · rintro ⟨hp, bucket, hbucket, hr, hne⟩
    exact ⟨p, hp, bucket, hbucket, r, hr, if_neg hne⟩

theorem firstOfBucket_eq_some {now : Int} {store : PositionStore α} {bucket : Int}
    {r : QueuedPosition α} (h : firstOfBucket now store bucket = some r) :
    r ∈ store.rows ∧ oldBucket (now - compactHorizonMs) r = some bucket := by
  rw [firstOfBucket] at h
  refine ⟨List.mem_of_find?_eq_some h, ?_⟩
  simpa using List.find?_some h

theorem ids_compact_subset (now : Int) (store : PositionStore α) :
    (compactOldestPositions now store).2.ids ⊆ store.ids := by
  intro id hid
  obtain ⟨q, hq, rfl⟩ := List.mem_map.mp hid
  rcases of_mem_compact hq with ⟨hmem, -⟩ | ⟨p, hp, -, -, -, rfl⟩
  · exact List.mem_map_of_mem hmem
  · exact List.mem_map.mpr ⟨p, hp, rfl⟩

/-- A row is absorbed exactly if the compaction deletes it. -/
theorem absorbed_iff {now : Int} {store : PositionStore α} {p : QueuedPosition α}
    (hp : p ∈ store.rows) :
    (∃ r, (p, r) ∈ absorbedBy now store) ↔ p.id ∉ (compactOldestPositions now store).2.ids := by
  cases hbucket : oldBucket (now - compactHorizonMs) p with
  | none =>
      have hrecent : isRecent now p = true := by
        rw [isRecent, hbucket]
        rfl
      refine iff_of_false ?_ (fun h => h (List.mem_map_of_mem (recent_stays hp hrecent)))
      rintro ⟨r, hr⟩
      obtain ⟨-, bucket, hsome, -⟩ := mem_absorbedBy.mp hr
      rw [hbucket] at hsome
      cases hsome
  | some bucket =>
      rw [PositionStore.ids, deleted_iff hp hbucket]
      constructor
      · rintro ⟨r, hr⟩ hfirst
        obtain ⟨-, bucket', hsome, hr', hne⟩ := mem_absorbedBy.mp hr
        obtain rfl : bucket = bucket' := Option.some.inj (hbucket.symm.trans hsome)
        exact hne (congrArg QueuedPosition.id (Option.some.inj (hr'.symm.trans hfirst)))
      · intro hfirst
        obtain ⟨r, hr⟩ : ∃ r, firstOfBucket now store bucket = some r := by
          refine Option.isSome_iff_exists.mp (List.find?_isSome.mpr ⟨p, hp, ?_⟩)
          rw [hbucket]
          exact beq_self_eq_true _
        refine ⟨r, mem_absorbedBy.mpr ⟨hp, bucket, hbucket, hr, ?_⟩⟩
        intro hid
        exact hfirst (store.eq_of_id (firstOfBucket_eq_some hr).1 hp hid ▸ hr)

@[simp] theorem ids_add (store : PositionStore α) (pos : Position α) (now : Int) :
    (store.add pos now).ids = store.ids ++ [store.next] :=
  List.map_append

@[simp] theorem mem_ids_delete {store : PositionStore α} {ids : List Nat} {id : Nat} :
    id ∈ (store.delete ids).ids ↔ id ∈ store.ids ∧ id ∉ ids := by
  simp only [PositionStore.ids, PositionStore.delete, List.mem_map, List.mem_filter,
    decide_eq_true_eq]
  constructor
  · rintro ⟨p, ⟨hp, hnot⟩, rfl⟩
    exact ⟨⟨p, hp, rfl⟩, hnot⟩
  · rintro ⟨⟨p, hp, rfl⟩, hnot⟩
    exact ⟨p, ⟨hp, hnot⟩, rfl⟩

/-! ## Named calls -/

/-- The queue, the names of its `enqueuePosition` calls under way, what each call evicted, what those
that ended returned, and which rows compactions have absorbed.  No code reads any of these but the
first. -/
structure EvictionState (α : Type) where
  queue : QueueState α
  calls : List Nat
  nextCall : Nat
  evictions : List (Nat × Nat)
  returned : List (Nat × EnqueueResult)
  absorbed : List (QueuedPosition α × QueuedPosition α)

inductive EvictionEvent (α : Type) where
  | queue (e : QueueEvent α)
  /-- The transaction of call `i` aborts after the call has gone on. -/
  | aborts (i : Nat) (now : Int)

namespace EvictionState

def start (store : PositionStore α) : EvictionState α := ⟨.start store, [], 0, [], [], []⟩

section

variable (s : EvictionState α)

/-- Call `c`, the one at place `i`, returns. -/
def returns (t : QueueState α) (i c : Nat) : EvictionState α :=
  { s with
    queue := t
    calls := s.calls.eraseIdx i
    returned := s.returned ++ (t.results.drop s.queue.results.length).map (c, ·) }

/-- What is recorded when call `c` goes on from a stage. -/
def record (t : QueueState α) (i c : Nat) (now : Int) : EnqueueStage → EvictionState α
  | .sizing | .resizing => { s with queue := t }
  | .compacting =>
      { s with queue := t, absorbed := s.absorbed ++ absorbedBy now s.queue.store }
  | .evicting _ =>
      match s.queue.store.rows with
      | [] => s.returns t i c
      | oldest :: _ => { s with queue := t, evictions := s.evictions ++ [(c, oldest.id)] }
  | .adding .. => s.returns t i c

def observe (t : QueueState α) : QueueEvent α → EvictionState α
  | .enqueue _ =>
      { s with queue := t, calls := s.calls ++ [s.nextCall], nextCall := s.nextCall + 1 }
  | .enqueueNext i now =>
      match s.queue.enqueues[i]?, s.calls[i]? with
      | some call, some c => s.record t i c now call.stage
      | _, _ => { s with queue := t }
  | .enqueueFails i => { s with queue := t, calls := s.calls.eraseIdx i }
  | .flush _ | .flushNext _ | .flushFails _ => { s with queue := t }

/-- `dequeueOldest` answers when its request has succeeded, and the compaction that has nothing to
delete when its scan has ended; their transactions may abort after that, and change nothing. -/
def abort (i : Nat) (now : Int) : Option (EvictionState α) :=
  match s.queue.enqueues[i]? with
  | some ⟨pos, .evicting size⟩ =>
      if s.queue.store.rows.isEmpty then none
      else some { s with queue := s.queue.moveEnqueue i ⟨pos, .adding size true⟩ }
  | some ⟨pos, .compacting⟩ =>
      if (scan (now - compactHorizonMs) [] s.queue.store.rows).2.isEmpty then
        some { s with queue := s.queue.moveEnqueue i ⟨pos, .resizing⟩ }
      else none
  | _ => none

def step : EvictionEvent α → Option (EvictionState α)
  | .queue e => (s.queue.step e).map fun t => s.observe t e
  | .aborts i now => s.abort i now

/-- A position belonged to a chunk that was acknowledged. -/
def Acknowledged (id : Nat) : Prop :=
  ∃ chunk ∈ s.queue.acknowledged, id ∈ chunk.map QueuedPosition.id

def Absorbed (id : Nat) : Prop := ∃ p r, (p, r) ∈ s.absorbed ∧ p.id = id

/-- Call `c` is under way, or returned that it dropped the oldest position. -/
def Reports (c : Nat) : Prop :=
  c ∈ s.calls ∨ ∃ result, (c, result) ∈ s.returned ∧ result.droppedOldest = true

/-- No eviction is silent, and no call evicts two positions. -/
structure Reported : Prop where
  gone : ∀ p ∈ s.queue.added, p.id ∈ s.queue.store.ids ∨ s.Acknowledged p.id ∨ s.Absorbed p.id ∨
    ∃ c, (c, p.id) ∈ s.evictions ∧ s.Reports c
  once : (s.evictions.map Prod.fst).Nodup

/-- A call that fails has evicted nothing, or what it evicted is acknowledged. -/
def InsertionKept : EvictionEvent α → Prop
  | .queue (.enqueueFails i) => ∀ c v, s.calls[i]? = some c → (c, v) ∈ s.evictions → s.Acknowledged v
  | _ => True

end

/-! ## The calls -/

/-- The calls have names of their own, and one that has evicted a position is about to add its own. -/
structure Named (s : EvictionState α) : Prop where
  paired : s.calls.length = s.queue.enqueues.length
  nodup : s.calls.Nodup
  calls_lt : ∀ c ∈ s.calls, c < s.nextCall
  returned : ∀ c result, (c, result) ∈ s.returned → c < s.nextCall ∧ c ∉ s.calls
  evictions_lt : ∀ c v, (c, v) ∈ s.evictions → c < s.nextCall
  once : (s.evictions.map Prod.fst).Nodup
  dropping : ∀ (i : Nat) (call : EnqueueCall α) (c v : Nat), s.queue.enqueues[i]? = some call →
    s.calls[i]? = some c → (c, v) ∈ s.evictions → ∃ size, call.stage = .adding size true

variable {s t : EvictionState α} {i c : Nat} {call new : EnqueueCall α}

theorem Named.exists_call (h : Named s) (hi : s.queue.enqueues[i]? = some call) :
    ∃ c, s.calls[i]? = some c := by
  obtain ⟨hlt, -⟩ := List.getElem?_eq_some_iff.mp hi
  have hlt' : i < s.calls.length := h.paired ▸ hlt
  exact ⟨s.calls[i], List.getElem?_eq_getElem hlt'⟩

theorem Named.eq_of_getElem? (h : Named s) {j : Nat} (hi : s.calls[i]? = some c)
    (hj : s.calls[j]? = some c) : j = i := by
  obtain ⟨hlt, hget⟩ := List.getElem?_eq_some_iff.mp hi
  obtain ⟨hlt', hget'⟩ := List.getElem?_eq_some_iff.mp hj
  exact (List.Nodup.getElem_inj_iff h.nodup).mp (hget'.trans hget.symm)

/-- A call that is not about to add has evicted nothing. -/
theorem Named.not_evicted (h : Named s) (hi : s.queue.enqueues[i]? = some call)
    (hc : s.calls[i]? = some c) (hstage : ∀ size, call.stage ≠ .adding size true) (v : Nat) :
    (c, v) ∉ s.evictions := by
  intro hmem
  obtain ⟨size, hadding⟩ := h.dropping i call c v hi hc hmem
  exact hstage size hadding

theorem Named.begin (h : Named s) (hcalls : t.calls = s.calls ++ [s.nextCall])
    (hnext : t.nextCall = s.nextCall + 1) (hreturned : t.returned = s.returned)
    (hevictions : t.evictions = s.evictions)
    (henqueues : t.queue.enqueues = s.queue.enqueues ++ [new]) : Named t := by
  have hfresh : s.nextCall ∉ s.calls := fun hmem => absurd (h.calls_lt _ hmem) (Nat.lt_irrefl _)
  refine ⟨?_, ?_, ?_, ?_, ?_, ?_, ?_⟩
  · rw [hcalls, henqueues, List.length_append, List.length_append, h.paired]
    rfl
  · rw [hcalls, ← List.concat_eq_append]
    exact List.Nodup.concat hfresh h.nodup
  · rw [hcalls, hnext]
    exact forall_mem_concat (fun c hc => Nat.lt_succ_of_lt (h.calls_lt c hc)) (Nat.lt_succ_self _)
  · intro c result hmem
    rw [hreturned] at hmem
    obtain ⟨hlt, hnot⟩ := h.returned c result hmem
    rw [hcalls, hnext]
    refine ⟨Nat.lt_succ_of_lt hlt, ?_⟩
    intro hc
    rcases List.mem_append.mp hc with hc | hc
    · exact hnot hc
    · rw [List.mem_singleton.mp hc] at hlt
      exact Nat.lt_irrefl _ hlt
  · intro c v hmem
    rw [hevictions] at hmem
    rw [hnext]
    exact Nat.lt_succ_of_lt (h.evictions_lt c v hmem)
  · rw [hevictions]
    exact h.once
  · intro j call c v hj hc hmem
    rw [hevictions] at hmem
    rw [henqueues] at hj
    rw [hcalls] at hc
    have hlt : j < s.calls.length := by
      by_contra hle
      have hlast : c ∈ [s.nextCall] := by
        rw [List.getElem?_append_right (Nat.le_of_not_lt hle)] at hc
        exact List.mem_of_getElem? hc
      rw [List.mem_singleton.mp hlast] at hmem
      exact absurd (h.evictions_lt _ v hmem) (Nat.lt_irrefl _)
    rw [List.getElem?_append_left hlt] at hc
    rw [List.getElem?_append_left (h.paired ▸ hlt)] at hj
    exact h.dropping j call c v hj hc hmem

/-- A call goes on, and evicts nothing or one position before it adds its own. -/
theorem Named.move (h : Named s) (hi : s.queue.enqueues[i]? = some call)
    (hc : s.calls[i]? = some c) (hstage : ∀ size, call.stage ≠ .adding size true)
    (hcalls : t.calls = s.calls) (hnext : t.nextCall = s.nextCall)
    (hreturned : t.returned = s.returned)
    (henqueues : t.queue.enqueues = s.queue.enqueues.set i new)
    (hevictions : t.evictions = s.evictions ∨
      ∃ v size, t.evictions = s.evictions ++ [(c, v)] ∧ new.stage = .adding size true) : Named t := by
  have hnone := h.not_evicted hi hc hstage
  have hold : ∀ c' v, (c', v) ∈ t.evictions → (c', v) ∈ s.evictions ∨
      c' = c ∧ ∃ size, new.stage = .adding size true := by
    intro c' v hmem
    rcases hevictions with heq | ⟨v', size, heq, hnew⟩
    · exact .inl (heq ▸ hmem)
    · rw [heq] at hmem
      rcases List.mem_append.mp hmem with hmem | hmem
      · exact .inl hmem
      · exact .inr ⟨congrArg Prod.fst (List.mem_singleton.mp hmem), size, hnew⟩
  refine ⟨?_, hcalls ▸ h.nodup, ?_, ?_, ?_, ?_, ?_⟩
  · rw [hcalls, henqueues, List.length_set, h.paired]
  · rw [hcalls, hnext]
    exact h.calls_lt
  · rw [hcalls, hnext, hreturned]
    exact h.returned
  · intro c' v hmem
    rw [hnext]
    rcases hold c' v hmem with hmem | ⟨rfl, -⟩
    · exact h.evictions_lt c' v hmem
    · exact h.calls_lt _ (List.mem_of_getElem? hc)
  · rcases hevictions with heq | ⟨v, size, heq, -⟩
    · rw [heq]
      exact h.once
    · rw [heq]
      refine nodup_map_concat h.once ?_
      intro hmem
      obtain ⟨⟨c', v'⟩, hmem', rfl⟩ := List.mem_map.mp hmem
      exact hnone v' hmem'
  · intro j call' c' v hj hc' hmem
    rw [henqueues] at hj
    rw [hcalls] at hc'
    by_cases hji : j = i
    · subst hji
      obtain rfl : c = c' := Option.some.inj (hc.symm.trans hc')
      obtain ⟨hlt, -⟩ := List.getElem?_eq_some_iff.mp hi
      rw [List.getElem?_set_self hlt] at hj
      obtain rfl := Option.some.inj hj
      rcases hold c v hmem with hmem | ⟨-, hnew⟩
      · exact absurd hmem (hnone v)
      · exact hnew
    · rw [List.getElem?_set_ne (Ne.symm hji)] at hj
      rcases hold c' v hmem with hmem | ⟨rfl, -⟩
      · exact h.dropping j call' c' v hj hc' hmem
      · exact absurd (h.eq_of_getElem? hc hc') hji

/-- A call ends, with a result or without. -/
theorem Named.ends (h : Named s) (hc : s.calls[i]? = some c) {results : List EnqueueResult}
    (hcalls : t.calls = s.calls.eraseIdx i) (hnext : t.nextCall = s.nextCall)
    (hreturned : t.returned = s.returned ++ results.map (c, ·))
    (henqueues : t.queue.enqueues = s.queue.enqueues.eraseIdx i)
    (hevictions : t.evictions = s.evictions) : Named t := by
  have hsub : ∀ c' ∈ t.calls, c' ∈ s.calls ∧ c' ≠ c := by
    intro c' hmem
    rw [hcalls] at hmem
    refine ⟨List.mem_of_mem_eraseIdx hmem, ?_⟩
    exact ne_of_mem_eraseIdx (f := id) (by simpa using h.nodup) hc hmem
  refine ⟨?_, ?_, ?_, ?_, ?_, hevictions ▸ h.once, ?_⟩
  · rw [hcalls, henqueues]
    simp only [List.length_eraseIdx, h.paired]
  · rw [hcalls]
    exact h.nodup.eraseIdx i
  · intro c' hmem
    rw [hnext]
    exact h.calls_lt c' (hsub c' hmem).1
  · intro c' result hmem
    rw [hreturned] at hmem
    rw [hnext]
    rcases List.mem_append.mp hmem with hmem | hmem
    · obtain ⟨hlt, hnot⟩ := h.returned c' result hmem
      exact ⟨hlt, fun hc' => hnot (hsub c' hc').1⟩
    · obtain ⟨r, -, heq⟩ := List.mem_map.mp hmem
      obtain rfl : c = c' := congrArg Prod.fst heq
      exact ⟨h.calls_lt c (List.mem_of_getElem? hc), fun hc' => (hsub c hc').2 rfl⟩
  · rw [hnext, hevictions]
    exact h.evictions_lt
  · intro j call c' v hj hc' hmem
    rw [henqueues, List.getElem?_eraseIdx] at hj
    rw [hcalls, List.getElem?_eraseIdx] at hc'
    rw [hevictions] at hmem
    split at hj
    · rename_i hlt
      rw [if_pos hlt] at hc'
      exact h.dropping j call c' v hj hc' hmem
    · rename_i hlt
      rw [if_neg hlt] at hc'
      exact h.dropping (j + 1) call c' v hj hc' hmem

/-! ## The rows -/

/-- A position leaves the store once. -/
structure Placed (s : EvictionState α) : Prop where
  evicted : ∀ c v, (c, v) ∈ s.evictions →
    v ∉ s.queue.store.ids ∧ ∃ p ∈ s.queue.added, p.id = v
  victims : (s.evictions.map Prod.snd).Nodup
  absorbed : ∀ id, s.Absorbed id → id ∉ s.queue.store.ids ∧ id < s.queue.store.next ∧
    ∀ c, (c, id) ∉ s.evictions
  rows : ∀ id ∈ s.queue.store.ids, ∃ p ∈ s.queue.added, p.id = id
  added_lt : ∀ p ∈ s.queue.added, p.id < s.queue.store.next

theorem Placed.ids_lt (h : Placed s) {id : Nat} (hid : id ∈ s.queue.store.ids) :
    id < s.queue.store.next := by
  obtain ⟨p, hp, rfl⟩ := h.rows id hid
  exact h.added_lt p hp

/-- Rows may be deleted, and be absorbed when they are. -/
theorem Placed.shrink (h : Placed s) (hids : t.queue.store.ids ⊆ s.queue.store.ids)
    (hnext : t.queue.store.next = s.queue.store.next) (hadded : t.queue.added = s.queue.added)
    (hevictions : t.evictions = s.evictions)
    (habsorbed : ∀ id, t.Absorbed id → s.Absorbed id ∨
      id ∈ s.queue.store.ids ∧ id ∉ t.queue.store.ids) : Placed t := by
  refine ⟨?_, hevictions ▸ h.victims, ?_, ?_, ?_⟩
  · intro c v hmem
    rw [hevictions] at hmem
    rw [hadded]
    exact ⟨fun hid => (h.evicted c v hmem).1 (hids hid), (h.evicted c v hmem).2⟩
  · intro id hid
    rw [hnext, hevictions]
    rcases habsorbed id hid with hold | ⟨hrow, hgone⟩
    · obtain ⟨hnot, hlt, hnone⟩ := h.absorbed id hold
      exact ⟨fun hrow => hnot (hids hrow), hlt, hnone⟩
    · exact ⟨hgone, h.ids_lt hrow, fun c hmem => (h.evicted c id hmem).1 hrow⟩
  · intro id hid
    rw [hadded]
    exact h.rows id (hids hid)
  · rw [hadded, hnext]
    exact h.added_lt

theorem Placed.add (h : Placed s) {p : QueuedPosition α} (hp : p.id = s.queue.store.next)
    (hids : t.queue.store.ids = s.queue.store.ids ++ [s.queue.store.next])
    (hnext : t.queue.store.next = s.queue.store.next + 1)
    (hadded : t.queue.added = s.queue.added ++ [p]) (hevictions : t.evictions = s.evictions)
    (habsorbed : t.absorbed = s.absorbed) : Placed t := by
  refine ⟨?_, hevictions ▸ h.victims, ?_, ?_, ?_⟩
  · intro c v hmem
    rw [hevictions] at hmem
    obtain ⟨hnot, q, hq, rfl⟩ := h.evicted c v hmem
    rw [hids, hadded]
    refine ⟨?_, q, List.mem_append_left _ hq, rfl⟩
    intro hid
    rcases List.mem_append.mp hid with hid | hid
    · exact hnot hid
    · exact Nat.ne_of_lt (h.added_lt q hq) (List.mem_singleton.mp hid)
  · intro id hid
    have hold : s.Absorbed id := by
      rw [Absorbed, habsorbed] at hid
      exact hid
    obtain ⟨hnot, hlt, hnone⟩ := h.absorbed id hold
    rw [hids, hnext, hevictions]
    refine ⟨?_, Nat.lt_succ_of_lt hlt, hnone⟩
    intro hid
    rcases List.mem_append.mp hid with hid | hid
    · exact hnot hid
    · exact Nat.ne_of_lt hlt (List.mem_singleton.mp hid)
  · rw [hids, hadded]
    refine forall_mem_concat ?_ ⟨p, List.mem_append_right _ (List.mem_singleton_self _), hp⟩
    intro id hid
    obtain ⟨q, hq, heq⟩ := h.rows id hid
    exact ⟨q, List.mem_append_left _ hq, heq⟩
  · rw [hadded, hnext]
    refine forall_mem_concat (fun q hq => Nat.lt_succ_of_lt (h.added_lt q hq)) ?_
    rw [hp]
    exact Nat.lt_succ_self _

/-- A row is evicted. -/
theorem Placed.evict (h : Placed s) {v : Nat} (hv : v ∈ s.queue.store.ids)
    (hids : ∀ id, id ∈ t.queue.store.ids ↔ id ∈ s.queue.store.ids ∧ id ≠ v)
    (hnext : t.queue.store.next = s.queue.store.next) (hadded : t.queue.added = s.queue.added)
    (hevictions : t.evictions = s.evictions ++ [(c, v)]) (habsorbed : t.absorbed = s.absorbed) :
    Placed t := by
  refine ⟨?_, ?_, ?_, ?_, ?_⟩
  · intro c' v' hmem
    rw [hevictions] at hmem
    rw [hadded]
    rcases List.mem_append.mp hmem with hmem | hmem
    · exact ⟨fun hid => (h.evicted c' v' hmem).1 ((hids v').mp hid).1, (h.evicted c' v' hmem).2⟩
    · obtain ⟨rfl, rfl⟩ := Prod.mk.inj (List.mem_singleton.mp hmem)
      exact ⟨fun hid => ((hids v').mp hid).2 rfl, h.rows v' hv⟩
  · rw [hevictions]
    refine nodup_map_concat h.victims ?_
    intro hmem
    obtain ⟨⟨c', v'⟩, hmem', rfl⟩ := List.mem_map.mp hmem
    exact (h.evicted c' v' hmem').1 hv
  · intro id hid
    have hold : s.Absorbed id := by
      rw [Absorbed, habsorbed] at hid
      exact hid
    obtain ⟨hnot, hlt, hnone⟩ := h.absorbed id hold
    rw [hnext, hevictions]
    refine ⟨fun hrow => hnot ((hids id).mp hrow).1, hlt, ?_⟩
    intro c' hmem
    rcases List.mem_append.mp hmem with hmem | hmem
    · exact hnone c' hmem
    · obtain ⟨-, rfl⟩ := Prod.mk.inj (List.mem_singleton.mp hmem)
      exact hnot hv
  · intro id hid
    rw [hadded]
    exact h.rows id ((hids id).mp hid).1
  · rw [hadded, hnext]
    exact h.added_lt

/-! ## The invariant -/

/-- What the state records is consistent. -/
structure Accounted (s : EvictionState α) : Prop where
  named : Named s
  placed : Placed s
  deleting : ∀ call ∈ s.queue.flushes, ∀ positions, call.stage = .deleting positions →
    positions ∈ s.queue.acknowledged

theorem accounted_start (store : PositionStore α) : Accounted (start store) where
  named := by constructor <;> simp [start, QueueState.start]
  placed :=
    { evicted := by simp [start]
      victims := by simp [start]
      absorbed := by simp [start, Absorbed]
      rows := by
        intro id hid
        obtain ⟨p, hp, rfl⟩ := List.mem_map.mp hid
        exact ⟨p, hp, rfl⟩
      added_lt := store.fresh }
  deleting := by simp [start, QueueState.start]

theorem reported_start (store : PositionStore α) : Reported (start store) where
  gone p hp := .inl (List.mem_map_of_mem hp)
  once := by simp [start]

/-- What becomes of the rows and of what calls report. -/
theorem Reported.of_moved (h : s.Reported)
    (hadded : ∀ p ∈ t.queue.added, p ∈ s.queue.added ∨ p.id ∈ t.queue.store.ids)
    (hids : ∀ id ∈ s.queue.store.ids, id ∈ t.queue.store.ids ∨ t.Acknowledged id ∨ t.Absorbed id ∨
      ∃ c, (c, id) ∈ t.evictions ∧ t.Reports c)
    (hacknowledged : ∀ chunk ∈ s.queue.acknowledged, chunk ∈ t.queue.acknowledged)
    (habsorbed : ∀ q ∈ s.absorbed, q ∈ t.absorbed)
    (hevictions : ∀ c v, (c, v) ∈ s.evictions → s.Reports c → t.Acknowledged v ∨
      (c, v) ∈ t.evictions ∧ t.Reports c)
    (honce : (t.evictions.map Prod.fst).Nodup) : t.Reported where
  gone p hp := by
    rcases hadded p hp with hp | hid
    · rcases h.gone p hp with hid | ⟨chunk, hchunk, hid⟩ | ⟨q, r, hqr, hid⟩ | ⟨c, hmem, hreports⟩
      · exact hids _ hid
      · exact .inr (.inl ⟨chunk, hacknowledged chunk hchunk, hid⟩)
      · exact .inr (.inr (.inl ⟨q, r, habsorbed _ hqr, hid⟩))
      · rcases hevictions c _ hmem hreports with hid | hid
        · exact .inr (.inl hid)
        · exact .inr (.inr (.inr ⟨c, hid⟩))
    · exact .inl hid
  once := honce

/-! ## Steps of a flush -/

theorem Accounted.withQueue (h : Accounted s) {q : QueueState α}
    (henqueues : q.enqueues = s.queue.enqueues) (hadded : q.added = s.queue.added)
    (hids : q.store.ids ⊆ s.queue.store.ids) (hnext : q.store.next = s.queue.store.next)
    (hdeleting : ∀ call ∈ q.flushes, ∀ positions, call.stage = .deleting positions →
      positions ∈ q.acknowledged) : Accounted { s with queue := q } where
  named :=
    { h.named with
      paired := h.named.paired.trans (congrArg List.length henqueues.symm)
      dropping := fun i call c v hi => h.named.dropping i call c v (henqueues ▸ hi) }
  placed := h.placed.shrink hids hnext hadded rfl fun _ hid => .inl hid
  deleting := hdeleting

theorem Reported.withQueue (h : s.Reported) {q : QueueState α} (hadded : q.added = s.queue.added)
    (hids : ∀ id ∈ s.queue.store.ids, id ∈ q.store.ids ∨
      ∃ chunk ∈ q.acknowledged, id ∈ chunk.map QueuedPosition.id)
    (hacknowledged : ∀ chunk ∈ s.queue.acknowledged, chunk ∈ q.acknowledged) :
    Reported { s with queue := q } := by
  refine h.of_moved ?_ ?_ hacknowledged (fun _ hq => hq)
    (fun c v hmem hreports => .inr ⟨hmem, hreports⟩)
    h.once
  · intro p hp
    exact .inl (hadded ▸ hp)
  · intro id hid
    rcases hids id hid with hid | hid
    · exact .inl hid
    · exact .inr (.inl hid)

/-- A flush that goes on deletes what was acknowledged, and nothing else. -/
theorem flushNext_kept (h : Accounted s) {q : QueueState α} {i : Nat}
    (hstep : s.queue.step (.flushNext i) = some q) :
    Accounted { s with queue := q } ∧ (s.Reported → Reported { s with queue := q }) := by
  obtain ⟨call, hi, rfl⟩ := Option.map_eq_some_iff.mp hstep
  have hmem : call ∈ s.queue.flushes := List.mem_of_getElem? hi
  -- the other flushes, and this one at its next stage
  have hmoved : ∀ new : FlushCall α, (∀ positions, new.stage = .deleting positions →
      positions ∈ s.queue.acknowledged) → ∀ call ∈ s.queue.flushes.set i new, ∀ positions,
        call.stage = .deleting positions → positions ∈ s.queue.acknowledged :=
    fun new hnew => forall_mem_set h.deleting hnew
  obtain ⟨chunkSize, stage⟩ := call
  cases stage with
  | reading =>
      simp only [QueueState.advanceFlush]
      split
      · refine ⟨h.withQueue rfl rfl (List.Subset.refl _) rfl ?_, fun hr => hr.withQueue rfl
          (fun id hid => .inl hid) (fun _ hc => hc)⟩
        intro call hcall
        exact h.deleting call (List.mem_of_mem_eraseIdx hcall)
      · exact ⟨h.withQueue rfl rfl (List.Subset.refl _) rfl (hmoved _ (by intro positions h; cases h)), fun hr =>
          hr.withQueue rfl (fun id hid => .inl hid) (fun _ hc => hc)⟩
  | sending positions =>
      have hkeep : ∀ chunk ∈ s.queue.acknowledged, chunk ∈ s.queue.acknowledged ++ [positions] :=
        fun chunk hchunk => List.mem_append_left _ hchunk
      refine ⟨h.withQueue rfl rfl (List.Subset.refl _) rfl ?_, fun hr => hr.withQueue rfl
        (fun id hid => .inl hid) hkeep⟩
      refine forall_mem_set ?_ ?_
      · intro call hcall positions' hstage
        exact hkeep _ (h.deleting call hcall positions' hstage)
      · rintro positions' ⟨⟩
        exact List.mem_append_right _ (List.mem_singleton_self _)
  | deleting positions =>
      have hacknowledged := h.deleting _ hmem positions rfl
      refine ⟨h.withQueue rfl rfl ?_ rfl (hmoved _ (by intro positions h; cases h)), fun hr => hr.withQueue rfl ?_
        (fun _ hc => hc)⟩
      · intro id hid
        exact (mem_ids_delete.mp hid).1
      · intro id hid
        by_cases hdeleted : id ∈ positions.map QueuedPosition.id
        · exact .inr ⟨positions, hacknowledged, hdeleted⟩
        · exact .inl (mem_ids_delete.mpr ⟨hid, hdeleted⟩)

/-! ## Steps of a call -/

/-- A call that has evicted something and ends says so, and the others are where they were. -/
theorem reports_ends (hc : s.calls[i]? = some c) {results : List EnqueueResult}
    (hcalls : t.calls = s.calls.eraseIdx i)
    (hreturned : t.returned = s.returned ++ results.map (c, ·))
    (hresult : ∃ result ∈ results, result.droppedOldest = true) {c' : Nat} (hreports : s.Reports c') :
    t.Reports c' := by
  rcases hreports with hmem | ⟨result, hmem, hdropped⟩
  · by_cases hcc : c' = c
    · subst hcc
      obtain ⟨result, hresult, hdropped⟩ := hresult
      refine .inr ⟨result, ?_, hdropped⟩
      rw [hreturned]
      exact List.mem_append_right _ (List.mem_map_of_mem hresult)
    · refine .inl ?_
      rw [hcalls]
      exact mem_eraseIdx_of_ne hc hmem hcc
  · refine .inr ⟨result, ?_, hdropped⟩
    rw [hreturned]
    exact List.mem_append_left _ hmem

/-- Only the call that ends may have something to say. -/
theorem reports_of_ne (hc : s.calls[i]? = some c) (hcalls : t.calls = s.calls.eraseIdx i)
    (hreturned : s.returned ⊆ t.returned) {c' : Nat} (hne : c' ≠ c) (hreports : s.Reports c') :
    t.Reports c' := by
  rcases hreports with hmem | ⟨result, hmem, hdropped⟩
  · refine .inl ?_
    rw [hcalls]
    exact mem_eraseIdx_of_ne hc hmem hne
  · exact .inr ⟨result, hreturned hmem, hdropped⟩

/-- A call goes on without a change of the store. -/
theorem moved_kept (h : Accounted s) (hi : s.queue.enqueues[i]? = some call)
    (hstage : ∀ size, call.stage ≠ .adding size true) (new : EnqueueCall α) :
    Accounted { s with queue := s.queue.moveEnqueue i new } ∧
      (s.Reported → Reported { s with queue := s.queue.moveEnqueue i new }) := by
  obtain ⟨c, hc⟩ := h.named.exists_call hi
  constructor
  · exact ⟨h.named.move hi hc hstage rfl rfl rfl rfl (.inl rfl),
      h.placed.shrink (List.Subset.refl _) rfl rfl rfl (fun _ hid => .inl hid), h.deleting⟩
  · exact fun hr => hr.withQueue rfl (fun id hid => .inl hid) (fun _ hchunk => hchunk)

theorem compact_kept (h : Accounted s) (hi : s.queue.enqueues[i]? = some call)
    (hstage : call.stage = .compacting) (now : Int) (new : EnqueueCall α) {t : EvictionState α}
    (ht : t =
      { s with
        queue :=
          { s.queue.moveEnqueue i new with
            store := (compactOldestPositions now s.queue.store).2 }
        absorbed := s.absorbed ++ absorbedBy now s.queue.store }) :
    Accounted t ∧ (s.Reported → Reported t) := by
  subst ht
  obtain ⟨c, hc⟩ := h.named.exists_call hi
  have hnot : ∀ size, call.stage ≠ .adding size true := by
    rw [hstage]
    exact nofun
  constructor
  · refine ⟨h.named.move hi hc hnot rfl rfl rfl rfl (.inl rfl), ?_, h.deleting⟩
    refine h.placed.shrink (ids_compact_subset now s.queue.store) rfl rfl rfl ?_
    rintro id ⟨p, r, hmem, rfl⟩
    rcases List.mem_append.mp hmem with hmem | hmem
    · exact .inl ⟨p, r, hmem, rfl⟩
    · have hp := (mem_absorbedBy.mp hmem).1
      exact .inr ⟨List.mem_map_of_mem hp, (absorbed_iff hp).mp ⟨r, hmem⟩⟩
  · intro hr
    refine hr.of_moved (fun p hp => .inl hp) ?_ (fun _ hchunk => hchunk)
      (fun q hq => List.mem_append_left _ hq) (fun c v hmem hreports => .inr ⟨hmem, hreports⟩) hr.once
    intro id hid
    obtain ⟨p, hp, rfl⟩ := List.mem_map.mp hid
    by_cases hleft : p.id ∈ (compactOldestPositions now s.queue.store).2.ids
    · exact .inl hleft
    · obtain ⟨r, hr⟩ := (absorbed_iff hp).mpr hleft
      exact .inr (.inr (.inl ⟨p, r, List.mem_append_right _ hr, rfl⟩))

theorem evict_kept (h : Accounted s) (hi : s.queue.enqueues[i]? = some call)
    (hc : s.calls[i]? = some c) {size : Nat} (hstage : call.stage = .evicting size)
    {oldest : QueuedPosition α} {rest : List (QueuedPosition α)}
    (hrows : s.queue.store.rows = oldest :: rest) {t : EvictionState α}
    (ht : t =
      { s with
        queue :=
          { s.queue.moveEnqueue i ⟨call.pos, .adding size true⟩ with
            store := s.queue.store.delete [oldest.id] }
        evictions := s.evictions ++ [(c, oldest.id)] }) :
    Accounted t ∧ (s.Reported → Reported t) := by
  subst ht
  have hnot : ∀ size, call.stage ≠ .adding size true := by
    rw [hstage]
    exact nofun
  have holdest : oldest.id ∈ s.queue.store.ids := by
    rw [PositionStore.ids, hrows]
    exact List.mem_cons_self ..
  have hnamed : Named
      { s with
        queue :=
          { s.queue.moveEnqueue i ⟨call.pos, .adding size true⟩ with
            store := s.queue.store.delete [oldest.id] }
        evictions := s.evictions ++ [(c, oldest.id)] } :=
    h.named.move hi hc hnot rfl rfl rfl rfl (.inr ⟨oldest.id, size, rfl, rfl⟩)
  constructor
  · refine ⟨hnamed, h.placed.evict holdest ?_ rfl rfl rfl rfl, h.deleting⟩
    intro id
    exact mem_ids_delete.trans (and_congr_right fun _ => not_congr List.mem_singleton)
  · intro hr
    refine hr.of_moved (fun p hp => .inl hp) ?_ (fun _ hchunk => hchunk) (fun _ hq => hq) ?_
      hnamed.once
    · intro id hid
      by_cases heq : id = oldest.id
      · subst heq
        refine .inr (.inr (.inr ⟨c, ?_, .inl (List.mem_of_getElem? hc)⟩))
        exact List.mem_append_right _ (List.mem_singleton_self _)
      · exact .inl (mem_ids_delete.mpr ⟨hid, fun hmem => heq (List.mem_singleton.mp hmem)⟩)
    · intro c' v hmem hreports
      exact .inr ⟨List.mem_append_left _ hmem, hreports⟩

/-- The store was emptied meanwhile: the call returns, and has evicted nothing. -/
theorem empty_kept (h : Accounted s) (hi : s.queue.enqueues[i]? = some call)
    (hc : s.calls[i]? = some c) (hnot : ∀ size, call.stage ≠ .adding size true)
    (result : EnqueueResult) :
    Accounted (s.returns (s.queue.endEnqueue i result) i c) ∧
      (s.Reported → Reported (s.returns (s.queue.endEnqueue i result) i c)) := by
  have hnone := h.named.not_evicted hi hc hnot
  constructor
  · refine ⟨h.named.ends hc rfl rfl rfl rfl rfl, ?_, h.deleting⟩
    exact h.placed.shrink (List.Subset.refl _) rfl rfl rfl (fun _ hid => .inl hid)
  · intro hr
    refine hr.of_moved (fun p hp => .inl hp) (fun id hid => .inl hid) (fun _ hchunk => hchunk)
      (fun _ hq => hq) ?_ hr.once
    intro c' v hmem hreports
    refine .inr ⟨hmem, reports_of_ne hc rfl (List.subset_append_left ..) ?_ hreports⟩
    rintro rfl
    exact hnone v hmem

theorem add_kept (h : Accounted s) (hi : s.queue.enqueues[i]? = some call)
    (hc : s.calls[i]? = some c) {size : Nat} {droppedOldest : Bool}
    (hstage : call.stage = .adding size droppedOldest) (now : Int) {t : EvictionState α}
    (ht : t = s.returns (s.queue.advance i now call.pos (.adding size droppedOldest)) i c) :
    Accounted t ∧ (s.Reported → Reported t) := by
  subst ht
  have hresults : (s.queue.advance i now call.pos (.adding size droppedOldest)).results.drop
      s.queue.results.length = [⟨true, droppedOldest, decide (queueWarnSize ≤ size + 1)⟩] :=
    List.drop_left
  constructor
  · refine ⟨h.named.ends hc rfl rfl rfl rfl rfl, ?_, h.deleting⟩
    exact h.placed.add (p := ⟨call.pos, s.queue.store.next, now, false⟩) rfl (ids_add ..) rfl rfl rfl
      rfl
  · intro hr
    refine hr.of_moved ?_ ?_ (fun _ hchunk => hchunk) (fun _ hq => hq) ?_ hr.once
    · intro p hp
      rcases List.mem_append.mp hp with hp | hp
      · exact .inl hp
      · rw [List.mem_singleton.mp hp]
        refine .inr ?_
        exact (ids_add s.queue.store call.pos now).symm ▸ List.mem_append_right _
          (List.mem_singleton_self _)
    · intro id hid
      exact .inl ((ids_add s.queue.store call.pos now).symm ▸ List.mem_append_left _ hid)
    · intro c' v hmem hreports
      refine .inr ⟨hmem, ?_⟩
      by_cases hcc : c' = c
      · -- the call that adds is the one that evicted
        subst hcc
        obtain ⟨size', hadding⟩ := h.named.dropping i call c' v hi hc hmem
        obtain ⟨-, rfl⟩ : size = size' ∧ droppedOldest = true := by
          rw [hstage] at hadding
          exact EnqueueStage.adding.inj hadding
        refine reports_ends hc rfl rfl ?_ hreports
        rw [hresults]
        exact ⟨_, List.mem_singleton_self _, rfl⟩
      · exact reports_of_ne hc rfl (List.subset_append_left ..) hcc hreports

/-- A call fails: what it evicted is not reported any more. -/
theorem fails_kept (h : Accounted s) (hc : s.calls[i]? = some c) {t : EvictionState α}
    (ht : t =
      { s with
        queue := { s.queue with enqueues := s.queue.enqueues.eraseIdx i }
        calls := s.calls.eraseIdx i }) :
    Accounted t ∧ (s.Reported →
      (t.Reported ↔ ∀ c v, s.calls[i]? = some c → (c, v) ∈ s.evictions → s.Acknowledged v)) := by
  subst ht
  constructor
  · have hreturned : s.returned = s.returned ++ [].map (c, ·) := (List.append_nil _).symm
    refine ⟨h.named.ends hc rfl rfl hreturned rfl rfl, ?_, h.deleting⟩
    exact h.placed.shrink (List.Subset.refl _) rfl rfl rfl (fun _ hid => .inl hid)
  · intro hr
    constructor
    · intro hreported c' v hc' hmem
      obtain rfl : c = c' := Option.some.inj (hc.symm.trans hc')
      obtain ⟨hrow, p, hp, rfl⟩ := h.placed.evicted c v hmem
      rcases hreported.gone p hp with hid | hid | hid | ⟨c', hmem', hreports⟩
      · exact absurd hid hrow
      · exact hid
      · exact absurd hmem ((h.placed.absorbed _ hid).2.2 c)
      · obtain rfl : c' = c := congrArg Prod.fst
          (List.inj_on_of_nodup_map h.placed.victims hmem' hmem rfl)
        rcases hreports with hcall | ⟨result, hreturned, -⟩
        · refine absurd rfl (ne_of_mem_eraseIdx (f := id) ?_ hc hcall)
          simpa using h.named.nodup
        · exact absurd (List.mem_of_getElem? hc) (h.named.returned c' result hreturned).2
    · intro hkept
      refine hr.of_moved (fun p hp => .inl hp) (fun id hid => .inl hid) (fun _ hchunk => hchunk)
        (fun _ hq => hq) ?_ hr.once
      intro c' v hmem hreports
      by_cases hcc : c' = c
      · subst hcc
        exact .inl (hkept c' v hc hmem)
      · refine .inr ⟨hmem, ?_⟩
        refine reports_of_ne (s := s) hc ?_ ?_ hcc hreports
        · rfl
        · exact List.Subset.refl _

/-- Only a call that fails may leave an eviction without a report. -/
theorem step_kept (h : Accounted s) {e : EvictionEvent α} (hstep : s.step e = some t) :
    Accounted t ∧ (s.Reported → (t.Reported ↔ s.InsertionKept e)) := by
  -- the steps on which there is no condition
  have hfree : s.InsertionKept e = True → Accounted t ∧ (s.Reported → t.Reported) →
      Accounted t ∧ (s.Reported → (t.Reported ↔ s.InsertionKept e)) := by
    rintro htrue ⟨ht, hr⟩
    exact ⟨ht, fun hs => htrue ▸ iff_of_true (hr hs) trivial⟩
  cases e with
  | aborts i now =>
      refine hfree rfl ?_
      simp only [step, abort] at hstep
      split at hstep
      · rename_i pos size hi
        split at hstep
        · cases hstep
        · obtain rfl := Option.some.inj hstep
          refine moved_kept h hi ?_ _
          intro size hstage
          cases hstage
      · rename_i pos hi
        split at hstep
        · obtain rfl := Option.some.inj hstep
          refine moved_kept h hi ?_ _
          intro size hstage
          cases hstage
        · cases hstep
      · cases hstep
  | queue e =>
      obtain ⟨q, hq, rfl⟩ := Option.map_eq_some_iff.mp hstep
      cases e with
      | enqueue pos =>
          refine hfree rfl ?_
          obtain rfl := Option.some.inj hq
          constructor
          · refine ⟨h.named.begin rfl rfl rfl rfl rfl, ?_, h.deleting⟩
            exact h.placed.shrink (List.Subset.refl _) rfl rfl rfl (fun _ hid => .inl hid)
          · intro hr
            refine hr.of_moved (fun p hp => .inl hp) (fun id hid => .inl hid)
              (fun _ hchunk => hchunk) (fun _ hq => hq) ?_ hr.once
            intro c v hmem hreports
            exact .inr ⟨hmem, hreports.imp_left (List.mem_append_left _)⟩
      | enqueueNext i now =>
          refine hfree rfl ?_
          obtain ⟨call, hi, rfl⟩ := Option.map_eq_some_iff.mp hq
          obtain ⟨c, hc⟩ := h.named.exists_call hi
          have hobserve : s.observe (s.queue.advance i now call.pos call.stage) (.enqueueNext i now) =
              s.record (s.queue.advance i now call.pos call.stage) i c now call.stage := by
            rw [observe, hi, hc]
          rw [hobserve]
          cases hstage : call.stage with
          | sizing =>
              exact moved_kept h hi (by rw [hstage]; intro size h; cases h) _
          | compacting => exact compact_kept h hi hstage now _ rfl
          | resizing =>
              exact moved_kept h hi (by rw [hstage]; intro size h; cases h) _
          | evicting size =>
              cases hrows : s.queue.store.rows with
              | nil =>
                  have hnot : ∀ size, call.stage ≠ .adding size true := by
                    rw [hstage]
                    intro size h
                    cases h
                  have hempty := empty_kept h hi hc hnot ⟨false, false, false⟩
                  simpa only [record, QueueState.advance, hrows] using hempty
              | cons oldest rest =>
                  refine evict_kept h hi hc hstage hrows ?_
                  simp only [record, QueueState.advance, hrows]
          | adding size droppedOldest => exact add_kept h hi hc hstage now rfl
      | enqueueFails i =>
          obtain ⟨call, hi, rfl⟩ := Option.map_eq_some_iff.mp hq
          obtain ⟨c, hc⟩ := h.named.exists_call hi
          exact fails_kept h hc rfl
      | flush chunkSize =>
          refine hfree rfl ?_
          simp only [QueueState.step] at hq
          split at hq
          · obtain rfl := Option.some.inj hq
            exact ⟨h, id⟩
          · obtain rfl := Option.some.inj hq
            refine ⟨h.withQueue rfl rfl (List.Subset.refl _) rfl ?_, fun hr => hr.withQueue rfl
              (fun id hid => .inl hid) (fun _ hchunk => hchunk)⟩
            refine forall_mem_concat h.deleting ?_
            intro positions hstage
            cases hstage
      | flushNext i => exact hfree rfl (flushNext_kept h hq)
      | flushFails i =>
          refine hfree rfl ?_
          obtain ⟨call, -, rfl⟩ := Option.map_eq_some_iff.mp hq
          refine ⟨h.withQueue rfl rfl (List.Subset.refl _) rfl ?_, fun hr => hr.withQueue rfl
            (fun id hid => .inl hid) (fun _ hchunk => hchunk)⟩
          intro call hcall
          exact h.deleting call (List.mem_of_mem_eraseIdx hcall)

/-- **Every eviction is reported, in every state of a run, exactly if no insertion fails after an
eviction, but of a position that is acknowledged.** -/
theorem reported_iff {store : PositionStore α} {es : List (EvictionEvent α)} {s : EvictionState α}
    (h : Run (Steps step) (start store) es s) :
    (∀ es₁ es₂ u, es = es₁ ++ es₂ → Run (Steps step) (start store) es₁ u → Reported u) ↔
      Run (Guarded (Steps step) InsertionKept) (start store) es s := by
  refine Run.always_iff_guarded_of (I := Reported) (J := Accounted) ?_ ?_ ?_ h
    (reported_start store) (accounted_start store)
  · intro s e t t' ht ht'
    exact Option.some.inj (ht.symm.trans ht')
  · intro s e t _ hs hstep
    exact (step_kept hs hstep).1
  · intro s e t hr hs hstep
    exact (step_kept hs hstep).2 hr

/-! ## A silent eviction -/

/-- A position is queued, and its insertion fails. -/
def silentEviction (pos : Position α) (now : Int) : List (EvictionEvent α) :=
  [.queue (.enqueue pos), .queue (.enqueueNext 0 now), .queue (.enqueueNext 0 now),
    .queue (.enqueueNext 0 now), .queue (.enqueueNext 0 now), .queue (.enqueueFails 0)]

/-- The first call of a queue is under way. -/
def firstCall (added : List (QueuedPosition α)) (store : PositionStore α) (call : EnqueueCall α) :
    EvictionState α where
  queue := { QueueState.start store with enqueues := [call], added := added }
  calls := [0]
  nextCall := 1
  evictions := []
  returned := []
  absorbed := []

theorem length_compact {store : PositionStore α} {now : Int} (h : absorbedBy now store = []) :
    store.rows.length ≤ (compactOldestPositions now store).2.rows.length := by
  have hids : store.ids ⊆ (compactOldestPositions now store).2.ids := by
    intro id hid
    obtain ⟨p, hp, rfl⟩ := List.mem_map.mp hid
    by_contra hgone
    obtain ⟨r, hr⟩ := (absorbed_iff hp).mpr hgone
    rw [h] at hr
    cases hr
  have hle := (List.subperm_of_subset store.nodup_ids hids).length_le
  simpa [PositionStore.ids] using hle

/-- In a full queue with nothing to compact, the oldest position goes without a report. -/
theorem exists_silentEviction {store : PositionStore α} (pos : Position α) {now : Int}
    (hfull : queueMaxSize ≤ store.rows.length) (hnone : absorbedBy now store = []) :
    ∃ s, Run (Steps step) (start store) (silentEviction pos now) s ∧ ¬ s.Reported := by
  have hfull' := Nat.le_trans hfull (length_compact hnone)
  have hsubset := ids_compact_subset now store
  generalize hcompact : (compactOldestPositions now store).2 = compacted at hfull' hsubset
  obtain ⟨oldest, rest, hrows⟩ : ∃ oldest rest, compacted.rows = oldest :: rest := by
    refine List.exists_cons_of_length_pos (Nat.lt_of_lt_of_le ?_ hfull')
    rw [queueMaxSize]
    exact Nat.succ_pos _
  let size := compacted.rows.length
  let evicted : EvictionState α :=
    { firstCall store.rows (compacted.delete [oldest.id]) ⟨pos, .adding size true⟩ with
      evictions := [(0, oldest.id)] }
  refine ⟨{ evicted with queue := { evicted.queue with enqueues := [] }, calls := [] }, ?_, ?_⟩
  · refine .cons (t := firstCall store.rows store ⟨pos, .sizing⟩) rfl ?_
    refine .cons (t := firstCall store.rows store ⟨pos, .compacting⟩) ?_ ?_
    · simp [Steps, step, QueueState.step, observe, record, QueueState.advance, QueueState.sized,
        QueueState.moveEnqueue, firstCall, QueueState.start, hfull]
    refine .cons (t := firstCall store.rows compacted ⟨pos, .resizing⟩) ?_ ?_
    · simp [Steps, step, QueueState.step, observe, record, QueueState.advance,
        QueueState.moveEnqueue, firstCall, QueueState.start, hnone, hcompact]
    refine .cons (t := firstCall store.rows compacted ⟨pos, .evicting size⟩) ?_ ?_
    · simp [Steps, step, QueueState.step, observe, record, QueueState.advance, QueueState.sized,
        QueueState.moveEnqueue, firstCall, QueueState.start, hfull', size]
    refine .cons (t := evicted) ?_ ?_
    · simp [Steps, step, QueueState.step, observe, record, QueueState.advance,
        QueueState.moveEnqueue, firstCall, QueueState.start, hrows, evicted]
    exact .cons rfl (.nil _)
  · intro hreported
    have holdest : oldest.id ∈ compacted.ids := by
      rw [PositionStore.ids, hrows]
      exact List.mem_cons_self ..
    obtain ⟨p, hp, hid⟩ := List.mem_map.mp (hsubset holdest)
    rcases hreported.gone p hp with hrow | ⟨chunk, hchunk, -⟩ | ⟨q, r, hqr, -⟩ | ⟨c, -, hreports⟩
    · rw [hid] at hrow
      exact (mem_ids_delete.mp hrow).2 (List.mem_singleton_self _)
    · cases hchunk
    · cases hqr
    · rcases hreports with hcall | ⟨result, hreturned, -⟩
      · cases hcall
      · cases hreturned

/-- The position of one bucket. -/
def everyBucket (k : Nat) : QueuedPosition Unit :=
  let ts := compactBucketMs * (k + 1 : Int)
  ⟨⟨some "v1", none, some (some ts), ()⟩, k + 1, ts, false⟩

/-- So many positions, 45 s apart. -/
def spaced (n : Nat) : PositionStore Unit where
  next := n + 1
  rows := (List.range n).map everyBucket
  sorted := by
    rw [List.pairwise_map]
    exact List.pairwise_lt_range.imp fun h => Nat.succ_lt_succ h
  fresh := by
    intro p hp
    obtain ⟨k, hk, rfl⟩ := List.mem_map.mp hp
    exact Nat.succ_lt_succ (List.mem_range.mp hk)

theorem length_spaced (n : Nat) : (spaced n).rows.length = n := by
  rw [spaced, List.length_map, List.length_range]

/-- Each of them is alone in its bucket. -/
theorem absorbedBy_spaced (n : Nat) (now : Int) : absorbedBy now (spaced n) = [] := by
  refine List.eq_nil_iff_forall_not_mem.mpr ?_
  rintro ⟨p, r⟩ hmem
  obtain ⟨hp, bucket, hbucket, hr, hne⟩ := mem_absorbedBy.mp hmem
  obtain ⟨hrmem, hr'⟩ := firstOfBucket_eq_some hr
  obtain ⟨j, -, rfl⟩ := List.mem_map.mp hp
  obtain ⟨k, -, rfl⟩ := List.mem_map.mp hrmem
  have hsame : bucketTs (compactBucketMs * (j + 1)) = bucketTs (compactBucketMs * (k + 1)) :=
    Option.some.inj ((bucket_of_old hbucket).trans (bucket_of_old hr').symm)
  have hjk : k = j := by
    rw [bucketTs, bucketTs, compactBucketMs] at hsame
    omega
  exact hne (congrArg (· + 1) hjk)

/-- A queue that is full. -/
def fullStore : PositionStore Unit := spaced queueMaxSize

/-- **The oldest position of a full queue goes without a report.** -/
theorem evicted_silently : ∃ s,
    Run (Steps step) (start fullStore)
      (silentEviction ⟨some "v1", none, some (some 450045000), ()⟩ 450045000) s ∧ ¬ s.Reported :=
  exists_silentEviction _ (Nat.le_of_eq (length_spaced queueMaxSize).symm)
    (absorbedBy_spaced queueMaxSize _)

theorem reported_iff_fullStore : ∃ s,
    Run (Steps step) (start fullStore)
      (silentEviction ⟨some "v1", none, some (some 450045000), ()⟩ 450045000) s ∧
    ((∀ es₁ es₂ u,
        silentEviction ⟨some "v1", none, some (some 450045000), ()⟩ 450045000 = es₁ ++ es₂ →
          Run (Steps step) (start fullStore) es₁ u → Reported u) ↔
      Run (Guarded (Steps step) InsertionKept) (start fullStore)
        (silentEviction ⟨some "v1", none, some (some 450045000), ()⟩ 450045000) s) := by
  obtain ⟨s, hrun, -⟩ := exists_silentEviction ⟨some "v1", none, some (some 450045000), ()⟩
    (Nat.le_of_eq (length_spaced queueMaxSize).symm) (absorbedBy_spaced queueMaxSize 450045000)
  exact ⟨s, hrun, reported_iff hrun⟩

end EvictionState

end DeliveryTracking.Phone
