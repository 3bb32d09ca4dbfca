/-
# `DeliveryTracking.Phone.BatchCorrelation` — which answer belongs to which chunk

`drainQueue` sends each chunk of a flush with a `batchId` of its own, and its promise
waits for one of three: `positionsSaved` or `positionsRejected` with that `batchId`, or
the timeout.  The answers come in any order, at any time, or not at all; a listener that
gets the answer of another chunk registers again.

    pending   a listener of each of the two events, and the timer
    settled   none of these, for good

A chunk is deleted from the queue only after its promise has resolved, and that it does
only when the server emitted `positionsSaved` for the very `batchId` (`correlated`).
-/
import DeliveryTracking.Emitter
import DeliveryTracking.Phone.OfflineQueue
import DeliveryTracking.Tracking.BatchAck

namespace DeliveryTracking.Phone

open Tracking

/-! ## The socket -/

inductive Settlement where
  | resolved
  | rejected (message : String)
  deriving DecidableEq, Repr

/-- `batchPosition`, on its way to the server. -/
structure BatchMessage (β : Type) where
  batchId : String
  positions : List β

/-- What the server emitted, and for which message. -/
structure Emission (β : Type) where
  message : BatchMessage β
  reply : BatchReply

/-- The chunks that were sent, by number; those whose listeners are registered, or whose timer runs;
the messages in flight, an answer with its `batchId`; what the server emitted; and the calls of
`resolve` and `reject`. -/
structure Acks (β : Type) where
  sent : List (List β)
  saved : List Nat
  rejected : List Nat
  timers : List Nat
  toServer : List (BatchMessage β)
  toClient : List (BatchReply × Option String)
  emitted : List (Emission β)
  settlements : List (Nat × Settlement)

namespace Acks

variable {β : Type}

def start : Acks β := ⟨[], [], [], [], [], [], [], []⟩

def positionsSaved : Event (Acks β) Nat := ⟨Acks.saved, fun l s => { s with saved := l }⟩

def positionsRejected : Event (Acks β) Nat := ⟨Acks.rejected, fun l s => { s with rejected := l }⟩

def clearTimeout (k : Nat) (s : Acks β) : Acks β := { s with timers := s.timers.erase k }

def settle (k : Nat) (o : Settlement) (s : Acks β) : Acks β :=
  { s with settlements := s.settlements ++ [(k, o)] }

section

variable (batchId : Nat → String)

/-- `data?.batchId && data.batchId !== batchId` -/
def isForeign (k : Nat) (data : Option String) : Bool := data.any fun b => b ≠ "" ∧ b ≠ batchId k

def onPositionsSaved (data : Option String) (k : Nat) (s : Acks β) : Acks β :=
  if isForeign batchId k data then positionsSaved.once k s
  else (positionsRejected.off k (s.clearTimeout k)).settle k .resolved

def onPositionsRejected (data : Option String) (reason : Option String) (k : Nat) (s : Acks β) :
    Acks β :=
  if isForeign batchId k data then positionsRejected.once k s
  else (positionsSaved.off k (s.clearTimeout k)).settle k
    (.rejected ("batch rejected: " ++ reason.getD "unknown"))

/-- The timer of chunk `k` fires. -/
def onTimeout (k : Nat) (s : Acks β) : Acks β :=
  (positionsRejected.off k (positionsSaved.off k (s.clearTimeout k))).settle k
    (.rejected ("flush timeout (" ++ toString (s.sent.getD k []).length ++ " positions)"))

/-- `sendFn`: the promise of a new chunk is made. -/
def send (positions : List β) (s : Acks β) : Acks β :=
  let k := s.sent.length
  positionsRejected.once k (positionsSaved.once k
    { s with
      sent := s.sent ++ [positions]
      toServer := s.toServer ++ [⟨batchId k, positions⟩]
      timers := s.timers ++ [k] })

/-- An answer reaches the phone. -/
def receive (reply : BatchReply) (data : Option String) (s : Acks β) : Acks β :=
  match reply with
  | .positionsSaved _ => positionsSaved.emit (onPositionsSaved batchId data) s
  | .positionsRejected reason =>
      positionsRejected.emit (onPositionsRejected batchId data (some reason)) s
  | .positionsInvalid _ => s

end

/-- `handleBatchPosition`: every answer carries the `batchId` of the message. -/
def emits {R : Type} (message : BatchMessage β) (result : BatchResult R) (s : Acks β) : Acks β :=
  { s with
    toClient := s.toClient ++ result.replies.map (·, some message.batchId)
    emitted := s.emitted ++ result.replies.map (⟨message, ·⟩) }

end Acks

inductive NetEvent (R : Type) where
  /-- The server has handled message `j`. -/
  | serve (j : Nat) (result : BatchResult R)
  | loseMessage (j : Nat)
  | answer (j : Nat)
  | loseAnswer (j : Nat)
  | timeout (k : Nat)

namespace Acks

variable {β R : Type}

def step (batchId : Nat → String) (s : Acks β) : NetEvent R → Option (Acks β)
  | .serve j result =>
      (s.toServer[j]?).map fun message =>
        emits message result { s with toServer := s.toServer.eraseIdx j }
  | .loseMessage j =>
      (s.toServer[j]?).map fun _ => { s with toServer := s.toServer.eraseIdx j }
  | .answer j =>
      (s.toClient[j]?).map fun (reply, data) =>
        receive batchId reply data { s with toClient := s.toClient.eraseIdx j }
  | .loseAnswer j =>
      (s.toClient[j]?).map fun _ => { s with toClient := s.toClient.eraseIdx j }
  | .timeout k => if k ∈ s.timers then some (onTimeout k s) else none

end Acks

/-! ## The flushes -/

/-- The queue, the socket, and for each flush the chunk whose promise it awaits. -/
structure Drain (α : Type) where
  queue : QueueState α
  acks : Acks (QueuedPosition α)
  awaits : List (Option Nat)

inductive DrainEvent (α R : Type) where
  | queue (e : QueueEvent α)
  | net (e : NetEvent R)

namespace Drain

variable {α R : Type}

def start (store : PositionStore α) : Drain α := ⟨.start store, .start, []⟩

section

variable (batchId : Nat → String) (s : Drain α)

/-- The chunk that flush `i` awaits has settled like this. -/
def settledWith (i : Nat) (p : Settlement → Bool) : Bool :=
  (s.awaits[i]?).any fun k => s.acks.settlements.any fun (j, o) => k = some j ∧ p o

/-- A flush goes on from `sendFn` when its promise has resolved, and sends when it has read a
chunk. -/
def flushNext (i : Nat) (q : QueueState α) : FlushCall α → Option (Drain α)
  | ⟨_, .sending _⟩ =>
      if s.settledWith i (· = .resolved) then some { s with queue := q } else none
  | ⟨chunkSize, .reading⟩ =>
      let positions := dequeuePositions chunkSize s.queue.store.rows
      if positions.isEmpty then some { s with queue := q, awaits := s.awaits.eraseIdx i }
      else
        some
          { queue := q
            acks := s.acks.send batchId positions
            awaits := s.awaits.set i (some s.acks.sent.length) }
  | ⟨_, .deleting _⟩ => some { s with queue := q }

/-- A flush that awaits a promise fails when that is rejected. -/
def flushFails (i : Nat) (q : QueueState α) : FlushCall α → Option (Drain α)
  | ⟨_, .sending _⟩ =>
      if s.settledWith i (· ≠ .resolved) then
        some { s with queue := q, awaits := s.awaits.eraseIdx i }
      else none
  | ⟨_, .reading⟩ | ⟨_, .deleting _⟩ =>
      some { s with queue := q, awaits := s.awaits.eraseIdx i }

def observe (q : QueueState α) : QueueEvent α → Option (Drain α)
  | .flush _ =>
      some
        { s with
          queue := q
          awaits := if s.queue.isFlushing then s.awaits else s.awaits ++ [none] }
  | .flushNext i => (s.queue.flushes[i]?).bind (s.flushNext batchId i q)
  | .flushFails i => (s.queue.flushes[i]?).bind (s.flushFails i q)
  | .enqueue _ | .enqueueNext .. | .enqueueFails _ => some { s with queue := q }

def step : DrainEvent α R → Option (Drain α)
  | .queue e => (s.queue.step e).bind fun q => s.observe batchId q e
  | .net e => (s.acks.step batchId e).map fun acks => { s with acks := acks }

end

end Drain

/-! ## The invariant of the socket -/

namespace Acks

variable {β R : Type} (batchId : Nat → String) (s : Acks β)

/-- The promise of chunk `k` was made and has not settled. -/
def IsPending (k : Nat) : Prop := k < s.sent.length ∧ k ∉ s.settlements.map Prod.fst

/-- A message with a chunk and its `batchId`. -/
def IsChunk (message : BatchMessage β) : Prop :=
  ∃ k, message.batchId = batchId k ∧ s.sent[k]? = some message.positions

/-- The server emitted this answer. -/
def WasEmitted (reply : BatchReply) (data : Option String) : Prop :=
  ∃ message, data = some message.batchId ∧ ⟨message, reply⟩ ∈ s.emitted

/-- The server emitted `positionsSaved` for chunk `k`. -/
def IsSaved (k : Nat) : Prop :=
  ∃ positions count, s.sent[k]? = some positions ∧
    ⟨⟨batchId k, positions⟩, .positionsSaved count⟩ ∈ s.emitted

/-- A pending chunk has its two listeners and its timer, a settled one has none of these. -/
structure Wired : Prop where
  saved : Lists s.saved s.IsPending
  rejected : Lists s.rejected s.IsPending
  timers : Lists s.timers s.IsPending
  once : (s.settlements.map Prod.fst).Nodup
  settled_lt : ∀ k ∈ s.settlements.map Prod.fst, k < s.sent.length
  resolved : ∀ k, (k, .resolved) ∈ s.settlements → s.IsSaved batchId k
  toServer : ∀ message ∈ s.toServer, s.IsChunk batchId message
  emitted : ∀ emission ∈ s.emitted, s.IsChunk batchId emission.message
  toClient : ∀ answer ∈ s.toClient, s.WasEmitted answer.1 answer.2

variable {batchId s}

theorem start_wired : (start : Acks β).Wired batchId := by
  have hlists : Lists [] (start : Acks β).IsPending :=
    ⟨List.nodup_nil, fun k => by simp [IsPending, start]⟩
  refine ⟨hlists, hlists, hlists, List.nodup_nil, ?_, ?_, ?_, ?_, ?_⟩ <;> simp [start]

theorem Wired.messagesLost (h : s.Wired batchId) (j : Nat) :
    { s with toServer := s.toServer.eraseIdx j }.Wired batchId :=
  { h with toServer := fun message hm => h.toServer message (List.mem_of_mem_eraseIdx hm) }

theorem Wired.answersLost (h : s.Wired batchId) (j : Nat) :
    { s with toClient := s.toClient.eraseIdx j }.Wired batchId :=
  { h with toClient := fun answer ha => h.toClient answer (List.mem_of_mem_eraseIdx ha) }

/-! ### Sending -/

theorem isPending_send (hlt : ∀ k ∈ s.settlements.map Prod.fst, k < s.sent.length)
    (positions : List β) (k : Nat) :
    s.IsPending k ∨ k = s.sent.length ↔ (s.send batchId positions).IsPending k := by
  show _ ↔ k < (s.sent ++ [positions]).length ∧ k ∉ s.settlements.map Prod.fst
  rw [List.length_append, List.length_singleton]
  constructor
  · rintro (⟨hk, hnot⟩ | rfl)
    · exact ⟨Nat.lt_succ_of_lt hk, hnot⟩
    · exact ⟨Nat.lt_succ_self _, fun hk => Nat.lt_irrefl _ (hlt _ hk)⟩
  · rintro ⟨hk, hnot⟩
    rcases Nat.lt_succ_iff_lt_or_eq.mp hk with hk | rfl
    · exact Or.inl ⟨hk, hnot⟩
    · exact Or.inr rfl

theorem Wired.send (h : s.Wired batchId) (positions : List β) :
    (s.send batchId positions).Wired batchId := by
  have hnew : ¬s.IsPending s.sent.length := fun hk => Nat.lt_irrefl _ hk.1
  have hchunk : ∀ message, s.IsChunk batchId message →
      (s.send batchId positions).IsChunk batchId message := by
    rintro message ⟨k, hid, hk⟩
    exact ⟨k, hid, getElem?_concat_of_some hk positions⟩
  exact {
    saved := (h.saved.concat hnew).congr (isPending_send h.settled_lt positions)
    rejected := (h.rejected.concat hnew).congr (isPending_send h.settled_lt positions)
    timers := (h.timers.concat hnew).congr (isPending_send h.settled_lt positions)
    once := h.once
    settled_lt := by
      intro k hk
      have hlt := h.settled_lt k hk
      show k < (s.sent ++ [positions]).length
      rw [List.length_append]
      exact Nat.lt_add_right _ hlt
    resolved := by
      intro k hk
      obtain ⟨chunk, count, hchunk, hemitted⟩ := h.resolved k hk
      exact ⟨chunk, count, getElem?_concat_of_some hchunk positions, hemitted⟩
    toServer := by
      refine forall_mem_concat (fun message hm => hchunk message (h.toServer message hm)) ?_
      exact ⟨s.sent.length, rfl, List.getElem?_concat_length ..⟩
    emitted := fun emission he => hchunk _ (h.emitted emission he)
    toClient := h.toClient }

/-! ### Answers -/

theorem Wired.emits (h : s.Wired batchId) {message : BatchMessage β}
    (hmessage : s.IsChunk batchId message) (result : BatchResult R) :
    (s.emits message result).Wired batchId where
  saved := h.saved
  rejected := h.rejected
  timers := h.timers
  once := h.once
  settled_lt := h.settled_lt
  resolved k hk := by
    obtain ⟨positions, count, hsent, hemitted⟩ := h.resolved k hk
    exact ⟨positions, count, hsent, List.mem_append_left _ hemitted⟩
  toServer := h.toServer
  emitted emission he := by
    rcases List.mem_append.mp he with he | he
    · exact h.emitted emission he
    · obtain ⟨reply, -, rfl⟩ := List.mem_map.mp he
      exact hmessage
  toClient answer ha := by
    rcases List.mem_append.mp ha with ha | ha
    · obtain ⟨message', hdata, hemitted⟩ := h.toClient answer ha
      exact ⟨message', hdata, List.mem_append_left _ hemitted⟩
    · obtain ⟨reply, hreply, rfl⟩ := List.mem_map.mp ha
      exact ⟨message, rfl, List.mem_append_right _ (List.mem_map_of_mem hreply)⟩

/-- What settles chunk `k` takes its listeners and its timer away. -/
theorem Wired.settled (h : s.Wired batchId) {k : Nat} (hk : s.IsPending k) {o : Settlement}
    (ho : o = .resolved → s.IsSaved batchId k) :
    { s with
      saved := s.saved.erase k
      rejected := s.rejected.erase k
      timers := s.timers.erase k
      settlements := s.settlements ++ [(k, o)] }.Wired batchId := by
  have hkeys : (s.settlements ++ [(k, o)]).map Prod.fst = s.settlements.map Prod.fst ++ [k] := by
    rw [List.map_append]
    rfl
  have hpending : ∀ j, s.IsPending j ∧ j ≠ k ↔
      j < s.sent.length ∧ j ∉ (s.settlements ++ [(k, o)]).map Prod.fst := by
    intro j
    rw [hkeys, List.mem_append, List.mem_singleton, not_or]
    exact and_assoc
  exact {
    saved := h.saved.erase.congr hpending
    rejected := h.rejected.erase.congr hpending
    timers := h.timers.erase.congr hpending
    once := nodup_map_concat h.once hk.2
    settled_lt := by
      rw [hkeys]
      exact forall_mem_concat h.settled_lt hk.1
    resolved := by
      intro j hj
      rcases List.mem_append.mp hj with hj | hj
      · exact h.resolved j hj
      · obtain ⟨rfl, hoeq⟩ := Prod.mk.inj (List.mem_singleton.mp hj)
        exact ho hoeq.symm
    toServer := h.toServer
    emitted := h.emitted
    toClient := h.toClient }

/-- A handler that does not pass an answer on has the answer to its own chunk. -/
theorem Wired.eq_of_not_foreign (h : s.Wired batchId) (hinj : Function.Injective batchId)
    (hid : ∀ k, batchId k ≠ "") {reply : BatchReply} {data : Option String}
    (hdata : s.WasEmitted reply data) {k : Nat} (hown : isForeign batchId k data = false) :
    ∃ positions, s.sent[k]? = some positions ∧ ⟨⟨batchId k, positions⟩, reply⟩ ∈ s.emitted := by
  obtain ⟨⟨b, positions⟩, rfl, hemitted⟩ := hdata
  obtain ⟨j, hb, hj⟩ := h.emitted _ hemitted
  obtain rfl : b = batchId j := hb
  simp only [isForeign, Option.any_some, decide_eq_false_iff_not, not_and_or, not_not] at hown
  obtain rfl : j = k := hinj (hown.resolve_left (hid j))
  exact ⟨positions, hj, hemitted⟩

theorem Wired.onPositionsSaved (h : s.Wired batchId) (hinj : Function.Injective batchId)
    (hid : ∀ k, batchId k ≠ "") {count : Nat} {data : Option String}
    (hdata : s.WasEmitted (.positionsSaved count) data) {k : Nat} (hk : k ∈ s.saved) :
    (onPositionsSaved batchId data k (positionsSaved.off k s)).Wired batchId := by
  unfold Acks.onPositionsSaved
  split
  case isTrue => exact { h with saved := h.saved.again hk }
  case isFalse hown =>
    refine h.settled ((h.saved.2 k).mp hk) fun _ => ?_
    obtain ⟨positions, hsent, hemitted⟩ :=
      h.eq_of_not_foreign hinj hid hdata (Bool.eq_false_of_not_eq_true hown)
    exact ⟨positions, count, hsent, hemitted⟩

theorem Wired.onPositionsRejected (h : s.Wired batchId) {data reason : Option String} {k : Nat}
    (hk : k ∈ s.rejected) :
    (onPositionsRejected batchId data reason k (positionsRejected.off k s)).Wired batchId := by
  unfold Acks.onPositionsRejected
  split
  case isTrue => exact { h with rejected := h.rejected.again hk }
  case isFalse => exact h.settled ((h.rejected.2 k).mp hk) nofun

theorem Wired.onTimeout (h : s.Wired batchId) {k : Nat} (hk : k ∈ s.timers) :
    (onTimeout k s).Wired batchId :=
  h.settled ((h.timers.2 k).mp hk) nofun

@[simp] theorem emitted_onPositionsSaved (data : Option String) (k : Nat) :
    (onPositionsSaved batchId data k s).emitted = s.emitted := by
  unfold onPositionsSaved
  split <;> rfl

/-- The listeners of the event that is handled stay where they are. -/
theorem mem_saved_onPositionsSaved (data : Option String) (k : Nat) {j : Nat} (hj : j ∈ s.saved) :
    j ∈ (onPositionsSaved batchId data k s).saved := by
  unfold onPositionsSaved
  split
  · exact List.mem_append_left _ hj
  · exact hj

theorem mem_rejected_onPositionsRejected (data reason : Option String) (k : Nat) {j : Nat}
    (hj : j ∈ s.rejected) : j ∈ (onPositionsRejected batchId data reason k s).rejected := by
  unfold onPositionsRejected
  split
  · exact List.mem_append_left _ hj
  · exact hj

/-- Every listener hears the answer, and only that of its chunk settles. -/
theorem Wired.receive (h : s.Wired batchId) (hinj : Function.Injective batchId)
    (hid : ∀ k, batchId k ≠ "") {reply : BatchReply} {data : Option String}
    (hdata : s.WasEmitted reply data) : (s.receive batchId reply data).Wired batchId := by
  cases reply with
  | positionsSaved count =>
      refine (Event.emit_invariant
        (I := fun s : Acks β => s.Wired batchId ∧ s.WasEmitted (.positionsSaved count) data)
        (fun s hs => hs.1.saved.1) ?_ ?_ ⟨h, hdata⟩).1
      · rintro s k ⟨hs, hsdata⟩ hk
        refine ⟨hs.onPositionsSaved hinj hid hsdata hk, ?_⟩
        obtain ⟨message, hm, hemitted⟩ := hsdata
        refine ⟨message, hm, ?_⟩
        rw [emitted_onPositionsSaved]
        exact hemitted
      · intro s k j _ hj hjk
        exact mem_saved_onPositionsSaved data k ((List.mem_erase_of_ne hjk).mpr hj)
  | positionsRejected reason =>
      refine Event.emit_invariant (I := fun s : Acks β => s.Wired batchId)
        (fun s hs => hs.rejected.1) (fun s k hs hk => hs.onPositionsRejected hk) ?_ h
      intro s k j _ hj hjk
      exact mem_rejected_onPositionsRejected data _ k ((List.mem_erase_of_ne hjk).mpr hj)
  | positionsInvalid _ => exact h

/-! ### A step -/

theorem Wired.step (hinj : Function.Injective batchId) (hid : ∀ k, batchId k ≠ "") {t : Acks β}
    {e : NetEvent R} (h : s.Wired batchId) (hstep : s.step batchId e = some t) :
    t.Wired batchId := by
  cases e with
  | serve j result =>
      obtain ⟨message, hj, rfl⟩ := Option.map_eq_some_iff.mp hstep
      exact (h.messagesLost j).emits (h.toServer message (List.mem_of_getElem? hj)) result
  | loseMessage j =>
      obtain ⟨-, -, rfl⟩ := Option.map_eq_some_iff.mp hstep
      exact h.messagesLost j
  | answer j =>
      obtain ⟨⟨reply, data⟩, hj, rfl⟩ := Option.map_eq_some_iff.mp hstep
      exact (h.answersLost j).receive hinj hid (h.toClient _ (List.mem_of_getElem? hj))
  | loseAnswer j =>
      obtain ⟨-, -, rfl⟩ := Option.map_eq_some_iff.mp hstep
      exact h.answersLost j
  | timeout k =>
      rw [Acks.step] at hstep
      split at hstep
      case isTrue hk =>
        obtain rfl := Option.some.inj hstep
        exact h.onTimeout hk
      case isFalse => cases hstep

end Acks

/-! ## The invariant of the flushes -/

namespace Acks

variable {β R : Type} {s t : Acks β} {batchId : Nat → String}

/-- The chunk was sent, and its promise resolved. -/
def IsResolved (s : Acks β) (positions : List β) : Prop :=
  ∃ k, s.sent[k]? = some positions ∧ (k, .resolved) ∈ s.settlements

/-- No chunk that was sent changes, and no promise is taken back. -/
def Grows (s t : Acks β) : Prop :=
  (∀ (k : Nat) (positions : List β), s.sent[k]? = some positions → t.sent[k]? = some positions) ∧
    s.settlements ⊆ t.settlements

theorem Grows.refl (s : Acks β) : Grows s s := ⟨fun _ _ hk => hk, List.Subset.refl _⟩

theorem Grows.trans {u : Acks β} (h : Grows s t) (h' : Grows t u) : Grows s u :=
  ⟨fun k positions hk => h'.1 k positions (h.1 k positions hk), List.Subset.trans h.2 h'.2⟩

theorem Grows.isResolved (h : Grows s t) {positions : List β} (hs : s.IsResolved positions) :
    t.IsResolved positions := by
  obtain ⟨k, hk, hresolved⟩ := hs
  exact ⟨k, h.1 k positions hk, h.2 hresolved⟩

theorem grows_settle (k : Nat) (o : Settlement) : Grows s (s.settle k o) :=
  ⟨fun _ _ hk => hk, List.subset_append_left ..⟩

theorem grows_send (positions : List β) : Grows s (s.send batchId positions) :=
  ⟨fun _ _ hk => getElem?_concat_of_some hk positions, List.Subset.refl _⟩

theorem grows_onPositionsSaved (data : Option String) (k : Nat) :
    Grows s (onPositionsSaved batchId data k (positionsSaved.off k s)) := by
  unfold onPositionsSaved
  split
  · exact .refl s
  · exact grows_settle k _

theorem grows_onPositionsRejected (data reason : Option String) (k : Nat) :
    Grows s (onPositionsRejected batchId data reason k (positionsRejected.off k s)) := by
  unfold onPositionsRejected
  split
  · exact .refl s
  · exact grows_settle k _

theorem grows_receive (reply : BatchReply) (data : Option String) :
    Grows s (s.receive batchId reply data) := by
  cases reply with
  | positionsSaved count =>
      exact Event.emit_rel (r := Grows) (Grows.refl _) Grows.trans
        (fun s k => grows_onPositionsSaved data k) s
  | positionsRejected reason =>
      exact Event.emit_rel (r := Grows) (Grows.refl _) Grows.trans
        (fun s k => grows_onPositionsRejected data _ k) s
  | positionsInvalid _ => exact .refl s

theorem grows_step {e : NetEvent R} (hstep : s.step batchId e = some t) : Grows s t := by
  cases e with
  | serve j result =>
      obtain ⟨message, -, rfl⟩ := Option.map_eq_some_iff.mp hstep
      exact .refl s
  | loseMessage j | loseAnswer j =>
      obtain ⟨-, -, rfl⟩ := Option.map_eq_some_iff.mp hstep
      exact .refl s
  | answer j =>
      obtain ⟨⟨reply, data⟩, -, rfl⟩ := Option.map_eq_some_iff.mp hstep
      show Grows { s with toClient := s.toClient.eraseIdx j } (receive batchId reply data _)
      exact grows_receive reply data
  | timeout k =>
      rw [Acks.step] at hstep
      split at hstep
      case isTrue =>
        obtain rfl := Option.some.inj hstep
        exact grows_settle k _
      case isFalse => cases hstep

end Acks

namespace Drain

variable {α R : Type} {batchId : Nat → String} {s t : Drain α}

/-- Between sending a chunk and deleting it a flush awaits the promise of this chunk, and it deletes
the chunk when that has resolved. -/
def Awaits (acks : Acks (QueuedPosition α)) (call : FlushCall α) (k : Option Nat) : Prop :=
  match call.stage with
  | .reading => True
  | .sending positions => ∃ j, k = some j ∧ acks.sent[j]? = some positions
  | .deleting positions =>
      ∃ j, k = some j ∧ acks.sent[j]? = some positions ∧ (j, .resolved) ∈ acks.settlements

structure Inv (batchId : Nat → String) (s : Drain α) : Prop where
  wired : s.acks.Wired batchId
  awaits : List.Forall₂ (Awaits s.acks) s.queue.flushes s.awaits
  acknowledged : ∀ chunk ∈ s.queue.acknowledged, s.acks.IsResolved chunk

theorem start_inv (store : PositionStore α) : (start store).Inv batchId where
  wired := Acks.start_wired
  awaits := .nil
  acknowledged := by simp [start, QueueState.start]

theorem Awaits.grows {acks acks' : Acks (QueuedPosition α)} {call : FlushCall α} {k : Option Nat}
    (h : Awaits acks call k) (hgrows : acks.Grows acks') : Awaits acks' call k := by
  obtain ⟨chunkSize, stage⟩ := call
  cases stage with
  | reading => trivial
  | sending positions =>
      obtain ⟨j, rfl, hj⟩ := h
      exact ⟨j, rfl, hgrows.1 j positions hj⟩
  | deleting positions =>
      obtain ⟨j, rfl, hj, hresolved⟩ := h
      exact ⟨j, rfl, hgrows.1 j positions hj, hgrows.2 hresolved⟩

theorem exists_of_settledWith {i : Nat} {p : Settlement → Bool} (h : s.settledWith i p = true) :
    ∃ k o, s.awaits[i]? = some (some k) ∧ (k, o) ∈ s.acks.settlements ∧ p o = true := by
  rw [settledWith, Option.any_eq_true] at h
  obtain ⟨k, hi, hany⟩ := h
  obtain ⟨⟨j, o⟩, hmem, hj⟩ := List.any_eq_true.mp hany
  obtain ⟨rfl, ho⟩ := of_decide_eq_true hj
  exact ⟨j, o, hi, hmem, ho⟩

/-- The promise that a flush awaits is that of the chunk it has sent. -/
theorem Inv.exists_resolved (h : s.Inv batchId) {i : Nat} {chunkSize : Option Int}
    {positions : List (QueuedPosition α)}
    (hi : s.queue.flushes[i]? = some ⟨chunkSize, .sending positions⟩)
    (hresolved : s.settledWith i (· = .resolved) = true) :
    ∃ k, s.awaits[i]? = some (some k) ∧ s.acks.sent[k]? = some positions ∧
      (k, .resolved) ∈ s.acks.settlements := by
  obtain ⟨k, o, hk, hmem, ho⟩ := exists_of_settledWith hresolved
  obtain rfl := of_decide_eq_true ho
  obtain ⟨j, hj, hsent⟩ := rel_of_forall₂ h.awaits hi hk
  obtain rfl := Option.some.inj hj
  exact ⟨k, hk, hsent, hmem⟩

/-- The socket goes on. -/
theorem Inv.grows (h : s.Inv batchId) {acks : Acks (QueuedPosition α)}
    (hwired : acks.Wired batchId) (hgrows : s.acks.Grows acks) :
    { s with acks := acks }.Inv batchId where
  wired := hwired
  awaits := h.awaits.imp fun _ _ hk => hk.grows hgrows
  acknowledged chunk hchunk := hgrows.isResolved (h.acknowledged chunk hchunk)

/-- A flush ends. -/
theorem Inv.released (h : s.Inv batchId) (i : Nat) :
    { s with queue := s.queue.release i, awaits := s.awaits.eraseIdx i }.Inv batchId where
  wired := h.wired
  awaits := forall₂_eraseIdx h.awaits i
  acknowledged := h.acknowledged

theorem Inv.flushNext (h : s.Inv batchId) {i : Nat} {call : FlushCall α}
    (hi : s.queue.flushes[i]? = some call)
    (hstep : s.flushNext batchId i (s.queue.advanceFlush i call.chunkSize call.stage) call = some t) :
    t.Inv batchId := by
  obtain ⟨chunkSize, stage⟩ := call
  cases stage with
  | reading =>
      simp only [Drain.flushNext, QueueState.advanceFlush] at hstep
      split at hstep
      case isTrue =>
        obtain rfl := Option.some.inj hstep
        exact h.released i
      case isFalse =>
        obtain rfl := Option.some.inj hstep
        have hsent := h.grows (h.wired.send (dequeuePositions chunkSize s.queue.store.rows))
          (Acks.grows_send _)
        refine ⟨hsent.wired, forall₂_set hsent.awaits ?_ i, hsent.acknowledged⟩
        exact ⟨_, rfl, List.getElem?_concat_length ..⟩
  | sending positions =>
      rw [Drain.flushNext] at hstep
      split at hstep
      case isTrue hresolved =>
        obtain rfl := Option.some.inj hstep
        obtain ⟨k, hk, hsent, hmem⟩ := h.exists_resolved hi hresolved
        refine ⟨h.wired, forall₂_set_left h.awaits ?_, ?_⟩
        · intro k' hk'
          obtain rfl := Option.some.inj (hk.symm.trans hk')
          exact ⟨k, rfl, hsent, hmem⟩
        · exact forall_mem_concat h.acknowledged ⟨k, hsent, hmem⟩
      case isFalse => cases hstep
  | deleting positions =>
      obtain rfl := Option.some.inj hstep
      exact ⟨h.wired, forall₂_set_left h.awaits fun _ _ => trivial, h.acknowledged⟩

theorem Inv.flushFails (h : s.Inv batchId) {i : Nat} {call : FlushCall α}
    (hstep : s.flushFails i (s.queue.release i) call = some t) : t.Inv batchId := by
  obtain ⟨chunkSize, stage⟩ := call
  cases stage with
  | sending positions =>
      rw [Drain.flushFails] at hstep
      split at hstep
      case isTrue =>
        obtain rfl := Option.some.inj hstep
        exact h.released i
      case isFalse => cases hstep
  | reading | deleting positions =>
      obtain rfl := Option.some.inj hstep
      exact h.released i

/-- An `enqueuePosition` leaves the flushes alone. -/
theorem advance_flushes (q : QueueState α) (i : Nat) (now : Int) (pos : Position α)
    (stage : EnqueueStage) : (q.advance i now pos stage).flushes = q.flushes ∧
      (q.advance i now pos stage).acknowledged = q.acknowledged := by
  cases stage with
  | evicting size =>
      rw [QueueState.advance]
      split <;> exact ⟨rfl, rfl⟩
  | sizing | compacting | resizing | adding => exact ⟨rfl, rfl⟩

theorem Inv.enqueues (h : s.Inv batchId) {q : QueueState α} (hflushes : q.flushes = s.queue.flushes)
    (hacknowledged : q.acknowledged = s.queue.acknowledged) :
    { s with queue := q }.Inv batchId where
  wired := h.wired
  awaits := by
    show List.Forall₂ _ q.flushes _
    rw [hflushes]
    exact h.awaits
  acknowledged := by
    show ∀ chunk ∈ q.acknowledged, _
    rw [hacknowledged]
    exact h.acknowledged

theorem Inv.flush (h : s.Inv batchId) (chunkSize : Option Int) {q : QueueState α}
    (hq : s.queue.step (.flush chunkSize) = some q)
    (hstep : s.observe batchId q (.flush chunkSize) = some t) : t.Inv batchId := by
  obtain rfl := Option.some.inj hstep
  rw [QueueState.step] at hq
  split at hq
  case isTrue hflag =>
    obtain rfl := Option.some.inj hq
    rw [if_pos hflag]
    exact h
  case isFalse hflag =>
    obtain rfl := Option.some.inj hq
    rw [if_neg hflag]
    exact ⟨h.wired, forall₂_concat h.awaits trivial, h.acknowledged⟩

theorem Inv.step (hinj : Function.Injective batchId) (hid : ∀ k, batchId k ≠ "")
    {e : DrainEvent α R} (h : s.Inv batchId) (hstep : s.step batchId e = some t) :
    t.Inv batchId := by
  cases e with
  | net e =>
      obtain ⟨acks, hacks, rfl⟩ := Option.map_eq_some_iff.mp hstep
      exact h.grows (h.wired.step hinj hid hacks) (Acks.grows_step hacks)
  | queue e =>
      obtain ⟨q, hq, hobserve⟩ := Option.bind_eq_some_iff.mp hstep
      cases e with
      | enqueue pos =>
          obtain rfl := Option.some.inj hq
          obtain rfl := Option.some.inj hobserve
          exact h.enqueues rfl rfl
      | enqueueNext i now =>
          obtain ⟨call, -, rfl⟩ := Option.map_eq_some_iff.mp hq
          obtain rfl := Option.some.inj hobserve
          obtain ⟨hflushes, hacknowledged⟩ := advance_flushes s.queue i now call.pos call.stage
          exact h.enqueues hflushes hacknowledged
      | enqueueFails i =>
          obtain ⟨-, -, rfl⟩ := Option.map_eq_some_iff.mp hq
          obtain rfl := Option.some.inj hobserve
          exact h.enqueues rfl rfl
      | flush chunkSize => exact h.flush chunkSize hq hobserve
      | flushNext i =>
          obtain ⟨call, hi, rfl⟩ := Option.map_eq_some_iff.mp hq
          obtain ⟨call', hi', hnext⟩ := Option.bind_eq_some_iff.mp hobserve
          obtain rfl := Option.some.inj (hi.symm.trans hi')
          exact h.flushNext hi hnext
      | flushFails i =>
          obtain ⟨call, hi, rfl⟩ := Option.map_eq_some_iff.mp hq
          obtain ⟨call', -, hfails⟩ := Option.bind_eq_some_iff.mp hobserve
          exact h.flushFails hfails

/-! ## Every run -/

variable (R batchId s) in
/-- What the acknowledgements promise. -/
structure Correlated : Prop where
  /-- A promise is open while its timer runs, and has settled once when it does not. -/
  once : ∀ k < s.acks.sent.length,
    (s.acks.settlements.map Prod.fst).count k = if k ∈ s.acks.timers then 0 else 1
  /-- A timer that runs can fire, and rejects the promise. -/
  expires : ∀ k ∈ s.acks.timers, ∃ t,
    s.step batchId (.net (.timeout k) : DrainEvent α R) = some t ∧
      ∃ message, (k, .rejected message) ∈ t.acks.settlements
  /-- A promise resolves after a `positionsSaved` that the server emitted for its chunk. -/
  resolves : ∀ k, (k, .resolved) ∈ s.acks.settlements → s.acks.IsSaved batchId k
  /-- A flush that deletes a chunk has awaited its promise. -/
  deletes : ∀ (i : Nat) (chunkSize : Option Int) (positions : List (QueuedPosition α)),
    s.queue.flushes[i]? = some ⟨chunkSize, .deleting positions⟩ →
      ∃ k, s.awaits[i]? = some (some k) ∧ s.acks.sent[k]? = some positions ∧
        (k, .resolved) ∈ s.acks.settlements
  acknowledged : ∀ chunk ∈ s.queue.acknowledged, s.acks.IsResolved chunk
  /-- A chunk that has settled listens to nothing. -/
  silent : ∀ k o, (k, o) ∈ s.acks.settlements → k ∉ s.acks.saved ∧ k ∉ s.acks.rejected

theorem Inv.count_settlements (h : s.Inv batchId) {k : Nat} (hk : k < s.acks.sent.length) :
    (s.acks.settlements.map Prod.fst).count k = if k ∈ s.acks.timers then 0 else 1 := by
  have htimer : k ∈ s.acks.timers ↔ k ∉ s.acks.settlements.map Prod.fst :=
    (h.wired.timers.2 k).trans ⟨And.right, fun hnot => ⟨hk, hnot⟩⟩
  rw [h.wired.once.count]
  by_cases hsettled : k ∈ s.acks.settlements.map Prod.fst
  · rw [if_pos hsettled, if_neg (fun hrun => htimer.mp hrun hsettled)]
  · rw [if_neg hsettled, if_pos (htimer.mpr hsettled)]

theorem Inv.promises (h : s.Inv batchId) : s.Correlated R batchId where
  once k hk := h.count_settlements hk
  expires k hk := by
    refine ⟨{ s with acks := Acks.onTimeout k s.acks }, ?_, _, List.mem_append_right _ (.head _)⟩
    rw [Drain.step, Acks.step, if_pos hk]
    rfl
  resolves := h.wired.resolved
  deletes i chunkSize positions hi := by
    have hlength := h.awaits.length_eq
    obtain ⟨hlt, -⟩ := List.getElem?_eq_some_iff.mp hi
    have hk : s.awaits[i]? = some (s.awaits[i]) := List.getElem?_eq_getElem (hlength ▸ hlt)
    obtain ⟨k, hawait, hsent, hresolved⟩ := rel_of_forall₂ h.awaits hi hk
    exact ⟨k, hk.trans (congrArg some hawait), hsent, hresolved⟩
  acknowledged := h.acknowledged
  silent k o hk := by
    have hsettled : k ∈ s.acks.settlements.map Prod.fst := List.mem_map_of_mem hk
    exact ⟨fun hsaved => ((h.wired.saved.2 k).mp hsaved).2 hsettled,
      fun hrejected => ((h.wired.rejected.2 k).mp hrejected).2 hsettled⟩

/-- Whatever the order of the answers and of the timeouts, and whichever are lost, the promise of a
chunk settles once, resolves for its own chunk only, and leaves no listener behind. -/
theorem correlated {batchId : Nat → String} (hinj : Function.Injective batchId)
    (hid : ∀ k, batchId k ≠ "") {store : PositionStore α} {es : List (DrainEvent α R)} {s : Drain α}
    (h : Run (Steps (Drain.step batchId)) (start store) es s) : s.Correlated R batchId :=
  (h.invariant (I := Inv batchId) (fun hs hstep => hs.step hinj hid hstep)
    (start_inv store)).promises

/-- A `batchId` for each chunk. -/
def unaryId (k : Nat) : String := String.ofList (List.replicate (k + 1) '1')

theorem unaryId_injective : Function.Injective unaryId := by
  intro j k hjk
  have hlength := congrArg (fun id => id.toList.length) hjk
  simp only [unaryId, String.toList_ofList, List.length_replicate] at hlength
  omega

/-- The answer to a first chunk comes after its timeout, when the positions have been sent again. -/
def lateAnswer : List (DrainEvent Unit Unit) :=
  [.queue (.enqueue ⟨some "v1", none, none, ()⟩), .queue (.enqueueNext 0 1000),
    .queue (.enqueueNext 0 1000), .queue (.flush (some 250)), .queue (.flushNext 0),
    .net (.timeout 0), .queue (.flushFails 0), .queue (.flush (some 250)), .queue (.flushNext 0),
    .net (.serve 0 (.ok [] 1 "d1" [])), .net (.answer 0), .net (.serve 0 (.ok [] 1 "d1" [])),
    .net (.answer 0), .queue (.flushNext 0), .queue (.flushNext 0)]

theorem correlated_lateAnswer : ∃ s,
    lateAnswer.foldlM (Drain.step unaryId) (start emptyStore) = some s
    ∧ s.acks.settlements = [(0, .rejected "flush timeout (1 positions)"), (1, .resolved)]
    ∧ s.queue.store.rows = [] ∧ s.Correlated Unit unaryId := by
  have hany : (lateAnswer.foldlM (Drain.step unaryId) (start emptyStore)).any (fun s =>
      s.acks.settlements = [(0, .rejected "flush timeout (1 positions)"), (1, .resolved)] ∧
        s.queue.store.rows = []) = true := by decide +kernel
  obtain ⟨s, hs, hend⟩ := (Option.any_eq_true ..).mp hany
  obtain ⟨hsettlements, hrows⟩ := of_decide_eq_true hend
  have hid : ∀ k, unaryId k ≠ "" := by
    intro k hk
    have hlength := congrArg (fun id => id.toList.length) hk
    simp [unaryId] at hlength
  exact ⟨s, hs, hsettlements, hrows, correlated unaryId_injective hid (Run.of_foldlM hs)⟩

end Drain

end DeliveryTracking.Phone
