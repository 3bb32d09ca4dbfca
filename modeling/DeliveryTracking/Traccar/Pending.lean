/-
# `DeliveryTracking.Traccar.Pending` — the list of positions to try again

When `savePosition` throws, `handlePosition` puts the position on a Redis list
(`queuePendingPosition`); `processPendingPositions` hands the entries of the list
to `handlePosition` again and removes each one afterwards.  Any database or Redis
call may throw, and any number of messages and passes over the list interleave
call by call:

    lockedSection      the section under the device lock, with a failing call
    handlingStep       the next call of `handlePosition`
    drainStep          the next call of `processPendingPositions`

`position_accounted`: a position whose own handling meets no failing read before
`savePosition`, and no failing `lpush`, is never lost.  The argument counts: the
entries of the position, with what its threads will still add and remove, are at
least one until it is stored, rejected, expired or trimmed (`Thread.credit`).
`failed_read_loses` is a read that fails.
-/
import Mathlib.Algebra.Order.BigOperators.Group.List
import DeliveryTracking.Runs
import DeliveryTracking.Traccar.Live

namespace DeliveryTracking.Traccar

open Geo Tracking

variable {R : Type}

/-! ## State -/

/-- A call that throws. -/
inductive CallFault where
  /-- The lookup of the vehicle. -/
  | vehicle
  /-- `getLastPosition`. -/
  | lastPosition
  /-- The lookups of driver, driver name and delivery. -/
  | driver
  /-- `savePosition`, before or after the row is in the table. -/
  | save (inserted : Bool)
  /-- The write of `traccar:last_position:<device>`. -/
  | lastPositionKey
  /-- Any call outside the lock. -/
  | other
  deriving DecidableEq, Repr

/-- The reads before `savePosition`; what they throw is only logged. -/
def CallFault.beforeSave : CallFault → Bool
  | .vehicle => true
  | .lastPosition => true
  | .driver => true
  | _ => false

inductive Rejection where
  /-- Coordinates, `valid = false` or satellites. -/
  | filter
  | unknownDevice
  | wakeQuarantine
  | validation
  deriving DecidableEq, Repr

/-- How the handling of a position ended without a throw. -/
inductive Verdict (R : Type) where
  | stored (row : GpsPosition R)
  /-- A duplicate of a stored position, for a vehicle and a time. -/
  | duplicate (vehicleId : String) (timestamp : Int)
  | rejected (reason : Rejection)
  deriving DecidableEq, Repr

/-- An entry of `traccar:pending-positions`. -/
structure PendingEntry (R : Type) where
  pos : TraccarPosition R
  /-- `_queuedAt`. -/
  queuedAt : Int
  deriving DecidableEq, Repr

/-- What the threads share; the last three fields are read by nothing. -/
structure Shared (R : Type) where
  bridge : Bridge R
  /-- Newest first. -/
  pending : List (PendingEntry R)
  /-- The passes over the list called or set on a timer. -/
  scheduled : Nat
  verdicts : List (TraccarPosition R × Verdict R)
  /-- Entries removed for their age, with the time of the pass. -/
  expired : List (PendingEntry R × Int)
  trimmed : List (PendingEntry R)

/-- Where `handlePosition` stands. -/
inductive Handling (R : Type) where
  | enter
  /-- Stored or duplicate, before the history. -/
  | record (p : Processed R)
  /-- The calls of `queuePendingPosition`. -/
  | push
  | trim
  | count
  | finished

/-- Where `processPendingPositions` stands. -/
inductive Drain (R : Type) where
  | list
  | purge (entry : PendingEntry R) (stale retry : List (PendingEntry R)) (now : Int)
  | replay (entry : PendingEntry R) (h : Handling R) (rest : List (PendingEntry R))
  | remove (entry : PendingEntry R) (rest : List (PendingEntry R))
  | remaining
  | finished

inductive Thread (R : Type) where
  | live (pos : TraccarPosition R) (h : Handling R)
  | drain (d : Drain R)

structure PendingState (R : Type) where
  shared : Shared R
  threads : List (Thread R)
  /-- Every position received; nothing reads it. -/
  received : List (TraccarPosition R)

inductive PendingEvent (R : Type) where
  | receive (pos : TraccarPosition R)
  /-- A scheduled pass starts. -/
  | drain
  /-- The next call of the `k`-th thread; it throws if there is a fault. -/
  | call (k : Nat) (now : Int) (fault : Option CallFault)

/-! ## `handlePosition` -/

/-- How the locked section ends. -/
inductive Exit (R : Type) where
  | returned (verdict : Verdict R) (processed : Option (Processed R))
  /-- A throw that the outer `catch` logs. -/
  | swallowed
  /-- A throw that queues the position. -/
  | queue

def Shared.note (s : Shared R) (pos : TraccarPosition R) (v : Verdict R) : Shared R :=
  { s with verdicts := (pos, v) :: s.verdicts }

/-- `PENDING_POSITIONS_LIMIT`. -/
def pendingPositionsLimit : Nat := 1000

/-- `PENDING_POSITIONS_RETENTION_MS`. -/
def pendingPositionsRetention : Int := 3600000

/-- `parseQueuedTs`. -/
def PendingEntry.queuedTs (e : PendingEntry R) : Int :=
  match e.pos.rawTime with
  | .at ms => ms
  | _ => 0

def PendingEntry.isStale (e : PendingEntry R) (now : Int) : Bool :=
  pendingPositionsRetention < now - e.queuedAt

/-- `setTimeout(() => this.processPendingPositions())`. -/
def Shared.reschedule (s : Shared R) : Shared R := { s with scheduled := s.scheduled + 1 }

/-- The loop over the entries to try again. -/
def Drain.retry : List (PendingEntry R) → Drain R
  | [] => .remaining
  | entry :: rest => .replay entry .enter rest

/-- The loop over the entries too old. -/
def Drain.purgeAll (now : Int) (stale retry : List (PendingEntry R)) : Drain R :=
  match stale with
  | [] => .retry retry
  | entry :: stale => .purge entry stale retry now

/-- Nothing stored means a duplicate, for a tracker that is known. -/
def savedVerdict (dto : UpdatePositionDto R) (saved : Option (GpsPosition R)) : Verdict R :=
  match saved with
  | some row => .stored row
  | none => .duplicate dto.vehicleId dto.timestamp

variable [Field R] [LinearOrder R] [JsMath R]

/-- The section of `handlePosition` under the device lock, with a failing call. -/
def lockedSection (cfg : BridgeConfig R) (reg : Registry) (pos : TraccarPosition R) (now : Int)
    (fault : Option CallFault) (br : Bridge R) : Exit R × Bridge R :=
  if fault = some .vehicle then (.swallowed, br)
  else match trackerVehicle reg pos.deviceId with
  | none => (.returned (.rejected .unknownDevice) none, br)
  | some vehicle =>
    if fault = some .lastPosition then (.swallowed, br)
    else
      let time := parseTimestampMeta pos now
      let wake := br.wake vehicle.id pos time.1
      let woken := br.setWake vehicle.id wake.state
      if wake.quarantine then (.returned (.rejected .wakeQuarantine) none, woken)
      else if fault = some .driver then (.swallowed, woken)
      else
        let driverId := resolveDriverIdAtTimestamp reg vehicle.id time.1
        let dto := br.updateDto reg vehicle pos time
        let heading := pos.course.getD 0
        if validDto dto heading now = false then (.returned (.rejected .validation) none, woken)
        else
          let saved := savePosition reg driverId dto (some vehicle.companyId) .physicalTracker
            br.positions
          let done : Exit R × Bridge R :=
            (.returned (savedVerdict dto saved.1) (some ⟨saved.1, vehicle, driverId, dto, heading⟩),
              woken.setStored cfg pos.deviceId time.1 saved.2)
          match fault with
          | some (.save inserted) =>
            (.queue, if inserted then { woken with positions := saved.2 } else woken)
          | some .lastPositionKey =>
            if cfg.hasRedis then (.queue, { woken with positions := saved.2 }) else done
          | _ => done

/-- The next call of `handlePosition`. -/
def handlingStep (cfg : BridgeConfig R) (reg : Registry) (pos : TraccarPosition R) (now : Int)
    (fault : Option CallFault) (h : Handling R) (s : Shared R) : Handling R × Shared R :=
  match h with
  | .enter =>
    if acceptsFix cfg pos then
      let (exit, br) := lockedSection cfg reg pos now fault s.bridge
      let s := { s with bridge := br }
      match exit with
      | .returned v (some p) => (.record p, s.note pos v)
      | .returned v none => (.finished, s.note pos v)
      | .swallowed => (.finished, s)
      | .queue => (.push, s)
    else (.finished, s.note pos (.rejected .filter))
  | .record p =>
    if fault.isSome then (.finished, s)
    else (.finished, { s with bridge := recordFix p pos s.bridge })
  | .push =>
    if cfg.hasRedis then
      if fault.isSome then (.finished, s)
      else (.trim, { s with pending := ⟨pos, now⟩ :: s.pending })
    else (.finished, s)
  | .trim =>
    if fault.isSome then (.finished, s)
    else (.count, { s with
      pending := s.pending.take pendingPositionsLimit
      trimmed := s.pending.drop pendingPositionsLimit ++ s.trimmed })
  | .count =>
    if fault.isNone && s.pending.length == 1 then
      (.finished, { s with scheduled := s.scheduled + 1 })
    else (.finished, s)
  | .finished => (.finished, s)

/-! ## `processPendingPositions` -/

/-- The next call of `processPendingPositions`. -/
def drainStep (cfg : BridgeConfig R) (reg : Registry) (now : Int) (fault : Option CallFault)
    (d : Drain R) (s : Shared R) : Drain R × Shared R :=
  match d with
  | .list =>
    if cfg.hasRedis then
      if fault.isSome then (.finished, s.reschedule)
      else if s.pending.isEmpty then (.finished, s)
      else
        let toPurge := s.pending.filter fun e => e.isStale now
        let toRetry := (s.pending.filter fun e => !e.isStale now).insertionSort
          fun a b => a.queuedTs ≤ b.queuedTs
        (.purgeAll now toPurge toRetry, s)
    else (.finished, s)
  | .purge entry stale retry listedAt =>
    if fault.isSome then (.finished, s.reschedule)
    else
      let expired := if entry ∈ s.pending then (entry, listedAt) :: s.expired else s.expired
      (.purgeAll listedAt stale retry, { s with pending := s.pending.erase entry, expired })
  | .replay entry h rest =>
    let (h', s') := handlingStep cfg reg entry.pos now fault h s
    match h' with
    | .finished => (.remove entry rest, s')
    | h' => (.replay entry h' rest, s')
  | .remove entry rest =>
    if fault.isSome then (.remaining, s)
    else (.retry rest, { s with pending := s.pending.erase entry })
  | .remaining =>
    if fault.isSome || !s.pending.isEmpty then (.finished, s.reschedule) else (.finished, s)
  | .finished => (.finished, s)

/-! ## The system -/

def threadStep (cfg : BridgeConfig R) (reg : Registry) (now : Int) (fault : Option CallFault)
    (th : Thread R) (s : Shared R) : Thread R × Shared R :=
  match th with
  | .live pos h =>
    let (h', s') := handlingStep cfg reg pos now fault h s
    (.live pos h', s')
  | .drain d =>
    let (d', s') := drainStep cfg reg now fault d s
    (.drain d', s')

def pendingStep (cfg : BridgeConfig R) (reg : Registry) (s : PendingState R) :
    PendingEvent R → Option (PendingState R)
  | .receive pos =>
    some { s with threads := s.threads ++ [.live pos .enter], received := pos :: s.received }
  | .drain =>
    match s.shared.scheduled with
    | 0 => none
    | n + 1 =>
      some { s with
        shared := { s.shared with scheduled := n }
        threads := s.threads ++ [.drain .list] }
  | .call k now fault =>
    s.threads[k]?.map fun th =>
      let (th', shared) := threadStep cfg reg now fault th s.shared
      { s with shared, threads := s.threads.set k th' }

/-! ## The locked section -/

section Locked

variable {cfg : BridgeConfig R} {reg : Registry} {pos : TraccarPosition R} {now : Int}
  {fault : Option CallFault} {br br' : Bridge R} {exit : Exit R}

/-- Without a failing call it is `ingest`. -/
theorem lockedSection_none (cfg : BridgeConfig R) (reg : Registry) (pos : TraccarPosition R)
    (now : Int) (br : Bridge R) :
    (lockedSection cfg reg pos now none br).2 = (ingest cfg reg pos now br).2 := by
  unfold lockedSection ingest
  rw [if_neg nofun]
  cases trackerVehicle reg pos.deviceId with
  | none => rfl
  | some vehicle =>
    simp only
    rw [if_neg nofun]
    split
    · rfl
    · rw [if_neg nofun]
      split <;> rfl

/-- How the locked section ends: a failing read, a rejection, or an attempt to store. -/
theorem lockedSection_cases (h : lockedSection cfg reg pos now fault br = (exit, br')) :
    exit = .swallowed ∧ fault.any CallFault.beforeSave = true ∧ br'.positions = br.positions ∨
    (∃ reason, exit = .returned (.rejected reason) none ∧ br'.positions = br.positions) ∨
    ∃ v driverId dto heading saved, trackerVehicle reg pos.deviceId = some v ∧
      dto.vehicleId = v.id ∧ validDto dto heading now = true ∧
      saved = savePosition reg driverId dto (some v.companyId) .physicalTracker br.positions ∧
      (exit = .queue ∧ (br'.positions = br.positions ∨ br'.positions = saved.2) ∨
        ∃ p, exit = .returned (savedVerdict dto saved.1) (some p) ∧ br'.positions = saved.2) := by
  unfold lockedSection at h
  split at h
  · rename_i hfault
    cases h
    exact Or.inl ⟨rfl, by rw [hfault]; rfl, rfl⟩
  split at h
  · cases h
    exact Or.inr (Or.inl ⟨_, rfl, rfl⟩)
  rename_i v hvehicle
  split at h
  · rename_i hfault
    cases h
    exact Or.inl ⟨rfl, by rw [hfault]; rfl, rfl⟩
  simp only at h
  split at h
  · cases h
    exact Or.inr (Or.inl ⟨_, rfl, rfl⟩)
  split at h
  · rename_i hfault
    cases h
    exact Or.inl ⟨rfl, by rw [hfault]; rfl, rfl⟩
  split at h
  · cases h
    exact Or.inr (Or.inl ⟨_, rfl, rfl⟩)
  rename_i hvalid
  refine Or.inr (Or.inr ⟨v, resolveDriverIdAtTimestamp reg v.id (parseTimestampMeta pos now).1, _, _,
    _, hvehicle, rfl, Bool.of_not_eq_false hvalid, rfl, ?_⟩)
  split at h
  · cases h
    refine Or.inl ⟨rfl, ?_⟩
    split
    · exact Or.inr rfl
    · exact Or.inl rfl
  · split at h
    · cases h
      exact Or.inl ⟨rfl, Or.inr rfl⟩
    · cases h
      exact Or.inr ⟨_, rfl, rfl⟩
  · cases h
    exact Or.inr ⟨_, rfl, rfl⟩

end Locked

/-! ## Verdicts tell the truth -/

omit [Field R] [LinearOrder R] [JsMath R] in
/-- What a verdict says of the table. -/
def Verdict.Holds (t : PositionTable R) : Verdict R → Prop
  | .stored row => row ∈ t.rows
  | .duplicate v timestamp =>
    ∃ row ∈ t.rows, row.vehicleId = v ∧ |row.timestamp - timestamp| ≤ dedupClockSkew
  | .rejected _ => True

omit [Field R] [LinearOrder R] [JsMath R] in
theorem Verdict.Holds.mono {t t' : PositionTable R} {v : Verdict R} (h : v.Holds t)
    (hgrow : t.rows <+: t'.rows) : v.Holds t' := by
  cases v with
  | stored row => exact hgrow.subset h
  | duplicate v timestamp =>
    obtain ⟨row, hrow, hnear⟩ := h
    exact ⟨row, hgrow.subset hrow, hnear⟩
  | rejected _ => trivial

/-- Saving loses no row, and the verdict on it holds. -/
theorem savedVerdict_holds {reg : Registry} {pos : TraccarPosition R} {v : Vehicle}
    (hvehicle : trackerVehicle reg pos.deviceId = some v) {dto : UpdatePositionDto R}
    (hdto : dto.vehicleId = v.id) {heading : R} {now : Int}
    (hvalid : validDto dto heading now = true) (driverId : Option String) (t : PositionTable R) :
    t.rows <+: (savePosition reg driverId dto (some v.companyId) .physicalTracker t).2.rows ∧
      (savedVerdict dto (savePosition reg driverId dto (some v.companyId) .physicalTracker t).1).Holds
        (savePosition reg driverId dto (some v.companyId) .physicalTracker t).2 := by
  obtain ⟨hid, hdelivery⟩ := validDto_ids hvalid
  rw [hdto] at hid
  have hallowed := admitPosition_tracker hvehicle hdto hid hdelivery
  rcases savePosition_cases reg driverId dto (some v.companyId) .physicalTracker t with
    hunsaved | ⟨c, t', -, -, hcreate, hsaved⟩
  · have hnear := savePosition_not_stored hallowed (congrArg Prod.fst hunsaved)
    rw [hunsaved]
    exact ⟨List.prefix_rfl, hnear⟩
  · generalize dto.row driverId c .physicalTracker _ = row at hcreate hsaved
    have hrows := Table.rows_of_create hcreate
    rw [hsaved]
    refine ⟨⟨_, hrows.symm⟩, ?_⟩
    show row ∈ t'.rows
    rw [hrows]
    exact List.mem_append_right _ (List.mem_singleton_self _)

/-- The locked section loses no row, and its verdict holds. -/
theorem lockedSection_holds {cfg : BridgeConfig R} {reg : Registry} {pos : TraccarPosition R}
    {now : Int} {fault : Option CallFault} {br br' : Bridge R} {exit : Exit R}
    (h : lockedSection cfg reg pos now fault br = (exit, br')) :
    br.positions.rows <+: br'.positions.rows ∧
      ∀ v p, exit = .returned v p → v.Holds br'.positions := by
  have hcases := lockedSection_cases h
  clear h
  rcases hcases with ⟨rfl, -, hsame⟩ | ⟨reason, rfl, hsame⟩ |
    ⟨v, driverId, dto, heading, saved, hvehicle, hdto, hvalid, rfl, hend⟩
  · rw [hsame]
    refine ⟨List.prefix_rfl, ?_⟩
    rintro _ _ ⟨⟩
  · rw [hsame]
    refine ⟨List.prefix_rfl, ?_⟩
    rintro _ _ ⟨⟩
    trivial
  · obtain ⟨hgrow, hholds⟩ := savedVerdict_holds hvehicle hdto hvalid driverId br.positions
    rcases hend with ⟨rfl, hsame | hsaved⟩ | ⟨p, rfl, hsaved⟩
    · rw [hsame]
      refine ⟨List.prefix_rfl, ?_⟩
      rintro _ _ ⟨⟩
    · rw [hsaved]
      refine ⟨hgrow, ?_⟩
      rintro _ _ ⟨⟩
    · rw [hsaved]
      refine ⟨hgrow, ?_⟩
      rintro _ _ ⟨⟩
      exact hholds

/-! ## Entries, and what threads still add and remove -/

omit [Field R] [JsMath R] in
/-- The entries of a position. -/
def Shared.entries (s : Shared R) (p : TraccarPosition R) : Int :=
  s.pending.countP fun e => e.pos = p

omit [Field R] [JsMath R] in
/-- What the handling of `pos` may still add to the entries of `p`. -/
def Handling.credit (pos p : TraccarPosition R) : Handling R → Int
  | .enter => if pos = p then 1 else 0
  | .push => if pos = p then 1 else 0
  | _ => 0

omit [Field R] [JsMath R] in
/-- In a pass, less what it will remove. -/
def Drain.credit (p : TraccarPosition R) : Drain R → Int
  | .replay entry h _ => h.credit entry.pos p - if entry.pos = p then 1 else 0
  | .remove entry _ => -if entry.pos = p then 1 else 0
  | _ => 0

omit [Field R] [JsMath R] in
def Thread.credit (p : TraccarPosition R) : Thread R → Int
  | .live pos h => h.credit pos p
  | .drain d => d.credit p

omit [Field R] [JsMath R] in
/-- A message with the position is being handled. -/
def Thread.receiving (p : TraccarPosition R) : Thread R → Bool
  | .live _ .finished => false
  | .live pos _ => pos = p
  | .drain _ => false

omit [Field R] [LinearOrder R] [JsMath R] in
/-- Nothing more has to be done for a position: it has a verdict, or an entry of it was removed
for its age or by the limit. -/
def Shared.Closed (s : Shared R) (p : TraccarPosition R) : Prop :=
  (∃ v, (p, v) ∈ s.verdicts) ∨ (∃ x ∈ s.expired, x.1.pos = p) ∨ ∃ e ∈ s.trimmed, e.pos = p

/-- What a call of a thread does to the shared state, when it takes the thread's credit for `p`
from `c` to `c'`. -/
structure Shared.Evolves (p : TraccarPosition R) (c c' : Int) (s s' : Shared R) : Prop where
  rows : s.bridge.positions.rows <+: s'.bridge.positions.rows
  verdicts : ∀ x ∈ s'.verdicts, x ∈ s.verdicts ∨ x.2.Holds s'.bridge.positions
  keepsVerdicts : s.verdicts ⊆ s'.verdicts
  keepsExpired : s.expired ⊆ s'.expired
  keepsTrimmed : s.trimmed ⊆ s'.trimmed
  balance : s'.Closed p ∨ s.entries p + c ≤ s'.entries p + c'

section Calls

variable {cfg : BridgeConfig R} {reg : Registry} {p pos : TraccarPosition R} {now : Int}
  {fault : Option CallFault} {s s' : Shared R} {c c' : Int}

omit [Field R] [LinearOrder R] [JsMath R] in
theorem Shared.Closed.mono (h : s.Closed p) (hverdicts : s.verdicts ⊆ s'.verdicts)
    (hexpired : s.expired ⊆ s'.expired) (htrimmed : s.trimmed ⊆ s'.trimmed) : s'.Closed p := by
  rcases h with ⟨v, hv⟩ | ⟨x, hx, hpos⟩ | ⟨e, he, hpos⟩
  · exact Or.inl ⟨v, hverdicts hv⟩
  · exact Or.inr (Or.inl ⟨x, hexpired hx, hpos⟩)
  · exact Or.inr (Or.inr ⟨e, htrimmed he, hpos⟩)

omit [Field R] [JsMath R] in
/-- A call that touches only the list and the schedule. -/
theorem Shared.Evolves.of_list (hbridge : s'.bridge = s.bridge) (hverdicts : s'.verdicts = s.verdicts)
    (hexpired : s.expired ⊆ s'.expired) (htrimmed : s.trimmed ⊆ s'.trimmed)
    (hbalance : s'.Closed p ∨ s.entries p + c ≤ s'.entries p + c') :
    Shared.Evolves p c c' s s' where
  rows := by rw [hbridge]
  verdicts := by
    intro x hx
    rw [hverdicts] at hx
    exact Or.inl hx
  keepsVerdicts := by rw [hverdicts]; exact List.Subset.refl _
  keepsExpired := hexpired
  keepsTrimmed := htrimmed
  balance := hbalance

omit [Field R] [JsMath R] in
theorem Shared.Evolves.refl (h : c ≤ c') : Shared.Evolves p c c' s s :=
  .of_list rfl rfl (List.Subset.refl _) (List.Subset.refl _) (Or.inr (by omega))

omit [Field R] [JsMath R] in
/-- A call that gives `pos` a verdict. -/
theorem Shared.Evolves.note {br : Bridge R} (hrows : s.bridge.positions.rows <+: br.positions.rows)
    {v : Verdict R} (hv : v.Holds br.positions) (hother : pos ≠ p → c ≤ c') :
    Shared.Evolves p c c' s (Shared.note { s with bridge := br } pos v) where
  rows := hrows
  verdicts := by
    intro x hx
    rcases List.mem_cons.mp hx with rfl | hx
    · exact Or.inr hv
    · exact Or.inl hx
  keepsVerdicts := List.subset_cons_self ..
  keepsExpired := List.Subset.refl _
  keepsTrimmed := List.Subset.refl _
  balance := by
    rcases Decidable.em (pos = p) with rfl | hne
    · exact Or.inl (Or.inl ⟨v, List.mem_cons_self ..⟩)
    · exact Or.inr (Int.add_le_add_left (hother hne) _)

omit [Field R] [JsMath R] in
/-- A removal takes away at most one entry, and none of another position. -/
theorem Shared.entries_erase (s : Shared R) (p : TraccarPosition R) (entry : PendingEntry R) :
    s.entries p - (if entry.pos = p then 1 else 0)
      ≤ Shared.entries { s with pending := s.pending.erase entry } p := by
  unfold Shared.entries
  rcases Decidable.em (entry ∈ s.pending) with hmem | hmem
  · rw [(List.perm_cons_erase hmem).countP_eq, List.countP_cons]
    simp only [decide_eq_true_eq]
    split <;> omega
  · simp only [List.erase_of_not_mem hmem]
    split <;> omega

omit [Field R] [JsMath R] in
/-- Trimming keeps the entries of a position, or drops one. -/
theorem Shared.entries_take (s : Shared R) (p : TraccarPosition R) (n : Nat) :
    (∃ e ∈ s.pending.drop n, e.pos = p) ∨
      s.entries p = Shared.entries { s with pending := s.pending.take n } p := by
  rcases Decidable.em (∃ e ∈ s.pending.drop n, e.pos = p) with hdropped | hdropped
  · exact Or.inl hdropped
  · refine Or.inr ?_
    have hnone : (s.pending.drop n).countP (fun e => e.pos = p) = 0 :=
      List.countP_eq_zero.mpr fun e he hpos => hdropped ⟨e, he, of_decide_eq_true hpos⟩
    have hsplit : s.pending.countP (fun e => e.pos = p)
        = (s.pending.take n).countP (fun e => e.pos = p)
          + (s.pending.drop n).countP (fun e => e.pos = p) := by
      rw [← List.countP_append, List.take_append_drop]
    unfold Shared.entries
    rw [hsplit, hnone, Nat.add_zero]

/-- The next call of the handling of `pos` throws, and nothing will try `pos` again: a read before
`savePosition`, or the `lpush`. -/
def Handling.loses (fault : Option CallFault) : Handling R → Bool
  | .enter => fault.any CallFault.beforeSave
  | .push => fault.isSome
  | _ => false

theorem handlingStep_evolves (hredis : cfg.hasRedis = true) {h h' : Handling R}
    (hsafe : pos = p → h.loses fault = false)
    (hstep : handlingStep cfg reg pos now fault h s = (h', s')) :
    Shared.Evolves p (h.credit pos p) (h'.credit pos p) s s' ∧ s'.expired = s.expired := by
  cases h with
  | enter =>
    have hother : ∀ c' : Int, 0 ≤ c' → pos ≠ p → (Handling.enter : Handling R).credit pos p ≤ c' := by
      intro c' hc' hne
      rw [Handling.credit, if_neg hne]
      exact hc'
    simp only [handlingStep] at hstep
    split at hstep
    · generalize hlocked : lockedSection cfg reg pos now fault s.bridge = locked at hstep
      obtain ⟨exit, br⟩ := locked
      obtain ⟨hrows, hholds⟩ := lockedSection_holds hlocked
      simp only at hstep
      split at hstep
      · cases hstep
        exact ⟨.note hrows (hholds _ _ rfl) (hother _ le_rfl), rfl⟩
      · cases hstep
        exact ⟨.note hrows (hholds _ _ rfl) (hother _ le_rfl), rfl⟩
      · cases hstep
        have hread : fault.any CallFault.beforeSave = true := by
          rcases lockedSection_cases hlocked with ⟨-, hread, -⟩ | ⟨_, hexit, -⟩ |
            ⟨_, _, _, _, _, -, -, -, -, ⟨hexit, -⟩ | ⟨_, hexit, -⟩⟩
          · exact hread
          · cases hexit
          · cases hexit
          · cases hexit
        have hne : pos ≠ p := by
          intro heq
          have hfalse : fault.any CallFault.beforeSave = false := hsafe heq
          rw [hread] at hfalse
          cases hfalse
        refine ⟨⟨hrows, fun x hx => Or.inl hx, List.Subset.refl _, List.Subset.refl _,
          List.Subset.refl _, Or.inr ?_⟩, rfl⟩
        exact Int.add_le_add_left (hother _ le_rfl hne) _
      · cases hstep
        exact ⟨⟨hrows, fun x hx => Or.inl hx, List.Subset.refl _, List.Subset.refl _,
          List.Subset.refl _, Or.inr le_rfl⟩, rfl⟩
    · cases hstep
      exact ⟨.note List.prefix_rfl trivial (hother _ le_rfl), rfl⟩
  | record processed =>
    simp only [handlingStep] at hstep
    split at hstep
    · cases hstep
      exact ⟨.refl le_rfl, rfl⟩
    · cases hstep
      have hpositions := recordFix_positions processed pos s.bridge
      refine ⟨⟨?_, fun x hx => Or.inl hx, List.Subset.refl _, List.Subset.refl _,
        List.Subset.refl _, Or.inr le_rfl⟩, rfl⟩
      rw [hpositions]
  | push =>
    simp only [handlingStep, hredis, if_true] at hstep
    split at hstep
    · rename_i hfault
      cases hstep
      have hne : pos ≠ p := by
        intro heq
        have hfalse : fault.isSome = false := hsafe heq
        rw [hfault] at hfalse
        cases hfalse
      refine ⟨.refl ?_, rfl⟩
      rw [Handling.credit, if_neg hne]
      exact le_rfl
    · cases hstep
      refine ⟨.of_list rfl rfl (List.Subset.refl _) (List.Subset.refl _) (Or.inr ?_), rfl⟩
      unfold Shared.entries Handling.credit
      rw [List.countP_cons]
      simp only [decide_eq_true_eq]
      split <;> omega
  | trim =>
    simp only [handlingStep] at hstep
    split at hstep
    · cases hstep
      exact ⟨.refl le_rfl, rfl⟩
    · cases hstep
      refine ⟨.of_list rfl rfl (List.Subset.refl _) (List.subset_append_right ..) ?_, rfl⟩
      rcases s.entries_take p pendingPositionsLimit with ⟨e, he, hpos⟩ | hsame
      · exact Or.inl (Or.inr (Or.inr ⟨e, List.mem_append_left _ he, hpos⟩))
      · refine Or.inr ?_
        rw [hsame]
        exact le_rfl
  | count =>
    simp only [handlingStep] at hstep
    split at hstep
    · cases hstep
      exact ⟨.of_list rfl rfl (List.Subset.refl _) (List.Subset.refl _) (Or.inr le_rfl), rfl⟩
    · cases hstep
      exact ⟨.refl le_rfl, rfl⟩
  | finished =>
    cases hstep
    exact ⟨.refl le_rfl, rfl⟩

/-- The handling a thread is in, and of which position. -/
def Drain.handling : Drain R → Option (TraccarPosition R × Handling R)
  | .replay entry h _ => some (entry.pos, h)
  | _ => none

def Thread.handling : Thread R → Option (TraccarPosition R × Handling R)
  | .live pos h => some (pos, h)
  | .drain d => d.handling

/-- What a pass purges is too old. -/
def Drain.PurgesStale : Drain R → Prop
  | .purge entry stale _ now => ∀ e ∈ entry :: stale, e.isStale now = true
  | _ => True

omit [Field R] [JsMath R] in
/-- To try an entry again neither adds nor removes anything yet. -/
theorem Drain.credit_retry (retry : List (PendingEntry R)) : (Drain.retry retry).credit p = 0 := by
  cases retry with
  | nil => rfl
  | cons entry rest =>
    show (if entry.pos = p then (1 : Int) else 0) - (if entry.pos = p then 1 else 0) = 0
    omega

omit [Field R] [JsMath R] in
theorem Drain.credit_purgeAll (now : Int) (stale retry : List (PendingEntry R)) :
    (Drain.purgeAll now stale retry).credit p = 0 := by
  cases stale with
  | nil => exact Drain.credit_retry retry
  | cons entry rest => rfl

omit [Field R] [LinearOrder R] [JsMath R] in
theorem Drain.retry_purgesStale (retry : List (PendingEntry R)) :
    (Drain.retry retry).PurgesStale := by
  cases retry <;> trivial

omit [Field R] [LinearOrder R] [JsMath R] in
theorem Drain.purgeAll_purgesStale {stale : List (PendingEntry R)}
    (h : ∀ e ∈ stale, e.isStale now = true) (retry : List (PendingEntry R)) :
    (Drain.purgeAll now stale retry).PurgesStale := by
  cases stale with
  | nil => exact Drain.retry_purgesStale retry
  | cons entry rest => exact h

theorem drainStep_evolves (hredis : cfg.hasRedis = true) {d d' : Drain R}
    (hsafe : ∀ x ∈ d.handling, x.1 = p → x.2.loses fault = false) (hstale : d.PurgesStale)
    (hstep : drainStep cfg reg now fault d s = (d', s')) :
    Shared.Evolves p (d.credit p) (d'.credit p) s s' ∧ d'.PurgesStale ∧
      ∀ x ∈ s'.expired, x ∈ s.expired ∨ x.1.isStale x.2 = true := by
  have hreschedule : Shared.Evolves p 0 0 s s.reschedule :=
    .of_list rfl rfl (List.Subset.refl _) (List.Subset.refl _) (Or.inr le_rfl)
  cases d with
  | list =>
    simp only [drainStep, hredis, if_true] at hstep
    split at hstep
    · cases hstep
      exact ⟨hreschedule, trivial, fun x hx => Or.inl hx⟩
    split at hstep
    · cases hstep
      exact ⟨.refl le_rfl, trivial, fun x hx => Or.inl hx⟩
    · cases hstep
      refine ⟨.refl ?_, Drain.purgeAll_purgesStale ?_ _, fun x hx => Or.inl hx⟩
      · rw [Drain.credit_purgeAll]
        exact le_rfl
      · exact fun e he => (List.mem_filter.mp he).2
  | purge entry stale retry listedAt =>
    simp only [drainStep] at hstep
    split at hstep
    · cases hstep
      exact ⟨hreschedule, trivial, fun x hx => Or.inl hx⟩
    · cases hstep
      refine ⟨?_, Drain.purgeAll_purgesStale (fun e he => hstale e (List.mem_cons_of_mem _ he)) _, ?_⟩
      · rw [Drain.credit_purgeAll]
        refine .of_list rfl rfl ?_ (List.Subset.refl _) ?_
        · show s.expired ⊆ if entry ∈ s.pending then _ else _
          split
          · exact List.subset_cons_self ..
          · exact List.Subset.refl _
        · rcases Decidable.em (entry ∈ s.pending ∧ entry.pos = p) with ⟨hmem, hpos⟩ | hother
          · refine Or.inl (Or.inr (Or.inl ⟨(entry, listedAt), ?_, hpos⟩))
            show _ ∈ if entry ∈ s.pending then _ else _
            rw [if_pos hmem]
            exact List.mem_cons_self ..
          · refine Or.inr (Int.add_le_add_right ?_ _)
            rcases Decidable.em (entry ∈ s.pending) with hmem | hmem
            · have herase := s.entries_erase p entry
              rw [if_neg fun hpos => hother ⟨hmem, hpos⟩, sub_zero] at herase
              exact herase
            · unfold Shared.entries
              rw [List.erase_of_not_mem hmem]
      · intro x hx
        have hx' : x ∈ if entry ∈ s.pending then (entry, listedAt) :: s.expired else s.expired := hx
        split at hx'
        · rcases List.mem_cons.mp hx' with rfl | hx'
          · exact Or.inr (hstale entry (List.mem_cons_self ..))
          · exact Or.inl hx'
        · exact Or.inl hx'
  | replay entry h rest =>
    simp only [drainStep] at hstep
    generalize hhandling : handlingStep cfg reg entry.pos now fault h s = next at hstep
    obtain ⟨h', s''⟩ := next
    have hsafe' : entry.pos = p → h.loses fault = false := hsafe (entry.pos, h) rfl
    obtain ⟨hevolves, hexpired⟩ := handlingStep_evolves hredis hsafe' hhandling
    have hbalance : Shared.Evolves p (h.credit entry.pos p - if entry.pos = p then 1 else 0)
        (h'.credit entry.pos p - if entry.pos = p then 1 else 0) s s'' :=
      ⟨hevolves.rows, hevolves.verdicts, hevolves.keepsVerdicts, hevolves.keepsExpired,
        hevolves.keepsTrimmed, hevolves.balance.imp_right fun hle => by omega⟩
    have hkept : ∀ x ∈ s''.expired, x ∈ s.expired ∨ x.1.isStale x.2 = true := by
      intro x hx
      rw [hexpired] at hx
      exact Or.inl hx
    simp only at hstep
    split at hstep
    · cases hstep
      refine ⟨?_, trivial, hkept⟩
      have hremove : (Drain.remove entry rest).credit p
          = (Handling.finished : Handling R).credit entry.pos p - if entry.pos = p then 1 else 0 :=
        (zero_sub _).symm
      rw [hremove]
      exact hbalance
    · cases hstep
      exact ⟨hbalance, trivial, hkept⟩
  | remove entry rest =>
    simp only [drainStep] at hstep
    have hnonpos : (Drain.remove entry rest).credit p ≤ 0 := by
      show (-if entry.pos = p then (1 : Int) else 0) ≤ 0
      split <;> omega
    split at hstep
    · cases hstep
      exact ⟨.refl hnonpos, trivial, fun x hx => Or.inl hx⟩
    · cases hstep
      refine ⟨.of_list rfl rfl (List.Subset.refl _) (List.Subset.refl _) (Or.inr ?_),
        Drain.retry_purgesStale _, fun x hx => Or.inl hx⟩
      rw [Drain.credit_retry, add_zero]
      exact s.entries_erase p entry
  | remaining =>
    simp only [drainStep] at hstep
    split at hstep
    · cases hstep
      exact ⟨hreschedule, trivial, fun x hx => Or.inl hx⟩
    · cases hstep
      exact ⟨.refl le_rfl, trivial, fun x hx => Or.inl hx⟩
  | finished =>
    cases hstep
    exact ⟨.refl le_rfl, trivial, fun x hx => Or.inl hx⟩

def Thread.PurgesStale : Thread R → Prop
  | .live _ _ => True
  | .drain d => d.PurgesStale

theorem threadStep_evolves (hredis : cfg.hasRedis = true) {th th' : Thread R}
    (hsafe : ∀ x ∈ th.handling, x.1 = p → x.2.loses fault = false) (hstale : th.PurgesStale)
    (hstep : threadStep cfg reg now fault th s = (th', s')) :
    Shared.Evolves p (th.credit p) (th'.credit p) s s' ∧ th'.PurgesStale ∧
      ∀ x ∈ s'.expired, x ∈ s.expired ∨ x.1.isStale x.2 = true := by
  cases th with
  | live pos h =>
    cases hstep
    have hsafe' : pos = p → h.loses fault = false := hsafe (pos, h) rfl
    obtain ⟨hevolves, hexpired⟩ := handlingStep_evolves hredis hsafe' rfl
    refine ⟨hevolves, trivial, fun x hx => ?_⟩
    rw [hexpired] at hx
    exact Or.inl hx
  | drain d =>
    cases hstep
    exact drainStep_evolves hredis hsafe hstale rfl

end Calls

/-! ## Nothing is lost -/

/-- The state before the first message, the list holding what an earlier process left. -/
def PendingState.start (br : Bridge R) (pending : List (PendingEntry R)) (scheduled : Nat) :
    PendingState R :=
  ⟨⟨br, pending, scheduled, [], [], []⟩, [], []⟩

/-- No read before `savePosition` throws, and no `lpush`, in the handling of a position. -/
def Dependable (p : TraccarPosition R) (s : PendingState R) : PendingEvent R → Prop
  | .call k _ fault => ∀ th ∈ s.threads[k]?, ∀ x ∈ th.handling, x.1 = p → x.2.loses fault = false
  | _ => True

omit [Field R] [JsMath R] in
instance (p : TraccarPosition R) (s : PendingState R) : DecidablePred (Dependable p s) := fun e =>
  match e with
  | .receive _ => inferInstanceAs (Decidable True)
  | .drain => inferInstanceAs (Decidable True)
  | .call k _ fault => inferInstanceAs (Decidable (∀ th ∈ s.threads[k]?, ∀ x ∈ th.handling,
      x.1 = p → x.2.loses fault = false))

/-- Stored, a duplicate of a stored position, rejected, on the list, or removed from it for its
age or by the limit. -/
def Accounted (s : PendingState R) (p : TraccarPosition R) : Prop :=
  (∃ row ∈ s.shared.bridge.positions.rows, (p, .stored row) ∈ s.shared.verdicts) ∨
  (∃ row ∈ s.shared.bridge.positions.rows, ∃ timestamp,
    (p, .duplicate row.vehicleId timestamp) ∈ s.shared.verdicts ∧
      |row.timestamp - timestamp| ≤ dedupClockSkew) ∨
  (∃ reason, (p, .rejected reason) ∈ s.shared.verdicts) ∨
  (∃ e ∈ s.shared.pending, e.pos = p) ∨
  (∃ x ∈ s.shared.expired, x.1.pos = p ∧ pendingPositionsRetention < x.2 - x.1.queuedAt) ∨
  ∃ e ∈ s.shared.trimmed, e.pos = p

section Run

variable {cfg : BridgeConfig R} {reg : Registry} {p : TraccarPosition R} {s t : PendingState R}

/-- The invariant: verdicts and purges tell the truth, and a position that is not closed has an
entry, or a thread that will add one. -/
structure PendingInvariant (p : TraccarPosition R) (s : PendingState R) : Prop where
  verdicts : ∀ x ∈ s.shared.verdicts, x.2.Holds s.shared.bridge.positions
  expired : ∀ x ∈ s.shared.expired, x.1.isStale x.2 = true
  purging : ∀ th ∈ s.threads, th.PurgesStale
  balance : s.shared.Closed p ∨ (if p ∈ s.received then 1 else 0)
    ≤ s.shared.entries p + (s.threads.map (Thread.credit p)).sum

theorem PendingInvariant.call (hredis : cfg.hasRedis = true) (h : PendingInvariant p s) {k : Nat}
    {now : Int} {fault : Option CallFault} {th : Thread R} (hth : s.threads[k]? = some th)
    (hsafe : ∀ x ∈ th.handling, x.1 = p → x.2.loses fault = false) {th' : Thread R}
    {shared : Shared R} (hstep : threadStep cfg reg now fault th s.shared = (th', shared)) :
    PendingInvariant p { s with shared, threads := s.threads.set k th' } := by
  have hmem : th ∈ s.threads := List.mem_of_getElem? hth
  obtain ⟨hevolves, hstale, hexpired⟩ :=
    threadStep_evolves hredis hsafe (h.purging th hmem) hstep
  refine ⟨?_, ?_, ?_, ?_⟩
  · intro x hx
    rcases hevolves.verdicts x hx with hold | hnew
    · exact (h.verdicts x hold).mono hevolves.rows
    · exact hnew
  · intro x hx
    rcases hexpired x hx with hold | hnew
    · exact h.expired x hold
    · exact hnew
  · exact forall_mem_set h.purging hstale
  · rcases h.balance with hclosed | hbalance
    · exact Or.inl
        (hclosed.mono hevolves.keepsVerdicts hevolves.keepsExpired hevolves.keepsTrimmed)
    · refine hevolves.balance.imp_right fun hcall => ?_
      obtain ⟨hk, hget⟩ := List.getElem?_eq_some_iff.mp hth
      have hsum : ((s.threads.set k th').map (Thread.credit p)).sum
          = (s.threads.map (Thread.credit p)).sum - th.credit p + th'.credit p := by
        rw [List.map_set, List.sum_set', dif_pos (by simpa using hk), List.getElem_map, hget]
        ring
      show (if p ∈ s.received then (1 : Int) else 0)
        ≤ shared.entries p + ((s.threads.set k th').map (Thread.credit p)).sum
      omega

theorem PendingInvariant.step (hredis : cfg.hasRedis = true) (h : PendingInvariant p s)
    {e : PendingEvent R} (hstep : Guarded (Steps (pendingStep cfg reg)) (Dependable p) s e t) :
    PendingInvariant p t := by
  obtain ⟨hstep, hsafe⟩ := hstep
  cases e with
  | receive pos =>
    cases hstep
    refine ⟨h.verdicts, h.expired, ?_, h.balance.imp_right fun hbalance => ?_⟩
    · exact forall_mem_concat h.purging trivial
    · have hcredit : (Thread.live pos .enter).credit p = if pos = p then 1 else 0 := rfl
      have hreceived : (if p ∈ pos :: s.received then (1 : Int) else 0)
          ≤ (if p ∈ s.received then 1 else 0) + if pos = p then 1 else 0 := by
        rcases Decidable.em (pos = p) with rfl | hne
        · rw [if_pos (List.mem_cons_self ..), if_pos rfl]
          split <;> omega
        · simp only [List.mem_cons, Ne.symm hne, false_or, if_neg hne, add_zero, le_refl]
      show (if p ∈ pos :: s.received then (1 : Int) else 0)
        ≤ s.shared.entries p + ((s.threads ++ [Thread.live pos .enter]).map (Thread.credit p)).sum
      rw [List.map_append, List.sum_append, List.map_singleton, List.sum_singleton, hcredit]
      omega
  | drain =>
    have hstep' := hstep
    simp only [Steps, pendingStep] at hstep'
    split at hstep'
    · cases hstep'
    · cases hstep'
      refine ⟨h.verdicts, h.expired, ?_, h.balance.imp_right fun hbalance => ?_⟩
      · exact forall_mem_concat h.purging trivial
      · have hcredit : (Thread.drain .list).credit p = 0 := rfl
        show (if p ∈ s.received then (1 : Int) else 0)
          ≤ s.shared.entries p + ((s.threads ++ [Thread.drain .list]).map (Thread.credit p)).sum
        rw [List.map_append, List.sum_append, List.map_singleton, List.sum_singleton, hcredit,
          add_zero]
        exact hbalance
  | call k now fault =>
    obtain ⟨th, hth, rfl⟩ := Option.map_eq_some_iff.mp hstep
    exact h.call hredis hth (hsafe th hth) rfl

omit [Field R] [JsMath R] in
/-- Unless its message is being handled, the threads only remove entries of a position. -/
theorem Thread.credit_nonpos {th : Thread R} (h : th.receiving p = false) : th.credit p ≤ 0 := by
  have hle : ∀ (pos : TraccarPosition R) (h' : Handling R),
      h'.credit pos p ≤ if pos = p then 1 else 0 := by
    intro pos h'
    cases h' <;> simp only [Handling.credit] <;> split <;> omega
  cases th with
  | live pos h' =>
    rcases Decidable.em (pos = p) with rfl | hne
    · cases h' with
      | finished => exact le_rfl
      | enter => cases h.symm.trans (decide_eq_true rfl)
      | record _ => cases h.symm.trans (decide_eq_true rfl)
      | push => cases h.symm.trans (decide_eq_true rfl)
      | trim => cases h.symm.trans (decide_eq_true rfl)
      | count => cases h.symm.trans (decide_eq_true rfl)
    · have hcredit := hle pos h'
      rw [if_neg hne] at hcredit
      exact hcredit
  | drain d =>
    cases d with
    | replay entry h' rest =>
      have hcredit := hle entry.pos h'
      show h'.credit entry.pos p - (if entry.pos = p then 1 else 0) ≤ 0
      omega
    | remove entry rest =>
      show (-if entry.pos = p then (1 : Int) else 0) ≤ 0
      split <;> omega
    | list => exact le_rfl
    | purge _ _ _ _ => exact le_rfl
    | remaining => exact le_rfl
    | finished => exact le_rfl

omit [Field R] [JsMath R] in
theorem PendingInvariant.accounted (h : PendingInvariant p s) (hreceived : p ∈ s.received)
    (hidle : ∀ th ∈ s.threads, th.receiving p = false) : Accounted s p := by
  rcases h.balance with (⟨v, hv⟩ | ⟨x, hx, hpos⟩ | ⟨e, he, hpos⟩) | hbalance
  · have hholds := h.verdicts _ hv
    cases v with
    | stored row => exact Or.inl ⟨row, hholds, hv⟩
    | duplicate v timestamp =>
      obtain ⟨row, hrow, rfl, hnear⟩ := hholds
      exact Or.inr (Or.inl ⟨row, hrow, timestamp, hv, hnear⟩)
    | rejected reason => exact Or.inr (Or.inr (Or.inl ⟨reason, hv⟩))
  · have hstale := of_decide_eq_true (h.expired x hx)
    exact Or.inr (Or.inr (Or.inr (Or.inr (Or.inl ⟨x, hx, hpos, hstale⟩))))
  · exact Or.inr (Or.inr (Or.inr (Or.inr (Or.inr ⟨e, he, hpos⟩))))
  · refine Or.inr (Or.inr (Or.inr (Or.inl ?_)))
    have hcredit : (s.threads.map (Thread.credit p)).sum ≤ 0 := by
      have hle : ∀ c ∈ s.threads.map (Thread.credit p), c ≤ 0 := by
        intro c hc
        obtain ⟨th, hth, rfl⟩ := List.mem_map.mp hc
        exact Thread.credit_nonpos (hidle th hth)
      exact (List.sum_le_card_nsmul _ 0 hle).trans_eq (nsmul_zero _)
    rw [if_pos hreceived] at hbalance
    have hentries : 0 < s.shared.pending.countP fun e => e.pos = p := by
      have hcount : s.shared.entries p = s.shared.pending.countP fun e => e.pos = p := rfl
      omega
    obtain ⟨e, he, hpos⟩ := List.countP_pos_iff.mp hentries
    exact ⟨e, he, of_decide_eq_true hpos⟩

end Run

/-- **A position received is accounted for once its message is handled**, in every run in which
its own handling meets no failing read before `savePosition` and no failing `lpush`. -/
theorem position_accounted {cfg : BridgeConfig R} {reg : Registry} (hredis : cfg.hasRedis = true)
    {p : TraccarPosition R} {br : Bridge R} {pending : List (PendingEntry R)} {scheduled : Nat}
    {es : List (PendingEvent R)} {s : PendingState R}
    (h : Run (Guarded (Steps (pendingStep cfg reg)) (Dependable p)) (.start br pending scheduled) es s)
    (hreceived : p ∈ s.received) (hidle : ∀ th ∈ s.threads, th.receiving p = false) :
    Accounted s p := by
  have hstart : PendingInvariant p (PendingState.start br pending scheduled) := by
    refine ⟨by simp [PendingState.start], by simp [PendingState.start],
      by simp [PendingState.start], Or.inr ?_⟩
    show (0 : Int) ≤ (pending.countP fun e => e.pos = p : Nat) + 0
    omega
  exact (h.invariant (fun hs hstep => hs.step hredis hstep) hstart).accounted hreceived hidle

/-! ### One position, one failing call -/

/-- A parked vehicle's fix. -/
def sampleFix : TraccarPosition ℚ := samplePosition 10000 12

/-- It is received and its handling goes on to the end, the first call failing. -/
def failingFirst (fault : CallFault) : List (PendingEvent ℚ) :=
  .receive sampleFix :: .call 0 20000 (some fault) :: List.replicate 3 (.call 0 20000 none)

/-- `savePosition` throws: the position is on the list. -/
theorem failedSave_accounted : ∃ s : PendingState ℚ,
    s.shared.pending = [⟨sampleFix, 20000⟩] ∧ Accounted s sampleFix := by
  have hdone : ((failingFirst (.save false)).foldlM
      (guardStep (pendingStep sampleConfig trackerRegistry) (Dependable sampleFix))
      (.start emptyBridge [] 0)).map (fun s => (s.shared.pending, s.received,
        s.threads.map (Thread.receiving sampleFix)))
      = some ([⟨sampleFix, 20000⟩], [sampleFix], [false]) := by
    decide +kernel
  obtain ⟨s, hs, hfinal⟩ := Option.map_eq_some_iff.mp hdone
  simp only [Prod.mk.injEq] at hfinal
  obtain ⟨hpending, hreceived, hthreads⟩ := hfinal
  refine ⟨s, hpending, position_accounted rfl (Run.of_guardStep hs) ?_ fun th hth => ?_⟩
  · rw [hreceived]
    exact List.mem_singleton_self _
  · have hmem := List.mem_map_of_mem (f := Thread.receiving sampleFix) hth
    rw [hthreads] at hmem
    exact List.mem_singleton.mp hmem

/-- The lookup of the vehicle throws: the position is nowhere. -/
theorem failed_read_loses : ∃ s, Run (Steps (pendingStep sampleConfig trackerRegistry))
      (.start emptyBridge [] 0) (failingFirst .vehicle) s ∧
    sampleFix ∈ s.received ∧ (∀ th ∈ s.threads, th.receiving sampleFix = false) ∧
    acceptsFix sampleConfig sampleFix = true ∧
    trackerVehicle trackerRegistry sampleFix.deviceId = some sampleTracker ∧
    ¬ Accounted s sampleFix := by
  have hdone : ((failingFirst .vehicle).foldlM (pendingStep sampleConfig trackerRegistry)
      (.start emptyBridge [] 0)).map (fun s => (s.received,
        s.threads.map (Thread.receiving sampleFix), [s.shared.pending.length,
          s.shared.verdicts.length, s.shared.expired.length, s.shared.trimmed.length]))
      = some ([sampleFix], [false], [0, 0, 0, 0]) := by
    decide +kernel
  obtain ⟨s, hs, hfinal⟩ := Option.map_eq_some_iff.mp hdone
  simp only [Prod.mk.injEq, List.cons.injEq, List.length_eq_zero_iff] at hfinal
  obtain ⟨hreceived, hthreads, hpending, hverdicts, hexpired, htrimmed, -⟩ := hfinal
  refine ⟨s, Run.of_foldlM hs, ?_, fun th hth => ?_, by decide +kernel, by decide, ?_⟩
  · rw [hreceived]
    exact List.mem_singleton_self _
  · have hmem := List.mem_map_of_mem (f := Thread.receiving sampleFix) hth
    rw [hthreads] at hmem
    exact List.mem_singleton.mp hmem
  · unfold Accounted
    rw [hpending, hverdicts, hexpired, htrimmed]
    simp

end DeliveryTracking.Traccar
