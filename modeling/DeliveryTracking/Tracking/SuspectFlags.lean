/-
# `DeliveryTracking.Tracking.SuspectFlags` — one by one, or in one batch

`savePosition` measures a phone fix from the last trusted position of its vehicle,
`saveBatch` from the position before it, trusted or not.  Both ask
`evaluateTeleportation`.  So the suspect flags agree exactly when, wherever the
two reference points differ, the fix gets the same verdict from either
(`suspectFlags_agree_iff`); in particular when no fix is a jump from the one
before it and the stored history ends on a trusted phone position
(`sameVerdicts_of_chain`).
-/
import DeliveryTracking.Runs
import DeliveryTracking.Tracking.SaveBatch

namespace DeliveryTracking.Tracking

open Geo

variable {R : Type}

/-! ## The two reference points -/

/-- The points a vehicle's next fix can be measured from. -/
structure References (R : Type) where
  /-- The last trusted position, and its source. -/
  trusted : Option (PositionSource × TeleportReference R)
  /-- The last trusted position of the phone. -/
  phone : Option (TeleportReference R)
  /-- The last position. -/
  previous : Option (TeleportReference R)

/-- The references a table gives. -/
def references (t : PositionTable R) (v : String) (previous : Option (TeleportReference R)) :
    References R :=
  { trusted := (getLastPosition t v true).map fun p => (p.source, p.reference)
    phone := (t.latest fun p => p.vehicleId == v && p.source == .phone && !p.suspect).map
      GpsPosition.reference
    previous := previous }

/-- The point `savePosition` measures a phone fix from: the last trusted position, and within
the source-change window after a tracker position the last trusted one of the phone. -/
def References.compared (r : References R) (timestamp : Int) : Option (TeleportReference R) :=
  match r.trusted with
  | none => none
  | some (source, last) =>
    if source ≠ .phone ∧ 0 < timestamp - last.timestamp ∧
        timestamp - last.timestamp ≤ sourceChangeWindow then r.phone
    else some last

/-- A fix as the reference of the next. -/
def UpdatePositionDto.reference (pos : UpdatePositionDto R) : TeleportReference R :=
  { latitude := pos.latitude, longitude := pos.longitude, timestamp := pos.timestamp,
    speed := pos.speed, accuracy := pos.accuracy }

/-- The references after a phone fix. -/
def References.next (r : References R) (pos : UpdatePositionDto R) (suspect : Bool) :
    References R :=
  { trusted := if suspect then r.trusted else some (.phone, pos.reference)
    phone := if suspect then r.phone else some pos.reference
    previous := some pos.reference }

variable [Field R] [LinearOrder R] [JsMath R]

/-- The verdict on a fix from a reference point; without one the fix passes. -/
def verdict (reference : Option (TeleportReference R)) (pos : UpdatePositionDto R) : Bool :=
  match reference with
  | none => false
  | some r =>
    (evaluateTeleportation r pos.latitude pos.longitude pos.timestamp pos.accuracy
      pos.speed).suspect

/-- Each fix gets the same verdict from the two points it can be measured from. -/
def SameVerdicts : References R → List (UpdatePositionDto R) → Prop
  | _, [] => True
  | r, pos :: rest =>
    verdict (r.compared pos.timestamp) pos = verdict r.previous pos ∧
      SameVerdicts (r.next pos (verdict r.previous pos)) rest

/-- No fix is a jump from the one before it. -/
def NoJumps : Option (TeleportReference R) → List (UpdatePositionDto R) → Prop
  | _, [] => True
  | previous, pos :: rest => verdict previous pos = false ∧ NoJumps (some pos.reference) rest

/-- After a trusted phone position, or none, both points stay the fix before as long as no fix
is a jump. -/
theorem sameVerdicts_of_noJumps : ∀ {fixes : List (UpdatePositionDto R)} {r : References R},
    (∀ timestamp, r.compared timestamp = r.previous) → NoJumps r.previous fixes →
      SameVerdicts r fixes
  | [], _, _, _ => trivial
  | pos :: rest, r, hr, h => by
      refine ⟨by rw [hr], ?_⟩
      rw [h.1]
      refine sameVerdicts_of_noJumps ?_ h.2
      intro timestamp
      simp [References.compared, References.next]

/-! ## The two paths -/

/-- The suspect flag stored for a vehicle at a time. -/
def flagIn (rows : List (GpsPosition R)) (v : String) (timestamp : Int) : Option Bool :=
  (rowAt rows v timestamp).map GpsPosition.suspect

/-- Storing fixes one after the other. -/
def saveOneByOne (reg : Registry) (driverId companyId : Option String) (t : PositionTable R)
    (fixes : List (UpdatePositionDto R)) : PositionTable R :=
  fixes.foldl (fun t pos => (savePosition reg driverId pos companyId .phone t).2) t

/-- The fixes with the speed the batch resolves for them. -/
def resolvedFixes (t : PositionTable R) (driverId companyId : String) :
    BatchState R → List (UpdatePositionDto R) → List (UpdatePositionDto R)
  | _, [] => []
  | st, pos :: rest =>
    { pos with speed := some (batchSpeed st pos) } ::
      resolvedFixes t driverId companyId (batchStep t driverId companyId st pos) rest

/-- The state the batch loop starts in. -/
def batchStart (t : PositionTable R) : BatchState R := ⟨dbLast t, fun _ => [], []⟩

/-- Both paths give every fix the same flag. -/
def SameFlags (reg : Registry) (userId driverId : String) (companyId : Option String)
    (t : PositionTable R) (v : String) (fixes : List (UpdatePositionDto R)) : Prop :=
  ∀ pos ∈ fixes,
    flagIn (saveOneByOne reg (some driverId) companyId t
        (resolvedFixes t driverId (companyId.getD "") (batchStart t) fixes)).rows v pos.timestamp
      = flagIn (saveBatch reg userId driverId fixes companyId t).2.rows v pos.timestamp

/-- A fix within 1 s of the latest stored position is a duplicate for both paths, and the others
get the same verdict from both points. -/
def Comparable (t : PositionTable R) (v driverId companyId : String)
    (fixes : List (UpdatePositionDto R)) : Prop :=
  (∀ pos ∈ fixes, nearReference (dbLast t v) pos.timestamp →
    isDuplicateByTimestamp t v pos.deliveryId pos.timestamp) ∧
  SameVerdicts (references t v (dbLast t v))
    ((resolvedFixes t driverId companyId (batchStart t) fixes).filter
      fun pos => !nearReference (dbLast t v) pos.timestamp)

/-! ## One fix -/

section Flags

omit [Field R] [LinearOrder R] [JsMath R]

theorem flagIn_append (xs ys : List (GpsPosition R)) (v : String) (timestamp : Int) :
    flagIn (xs ++ ys) v timestamp = (flagIn xs v timestamp).or (flagIn ys v timestamp) := by
  unfold flagIn
  rw [rowAt_append]
  cases rowAt xs v timestamp <;> rfl

theorem flagIn_singleton {row : GpsPosition R} {v : String} {timestamp : Int}
    (h : row.key = (v, timestamp)) : flagIn [row] v timestamp = some row.suspect := by
  rw [flagIn, rowAt_singleton h, Option.map_some]

theorem flagIn_eq_none {rows : List (GpsPosition R)} {v : String} {timestamp : Int}
    (h : rowAt rows v timestamp = none) : flagIn rows v timestamp = none := by
  rw [flagIn, h, Option.map_none]

theorem flagIn_createMany (t : PositionTable R) (offered : List (GpsPosition R)) (v : String)
    (timestamp : Int) :
    flagIn (t.createMany offered).2.rows v timestamp
      = (flagIn t.rows v timestamp).or (flagIn offered v timestamp) := by
  unfold flagIn
  rw [rowAt_createMany]
  cases rowAt t.rows v timestamp <;> rfl

end Flags

/-- `savePosition` measures a fix from `compared`. -/
theorem detectTeleportation_eq {t : PositionTable R} {pos : UpdatePositionDto R}
    (h : LongBefore t pos.vehicleId pos.timestamp) (previous : Option (TeleportReference R)) :
    detectTeleportation t pos .phone
      = verdict ((references t pos.vehicleId previous).compared pos.timestamp) pos := by
  have hcompared : (teleportReference t pos.vehicleId .phone pos.timestamp).map
      GpsPosition.reference = (references t pos.vehicleId previous).compared pos.timestamp := by
    rw [h.teleportReference_eq]
    unfold comparedWith References.compared references
    cases getLastPosition t pos.vehicleId true with
    | none => rfl
    | some last =>
      show Option.map GpsPosition.reference (if last.source ≠ .phone ∧ _ then _ else _) =
        if last.source ≠ .phone ∧ 0 < pos.timestamp - last.timestamp ∧
          pos.timestamp - last.timestamp ≤ sourceChangeWindow then _ else some last.reference
      rw [apply_ite (Option.map GpsPosition.reference)]
      rfl
  rw [← hcompared, detectTeleportation]
  cases teleportReference t pos.vehicleId .phone pos.timestamp <;> rfl

omit [Field R] [LinearOrder R] [JsMath R] in
/-- The references of the table a later phone fix was added to. -/
theorem references_create {t t' : PositionTable R} {pos : UpdatePositionDto R}
    {driverId : Option String} {companyId : String} {suspect : Bool}
    (hcreate : t.create (pos.row driverId companyId .phone suspect) = some t')
    (h : LongBefore t pos.vehicleId pos.timestamp) (previous : Option (TeleportReference R)) :
    references t' pos.vehicleId (some pos.reference)
      = (references t pos.vehicleId previous).next pos suspect := by
  have hlater : ∀ p ∈ t.rows, p.vehicleId = pos.vehicleId → p.timestamp < pos.timestamp := by
    intro p hp hv
    have hbefore := h p hp hv
    have hskew : dedupClockSkew = 1000 := rfl
    omega
  have htrusted := latest_create_of_later hcreate
    (fun p => p.vehicleId == pos.vehicleId && !(true && p.suspect))
    fun p hp hq => hlater p hp (by simp at hq; exact hq.1)
  have hphone := latest_create_of_later hcreate
    (fun p => p.vehicleId == pos.vehicleId && p.source == .phone && !p.suspect)
    fun p hp hq => hlater p hp (by simp at hq; exact hq.1.1)
  unfold references getLastPosition
  rw [htrusted, hphone]
  cases suspect <;> simp [References.next, UpdatePositionDto.row,
    GpsPosition.reference, UpdatePositionDto.reference]

/-- The batch measures a later fix from the one before. -/
theorem batchSuspect_eq {last : Option (TeleportReference R)} {pos : UpdatePositionDto R}
    (h : ∀ r, last = some r → r.timestamp + dedupClockSkew < pos.timestamp) (speed : R) :
    batchSuspect last pos speed = verdict last { pos with speed := some speed } := by
  cases last with
  | none => rfl
  | some r =>
    have hlater : decide (0 < pos.timestamp - r.timestamp) = true := by
      have hbefore := h r rfl
      have hskew : dedupClockSkew = 1000 := rfl
      exact decide_eq_true (by omega)
    show (decide (0 < pos.timestamp - r.timestamp) && _) = _
    rw [hlater, Bool.true_and]
    rfl

omit [Field R] [LinearOrder R] [JsMath R] in
theorem nearReference_eq_false {reference : Option (TeleportReference R)} {timestamp : Int}
    (h : ∀ r, reference = some r → r.timestamp + dedupClockSkew < timestamp) :
    nearReference reference timestamp = false := by
  cases reference with
  | none => rfl
  | some r =>
    have hbefore := h r rfl
    refine decide_eq_false ?_
    rw [abs_le]
    omega

/-! ## A list of fixes -/

/-- Storing fixes adds rows at their times. -/
theorem saveOneByOne_grows (reg : Registry) (driverId companyId : Option String)
    (fixes : List (UpdatePositionDto R)) (t : PositionTable R) :
    ∃ rows, (saveOneByOne reg driverId companyId t fixes).rows = t.rows ++ rows ∧
      ∀ p ∈ rows, ∃ pos ∈ fixes, p.timestamp = pos.timestamp := by
  refine foldl_appends Table.rows (fun pos p => p.timestamp = pos.timestamp) ?_ fixes t
  intro t pos
  rcases savePosition_cases reg driverId pos companyId .phone t with
    hnone | ⟨c, t', -, -, hcreate, hsome⟩
  · rw [hnone]
    exact ⟨[], (List.append_nil _).symm, by simp⟩
  · rw [hsome]
    refine ⟨_, Table.rows_of_create hcreate, ?_⟩
    intro p hp
    rw [List.mem_singleton.mp hp]
    rfl

/-- The batch loop adds rows at the times of its fixes. -/
theorem batchLoop_grows (t : PositionTable R) (driverId companyId : String)
    (fixes : List (UpdatePositionDto R)) (st : BatchState R) :
    ∃ rows, (fixes.foldl (batchStep t driverId companyId) st).toInsert = st.toInsert ++ rows ∧
      ∀ p ∈ rows, ∃ pos ∈ fixes, p.timestamp = pos.timestamp := by
  refine foldl_appends BatchState.toInsert (fun pos p => p.timestamp = pos.timestamp) ?_ fixes st
  intro st pos
  unfold batchStep
  split
  · exact ⟨[], (List.append_nil _).symm, by simp⟩
  · refine ⟨_, rfl, ?_⟩
    intro p hp
    rw [List.mem_singleton.mp hp]

/-- Resolving the speeds keeps the times. -/
theorem resolvedFixes_times (t : PositionTable R) (driverId companyId : String) :
    ∀ (fixes : List (UpdatePositionDto R)) (st : BatchState R),
      (resolvedFixes t driverId companyId st fixes).map UpdatePositionDto.timestamp
        = fixes.map UpdatePositionDto.timestamp
  | [], _ => rfl
  | pos :: rest, st => by
      rw [resolvedFixes, List.map_cons, resolvedFixes_times t driverId companyId rest]
      rfl

theorem resolvedFixes_far {t : PositionTable R} {v driverId companyId : String}
    {st : BatchState R} {fixes : List (UpdatePositionDto R)}
    (h : ∀ pos ∈ fixes, nearReference (dbLast t v) pos.timestamp = false) :
    (resolvedFixes t driverId companyId st fixes).filter
        (fun pos => !nearReference (dbLast t v) pos.timestamp)
      = resolvedFixes t driverId companyId st fixes := by
  refine List.filter_eq_self.mpr fun pos hpos => ?_
  have hmem := List.mem_map_of_mem (f := UpdatePositionDto.timestamp) hpos
  rw [resolvedFixes_times] at hmem
  obtain ⟨q, hq, heq⟩ := List.mem_map.mp hmem
  rw [← heq, h q hq]
  rfl

/-- A time none of the fixes has stays without a flag. -/
theorem flagIn_oneByOne_none {reg : Registry} {driverId companyId : Option String}
    {t : PositionTable R} {v : String} {timestamp : Int} {fixes : List (UpdatePositionDto R)}
    (hnone : flagIn t.rows v timestamp = none)
    (h : timestamp ∉ fixes.map UpdatePositionDto.timestamp) :
    flagIn (saveOneByOne reg driverId companyId t fixes).rows v timestamp = none := by
  obtain ⟨rows, hrows, htimes⟩ := saveOneByOne_grows reg driverId companyId fixes t
  rw [hrows, flagIn_append, hnone, Option.none_or]
  refine flagIn_eq_none <| rowAt_eq_none fun p hp _ heq => h ?_
  obtain ⟨pos, hpos, htime⟩ := htimes p hp
  rw [← heq, htime]
  exact List.mem_map_of_mem hpos

theorem flagIn_batch_none {t : PositionTable R} {driverId companyId v : String}
    {st : BatchState R} {timestamp : Int} {fixes : List (UpdatePositionDto R)}
    (hnone : flagIn st.toInsert v timestamp = none)
    (h : timestamp ∉ fixes.map UpdatePositionDto.timestamp) :
    flagIn (fixes.foldl (batchStep t driverId companyId) st).toInsert v timestamp = none := by
  obtain ⟨rows, hrows, htimes⟩ := batchLoop_grows t driverId companyId fixes st
  rw [hrows, flagIn_append, hnone, Option.none_or]
  refine flagIn_eq_none <| rowAt_eq_none fun p hp _ heq => h ?_
  obtain ⟨pos, hpos, htime⟩ := htimes p hp
  rw [← heq, htime]
  exact List.mem_map_of_mem hpos

section Agreement

variable (reg : Registry) (userId driverId c : String) (companyId : Option String)
  {t₀ : PositionTable R} {v : String}

/-- A fix with its delivery as `saveBatch` keeps it. -/
def detached (pos : UpdatePositionDto R) : UpdatePositionDto R :=
  { pos with deliveryId := detachDelivery reg userId driverId pos.deliveryId }

/-- A fix long after all both paths know of its vehicle. -/
structure Fresh (t₀ t : PositionTable R) (v : String) (last : Option (TeleportReference R))
    (pos : UpdatePositionDto R) : Prop where
  vehicle : pos.vehicleId = v
  stored : LongBefore t v pos.timestamp
  previous : ∀ r, last = some r → r.timestamp + dedupClockSkew < pos.timestamp
  db : ∀ r, dbLast t₀ v = some r → r.timestamp + dedupClockSkew < pos.timestamp

/-- The batch keeps a fresh fix. -/
theorem Fresh.batchStep_eq {t : PositionTable R} {st : BatchState R} {pos : UpdatePositionDto R}
    (h : Fresh t₀ t v (st.last v) pos) :
    batchStep t₀ driverId c st pos = batchKeep driverId c st pos := by
  refine if_neg ?_
  rw [h.vehicle, nearReference_eq_false h.previous, nearReference_eq_false h.db]
  simp

/-- The batch treats a fix alike with and without its delivery. -/
theorem batchKeep_detached {st st' : BatchState R} (hlast : st'.last = st.last)
    (hhistory : st'.speedHistory = st.speedHistory) (pos : UpdatePositionDto R) :
    (batchKeep driverId c st' (detached reg userId driverId pos)).last
      = (batchKeep driverId c st pos).last ∧
    (batchKeep driverId c st' (detached reg userId driverId pos)).speedHistory
      = (batchKeep driverId c st pos).speedHistory ∧
    ∃ row, (batchKeep driverId c st' (detached reg userId driverId pos)).toInsert
        = st'.toInsert ++ [row] ∧ row.key = (pos.vehicleId, pos.timestamp) ∧
      row.suspect = batchSuspect (st.last pos.vehicleId) pos (batchSpeed st pos) := by
  have hspeed : batchSpeed st' (detached reg userId driverId pos) = batchSpeed st pos := by
    unfold batchSpeed
    rw [hlast, hhistory]
    rfl
  have hsuspect : batchSuspect (st'.last pos.vehicleId) (detached reg userId driverId pos)
      (batchSpeed st' (detached reg userId driverId pos))
      = batchSuspect (st.last pos.vehicleId) pos (batchSpeed st pos) := by
    rw [hspeed, hlast]
    rfl
  refine ⟨?_, ?_, _, rfl, rfl, hsuspect⟩
  · simp only [batchKeep, hspeed, hlast]
    rfl
  · have hsuspect' := hsuspect
    simp only [detached] at hsuspect'
    simp only [batchKeep, detached, hsuspect', hhistory]
    rfl

theorem batchLoop_cons {t : PositionTable R} {st st' : BatchState R} {pos : UpdatePositionDto R}
    (hlast : st'.last = st.last) (h : Fresh t₀ t v (st.last v) pos)
    (rest : List (UpdatePositionDto R)) :
    ((pos :: rest).map (detached reg userId driverId)).foldl (batchStep t₀ driverId c) st'
      = (rest.map (detached reg userId driverId)).foldl (batchStep t₀ driverId c)
          (batchKeep driverId c st' (detached reg userId driverId pos)) := by
  have h' : Fresh t₀ t v (st'.last v) (detached reg userId driverId pos) := by
    rw [hlast]
    exact ⟨h.vehicle, h.stored, h.previous, h.db⟩
  rw [List.map_cons, List.foldl_cons, h'.batchStep_eq]

/-- What the batch leaves under the time of the first of its fixes. -/
theorem flagIn_batch {t : PositionTable R} {st st' : BatchState R} {pos : UpdatePositionDto R}
    {rest : List (UpdatePositionDto R)} (hlast : st'.last = st.last)
    (hhistory : st'.speedHistory = st.speedHistory) (h : Fresh t₀ t v (st.last v) pos)
    (hnone : flagIn st'.toInsert v pos.timestamp = none) :
    flagIn (((pos :: rest).map (detached reg userId driverId)).foldl (batchStep t₀ driverId c)
        st').toInsert v pos.timestamp
      = some (verdict (st.last v) { pos with speed := some (batchSpeed st pos) }) := by
  obtain ⟨-, -, row, hinsert, hkey, hsuspect⟩ :=
    batchKeep_detached reg userId driverId c hlast hhistory pos
  obtain ⟨rows, hrows, -⟩ := batchLoop_grows t₀ driverId c (rest.map (detached reg userId driverId))
    (batchKeep driverId c st' (detached reg userId driverId pos))
  rw [h.vehicle] at hkey hsuspect
  rw [batchLoop_cons reg userId driverId c hlast h, hrows, hinsert, flagIn_append, flagIn_append,
    hnone, flagIn_singleton hkey, hsuspect, batchSuspect_eq h.previous]
  rfl

/-- What storing one by one leaves under the time of the first of its fixes. -/
theorem flagIn_oneByOne {t t' : PositionTable R} {pos : UpdatePositionDto R} {suspect : Bool}
    (hv : pos.vehicleId = v) (h : LongBefore t v pos.timestamp)
    (hcreate : t.create (pos.row (some driverId) c .phone suspect) = some t')
    (rest : List (UpdatePositionDto R)) :
    flagIn (saveOneByOne reg (some driverId) companyId t' rest).rows v pos.timestamp
      = some suspect := by
  obtain ⟨rows, hrows, -⟩ := saveOneByOne_grows reg (some driverId) companyId rest t'
  have hkey : (pos.row (some driverId) c .phone suspect).key = (v, pos.timestamp) := by
    rw [← hv]
    rfl
  rw [hrows, Table.rows_of_create hcreate, flagIn_append, flagIn_append, flagIn_eq_none h.rowAt_eq_none,
    flagIn_singleton hkey]
  rfl

omit [Field R] [LinearOrder R] [JsMath R] in
/-- After a fix, the later ones are still fresh. -/
theorem Fresh.next {t t' : PositionTable R} {last : Option (TeleportReference R)}
    {pos next : UpdatePositionDto R} {driver : Option String} {owner : String} {suspect : Bool}
    (h : Fresh t₀ t v last next) (hapart : pos.timestamp + dedupClockSkew < next.timestamp)
    (hcreate : t.create (pos.row driver owner .phone suspect) = some t') (speed : Option R) :
    Fresh t₀ t' v (some (UpdatePositionDto.reference { pos with speed := speed })) next :=
  ⟨h.vehicle, h.stored.create hcreate hapart, by
    rintro r ⟨rfl⟩
    exact hapart, h.db⟩

/-- Both paths on fresh fixes, from states with the same references. -/
theorem sameFlags_fresh : ∀ (fixes : List (UpdatePositionDto R)) (t : PositionTable R)
    (st st' : BatchState R), st'.last = st.last → st'.speedHistory = st.speedHistory →
    (∀ pos ∈ fixes, (admitPosition reg pos companyId .phone).isSome) →
    (∀ pos ∈ fixes, Fresh t₀ t v (st.last v) pos) →
    (∀ pos ∈ fixes, flagIn st'.toInsert v pos.timestamp = none) →
    fixes.Pairwise (fun a b => a.timestamp + dedupClockSkew < b.timestamp) →
    ((∀ pos ∈ fixes,
        flagIn (saveOneByOne reg (some driverId) companyId t
          (resolvedFixes t₀ driverId c st fixes)).rows v pos.timestamp
        = flagIn ((fixes.map (detached reg userId driverId)).foldl
            (batchStep t₀ driverId c) st').toInsert v pos.timestamp) ↔
      SameVerdicts (references t v (st.last v)) (resolvedFixes t₀ driverId c st fixes))
  | [], _, _, _, _, _, _, _, _, _ => by simp [resolvedFixes, SameVerdicts]
  | pos :: rest, t, st, st', hlast, hhistory, hallowed, hfresh, hnone, hapart => by
      have hpos := hfresh pos (List.mem_cons_self ..)
      obtain ⟨hlater, hrest⟩ := List.pairwise_cons.mp hapart
      obtain ⟨owner, howner⟩ :=
        Option.isSome_iff_exists.mp (hallowed pos (List.mem_cons_self ..))
      let fix : UpdatePositionDto R := { pos with speed := some (batchSpeed st pos) }
      have hstored : LongBefore t fix.vehicleId fix.timestamp := by
        show LongBefore t pos.vehicleId pos.timestamp
        rw [hpos.vehicle]
        exact hpos.stored
      have howner' : admitPosition reg fix companyId .phone = some owner := howner
      obtain ⟨t', hcreate, hsave⟩ := savePosition_of_longBefore howner' hstored (some driverId)
      have hdetect : detectTeleportation t fix .phone
          = verdict ((references t v (st.last v)).compared fix.timestamp) fix := by
        rw [← hpos.vehicle]
        exact detectTeleportation_eq hstored (st.last pos.vehicleId)
      let st₁ := batchKeep driverId c st pos
      have hresolved : resolvedFixes t₀ driverId c st (pos :: rest)
          = fix :: resolvedFixes t₀ driverId c st₁ rest := by
        rw [resolvedFixes, hpos.batchStep_eq]
      have hlive : saveOneByOne reg (some driverId) companyId t
            (fix :: resolvedFixes t₀ driverId c st₁ rest)
          = saveOneByOne reg (some driverId) companyId t' (resolvedFixes t₀ driverId c st₁ rest) := by
        show saveOneByOne reg (some driverId) companyId
          (savePosition reg (some driverId) fix companyId .phone t).2 _ = _
        rw [hsave]
      have hflag := flagIn_oneByOne reg driverId owner companyId
        (show fix.vehicleId = v from hpos.vehicle) hpos.stored hcreate
        (resolvedFixes t₀ driverId c st₁ rest)
      -- the first fix, then the others from the next references
      rw [hresolved, hlive, List.forall_mem_cons, SameVerdicts]
      rw [show flagIn _ v pos.timestamp = _ from hflag,
        flagIn_batch reg userId driverId c hlast hhistory hpos
          (hnone pos (List.mem_cons_self ..)), Option.some_inj, hdetect]
      refine and_congr_right fun hverdict => ?_
      obtain ⟨hlast₁, hhistory₁, row, hinsert, hkey, -⟩ :=
        batchKeep_detached reg userId driverId c hlast hhistory pos
      have hst₁ : st₁.last v = some fix.reference := by
        rw [← hpos.vehicle]
        exact Function.update_self ..
      have hrefs : references t' v (st₁.last v)
          = (references t v (st.last v)).next fix (verdict (st.last v) fix) := by
        rw [hst₁, ← hverdict, ← hdetect, ← hpos.vehicle]
        exact references_create hcreate hstored (st.last pos.vehicleId)
      have ih := sameFlags_fresh rest t' st₁
        (batchKeep driverId c st' (detached reg userId driverId pos)) hlast₁ hhistory₁
        (fun p hp => hallowed p (List.mem_cons_of_mem _ hp))
        (fun p hp => by
          rw [hst₁]
          have hsame := Fresh.next (hfresh p (List.mem_cons_of_mem _ hp))
            (show fix.timestamp + dedupClockSkew < p.timestamp from hlater p hp) hcreate fix.speed
          exact hsame)
        (fun p hp => by
          have hother : row.key ≠ (v, p.timestamp) := by
            rw [hkey]
            intro heq
            have hp' := hlater p hp
            have hskew : dedupClockSkew = 1000 := rfl
            have := (Prod.mk.inj heq).2
            omega
          rw [hinsert, flagIn_append, hnone p (List.mem_cons_of_mem _ hp)]
          simp [flagIn, rowAt, hother])
        hrest
      rw [hrefs] at ih
      rw [batchLoop_cons reg userId driverId c hlast hpos]
      exact ih

omit [Field R] [LinearOrder R] [JsMath R] in
/-- A position `savePosition` accepts from a phone passes the checks of the batch. -/
theorem validVehicle_of_admit {pos : UpdatePositionDto R}
    (h : (admitPosition reg pos companyId .phone).isSome) :
    malformedId pos.vehicleId = false ∧ validVehicle reg companyId pos.vehicleId = true := by
  obtain ⟨c, hc⟩ := Option.isSome_iff_exists.mp h
  obtain ⟨hid, vehicle, hmem, hname, hdeleted, hactive, howner, hphone⟩ := admitPosition_cases hc
  refine ⟨hid, List.any_eq_true.mpr ⟨vehicle, hmem, ?_⟩⟩
  rw [hname, hdeleted, hactive, hphone rfl]
  cases companyId with
  | none => simp
  | some owner =>
    rcases howner owner rfl with rfl | howner
    · simp
    · simp [howner]

/-- Phone fixes of one vehicle that `savePosition` accepts, later than its stored positions and
more than 1 s apart. -/
structure LaterFixes (t : PositionTable R) (v : String) (fixes : List (UpdatePositionDto R)) :
    Prop where
  vehicle : ∀ pos ∈ fixes, pos.vehicleId = v
  allowed : ∀ pos ∈ fixes, (admitPosition reg pos companyId .phone).isSome
  later : ∀ p ∈ t.rows, p.vehicleId = v → ∀ pos ∈ fixes, p.timestamp < pos.timestamp
  apart : fixes.Pairwise fun a b => a.timestamp + dedupClockSkew < b.timestamp

variable {reg companyId} {t : PositionTable R} {pos : UpdatePositionDto R}
  {fixes rest : List (UpdatePositionDto R)}

omit [Field R] [LinearOrder R] [JsMath R] in
theorem LaterFixes.tail (h : LaterFixes reg companyId t v (pos :: rest)) :
    LaterFixes reg companyId t v rest :=
  ⟨fun p hp => h.vehicle p (List.mem_cons_of_mem _ hp),
    fun p hp => h.allowed p (List.mem_cons_of_mem _ hp),
    fun q hq hqv p hp => h.later q hq hqv p (List.mem_cons_of_mem _ hp),
    (List.pairwise_cons.mp h.apart).2⟩

omit [Field R] [LinearOrder R] [JsMath R] in
theorem LaterFixes.notMem_times (h : LaterFixes reg companyId t v (pos :: rest)) :
    pos.timestamp ∉ rest.map UpdatePositionDto.timestamp := by
  intro hmem
  obtain ⟨p, hp, heq⟩ := List.mem_map.mp hmem
  have hapart := (List.pairwise_cons.mp h.apart).1 p hp
  have hskew : dedupClockSkew = 1000 := rfl
  omega

omit [Field R] [LinearOrder R] [JsMath R] in
theorem LaterFixes.stored_none (h : LaterFixes reg companyId t v fixes) :
    ∀ p ∈ fixes, flagIn t.rows v p.timestamp = none := by
  intro p hp
  refine flagIn_eq_none <| rowAt_eq_none fun q hq hqv => ?_
  have hbefore := h.later q hq hqv p hp
  omega

omit [Field R] [LinearOrder R] [JsMath R] in
theorem LaterFixes.dbLast_lt (h : LaterFixes reg companyId t v fixes) :
    ∀ p ∈ fixes, ∀ r, dbLast t v = some r → r.timestamp < p.timestamp := by
  intro p hp r hr
  obtain ⟨q, hq, rfl⟩ := Option.map_eq_some_iff.mp hr
  obtain ⟨hmem, hqv⟩ := mem_of_latest hq
  exact h.later q hmem (by simpa using hqv) p hp

omit [Field R] [LinearOrder R] [JsMath R] in
/-- A fix away from the latest stored position is fresh. -/
theorem LaterFixes.fresh (h : LaterFixes reg companyId t v fixes) (hpos : pos ∈ fixes)
    (hfar : nearReference (dbLast t v) pos.timestamp = false) :
    Fresh t t v ((batchStart t).last v) pos := by
  have hdb : ∀ r, dbLast t v = some r → r.timestamp + dedupClockSkew < pos.timestamp := by
    intro r hr
    have hbefore := h.dbLast_lt pos hpos r hr
    rw [hr] at hfar
    have hfar' := of_decide_eq_false hfar
    rw [abs_of_nonneg (by omega)] at hfar'
    omega
  exact ⟨h.vehicle pos hpos, longBefore_iff.mpr hdb, hdb, hdb⟩

omit [Field R] [LinearOrder R] [JsMath R] in
/-- Only the first fix can be near the latest stored position. -/
theorem LaterFixes.rest_far (h : LaterFixes reg companyId t v (pos :: rest)) :
    ∀ p ∈ rest, nearReference (dbLast t v) p.timestamp = false := by
  intro p hp
  refine nearReference_eq_false fun r hr => ?_
  have hbefore := h.dbLast_lt pos (List.mem_cons_self ..) r hr
  have hapart := (List.pairwise_cons.mp h.apart).1 p hp
  omega

omit [Field R] [LinearOrder R] [JsMath R] in
/-- Accepted fixes in time order are all valid, and the sort leaves them in place. -/
theorem LaterFixes.sorted (h : LaterFixes reg companyId t v fixes) :
    sortedPositions reg userId driverId companyId fixes
      = fixes.map (detached reg userId driverId) := by
  have hvalid : validPositions reg userId driverId companyId fixes
      = fixes.map (detached reg userId driverId) := by
    have hall : fixes.filter (fun pos => !malformedId pos.vehicleId &&
        validVehicle reg companyId pos.vehicleId) = fixes := by
      refine List.filter_eq_self.mpr fun pos hpos => ?_
      obtain ⟨hid, hvehicle⟩ := validVehicle_of_admit reg companyId (h.allowed pos hpos)
      rw [hid, hvehicle]
      rfl
    rw [validPositions, hall]
    rfl
  rw [sortedPositions, hvalid]
  refine List.Pairwise.insertionSort_eq
    (List.pairwise_map.mpr (h.apart.imp fun {a b} hab => ?_))
  show a.timestamp ≤ b.timestamp
  have hskew : dedupClockSkew = 1000 := rfl
  omega

/-- The flags `saveBatch` stores are those of its loop. -/
theorem LaterFixes.flagIn_saveBatch (h : LaterFixes reg companyId t v fixes) :
    ∀ p ∈ fixes, flagIn (saveBatch reg userId driverId fixes companyId t).2.rows v p.timestamp =
      flagIn ((fixes.map (detached reg userId driverId)).foldl
        (batchStep t driverId (companyId.getD "")) (batchStart t)).toInsert v p.timestamp := by
  intro p hp
  rw [saveBatch, flagIn_createMany, h.stored_none p hp, Option.none_or, h.sorted userId driverId]
  rfl

theorem LaterFixes.sameFlags_of_far (h : LaterFixes reg companyId t v fixes)
    (hfar : ∀ p ∈ fixes, nearReference (dbLast t v) p.timestamp = false) :
    SameFlags reg userId driverId companyId t v fixes ↔
      Comparable t v driverId (companyId.getD "") fixes := by
  have hfresh := sameFlags_fresh reg userId driverId (companyId.getD "") companyId fixes t
    (batchStart t) (batchStart t) rfl rfl h.allowed (fun p hp => h.fresh hp (hfar p hp))
    (fun _ _ => rfl) h.apart
  have hflags : SameFlags reg userId driverId companyId t v fixes ↔ _ :=
    (forall₂_congr fun p hp => by rw [h.flagIn_saveBatch userId driverId p hp]).trans hfresh
  rw [hflags, Comparable, resolvedFixes_far hfar]
  refine (and_iff_right fun p hp hnear => ?_).symm
  rw [hfar p hp] at hnear
  cases hnear

/-- The first fix is near the latest stored position: the batch drops it, and the other path
has to drop it too. -/
theorem LaterFixes.sameFlags_of_near (h : LaterFixes reg companyId t v (pos :: rest))
    (hnear : nearReference (dbLast t v) pos.timestamp = true) :
    SameFlags reg userId driverId companyId t v (pos :: rest) ↔
      Comparable t v driverId (companyId.getD "") (pos :: rest) := by
  have hv : pos.vehicleId = v := h.vehicle pos (List.mem_cons_self ..)
  have hskip : ∀ p : UpdatePositionDto R, p.vehicleId = v → p.timestamp = pos.timestamp →
      batchStep t driverId (companyId.getD "") (batchStart t) p = batchStart t := by
    rintro p rfl hp
    refine if_pos (Or.inl ?_)
    rw [hp]
    exact hnear
  let fix : UpdatePositionDto R := { pos with speed := some (batchSpeed (batchStart t) pos) }
  let live := resolvedFixes t driverId (companyId.getD "") (batchStart t) rest
  have hresolved : resolvedFixes t driverId (companyId.getD "") (batchStart t) (pos :: rest)
      = fix :: live := by
    rw [resolvedFixes, hskip pos hv rfl]
  have hkept : (fix :: live).filter (fun p => !nearReference (dbLast t v) p.timestamp) = live := by
    rw [List.filter_cons_of_neg (by simpa using hnear), resolvedFixes_far h.rest_far]
  let batch := ((rest.map (detached reg userId driverId)).foldl
    (batchStep t driverId (companyId.getD "")) (batchStart t)).toInsert
  have hflags : SameFlags reg userId driverId companyId t v (pos :: rest) ↔
      ∀ p ∈ pos :: rest, flagIn (saveOneByOne reg (some driverId) companyId
          (savePosition reg (some driverId) fix companyId .phone t).2 live).rows v p.timestamp
        = flagIn batch v p.timestamp := by
    refine forall₂_congr fun p hp => ?_
    rw [h.flagIn_saveBatch userId driverId p hp, List.map_cons, List.foldl_cons,
      hskip (detached reg userId driverId pos) hv rfl, hresolved]
    rfl
  have hbatchNone : flagIn batch v pos.timestamp = none := by
    refine flagIn_batch_none rfl ?_
    rw [List.map_map]
    exact h.notMem_times
  rw [hflags, Comparable, hresolved, hkept, List.forall_mem_cons, List.forall_mem_cons, hbatchNone]
  cases hdup : isDuplicateByTimestamp t v pos.deliveryId pos.timestamp with
  | true =>
    have hdropped : (savePosition reg (some driverId) fix companyId .phone t).2 = t := by
      rcases savePosition_cases reg (some driverId) fix companyId .phone t with
        hnone | ⟨_, _, -, hnodup, -, -⟩
      · rw [hnone]
      · rw [← hv] at hdup
        exact absurd (hdup.symm.trans hnodup) (by decide)
    have hnone : flagIn (saveOneByOne reg (some driverId) companyId t live).rows v pos.timestamp
        = none := by
      refine flagIn_oneByOne_none (h.stored_none pos (List.mem_cons_self ..)) ?_
      rw [resolvedFixes_times]
      exact h.notMem_times
    have hrest := sameFlags_fresh reg userId driverId (companyId.getD "") companyId rest t
      (batchStart t) (batchStart t) rfl rfl h.tail.allowed
      (fun p hp => h.tail.fresh hp (h.rest_far p hp)) (fun _ _ => rfl) h.tail.apart
    rw [hdropped, hnone]
    refine and_congr (iff_of_true rfl ⟨fun _ => rfl, fun p hp hnear' => ?_⟩) hrest
    rw [h.rest_far p hp] at hnear'
    cases hnear'
  | false =>
    -- stored by `savePosition` only
    refine iff_of_false ?_ ?_
    · rintro ⟨hhead, -⟩
      obtain ⟨owner, howner⟩ :=
        Option.isSome_iff_exists.mp (h.allowed pos (List.mem_cons_self ..))
      have howner' : admitPosition reg fix companyId .phone = some owner := howner
      have hnodup : isDuplicateByTimestamp t fix.vehicleId fix.deliveryId fix.timestamp
          = false := by
        rw [← hv] at hdup
        exact hdup
      obtain ⟨t', hcreate, hsave⟩ := savePosition_of_new howner' hnodup
        (fun p hp hpv => (h.later p hp (hpv.trans hv) pos (List.mem_cons_self ..)).ne)
        (some driverId)
      obtain ⟨rows, hrows, -⟩ := saveOneByOne_grows reg (some driverId) companyId live t'
      have hkey : (fix.row (some driverId) owner .phone
          (detectTeleportation t fix .phone)).key = (v, pos.timestamp) := by
        rw [← hv]
        rfl
      rw [hsave, hrows, Table.rows_of_create hcreate, flagIn_append, flagIn_append,
        h.stored_none pos (List.mem_cons_self ..), flagIn_singleton hkey] at hhead
      cases hhead
    · rintro ⟨⟨hpos, -⟩, -⟩
      cases hpos hnear

/-- **One by one and in one batch, phone fixes get the same suspect flags exactly when the two
points they are measured from give the same verdicts.** -/
theorem suspectFlags_agree_iff (h : LaterFixes reg companyId t v fixes) :
    SameFlags reg userId driverId companyId t v fixes ↔
      Comparable t v driverId (companyId.getD "") fixes := by
  cases fixes with
  | nil => exact h.sameFlags_of_far userId driverId (by simp)
  | cons pos rest =>
    cases hnear : nearReference (dbLast t v) pos.timestamp with
    | true => exact h.sameFlags_of_near userId driverId hnear
    | false =>
      exact h.sameFlags_of_far userId driverId (List.forall_mem_cons.mpr ⟨hnear, h.rest_far⟩)

end Agreement

/-! ### There, away, and back -/

/-- A place, 111 km to the north 10 s later, and back after 10 s more. -/
def jumpFixes : List (UpdatePositionDto ℚ) :=
  [sampleFix (-19) 1000, sampleFix (-18) 11000, sampleFix (-19) 21000]

theorem jumpFixes_agree_iff :
    LaterFixes sampleRegistry (some "c1") (.empty : PositionTable ℚ) sampleVehicleId jumpFixes ∧
    (SameFlags sampleRegistry "u1" "d1" (some "c1") .empty sampleVehicleId jumpFixes ↔
      Comparable .empty sampleVehicleId "d1" "c1" jumpFixes) := by
  have h : LaterFixes sampleRegistry (some "c1") (.empty : PositionTable ℚ) sampleVehicleId
      jumpFixes :=
    ⟨by decide, by decide, by decide, by decide⟩
  exact ⟨h, suspectFlags_agree_iff "u1" "d1" h⟩

/-- Back from the jump: trusted one by one, where the reference is the first fix; suspect in
the batch, where it is the jump. -/
theorem jump_back_flags :
    LaterFixes sampleRegistry (some "c1") (.empty : PositionTable ℚ) sampleVehicleId jumpFixes ∧
    flagIn (saveOneByOne sampleRegistry (some "d1") (some "c1") .empty
      (resolvedFixes .empty "d1" "c1" (batchStart .empty) jumpFixes)).rows sampleVehicleId 21000
        = some false ∧
    flagIn (saveBatch sampleRegistry "u1" "d1" jumpFixes (some "c1") .empty).2.rows
        sampleVehicleId 21000 = some true ∧
    ¬ SameFlags sampleRegistry "u1" "d1" (some "c1") .empty sampleVehicleId jumpFixes := by
  have hlive : flagIn (saveOneByOne sampleRegistry (some "d1") (some "c1") .empty
      (resolvedFixes .empty "d1" "c1" (batchStart .empty) jumpFixes)).rows sampleVehicleId 21000
        = some false := by
    decide +kernel
  have hbatch : flagIn (saveBatch sampleRegistry "u1" "d1" jumpFixes (some "c1") .empty).2.rows
        sampleVehicleId 21000 = some true := by
    decide +kernel
  refine ⟨⟨by decide, by decide, by decide, by decide⟩, hlive, hbatch, ?_⟩
  intro h
  have hsame := h (sampleFix (-19) 21000) (by simp [jumpFixes])
  have hflags : some false = some true := hlive.symm.trans (hsame.trans hbatch)
  exact absurd hflags (by decide)

end DeliveryTracking.Tracking
