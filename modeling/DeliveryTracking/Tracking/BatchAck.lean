/-
# `DeliveryTracking.Tracking.BatchAck` — what a batch acknowledgement accounts for

Phones send their queued positions in batches, over the socket (`batchPosition`)
or by HTTP (`native-batch`), and drop them when the batch is acknowledged.  Both
paths call `validateAndSaveBatch`; with status `ok` it names the positions it
rejected by their index.

    validation       the index is rejected
    vehicle check    nothing is said
    deduplication    a position near it is stored
    conflict         a position of its time is stored

`acknowledged_accounts_iff`: an acknowledged batch accounts for every index
exactly when each validated position is of a vehicle that accepts phone
positions, or has a stored one near it already.
-/
import DeliveryTracking.Tracking.Answer

namespace DeliveryTracking.Tracking

open Geo

variable {R : Type}

/-! ## The batch -/

/-- `isBatchRateLimited`: the batches counted in the current minute, if there are any. -/
def isBatchRateLimited (maxPerMin : Int) (current : Option Int) : Bool :=
  0 < maxPerMin && current.any (maxPerMin ≤ ·)

/-- A call of `validateAndSaveBatch`: `positions` is `none` when it is no array. -/
structure BatchCall (R : Type) where
  userId : String
  companyId : String
  positions : Option (List (RawPosition R))
  now : Int
  maxPerMin : Int
  current : Option Int

structure RejectedPosition where
  index : Nat
  reason : String
  deriving DecidableEq, Repr

inductive BatchResult (R : Type) where
  | rateLimited
  | empty
  | noDriver
  | ok (saved : List (GpsPosition R)) (validatedCount : Nat) (driverId : String)
      (rejected : List RejectedPosition)

/-- `rejected`: the indices whose validation failed, with the reason. -/
def rejectedPositions (results : List (Except String (UpdatePositionDto R))) :
    List RejectedPosition :=
  results.zipIdx.filterMap fun (result, index) =>
    match result with
    | .error reason => some ⟨index, if reason = "" then "invalid" else reason⟩
    | .ok _ => none

/-- `validatedPositions`. -/
def validatedPositions (results : List (Except String (UpdatePositionDto R))) :
    List (UpdatePositionDto R) :=
  results.filterMap Except.toOption

theorem mem_validatedPositions {results : List (Except String (UpdatePositionDto R))}
    {dto : UpdatePositionDto R} : dto ∈ validatedPositions results ↔ .ok dto ∈ results := by
  rw [validatedPositions, List.mem_filterMap]
  constructor
  · rintro ⟨result, hmem, hresult⟩
    cases result with
    | error reason => cases hresult
    | ok dto' =>
      cases hresult
      exact hmem
  · intro h
    exact ⟨.ok dto, h, rfl⟩

/-- An index is rejected exactly when its position failed the validation. -/
theorem exists_rejected_iff {results : List (Except String (UpdatePositionDto R))} {i : Nat} :
    (∃ r ∈ rejectedPositions results, r.index = i) ↔ ∃ reason, results[i]? = some (.error reason) := by
  simp only [rejectedPositions, List.mem_filterMap]
  constructor
  · rintro ⟨r, ⟨⟨result, index⟩, hmem, hr⟩, rfl⟩
    cases result with
    | ok dto => cases hr
    | error reason =>
      cases hr
      exact ⟨reason, List.mem_zipIdx_iff_getElem?.mp hmem⟩
  · rintro ⟨reason, h⟩
    exact ⟨_, ⟨(.error reason, i), List.mem_zipIdx_iff_getElem?.mpr h, rfl⟩, rfl⟩

variable [Field R] [LinearOrder R] [JsMath R]

namespace BatchCall

variable (call : BatchCall R)

/-- The validation of each position. -/
def results (raws : List (RawPosition R)) : List (Except String (UpdatePositionDto R)) :=
  raws.map (validatePosition call.now)

/-- `validateAndSaveBatch`: the result, and the positions after it.  The driver is read before the
batch is saved, from tables of its own. -/
def validateAndSaveBatch (profile save : TrackingDb R) : BatchResult R × PositionTable R :=
  if isBatchRateLimited call.maxPerMin call.current then (.rateLimited, save.positions)
  else
    match call.positions with
    | none => (.empty, save.positions)
    | some raws =>
      if raws = [] then (.empty, save.positions)
      else
        match profile.findDriverByUserId call.userId with
        | none => (.noDriver, save.positions)
        | some driver =>
          let results := call.results raws
          let validated := validatedPositions results
          if validated = [] then
            (.ok [] 0 driver.id (rejectedPositions results), save.positions)
          else
            let (saved, positions) := saveBatch save.registry call.userId driver.id validated
              (some call.companyId) save.positions
            (.ok saved validated.length driver.id (rejectedPositions results), positions)

end BatchCall

/-! ## The answers of the two paths -/

/-- What is emitted to the client of a batch. -/
inductive BatchReply where
  | positionsRejected (reason : String)
  | positionsInvalid (rejected : List RejectedPosition)
  | positionsSaved (count : Nat)
  deriving DecidableEq, Repr

namespace BatchResult

/-- The answers of `handleBatchPosition`. -/
def replies : BatchResult R → List BatchReply
  | .rateLimited => [.positionsRejected "rate_limited"]
  | .noDriver => [.positionsRejected "no_driver"]
  | .empty => [.positionsSaved 0]
  | .ok saved validatedCount _ rejected =>
    (if rejected = [] then [] else [.positionsInvalid rejected]) ++
      [.positionsSaved (if validatedCount = 0 then 0 else saved.length)]

structure NativeAnswer where
  saved : Nat
  duplicates : Nat
  rejected : List RejectedPosition
  deriving DecidableEq, Repr

/-- The answer of `saveNativeBatch`: an error status, or the body of a 200. -/
def native : BatchResult R → Except Nat NativeAnswer
  | .rateLimited => .error 429
  | .empty => .ok ⟨0, 0, []⟩
  | .noDriver => .error 422
  | .ok saved validatedCount _ rejected =>
    .ok ⟨saved.length, validatedCount - saved.length, rejected⟩

/-- Status `ok`. -/
def isOk : BatchResult R → Bool
  | .ok .. => true
  | _ => false

/-- The rows a client is told of. -/
def saved : BatchResult R → List (GpsPosition R)
  | .ok saved _ _ _ => saved
  | _ => []

/-- The indices a client is told of. -/
def told : BatchResult R → List RejectedPosition
  | .ok _ _ _ rejected => rejected
  | _ => []

omit [Field R] [LinearOrder R] [JsMath R] in
theorem exists_of_isOk {result : BatchResult R} (h : result.isOk = true) :
    ∃ count driverId, result = .ok result.saved count driverId result.told := by
  cases result with
  | ok saved count driverId rejected => exact ⟨count, driverId, rfl⟩
  | rateLimited => cases h
  | empty => cases h
  | noDriver => cases h

omit [Field R] [LinearOrder R] [JsMath R] in
/-- The two paths acknowledge the same batches and report the same rejections. -/
theorem native_agrees (result : BatchResult R) :
    ((∃ answer, result.native = .ok answer) ↔ ∃ count, .positionsSaved count ∈ result.replies) ∧
      (∀ answer, result.native = .ok answer → answer.rejected = result.told) ∧
      ∀ rejected, .positionsInvalid rejected ∈ result.replies → rejected = result.told := by
  cases result with
  | rateLimited => simp [native, replies]
  | empty => simp [native, replies, told]
  | noDriver => simp [native, replies]
  | ok saved validatedCount driverId rejected =>
    refine ⟨iff_of_true ⟨_, rfl⟩ ⟨_, List.mem_append_right _ (List.mem_singleton_self _)⟩, ?_, ?_⟩
    · rintro answer ⟨⟩
      rfl
    · intro rejected' h
      rcases List.mem_append.mp h with h | h
      · split at h
        · cases h
        · cases List.mem_singleton.mp h
          rfl
      · cases List.mem_singleton.mp h

end BatchResult

/-! ## What the loop covers -/

/-- A position of the vehicle at most the duplicate window away. -/
def NearStored (rows : List (GpsPosition R)) (vehicleId : String) (timestamp : Int) : Prop :=
  ∃ p ∈ rows, p.vehicleId = vehicleId ∧ |p.timestamp - timestamp| ≤ dedupClockSkew

omit [Field R] [LinearOrder R] [JsMath R] in
theorem NearStored.mono {xs ys : List (GpsPosition R)} {v : String} {timestamp : Int}
    (h : NearStored xs v timestamp) (hsub : ∀ p ∈ xs, ∃ q ∈ ys, q.key = p.key) :
    NearStored ys v timestamp := by
  obtain ⟨p, hp, hv, hnear⟩ := h
  obtain ⟨q, hq, hkey⟩ := hsub p hp
  obtain ⟨hqv, hqt⟩ := Prod.mk.inj hkey
  exact ⟨q, hq, hqv.trans hv, by rw [hqt]; exact hnear⟩

omit [Field R] [LinearOrder R] [JsMath R] in
theorem NearStored.append_left {xs : List (GpsPosition R)} {v : String} {timestamp : Int}
    (h : NearStored xs v timestamp) (ys : List (GpsPosition R)) :
    NearStored (xs ++ ys) v timestamp :=
  h.mono fun p hp => ⟨p, List.mem_append_left _ hp, rfl⟩

/-- The references of the loop are positions stored or to be inserted. -/
def Referenced (t : PositionTable R) (st : BatchState R) : Prop :=
  ∀ v r, st.last v = some r →
    ∃ p ∈ t.rows ++ st.toInsert, p.vehicleId = v ∧ p.timestamp = r.timestamp

omit [Field R] [LinearOrder R] [JsMath R] in
theorem nearStored_of_nearReference {rows : List (GpsPosition R)} {v : String} {timestamp : Int}
    {reference : Option (TeleportReference R)} (h : nearReference reference timestamp = true)
    (href : ∀ r, reference = some r → ∃ p ∈ rows, p.vehicleId = v ∧ p.timestamp = r.timestamp) :
    NearStored rows v timestamp := by
  cases hr : reference with
  | none => rw [hr] at h; cases h
  | some r =>
    rw [hr] at h
    obtain ⟨p, hp, hv, hts⟩ := href r hr
    refine ⟨p, hp, hv, ?_⟩
    rw [hts, abs_sub_comm]
    exact of_decide_eq_true h

omit [Field R] [LinearOrder R] [JsMath R] in
theorem dbLast_stored {t : PositionTable R} {v : String} {r : TeleportReference R}
    (h : dbLast t v = some r) : ∃ p ∈ t.rows, p.vehicleId = v ∧ p.timestamp = r.timestamp := by
  obtain ⟨p, hp, rfl⟩ := Option.map_eq_some_iff.mp h
  obtain ⟨hmem, hq⟩ := mem_of_latest hp
  exact ⟨p, hmem, by simpa using hq, rfl⟩

/-- One turn: the rows to insert grow, the references stay referenced, and the position has one
near it. -/
theorem batchStep_covers {t : PositionTable R} {st : BatchState R} (h : Referenced t st)
    (driverId companyId : String) (pos : UpdatePositionDto R) :
    st.toInsert <+: (batchStep t driverId companyId st pos).toInsert ∧
      Referenced t (batchStep t driverId companyId st pos) ∧
      NearStored (t.rows ++ (batchStep t driverId companyId st pos).toInsert) pos.vehicleId
        pos.timestamp := by
  unfold batchStep
  split
  · rename_i hdup
    refine ⟨List.prefix_rfl, h, ?_⟩
    rcases hdup with hnear | hnear
    · exact nearStored_of_nearReference hnear fun r hr => h _ r hr
    · exact (nearStored_of_nearReference hnear fun r hr => dbLast_stored hr).append_left _
  · have hlast : ∃ p ∈ (batchKeep driverId companyId st pos).toInsert,
        p.vehicleId = pos.vehicleId ∧ p.timestamp = pos.timestamp :=
      ⟨_, List.mem_append_right _ (List.mem_singleton_self _), rfl, rfl⟩
    obtain ⟨p, hp, hv, hts⟩ := hlast
    refine ⟨List.prefix_append _ _, ?_, p, List.mem_append_right _ hp, hv, ?_⟩
    · intro v r hr
      by_cases hvehicle : v = pos.vehicleId
      · subst hvehicle
        simp only [batchKeep, Function.update_self] at hr
        obtain rfl := Option.some.inj hr
        exact ⟨p, List.mem_append_right _ hp, hv, hts⟩
      · simp only [batchKeep, Function.update_of_ne hvehicle] at hr
        obtain ⟨p, hp, hv, hts⟩ := h v r hr
        refine ⟨p, ?_, hv, hts⟩
        rcases List.mem_append.mp hp with hp | hp
        · exact List.mem_append_left _ hp
        · exact List.mem_append_right _ (List.mem_append_left _ hp)
    · rw [hts, sub_self, abs_zero]
      decide

/-- The loop: every position it has walked is near one stored or to be inserted. -/
theorem foldl_batchStep_covers (t : PositionTable R) (driverId companyId : String) :
    ∀ (sorted : List (UpdatePositionDto R)) (st : BatchState R), Referenced t st →
      st.toInsert <+: (sorted.foldl (batchStep t driverId companyId) st).toInsert ∧
      ∀ pos ∈ sorted, NearStored
        (t.rows ++ (sorted.foldl (batchStep t driverId companyId) st).toInsert) pos.vehicleId
        pos.timestamp
  | [], _, _ => ⟨List.prefix_rfl, by simp⟩
  | pos :: sorted, st, h => by
      obtain ⟨hgrow, hreferenced, hnear⟩ := batchStep_covers h driverId companyId pos
      obtain ⟨hgrow', hnear'⟩ :=
        foldl_batchStep_covers t driverId companyId sorted _ hreferenced
      refine ⟨hgrow.trans hgrow', ?_⟩
      intro pos' hpos
      rcases List.mem_cons.mp hpos with rfl | hpos
      · refine hnear.mono fun p hp => ⟨p, ?_, rfl⟩
        rcases List.mem_append.mp hp with hp | hp
        · exact List.mem_append_left _ hp
        · exact List.mem_append_right _ (hgrow'.subset hp)
      · exact hnear' pos' hpos

/-! ## What `saveBatch` stores -/

section Saved

variable (reg : Registry) (userId driverId : String) (positions : List (UpdatePositionDto R))
  (companyId : Option String) (t : PositionTable R)

omit [Field R] [LinearOrder R] [JsMath R] in
/-- The positions walked are those of vehicles that accept them. -/
theorem mem_sortedPositions {pos : UpdatePositionDto R}
    (h : pos ∈ sortedPositions reg userId driverId companyId positions) :
    validVehicle reg companyId pos.vehicleId = true := by
  rw [sortedPositions, List.mem_insertionSort, validPositions] at h
  obtain ⟨pos', hmem, rfl⟩ := List.mem_map.mp h
  have hvalid := (List.mem_filter.mp hmem).2
  simp only [Bool.and_eq_true] at hvalid
  exact hvalid.2

omit [Field R] [LinearOrder R] [JsMath R] in
theorem exists_mem_sortedPositions {pos : UpdatePositionDto R} (hmem : pos ∈ positions)
    (hid : malformedId pos.vehicleId = false)
    (hvalid : validVehicle reg companyId pos.vehicleId = true) :
    ∃ pos' ∈ sortedPositions reg userId driverId companyId positions,
      pos'.vehicleId = pos.vehicleId ∧ pos'.timestamp = pos.timestamp := by
  refine ⟨{ pos with deliveryId := detachDelivery reg userId driverId pos.deliveryId }, ?_, rfl, rfl⟩
  rw [sortedPositions, List.mem_insertionSort, validPositions]
  exact List.mem_map.mpr ⟨pos, List.mem_filter.mpr ⟨hmem, by simp [hid, hvalid]⟩, rfl⟩

/-- What a batch inserts is of vehicles that accept it. -/
theorem validVehicle_of_saved {p : GpsPosition R}
    (h : p ∈ (saveBatch reg userId driverId positions companyId t).1) :
    validVehicle reg companyId p.vehicleId = true := by
  have hoffered : p ∈ (batchLoop t driverId (companyId.getD "")
      (sortedPositions reg userId driverId companyId positions)).toInsert :=
    (Table.createMany_sublist _ _).subset h
  have htime : p.timestamp ∈ rowTimes p.vehicleId (batchLoop t driverId (companyId.getD "")
      (sortedPositions reg userId driverId companyId positions)).toInsert :=
    List.mem_map.mpr ⟨p, List.mem_filter.mpr ⟨hoffered, beq_self_eq_true _⟩, rfl⟩
  rw [batchLoop_times] at htime
  obtain ⟨pos, hpos, -⟩ := List.mem_map.mp (List.mem_filter.mp (mem_of_mem_thin htime)).1
  obtain ⟨hmem, hvehicle⟩ := List.mem_filter.mp hpos
  have hvalid := mem_sortedPositions reg userId driverId positions companyId hmem
  rwa [beq_iff_eq.mp hvehicle] at hvalid

/-- Every position walked is near a stored one after the batch. -/
theorem saveBatch_covers {pos : UpdatePositionDto R}
    (h : pos ∈ sortedPositions reg userId driverId companyId positions) :
    NearStored (saveBatch reg userId driverId positions companyId t).2.rows pos.vehicleId
      pos.timestamp := by
  have hreferenced : Referenced t ⟨dbLast t, fun _ => [], []⟩ := by
    intro v r hr
    obtain ⟨p, hp, hv, hts⟩ := dbLast_stored hr
    exact ⟨p, List.mem_append_left _ hp, hv, hts⟩
  obtain ⟨-, hnear⟩ := foldl_batchStep_covers t driverId (companyId.getD "")
    (sortedPositions reg userId driverId companyId positions) _ hreferenced
  refine (hnear pos h).mono fun p hp => ?_
  have hkey : p.key ∈ (saveBatch reg userId driverId positions companyId t).2.rows.map
      GpsPosition.key := by
    rw [saveBatch, Table.mem_keys_createMany]
    rcases List.mem_append.mp hp with hp | hp
    · exact Or.inl (List.mem_map_of_mem hp)
    · exact Or.inr (List.mem_map_of_mem hp)
  obtain ⟨q, hq, hqkey⟩ := List.mem_map.mp hkey
  exact ⟨q, hq, hqkey⟩

/-- Of a vehicle that accepts no position a batch changes nothing. -/
theorem nearStored_saveBatch_iff {v : String} (h : validVehicle reg companyId v = false)
    (timestamp : Int) :
    NearStored (saveBatch reg userId driverId positions companyId t).2.rows v timestamp ↔
      NearStored t.rows v timestamp := by
  have hrows : (saveBatch reg userId driverId positions companyId t).2.rows
      = t.rows ++ (saveBatch reg userId driverId positions companyId t).1 :=
    Table.rows_createMany _ _
  rw [hrows]
  constructor
  · rintro ⟨p, hp, hv, hnear⟩
    rcases List.mem_append.mp hp with hp | hp
    · exact ⟨p, hp, hv, hnear⟩
    · have hvalid := validVehicle_of_saved reg userId driverId positions companyId t hp
      rw [hv, h] at hvalid
      cases hvalid
  · intro hnear
    exact hnear.append_left _

end Saved

/-! ## The acknowledgement -/

namespace BatchCall

variable {call : BatchCall R} {profile save : TrackingDb R}

/-- The positions sent. -/
def sent (call : BatchCall R) : List (RawPosition R) := call.positions.getD []

/-- An index is rejected, or its position is stored, or one near it is. -/
def Accounted (call : BatchCall R) (result : BatchResult R × PositionTable R) (i : Nat) : Prop :=
  (∃ r ∈ result.1.told, r.index = i) ∨
  ∃ raw dto, call.sent[i]? = some raw ∧ validatePosition call.now raw = .ok dto ∧
    ((∃ p ∈ result.1.saved, p.key = (dto.vehicleId, dto.timestamp) ∧ p.latitude = dto.latitude ∧
        p.longitude = dto.longitude ∧ p.accuracy = dto.accuracy) ∨
      NearStored result.2.rows dto.vehicleId dto.timestamp)

/-- A position of the batch that was validated. -/
def Validated (call : BatchCall R) (dto : UpdatePositionDto R) : Prop :=
  ∃ raw ∈ call.sent, validatePosition call.now raw = .ok dto

/-- What status `ok` says. -/
theorem validateAndSaveBatch_ok {saved : List (GpsPosition R)} {count : Nat} {driverId : String}
    {rejected : List RejectedPosition} {t : PositionTable R}
    (h : call.validateAndSaveBatch profile save = (.ok saved count driverId rejected, t)) :
    rejected = rejectedPositions (call.results call.sent) ∧
      saveBatch save.registry call.userId driverId (validatedPositions (call.results call.sent))
        (some call.companyId) save.positions = (saved, t) := by
  unfold validateAndSaveBatch at h
  unfold sent
  split at h
  · cases h
  split at h
  · cases h
  rename_i raws hraws
  rw [hraws]
  split at h
  · cases h
  split at h
  · cases h
  rename_i driver _
  simp only [Option.getD_some] at h ⊢
  split at h
  · rename_i hempty
    cases h
    exact ⟨rfl, by rw [hempty]; rfl⟩
  · cases h
    exact ⟨rfl, rfl⟩

/-- **An acknowledged batch accounts for every index exactly when each validated position is of a
vehicle that accepts phone positions or has a stored one near it already.** -/
theorem acknowledged_accounts_iff
    (h : (call.validateAndSaveBatch profile save).1.isOk = true) :
    (∀ i < call.sent.length, call.Accounted (call.validateAndSaveBatch profile save) i) ↔
      ∀ dto, call.Validated dto →
        validVehicle save.registry (some call.companyId) dto.vehicleId = true ∨
          NearStored save.positions.rows dto.vehicleId dto.timestamp := by
  obtain ⟨count, driverId, hok⟩ := BatchResult.exists_of_isOk h
  generalize hresult : call.validateAndSaveBatch profile save = result at hok ⊢
  obtain ⟨hrejected, hsave⟩ := validateAndSaveBatch_ok
    (hresult.trans (show result = (_, result.2) from Prod.ext hok rfl))
  have hafter : ∀ dto : UpdatePositionDto R,
      validVehicle save.registry (some call.companyId) dto.vehicleId = false →
      (NearStored result.2.rows dto.vehicleId dto.timestamp ↔
        NearStored save.positions.rows dto.vehicleId dto.timestamp) := by
    intro dto hvehicle
    have hiff := nearStored_saveBatch_iff save.registry call.userId driverId
      (validatedPositions (call.results call.sent)) (some call.companyId) save.positions
      hvehicle dto.timestamp
    rwa [hsave] at hiff
  constructor
  · rintro hall dto ⟨raw, hraw, hvalid⟩
    cases hvehicle : validVehicle save.registry (some call.companyId) dto.vehicleId with
    | true => exact Or.inl rfl
    | false =>
      obtain ⟨i, hi⟩ := List.mem_iff_getElem?.mp hraw
      obtain ⟨hlt, -⟩ := List.getElem?_eq_some_iff.mp hi
      rcases hall i hlt with hreject | ⟨raw', dto', hi', hvalid', hstored⟩
      · rw [hrejected, exists_rejected_iff] at hreject
        obtain ⟨reason, hreason⟩ := hreject
        simp [results, hi, hvalid] at hreason
      · obtain rfl := Option.some.inj (hi.symm.trans hi')
        obtain rfl := Except.ok.inj (hvalid.symm.trans hvalid')
        refine Or.inr ?_
        rcases hstored with ⟨p, hp, hkey, -⟩ | hnear
        · have hpvehicle : validVehicle save.registry (some call.companyId) p.vehicleId = true := by
            refine validVehicle_of_saved save.registry call.userId driverId
              (validatedPositions (call.results call.sent)) (some call.companyId) save.positions ?_
            rw [hsave]
            exact hp
          rw [show p.vehicleId = dto.vehicleId from (Prod.mk.inj hkey).1, hvehicle] at hpvehicle
          cases hpvehicle
        · exact (hafter dto hvehicle).mp hnear
  · intro hall i hi
    obtain ⟨raw, hraw⟩ : ∃ raw, call.sent[i]? = some raw := ⟨_, List.getElem?_eq_getElem hi⟩
    cases hvalid : validatePosition call.now raw with
    | error reason =>
      refine Or.inl ?_
      rw [hrejected, exists_rejected_iff]
      exact ⟨reason, by simp [results, hraw, hvalid]⟩
    | ok dto =>
      refine Or.inr ⟨raw, dto, hraw, hvalid, Or.inr ?_⟩
      cases hvehicle : validVehicle save.registry (some call.companyId) dto.vehicleId with
      | false =>
        rcases hall dto ⟨raw, List.mem_of_getElem? hraw, hvalid⟩ with htrue | hnear
        · rw [hvehicle] at htrue
          cases htrue
        · exact (hafter dto hvehicle).mpr hnear
      | true =>
        have hmem : dto ∈ validatedPositions (call.results call.sent) := by
          rw [mem_validatedPositions, ← hvalid]
          exact List.mem_map_of_mem (List.mem_of_getElem? hraw)
        obtain ⟨pos, hpos, hposvehicle, hpostime⟩ := exists_mem_sortedPositions save.registry
          call.userId driverId (validatedPositions (call.results call.sent)) (some call.companyId)
          hmem (validatePosition_not_malformed hvalid).1 hvehicle
        have hnear := saveBatch_covers save.registry call.userId driverId
          (validatedPositions (call.results call.sent)) (some call.companyId) save.positions hpos
        rwa [hsave, hposvehicle, hpostime] at hnear

end BatchCall

/-! ### A sample batch -/

/-- One fix of the sample vehicle, by its driver. -/
def sampleBatch (timestamp : Int) : BatchCall ℚ :=
  { userId := "u1", companyId := "c1", positions := some [(sampleCall timestamp).raw], now := 10000,
    maxPerMin := 30, current := none }

/-- The sample vehicle, deactivated. -/
def retiredRegistry : Registry :=
  ⟨[⟨sampleVehicleId, "c1", .phone, none, false, none⟩], by decide, [], []⟩

def retiredDb : TrackingDb ℚ := ⟨retiredRegistry, [sampleDriver], .empty⟩

theorem acknowledged_accounts_sample :
    (sampleBatch 9000).sent.length = 1 ∧ ∀ i < (sampleBatch 9000).sent.length,
      (sampleBatch 9000).Accounted ((sampleBatch 9000).validateAndSaveBatch
        (sampleDb [sampleDriver] .empty) (sampleDb [sampleDriver] .empty)) i := by
  refine ⟨rfl, (BatchCall.acknowledged_accounts_iff (by decide +kernel)).mpr ?_⟩
  rintro dto ⟨raw, hraw, hvalid⟩
  have hall : (validatePosition (sampleBatch 9000).now (sampleCall 9000).raw).toOption.all
      (fun dto => validVehicle sampleRegistry (some "c1") dto.vehicleId) = true := by
    decide +kernel
  obtain rfl := List.mem_singleton.mp hraw
  rw [hvalid] at hall
  exact Or.inl hall

/-- The fix of a deactivated vehicle: the batch is acknowledged, and its position is neither
rejected nor stored. -/
theorem acknowledged_drops :
    ((sampleBatch 9000).validateAndSaveBatch retiredDb retiredDb).1.replies = [.positionsSaved 0] ∧
    ¬ ∀ (call : BatchCall ℚ) (profile save : TrackingDb ℚ),
        (call.validateAndSaveBatch profile save).1.isOk = true →
        ∀ i < call.sent.length, call.Accounted (call.validateAndSaveBatch profile save) i := by
  refine ⟨by decide +kernel, fun hall => ?_⟩
  have htold : ((sampleBatch 9000).validateAndSaveBatch retiredDb retiredDb).1.told = [] := by
    decide +kernel
  have hsaved : ((sampleBatch 9000).validateAndSaveBatch retiredDb retiredDb).1.saved = [] := by
    decide +kernel
  have hrows : ((sampleBatch 9000).validateAndSaveBatch retiredDb retiredDb).2.rows = [] := by
    decide +kernel
  rcases hall (sampleBatch 9000) retiredDb retiredDb (by decide +kernel) 0 (by decide) with
    ⟨r, hr, -⟩ | ⟨raw, dto, -, -, ⟨p, hp, -⟩ | ⟨p, hp, -⟩⟩
  · rw [htold] at hr
    cases hr
  · rw [hsaved] at hp
    cases hp
  · rw [hrows] at hp
    cases hp

end DeliveryTracking.Tracking
