/-
# `DeliveryTracking.Tracking.DedupWindow` — how far apart stored positions are

Both ways in drop a position within 1 s of another, and each compares it with less
than what is stored:

    savePosition   the stored positions of the delivery it names
    saveBatch      the latest stored position, and the last one the batch kept

A position near a stored one that is none of these is stored beside it.  A call
keeps the positions of every vehicle more than 1 s apart exactly when it meets no
such position (`spaced_perform_iff`).
-/
import DeliveryTracking.Runs
import DeliveryTracking.Tracking.Retransmission

namespace DeliveryTracking.Tracking

open Geo

/-! ## Calls and what they promise -/

/-- A call of the ingestion service. -/
inductive StoreCall (R : Type) where
  | savePosition (reg : Registry) (driverId : Option String) (dto : UpdatePositionDto R)
      (companyId : Option String) (source : PositionSource)
  | saveBatch (reg : Registry) (userId driverId : String) (positions : List (UpdatePositionDto R))
      (companyId : Option String)

section

variable {R : Type}

/-- No two positions of one vehicle are 1 s or less apart. -/
def Spaced (t : PositionTable R) : Prop :=
  t.rows.Pairwise fun p q =>
    p.vehicleId = q.vehicleId → dedupClockSkew < |p.timestamp - q.timestamp|

instance (t : PositionTable R) : Decidable (Spaced t) :=
  inferInstanceAs (Decidable (List.Pairwise _ _))

/-- A position of the vehicle is stored within 1 s of a time, not at that time. -/
def NearKept (t : PositionTable R) (v : String) (timestamp : Int) : Prop :=
  ∃ p ∈ t.rows, p.vehicleId = v ∧ timestamp ≠ p.timestamp ∧
    |timestamp - p.timestamp| ≤ dedupClockSkew

/-- A position of the vehicle, and of the delivery if one is named, is stored within 1 s. -/
def NearCompared (t : PositionTable R) (v : String) (deliveryId : Option String)
    (timestamp : Int) : Prop :=
  ∃ p ∈ t.rows, p.vehicleId = v ∧ (deliveryId = none ∨ p.deliveryId = deliveryId) ∧
    |timestamp - p.timestamp| ≤ dedupClockSkew

theorem pairwise_iff_storedTimes {t : PositionTable R} :
    Spaced t ↔ ∀ v, SpacedBy dedupClockSkew (storedTimes t v) := by
  constructor
  · rintro h v x ⟨p, hp, hpv, rfl⟩ y ⟨q, hq, hqv, rfl⟩ hne
    have hsymm : Std.Symm fun p q : GpsPosition R => p.vehicleId = q.vehicleId →
        dedupClockSkew < |p.timestamp - q.timestamp| :=
      ⟨fun p q h hv => abs_sub_comm p.timestamp q.timestamp ▸ h hv.symm⟩
    exact List.Pairwise.forall h hp hq (by rintro rfl; exact hne rfl) (hpv.trans hqv.symm)
  · intro h
    refine t.unique.imp_of_mem ?_
    intro p q hp hq hkey hv
    refine h q.vehicleId _ ⟨p, hp, hv, rfl⟩ _ ⟨q, hq, rfl, rfl⟩ ?_
    intro ht
    exact hkey (Prod.ext hv ht)

theorem nearStored_iff {t : PositionTable R} {v : String} {x : Int} :
    NearKept t v x ↔ ∃ y ∈ storedTimes t v, x ≠ y ∧ |x - y| ≤ dedupClockSkew := by
  constructor
  · rintro ⟨p, hp, hv, hne, hnear⟩
    exact ⟨p.timestamp, ⟨p, hp, hv, rfl⟩, hne, hnear⟩
  · rintro ⟨-, ⟨p, hp, hv, rfl⟩, hne, hnear⟩
    exact ⟨p, hp, hv, hne, hnear⟩

theorem not_nearStored_iff {t : PositionTable R} {v : String} {x : Int} :
    ¬NearKept t v x ↔ ∀ y ∈ storedTimes t v, x ≠ y → dedupClockSkew < |x - y| := by
  rw [nearStored_iff]
  constructor
  · intro h y hy hne
    exact not_le.mp fun hle => h ⟨y, hy, hne, hle⟩
  · rintro h ⟨y, hy, hne, hle⟩
    exact absurd hle (not_le.mpr (h y hy hne))

/-- The nearest position not later than 1 s after is near just when any is. -/
theorem isDuplicateByTimestamp_iff {t : PositionTable R} {v : String} {deliveryId : Option String}
    {timestamp : Int} : isDuplicateByTimestamp t v deliveryId timestamp = true ↔
      NearCompared t v deliveryId timestamp := by
  have hskew : dedupClockSkew = 1000 := rfl
  unfold isDuplicateByTimestamp
  constructor
  · intro h
    split at h
    · rename_i nearest hnearest
      obtain ⟨hmem, hq⟩ := mem_of_latest hnearest
      simp only [Bool.and_eq_true, Bool.or_eq_true, beq_iff_eq, decide_eq_true_eq,
        Option.isNone_iff_eq_none] at hq h
      exact ⟨nearest, hmem, hq.1.1, hq.1.2, abs_le.mpr ⟨by omega, by omega⟩⟩
    · cases h
  · rintro ⟨p, hp, hv, hdelivery, hnear⟩
    obtain ⟨hlo, hhi⟩ := abs_le.mp hnear
    obtain ⟨nearest, hnearest, hle⟩ := exists_latest (q := fun p => p.vehicleId == v &&
      (deliveryId.isNone || p.deliveryId == deliveryId) &&
        p.timestamp ≤ timestamp + dedupClockSkew) hp (by
      simp only [Bool.and_eq_true, Bool.or_eq_true, beq_iff_eq, decide_eq_true_eq,
        Option.isNone_iff_eq_none]
      exact ⟨⟨hv, hdelivery⟩, by omega⟩)
    rw [hnearest]
    exact decide_eq_true (by omega)

theorem storedTimes_create {t t' : PositionTable R} {row : GpsPosition R}
    (h : t.create row = some t') (v : String) : storedTimes t' v
      = if row.vehicleId = v then insert row.timestamp (storedTimes t v) else storedTimes t v := by
  ext x
  simp only [storedTimes, Table.rows_of_create h, List.mem_append, List.mem_singleton,
    Set.mem_ofPred_eq]
  split
  · rename_i hv
    constructor
    · rintro ⟨p, hp | rfl, hpv, hpx⟩
      · exact .inr ⟨p, hp, hpv, hpx⟩
      · exact .inl hpx.symm
    · rintro (rfl | ⟨p, hp, hpv, hpx⟩)
      · exact ⟨row, .inr rfl, hv, rfl⟩
      · exact ⟨p, .inl hp, hpv, hpx⟩
  · rename_i hv
    constructor
    · rintro ⟨p, hp | rfl, hpv, hpx⟩
      · exact ⟨p, hp, hpv, hpx⟩
      · exact absurd hpv hv
    · rintro ⟨p, hp, hpv, hpx⟩
      exact ⟨p, .inl hp, hpv, hpx⟩

end

variable {R : Type} [Field R] [LinearOrder R] [JsMath R]

/-- The table after a call. -/
def StoreCall.perform (t : PositionTable R) : StoreCall R → PositionTable R
  | .savePosition reg driverId dto companyId source =>
    (Tracking.savePosition reg driverId dto companyId source t).2
  | .saveBatch reg userId driverId positions companyId =>
    (Tracking.saveBatch reg userId driverId positions companyId t).2

/-- What the loop of a batch has kept when it comes to a position. -/
def batchBefore (t : PositionTable R) (driverId companyId : String)
    (before : List (UpdatePositionDto R)) : BatchState R :=
  before.foldl (batchStep t driverId companyId) ⟨dbLast t, fun _ => [], []⟩

/-- Whenever a position that comes to the comparison is near a stored one, it is near one that it
is compared with. -/
def StoreCall.Caught (t : PositionTable R) : StoreCall R → Prop
  | .savePosition reg _ dto companyId source =>
    admitPosition reg dto companyId source ≠ none → NearKept t dto.vehicleId dto.timestamp →
      NearCompared t dto.vehicleId dto.deliveryId dto.timestamp
  | .saveBatch reg userId driverId positions companyId =>
    ∀ before pos rest,
      sortedPositions reg userId driverId companyId positions = before ++ pos :: rest →
      NearKept t pos.vehicleId pos.timestamp →
      nearReference ((batchBefore t driverId (companyId.getD "") before).last pos.vehicleId)
          pos.timestamp = true ∨
        nearReference (dbLast t pos.vehicleId) pos.timestamp = true

/-! ## One position -/

/-- A position alone keeps the table spaced just when it is not stored beside another. -/
theorem spaced_savePosition_iff {t : PositionTable R} (ht : Spaced t) (reg : Registry)
    (driverId : Option String) (dto : UpdatePositionDto R) (companyId : Option String)
    (source : PositionSource) :
    Spaced (savePosition reg driverId dto companyId source t).2 ↔
      StoreCall.Caught t (.savePosition reg driverId dto companyId source) := by
  have hstored := pairwise_iff_storedTimes.mp ht
  rcases savePosition_cases reg driverId dto companyId source t with
    hsame | ⟨c, t', hallow, hdup, hcreate, hsave⟩
  · rw [hsame]
    refine iff_of_true ht ?_
    intro hallow hnear
    have hnone := savePosition_eq_none_iff.mp (congrArg Prod.fst hsame)
    rcases hnone.resolve_left hallow with hdup | ⟨p, hp, hkey⟩
    · exact isDuplicateByTimestamp_iff.mp hdup
    · -- another position of the spaced table cannot be near the one at the same time
      obtain ⟨hv, hts⟩ := Prod.mk.inj hkey
      obtain ⟨y, hy, hne, hle⟩ := nearStored_iff.mp hnear
      have hfar := hstored dto.vehicleId dto.timestamp ⟨p, hp, hv, hts⟩ y hy hne
      omega
  · rw [hsave, pairwise_iff_storedTimes]
    have hnot : ¬NearCompared t dto.vehicleId dto.deliveryId dto.timestamp := by
      rw [← isDuplicateByTimestamp_iff, hdup]
      exact Bool.false_ne_true
    have hcaught : StoreCall.Caught t (.savePosition reg driverId dto companyId source) ↔
        ¬NearKept t dto.vehicleId dto.timestamp := by
      refine ⟨fun h hnear => hnot (h ?_ hnear), fun h _ hnear => absurd hnear h⟩
      rw [hallow]
      exact Option.some_ne_none c
    have hrow : (dto.row driverId c source (detectTeleportation t dto source)).vehicleId
        = dto.vehicleId := rfl
    rw [hcaught, not_nearStored_iff]
    constructor
    · intro hspaced y hy hne
      have hv := hspaced dto.vehicleId
      rw [storedTimes_create hcreate, if_pos hrow, spacedBy_insert_iff] at hv
      exact hv.2 y hy hne
    · intro hfar v
      rw [storedTimes_create hcreate]
      split
      · rename_i hv
        subst hv
        exact spacedBy_insert_iff.mpr ⟨hstored _, hfar⟩
      · exact hstored v

/-! ## A batch -/

/-- The loop keeps a position it finds near neither of its references. -/
theorem mem_toInsert_iff (t : PositionTable R) (driverId companyId : String) (k : String × Int) :
    ∀ (sorted : List (UpdatePositionDto R)) (st : BatchState R),
      k ∈ (sorted.foldl (batchStep t driverId companyId) st).toInsert.map GpsPosition.key ↔
        k ∈ st.toInsert.map GpsPosition.key ∨
        ∃ before pos rest, sorted = before ++ pos :: rest ∧ k = (pos.vehicleId, pos.timestamp) ∧
          ¬(nearReference ((before.foldl (batchStep t driverId companyId) st).last pos.vehicleId)
              pos.timestamp = true ∨
            nearReference (dbLast t pos.vehicleId) pos.timestamp = true)
  | [], st => by simp
  | pos :: sorted, st => by
      rw [List.foldl_cons, mem_toInsert_iff t driverId companyId k sorted]
      have hstep : k ∈ (batchStep t driverId companyId st pos).toInsert.map GpsPosition.key ↔
          k ∈ st.toInsert.map GpsPosition.key ∨ k = (pos.vehicleId, pos.timestamp) ∧
            ¬(nearReference (st.last pos.vehicleId) pos.timestamp = true ∨
              nearReference (dbLast t pos.vehicleId) pos.timestamp = true) := by
        unfold batchStep
        split
        · rename_i hnear
          simp [hnear]
        · rename_i hfar
          simp only [batchKeep, List.map_append, List.mem_append]
          simp [GpsPosition.key, hfar]
      rw [hstep, or_assoc]
      refine or_congr_right ?_
      constructor
      · rintro (⟨hk, hkeep⟩ | ⟨before, pos', rest, rfl, hk, hkeep⟩)
        · exact ⟨[], pos, sorted, rfl, hk, hkeep⟩
        · exact ⟨pos :: before, pos', rest, rfl, hk, hkeep⟩
      · rintro ⟨before, pos', rest, heq, hk, hkeep⟩
        cases before with
        | nil =>
          obtain ⟨rfl, rfl⟩ := List.cons.inj heq
          exact .inl ⟨hk, hkeep⟩
        | cons b before =>
          obtain ⟨rfl, rfl⟩ := List.cons.inj heq
          exact .inr ⟨before, pos', rest, rfl, hk, hkeep⟩

/-- A batch keeps the table spaced just when none of its positions is kept beside a stored one. -/
theorem spaced_saveBatch_iff {t : PositionTable R} (ht : Spaced t) (reg : Registry)
    (userId driverId : String) (positions : List (UpdatePositionDto R))
    (companyId : Option String) :
    Spaced (saveBatch reg userId driverId positions companyId t).2 ↔
      StoreCall.Caught t (.saveBatch reg userId driverId positions companyId) := by
  have hstored := pairwise_iff_storedTimes.mp ht
  have hkept : ∀ v x, x ∈ pass dedupClockSkew (latestTime t v)
      (batchTimes v (sortedPositions reg userId driverId companyId positions)) ↔
      ∃ before pos rest,
        sortedPositions reg userId driverId companyId positions = before ++ pos :: rest ∧
        (v, x) = (pos.vehicleId, pos.timestamp) ∧
        ¬(nearReference ((batchBefore t driverId (companyId.getD "") before).last pos.vehicleId)
              pos.timestamp = true ∨
            nearReference (dbLast t pos.vehicleId) pos.timestamp = true) := by
    intro v x
    rw [← dbLast_timestamp, ← batchLoop_times t driverId (companyId.getD ""), mem_rowTimes,
      batchLoop, mem_toInsert_iff]
    simp [batchBefore]
  have hself : ∀ v, SpacedBy dedupClockSkew {x | x ∈ pass dedupClockSkew (latestTime t v)
      (batchTimes v (sortedPositions reg userId driverId companyId positions))} := fun v =>
    spacedBy_thin ((batchTimes_sorted reg userId driverId companyId positions v).filter _)
      (by decide)
  rw [pairwise_iff_storedTimes]
  simp only [storedTimes_saveBatch, spacedBy_union_iff, hstored, hself, true_and]
  constructor
  · intro hcross before pos rest hsorted hnear
    by_contra hfar
    have hmem := (hkept pos.vehicleId pos.timestamp).mpr ⟨before, pos, rest, hsorted, rfl, hfar⟩
    exact not_nearStored_iff.mpr (hcross pos.vehicleId pos.timestamp hmem) hnear
  · intro hcaught v x hx
    obtain ⟨before, pos, rest, hsorted, hk, hfar⟩ := (hkept v x).mp hx
    obtain ⟨rfl, rfl⟩ := Prod.mk.inj hk
    exact not_nearStored_iff.mp fun hnear => hfar (hcaught before pos rest hsorted hnear)

/-! ## Every run -/

theorem spaced_perform_iff {t : PositionTable R} (ht : Spaced t) (call : StoreCall R) :
    Spaced (call.perform t) ↔ call.Caught t := by
  cases call with
  | savePosition reg driverId dto companyId source =>
    exact spaced_savePosition_iff ht reg driverId dto companyId source
  | saveBatch reg userId driverId positions companyId =>
    exact spaced_saveBatch_iff ht reg userId driverId positions companyId

/-- **In every run whose calls meet no position near a stored one they do not compare it with, the
positions of a vehicle stay more than 1 s apart; and the next call keeps them so only if it meets
none.** -/
theorem dedup_window {calls : List (StoreCall R)} {t : PositionTable R}
    (h : Run (Guarded (fun t call t' => StoreCall.perform t call = t') fun t call => call.Caught t)
      .empty calls t) :
    Spaced t ∧ ∀ call : StoreCall R, Spaced (call.perform t) ↔ call.Caught t := by
  have hspaced : Spaced t := by
    refine h.invariant ?_ .nil
    rintro s call - hs ⟨rfl, hcaught⟩
    exact (spaced_perform_iff hs call).mpr hcaught
  exact ⟨hspaced, spaced_perform_iff hspaced⟩

/-! ### Beside a stored position -/

/-- A fix sent alone, for a delivery. -/
def saveAt (deliveryId : Option String) (timestamp : Int) : StoreCall ℚ :=
  .savePosition sampleRegistry (some "d1") { sampleDto timestamp with deliveryId := deliveryId }
    (some "c1") .phone

def saveBatchAt (timestamps : List Int) : StoreCall ℚ :=
  .saveBatch sampleRegistry "u1" "d1" (timestamps.map sampleDto) (some "c1")

/-- Half a second after a position of one delivery, one of another delivery is stored; and, with a
later position stored, a batch stores one half a second after the first. -/
theorem dedup_window_open :
    ¬Spaced ([saveAt (some "delivery-number-1") 0, saveAt (some "delivery-number-2") 500].foldl
      StoreCall.perform .empty) ∧
    ¬Spaced ([saveAt none 0, saveAt none 10000, saveBatchAt [500]].foldl
      StoreCall.perform .empty) := by
  decide +kernel

/-- A retransmission in a batch is dropped, what follows it is stored. -/
theorem dedup_window_sample :
    Spaced ((saveBatchAt [500, 5000]).perform ((saveAt none 0).perform .empty)) := by
  have hempty : Spaced (.empty : PositionTable ℚ) := .nil
  have hfirst : Spaced ((saveAt none 0).perform .empty) := by decide +kernel
  have hsecond : Spaced ((saveBatchAt [500, 5000]).perform ((saveAt none 0).perform .empty)) := by
    decide +kernel
  exact (dedup_window (.cons ⟨rfl, (spaced_perform_iff hempty _).mp hfirst⟩
    (.cons ⟨rfl, (spaced_perform_iff hfirst _).mp hsecond⟩ (.nil _)))).1

end DeliveryTracking.Tracking
