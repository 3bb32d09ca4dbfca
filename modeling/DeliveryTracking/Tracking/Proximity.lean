/-
# `DeliveryTracking.Tracking.Proximity` — which point a flush is near a destination with

After a batch `saveBatch` calls `checkProximity` once for each vehicle it inserted
rows of.  The rows come in time order, and the loop looks the vehicle up with
`find`: the call has the first row of the vehicle, trusted or not.  It is the last
trusted one, which the call is meant to have, exactly where the first row of each
vehicle is its only trusted one (`proximityCalls_iff`).  `savePosition` calls it for
trusted positions only.
-/
import DeliveryTracking.Tracking.SaveBatch

namespace DeliveryTracking.Tracking

open Geo

variable {R : Type}

/-! ## The calls -/

/-- A call `checkProximity(driverId, vehicleId, companyId, latitude, longitude, timestamp)`. -/
structure ProximityCall (R : Type) where
  driverId : String
  vehicleId : String
  companyId : String
  latitude : R
  longitude : R
  timestamp : Int
  deriving DecidableEq, Repr

/-- The call with the point of a row. -/
def GpsPosition.proximity (driverId companyId : String) (r : GpsPosition R) : ProximityCall R :=
  { driverId := driverId, vehicleId := r.vehicleId, companyId := companyId, latitude := r.latitude,
    longitude := r.longitude, timestamp := r.timestamp }

/-- The calls of `savePosition` for the row it saved. -/
def savedProximity (driverId companyId : Option String) (saved : Option (GpsPosition R)) :
    List (ProximityCall R) :=
  match driverId.filter (· ≠ ""), companyId.filter (· ≠ ""), saved with
  | some d, some c, some r => if r.suspect then [] else [r.proximity d c]
  | _, _, _ => []

/-- The keys of `lastByVehicle`: each vehicle once, by its first row. -/
def lastByVehicleKeys (inserted : List (GpsPosition R)) : List String :=
  (inserted.map GpsPosition.vehicleId).eraseDups

/-- The calls of `saveBatch` for the rows it inserted. -/
def proximityCalls (driverId : String) (companyId : Option String)
    (inserted : List (GpsPosition R)) : List (ProximityCall R) :=
  match companyId.filter (· ≠ "") with
  | none => []
  | some c => (lastByVehicleKeys inserted).filterMap fun vehicleId =>
      (inserted.find? fun r => r.vehicleId == vehicleId).map (GpsPosition.proximity driverId c)

/-- A position saved alone never has its point checked if it is suspect. -/
theorem trusted_of_mem_savedProximity {driverId companyId : Option String}
    {saved : Option (GpsPosition R)} {call : ProximityCall R}
    (h : call ∈ savedProximity driverId companyId saved) :
    ∃ r d c, saved = some r ∧ r.suspect = false ∧ call = r.proximity d c := by
  unfold savedProximity at h
  split at h
  · rename_i d c r _ _
    cases hsuspect : r.suspect with
    | true =>
      rw [hsuspect] at h
      cases h
    | false =>
      rw [hsuspect] at h
      exact ⟨r, d, c, rfl, hsuspect, List.mem_singleton.mp h⟩
  · cases h

/-- The first row of a vehicle is the one its call has. -/
theorem mem_proximityCalls {driverId c : String} {inserted : List (GpsPosition R)} (hc : c ≠ "")
    {call : ProximityCall R} : call ∈ proximityCalls driverId (some c) inserted ↔
      ∃ v r rest, inserted.filter (fun r => r.vehicleId == v) = r :: rest ∧
        call = r.proximity driverId c := by
  have hcompany : (some c).filter (fun c => decide (c ≠ "")) = some c := by
    simp [hc]
  rw [proximityCalls, hcompany]
  simp only [List.mem_filterMap, Option.map_eq_some_iff, lastByVehicleKeys]
  constructor
  · rintro ⟨v, -, r, hfind, rfl⟩
    rw [← List.head?_filter] at hfind
    obtain ⟨rest, hrest⟩ := List.head?_eq_some_iff.mp hfind
    exact ⟨v, r, rest, hrest, rfl⟩
  · rintro ⟨v, r, rest, hrest, rfl⟩
    have hmem : r ∈ inserted.filter fun r => r.vehicleId == v := by
      rw [hrest]
      exact List.mem_cons_self ..
    obtain ⟨hrow, hv⟩ := List.mem_filter.mp hmem
    refine ⟨v, ?_, r, ?_, rfl⟩
    · rw [List.mem_eraseDups]
      exact List.mem_map.mpr ⟨r, hrow, by simpa using hv⟩
    · rw [← List.head?_filter, hrest, List.head?_cons]

/-! ## The rows of a batch -/

/-- Rows in time order, no two of one vehicle at one time. -/
structure BatchRows (inserted : List (GpsPosition R)) : Prop where
  ordered : inserted.Pairwise fun r q => r.timestamp ≤ q.timestamp
  keys : (inserted.map GpsPosition.key).Nodup

section Batch

variable [Field R] [LinearOrder R] [JsMath R]

/-- The loop keeps positions in their order. -/
theorem toInsert_sublist (t : PositionTable R) (driverId companyId : String) :
    ∀ (sorted : List (UpdatePositionDto R)) (st : BatchState R), ∃ kept : List Int,
      (sorted.foldl (batchStep t driverId companyId) st).toInsert.map GpsPosition.timestamp =
        st.toInsert.map GpsPosition.timestamp ++ kept ∧
      kept.Sublist (sorted.map UpdatePositionDto.timestamp)
  | [], st => ⟨[], (List.append_nil _).symm, List.Sublist.refl _⟩
  | pos :: sorted, st => by
      obtain ⟨kept, hkept, hsub⟩ := toInsert_sublist t driverId companyId sorted
        (batchStep t driverId companyId st pos)
      rw [List.foldl_cons, hkept, batchStep]
      split
      · exact ⟨kept, rfl, hsub.cons _⟩
      · refine ⟨pos.timestamp :: kept, ?_, hsub.cons_cons _⟩
        rw [batchKeep, List.map_append, List.append_assoc]
        rfl

theorem batchRows_saveBatch (reg : Registry) (userId driverId : String)
    (positions : List (UpdatePositionDto R)) (companyId : Option String) (t : PositionTable R) :
    BatchRows (saveBatch reg userId driverId positions companyId t).1 where
  ordered := by
    obtain ⟨kept, hkept, hsub⟩ := toInsert_sublist t driverId (companyId.getD "")
      (sortedPositions reg userId driverId companyId positions) ⟨dbLast t, fun _ => [], []⟩
    have hsorted : ((sortedPositions reg userId driverId companyId positions).map
        UpdatePositionDto.timestamp).Pairwise (· ≤ ·) :=
      List.pairwise_map.mpr (List.pairwise_insertionSort _ _)
    have htimes := hsorted.sublist hsub
    rw [List.map_nil, List.nil_append] at hkept
    rw [← hkept] at htimes
    exact (List.pairwise_map.mp htimes).sublist (Table.createMany_sublist _ _)
  keys := by
    have hunique := (saveBatch reg userId driverId positions companyId t).2.unique
    rw [saveBatch, Table.rows_createMany] at hunique
    exact List.pairwise_map.mpr (List.pairwise_append.mp hunique).2.1

end Batch

/-! ## When the call has the last trusted point -/

/-- What the calls of a flush are meant to be: one with the last trusted point of each vehicle,
and none with a suspect point. -/
structure LastTrustedPoints (driverId companyId : String) (inserted : List (GpsPosition R))
    (calls : List (ProximityCall R)) : Prop where
  called : ∀ v last, lastBy GpsPosition.timestamp
      (inserted.filter fun r => r.vehicleId == v && !r.suspect) = some last →
    last.proximity driverId companyId ∈ calls
  trusted : ∀ r ∈ inserted, r.suspect = true → r.proximity driverId companyId ∉ calls

/-- The first row of each vehicle is its only trusted one. -/
def OnlyFirstTrusted (inserted : List (GpsPosition R)) : Prop :=
  ∀ v r rest, inserted.filter (fun r => r.vehicleId == v) = r :: rest →
    r.suspect = false ∧ ∀ q ∈ rest, q.suspect = true

variable {inserted : List (GpsPosition R)} {driverId c : String}

/-- A call tells which row it has the point of. -/
theorem BatchRows.row_eq (h : BatchRows inserted) {r q : GpsPosition R} (hr : r ∈ inserted)
    (hq : q ∈ inserted) (hcall : r.proximity driverId c = q.proximity driverId c) : r = q := by
  simp only [GpsPosition.proximity, ProximityCall.mk.injEq] at hcall
  exact List.inj_on_of_nodup_map h.keys hr hq (Prod.ext hcall.2.1 hcall.2.2.2.2.2)

/-- The rows of a vehicle come at increasing times. -/
theorem BatchRows.increasing (h : BatchRows inserted) (v : String) :
    (inserted.filter fun r => r.vehicleId == v).Pairwise fun r q => r.timestamp < q.timestamp := by
  have hkeys : inserted.Pairwise fun r q => r.key ≠ q.key := List.pairwise_map.mp h.keys
  refine ((h.ordered.and hkeys).filter _).imp_of_mem fun {r q} hr hq hpair => ?_
  refine lt_of_le_of_ne hpair.1 fun htime => hpair.2 (Prod.ext ?_ htime)
  have hrv := (List.mem_filter.mp hr).2
  have hqv := (List.mem_filter.mp hq).2
  rw [beq_iff_eq] at hrv hqv
  exact hrv.trans hqv.symm

/-- The rows of a vehicle are rows. -/
theorem mem_of_filter_vehicle {v : String} {rows : List (GpsPosition R)}
    (hrows : inserted.filter (fun r => r.vehicleId == v) = rows) {q : GpsPosition R}
    (hq : q ∈ rows) : q ∈ inserted ∧ q.vehicleId = v := by
  rw [← hrows, List.mem_filter, beq_iff_eq] at hq
  exact hq

/-- A call with the last trusted point is one with the first row of the vehicle: no later row
is trusted. -/
theorem LastTrustedPoints.onlyFirstTrusted (h : BatchRows inserted) (hc : c ≠ "")
    (hpoints : LastTrustedPoints driverId c inserted
      (proximityCalls driverId (some c) inserted)) : OnlyFirstTrusted inserted := by
  intro v r rest hrest
  have hcall : r.proximity driverId c ∈ proximityCalls driverId (some c) inserted :=
    (mem_proximityCalls hc).mpr ⟨v, r, rest, hrest, rfl⟩
  obtain ⟨hr, -⟩ := mem_of_filter_vehicle hrest (List.mem_cons_self ..)
  refine ⟨Bool.eq_false_iff.mpr fun hsuspect => hpoints.trusted r hr hsuspect hcall,
    fun q hq => ?_⟩
  by_contra htrusted
  obtain ⟨hqmem, hqv⟩ := mem_of_filter_vehicle hrest (List.mem_cons_of_mem _ hq)
  have hqtrusted : q ∈ inserted.filter fun r => r.vehicleId == v && !r.suspect :=
    List.mem_filter.mpr ⟨hqmem, by simp [hqv, htrusted]⟩
  obtain ⟨last, hlast, hle⟩ := exists_lastBy hqtrusted
  obtain ⟨hlastmem, hlastv⟩ := List.mem_filter.mp (mem_of_lastBy hlast)
  -- the row of the call is the first one of the vehicle
  obtain ⟨v', r', rest', hrest', hcall'⟩ :=
    (mem_proximityCalls hc).mp (hpoints.called v last hlast)
  obtain ⟨hr', hrv'⟩ := mem_of_filter_vehicle hrest' (List.mem_cons_self ..)
  obtain rfl := h.row_eq hlastmem hr' hcall'
  have hv : v' = v := by
    simp only [Bool.and_eq_true, beq_iff_eq] at hlastv
    exact hrv'.symm.trans hlastv.1
  subst hv
  obtain ⟨rfl, rfl⟩ := List.cons.inj (hrest'.symm.trans hrest)
  have hincreasing := h.increasing v'
  rw [hrest] at hincreasing
  have hlt := (List.pairwise_cons.mp hincreasing).1 q hq
  omega

/-- A first row that is the only trusted one is the last trusted one. -/
theorem OnlyFirstTrusted.lastTrustedPoints (honly : OnlyFirstTrusted inserted)
    (h : BatchRows inserted) (hc : c ≠ "") :
    LastTrustedPoints driverId c inserted (proximityCalls driverId (some c) inserted) where
  called v last hlast := by
    obtain ⟨hlastmem, hq⟩ := List.mem_filter.mp (mem_of_lastBy hlast)
    simp only [Bool.and_eq_true, Bool.not_eq_true'] at hq
    have hin : last ∈ inserted.filter fun r => r.vehicleId == v :=
      List.mem_filter.mpr ⟨hlastmem, hq.1⟩
    cases hrest : inserted.filter fun r => r.vehicleId == v with
    | nil =>
      rw [hrest] at hin
      cases hin
    | cons r rest =>
      rw [hrest] at hin
      obtain rfl | hin := List.mem_cons.mp hin
      · exact (mem_proximityCalls hc).mpr ⟨v, last, rest, hrest, rfl⟩
      · rw [(honly v r rest hrest).2 last hin] at hq
        cases hq.2
  trusted r hr hsuspect hcall := by
    obtain ⟨v, r', rest, hrest, heq⟩ := (mem_proximityCalls hc).mp hcall
    obtain ⟨hr', -⟩ := mem_of_filter_vehicle hrest (List.mem_cons_self ..)
    obtain rfl := h.row_eq hr hr' heq
    rw [(honly v r rest hrest).1] at hsuspect
    cases hsuspect

theorem BatchRows.lastTrustedPoints_iff (h : BatchRows inserted) (hc : c ≠ "") :
    LastTrustedPoints driverId c inserted (proximityCalls driverId (some c) inserted) ↔
      OnlyFirstTrusted inserted :=
  ⟨fun hpoints => hpoints.onlyFirstTrusted h hc, fun honly => honly.lastTrustedPoints h hc⟩

/-- Without calls the points are missed, unless no row is trusted. -/
theorem lastTrustedPoints_nil_iff : LastTrustedPoints driverId c inserted [] ↔
    ∀ r ∈ inserted, r.suspect = true := by
  constructor
  · intro hpoints r hr
    by_contra htrusted
    have hmem : r ∈ inserted.filter fun q => q.vehicleId == r.vehicleId && !q.suspect :=
      List.mem_filter.mpr ⟨hr, by simp [htrusted]⟩
    obtain ⟨last, hlast, -⟩ := exists_lastBy hmem
    exact absurd (hpoints.called r.vehicleId last hlast) List.not_mem_nil
  · intro hsuspect
    refine ⟨fun v last hlast => ?_, fun _ _ _ => List.not_mem_nil⟩
    obtain ⟨hmem, hq⟩ := List.mem_filter.mp (mem_of_lastBy hlast)
    rw [hsuspect last hmem, Bool.not_true, Bool.and_false] at hq
    cases hq

/-- The rows for which the calls have the points they are meant to have. -/
def ProximityAgrees (companyId : Option String) (inserted : List (GpsPosition R)) : Prop :=
  if (companyId.filter (· ≠ "")).isSome then OnlyFirstTrusted inserted
  else ∀ r ∈ inserted, r.suspect = true

/-- A flush checks the last trusted point of each vehicle, and no suspect one, exactly if the
first row it inserts of each vehicle is its only trusted one; without a company it checks
nothing. -/
theorem proximityCalls_iff [Field R] [LinearOrder R] [JsMath R] (reg : Registry)
    (userId driverId : String) (positions : List (UpdatePositionDto R)) (companyId : Option String)
    (t : PositionTable R) :
    LastTrustedPoints driverId (companyId.getD "")
        (saveBatch reg userId driverId positions companyId t).1
        (proximityCalls driverId companyId
          (saveBatch reg userId driverId positions companyId t).1) ↔
      ProximityAgrees companyId (saveBatch reg userId driverId positions companyId t).1 := by
  have hrows := batchRows_saveBatch reg userId driverId positions companyId t
  generalize (saveBatch reg userId driverId positions companyId t).1 = inserted at hrows ⊢
  cases hcompany : companyId.filter (· ≠ "") with
  | none =>
    rw [ProximityAgrees, proximityCalls, hcompany]
    exact lastTrustedPoints_nil_iff
  | some c =>
    obtain ⟨rfl, hc⟩ := Option.filter_eq_some_iff.mp hcompany
    rw [ProximityAgrees, hcompany]
    exact hrows.lastTrustedPoints_iff (of_decide_eq_true hc)

/-! ## A flush of two points -/

/-- Two fixes a minute apart, both trusted: the call has the point of the first. -/
theorem proximityCalls_first :
    ¬ LastTrustedPoints "d1" "c1"
      (saveBatch sampleRegistry "u1" "d1" [sampleFix (-189 / 10) 0, sampleFix (-189 / 10) 60000]
        (some "c1") (.empty : PositionTable ℚ)).1
      (proximityCalls "d1" (some "c1")
        (saveBatch sampleRegistry "u1" "d1" [sampleFix (-189 / 10) 0, sampleFix (-189 / 10) 60000]
          (some "c1") (.empty : PositionTable ℚ)).1) := by
  intro h
  have hcalled := h.called sampleVehicleId
    ⟨sampleVehicleId, 60000, -189 / 10, 475 / 10, some 0, some 10, false, .phone, none, some "d1",
      "c1"⟩ (by decide +kernel)
  revert hcalled
  decide +kernel

end DeliveryTracking.Tracking
