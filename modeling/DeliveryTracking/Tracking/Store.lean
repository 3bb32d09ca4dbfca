/-
# `DeliveryTracking.Tracking.Store` — stored positions, and single-position ingestion

`gps_positions` has the unique constraint `(vehicleId, timestamp)`.  Each query
of the tracking service is one definition here; `savePosition` stores one
position: it drops a duplicate, asks `detectTeleportation` for the suspect flag
and inserts.
-/
import Mathlib.Data.List.Infix
import Mathlib.Data.List.Nodup
import DeliveryTracking.Table
import DeliveryTracking.Geo.GroundSpeed
import DeliveryTracking.Deliveries.Writers

namespace DeliveryTracking.Tracking

open Geo

/-! ## Rows -/

inductive PositionSource where
  | phone
  | physicalTracker
  deriving DecidableEq, Repr

/-- The columns of `vehicles` the ingestion paths read. -/
structure Vehicle where
  id : String
  companyId : String
  positionSource : PositionSource
  traccarDeviceId : Option String
  isActive : Bool
  deletedAt : Option Int
  deriving DecidableEq, Repr

/-- A row of `gps_positions`. -/
structure GpsPosition (R : Type) where
  vehicleId : String
  /-- Milliseconds. -/
  timestamp : Int
  latitude : R
  longitude : R
  speed : Option R
  accuracy : Option R
  suspect : Bool
  source : PositionSource
  deliveryId : Option String
  driverId : Option String
  companyId : String
  deriving DecidableEq, Repr

variable {R : Type}

/-- The columns of the unique constraint. -/
def GpsPosition.key (p : GpsPosition R) : String × Int := (p.vehicleId, p.timestamp)

abbrev PositionTable (R : Type) := Table (GpsPosition.key (R := R)) Eq

/-- A row of `vehicle_assignment_history`; an open one has no `unassignedAt`. -/
structure Assignment where
  vehicleId : String
  driverId : String
  assignedAt : Int
  unassignedAt : Option Int
  deriving DecidableEq, Repr

/-- The tables ingestion reads and does not write. -/
structure Registry where
  vehicles : List Vehicle
  /-- The primary key, and the unique tracker. -/
  uniqueVehicles : vehicles.Pairwise fun v w => v.id ≠ w.id ∧
    (v.traccarDeviceId.isSome → v.traccarDeviceId ≠ w.traccarDeviceId)
  deliveries : List Deliveries.Delivery
  assignments : List Assignment

/-- Vehicles with one id are one. -/
theorem Registry.vehicle_eq (reg : Registry) {v w : Vehicle} (hv : v ∈ reg.vehicles)
    (hw : w ∈ reg.vehicles) (hid : v.id = w.id) : v = w := by
  have hids : (reg.vehicles.map Vehicle.id).Nodup :=
    List.pairwise_map.mpr (reg.uniqueVehicles.imp And.left)
  exact List.inj_on_of_nodup_map hids hv hw hid

/-- A position as a client sends it. -/
structure UpdatePositionDto (R : Type) where
  latitude : R
  longitude : R
  speed : Option R
  accuracy : Option R
  timestamp : Int
  vehicleId : String
  deliveryId : Option String
  deriving DecidableEq, Repr

/-! ## Queries -/

/-- `findFirst({ where, orderBy: { timestamp: 'desc' } })`. -/
def PositionTable.latest (t : PositionTable R) (q : GpsPosition R → Bool) :
    Option (GpsPosition R) :=
  lastBy GpsPosition.timestamp (t.findMany q)

/-- The last position of a vehicle; suspects are skipped unless asked for. -/
def getLastPosition (t : PositionTable R) (vehicleId : String) (excludeSuspect : Bool) :
    Option (GpsPosition R) :=
  t.latest fun p => p.vehicleId == vehicleId && !(excludeSuspect && p.suspect)

/-- `DEDUP_CLOCK_SKEW_S`, in milliseconds. -/
def dedupClockSkew : Int := 1 * 1000

/-- The nearest stored position at most 1 s later is at most 1 s earlier. -/
def isDuplicateByTimestamp (t : PositionTable R) (vehicleId : String) (deliveryId : Option String)
    (timestamp : Int) : Bool :=
  match t.latest fun p => p.vehicleId == vehicleId &&
      (deliveryId.isNone || p.deliveryId == deliveryId) &&
      p.timestamp ≤ timestamp + dedupClockSkew with
  | some nearest => timestamp - dedupClockSkew ≤ nearest.timestamp
  | none => false

def GpsPosition.reference (p : GpsPosition R) : TeleportReference R :=
  { latitude := p.latitude, longitude := p.longitude, timestamp := p.timestamp, speed := p.speed,
    accuracy := p.accuracy }

/-- After a source change within this time, the other source is no reference. -/
def sourceChangeWindow : Int := 300 * 1000

/-- The reference `detectTeleportation` compares with: the last trusted position, before the
fix if it comes late; on a recent source change the last trusted one of the same source. -/
def teleportReference (t : PositionTable R) (vehicleId : String) (source : PositionSource)
    (timestamp : Int) : Option (GpsPosition R) :=
  let last := match getLastPosition t vehicleId true with
    | none => none
    | some last =>
      if timestamp ≤ last.timestamp then
        t.latest fun p => p.vehicleId == vehicleId && !p.suspect && p.timestamp < timestamp
      else some last
  match last with
  | none => none
  | some last =>
    if last.source ≠ source ∧ 0 < timestamp - last.timestamp ∧
        timestamp - last.timestamp ≤ sourceChangeWindow then
      t.latest fun p => p.vehicleId == vehicleId && p.source == source && !p.suspect
    else some last

/-! ## Queries on a table a row is added to -/

theorem mem_of_latest {t : PositionTable R} {q : GpsPosition R → Bool} {p : GpsPosition R}
    (h : t.latest q = some p) : p ∈ t.rows ∧ q p = true :=
  List.mem_filter.mp (mem_of_lastBy h)

/-- A query that picks a row has an answer, which is not before the row. -/
theorem exists_latest {t : PositionTable R} {q : GpsPosition R → Bool} {p : GpsPosition R}
    (hp : p ∈ t.rows) (hq : q p = true) :
    ∃ last, t.latest q = some last ∧ p.timestamp ≤ last.timestamp :=
  exists_lastBy (List.mem_filter.mpr ⟨hp, hq⟩)

theorem latest_eq_none {t : PositionTable R} {q : GpsPosition R → Bool}
    (h : ∀ p ∈ t.rows, q p = false) : t.latest q = none := by
  have hempty : t.findMany q = [] := List.filter_eq_nil_iff.mpr fun p hp => by simp [h p hp]
  rw [PositionTable.latest, hempty, lastBy_nil]

/-- A duplicate has a position of the vehicle within the window. -/
theorem exists_of_isDuplicateByTimestamp {t : PositionTable R} {v : String}
    {deliveryId : Option String} {timestamp : Int}
    (h : isDuplicateByTimestamp t v deliveryId timestamp = true) :
    ∃ p ∈ t.rows, p.vehicleId = v ∧ |p.timestamp - timestamp| ≤ dedupClockSkew := by
  unfold isDuplicateByTimestamp at h
  split at h
  · rename_i nearest hnearest
    obtain ⟨hmem, hq⟩ := mem_of_latest hnearest
    simp only [Bool.and_eq_true, beq_iff_eq, decide_eq_true_eq] at hq h
    exact ⟨nearest, hmem, hq.1.1, abs_le.mpr ⟨by omega, by omega⟩⟩
  · cases h

/-- A row later than every row a query picks is the latest one, if the query picks it. -/
theorem latest_create_of_later {t t' : PositionTable R} {row : GpsPosition R}
    (h : t.create row = some t') (q : GpsPosition R → Bool)
    (hlater : ∀ p ∈ t.rows, q p = true → p.timestamp < row.timestamp) :
    t'.latest q = if q row then some row else t.latest q := by
  unfold PositionTable.latest Table.findMany
  rw [Table.rows_of_create h, List.filter_append]
  cases hq : q row with
  | false => simp [hq]
  | true =>
    have hone : [row].filter q = [row] := by simp [hq]
    rw [hone, lastBy_concat]
    cases hmax : lastBy GpsPosition.timestamp (t.rows.filter q) with
    | none => rfl
    | some p =>
      obtain ⟨hp, hqp⟩ := List.mem_filter.mp (mem_of_lastBy hmax)
      exact if_pos (hlater p hp hqp)

/-! ## The row under a key -/

def rowAt (rows : List (GpsPosition R)) (v : String) (timestamp : Int) : Option (GpsPosition R) :=
  rows.find? (GpsPosition.key · = (v, timestamp))

theorem rowAt_append (xs ys : List (GpsPosition R)) (v : String) (timestamp : Int) :
    rowAt (xs ++ ys) v timestamp = (rowAt xs v timestamp).or (rowAt ys v timestamp) :=
  List.find?_append

/-- A row stays under its key while rows are added. -/
theorem rowAt_isSome_of_grow {xs ys : List (GpsPosition R)} {v : String} {timestamp : Int}
    (h : (rowAt xs v timestamp).isSome) (hgrow : xs <+: ys) : (rowAt ys v timestamp).isSome := by
  obtain ⟨added, rfl⟩ := hgrow
  rw [rowAt_append, Option.isSome_or, h, Bool.true_or]

theorem rowAt_isSome_of_mem {rows : List (GpsPosition R)} {row : GpsPosition R} {v : String}
    {timestamp : Int} (hmem : row ∈ rows) (hkey : row.key = (v, timestamp)) :
    (rowAt rows v timestamp).isSome :=
  List.find?_isSome.mpr ⟨row, hmem, decide_eq_true hkey⟩

theorem rowAt_singleton {row : GpsPosition R} {v : String} {timestamp : Int}
    (h : row.key = (v, timestamp)) : rowAt [row] v timestamp = some row := by
  simp [rowAt, h]

theorem rowAt_eq_none {rows : List (GpsPosition R)} {v : String} {timestamp : Int}
    (h : ∀ p ∈ rows, p.vehicleId = v → p.timestamp ≠ timestamp) :
    rowAt rows v timestamp = none := by
  refine List.find?_eq_none.mpr fun p hp hkey => ?_
  obtain ⟨hv, hts⟩ := Prod.mk.inj (of_decide_eq_true hkey)
  exact h p hp hv hts

theorem rowAt_createMany (t : PositionTable R) (offered : List (GpsPosition R)) (v : String)
    (timestamp : Int) :
    rowAt (t.createMany offered).2.rows v timestamp
      = (rowAt t.rows v timestamp).or (rowAt offered v timestamp) :=
  Table.findFirst_createMany (v, timestamp) offered t

/-- Every position of a vehicle is more than the duplicate window before a time. -/
def LongBefore (t : PositionTable R) (v : String) (timestamp : Int) : Prop :=
  ∀ p ∈ t.rows, p.vehicleId = v → p.timestamp + dedupClockSkew < timestamp

theorem LongBefore.not_duplicate {t : PositionTable R} {v : String} {timestamp : Int}
    (h : LongBefore t v timestamp) (deliveryId : Option String) :
    isDuplicateByTimestamp t v deliveryId timestamp = false := by
  unfold isDuplicateByTimestamp
  split
  · rename_i nearest hnearest
    obtain ⟨hmem, hq⟩ := mem_of_latest hnearest
    have hv : nearest.vehicleId = v := by
      simp only [Bool.and_eq_true, beq_iff_eq] at hq
      exact hq.1.1
    have hbefore := h nearest hmem hv
    exact decide_eq_false (by omega)
  · rfl

theorem LongBefore.rowAt_eq_none {t : PositionTable R} {v : String} {timestamp : Int}
    (h : LongBefore t v timestamp) : rowAt t.rows v timestamp = none := by
  refine Tracking.rowAt_eq_none fun p hp hv => ?_
  have hbefore := h p hp hv
  have hskew : dedupClockSkew = 1000 := rfl
  omega

theorem LongBefore.create {t t' : PositionTable R} {row : GpsPosition R} {v : String}
    {timestamp : Int} (h : LongBefore t v timestamp) (hcreate : t.create row = some t')
    (hrow : row.timestamp + dedupClockSkew < timestamp) : LongBefore t' v timestamp := by
  intro p hp hv
  rw [Table.rows_of_create hcreate, List.mem_append, List.mem_singleton] at hp
  rcases hp with hp | rfl
  · exact h p hp hv
  · exact hrow

/-- The reference of a fix that does not come late, from the last trusted position and the last
trusted one of its own source. -/
def comparedWith (source : PositionSource) (timestamp : Int)
    (trusted sameSource : Option (GpsPosition R)) : Option (GpsPosition R) :=
  match trusted with
  | none => none
  | some last =>
    if last.source ≠ source ∧ 0 < timestamp - last.timestamp ∧
        timestamp - last.timestamp ≤ sourceChangeWindow then sameSource
    else some last

theorem LongBefore.teleportReference_eq {t : PositionTable R} {v : String} {timestamp : Int}
    (h : LongBefore t v timestamp) (source : PositionSource) :
    teleportReference t v source timestamp = comparedWith source timestamp
      (getLastPosition t v true)
      (t.latest fun p => p.vehicleId == v && p.source == source && !p.suspect) := by
  unfold teleportReference comparedWith
  cases hlast : getLastPosition t v true with
  | none => rfl
  | some last =>
    obtain ⟨hmem, hq⟩ := mem_of_latest hlast
    have hv : last.vehicleId = v := by
      simp only [Bool.and_eq_true, beq_iff_eq] at hq
      exact hq.1
    have hnot : ¬ timestamp ≤ last.timestamp := by
      have hbefore := h last hmem hv
      have hskew : dedupClockSkew = 1000 := rfl
      omega
    simp only [if_neg hnot]

variable [Field R] [LinearOrder R] [JsMath R]

def detectTeleportation (t : PositionTable R) (dto : UpdatePositionDto R)
    (source : PositionSource) : Bool :=
  match teleportReference t dto.vehicleId source dto.timestamp with
  | none => false
  | some reference =>
    (evaluateTeleportation reference.reference dto.latitude dto.longitude dto.timestamp
      dto.accuracy dto.speed).suspect

/-- Without a source change the reference is the last trusted position. -/
theorem LongBefore.detectTeleportation_eq {t : PositionTable R} {dto : UpdatePositionDto R}
    {source : PositionSource} (h : LongBefore t dto.vehicleId dto.timestamp)
    (hsource : ∀ p, getLastPosition t dto.vehicleId true = some p → p.source = source) :
    detectTeleportation t dto source
      = match getLastPosition t dto.vehicleId true with
        | none => false
        | some last => (evaluateTeleportation last.reference dto.latitude dto.longitude
            dto.timestamp dto.accuracy dto.speed).suspect := by
  have hreference : teleportReference t dto.vehicleId source dto.timestamp
      = getLastPosition t dto.vehicleId true := by
    rw [h.teleportReference_eq]
    cases hlast : getLastPosition t dto.vehicleId true with
    | none => rfl
    | some last => exact if_neg fun hchange => hchange.1 (hsource last hlast)
  rw [detectTeleportation, hreference]

/-! ## `savePosition` -/

/-- Too short to be a UUID. -/
def malformedId (id : String) : Bool := id.length < 16

/-- The checks of `savePosition` before it touches the positions: the company the position is
stored for, or `none` when it is rejected. -/
def admitPosition (reg : Registry) (dto : UpdatePositionDto R) (companyId : Option String)
    (source : PositionSource) : Option String :=
  if malformedId dto.vehicleId then none
  else if dto.deliveryId.any malformedId then none
  else
    match reg.vehicles.find? fun v => v.id == dto.vehicleId && v.deletedAt.isNone && v.isActive with
    | none => none
    | some vehicle =>
      match companyId with
      | some c =>
        if c ≠ "" ∧ vehicle.companyId ≠ c then none
        else if source = .phone ∧ vehicle.positionSource = .physicalTracker then none
        else some (if c = "" then vehicle.companyId else c)
      | none =>
        if source = .phone ∧ vehicle.positionSource = .physicalTracker then none
        else some vehicle.companyId

omit [Field R] [LinearOrder R] [JsMath R] in
/-- What an accepted position's vehicle is. -/
theorem admitPosition_cases {reg : Registry} {dto : UpdatePositionDto R}
    {companyId : Option String} {source : PositionSource} {c : String}
    (h : admitPosition reg dto companyId source = some c) :
    malformedId dto.vehicleId = false ∧ ∃ vehicle ∈ reg.vehicles, vehicle.id = dto.vehicleId ∧
      vehicle.deletedAt = none ∧ vehicle.isActive = true ∧
      (∀ owner, companyId = some owner → owner = "" ∨ vehicle.companyId = owner) ∧
      (source = .phone → vehicle.positionSource = .phone) := by
  unfold admitPosition at h
  split at h
  · cases h
  rename_i hid
  split at h
  · cases h
  split at h
  · cases h
  rename_i vehicle hfind
  have hq := List.find?_some hfind
  simp only [Bool.and_eq_true, beq_iff_eq, Option.isNone_iff_eq_none] at hq
  have hphone : ¬ (source = .phone ∧ vehicle.positionSource = .physicalTracker) →
      source = .phone → vehicle.positionSource = .phone := by
    intro hnot hsource
    cases hvehicle : vehicle.positionSource with
    | phone => rfl
    | physicalTracker => exact absurd ⟨hsource, hvehicle⟩ hnot
  refine ⟨by simpa using hid, vehicle, List.mem_of_find?_eq_some hfind, hq.1.1, hq.1.2, hq.2, ?_⟩
  cases companyId with
  | none =>
    simp only at h
    split at h
    · cases h
    rename_i hnot
    refine ⟨?_, hphone hnot⟩
    rintro owner ⟨⟩
  | some owner =>
    simp only at h
    split at h
    · cases h
    rename_i howner
    split at h
    · cases h
    rename_i hnot
    refine ⟨?_, hphone hnot⟩
    rintro owner' ⟨rfl⟩
    rcases Decidable.em (owner = "") with hempty | hne
    · exact Or.inl hempty
    · exact Or.inr (by_contra fun hother => howner ⟨hne, hother⟩)

/-- The row `savePosition` creates. -/
def UpdatePositionDto.row (dto : UpdatePositionDto R) (driverId : Option String)
    (companyId : String) (source : PositionSource) (suspect : Bool) : GpsPosition R :=
  { vehicleId := dto.vehicleId, timestamp := dto.timestamp, latitude := dto.latitude,
    longitude := dto.longitude, speed := dto.speed, accuracy := dto.accuracy,
    suspect := suspect, source := source, deliveryId := dto.deliveryId, driverId := driverId,
    companyId := companyId }

/-- `savePosition`, as one uninterrupted call: the stored row, if one was stored. -/
def savePosition (reg : Registry) (driverId : Option String) (dto : UpdatePositionDto R)
    (companyId : Option String) (source : PositionSource) (t : PositionTable R) :
    Option (GpsPosition R) × PositionTable R :=
  match admitPosition reg dto companyId source with
  | none => (none, t)
  | some resolvedCompanyId =>
    if isDuplicateByTimestamp t dto.vehicleId dto.deliveryId dto.timestamp then (none, t)
    else
      let row := dto.row driverId resolvedCompanyId source (detectTeleportation t dto source)
      match t.create row with
      | some t' => (some row, t')
      | none => (none, t)

/-- What `savePosition` can do: nothing, or add its row. -/
theorem savePosition_cases (reg : Registry) (driverId : Option String) (dto : UpdatePositionDto R)
    (companyId : Option String) (source : PositionSource) (t : PositionTable R) :
    savePosition reg driverId dto companyId source t = (none, t) ∨
    ∃ c t', admitPosition reg dto companyId source = some c ∧
      isDuplicateByTimestamp t dto.vehicleId dto.deliveryId dto.timestamp = false ∧
      t.create (dto.row driverId c source (detectTeleportation t dto source)) = some t' ∧
      savePosition reg driverId dto companyId source t
        = (some (dto.row driverId c source (detectTeleportation t dto source)), t') := by
  unfold savePosition
  cases hallowed : admitPosition reg dto companyId source with
  | none => exact Or.inl rfl
  | some c =>
    cases hdup : isDuplicateByTimestamp t dto.vehicleId dto.deliveryId dto.timestamp with
    | true => exact Or.inl rfl
    | false =>
      cases hcreate : t.create (dto.row driverId c source (detectTeleportation t dto source)) with
      | none => refine Or.inl ?_; simp [hcreate]
      | some t' => exact Or.inr ⟨c, t', rfl, rfl, hcreate, by simp [hcreate]⟩

/-- An accepted position that is not stored has a stored one near it. -/
theorem savePosition_not_stored {reg : Registry} {driverId : Option String}
    {dto : UpdatePositionDto R} {companyId : Option String} {source : PositionSource}
    {t : PositionTable R} {c : String} (hallowed : admitPosition reg dto companyId source = some c)
    (hnone : (savePosition reg driverId dto companyId source t).1 = none) :
    ∃ p ∈ t.rows, p.vehicleId = dto.vehicleId ∧ |p.timestamp - dto.timestamp| ≤ dedupClockSkew := by
  unfold savePosition at hnone
  rw [hallowed] at hnone
  simp only at hnone
  split at hnone
  · rename_i hdup
    exact exists_of_isDuplicateByTimestamp hdup
  · split at hnone
    · cases hnone
    · rename_i hcreate
      obtain ⟨p, hp, hkey⟩ := Table.create_eq_none_iff.mp hcreate
      obtain ⟨hv, hts⟩ := Prod.mk.inj hkey
      refine ⟨p, hp, hv, ?_⟩
      rw [show p.timestamp = dto.timestamp from hts, sub_self, abs_zero]
      decide

/-- What `savePosition` stores nothing for: a position it does not admit, a duplicate, or one whose
time is taken. -/
theorem savePosition_eq_none_iff {reg : Registry} {driverId : Option String}
    {dto : UpdatePositionDto R} {companyId : Option String} {source : PositionSource}
    {t : PositionTable R} :
    (savePosition reg driverId dto companyId source t).1 = none ↔
      admitPosition reg dto companyId source = none ∨
      isDuplicateByTimestamp t dto.vehicleId dto.deliveryId dto.timestamp = true ∨
      ∃ p ∈ t.rows, p.key = (dto.vehicleId, dto.timestamp) := by
  unfold savePosition
  cases hallowed : admitPosition reg dto companyId source with
  | none => simp
  | some c =>
    cases hdup : isDuplicateByTimestamp t dto.vehicleId dto.deliveryId dto.timestamp with
    | true => simp
    | false =>
      have hkey : (dto.row driverId c source (detectTeleportation t dto source)).key
          = (dto.vehicleId, dto.timestamp) := rfl
      cases hcreate : t.create (dto.row driverId c source (detectTeleportation t dto source)) with
      | none =>
        obtain ⟨p, hp, hclash⟩ := Table.create_eq_none_iff.mp hcreate
        refine iff_of_true (by simp [hcreate]) (Or.inr (Or.inr ⟨p, hp, hclash.trans hkey⟩))
      | some t' =>
        refine iff_of_false (by simp [hcreate]) ?_
        rintro (h | h | ⟨p, hp, h⟩)
        · cases h
        · cases h
        · have hnone := Table.create_eq_none_iff.mpr ⟨p, hp, h.trans hkey.symm⟩
          rw [hcreate] at hnone
          cases hnone

/-- An accepted position that is no duplicate and whose time is not taken is stored. -/
theorem savePosition_of_new {reg : Registry} {dto : UpdatePositionDto R}
    {companyId : Option String} {source : PositionSource} {t : PositionTable R} {c : String}
    (hallowed : admitPosition reg dto companyId source = some c)
    (hdup : isDuplicateByTimestamp t dto.vehicleId dto.deliveryId dto.timestamp = false)
    (hnew : ∀ p ∈ t.rows, p.vehicleId = dto.vehicleId → p.timestamp ≠ dto.timestamp)
    (driverId : Option String) :
    ∃ t', t.create (dto.row driverId c source (detectTeleportation t dto source)) = some t' ∧
      savePosition reg driverId dto companyId source t
        = (some (dto.row driverId c source (detectTeleportation t dto source)), t') := by
  cases hcreate : t.create (dto.row driverId c source (detectTeleportation t dto source)) with
  | none =>
    obtain ⟨p, hp, hkey⟩ := Table.create_eq_none_iff.mp hcreate
    obtain ⟨hv, hts⟩ := Prod.mk.inj hkey
    exact absurd hts (hnew p hp hv)
  | some t' =>
    refine ⟨t', rfl, ?_⟩
    simp only [savePosition, hallowed, hdup, hcreate]
    rfl

/-- A position long after all the others of its vehicle is stored. -/
theorem savePosition_of_longBefore {reg : Registry} {dto : UpdatePositionDto R}
    {companyId : Option String} {source : PositionSource} {t : PositionTable R} {c : String}
    (hallowed : admitPosition reg dto companyId source = some c)
    (h : LongBefore t dto.vehicleId dto.timestamp) (driverId : Option String) :
    ∃ t', t.create (dto.row driverId c source (detectTeleportation t dto source)) = some t' ∧
      savePosition reg driverId dto companyId source t
        = (some (dto.row driverId c source (detectTeleportation t dto source)), t') := by
  refine savePosition_of_new hallowed (h.not_duplicate _) (fun p hp hv => ?_) driverId
  have hbefore := h p hp hv
  have hskew : dedupClockSkew = 1000 := rfl
  omega

end DeliveryTracking.Tracking
