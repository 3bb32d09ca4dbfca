/-
# `DeliveryTracking.Deliveries.Tour` — the order of a tour

`optimizeTour` asks the router for the best order of the deliveries that are
found and have coordinates, and writes each its place in one transaction.  Three
index spaces meet: the ids as they were sent, the points sent to the router, and
the places the router gives the points.  An id that was sent twice is two points
and gets two places; the later write wins, and a place is missing.  So the places
are `1..k` exactly when no delivery that is found with coordinates was named
twice (`tour_sequence_iff`); whatever fails leaves every delivery as it was.
-/
import Mathlib.Data.List.Sort
import DeliveryTracking.Numbering
import DeliveryTracking.Table
import DeliveryTracking.Transaction

namespace DeliveryTracking.Deliveries

/-! ## What the calls exchange -/

/-- The columns of a delivery that a tour reads or writes. -/
structure TourStop (R : Type) where
  id : String
  companyId : String
  deletedAt : Option Int
  deliveryLat : Option R
  deliveryLng : Option R
  tourSequence : Option Nat
deriving DecidableEq

abbrev TourTable (R : Type) := Table (TourStop.id (R := R)) (@Eq String)

/-- One of `trips` in the router's answer. -/
structure Trip (R : Type) where
  coordinates : List (R × R)
  distance : R
  duration : R

/-- The body of an answer; `waypoints` holds each `waypoint_index`, in the order of the points. -/
structure TripData (R : Type) where
  code : String
  waypoints : Option (List Int)
  trips : Option (List (Trip R))

inductive TripAnswer (R : Type) where
  /-- `fetch` throws, or the request is aborted after 15 s. -/
  | unreachable
  /-- The status is not 2xx. -/
  | refused (status : Nat)
  /-- The body is not JSON. -/
  | garbled
  | data (d : TripData R)

inductive TourError where
  | tooFewIds
  | tooFewCoordinates
  | routingUnavailable
  | noTrip
  | garbledTrip
  /-- `valid[inputIndex].id` of an index past the end. -/
  | undefinedStop
  /-- The read, a write or the commit fails. -/
  | database
deriving DecidableEq

/-- Status and message of the exceptions thrown by name; the others are not caught. -/
def TourError.http : TourError → Option (Nat × String)
  | .tooFewIds =>
    some (400, "Au moins 2 livraisons sont nécessaires pour optimiser une tournée")
  | .tooFewCoordinates =>
    some (400, "Au moins 2 livraisons avec des coordonnées valides sont nécessaires pour optimiser une tournée")
  | .routingUnavailable => some (503, "Routing unavailable")
  | .noTrip => some (422, "Aucune tournée trouvée pour ces coordonnées")
  | .garbledTrip | .undefinedStop | .database => none

structure OptimizeTripResponse (R : Type) where
  order : List Nat
  polyline : List (R × R)
  distance : R
  duration : R
  provider : String

structure TourSkip where
  id : String
  reason : String
deriving DecidableEq

structure TourResult (R : Type) where
  order : List (String × Nat)
  distance : R
  duration : R
  skipped : List TourSkip

/-! ## The request -/

/-- A character of a version 4 UUID: `x` any hexadecimal digit, `y` the variant. -/
def uuidChar (shape c : Char) : Bool :=
  match shape with
  | 'x' => c.isDigit || ('a' ≤ c && c ≤ 'f') || ('A' ≤ c && c ≤ 'F')
  | 'y' => c ∈ ['8', '9', 'a', 'b', 'A', 'B']
  | _ => c == shape

/-- `@IsUUID('4')`. -/
def isUuid4 (s : String) : Bool :=
  s.toList.length == 36 &&
    ("xxxxxxxx-xxxx-4xxx-yxxx-xxxxxxxxxxxx".toList.zip s.toList).all fun p => uuidChar p.1 p.2

/-- The ids `OptimizeTourDto` accepts. -/
def optimizeTourDto (ids : List String) : Bool :=
  2 ≤ ids.length && ids.length ≤ 25 && ids.all isUuid4

/-! ## The router -/

section

variable {R : Type}

/-- The indices of the points, by their place in the tour. -/
def tripOrder (waypoints : List Int) : List Nat :=
  ((waypoints.zipIdx).insertionSort fun a b => a.1 ≤ b.1).map (·.2)

/-- The answer to the points, which are sent as longitude and latitude. -/
def optimizeTrip (fetch : List (R × R) → TripAnswer R) (coordinates : List (R × R)) :
    Except TourError (OptimizeTripResponse R) :=
  match fetch (coordinates.map Prod.swap) with
  | .unreachable | .refused _ => .error .routingUnavailable
  | .garbled => .error .garbledTrip
  | .data ⟨code, some (w :: ws), some (trip :: _)⟩ =>
    if code = "Ok" then
      .ok ⟨tripOrder (w :: ws), trip.coordinates.map Prod.swap, trip.distance, trip.duration, "osrm"⟩
    else .error .noTrip
  | .data _ => .error .noTrip

/-! ## `optimizeTour` -/

/-- What the call meets: whether the read, each write and the commit go through, and the router. -/
structure TourCall (R : Type) where
  reads : Bool
  fetch : List (R × R) → TripAnswer R
  writes : Nat → Bool
  commits : Bool

/-- A stop of the tour: an id as it was sent, with the coordinates. -/
structure ValidStop (R : Type) where
  id : String
  lat : R
  lng : R

/-- `findMany({ where: { id: { in: ids }, companyId, deletedAt: null } })`. -/
def tourDeliveries (db : TourTable R) (companyId : String) (ids : List String) : List (TourStop R) :=
  db.findMany fun d => ids.contains d.id && d.companyId == companyId && d.deletedAt.isNone

/-- One turn of the loop over the ids. -/
def sortId (deliveries : List (TourStop R)) (id : String) : Except TourSkip (ValidStop R) :=
  match deliveries.find? (·.id == id) with
  | none => .error ⟨id, "Delivery not found"⟩
  | some d =>
    match d.deliveryLat, d.deliveryLng with
    | some lat, some lng => .ok ⟨id, lat, lng⟩
    | _, _ => .error ⟨id, "No delivery coordinates"⟩

def tourValid (deliveries : List (TourStop R)) (ids : List String) : List (ValidStop R) :=
  ids.filterMap fun id => (sortId deliveries id).toOption

def tourSkipped (deliveries : List (TourStop R)) (ids : List String) : List TourSkip :=
  ids.filterMap fun id =>
    match sortId deliveries id with
    | .ok _ => none
    | .error skip => some skip

/-- `delivery.update({ where: { id }, data: { tourSequence } })`; a missing row is an error. -/
def setSequence (db : TourTable R) (id : String) (seq : Nat) : Option (TourTable R) :=
  if db.rows.any (·.id == id) then
    some (db.update (·.id == id) (fun d => { d with tourSequence := some seq }) fun _ => rfl)
  else none

/-- The writes of the transaction, one after another, from place `k` on. -/
def writeSequence (call : TourCall R) : Nat → List String → TourTable R →
    Except TourError Unit × TourTable R
  | _, [], db => (if call.commits then .ok () else .error .database, db)
  | k, id :: ids, db =>
    if call.writes k then
      match setSequence db id k with
      | some db' => writeSequence call (k + 1) ids db'
      | none => (.error .database, db)
    else (.error .database, db)

/-- The ids in the order of the tour. -/
def orderedIds (valid : List (ValidStop R)) (order : List Nat) : Option (List String) :=
  order.mapM fun i => valid[i]?.map (·.id)

def optimizeTour (call : TourCall R) (companyId : String) (ids : List String) (db : TourTable R) :
    Except TourError (TourResult R) × TourTable R :=
  if ids.length < 2 then (.error .tooFewIds, db)
  else if !call.reads then (.error .database, db)
  else
    let deliveries := tourDeliveries db companyId ids
    let valid := tourValid deliveries ids
    if valid.length < 2 then (.error .tooFewCoordinates, db)
    else
      match optimizeTrip call.fetch (valid.map fun v => (v.lat, v.lng)) with
      | .error e => (.error e, db)
      | .ok trip =>
        match orderedIds valid trip.order with
        | none => (.error .undefinedStop, db)
        | some ordered =>
          match transaction (writeSequence call 1 ordered) db with
          | (.error e, db') => (.error e, db')
          | (.ok (), db') =>
            (.ok ⟨ordered.zipIdx 1, trip.distance, trip.duration, tourSkipped deliveries ids⟩, db')

/-! ## What the call promises -/

/-- The deliveries a call processes: its company's, not deleted, named, with coordinates. -/
def processed (companyId : String) (ids : List String) (d : TourStop R) : Bool :=
  ids.contains d.id && d.companyId == companyId && d.deletedAt.isNone &&
    (d.deliveryLat.isSome && d.deliveryLng.isSome)

/-- The ids of these deliveries, as they were sent. -/
def processedIds (db : TourTable R) (companyId : String) (ids : List String) : List String :=
  ids.filter fun id => db.rows.any fun d => d.id == id && processed companyId ids d

def TourStop.unplaced (d : TourStop R) : TourStop R := { d with tourSequence := none }

/-- From `db` to `db'`, the deliveries `p` picks got the places `1..k`, the ones in `order`, and
nothing else happened. -/
structure Sequenced (p : TourStop R → Bool) (order : List (String × Nat)) (db db' : TourTable R) :
    Prop where
  places : ((db'.rows.filter p).map (·.tourSequence)).Perm
    ((List.range' 1 (db.rows.filter p).length).map some)
  answered : ∀ id seq, (id, seq) ∈ order ↔
    ∃ d ∈ db'.rows, p d = true ∧ d.id = id ∧ d.tourSequence = some seq
  others : db'.rows.filter (!p ·) = db.rows.filter (!p ·)
  columns : db'.rows.map TourStop.unplaced = db.rows.map TourStop.unplaced

/-- A call that returns has sequenced what it processes; one that throws has changed nothing. -/
def TourSound (companyId : String) (ids : List String) (db : TourTable R) :
    Except TourError (TourResult R) × TourTable R → Prop
  | (.ok result, db') => Sequenced (processed companyId ids) result.order db db'
  | (.error _, db') => db' = db

/-- The router gives every point a waypoint. -/
def WaypointEach (fetch : List (R × R) → TripAnswer R) : Prop :=
  ∀ points code waypoints trips, fetch points = .data ⟨code, some waypoints, trips⟩ →
    waypoints.length = points.length

/-- A trip for the points. -/
def TripAnswer.found : TripAnswer R → Bool
  | .data ⟨code, some (_ :: _), some (_ :: _)⟩ => code == "Ok"
  | _ => false

/-- Nothing the call meets fails: the database, and the router. -/
structure TourCall.Goes (call : TourCall R) (companyId : String) (ids : List String)
    (db : TourTable R) : Prop where
  reads : call.reads = true
  found : (call.fetch ((tourValid (tourDeliveries db companyId ids) ids).map
    fun v => (v.lng, v.lat))).found = true
  writes : ∀ k, 1 ≤ k → k ≤ (processedIds db companyId ids).length → call.writes k = true
  commits : call.commits = true

/-! ## The three index spaces -/

theorem mem_tourDeliveries {db : TourTable R} {companyId : String} {ids : List String}
    {d : TourStop R} : d ∈ tourDeliveries db companyId ids ↔
      d ∈ db.rows ∧ d.id ∈ ids ∧ d.companyId = companyId ∧ d.deletedAt = none := by
  simp [tourDeliveries, Table.findMany, and_assoc]

/-- Rows with one id are one row. -/
theorem TourStop.eq_of_id {db : TourTable R} {d e : TourStop R} (hd : d ∈ db.rows)
    (he : e ∈ db.rows) (h : d.id = e.id) : d = e :=
  Table.eq_of_clash (fun _ _ => Eq.symm) hd he h

/-- The stops are the processed deliveries, one for each time an id was sent. -/
theorem sortId_isOk {db : TourTable R} {companyId id : String} {ids : List String}
    (hid : id ∈ ids) : (sortId (tourDeliveries db companyId ids) id).toOption.map (·.id)
      = if db.rows.any (fun d => d.id == id && processed companyId ids d) then some id else none := by
  cases hfind : (tourDeliveries db companyId ids).find? (·.id == id) with
  | none =>
    have hnone : (db.rows.any fun d => d.id == id && processed companyId ids d) = false := by
      rw [List.any_eq_false]
      intro d hd h
      simp only [processed, Bool.and_eq_true, beq_iff_eq, List.contains_iff_mem,
        Option.isNone_iff_eq_none] at h
      have hmem := mem_tourDeliveries.mpr ⟨hd, h.2.1.1.1, h.2.1.1.2, h.2.1.2⟩
      have hne := List.find?_eq_none.mp hfind d hmem
      exact hne (by simp [h.1])
    rw [hnone, sortId, hfind]
    rfl
  | some d =>
    have hdid : d.id = id := by simpa using List.find?_some hfind
    obtain ⟨hd, -, hcompany, hdeleted⟩ := mem_tourDeliveries.mp (List.mem_of_find?_eq_some hfind)
    have hany : (db.rows.any fun d => d.id == id && processed companyId ids d)
        = (d.deliveryLat.isSome && d.deliveryLng.isSome) := by
      rw [Bool.eq_iff_iff, List.any_eq_true]
      constructor
      · rintro ⟨e, he, h⟩
        simp only [processed, Bool.and_eq_true, beq_iff_eq] at h
        rw [TourStop.eq_of_id hd he (hdid.trans h.1.symm)]
        simpa using h.2.2
      · intro h
        refine ⟨d, hd, ?_⟩
        simp only [Bool.and_eq_true] at h
        simp [processed, hdid, hid, hcompany, hdeleted, h.1, h.2]
    rw [hany, sortId, hfind]
    rcases hlat : d.deliveryLat with _ | lat <;> rcases hlng : d.deliveryLng with _ | lng <;>
      simp [hlat, hlng, Except.toOption]

theorem tourValid_ids (db : TourTable R) (companyId : String) (ids : List String) :
    (tourValid (tourDeliveries db companyId ids) ids).map (·.id)
      = processedIds db companyId ids := by
  rw [tourValid, List.map_filterMap, processedIds, ← List.filterMap_eq_filter]
  refine List.filterMap_congr ?_
  intro id hid
  rw [sortId_isOk hid, Option.guard]

/-- The order of a tour through `n` points is a permutation of their indices. -/
theorem tripOrder_perm (waypoints : List Int) :
    (tripOrder waypoints).Perm (List.range waypoints.length) := by
  have hperm := (List.perm_insertionSort (fun a b : Int × Nat => a.1 ≤ b.1)
    waypoints.zipIdx).map (·.2)
  rw [List.zipIdx_map_snd] at hperm
  rwa [List.range_eq_range']

theorem mapM_eq_some {α β : Type} {f : α → Option β} {g : α → β} : ∀ {l : List α},
    (∀ a ∈ l, f a = some (g a)) → l.mapM f = some (l.map g)
  | [], _ => rfl
  | a :: l, h => by
      rw [List.mapM_cons, h a List.mem_cons_self,
        mapM_eq_some fun b hb => h b (List.mem_cons_of_mem a hb)]
      rfl

/-- Read through a permutation of the indices, the stops are permuted. -/
theorem orderedIds_perm {valid : List (ValidStop R)} {order : List Nat}
    (h : order.Perm (List.range valid.length)) :
    ∃ ordered, orderedIds valid order = some ordered ∧ ordered.Perm (valid.map (·.id)) := by
  have hread : ∀ i ∈ order, valid[i]?.map (·.id) = some ((valid.map (·.id)).getD i "") := by
    intro i hi
    have hlt : i < valid.length := List.mem_range.mp (h.mem_iff.mp hi)
    simp [List.getD, hlt]
  refine ⟨_, mapM_eq_some hread, (h.map _).trans (List.Perm.of_eq ?_)⟩
  refine List.ext_getElem (by simp) ?_
  intro i hi hi'
  simp at hi'
  simp [List.getD, hi']

/-! ## The writes -/

theorem rows_of_setSequence {db db' : TourTable R} {id : String} {seq : Nat}
    (h : setSequence db id seq = some db') :
    db'.rows = db.rows.map fun d => if d.id == id then { d with tourSequence := some seq } else d := by
  unfold setSequence at h
  split_ifs at h
  cases h
  rfl

/-- A delivery with the place it got, if it got one. -/
def TourStop.placed (d : TourStop R) (place : Option Nat) : TourStop R :=
  match place with
  | none => d
  | some seq => { d with tourSequence := some seq }

@[simp] theorem placed_id (d : TourStop R) (place : Option Nat) : (d.placed place).id = d.id := by
  cases place <;> rfl

@[simp] theorem placed_unplaced (d : TourStop R) (place : Option Nat) :
    (d.placed place).unplaced = d.unplaced := by
  cases place <;> rfl

@[simp] theorem processed_placed (companyId : String) (ids : List String) (d : TourStop R)
    (place : Option Nat) : processed companyId ids (d.placed place) = processed companyId ids d := by
  cases place <;> rfl

/-- The writes leave every delivery with its number in the order of the tour. -/
theorem rows_of_writeSequence {call : TourCall R} : ∀ {ids : List String} {k : Nat}
    {db db' : TourTable R}, writeSequence call k ids db = (.ok (), db') →
    db'.rows = db.rows.map fun d => d.placed (number k ids d.id)
  | [], k, db, db', h => by
      have hdb : db' = db := (Prod.mk.inj h).2.symm
      rw [hdb]
      exact (List.map_id _).symm
  | id :: ids, k, db, db', h => by
      rw [writeSequence] at h
      split_ifs at h
      · cases hset : setSequence db id k with
        | none => simp [hset] at h
        | some db₁ =>
          rw [hset] at h
          rw [rows_of_writeSequence h, rows_of_setSequence hset, List.map_map]
          refine List.map_congr_left ?_
          intro d _
          simp only [Function.comp_apply, number]
          by_cases hid : d.id = id
          · rw [if_pos (beq_iff_eq.mpr hid), if_pos hid.symm, hid]
            cases number (k + 1) ids id <;> simp [TourStop.placed, hid]
          · rw [if_neg (by simpa using hid), if_neg (Ne.symm hid), Option.or_none]
      · cases h

/-- They go through just when none of them fails, and the commit does not. -/
theorem writeSequence_isOk (call : TourCall R) : ∀ {ids : List String} {k : Nat} {db : TourTable R},
    (∀ id ∈ ids, ∃ d ∈ db.rows, d.id = id) →
    ((writeSequence call k ids db).1 = .ok () ↔
      call.commits = true ∧ ∀ i, k ≤ i → i < k + ids.length → call.writes i = true)
  | [], k, db, _ => by
      rw [writeSequence]
      cases call.commits
      · simp
      · simp only [if_true, true_and, true_iff, List.length_nil]
        intro i hi hi'
        omega
  | id :: ids, k, db, h => by
      obtain ⟨d, hd, hid⟩ := h id List.mem_cons_self
      have hany : (db.rows.any (·.id == id)) = true := List.any_eq_true.mpr ⟨d, hd, by simp [hid]⟩
      obtain ⟨db₁, hset⟩ : ∃ db₁, setSequence db id k = some db₁ := ⟨_, if_pos hany⟩
      have hrest : ∀ id' ∈ ids, ∃ d ∈ db₁.rows, d.id = id' := by
        intro id' hid'
        obtain ⟨e, he, heid⟩ := h id' (List.mem_cons_of_mem id hid')
        rw [rows_of_setSequence hset]
        refine ⟨_, List.mem_map_of_mem he, ?_⟩
        split <;> exact heid
      rw [writeSequence, hset]
      cases hk : call.writes k with
      | false =>
        refine iff_of_false (by simp) ?_
        rintro ⟨-, hall⟩
        simp [hall k (Nat.le_refl k) (by simp)] at hk
      | true =>
        rw [if_pos rfl]
        refine (writeSequence_isOk call hrest).trans (and_congr_right fun _ => ⟨?_, ?_⟩)
        · intro hall i hi hi'
          rcases Nat.eq_or_lt_of_le hi with rfl | hlt
          · exact hk
          · exact hall i hlt (by simp at hi'; omega)
        · intro hall i hi hi'
          exact hall i (by omega) (by simp; omega)

/-! ## A whole call -/

theorem found_of_optimizeTrip {fetch : List (R × R) → TripAnswer R} {coordinates : List (R × R)}
    {trip : OptimizeTripResponse R} (h : optimizeTrip fetch coordinates = .ok trip) :
    (fetch (coordinates.map Prod.swap)).found = true := by
  unfold optimizeTrip at h
  split at h <;> try cases h
  rename_i hfetch
  split_ifs at h with hcode
  rw [hfetch]
  simp [TripAnswer.found, hcode]

/-- A trip found gives an order of the points. -/
theorem optimizeTrip_of_found {fetch : List (R × R) → TripAnswer R} (hw : WaypointEach fetch)
    {coordinates : List (R × R)} (h : (fetch (coordinates.map Prod.swap)).found = true) :
    ∃ trip, optimizeTrip fetch coordinates = .ok trip ∧
      trip.order.Perm (List.range coordinates.length) := by
  cases hfetch : fetch (coordinates.map Prod.swap) with
  | unreachable => simp [hfetch, TripAnswer.found] at h
  | refused status => simp [hfetch, TripAnswer.found] at h
  | garbled => simp [hfetch, TripAnswer.found] at h
  | data d =>
    rw [hfetch] at h
    obtain ⟨code, waypoints, trips⟩ := d
    match waypoints, trips, hfetch, h with
    | some (w :: ws), some (trip :: rest), hfetch, h =>
      have hcode : code = "Ok" := by simpa [TripAnswer.found] using h
      have hlen := hw _ _ _ _ hfetch
      rw [List.length_map] at hlen
      refine ⟨_, by rw [optimizeTrip, hfetch]; exact if_pos hcode, ?_⟩
      rw [← hlen]
      exact tripOrder_perm (w :: ws)
    | none, _, _, h => simp [TripAnswer.found] at h
    | some [], _, _, h => simp [TripAnswer.found] at h
    | some (_ :: _), none, _, h => simp [TripAnswer.found] at h
    | some (_ :: _), some [], _, h => simp [TripAnswer.found] at h

theorem exists_of_mem_processedIds {db : TourTable R} {companyId id : String} {ids : List String}
    (h : id ∈ processedIds db companyId ids) :
    ∃ d ∈ db.rows, d.id = id ∧ processed companyId ids d = true := by
  obtain ⟨d, hd, hp⟩ := List.any_eq_true.mp (List.mem_filter.mp h).2
  simp only [Bool.and_eq_true, beq_iff_eq] at hp
  exact ⟨d, hd, hp.1, hp.2⟩

/-- The order that was written: the stops, each once for every time its id was sent. -/
def TourWritten (companyId : String) (ids : List String) (result : TourResult R)
    (db db' : TourTable R) : Prop :=
  ∃ ordered : List String, ordered.Perm (processedIds db companyId ids) ∧
    result.order = ordered.zipIdx 1 ∧
    db'.rows = db.rows.map fun d => d.placed (number 1 ordered d.id)

/-- A call throws and leaves the table alone, or it writes the tour; the latter, with two stops at
least, just when nothing it meets fails. -/
theorem optimizeTour_cases {call : TourCall R} (hw : WaypointEach call.fetch) (companyId : String)
    (ids : List String) (db : TourTable R) :
    (∃ e, optimizeTour call companyId ids db = (.error e, db)) ∧
      ((processedIds db companyId ids).length < 2 ∨ ¬call.Goes companyId ids db) ∨
    (∃ result db', optimizeTour call companyId ids db = (.ok result, db') ∧
      TourWritten companyId ids result db db') ∧ call.Goes companyId ids db := by
  have hids := tourValid_ids db companyId ids
  have hlen : (tourValid (tourDeliveries db companyId ids) ids).length
      = (processedIds db companyId ids).length := by rw [← hids, List.length_map]
  unfold optimizeTour
  by_cases hfew : ids.length < 2
  · refine .inl ⟨⟨_, if_pos hfew⟩, .inl ?_⟩
    exact lt_of_le_of_lt (List.length_filter_le _ _) hfew
  rw [if_neg hfew]
  cases hreads : call.reads with
  | false =>
    exact .inl ⟨⟨_, rfl⟩, .inr fun hgoes => by simp [hgoes.reads] at hreads⟩
  | true =>
    simp only [Bool.not_true, Bool.false_eq_true, if_false]
    by_cases hshort : (tourValid (tourDeliveries db companyId ids) ids).length < 2
    · exact .inl ⟨⟨_, if_pos hshort⟩, .inl (hlen ▸ hshort)⟩
    rw [if_neg hshort]
    have hpoints : (((tourValid (tourDeliveries db companyId ids) ids).map
        fun v => (v.lat, v.lng)).map Prod.swap)
          = (tourValid (tourDeliveries db companyId ids) ids).map fun v => (v.lng, v.lat) := by
      rw [List.map_map]
      rfl
    cases htrip : optimizeTrip call.fetch ((tourValid (tourDeliveries db companyId ids) ids).map
        fun v => (v.lat, v.lng)) with
    | error e =>
      refine .inl ⟨⟨e, rfl⟩, .inr fun hgoes => ?_⟩
      obtain ⟨trip, hok, -⟩ := optimizeTrip_of_found hw (hpoints ▸ hgoes.found)
      rw [hok] at htrip
      cases htrip
    | ok trip =>
      have hfound := found_of_optimizeTrip htrip
      obtain ⟨trip', hok, hperm⟩ := optimizeTrip_of_found hw hfound
      rw [htrip] at hok
      cases hok
      rw [List.length_map] at hperm
      obtain ⟨ordered, hordered, hstops⟩ := orderedIds_perm hperm
      rw [hids] at hstops
      have hthere : ∀ id ∈ ordered, ∃ d ∈ db.rows, d.id = id := by
        intro id hid
        obtain ⟨d, hd, hdid, -⟩ := exists_of_mem_processedIds (hstops.mem_iff.mp hid)
        exact ⟨d, hd, hdid⟩
      have hwrites := writeSequence_isOk call (k := 1) hthere
      rw [hstops.length_eq] at hwrites
      simp only [hordered]
      rcases hwrite : writeSequence call 1 ordered db with ⟨_ | _, db'⟩
      · refine .inl ⟨⟨_, by rw [transaction, hwrite]⟩, .inr fun hgoes => ?_⟩
        have hok := hwrites.mpr ⟨hgoes.commits, fun i hi hi' => hgoes.writes i hi (by omega)⟩
        rw [hwrite] at hok
        cases hok
      · obtain ⟨hcommits, hall⟩ := hwrites.mp (by rw [hwrite])
        refine .inr ⟨⟨_, db', by rw [transaction, hwrite], ⟨ordered, hstops, rfl, ?_⟩⟩,
          hreads, hpoints ▸ hfound, fun k hk hk' => hall k hk (by omega), hcommits⟩
        exact rows_of_writeSequence hwrite

/-- The processed rows have the processed ids, each once. -/
theorem ids_processed (db : TourTable R) (companyId : String) (ids : List String) :
    ((db.rows.filter (processed companyId ids)).map (·.id)).Nodup ∧
      ∀ id, id ∈ (db.rows.filter (processed companyId ids)).map (·.id) ↔
        id ∈ processedIds db companyId ids := by
  refine ⟨List.pairwise_map.mpr (db.unique.sublist List.filter_sublist), ?_⟩
  intro id
  constructor
  · intro h
    obtain ⟨d, hd, rfl⟩ := List.mem_map.mp h
    obtain ⟨hrow, hp⟩ := List.mem_filter.mp hd
    refine List.mem_filter.mpr ⟨?_, List.any_eq_true.mpr ⟨d, hrow, by simp [hp]⟩⟩
    simp only [processed, Bool.and_eq_true, List.contains_iff_mem] at hp
    exact hp.1.1.1
  · intro h
    obtain ⟨d, hd, rfl, hp⟩ := exists_of_mem_processedIds h
    exact List.mem_map_of_mem (List.mem_filter.mpr ⟨hd, hp⟩)

/-- What is written is a sequence just when no processed id was sent twice. -/
theorem sequenced_iff {companyId : String} {ids : List String} {result : TourResult R}
    {db db' : TourTable R} (h : TourWritten companyId ids result db db') :
    Sequenced (processed companyId ids) result.order db db' ↔
      (processedIds db companyId ids).Nodup := by
  obtain ⟨ordered, hperm, horder, hrows⟩ := h
  obtain ⟨hnodup, hmem⟩ := ids_processed db companyId ids
  have hmem' : ∀ id, id ∈ (db.rows.filter (processed companyId ids)).map (·.id) ↔ id ∈ ordered :=
    fun id => (hmem id).trans hperm.mem_iff.symm
  have hfilter : db'.rows.filter (processed companyId ids)
      = (db.rows.filter (processed companyId ids)).map fun d => d.placed (number 1 ordered d.id) := by
    rw [hrows, List.filter_map]
    congr 1
    refine List.filter_congr ?_
    intro d _
    exact processed_placed _ _ _ _
  have hseq : ∀ d ∈ db.rows.filter (processed companyId ids),
      (d.placed (number 1 ordered d.id)).tourSequence = number 1 ordered d.id := by
    intro d hd
    obtain ⟨i, hi⟩ := Option.ne_none_iff_exists'.mp (fun hnone =>
      number_eq_none_iff.mp hnone ((hmem' d.id).mp (List.mem_map_of_mem hd)))
    rw [hi]
    rfl
  have hplaces : (db'.rows.filter (processed companyId ids)).map (·.tourSequence)
      = ((db.rows.filter (processed companyId ids)).map (·.id)).map (number 1 ordered) := by
    rw [hfilter, List.map_map, List.map_map]
    exact List.map_congr_left hseq
  have hiff := perm_number_iff hnodup hmem'
  rw [← hplaces, List.length_map, hperm.nodup_iff] at hiff
  refine ⟨fun hsound => hiff.mp hsound.places, fun hids => ⟨hiff.mpr hids, ?_, ?_, ?_⟩⟩
  · intro id seq
    rw [horder, mem_zipIdx_iff_number (hperm.nodup_iff.mpr hids)]
    constructor
    · intro hnumber
      have hid : id ∈ ordered := by
        by_contra hnot
        rw [number_eq_none_iff.mpr hnot] at hnumber
        cases hnumber
      obtain ⟨d, hd, rfl⟩ := List.mem_map.mp ((hmem' id).mpr hid)
      have hd' : d.placed (number 1 ordered d.id) ∈ db'.rows.filter (processed companyId ids) :=
        hfilter ▸ List.mem_map_of_mem hd
      exact ⟨_, (List.mem_filter.mp hd').1, (List.mem_filter.mp hd').2, placed_id _ _,
        (hseq d hd).trans hnumber⟩
    · rintro ⟨e, he, hp, rfl, hplace⟩
      have he' : e ∈ db'.rows.filter (processed companyId ids) := List.mem_filter.mpr ⟨he, hp⟩
      rw [hfilter] at he'
      obtain ⟨d, hd, rfl⟩ := List.mem_map.mp he'
      rw [placed_id, ← hseq d hd, hplace]
  · rw [hrows, List.filter_map]
    have hkeep : ∀ d ∈ db.rows.filter (!processed companyId ids ·),
        d.placed (number 1 ordered d.id) = d := by
      intro d hd
      obtain ⟨hrow, hp⟩ := List.mem_filter.mp hd
      have hnot : d.id ∉ ordered := by
        intro hid
        obtain ⟨e, he, heid⟩ := List.mem_map.mp ((hmem' d.id).mpr hid)
        obtain ⟨herow, hep⟩ := List.mem_filter.mp he
        rw [TourStop.eq_of_id herow hrow heid] at hep
        simp [hep] at hp
      rw [number_eq_none_iff.mpr hnot]
      rfl
    have hcongr : db.rows.filter ((!processed companyId ids ·) ∘ fun d =>
        d.placed (number 1 ordered d.id)) = db.rows.filter (!processed companyId ids ·) := by
      refine List.filter_congr ?_
      intro d _
      simp
    rw [hcongr]
    exact (List.map_congr_left hkeep).trans (List.map_id _)
  · rw [hrows, List.map_map]
    refine List.map_congr_left ?_
    intro d _
    exact placed_unplaced _ _

/-- A tour gives the deliveries it processes the places `1..k`, and leaves everything as it was
when anything fails, just when no processed delivery was named twice — or something fails. -/
theorem tour_sequence_iff (call : TourCall R) (hw : WaypointEach call.fetch) (companyId : String)
    (ids : List String) (db : TourTable R) :
    TourSound companyId ids db (optimizeTour call companyId ids db) ↔
      (processedIds db companyId ids).Nodup ∨ ¬call.Goes companyId ids db := by
  rcases optimizeTour_cases hw companyId ids db with
    ⟨⟨e, herror⟩, hwhy⟩ | ⟨⟨r, db', hok, hwrite⟩, hgoes⟩
  · rw [herror]
    refine iff_of_true rfl (hwhy.imp_left ?_)
    intro hshort
    match hids : processedIds db companyId ids, hshort with
    | [], _ => exact List.nodup_nil
    | [id], _ => exact List.nodup_singleton id
  · rw [hok]
    exact (sequenced_iff hwrite).trans (or_iff_left (not_not.mpr hgoes)).symm

end

/-! ## Two deliveries, one of them sent twice -/

section

/-- Two deliveries with coordinates. -/
def twoStops : TourTable Int :=
  ⟨[⟨"6f1c2f0e-9a57-4b1e-8d1c-3c1f6a2b7d01", "c", none, some (-18910), some 47520, none⟩,
    ⟨"6f1c2f0e-9a57-4b1e-8d1c-3c1f6a2b7d02", "c", none, some (-18950), some 47550, none⟩], by
    simp⟩

/-- The first of them, twice, and the second. -/
def repeatedIds : List String :=
  ["6f1c2f0e-9a57-4b1e-8d1c-3c1f6a2b7d01", "6f1c2f0e-9a57-4b1e-8d1c-3c1f6a2b7d01",
    "6f1c2f0e-9a57-4b1e-8d1c-3c1f6a2b7d02"]

/-- Nothing fails, and the router keeps the order of the points. -/
def steadyCall : TourCall Int where
  reads := true
  fetch points := .data ⟨"Ok", some ((List.range points.length).map Int.ofNat), some [⟨[], 9000, 700⟩]⟩
  writes _ := true
  commits := true

theorem steadyCall_waypoints : WaypointEach steadyCall.fetch := by
  intro points code waypoints trips h
  cases h
  simp

theorem processedIds_repeated : processedIds twoStops "c" repeatedIds = repeatedIds := by
  simp [processedIds, twoStops, repeatedIds, processed]

theorem steadyCall_goes : steadyCall.Goes "c" repeatedIds twoStops where
  reads := rfl
  found := by
    simp [steadyCall, tourValid, tourDeliveries, twoStops, repeatedIds, sortId, Table.findMany,
      TripAnswer.found, List.range_succ, Except.toOption]
  writes _ _ _ := rfl
  commits := rfl

/-- The request is accepted.  The second place of the first delivery stays, the other delivery gets
`3`, and none has `1`. -/
theorem tour_skips_a_place : optimizeTourDto repeatedIds = true ∧
    ¬TourSound "c" repeatedIds twoStops (optimizeTour steadyCall "c" repeatedIds twoStops) := by
  refine ⟨by decide, ?_⟩
  rcases optimizeTour_cases steadyCall_waypoints "c" repeatedIds twoStops with
    ⟨-, hwhy⟩ | ⟨⟨result, db', hok, hwrite⟩, -⟩
  · rw [processedIds_repeated] at hwhy
    exact absurd steadyCall_goes (hwhy.resolve_left (by decide))
  · rw [hok]
    intro hsound
    have hnodup := (sequenced_iff hwrite).mp hsound
    rw [processedIds_repeated] at hnodup
    exact absurd hnodup (by decide)

/-- Sent once each, they get the places `1` and `2`. -/
theorem tour_sequence_iff_two_stops :
    TourSound "c" (repeatedIds.drop 1) twoStops
      (optimizeTour steadyCall "c" (repeatedIds.drop 1) twoStops) :=
  (tour_sequence_iff steadyCall steadyCall_waypoints "c" (repeatedIds.drop 1) twoStops).mpr
    (.inl (by simp [processedIds, twoStops, repeatedIds, processed]))

end

end DeliveryTracking.Deliveries
