/-
# `DeliveryTracking.Tracking.LivePositions` — the map of the vehicles, read and followed

The page of the map asks for the positions of its company once (`getLivePositions`) and
then merges what the server sends for each fix of a phone (`handlePosition`).  Neither
shows a fix where it is: a stopped vehicle is drawn at the anchor of its recent fixes, a
suspect fix leaves it at the last reliable one.  The two compute this apart, from
different queries, at different times.

    shownAt v   the newest fix of the vehicle, drawn at the anchor of its forty newest
                reliable fixes, else at the newest of them

is what both arrive at (`get_load`, `Followed`), while these forty are recent and the
fixes of the vehicle come in order.
-/
import DeliveryTracking.Runs
import DeliveryTracking.LiveMap
import DeliveryTracking.Geo.AnchorBounds
import DeliveryTracking.Table

namespace DeliveryTracking.Tracking.LivePositions

open DeliveryTracking.LiveMap DeliveryTracking.Grouping DeliveryTracking.Geo

def PER_VEHICLE_ANCHOR_FIXES : Nat := 40

/-- `INTERVAL '48 hours'` -/
def RECENT_MS : Int := 48 * 60 * 60 * 1000

/-- A row of `gps_positions`; `motion` is `attributes.motion`, if that is a boolean. -/
structure GpsPosition (R : Type) where
  vehicleId : String
  driverId : Option String
  deliveryId : Option String
  latitude : R
  longitude : R
  speed : Option R
  heading : Option R
  accuracy : Option R
  motion : Option Bool
  suspect : Bool
  timestamp : Int
  createdAt : Int
  deriving DecidableEq

structure Vehicle where
  id : String
  companyId : String
  isActive : Bool
  deleted : Bool
  physicalTracker : Bool

structure Driver where
  id : String
  firstName : String
  lastName : String
  isActive : Bool
  deleted : Bool

/-- The tables that do not change here. -/
structure Fleet where
  vehicles : List Vehicle
  drivers : List Driver

variable {R : Type}

/-! ## Queries -/

def GpsPosition.fix (row : GpsPosition R) : AnchorFix R :=
  { latitude := row.latitude, longitude := row.longitude, accuracy := row.accuracy,
    speed := row.speed, motion := row.motion, timestamp := row.timestamp }

def GpsPosition.place (row : GpsPosition R) : LatLng R := ⟨row.latitude, row.longitude⟩

/-- `ORDER BY timestamp DESC LIMIT 1` -/
def newest (rows : List (GpsPosition R)) : Option (GpsPosition R) :=
  lastBy GpsPosition.timestamp rows

def ofVehicle (v : String) (rows : List (GpsPosition R)) : List (GpsPosition R) :=
  rows.filter fun row => row.vehicleId = v

def reliable (v : String) (rows : List (GpsPosition R)) : List (GpsPosition R) :=
  rows.filter fun row => row.vehicleId = v ∧ row.suspect = false

/-- `getLastPosition`, suspect fixes excluded -/
def getLastPosition (v : String) (rows : List (GpsPosition R)) : Option (GpsPosition R) :=
  newest (reliable v rows)

/-- What the window of `getRecentFixesByVehicle` numbers. -/
def recentCandidates (now : Int) (vehicleIds : List String) (rows : List (GpsPosition R)) :
    List (GpsPosition R) :=
  rows.filter fun row =>
    row.vehicleId ∈ vehicleIds ∧ row.suspect = false ∧ now - RECENT_MS ≤ row.timestamp

/-- `ROW_NUMBER() OVER (PARTITION BY vehicle_id ORDER BY timestamp DESC)`, no two fixes of a
vehicle being of one time -/
def rowNumber (candidates : List (GpsPosition R)) (row : GpsPosition R) : Nat :=
  candidates.countP (fun other =>
    decide (other.vehicleId = row.vehicleId) && decide (row.timestamp < other.timestamp)) + 1

def recentRows (now : Int) (vehicleIds : List String) (rows : List (GpsPosition R)) :
    List (GpsPosition R) :=
  (recentCandidates now vehicleIds rows).filter fun row =>
    rowNumber (recentCandidates now vehicleIds rows) row ≤ PER_VEHICLE_ANCHOR_FIXES

def oldestFirst (list : List (AnchorFix R)) : List (AnchorFix R) :=
  list.insertionSort fun a b => a.timestamp ≤ b.timestamp

def getRecentFixesByVehicle (now : Int) (vehicleIds : List String) (rows : List (GpsPosition R)) :
    List (String × List (AnchorFix R)) :=
  (collect GpsPosition.vehicleId [] (fun list row => list ++ [row.fix]) []
    (recentRows now vehicleIds rows)).map fun e => (e.1, oldestFirst e.2)

section Display

variable [Field R] [LinearOrder R] [JsMath R]

def computeAnchorByVehicle (now : Int) (vehicleIds : List String) (rows : List (GpsPosition R)) :
    List (String × LatLng R) :=
  (getRecentFixesByVehicle now vehicleIds rows).filterMap fun e =>
    (computeAnchoredPosition e.2).map fun anchor => (e.1, anchor)

/-- `speed == null || speed < 0.5` -/
def stopped (speed : Option R) : Bool := speed.all fun speed => decide (speed < 1 / 2)

def getDisplayPosition (now : Int) (rows : List (GpsPosition R)) (v : String) (speed : Option R)
    (suspect : Bool) : Option (LatLng R) :=
  if suspect then none
  else if stopped speed then get v (computeAnchorByVehicle now [v] rows)
  else none

/-! ## `getLivePositions` -/

/-- The newest position of each vehicle of the company. -/
def latestPositions (fleet : Fleet) (companyId : String) (rows : List (GpsPosition R)) :
    List (GpsPosition R) :=
  (fleet.vehicles.filter fun v => v.companyId = companyId ∧ v.deleted = false ∧ v.isActive).filterMap
    fun v => newest (ofVehicle v.id rows)

def suspectVehicleIds (positions : List (GpsPosition R)) : List String :=
  (positions.filter GpsPosition.suspect).map GpsPosition.vehicleId

def stoppedVehicleIds (positions : List (GpsPosition R)) : List String :=
  (positions.filter fun p => p.suspect || stopped p.speed).map GpsPosition.vehicleId

/-- `lastGoodByVehicle.get(vehicleId)` -/
def lastGood (vehicleIds : List String) (rows : List (GpsPosition R)) (v : String) :
    Option (LatLng R) :=
  if v ∈ vehicleIds then (newest (reliable v rows)).map GpsPosition.place else none

def driverName (fleet : Fleet) (driverId : Option String) : String :=
  match driverId.bind fun id =>
      fleet.drivers.find? fun d => d.id = id ∧ d.deleted = false ∧ d.isActive with
  | none => FALLBACK_DRIVER_NAME
  | some d =>
      if d.firstName = "" ∨ d.lastName = "" then FALLBACK_DRIVER_NAME
      else d.firstName ++ " " ++ d.lastName

def livePosition (fleet : Fleet) (now : Int) (anchor lastGood : Option (LatLng R))
    (p : GpsPosition R) : LivePositionInput R where
  vehicleId := p.vehicleId
  driverName := some (driverName fleet p.driverId)
  latitude := p.latitude
  longitude := p.longitude
  displayLatitude := some ((anchor <|> lastGood).getD p.place).latitude
  displayLongitude := some ((anchor <|> lastGood).getD p.place).longitude
  speed := p.speed
  heading := p.heading
  accuracy := p.accuracy
  suspect := some p.suspect
  timestamp := some p.timestamp
  deliveryId := p.deliveryId
  minutesAgo := some (((now - p.timestamp : Int) : R) / 60000)
  receivedAt := some (some p.createdAt)

def getLivePositions (fleet : Fleet) (companyId : String) (now : Int)
    (rows : List (GpsPosition R)) : List (LivePositionInput R) :=
  (latestPositions fleet companyId rows).map fun p =>
    livePosition fleet now
      (get p.vehicleId
        (computeAnchorByVehicle now (stoppedVehicleIds (latestPositions fleet companyId rows)) rows))
      (lastGood (suspectVehicleIds (latestPositions fleet companyId rows)) rows p.vehicleId) p

/-! ## `handlePosition` -/

/-- The fix of a phone is saved, or refused. -/
def savePosition (fleet : Fleet) (companyId : String) (rows : List (GpsPosition R))
    (row : GpsPosition R) : Option (List (GpsPosition R)) :=
  if row.vehicleId.length < 16 then none
  else if row.deliveryId.any fun deliveryId => decide (deliveryId.length < 16) then none
  else
    match fleet.vehicles.find? fun v => v.id = row.vehicleId ∧ v.deleted = false ∧ v.isActive with
    | none => none
    | some vehicle =>
        if vehicle.companyId ≠ companyId then none
        else if vehicle.physicalTracker then none
        -- the unique constraint on the vehicle and the time
        else if rows.any fun other =>
            decide (other.vehicleId = row.vehicleId ∧ other.timestamp = row.timestamp) then none
        else some (rows ++ [row])

/-- What the gateway knows of a fix besides its row. -/
structure Sender (R : Type) where
  companyId : String
  firstName : String
  lastName : String
  confidence : R

def broadcast (now : Int) (rows : List (GpsPosition R)) (sender : Sender R) (row : GpsPosition R) :
    PositionUpdateInput R where
  vehicleId := row.vehicleId
  driverId := row.driverId
  driverName := some (sender.firstName ++ " " ++ sender.lastName)
  latitude := row.latitude
  longitude := row.longitude
  displayLatitude := some
    ((getDisplayPosition now rows row.vehicleId row.speed row.suspect).getD row.place).latitude
  displayLongitude := some
    ((getDisplayPosition now rows row.vehicleId row.speed row.suspect).getD row.place).longitude
  speed := row.speed
  heading := row.heading
  accuracy := row.accuracy
  suspect := some row.suspect
  confidence := some sender.confidence
  timestamp := some row.timestamp
  deliveryId := row.deliveryId

/-- The fix is older than the last reliable one. -/
def outOfOrder (rows : List (GpsPosition R)) (row : GpsPosition R) : Bool :=
  (getLastPosition row.vehicleId rows).any fun last => decide (row.timestamp < last.timestamp)

/-! ## The server and a page -/

/-- The rows of the server, and the map of a page of `companyId`. -/
structure Live (R : Type) where
  now : Int
  rows : List (GpsPosition R)
  vehicles : VehicleMap R

inductive Event (R : Type) where
  | elapse (ms : Nat)
  /-- The page is opened again. -/
  | load (etaFor : Option (LivePositionInput R → Option String))
  /-- The page asks for the positions again. -/
  | refetch (etaFor : Option (LivePositionInput R → Option String))
  | fix (sender : Sender R) (row : GpsPosition R)
      (etaFor : Option (PositionUpdateInput R → Option String)) (browserNow : Int)

/-- The map of a page that is opened now. -/
def loaded (fleet : Fleet) (companyId : String)
    (etaFor : Option (LivePositionInput R → Option String)) (s : Live R) : VehicleMap R :=
  mergeBootstrapPositions etaFor [] (getLivePositions fleet companyId s.now s.rows)

def handlePosition (companyId : String) (sender : Sender R) (row : GpsPosition R)
    (etaFor : Option (PositionUpdateInput R → Option String)) (browserNow : Int)
    (rows : List (GpsPosition R)) (s : Live R) : Live R :=
  if outOfOrder s.rows row ∨ sender.companyId ≠ companyId then { s with rows := rows }
  else
    { s with
      rows := rows
      vehicles :=
        mergePositionUpdate etaFor browserNow s.vehicles (broadcast s.now rows sender row) }

def step (fleet : Fleet) (companyId : String) (s : Live R) : Event R → Option (Live R)
  | .elapse ms => some { s with now := s.now + ms }
  | .load etaFor => some { s with vehicles := loaded fleet companyId etaFor s }
  | .refetch etaFor =>
      some { s with
        vehicles := mergeBootstrapPositions etaFor s.vehicles
          (getLivePositions fleet companyId s.now s.rows) }
  | .fix sender row etaFor browserNow =>
      (savePosition fleet sender.companyId s.rows row).map fun rows =>
        handlePosition companyId sender row etaFor browserNow rows s

end Display

/-! ## What the queries find -/

/-- No two rows of a vehicle are of one time. -/
def Unique (rows : List (GpsPosition R)) : Prop :=
  ∀ a ∈ rows, ∀ b ∈ rows, a.vehicleId = b.vehicleId → a.timestamp = b.timestamp → a = b

/-- The forty newest of the reliable rows. -/
def newestReliable (v : String) (rows : List (GpsPosition R)) : List (GpsPosition R) :=
  (reliable v rows).filter fun row =>
    rowNumber (reliable v rows) row ≤ PER_VEHICLE_ANCHOR_FIXES

section Queries

variable {now : Int} {v : String} {vehicleIds : List String} {rows : List (GpsPosition R)}
  {row p : GpsPosition R}

theorem mem_ofVehicle : row ∈ ofVehicle v rows ↔ row ∈ rows ∧ row.vehicleId = v := by
  simp [ofVehicle]

theorem mem_reliable :
    row ∈ reliable v rows ↔ row ∈ rows ∧ row.vehicleId = v ∧ row.suspect = false := by
  simp [reliable]

theorem newest_mem (h : newest rows = some p) : p ∈ rows := mem_of_lastBy h

theorem le_newest (h : newest rows = some p) (hrow : row ∈ rows) : row.timestamp ≤ p.timestamp :=
  le_of_lastBy h hrow

theorem exists_newest (hrow : row ∈ rows) : ∃ p, newest rows = some p := by
  have hlast : ∃ p, newest rows = some p ∧ row.timestamp ≤ p.timestamp := exists_lastBy hrow
  exact hlast.imp fun _ h => h.1

theorem newest_append (hlt : ∀ other ∈ rows, other.timestamp < row.timestamp) :
    newest (rows ++ [row]) = some row := by
  rw [newest, lastBy_concat]
  cases hlast : lastBy GpsPosition.timestamp rows with
  | none => rfl
  | some p => exact if_pos (hlt p (mem_of_lastBy hlast))

/-- Where the newest fix is reliable, it is the last reliable one. -/
theorem getLastPosition_of_newest (hunique : Unique rows) (hp : newest (ofVehicle v rows) = some p)
    (hsuspect : p.suspect = false) : getLastPosition v rows = some p := by
  obtain ⟨hmem, hv⟩ := mem_ofVehicle.mp (newest_mem hp)
  have hreliable : p ∈ reliable v rows := mem_reliable.mpr ⟨hmem, hv, hsuspect⟩
  obtain ⟨g, hg⟩ := exists_newest hreliable
  obtain ⟨hgmem, hgv, -⟩ := mem_reliable.mp (newest_mem hg)
  have hle : g.timestamp ≤ p.timestamp := le_newest hp (mem_ofVehicle.mpr ⟨hgmem, hgv⟩)
  have hge : p.timestamp ≤ g.timestamp := le_newest hg hreliable
  obtain rfl : g = p := hunique g hgmem p hmem (hgv.trans hv.symm) (Int.le_antisymm hle hge)
  exact hg

/-! ### The recent fixes -/

/-- What is newer than a recent row is recent, so the window changes no number. -/
theorem rowNumber_recentCandidates (hv : row.vehicleId ∈ vehicleIds)
    (hrecent : now - RECENT_MS ≤ row.timestamp) :
    rowNumber (recentCandidates now vehicleIds rows) row =
      rowNumber (reliable row.vehicleId rows) row := by
  refine congrArg (· + 1) ?_
  rw [recentCandidates, reliable, List.countP_filter, List.countP_filter]
  refine List.countP_congr fun other _ => ?_
  simp only [Bool.and_eq_true, decide_eq_true_eq]
  constructor
  · rintro ⟨⟨hsame, hlt⟩, -, hsuspect, -⟩
    exact ⟨⟨hsame, hlt⟩, hsame, hsuspect⟩
  · rintro ⟨⟨hsame, hlt⟩, -, hsuspect⟩
    exact ⟨⟨hsame, hlt⟩, hsame ▸ hv, hsuspect, Int.le_trans hrecent (Int.le_of_lt hlt)⟩

/-- The other vehicles that are asked for do not matter. -/
theorem ofVehicle_recentRows (hv : v ∈ vehicleIds) :
    ofVehicle v (recentRows now vehicleIds rows) =
      (newestReliable v rows).filter fun row => now - RECENT_MS ≤ row.timestamp := by
  have hnumber : ∀ row ∈ rows,
      (row.vehicleId = v ∧ (row.suspect = false ∧ now - RECENT_MS ≤ row.timestamp)) →
        rowNumber (recentCandidates now vehicleIds rows) row =
          rowNumber (reliable v rows) row := by
    rintro row - ⟨rfl, -, hrecent⟩
    exact rowNumber_recentCandidates hv hrecent
  rw [ofVehicle, recentRows, recentCandidates, newestReliable, reliable, List.filter_filter,
    List.filter_filter, List.filter_filter, List.filter_filter]
  refine List.filter_congr fun row hrow => ?_
  rw [Bool.eq_iff_iff]
  simp only [Bool.and_eq_true, decide_eq_true_eq]
  constructor
  · rintro ⟨⟨hsame, hrank⟩, -, hsuspect, hrecent⟩
    refine ⟨⟨hrecent, ?_⟩, hsame, hsuspect⟩
    exact (hnumber row hrow ⟨hsame, hsuspect, hrecent⟩).symm.le.trans hrank
  · rintro ⟨⟨hrecent, hrank⟩, hsame, hsuspect⟩
    refine ⟨⟨hsame, ?_⟩, hsame ▸ hv, hsuspect, hrecent⟩
    exact (hnumber row hrow ⟨hsame, hsuspect, hrecent⟩).le.trans hrank

theorem ofVehicle_recentRows_of_notMem (hv : v ∉ vehicleIds) :
    ofVehicle v (recentRows now vehicleIds rows) = [] := by
  refine List.filter_eq_nil_iff.mpr fun row hrow => ?_
  simp only [recentRows, recentCandidates, List.mem_filter, decide_eq_true_eq] at hrow
  rw [decide_eq_true_eq]
  rintro rfl
  exact hv hrow.1.2.1

/-- The newest reliable row has the number one. -/
theorem mem_newestReliable (hg : getLastPosition v rows = some p) : p ∈ newestReliable v rows := by
  refine List.mem_filter.mpr ⟨newest_mem hg, ?_⟩
  have hnone : (reliable v rows).countP (fun other =>
      decide (other.vehicleId = p.vehicleId) && decide (p.timestamp < other.timestamp)) = 0 := by
    refine List.countP_eq_zero.mpr fun other hother => ?_
    rw [Bool.and_eq_true, decide_eq_true_eq, decide_eq_true_eq]
    rintro ⟨-, hlt⟩
    exact absurd (le_newest hg hother) (Int.not_le.mpr hlt)
  rw [rowNumber, hnone]
  decide

end Queries

/-! ### The anchor -/

section Anchor

variable [Field R] [LinearOrder R] [JsMath R]

/-- The anchor of the recent fixes of a vehicle. -/
def anchorOf (now : Int) (v : String) (rows : List (GpsPosition R)) : Option (LatLng R) :=
  computeAnchoredPosition (oldestFirst
    (((newestReliable v rows).filter fun row => now - RECENT_MS ≤ row.timestamp).map
      GpsPosition.fix))

variable {now : Int} {v : String} {vehicleIds : List String} {rows : List (GpsPosition R)}
  {p g : GpsPosition R}

omit [Field R] [LinearOrder R] [JsMath R] in
theorem foldl_fixes (list : List (AnchorFix R)) :
    rows.foldl (fun list row => list ++ [row.fix]) list = list ++ rows.map GpsPosition.fix := by
  induction rows generalizing list with
  | nil => exact (List.append_nil list).symm
  | cons row rows ih => rw [List.foldl_cons, ih, List.append_assoc]; rfl

/-- The fixes of a vehicle are collected under it. -/
theorem get_computeAnchorByVehicle_recent :
    get v (computeAnchorByVehicle now vehicleIds rows) = computeAnchoredPosition
      (oldestFirst ((ofVehicle v (recentRows now vehicleIds rows)).map GpsPosition.fix)) := by
  have hcollect := get_collect GpsPosition.vehicleId [] (fun list row => list ++ [row.fix]) v
    (recentRows now vehicleIds rows) []
  rw [foldl_fixes] at hcollect
  have hnodup := nodup_collect GpsPosition.vehicleId [] (fun list row => list ++ [row.fix])
    (recentRows now vehicleIds rows) (m := []) List.nodup_nil
  rw [computeAnchorByVehicle, get_filterMap, getRecentFixesByVehicle, get_map]
  · cases hget : get v (collect GpsPosition.vehicleId [] (fun list row => list ++ [row.fix]) []
        (recentRows now vehicleIds rows)) with
    | none =>
      rw [hget] at hcollect
      rw [show (ofVehicle v (recentRows now vehicleIds rows)).map GpsPosition.fix = [] from
        hcollect.symm]
      rfl
    | some list =>
      rw [hget] at hcollect
      exact congrArg (fun list => computeAnchoredPosition (oldestFirst list)) hcollect
  · rw [getRecentFixesByVehicle, keys_map]
    exact hnodup

theorem get_computeAnchorByVehicle (hv : v ∈ vehicleIds) :
    get v (computeAnchorByVehicle now vehicleIds rows) = anchorOf now v rows := by
  rw [get_computeAnchorByVehicle_recent, ofVehicle_recentRows hv]
  rfl

theorem get_computeAnchorByVehicle_of_notMem (hv : v ∉ vehicleIds) :
    get v (computeAnchorByVehicle now vehicleIds rows) = none := by
  rw [get_computeAnchorByVehicle_recent, ofVehicle_recentRows_of_notMem hv]
  rfl

omit [JsMath R] in
theorem isStoppedFix_of_not_stopped (hmoving : stopped p.speed = false) :
    isStoppedFix p.fix = false := by
  cases hspeed : p.speed with
  | none => rw [hspeed] at hmoving; cases hmoving
  | some speed =>
    rw [hspeed] at hmoving
    rw [isStoppedFix, GpsPosition.fix, hspeed]
    exact hmoving

/-- A vehicle that moves has no anchor, of whatever fixes one is looked for. -/
theorem anchorOf_eq_none (hunique : Unique rows) (hg : getLastPosition v rows = some g)
    (hmoving : stopped g.speed = false) : anchorOf now v rows = none := by
  refine Option.eq_none_iff_forall_not_mem.mpr fun anchor hanchor => ?_
  obtain ⟨fix, previous, rest, hhistory, hstopped, -⟩ := computeAnchoredPosition_eq_some hanchor
  obtain ⟨hfix, hnewest⟩ := newest_of_newestFirst hhistory
  have hmem : ∀ f, f ∈ oldestFirst (((newestReliable v rows).filter fun row =>
      now - RECENT_MS ≤ row.timestamp).map GpsPosition.fix) ↔
        ∃ row ∈ newestReliable v rows, now - RECENT_MS ≤ row.timestamp ∧ row.fix = f := by
    intro f
    simp [oldestFirst, and_assoc]
  obtain ⟨row, hrow, hrecent, rfl⟩ := (hmem fix).mp hfix
  have hreliable := List.mem_of_mem_filter hrow
  have hle : row.timestamp ≤ g.timestamp := le_newest hg hreliable
  -- the last reliable row is recent too, so it is the newest of the history
  have hge : g.timestamp ≤ row.timestamp := by
    refine hnewest g.fix ((hmem g.fix).mpr ⟨g, mem_newestReliable hg, ?_, rfl⟩)
    exact Int.le_trans hrecent hle
  obtain ⟨hrowmem, hrowv, -⟩ := mem_reliable.mp hreliable
  obtain ⟨hgmem, hgv, -⟩ := mem_reliable.mp (newest_mem hg)
  obtain rfl : row = g :=
    hunique row hrowmem g hgmem (hrowv.trans hgv.symm) (Int.le_antisymm hle hge)
  rw [isStoppedFix_of_not_stopped hmoving] at hstopped
  cases hstopped

end Anchor

/-! ## What a page shows -/

/-- What an entry of the map says of the newest fix, and where it draws it. -/
structure Marker (R : Type) where
  fix : LiveMap.Fix R
  speed : Option R
  heading : Option R
  accuracy : Option R
  suspect : Option Bool

def marker (entry : VehicleData R) : Marker R :=
  ⟨entry.fix, entry.speed, entry.heading, entry.accuracy, entry.suspect⟩

/-- The fix `p`, drawn at `place`. -/
def markerAt (place : LatLng R) (p : GpsPosition R) : Marker R where
  fix := ⟨place.latitude, place.longitude, some p.latitude, some p.longitude, some p.timestamp⟩
  speed := p.speed
  heading := p.heading
  accuracy := p.accuracy
  suspect := some p.suspect

/-- The vehicle is one of the company, and in use. -/
def Listed (fleet : Fleet) (companyId v : String) : Prop :=
  ∃ vehicle, fleet.vehicles.find? (fun x => x.id = v ∧ x.deleted = false ∧ x.isActive) =
    some vehicle ∧ vehicle.companyId = companyId

section Shown

variable [Field R] [LinearOrder R] [JsMath R]

/-- Where a vehicle is drawn whose last reliable row is `g`. -/
def shownPlace (now : Int) (v : String) (rows : List (GpsPosition R)) (g : GpsPosition R) :
    LatLng R :=
  (anchorOf now v rows).getD g.place

variable {fleet : Fleet} {companyId v : String} {now : Int} {rows : List (GpsPosition R)}
  {p g q row : GpsPosition R}

omit [Field R] [LinearOrder R] [JsMath R] in
/-- The positions shown of a company: the newest of each of its vehicles. -/
theorem mem_latestPositions (h : q ∈ latestPositions fleet companyId rows) :
    newest (ofVehicle q.vehicleId rows) = some q := by
  obtain ⟨vehicle, -, hq⟩ := List.mem_filterMap.mp h
  obtain ⟨-, hv⟩ := mem_ofVehicle.mp (newest_mem hq)
  rw [hv]
  exact hq

omit [Field R] [LinearOrder R] [JsMath R] in
theorem Listed.mem_latestPositions (hlisted : Listed fleet companyId v)
    (hp : newest (ofVehicle v rows) = some p) : p ∈ latestPositions fleet companyId rows := by
  obtain ⟨vehicle, hfind, hcompany⟩ := hlisted
  have hkept := List.find?_some hfind
  rw [decide_eq_true_eq] at hkept
  refine List.mem_filterMap.mpr ⟨vehicle, List.mem_filter.mpr ⟨List.mem_of_find?_eq_some hfind, ?_⟩, ?_⟩
  · exact decide_eq_true ⟨hcompany, hkept.2⟩
  · rw [hkept.1]
    exact hp

omit [Field R] [LinearOrder R] [JsMath R] in
/-- A vehicle is picked by its newest position. -/
theorem mem_vehicleIds {pick : GpsPosition R → Bool} (hp : newest (ofVehicle v rows) = some p)
    (hmem : p ∈ latestPositions fleet companyId rows) :
    v ∈ ((latestPositions fleet companyId rows).filter pick).map GpsPosition.vehicleId ↔
      pick p = true := by
  obtain ⟨-, hv⟩ := mem_ofVehicle.mp (newest_mem hp)
  constructor
  · intro h
    obtain ⟨q, hq, hqv⟩ := List.mem_map.mp h
    obtain ⟨hqmem, hpick⟩ := List.mem_filter.mp hq
    have hnewest := LivePositions.mem_latestPositions hqmem
    rw [hqv, hp] at hnewest
    obtain rfl := Option.some.inj hnewest
    exact hpick
  · intro hpick
    exact List.mem_map.mpr ⟨p, List.mem_filter.mpr ⟨hmem, hpick⟩, hv⟩

/-- The two queries of `getLivePositions` put a vehicle where `shownPlace` does. -/
theorem livePosition_place (now : Int) (hunique : Unique rows) (hp : newest (ofVehicle v rows) = some p)
    (hg : getLastPosition v rows = some g) (hmem : p ∈ latestPositions fleet companyId rows) :
    ((get v (computeAnchorByVehicle now
        (stoppedVehicleIds (latestPositions fleet companyId rows)) rows) <|>
      lastGood (suspectVehicleIds (latestPositions fleet companyId rows)) rows v).getD p.place) =
        shownPlace now v rows g := by
  have hstopped : v ∈ stoppedVehicleIds (latestPositions fleet companyId rows) ↔
      (p.suspect || stopped p.speed) = true := mem_vehicleIds hp hmem
  have hsuspects : v ∈ suspectVehicleIds (latestPositions fleet companyId rows) ↔
      p.suspect = true := mem_vehicleIds hp hmem
  by_cases hsuspect : p.suspect = true
  · rw [hsuspect, Bool.true_or] at hstopped
    rw [get_computeAnchorByVehicle (hstopped.mpr rfl), lastGood, if_pos (hsuspects.mpr hsuspect),
      show newest (reliable v rows) = some g from hg, shownPlace]
    cases anchorOf now v rows with
    | none => rfl
    | some anchor => rfl
  · rw [lastGood, if_neg (mt hsuspects.mp hsuspect), shownPlace]
    rw [Bool.not_eq_true] at hsuspect
    rw [hsuspect, Bool.false_or] at hstopped
    obtain rfl : g = p :=
      Option.some.inj (hg.symm.trans (getLastPosition_of_newest hunique hp hsuspect))
    by_cases hmoving : stopped g.speed = true
    · rw [get_computeAnchorByVehicle (hstopped.mpr hmoving)]
      cases anchorOf now v rows with
      | none => rfl
      | some anchor => rfl
    · rw [get_computeAnchorByVehicle_of_notMem (mt hstopped.mp hmoving),
        anchorOf_eq_none hunique hg (Bool.not_eq_true _ ▸ hmoving)]
      rfl

/-- So does `getDisplayPosition`, of a reliable fix. -/
theorem getDisplayPosition_place (hunique : Unique rows) (hg : getLastPosition v rows = some g) :
    (getDisplayPosition now rows v g.speed false).getD g.place = shownPlace now v rows g := by
  rw [getDisplayPosition, if_neg Bool.false_ne_true, shownPlace]
  by_cases hstopped : stopped g.speed = true
  · rw [if_pos hstopped, get_computeAnchorByVehicle (List.mem_singleton_self v)]
  · rw [if_neg hstopped, anchorOf_eq_none hunique hg (Bool.not_eq_true _ ▸ hstopped)]

/-! ### A page that is opened -/

omit [JsMath R] in
theorem foldl_positions (etaFor : Option (LivePositionInput R → Option String))
    (positions : List (LivePositionInput R)) (entry : VehicleData R) :
    (positions.map (Message.position etaFor)).foldl receive (some entry) = some entry := by
  induction positions with
  | nil => rfl
  | cons pos positions ih => exact ih

omit [JsMath R] in
/-- A list of positions leaves a vehicle that is on the map as it is. -/
theorem get_refetch {etaFor : Option (LivePositionInput R → Option String)}
    {vehicles : VehicleMap R} {entry : VehicleData R} (hentry : get v vehicles = some entry)
    (positions : List (LivePositionInput R)) :
    get v (mergeBootstrapPositions etaFor vehicles positions) = some entry := by
  rw [get_mergeBootstrapPositions, hentry]
  exact foldl_positions ..

/-- **A page that is opened shows the vehicle at its `shownPlace`.** -/
theorem get_load (etaFor : Option (LivePositionInput R → Option String))
    (hlisted : Listed fleet companyId v) (hv : v ≠ "") (hunique : Unique rows)
    (hp : newest (ofVehicle v rows) = some p) (hg : getLastPosition v rows = some g) :
    ∃ entry, get v (mergeBootstrapPositions etaFor []
        (getLivePositions fleet companyId now rows)) = some entry ∧
      marker entry = markerAt (shownPlace now v rows g) p := by
  have hmem := hlisted.mem_latestPositions hp
  obtain ⟨-, hpv⟩ := mem_ofVehicle.mp (newest_mem hp)
  have hplace := livePosition_place now hunique hp hg hmem
  have hall : ∀ pos ∈ (getLivePositions fleet companyId now rows).filter
      (fun pos => pos.vehicleId ≠ "" ∧ pos.vehicleId = v),
        marker (bootstrapEntry etaFor pos) = markerAt (shownPlace now v rows g) p := by
    intro pos hpos
    obtain ⟨hin, hkept⟩ := List.mem_filter.mp hpos
    obtain ⟨q, hq, rfl⟩ := List.mem_map.mp hin
    obtain rfl : q.vehicleId = v := (of_decide_eq_true hkept).2
    have hnewest := LivePositions.mem_latestPositions hq
    rw [hp] at hnewest
    obtain rfl := Option.some.inj hnewest
    rw [← hplace]
    rfl
  rw [get_mergeBootstrapPositions, messagesOf]
  cases hfilter : (getLivePositions fleet companyId now rows).filter
      (fun pos => pos.vehicleId ≠ "" ∧ pos.vehicleId = v) with
  | nil =>
    have hin := List.mem_map_of_mem (f := fun p => livePosition fleet now
      (get p.vehicleId (computeAnchorByVehicle now
        (stoppedVehicleIds (latestPositions fleet companyId rows)) rows))
      (lastGood (suspectVehicleIds (latestPositions fleet companyId rows)) rows p.vehicleId) p) hmem
    have hname : p.vehicleId ≠ "" := fun hempty => hv (hpv.symm.trans hempty)
    exact absurd (decide_eq_true ⟨hname, hpv⟩) (List.filter_eq_nil_iff.mp hfilter _ hin)
  | cons pos positions =>
    rw [hfilter] at hall
    exact ⟨_, foldl_positions .., hall pos (List.mem_cons_self ..)⟩

end Shown

/-! ## Runs -/

section Runs

variable [Field R] [LinearOrder R] [JsMath R] {fleet : Fleet} {companyId v : String}
  {s t : Live R} {e : Event R} {rows rows' : List (GpsPosition R)} {row p g : GpsPosition R}

omit [Field R] [LinearOrder R] [JsMath R] in
theorem savePosition_eq_some {senderCompany : String}
    (h : savePosition fleet senderCompany rows row = some rows') :
    rows' = rows ++ [row] ∧ row.vehicleId ≠ "" ∧ Listed fleet senderCompany row.vehicleId ∧
      ∀ other ∈ rows, other.vehicleId = row.vehicleId → other.timestamp ≠ row.timestamp := by
  obtain ⟨hlength, h⟩ := Option.ite_none_left_eq_some.mp h
  obtain ⟨-, h⟩ := Option.ite_none_left_eq_some.mp h
  split at h
  · cases h
  · rename_i vehicle hfind
    obtain ⟨hcompany, h⟩ := Option.ite_none_left_eq_some.mp h
    obtain ⟨-, h⟩ := Option.ite_none_left_eq_some.mp h
    obtain ⟨hunique, h⟩ := Option.ite_none_left_eq_some.mp h
    refine ⟨(Option.some.inj h).symm, ?_, ⟨vehicle, hfind, not_not.mp hcompany⟩, ?_⟩
    · intro hempty
      rw [hempty] at hlength
      exact hlength (by decide)
    · intro other hother hsame htime
      exact hunique (List.any_eq_true.mpr ⟨other, hother, decide_eq_true ⟨hsame, htime⟩⟩)

omit [Field R] [LinearOrder R] [JsMath R] in
theorem Unique.append (hunique : Unique rows)
    (hnew : ∀ other ∈ rows, other.vehicleId = row.vehicleId → other.timestamp ≠ row.timestamp) :
    Unique (rows ++ [row]) := by
  intro a ha b hb hsame htime
  rcases List.mem_append.mp ha with hold | hlast
  · rcases List.mem_append.mp hb with hold' | hlast
    · exact hunique a hold b hold' hsame htime
    · obtain rfl := List.mem_singleton.mp hlast
      exact absurd htime (hnew a hold hsame)
  · obtain rfl := List.mem_singleton.mp hlast
    rcases List.mem_append.mp hb with hold | hlast
    · exact absurd htime.symm (hnew b hold hsame.symm)
    · exact (List.mem_singleton.mp hlast).symm

/-! ### In any run -/

/-- No two rows of a vehicle are of one time, and an entry has the time of a row. -/
structure Sound (s : Live R) : Prop where
  unique : Unique s.rows
  dated : ∀ v entry, get v s.vehicles = some entry →
    ∃ row ∈ s.rows, row.vehicleId = v ∧ entry.timestamp = some row.timestamp

omit [JsMath R] in
/-- What messages of given times make of an entry of such a time has such a time. -/
theorem receive_dated (times : Timestamp → Prop) (messages : List (Message R))
    (existing : Option (VehicleData R)) (hmessages : ∀ m ∈ messages, times m.fix.timestamp)
    (hexisting : ∀ entry, existing = some entry → times entry.timestamp) :
    ∀ entry, messages.foldl receive existing = some entry → times entry.timestamp := by
  induction messages generalizing existing with
  | nil => exact hexisting
  | cons m messages ih =>
    refine ih _ (fun m' hm' => hmessages m' (List.mem_cons_of_mem _ hm')) fun entry hentry => ?_
    have hm := hmessages m (List.mem_cons_self ..)
    cases m with
    | update etaFor now u =>
      rw [receive] at hentry
      split at hentry
      · exact hexisting entry hentry
      · split at hentry
        · obtain ⟨old, -, rfl⟩ := Option.map_eq_some_iff.mp hentry
          exact hm
        · obtain rfl := Option.some.inj hentry
          exact hm
    | position etaFor pos =>
      rw [receive] at hentry
      split at hentry
      · exact hexisting entry hentry
      · obtain rfl := Option.some.inj hentry
        exact hm

/-- The positions sent are of rows. -/
theorem dated_positions (etaFor : Option (LivePositionInput R → Option String))
    {vehicles : VehicleMap R} {now : Int}
    (hdated : ∀ v entry, get v vehicles = some entry →
      ∃ row ∈ rows, row.vehicleId = v ∧ entry.timestamp = some row.timestamp) :
    ∀ v entry, get v (mergeBootstrapPositions etaFor vehicles
        (getLivePositions fleet companyId now rows)) = some entry →
      ∃ row ∈ rows, row.vehicleId = v ∧ entry.timestamp = some row.timestamp := by
  intro v
  rw [get_mergeBootstrapPositions]
  refine receive_dated (fun time =>
    ∃ row ∈ rows, row.vehicleId = v ∧ time = some row.timestamp) _ _ ?_ (hdated v)
  intro m hm
  obtain ⟨pos, hpos, rfl⟩ := List.mem_map.mp hm
  obtain ⟨hin, hkept⟩ := List.mem_filter.mp hpos
  obtain ⟨q, hq, rfl⟩ := List.mem_map.mp hin
  obtain ⟨hqmem, hqv⟩ := mem_ofVehicle.mp (newest_mem (mem_latestPositions hq))
  exact ⟨q, hqmem, (of_decide_eq_true hkept).2, rfl⟩

theorem Sound.step (hs : Sound s) (hstep : Steps (step fleet companyId) s e t) : Sound t := by
  cases e with
  | elapse ms =>
    obtain rfl := Option.some.inj hstep
    exact ⟨hs.unique, hs.dated⟩
  | load etaFor =>
    obtain rfl := Option.some.inj hstep
    refine ⟨hs.unique, dated_positions etaFor fun v entry hentry => ?_⟩
    cases hentry
  | refetch etaFor =>
    obtain rfl := Option.some.inj hstep
    exact ⟨hs.unique, dated_positions etaFor hs.dated⟩
  | fix sender row etaFor browserNow =>
    obtain ⟨rows, hsave, rfl⟩ := Option.map_eq_some_iff.mp hstep
    obtain ⟨rfl, -, -, hnew⟩ := savePosition_eq_some hsave
    have hkept : ∀ v entry, get v s.vehicles = some entry →
        ∃ other ∈ s.rows ++ [row], other.vehicleId = v ∧
          entry.timestamp = some other.timestamp := by
      intro v entry hentry
      obtain ⟨other, hother, hdated⟩ := hs.dated v entry hentry
      exact ⟨other, List.mem_append_left _ hother, hdated⟩
    rw [handlePosition]
    split
    · exact ⟨hs.unique.append hnew, hkept⟩
    · refine ⟨hs.unique.append hnew, fun v => ?_⟩
      show ∀ entry, get v (mergePositionUpdate _ _ _ _) = some entry → _
      rw [get_mergePositionUpdate]
      refine receive_dated (fun time => ∃ other ∈ s.rows ++ [row],
        other.vehicleId = v ∧ time = some other.timestamp) _ _ ?_ (hkept v)
      intro m hm
      rw [messagesOf] at hm
      split at hm
      · rename_i hv
        obtain rfl := List.mem_singleton.mp hm
        exact ⟨row, List.mem_append_right _ (List.mem_singleton_self _), hv, rfl⟩
      · cases hm

/-! ### A vehicle that is followed -/

/-- The forty newest reliable fixes of the vehicle are recent. -/
def Recent (v : String) (s : Live R) : Prop :=
  ∀ row ∈ newestReliable v s.rows, s.now - RECENT_MS ≤ row.timestamp

/-- The vehicle is on the map, at its `shownPlace` while its fixes are recent. -/
def Followed (v : String) (s : Live R) : Prop :=
  ∃ p g entry, newest (ofVehicle v s.rows) = some p ∧ getLastPosition v s.rows = some g ∧
    get v s.vehicles = some entry ∧
      (Recent v s → marker entry = markerAt (shownPlace s.now v s.rows g) p)

/-- A fix of the vehicle is newer than those before. -/
def InOrder (v : String) (s : Live R) : Event R → Prop
  | .fix _ row _ _ =>
      row.vehicleId = v → ∀ other ∈ s.rows, other.vehicleId = v → other.timestamp < row.timestamp
  | _ => True

omit [Field R] [LinearOrder R] [JsMath R] in
theorem filter_append_of_not {pick : GpsPosition R → Bool} (hpick : pick row = false) :
    (rows ++ [row]).filter pick = rows.filter pick := by
  rw [List.filter_append, List.filter_singleton, hpick]
  exact List.append_nil _

omit [Field R] [LinearOrder R] [JsMath R] in
/-- The reliable rows of a vehicle are not changed by those of others, or by suspect ones. -/
theorem reliable_append (h : row.vehicleId = v → row.suspect = true) :
    reliable v (rows ++ [row]) = reliable v rows := by
  refine filter_append_of_not (decide_eq_false ?_)
  rintro ⟨hv, hsuspect⟩
  rw [h hv] at hsuspect
  cases hsuspect

omit [Field R] [LinearOrder R] [JsMath R] in
theorem newestReliable_congr (h : reliable v rows' = reliable v rows) :
    newestReliable v rows' = newestReliable v rows := by
  rw [newestReliable, newestReliable, h]

theorem shownPlace_congr {now : Int} (h : reliable v rows' = reliable v rows) :
    shownPlace now v rows' g = shownPlace now v rows g := by
  rw [shownPlace, shownPlace, anchorOf, anchorOf, newestReliable_congr h]

/-- While the fixes are recent, time does not move the vehicle. -/
theorem shownPlace_of_recent {now now' : Int}
    (h : ∀ row ∈ newestReliable v rows, now - RECENT_MS ≤ row.timestamp)
    (h' : ∀ row ∈ newestReliable v rows, now' - RECENT_MS ≤ row.timestamp) :
    shownPlace now' v rows g = shownPlace now v rows g := by
  have hall : ∀ {now : Int}, (∀ row ∈ newestReliable v rows, now - RECENT_MS ≤ row.timestamp) →
      (newestReliable v rows).filter (fun row => now - RECENT_MS ≤ row.timestamp) =
        newestReliable v rows :=
    fun h => List.filter_eq_self.mpr fun row hrow => decide_eq_true (h row hrow)
  rw [shownPlace, shownPlace, anchorOf, anchorOf, hall h, hall h']

/-- The message of a fix that is newer than the rows before is neither late nor stale. -/
theorem get_handlePosition (hs : Sound s) {sender : Sender R} (rows : List (GpsPosition R))
    (etaFor : Option (PositionUpdateInput R → Option String)) (browserNow : Int)
    (hcompany : sender.companyId = companyId)
    (hlater : ∀ other ∈ s.rows, other.vehicleId = row.vehicleId →
      other.timestamp < row.timestamp) :
    get row.vehicleId (handlePosition companyId sender row etaFor browserNow rows s).vehicles =
      if row.suspect = true then
        (get row.vehicleId s.vehicles).map
          (suspectEntry browserNow (broadcast s.now rows sender row))
      else some (updateEntry etaFor browserNow (broadcast s.now rows sender row)
        (get row.vehicleId s.vehicles)) := by
  have horder : ¬ (outOfOrder s.rows row = true ∨ sender.companyId ≠ companyId) := by
    rintro (hlate | hother)
    · rw [outOfOrder] at hlate
      obtain ⟨last, hlast, hlt⟩ := (Option.any_eq_true ..).mp hlate
      obtain ⟨hmem, hsame, -⟩ := mem_reliable.mp (newest_mem hlast)
      exact Int.lt_asymm (of_decide_eq_true hlt) (hlater last hmem hsame)
    · exact hother hcompany
  have hstale : (get row.vehicleId s.vehicles).any
      (isStale (broadcast s.now rows sender row)) = false := by
    cases hentry : get row.vehicleId s.vehicles with
    | none => rfl
    | some entry =>
      obtain ⟨other, hother, hsame, htime⟩ := hs.dated _ _ hentry
      have hlt := hlater other hother hsame
      rw [Option.any_some, isStale, htime]
      show (decide (row.timestamp - other.timestamp < 0) && _) = false
      rw [decide_eq_false (by omega), Bool.false_and]
  rw [handlePosition, if_neg horder]
  show get row.vehicleId (mergePositionUpdate _ _ _ _) = _
  rw [get_mergePositionUpdate, messagesOf]
  rw [if_pos (show (broadcast s.now rows sender row).vehicleId = row.vehicleId from rfl),
    List.foldl_cons, List.foldl_nil, receive, hstale, if_neg Bool.false_ne_true]
  show (if some row.suspect = some true then _ else _) = _
  simp only [Option.some.injEq]

/-- The message of another vehicle does not touch this one. -/
theorem get_handlePosition_ne {sender : Sender R}
    {etaFor : Option (PositionUpdateInput R → Option String)} {browserNow : Int}
    (hne : row.vehicleId ≠ v) :
    get v (handlePosition companyId sender row etaFor browserNow rows s).vehicles =
      get v s.vehicles := by
  rw [handlePosition]
  split
  · rfl
  · show get v (mergePositionUpdate _ _ _ _) = _
    rw [get_mergePositionUpdate, messagesOf,
      if_neg (show (broadcast s.now rows sender row).vehicleId ≠ v from hne), List.foldl_nil]

omit [Field R] [LinearOrder R] [JsMath R] in
theorem Listed.companyId_eq {companyId' : String} (h : Listed fleet companyId v)
    (h' : Listed fleet companyId' v) : companyId' = companyId := by
  obtain ⟨vehicle, hfind, rfl⟩ := h
  obtain ⟨vehicle', hfind', rfl⟩ := h'
  rw [hfind] at hfind'
  rw [Option.some.inj hfind']

@[simp] theorem handlePosition_now {sender : Sender R}
    {etaFor : Option (PositionUpdateInput R → Option String)} {browserNow : Int} :
    (handlePosition companyId sender row etaFor browserNow rows s).now = s.now := by
  rw [handlePosition]
  split
  · rfl
  · rfl

@[simp] theorem handlePosition_rows {sender : Sender R}
    {etaFor : Option (PositionUpdateInput R → Option String)} {browserNow : Int} :
    (handlePosition companyId sender row etaFor browserNow rows s).rows = rows := by
  rw [handlePosition]
  split
  · rfl
  · rfl

omit [Field R] [LinearOrder R] [JsMath R] in
theorem newest_ofVehicle_append
    (hlater : ∀ other ∈ rows, other.vehicleId = row.vehicleId →
      other.timestamp < row.timestamp) :
    newest (ofVehicle row.vehicleId (rows ++ [row])) = some row := by
  rw [ofVehicle, List.filter_append, List.filter_singleton, decide_eq_true rfl, cond_true]
  refine newest_append fun other hother => ?_
  obtain ⟨hmem, hsame⟩ := mem_ofVehicle.mp hother
  exact hlater other hmem hsame

/-- A reliable fix is drawn at its display position. -/
theorem marker_updateEntry {now browserNow : Int} {sender : Sender R}
    {etaFor : Option (PositionUpdateInput R → Option String)} {existing : Option (VehicleData R)}
    (hreliable : row.suspect = false) :
    marker (updateEntry etaFor browserNow (broadcast now rows sender row) existing) =
      markerAt ((getDisplayPosition now rows row.vehicleId row.speed false).getD row.place) row := by
  simp only [marker, markerAt, updateEntry, broadcast, VehicleData.fix, hreliable,
    Option.getD_some]

/-- A reliable fix that is newer than the rows before puts the vehicle on the map. -/
theorem followed_of_reliable (hs : Sound s) {sender : Sender R}
    {etaFor : Option (PositionUpdateInput R → Option String)} {browserNow : Int}
    (hstep : step fleet companyId s (.fix sender row etaFor browserNow) = some t)
    (hcompany : sender.companyId = companyId) (hreliable : row.suspect = false)
    (hlater : ∀ other ∈ s.rows, other.vehicleId = row.vehicleId →
      other.timestamp < row.timestamp) : Followed row.vehicleId t := by
  have ht : Sound t := hs.step hstep
  obtain ⟨rows, hsave, rfl⟩ := Option.map_eq_some_iff.mp hstep
  obtain ⟨rfl, -, -, -⟩ := savePosition_eq_some hsave
  have hunique := ht.unique
  rw [handlePosition_rows] at hunique
  have hp := newest_ofVehicle_append hlater
  have hg := getLastPosition_of_newest hunique hp hreliable
  have hget := get_handlePosition hs (s.rows ++ [row]) etaFor browserNow hcompany hlater
  rw [hreliable, if_neg Bool.false_ne_true] at hget
  refine ⟨row, row, _, ?_, ?_, hget, fun _ => ?_⟩
  · rw [handlePosition_rows]
    exact hp
  · rw [handlePosition_rows]
    exact hg
  · rw [handlePosition_rows, handlePosition_now, ← getDisplayPosition_place hunique hg]
    exact marker_updateEntry hreliable

/-- A suspect fix leaves the marker at its place. -/
theorem marker_suspectEntry {place : LatLng R} {entry : VehicleData R} {now browserNow : Int}
    {sender : Sender R} (h : marker entry = markerAt place p) :
    marker (suspectEntry browserNow (broadcast now rows sender row) entry) =
      { markerAt place row with suspect := some true } := by
  obtain ⟨hlat, hlng⟩ : entry.lat = place.latitude ∧ entry.lng = place.longitude :=
    ⟨congrArg (fun m : Marker R => m.fix.lat) h, congrArg (fun m : Marker R => m.fix.lng) h⟩
  simp [marker, markerAt, suspectEntry, broadcast, VehicleData.fix, hlat, hlng]

theorem Followed.step (hs : Sound s) (hlisted : Listed fleet companyId v) (h : Followed v s)
    (hstep : Steps (step fleet companyId) s e t) (horder : InOrder v s e) (hv : v ≠ "") :
    Followed v t := by
  obtain ⟨p, g, entry, hp, hg, hentry, hmarker⟩ := h
  cases e with
  | elapse ms =>
    obtain rfl := Option.some.inj hstep
    refine ⟨p, g, entry, hp, hg, hentry, fun hrecent => ?_⟩
    have hbefore : Recent v s := by
      intro row hrow
      have hlater : s.now + ms - RECENT_MS ≤ row.timestamp := hrecent row hrow
      omega
    rw [hmarker hbefore]
    exact congrArg (markerAt · p) (shownPlace_of_recent hbefore hrecent).symm
  | load etaFor =>
    obtain rfl := Option.some.inj hstep
    obtain ⟨entry', hentry', hmarker'⟩ := get_load etaFor hlisted hv hs.unique hp hg
    exact ⟨p, g, entry', hp, hg, hentry', fun _ => hmarker'⟩
  | refetch etaFor =>
    obtain rfl := Option.some.inj hstep
    exact ⟨p, g, entry, hp, hg, get_refetch hentry _, hmarker⟩
  | fix sender row etaFor browserNow =>
    by_cases hsame : row.vehicleId = v
    · subst hsame
      have hlater := horder rfl
      by_cases hsuspect : row.suspect = true
      · obtain ⟨rows, hsave, rfl⟩ := Option.map_eq_some_iff.mp hstep
        obtain ⟨rfl, -, hsender, -⟩ := savePosition_eq_some hsave
        have hget := get_handlePosition hs (s.rows ++ [row]) etaFor browserNow
          (hlisted.companyId_eq hsender) hlater
        have hrows : reliable row.vehicleId (s.rows ++ [row]) = reliable row.vehicleId s.rows :=
          reliable_append fun _ => hsuspect
        rw [if_pos hsuspect, hentry] at hget
        refine ⟨row, g, _, ?_, ?_, hget, ?_⟩
        · rw [handlePosition_rows]
          exact newest_ofVehicle_append hlater
        · rw [handlePosition_rows, getLastPosition, hrows]
          exact hg
        · rw [Recent, handlePosition_rows, handlePosition_now, newestReliable_congr hrows,
            shownPlace_congr hrows]
          intro hrecent
          rw [marker_suspectEntry (hmarker hrecent), markerAt, hsuspect]
      · obtain ⟨rows, hsave, -⟩ := Option.map_eq_some_iff.mp hstep
        obtain ⟨-, -, hsender, -⟩ := savePosition_eq_some hsave
        exact followed_of_reliable hs hstep (hlisted.companyId_eq hsender)
          (Bool.not_eq_true _ ▸ hsuspect) hlater
    · obtain ⟨rows, hsave, rfl⟩ := Option.map_eq_some_iff.mp hstep
      obtain ⟨rfl, -, -, -⟩ := savePosition_eq_some hsave
      have hrows : reliable v (s.rows ++ [row]) = reliable v s.rows :=
        reliable_append fun h => absurd h hsame
      refine ⟨p, g, entry, ?_, ?_, ?_, ?_⟩
      · rw [handlePosition_rows, ofVehicle, filter_append_of_not (decide_eq_false hsame)]
        exact hp
      · rw [handlePosition_rows, getLastPosition, hrows]
        exact hg
      · rw [get_handlePosition_ne hsame]
        exact hentry
      · rw [Recent, handlePosition_rows, handlePosition_now, newestReliable_congr hrows,
          shownPlace_congr hrows]
        exact hmarker

instance (v : String) (s : Live R) : Decidable (Recent v s) :=
  inferInstanceAs (Decidable (∀ row ∈ newestReliable v s.rows, s.now - RECENT_MS ≤ row.timestamp))

instance (v : String) (s : Live R) : ∀ e, Decidable (InOrder v s e)
  | .fix _ row _ _ => inferInstanceAs (Decidable (row.vehicleId = v → ∀ other ∈ s.rows,
      other.vehicleId = v → other.timestamp < row.timestamp))
  | .elapse _ => .isTrue trivial
  | .load _ => .isTrue trivial
  | .refetch _ => .isTrue trivial

/-- Nothing is saved, and the page is empty. -/
def start (now : Int) : Live R := ⟨now, [], []⟩

end Runs

/-! ### A parked vehicle -/

def parkedFleet : Fleet := ⟨[⟨"vehicle-00000001", "company-1", true, false, false⟩], []⟩

/-- A fix so far north at time `t`, sent and saved. -/
def parkedFix (suspect : Bool) (latitude : ℚ) (t : Int) : Event ℚ :=
  .fix ⟨"company-1", "Lala", "Rabe", 1⟩
    ⟨"vehicle-00000001", none, none, latitude, 0, some 0, none, some 10, none, suspect, t, t⟩ none t

/-- A first fix is suspect. -/
def parkedBefore : Option (Live ℚ) :=
  [parkedFix true 1 0].foldlM (step parkedFleet "company-1") (start 0)

/-- Two fixes of the parked vehicle, a suspect one and a minute. -/
def parkedAfter (s : Live ℚ) : Option (Live ℚ) :=
  [parkedFix false (1 / 10000) 20000, parkedFix true 1 30000, .elapse 60000].foldlM
    (guardStep (step parkedFleet "company-1") (InOrder "vehicle-00000001")) s

end DeliveryTracking.Tracking.LivePositions
