/-
# `DeliveryTracking.LiveMap` — the vehicles on the live map

The map holds one entry for each vehicle.  `mergePositionUpdate` merges a message from
the socket, `mergeBootstrapPositions` a list of positions from the REST route, which is
read again and again.  An entry is what the messages of its own vehicle make of it, one
after the other (`get_mergeAll`):

    an update     replaces the entry, unless it is older by less than
                  `STALE_UPDATE_RESET_MS`
    a position    makes an entry if there is none, and is dropped otherwise

So of the positions only one that comes first of all counts (`heard`), and of what
counts the newest is shown (`mergeAll_newest`).  A newer position behind an update is
not (`position_dropped`).
-/
import DeliveryTracking.Numerals
import DeliveryTracking.Grouping
import Mathlib.Algebra.Order.Field.Rat

namespace DeliveryTracking.LiveMap

open Grouping

def STATUS_STATIC_DEBOUNCE_MS : Int := 12000

def STALE_UPDATE_RESET_MS : Int := 600000

def FALLBACK_DRIVER_NAME : String := "Véhicule sans chauffeur assigné"

/-- A date, as `Date.parse` reads it; `none` is not a date. -/
abbrev Timestamp := Option Int

/-- `Date.parse(a) - Date.parse(b)`, if it is finite. -/
def minus : Timestamp → Timestamp → Option Int
  | some a, some b => some (a - b)
  | _, _ => none

inductive Status where
  | moving
  | static
  | offline
  deriving DecidableEq

/-- `none` is `undefined`; `eta` may be `null` besides. -/
structure VehicleData (R : Type) where
  id : String
  lat : R
  lng : R
  rawLat : Option R
  rawLng : Option R
  name : String
  speed : Option R
  heading : Option R
  accuracy : Option R
  timestamp : Timestamp
  status : Status
  eta : Option (Option String)
  confidence : Option R
  vehicleId : String
  deliveryId : Option String
  suspect : Option Bool
  lastMovingAt : Option Timestamp
  receivedAt : Option Timestamp

structure LivePositionInput (R : Type) where
  vehicleId : String
  driverName : Option String
  latitude : R
  longitude : R
  displayLatitude : Option R
  displayLongitude : Option R
  speed : Option R
  heading : Option R
  accuracy : Option R
  suspect : Option Bool
  timestamp : Timestamp
  deliveryId : Option String
  minutesAgo : Option R
  receivedAt : Option Timestamp

structure PositionUpdateInput (R : Type) where
  vehicleId : String
  driverId : Option String
  driverName : Option String
  latitude : R
  longitude : R
  displayLatitude : Option R
  displayLongitude : Option R
  speed : Option R
  heading : Option R
  accuracy : Option R
  suspect : Option Bool
  confidence : Option R
  timestamp : Timestamp
  deliveryId : Option String

abbrev VehicleMap (R : Type) := List (String × VehicleData R)

/-- `driverName || FALLBACK_DRIVER_NAME` -/
def shownName : Option String → String
  | none => FALLBACK_DRIVER_NAME
  | some name => if name = "" then FALLBACK_DRIVER_NAME else name

variable {R : Type} [Field R] [LinearOrder R]

def OFFLINE_TIMEOUT_MIN : R := 15

def STATIONARY_SPEED_MS : R := 1 / 2

def isMovingSpeed : Option R → Bool
  | none => false
  | some speedMs => decide (STATIONARY_SPEED_MS < speedMs)

/-- `accuracy ? Math.max(0.1, 1 - accuracy / 50) : 1` -/
def accuracyConfidence : Option R → R
  | none => 1
  | some accuracy => if accuracy = 0 then 1 else max (1 / 10) (1 - accuracy / 50)

/-! ## Updates -/

omit [Field R] [LinearOrder R] in
/-- The update is older than the entry, but not by so much that the clock was reset. -/
def isStale (update : PositionUpdateInput R) (existing : VehicleData R) : Bool :=
  match minus update.timestamp existing.timestamp with
  | some dt => decide (dt < 0) && decide (-STALE_UPDATE_RESET_MS < dt)
  | none => false

/-- A suspect fix leaves the marker where it is. -/
def suspectEntry (now : Int) (update : PositionUpdateInput R) (existing : VehicleData R) :
    VehicleData R :=
  { existing with
    rawLat := some update.latitude
    rawLng := some update.longitude
    speed := update.speed
    heading := update.heading
    accuracy := update.accuracy
    timestamp := update.timestamp
    receivedAt := some (some now)
    suspect := some true }

def nextStatus (update : PositionUpdateInput R) (existing : Option (VehicleData R)) : Status :=
  if isMovingSpeed update.speed then .moving
  else
    match existing with
    | some entry =>
        match entry.status, entry.lastMovingAt with
        | .moving, some lastMovingAt =>
            match minus update.timestamp lastMovingAt with
            | some sinceMoving =>
                if sinceMoving < STATUS_STATIC_DEBOUNCE_MS then .moving else .static
            | none => .static
        | _, _ => .static
    | none => .static

def updateEntry (etaFor : Option (PositionUpdateInput R → Option String)) (now : Int)
    (update : PositionUpdateInput R) (existing : Option (VehicleData R)) : VehicleData R where
  id := update.vehicleId
  lat := update.displayLatitude.getD update.latitude
  lng := update.displayLongitude.getD update.longitude
  rawLat := some update.latitude
  rawLng := some update.longitude
  name := shownName update.driverName
  speed := update.speed
  heading := update.heading
  accuracy := update.accuracy
  timestamp := update.timestamp
  status := nextStatus update existing
  eta := etaFor.map fun f => f update
  confidence := some (update.confidence.getD (accuracyConfidence update.accuracy))
  vehicleId := update.vehicleId
  deliveryId := update.deliveryId
  suspect := some false
  lastMovingAt :=
    if isMovingSpeed update.speed then some update.timestamp
    else existing.bind VehicleData.lastMovingAt
  receivedAt := some (some now)

def mergePositionUpdate (etaFor : Option (PositionUpdateInput R → Option String)) (now : Int)
    (prev : VehicleMap R) (update : PositionUpdateInput R) : VehicleMap R :=
  let key := update.vehicleId
  if (get key prev).any (isStale update) then prev
  else if update.suspect = some true then
    match get key prev with
    | none => prev
    | some existing => put key (suspectEntry now update existing) prev
  else put key (updateEntry etaFor now update (get key prev)) prev

/-! ## Positions from the REST route -/

def bootstrapEntry (etaFor : Option (LivePositionInput R → Option String))
    (pos : LivePositionInput R) : VehicleData R where
  id := pos.vehicleId
  lat := pos.displayLatitude.getD pos.latitude
  lng := pos.displayLongitude.getD pos.longitude
  rawLat := some pos.latitude
  rawLng := some pos.longitude
  name := shownName pos.driverName
  speed := pos.speed
  heading := pos.heading
  accuracy := pos.accuracy
  timestamp := pos.timestamp
  status :=
    if OFFLINE_TIMEOUT_MIN < pos.minutesAgo.getD 0 then .offline
    else if isMovingSpeed pos.speed then .moving
    else .static
  eta := etaFor.map fun f => f pos
  confidence := some (accuracyConfidence pos.accuracy)
  vehicleId := pos.vehicleId
  deliveryId := pos.deliveryId
  suspect := some (pos.suspect.getD false)
  lastMovingAt := none
  receivedAt := pos.receivedAt

def mergeBootstrapPositions (etaFor : Option (LivePositionInput R → Option String))
    (prev : VehicleMap R) (positions : List (LivePositionInput R)) : VehicleMap R :=
  positions.foldl
    (fun next pos =>
      if pos.vehicleId = "" ∨ (get pos.vehicleId next).isSome then next
      else put pos.vehicleId (bootstrapEntry etaFor pos) next)
    prev

/-! ## Runs -/

/-- What the page merges, with the time of the browser where it is read. -/
inductive Merge (R : Type) where
  | update (etaFor : Option (PositionUpdateInput R → Option String)) (now : Int)
      (update : PositionUpdateInput R)
  | bootstrap (etaFor : Option (LivePositionInput R → Option String))
      (positions : List (LivePositionInput R))

def merge (vehicles : VehicleMap R) : Merge R → VehicleMap R
  | .update etaFor now update => mergePositionUpdate etaFor now vehicles update
  | .bootstrap etaFor positions => mergeBootstrapPositions etaFor vehicles positions

def mergeAll (vehicles : VehicleMap R) (merges : List (Merge R)) : VehicleMap R :=
  merges.foldl merge vehicles

/-- A message about one vehicle. -/
inductive Message (R : Type) where
  | update (etaFor : Option (PositionUpdateInput R → Option String)) (now : Int)
      (update : PositionUpdateInput R)
  | position (etaFor : Option (LivePositionInput R → Option String)) (pos : LivePositionInput R)

/-- Where a vehicle is, and since when. -/
structure Fix (R : Type) where
  lat : R
  lng : R
  rawLat : Option R
  rawLng : Option R
  timestamp : Timestamp

omit [Field R] [LinearOrder R] in
def VehicleData.fix (entry : VehicleData R) : Fix R :=
  ⟨entry.lat, entry.lng, entry.rawLat, entry.rawLng, entry.timestamp⟩

namespace Message

omit [Field R] [LinearOrder R]

def fix : Message R → Fix R
  | update _ _ u =>
      ⟨u.displayLatitude.getD u.latitude, u.displayLongitude.getD u.longitude, some u.latitude,
        some u.longitude, u.timestamp⟩
  | position _ pos =>
      ⟨pos.displayLatitude.getD pos.latitude, pos.displayLongitude.getD pos.longitude,
        some pos.latitude, some pos.longitude, pos.timestamp⟩

def isUpdate : Message R → Bool
  | update .. => true
  | position .. => false

def suspect : Message R → Prop
  | update _ _ u => u.suspect = some true
  | position .. => False

end Message

omit [Field R] [LinearOrder R] in
/-- The messages about a vehicle; a position without a vehicle is skipped. -/
def messagesOf (v : String) : Merge R → List (Message R)
  | .update etaFor now u => if u.vehicleId = v then [.update etaFor now u] else []
  | .bootstrap etaFor positions =>
      (positions.filter fun pos => pos.vehicleId ≠ "" ∧ pos.vehicleId = v).map (.position etaFor)

omit [Field R] [LinearOrder R] in
def messages (v : String) (merges : List (Merge R)) : List (Message R) :=
  merges.flatMap (messagesOf v)

/-- What a message makes of the entry of its vehicle. -/
def receive (existing : Option (VehicleData R)) : Message R → Option (VehicleData R)
  | .update etaFor now u =>
      if existing.any (isStale u) then existing
      else if u.suspect = some true then existing.map (suspectEntry now u)
      else some (updateEntry etaFor now u existing)
  | .position etaFor pos => if existing.isSome then existing else some (bootstrapEntry etaFor pos)

/-! ## Every vehicle has its own entry -/

theorem get_mergePositionUpdate (etaFor : Option (PositionUpdateInput R → Option String)) (now : Int)
    (prev : VehicleMap R) (u : PositionUpdateInput R) (v : String) :
    get v (mergePositionUpdate etaFor now prev u) =
      (messagesOf v (.update etaFor now u)).foldl receive (get v prev) := by
  by_cases hv : u.vehicleId = v
  · subst hv
    simp only [messagesOf, if_true, List.foldl_cons, List.foldl_nil, receive, mergePositionUpdate]
    split
    · rfl
    · split
      · cases hexisting : get u.vehicleId prev with
        | none => simpa using hexisting
        | some existing => exact get_put_self ..
      · exact get_put_self ..
  · simp only [messagesOf, if_neg hv, List.foldl_nil, mergePositionUpdate]
    split
    · rfl
    · split
      · split
        · rfl
        · exact get_put_ne hv ..
      · exact get_put_ne hv ..

theorem get_mergeBootstrapPositions (etaFor : Option (LivePositionInput R → Option String))
    (prev : VehicleMap R) (positions : List (LivePositionInput R)) (v : String) :
    get v (mergeBootstrapPositions etaFor prev positions) =
      (messagesOf v (.bootstrap etaFor positions)).foldl receive (get v prev) := by
  induction positions generalizing prev with
  | nil => rfl
  | cons pos positions ih =>
      rw [mergeBootstrapPositions, List.foldl_cons]
      refine (ih _).trans ?_
      by_cases hv : pos.vehicleId ≠ "" ∧ pos.vehicleId = v
      · have hmessages : messagesOf v (.bootstrap etaFor (pos :: positions)) =
            .position etaFor pos :: messagesOf v (.bootstrap etaFor positions) := by
          simp only [messagesOf]
          rw [List.filter_cons, if_pos (by simpa using hv), List.map_cons]
        rw [hmessages, List.foldl_cons]
        congr 1
        obtain ⟨hname, rfl⟩ := hv
        rw [receive]
        by_cases hsome : (get pos.vehicleId prev).isSome = true
        · rw [if_pos (Or.inr hsome), if_pos hsome]
        · rw [if_neg (not_or.mpr ⟨hname, hsome⟩), if_neg hsome]
          exact get_put_self ..
      · have hmessages : messagesOf v (.bootstrap etaFor (pos :: positions)) =
            messagesOf v (.bootstrap etaFor positions) := by
          simp only [messagesOf]
          rw [List.filter_cons, if_neg (by simpa using hv)]
        rw [hmessages]
        congr 1
        split
        · rfl
        · rename_i hkeep
          rw [not_or] at hkeep
          exact get_put_ne (fun heq => hv ⟨hkeep.1, heq⟩) ..

/-- **An entry is what the messages of its vehicle make of it.** -/
theorem get_mergeAll (vehicles : VehicleMap R) (merges : List (Merge R)) (v : String) :
    get v (mergeAll vehicles merges) = (messages v merges).foldl receive (get v vehicles) := by
  induction merges generalizing vehicles with
  | nil => rfl
  | cons a merges ih =>
      rw [mergeAll, List.foldl_cons]
      refine (ih _).trans ?_
      have hmessages : messages v (a :: merges) = messagesOf v a ++ messages v merges :=
        List.flatMap_cons
      rw [hmessages, List.foldl_append]
      congr 1
      cases a with
      | update etaFor now u => exact get_mergePositionUpdate etaFor now vehicles u v
      | bootstrap etaFor positions => exact get_mergeBootstrapPositions etaFor vehicles positions v

/-! ## The newest of what counts -/

omit [Field R] [LinearOrder R] in
/-- The messages that count for a vehicle that is not on the map: the first one, and every update. -/
def heard : List (Message R) → List (Message R)
  | [] => []
  | first :: rest => first :: rest.filter Message.isUpdate

omit [Field R] [LinearOrder R] in
/-- The fixes are dated, and none is older than another by `STALE_UPDATE_RESET_MS`. -/
def Spans (fixes : List (Fix R)) : Prop :=
  ∀ f ∈ fixes, ∀ g ∈ fixes, ∃ s t, f.timestamp = some s ∧ g.timestamp = some t ∧
    t - s < STALE_UPDATE_RESET_MS

omit [Field R] [LinearOrder R] in
def IsNewest (f : Fix R) (fixes : List (Fix R)) : Prop :=
  f ∈ fixes ∧ ∀ g ∈ fixes, ∃ s t, g.timestamp = some s ∧ f.timestamp = some t ∧ s ≤ t

section Fixes

omit [Field R] [LinearOrder R]

variable {f g : Fix R} {fixes : List (Fix R)}

theorem Spans.subset {fixes' : List (Fix R)} (h : Spans fixes) (hsub : fixes' ⊆ fixes) :
    Spans fixes' := fun f hf g hg => h f (hsub hf) g (hsub hg)

theorem Spans.isNewest_singleton (h : Spans (f :: fixes)) : IsNewest f [f] := by
  refine ⟨List.mem_singleton_self f, ?_⟩
  intro g hg
  rw [List.mem_singleton.mp hg]
  obtain ⟨s, t, hs, -, -⟩ := h f (List.mem_cons_self ..) f (List.mem_cons_self ..)
  exact ⟨s, s, hs, hs, Int.le_refl s⟩

/-- The newest of a list whose first is the newest of two is the newest with both. -/
theorem IsNewest.trans {f₁ f₂ : Fix R} (h : IsNewest g (f :: fixes)) (hf : IsNewest f [f₁, f₂]) :
    IsNewest g (f₁ :: f₂ :: fixes) := by
  obtain ⟨hg, hnewest⟩ := h
  obtain ⟨s, t, hs, ht, hst⟩ := hnewest f (List.mem_cons_self ..)
  have hboth : ∀ x ∈ [f₁, f₂], ∃ s t, x.timestamp = some s ∧ g.timestamp = some t ∧ s ≤ t := by
    intro x hx
    obtain ⟨s', t', hs', ht', hle⟩ := hf.2 x hx
    obtain rfl : s = t' := Option.some.inj (hs.symm.trans ht')
    exact ⟨s', t, hs', ht, Int.le_trans hle hst⟩
  constructor
  · rcases List.mem_cons.mp hg with rfl | hg
    · exact List.mem_append_left fixes hf.1
    · exact List.mem_append_right [f₁, f₂] hg
  · intro x hx
    rcases List.mem_append.mp (show x ∈ [f₁, f₂] ++ fixes from hx) with hx | hx
    · exact hboth x hx
    · exact hnewest x (List.mem_cons_of_mem _ hx)

end Fixes

/-- An entry is dated like what makes it, whatever was there before. -/
@[simp] theorem fix_updateEntry (etaFor : Option (PositionUpdateInput R → Option String)) (now : Int)
    (u : PositionUpdateInput R) (existing : Option (VehicleData R)) :
    (updateEntry etaFor now u existing).fix = (Message.update etaFor now u).fix := rfl

@[simp] theorem fix_bootstrapEntry (etaFor : Option (LivePositionInput R → Option String))
    (pos : LivePositionInput R) :
    (bootstrapEntry etaFor pos).fix = (Message.position etaFor pos).fix := rfl

/-- An update leaves the newer one of the two. -/
theorem receive_update (etaFor : Option (PositionUpdateInput R → Option String)) (now : Int)
    {u : PositionUpdateInput R} {existing : VehicleData R} (hsuspect : u.suspect ≠ some true)
    (hspan : Spans [existing.fix, (Message.update etaFor now u).fix]) :
    ∃ entry, receive (some existing) (.update etaFor now u) = some entry ∧
      IsNewest entry.fix [existing.fix, (Message.update etaFor now u).fix] := by
  obtain ⟨s, t, hs, ht, -⟩ := hspan _ (List.mem_cons_self ..) _
    (List.mem_cons_of_mem _ (List.mem_singleton_self _))
  obtain ⟨t', s', ht', hs', hlt⟩ := hspan _ (List.mem_cons_of_mem _ (List.mem_singleton_self _)) _
    (List.mem_cons_self ..)
  obtain rfl : s = s' := Option.some.inj (hs.symm.trans hs')
  obtain rfl : t = t' := Option.some.inj (ht.symm.trans ht')
  have hstale : isStale u existing =
      (decide (t - s < 0) && decide (-STALE_UPDATE_RESET_MS < t - s)) := by
    have hu : u.timestamp = some t := ht
    have he : existing.timestamp = some s := hs
    rw [isStale, hu, he]
    rfl
  by_cases hold : t < s
  · refine ⟨existing, ?_, List.mem_cons_self .., ?_⟩
    · rw [receive, Option.any_some, hstale, if_pos]
      rw [Bool.and_eq_true, decide_eq_true_eq, decide_eq_true_eq]
      omega
    · intro g hg
      rcases List.mem_cons.mp hg with rfl | hg
      · exact ⟨s, s, hs, hs, Int.le_refl s⟩
      · rw [List.mem_singleton.mp hg]
        exact ⟨t, s, ht, hs, Int.le_of_lt hold⟩
  · refine ⟨updateEntry etaFor now u (some existing), ?_,
      List.mem_cons_of_mem _ (List.mem_singleton_self _), ?_⟩
    · rw [receive, Option.any_some, hstale, if_neg, if_neg hsuspect]
      rw [Bool.and_eq_true, decide_eq_true_eq]
      omega
    · intro g hg
      rcases List.mem_cons.mp hg with rfl | hg
      · exact ⟨s, t, hs, ht, by omega⟩
      · rw [List.mem_singleton.mp hg]
        exact ⟨t, t, ht, ht, Int.le_refl t⟩

/-- Of an entry and the updates behind it the newest is left; positions change nothing. -/
theorem foldl_receive_newest {ms : List (Message R)} (hsuspect : ∀ a ∈ ms, ¬ a.suspect)
    (existing : VehicleData R)
    (hspan : Spans (existing.fix :: (ms.filter Message.isUpdate).map Message.fix)) :
    ∃ entry, ms.foldl receive (some existing) = some entry ∧
      IsNewest entry.fix (existing.fix :: (ms.filter Message.isUpdate).map Message.fix) := by
  induction ms generalizing existing with
  | nil => exact ⟨existing, rfl, hspan.isNewest_singleton⟩
  | cons a ms ih =>
      have hsuspect' : ∀ b ∈ ms, ¬ b.suspect := fun b hb => hsuspect b (List.mem_cons_of_mem _ hb)
      cases a with
      | update etaFor now u =>
          rw [List.filter_cons_of_pos (show (Message.update etaFor now u).isUpdate = true from rfl),
            List.map_cons] at hspan ⊢
          have htwo : [existing.fix, (Message.update etaFor now u).fix] ⊆ existing.fix ::
              (Message.update etaFor now u).fix :: (ms.filter Message.isUpdate).map Message.fix :=
            List.subset_append_left [_, _] _
          obtain ⟨entry, hreceive, hentry⟩ := receive_update etaFor now
            (hsuspect _ (List.mem_cons_self ..)) (hspan.subset htwo)
          obtain ⟨entry', hfold, hnewest⟩ := ih hsuspect' entry (hspan.subset (by
            refine List.cons_subset.mpr ⟨htwo hentry.1, ?_⟩
            exact List.subset_append_right [_, _] _))
          refine ⟨entry', ?_, hnewest.trans hentry⟩
          rw [List.foldl_cons, hreceive, hfold]
      | position etaFor pos =>
          rw [List.filter_cons_of_neg (show ¬ (Message.position etaFor pos).isUpdate = true from
            Bool.false_ne_true)] at hspan ⊢
          exact ih hsuspect' existing hspan

/-- **The newest message is shown**, of the updates and the message that put the vehicle on the map,
and nothing that is merged about one vehicle changes the entry of another. -/
theorem mergeAll_newest (vehicles : VehicleMap R) (merges : List (Merge R)) (v : String)
    (hnew : get v vehicles = none) (hsome : messages v merges ≠ [])
    (hsuspect : ∀ a ∈ messages v merges, ¬ a.suspect)
    (hspan : Spans ((messages v merges).map Message.fix)) :
    (∃ entry, get v (mergeAll vehicles merges) = some entry ∧
      IsNewest entry.fix ((heard (messages v merges)).map Message.fix)) ∧
    ∀ w merges', messages w merges' = messages w merges →
      get w (mergeAll vehicles merges') = get w (mergeAll vehicles merges) := by
  constructor
  · rw [get_mergeAll, hnew]
    cases hms : messages v merges with
    | nil => exact absurd hms hsome
    | cons a ms =>
        rw [hms] at hsuspect hspan
        obtain ⟨first, hfirst, hfix⟩ : ∃ first, receive none a = some first ∧ first.fix = a.fix := by
          cases a with
          | update etaFor now u =>
              refine ⟨updateEntry etaFor now u none, ?_, rfl⟩
              exact if_neg (hsuspect _ (List.mem_cons_self ..))
          | position etaFor pos => exact ⟨bootstrapEntry etaFor pos, rfl, rfl⟩
        rw [List.foldl_cons, hfirst, heard, List.map_cons, ← hfix]
        refine foldl_receive_newest (fun b hb => hsuspect b (List.mem_cons_of_mem _ hb)) first ?_
        refine hspan.subset ?_
        rw [hfix, List.map_cons]
        exact List.cons_subset_cons _ ((List.filter_sublist).map _).subset
  · intro w merges' heq
    rw [get_mergeAll, get_mergeAll, heq]

/-- A fix of the vehicle `v`, from the socket. -/
def updateAt (t : Int) : PositionUpdateInput ℚ where
  vehicleId := "v"
  driverId := none
  driverName := none
  latitude := t
  longitude := 0
  displayLatitude := none
  displayLongitude := none
  speed := none
  heading := none
  accuracy := none
  suspect := none
  confidence := none
  timestamp := some t
  deliveryId := none

/-- The same from the REST route. -/
def positionAt (t : Int) : LivePositionInput ℚ where
  vehicleId := "v"
  driverName := none
  latitude := t
  longitude := 0
  displayLatitude := none
  displayLongitude := none
  speed := none
  heading := none
  accuracy := none
  suspect := none
  timestamp := some t
  deliveryId := none
  minutesAgo := none
  receivedAt := none

/-- An update and a position one second later. -/
theorem spans_updateAt_positionAt :
    Spans ([.update none 0 (updateAt 0), .position none (positionAt 1000)].map Message.fix) := by
  have hdate : ∀ f ∈ [Message.update none 0 (updateAt 0), .position none (positionAt 1000)].map
      Message.fix, ∃ t : Int, f.timestamp = some t ∧ 0 ≤ t ∧ t ≤ 1000 := by
    intro f hf
    rcases List.mem_cons.mp hf with rfl | hf
    · exact ⟨0, rfl, by decide, by decide⟩
    · rw [List.mem_singleton.mp hf]
      exact ⟨1000, rfl, by decide, by decide⟩
  intro f hf g hg
  obtain ⟨s, hs, hs0, -⟩ := hdate f hf
  obtain ⟨t, ht, -, ht1⟩ := hdate g hg
  refine ⟨s, t, hs, ht, ?_⟩
  rw [STALE_UPDATE_RESET_MS]
  omega

theorem mergeAll_newest_two : ∃ entry : VehicleData ℚ,
    get "v" (mergeAll [] [.update none 0 (updateAt 0), .bootstrap none [positionAt 1000]]) =
      some entry ∧ IsNewest entry.fix [(Message.update none 0 (updateAt 0)).fix] :=
  (mergeAll_newest [] [.update none 0 (updateAt 0), .bootstrap none [positionAt 1000]] "v" rfl
    (List.cons_ne_nil _ _) (by
      intro a ha
      rcases List.mem_cons.mp ha with rfl | ha
      · exact nofun
      · rw [List.mem_singleton.mp ha]
        exact id) spans_updateAt_positionAt).1

/-- The map shows the older one, the position behind it is dropped. -/
theorem position_dropped :
    messages "v" [.update none 0 (updateAt 0), .bootstrap none [positionAt 1000]] =
      [.update none 0 (updateAt 0), .position none (positionAt 1000)] ∧
    ¬ ∃ entry : VehicleData ℚ,
      get "v" (mergeAll [] [.update none 0 (updateAt 0), .bootstrap none [positionAt 1000]]) =
        some entry ∧
      IsNewest entry.fix
        ([.update none 0 (updateAt 0), .position none (positionAt 1000)].map Message.fix) := by
  refine ⟨rfl, ?_⟩
  rintro ⟨entry, hget, -, hnewest⟩
  obtain ⟨s, t, hs, ht, hst⟩ := hnewest (Message.position none (positionAt 1000)).fix
    (List.mem_cons_of_mem _ (List.mem_singleton_self _))
  rw [get_mergeAll] at hget
  obtain rfl := Option.some.inj hget
  obtain rfl : (1000 : Int) = s := Option.some.inj hs
  obtain rfl : (0 : Int) = t := Option.some.inj ht
  omega

end DeliveryTracking.LiveMap
