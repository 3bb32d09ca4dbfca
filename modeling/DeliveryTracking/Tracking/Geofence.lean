/-
# `DeliveryTracking.Tracking.Geofence` — entries and exits

`checkGeofences` of `geofence.service.ts`, called once for each stored position of
a delivery and by many callers at once: `saveBatch` starts a call for every
inserted position without waiting for it.  A call reads the geofences of the
delivery, reads the events recorded for the vehicle and the delivery, and then
creates at most one event for each geofence.  The reads and the creations are
separate queries, and `geofence_events` has no unique constraint.

The database orders events of one millisecond as it likes: a read returns the
recorded events in any order that follows their times.

    Alternates   entry, exit, entry, exit, …
    Settled      no event of the geofence was recorded since the read, and none is
                 of this very millisecond
-/
import Mathlib.Data.List.Perm.Basic
import DeliveryTracking.Runs
import DeliveryTracking.Tracking.Store

namespace DeliveryTracking.Tracking

open Geo

/-! ## Alternation -/

inductive Crossing where
  | entry
  | exit
  deriving DecidableEq, Repr

/-- The crossing that may follow the given ones. -/
def nextCrossing (l : List Crossing) : Crossing :=
  if l.getLast? = some .entry then .exit else .entry

/-- The crossings are entry, exit, entry, exit, …: each one is the one that may
follow those before it. -/
def Alternates (l : List Crossing) : Prop :=
  ∀ l' c, l' ++ [c] <+: l → c = nextCrossing l'

theorem alternates_nil : Alternates [] := by
  intro l' c h
  simp at h

theorem alternates_concat {l : List Crossing} {c : Crossing} (h : Alternates l)
    (hc : c = nextCrossing l) : Alternates (l ++ [c]) := by
  intro l' c' h'
  rcases List.prefix_concat_iff.mp h' with heq | hbefore
  · obtain ⟨rfl, hcc⟩ := List.append_inj' heq rfl
    obtain rfl : c' = c := by simpa using hcc
    exact hc
  · exact h l' c' hbefore

/-! ## Model -/

section Model

/-- A row of `geofences`. -/
structure Geofence (R : Type) where
  id : String
  deliveryId : Option String
  name : String
  lat : R
  lng : R
  radiusMeters : R
  deriving DecidableEq, Repr

/-- A row of `geofence_events`; `timestamp` is the database's `now()`. -/
structure GeofenceEvent (R : Type) where
  geofenceId : String
  vehicleId : String
  deliveryId : String
  event : Crossing
  latitude : R
  longitude : R
  timestamp : Int
  deriving DecidableEq, Repr

/-- What a call returns for each event it created. -/
structure CreatedEvent where
  event : Crossing
  geofenceId : String
  geofenceName : String
  deriving DecidableEq, Repr

/-- Where a call stands: before its first query, before its second one, in its loop,
or back with what it created. -/
inductive CheckPhase (R : Type) where
  | findForDelivery
  | findEvents (geofences : List (Geofence R))
  | visit (todo : List (Geofence R)) (allEvents : List (GeofenceEvent R))
      (events : List CreatedEvent)
  | returned (events : List CreatedEvent)
  deriving DecidableEq, Repr

/-- A call `checkGeofences(deliveryId, vehicleId, latitude, longitude)`. -/
structure Check (R : Type) where
  deliveryId : String
  vehicleId : String
  latitude : R
  longitude : R
  phase : CheckPhase R
  deriving DecidableEq, Repr

/-- The call `generateAlerts` makes for a position `saveBatch` has inserted. -/
def GpsPosition.check {R : Type} (record : GpsPosition R) : Option (Check R) :=
  if record.suspect then none
  else record.deliveryId.map fun deliveryId =>
    ⟨deliveryId, record.vehicleId, record.latitude, record.longitude, .findForDelivery⟩

structure GeofenceState (R : Type) where
  now : Int
  geofences : List (Geofence R)
  /-- In the order they were recorded. -/
  recorded : List (GeofenceEvent R)
  calls : List (Check R)

inductive GeofenceStep (R : Type) where
  | tick (t : Int)
  | call (record : GpsPosition R)
  | findForDelivery (i : Nat)
  | findEvents (i : Nat) (rows : List (GeofenceEvent R))
  | visit (i : Nat) (fails : Bool)

variable {R : Type} [Field R] [LinearOrder R] [JsMath R]

/-- The `Map` of the newest event of each geofence: the first one in the rows read. -/
def lastEventPerGeofence (allEvents : List (GeofenceEvent R)) : String → Option Crossing :=
  allEvents.foldl
    (fun last ev =>
      if (last ev.geofenceId).isNone then Function.update last ev.geofenceId (some ev.event)
      else last)
    fun _ => none

/-- The event a call finds due at a geofence. -/
def Check.due (c : Check R) (gf : Geofence R) (allEvents : List (GeofenceEvent R)) :
    Option Crossing :=
  let inside := decide (haversineDistance c.latitude c.longitude gf.lat gf.lng ≤ gf.radiusMeters)
  let previouslyInside := decide (lastEventPerGeofence allEvents gf.id = some .entry)
  if inside && !previouslyInside then some .entry
  else if !inside && previouslyInside then some .exit
  else none

def Check.eventAt (c : Check R) (gf : Geofence R) (event : Crossing) (now : Int) :
    GeofenceEvent R :=
  ⟨gf.id, c.vehicleId, c.deliveryId, event, c.latitude, c.longitude, now⟩

/-- `where: { vehicleId, deliveryId }` -/
def Check.selects (c : Check R) (ev : GeofenceEvent R) : Bool :=
  ev.vehicleId = c.vehicleId ∧ ev.deliveryId = c.deliveryId

namespace GeofenceState

def setPhase (s : GeofenceState R) (i : Nat) (c : Check R) (phase : CheckPhase R) :
    GeofenceState R :=
  { s with calls := s.calls.set i { c with phase := phase } }

/-- One turn of the loop over the geofences; a creation that throws is logged only. -/
def visit (s : GeofenceState R) (i : Nat) (fails : Bool) (c : Check R) (gf : Geofence R)
    (todo : List (Geofence R)) (allEvents : List (GeofenceEvent R))
    (events : List CreatedEvent) : GeofenceState R :=
  match c.due gf allEvents with
  | some event =>
      if fails then s.setPhase i c (.visit todo allEvents events)
      else
        { s with recorded := s.recorded ++ [c.eventAt gf event s.now] }.setPhase i c
          (.visit todo allEvents (events ++ [CreatedEvent.mk event gf.id gf.name]))
  | none => s.setPhase i c (.visit todo allEvents events)

def step (s : GeofenceState R) : GeofenceStep R → Option (GeofenceState R)
  | .tick t => if s.now ≤ t then some { s with now := t } else none
  | .call record => record.check.map fun c => { s with calls := s.calls ++ [c] }
  | .findForDelivery i => do
      let c ← s.calls[i]?
      match c.phase with
      | .findForDelivery =>
          let geofences := s.geofences.filter fun gf => gf.deliveryId = some c.deliveryId
          if geofences.length = 0 then some (s.setPhase i c (.returned []))
          else some (s.setPhase i c (.findEvents geofences))
      | _ => none
  | .findEvents i rows => do
      let c ← s.calls[i]?
      match c.phase with
      | .findEvents geofences =>
          if rows.Perm (s.recorded.filter c.selects) ∧
              rows.Pairwise (fun a b => b.timestamp ≤ a.timestamp) then
            some (s.setPhase i c (.visit geofences rows []))
          else none
      | _ => none
  | .visit i fails => do
      let c ← s.calls[i]?
      match c.phase with
      | .visit (gf :: todo) allEvents events => some (s.visit i fails c gf todo allEvents events)
      | .visit [] _ events => some (s.setPhase i c (.returned events))
      | _ => none

/-- The events recorded for a geofence, a vehicle and a delivery. -/
def history (s : GeofenceState R) (geofenceId vehicleId deliveryId : String) :
    List (GeofenceEvent R) :=
  s.recorded.filter fun ev =>
    ev.geofenceId = geofenceId ∧ ev.vehicleId = vehicleId ∧ ev.deliveryId = deliveryId

/-- The turn of the loop a step takes without failing: the call, the geofence and the
events the call has read. -/
def turn (s : GeofenceState R) : GeofenceStep R → Option (Check R × Geofence R × List (GeofenceEvent R))
  | .visit i false => do
      let c ← s.calls[i]?
      match c.phase with
      | .visit (gf :: _) allEvents _ => some (c, gf, allEvents)
      | _ => none
  | _ => none

/-- An event is created only if none was recorded for its geofence, vehicle and
delivery since the call's read, and none is of this very millisecond. -/
def Settled (s : GeofenceState R) (e : GeofenceStep R) : Prop :=
  ∀ x ∈ s.turn e, x.1.due x.2.1 x.2.2 ≠ none →
    let history := s.history x.2.1.id x.1.vehicleId x.1.deliveryId
    x.2.2.countP (·.geofenceId = x.2.1.id) = history.length ∧
      ∀ ev ∈ history, ev.timestamp < s.now

instance (s : GeofenceState R) (e : GeofenceStep R) : Decidable (s.Settled e) :=
  inferInstanceAs (Decidable (∀ x ∈ s.turn e, _ → _ ∧ _))

end GeofenceState

end Model

/-! ## What a call knows of the last event -/

section Read

variable {R : Type}

theorem foldl_lastEvent (id : String) : ∀ (rows : List (GeofenceEvent R))
    (last : String → Option Crossing),
    rows.foldl (fun last ev =>
      if (last ev.geofenceId).isNone then Function.update last ev.geofenceId (some ev.event)
      else last) last id = (last id).or ((rows.find? (·.geofenceId = id)).map (·.event))
  | [], last => by simp
  | ev :: rows, last => by
      rw [List.foldl_cons, foldl_lastEvent id rows]
      by_cases hid : ev.geofenceId = id
      · subst hid
        cases hlast : last ev.geofenceId <;> simp [hlast]
      · have hne : id ≠ ev.geofenceId := fun e => hid e.symm
        split <;> simp [hid, hne]

/-- The map has the event of the first row read for the geofence. -/
theorem lastEventPerGeofence_eq (rows : List (GeofenceEvent R)) (id : String) :
    lastEventPerGeofence rows id = (rows.find? (·.geofenceId = id)).map (·.event) :=
  (foldl_lastEvent id rows _).trans (Option.none_or ..)

/-- Newest first, the head of a rearranged list is the last element of the list. -/
theorem head?_eq_getLast?_of_perm {α : Type} {time : α → Int} {l h : List α} (hperm : l.Perm h)
    (hl : l.Pairwise fun a b => time b ≤ time a) (hh : h.Pairwise fun a b => time a < time b) :
    l.head? = h.getLast? := by
  cases l with
  | nil => simp [hperm.symm.eq_nil]
  | cons a l =>
      rcases List.eq_nil_or_concat' h with rfl | ⟨h', x, rfl⟩
      · exact absurd hperm.eq_nil (List.cons_ne_nil a l)
      · have hx : x ∈ a :: l := hperm.mem_iff.mpr (by simp)
        have ha : a ∈ h' ++ [x] := hperm.mem_iff.mp (List.mem_cons_self ..)
        rcases List.mem_cons.mp hx with rfl | hx
        · simp
        · rcases List.mem_append.mp ha with ha | ha
          · have hle : time x ≤ time a := List.rel_of_pairwise_cons hl hx
            have hlt : time a < time x := (List.pairwise_append.mp hh).2.2 a ha x (by simp)
            omega
          · obtain rfl := List.mem_singleton.mp ha
            simp

end Read

/-! ## The events alternate -/

namespace GeofenceState

variable {R : Type} {s t : GeofenceState R}

theorem history_append (recorded new : List (GeofenceEvent R)) (s : GeofenceState R)
    (g v d : String) :
    ({ s with recorded := recorded ++ new } : GeofenceState R).history g v d =
      ({ s with recorded := recorded } : GeofenceState R).history g v d ++
        ({ s with recorded := new } : GeofenceState R).history g v d :=
  List.filter_append ..

/-- The rows a call read are those recorded at some earlier time, newest first. -/
def ReadOnce (recorded : List (GeofenceEvent R)) (c : Check R) : Prop :=
  ∀ todo allEvents events, c.phase = .visit todo allEvents events →
    (∃ old, old <+: recorded ∧ allEvents.Perm (old.filter c.selects)) ∧
      allEvents.Pairwise fun a b => b.timestamp ≤ a.timestamp

/-- The history of every geofence, vehicle and delivery is in time order and alternates. -/
structure Inv (s : GeofenceState R) : Prop where
  ordered : ∀ g v d, (s.history g v d).Pairwise fun a b => a.timestamp < b.timestamp
  alternates : ∀ g v d, Alternates ((s.history g v d).map (·.event))
  reads : ∀ c ∈ s.calls, ReadOnce s.recorded c

/-- With nothing recorded since its read, a call knows the last event. -/
theorem Inv.last_eq (hs : Inv s) {c : Check R} (hc : c ∈ s.calls) {todo : List (Geofence R)}
    {allEvents : List (GeofenceEvent R)} {events : List CreatedEvent}
    (hphase : c.phase = .visit todo allEvents events) {g : String}
    (hcount : allEvents.countP (·.geofenceId = g) =
      (s.history g c.vehicleId c.deliveryId).length) :
    lastEventPerGeofence allEvents g =
      ((s.history g c.vehicleId c.deliveryId).map (·.event)).getLast? := by
  obtain ⟨⟨old, ⟨new, hgrow⟩, hperm⟩, hsorted⟩ := hs.reads c hc todo allEvents events hphase
  have hselect : (old.filter c.selects).filter (·.geofenceId = g) =
      ({ s with recorded := old } : GeofenceState R).history g c.vehicleId c.deliveryId := by
    simp [history, Check.selects, List.filter_filter]
  have hrows : (allEvents.filter (·.geofenceId = g)).Perm
      (s.history g c.vehicleId c.deliveryId) := by
    have hold := hperm.filter (·.geofenceId = g)
    rw [hselect] at hold
    have hhistory : s.history g c.vehicleId c.deliveryId = _ :=
      (by rw [hgrow] : s.history g c.vehicleId c.deliveryId =
        ({ s with recorded := old ++ new } : GeofenceState R).history g c.vehicleId
          c.deliveryId).trans (history_append old new s ..)
    have hlength := hold.length_eq
    rw [← List.countP_eq_length_filter, hcount, hhistory, List.length_append] at hlength
    have hnew := List.eq_nil_of_length_eq_zero (by omega :
      (({ s with recorded := new } : GeofenceState R).history g c.vehicleId
        c.deliveryId).length = 0)
    rw [hhistory, hnew, List.append_nil]
    exact hold
  rw [lastEventPerGeofence_eq, ← List.head?_filter, List.getLast?_map]
  exact congrArg _ (head?_eq_getLast?_of_perm hrows (hsorted.filter _) (hs.ordered g _ _))

theorem ReadOnce.mono {recorded recorded' : List (GeofenceEvent R)} {c : Check R}
    (h : ReadOnce recorded c) (hgrow : recorded <+: recorded') : ReadOnce recorded' c := by
  intro todo allEvents events hphase
  obtain ⟨⟨old, hold, hperm⟩, hsorted⟩ := h todo allEvents events hphase
  exact ⟨⟨old, hold.trans hgrow, hperm⟩, hsorted⟩

/-- A call goes on with what it has read. -/
theorem Inv.setPhase (hs : Inv s) {i : Nat} {c : Check R} {phase : CheckPhase R}
    (hphase : ReadOnce s.recorded { c with phase := phase }) : Inv (s.setPhase i c phase) where
  ordered := hs.ordered
  alternates := hs.alternates
  reads := forall_mem_set hs.reads hphase

/-- No event recorded yet, and no call running. -/
def start (geofences : List (Geofence R)) : GeofenceState R := ⟨0, geofences, [], []⟩

theorem inv_start (geofences : List (Geofence R)) : Inv (start geofences) where
  ordered := by intro g v d; exact List.Pairwise.nil
  alternates := by intro g v d; exact alternates_nil
  reads := by intro c hc; cases hc

variable [Field R] [LinearOrder R] [JsMath R]

/-- The event due is the one that may follow. -/
theorem due_eq_next {c : Check R} {gf : Geofence R} {allEvents : List (GeofenceEvent R)}
    {event : Crossing} {l : List Crossing} (hdue : c.due gf allEvents = some event)
    (hlast : lastEventPerGeofence allEvents gf.id = l.getLast?) : event = nextCrossing l := by
  simp only [Check.due, hlast] at hdue
  unfold nextCrossing
  by_cases hentry : l.getLast? = some .entry
  · simp only [hentry, decide_true, Bool.not_true, Bool.and_false, Bool.false_eq_true, if_false,
      Bool.and_true] at hdue
    rw [if_pos hentry]
    split at hdue
    · exact (Option.some.inj hdue).symm
    · cases hdue
  · simp only [hentry, decide_false, Bool.not_false, Bool.and_true, Bool.and_false,
      Bool.false_eq_true, if_false] at hdue
    rw [if_neg hentry]
    split at hdue
    · exact (Option.some.inj hdue).symm
    · cases hdue

/-- A call whose read still holds records the event that may follow. -/
theorem Inv.record (hs : Inv s) {c : Check R} (hc : c ∈ s.calls) {gf : Geofence R}
    {todo : List (Geofence R)} {allEvents : List (GeofenceEvent R)} {events : List CreatedEvent}
    {event : Crossing} (hphase : c.phase = .visit (gf :: todo) allEvents events)
    (hdue : c.due gf allEvents = some event)
    (hcount : allEvents.countP (·.geofenceId = gf.id) =
      (s.history gf.id c.vehicleId c.deliveryId).length)
    (hnow : ∀ ev ∈ s.history gf.id c.vehicleId c.deliveryId, ev.timestamp < s.now) :
    Inv { s with recorded := s.recorded ++ [c.eventAt gf event s.now] } := by
  have hnext := due_eq_next hdue (hs.last_eq hc hphase hcount)
  have hown : ({ s with recorded := [c.eventAt gf event s.now] } : GeofenceState R).history
      gf.id c.vehicleId c.deliveryId = [c.eventAt gf event s.now] := by
    simp [history, Check.eventAt]
  have hother : ∀ g v d, ¬ (g = gf.id ∧ v = c.vehicleId ∧ d = c.deliveryId) →
      ({ s with recorded := [c.eventAt gf event s.now] } : GeofenceState R).history g v d = [] := by
    intro g v d hne
    refine List.filter_eq_nil_iff.mpr fun ev hev htriple => hne ?_
    obtain rfl := List.mem_singleton.mp hev
    obtain ⟨h₁, h₂, h₃⟩ := of_decide_eq_true htriple
    exact ⟨h₁.symm, h₂.symm, h₃.symm⟩
  refine ⟨fun g v d => ?_, fun g v d => ?_, fun c' hc' => ?_⟩
  · rw [history_append]
    by_cases htriple : g = gf.id ∧ v = c.vehicleId ∧ d = c.deliveryId
    · obtain ⟨rfl, rfl, rfl⟩ := htriple
      rw [hown]
      refine List.pairwise_append.mpr ⟨hs.ordered _ _ _, List.pairwise_singleton _ _, ?_⟩
      intro ev hev ev' hev'
      obtain rfl := List.mem_singleton.mp hev'
      exact hnow ev hev
    · rw [hother g v d htriple, List.append_nil]
      exact hs.ordered g v d
  · rw [history_append]
    by_cases htriple : g = gf.id ∧ v = c.vehicleId ∧ d = c.deliveryId
    · obtain ⟨rfl, rfl, rfl⟩ := htriple
      rw [hown, List.map_append]
      exact alternates_concat (hs.alternates _ _ _) hnext
    · rw [hother g v d htriple, List.append_nil]
      exact hs.alternates g v d
  · exact (hs.reads c' hc').mono (List.prefix_append _ _)

theorem Inv.visit (hs : Inv s) {i : Nat} {fails : Bool} {c : Check R} (hc : s.calls[i]? = some c)
    {gf : Geofence R} {todo : List (Geofence R)} {allEvents : List (GeofenceEvent R)}
    {events : List CreatedEvent} (hphase : c.phase = .visit (gf :: todo) allEvents events)
    (hsettled : s.Settled (.visit i fails)) : Inv (s.visit i fails c gf todo allEvents events) := by
  have hmem : c ∈ s.calls := List.mem_of_getElem? hc
  have hread : ∀ events', ReadOnce s.recorded { c with phase := .visit todo allEvents events' } := by
    rintro events' _ _ _ ⟨⟩
    exact hs.reads c hmem (gf :: todo) allEvents events hphase
  simp only [GeofenceState.visit]
  split
  · rename_i event hdue
    cases fails with
    | true => exact hs.setPhase (hread _)
    | false =>
        have hturn : s.turn (.visit i false) = some (c, gf, allEvents) := by
          simp [turn, hc, hphase]
        obtain ⟨hcount, hnow⟩ := hsettled _ hturn (by simp [hdue])
        have hrecord := hs.record hmem hphase hdue hcount hnow
        exact hrecord.setPhase ((hread _).mono (List.prefix_append _ _))
  · exact hs.setPhase (hread _)

theorem Inv.step {e : GeofenceStep R} (hs : Inv s) (hsettled : s.Settled e)
    (h : s.step e = some t) : Inv t := by
  cases e with
  | tick t' =>
      simp only [GeofenceState.step] at h
      split at h
      · obtain rfl := Option.some.inj h
        exact ⟨hs.ordered, hs.alternates, hs.reads⟩
      · cases h
  | call record =>
      obtain ⟨c, hc, rfl⟩ := Option.map_eq_some_iff.mp h
      refine ⟨hs.ordered, hs.alternates, fun c' hc' => ?_⟩
      rcases List.mem_append.mp hc' with hc' | hc'
      · exact hs.reads c' hc'
      · obtain rfl := List.mem_singleton.mp hc'
        unfold GpsPosition.check at hc
        split at hc
        · cases hc
        · obtain ⟨d, -, rfl⟩ := Option.map_eq_some_iff.mp hc
          rintro _ _ _ ⟨⟩
  | findForDelivery i =>
      obtain ⟨c, hc, h⟩ := Option.bind_eq_some_iff.mp h
      split at h
      · dsimp only at h
        split at h
        · obtain rfl := Option.some.inj h
          exact hs.setPhase (by rintro _ _ _ ⟨⟩)
        · obtain rfl := Option.some.inj h
          exact hs.setPhase (by rintro _ _ _ ⟨⟩)
      · cases h
  | findEvents i rows =>
      obtain ⟨c, hc, h⟩ := Option.bind_eq_some_iff.mp h
      split at h
      · split at h
        · rename_i hguard
          obtain rfl := Option.some.inj h
          refine hs.setPhase ?_
          rintro _ _ _ ⟨⟩
          exact ⟨⟨s.recorded, List.prefix_refl _, hguard.1⟩, hguard.2⟩
        · cases h
      · cases h
  | visit i fails =>
      obtain ⟨c, hc, h⟩ := Option.bind_eq_some_iff.mp h
      split at h
      · rename_i hphase
        obtain rfl := Option.some.inj h
        exact hs.visit hc hphase hsettled
      · obtain rfl := Option.some.inj h
        exact hs.setPhase (by rintro _ _ _ ⟨⟩)
      · cases h

/-- In every run in which events are created on a read that still holds, the events
of every geofence, vehicle and delivery are entry, exit, entry, exit, … -/
theorem geofence_events_alternate {geofences : List (Geofence R)} {es : List (GeofenceStep R)}
    (h : Run (Guarded (Steps step) Settled) (start geofences) es s) (g v d : String) :
    Alternates ((s.history g v d).map (·.event)) := by
  have hinv : Inv s :=
    h.invariant (I := Inv) (fun hs hstep => hs.step hstep.2 hstep.1) (inv_start geofences)
  exact hinv.alternates g v d

/-! ### Two positions of one batch -/

def depot : Geofence ℚ := ⟨"depot", some "L1", "Dépôt", -18, 47, 100⟩

def positionAt (timestamp : Int) (latitude : ℚ) : GpsPosition ℚ :=
  ⟨"v1", timestamp, latitude, 47, none, none, false, .phone, some "L1", some "d1", "c1"⟩

def entryAt (timestamp : Int) : GeofenceEvent ℚ := ⟨"depot", "v1", "L1", .entry, -18, 47, timestamp⟩

/-- A position at the depot, and one away from it once the first call is back. -/
def inAndOut : List (GeofenceStep ℚ) :=
  [.call (positionAt 0 (-18)), .findForDelivery 0, .findEvents 0 [], .visit 0 false, .tick 5,
    .call (positionAt 60000 (-17)), .findForDelivery 1, .findEvents 1 [entryAt 0], .visit 1 false]

theorem inAndOut_alternates :
    ∃ s, Run (Guarded (Steps step) Settled) (start [depot]) inAndOut s ∧
      (s.history "depot" "v1" "L1").map (·.event) = [.entry, .exit] ∧
      Alternates ((s.history "depot" "v1" "L1").map (·.event)) := by
  have hend : (inAndOut.foldlM (guardStep step Settled) (start [depot])).map
      (fun s => (s.history "depot" "v1" "L1").map (·.event)) = some [.entry, .exit] := by
    decide +kernel
  obtain ⟨s, hs, hevents⟩ := Option.map_eq_some_iff.mp hend
  have hrun := Run.of_guardStep hs
  exact ⟨s, hrun, hevents, geofence_events_alternate hrun "depot" "v1" "L1"⟩

/-- Two positions of one batch at the depot: both calls read before either creates. -/
def twoAtOnce : List (GeofenceStep ℚ) :=
  [.call (positionAt 0 (-18)), .call (positionAt 5000 (-18)), .findForDelivery 0,
    .findForDelivery 1, .findEvents 0 [], .findEvents 1 [], .visit 0 false, .tick 1,
    .visit 1 false]

theorem twoAtOnce_enters_twice :
    ∃ s, Run (Steps step) (start [depot]) twoAtOnce s ∧
      (s.history "depot" "v1" "L1").map (·.event) = [.entry, .entry] ∧
      ¬ Alternates ((s.history "depot" "v1" "L1").map (·.event)) := by
  have hend : (twoAtOnce.foldlM step (start [depot])).map
      (fun s => (s.history "depot" "v1" "L1").map (·.event)) = some [.entry, .entry] := by
    decide +kernel
  obtain ⟨s, hs, hevents⟩ := Option.map_eq_some_iff.mp hend
  refine ⟨s, Run.of_foldlM hs, hevents, fun halternates => ?_⟩
  rw [hevents] at halternates
  exact absurd (halternates [.entry] .entry (List.prefix_refl _)) (by decide)

end GeofenceState

end DeliveryTracking.Tracking
