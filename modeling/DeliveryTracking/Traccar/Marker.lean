/-
# `DeliveryTracking.Traccar.Marker` — what the map is told of a vehicle

A stored fix is shown after the device lock is released: `handlePosition` reads
the history, decides whether the fix comes late, and broadcasts it at once or
after a road match.  Fixes of one vehicle therefore pass three points, in any
interleaving:

    receive    stored under the lock (`ingest`)
    resume     compared with the history, broadcast unless a road match is tried
    matched    the road matcher has answered, or failed

The late test compares with the last element of the history, and a late fix
becomes that element.  `marker_forward`: as long as the test is right about every
fix, and no newer fix was handled while one waited for its match, the broadcasts
of a vehicle never go back in time.  `marker_goes_back` is the shortest run that
does.
-/
import DeliveryTracking.Runs
import DeliveryTracking.Traccar.Live

namespace DeliveryTracking.Traccar

open Geo Tracking

variable {R : Type}

/-! ## State -/

/-- A fix on its way from the lock to the map. -/
structure StoredFix (R : Type) where
  pos : TraccarPosition R
  processed : Processed R
  row : GpsPosition R
  stored : processed.position = some row

namespace StoredFix

variable (fix : StoredFix R)

def vehicleId : String := fix.processed.vehicle.id

def timestamp : Int := fix.processed.dto.timestamp

def raw : LatLng R := ⟨fix.pos.latitude, fix.pos.longitude⟩

end StoredFix

/-- A `positionUpdate`, to the clients of a company. -/
structure PositionUpdate (R : Type) where
  companyId : String
  driverId : Option String
  latitude : R
  longitude : R
  displayLatitude : R
  displayLongitude : R
  speed : Option R
  heading : R
  accuracy : Option R
  suspect : Bool
  confidence : Int
  timestamp : Int
  deliveryId : Option String
  vehicleId : String
  deriving DecidableEq, Repr

/-- What the road matcher is asked. -/
structure MatchRequest (R : Type) where
  coordinates : List (LatLng R)
  radiuses : List R
  deriving DecidableEq, Repr

/-- A fix waiting for the road matcher. -/
structure RoadMatch (R : Type) where
  fix : StoredFix R
  outOfOrder : Bool
  request : MatchRequest R

/-- The bridge with the fixes between lock and map, and the broadcasts so far. -/
structure MarkerState (R : Type) where
  bridge : Bridge R
  ready : List (StoredFix R)
  matching : List (RoadMatch R)
  broadcasts : List (PositionUpdate R)
  /-- The newest time a fix of the vehicle was handled with; nothing reads it. -/
  newest : String → Option Int

inductive MarkerEvent (R : Type) where
  | receive (pos : TraccarPosition R) (now : Int)
  /-- The `k`-th fix on its way goes on. -/
  | resume (k : Nat)
  /-- The `k`-th match ends; without a result it failed. -/
  | matched (k : Nat) (answer : Option (MatchResult R))

/-- The bridge when the service starts. -/
def MarkerState.start (br : Bridge R) : MarkerState R := ⟨br, [], [], [], fun _ => none⟩

/-! ## Showing a fix -/

/-- `outOfOrder`: older than the last fix of the history. -/
def Bridge.outOfOrder (br : Bridge R) (vehicleId : String) (timestamp : Int) : Bool :=
  match (br.anchorBuffers vehicleId).getLast? with
  | some last => timestamp < last.timestamp
  | none => false

variable [Field R] [LinearOrder R] [JsMath R]

/-- The anchor of the vehicle, once the fix is in the history. -/
def Bridge.anchor (br : Bridge R) (fix : StoredFix R) : Option (LatLng R) :=
  if fix.row.suspect then none else computeAnchoredPosition (br.anchorBuffers fix.vehicleId)

/-- The window to match, when a match is tried. -/
def Bridge.matchWindow (br : Bridge R) (cfg : BridgeConfig R) (fix : StoredFix R) :
    Option (List (AnchorFix R)) :=
  if !fix.row.suspect && cfg.mapMatchingEnabled && cfg.hasRouting &&
      !br.matchInFlight fix.vehicleId then
    selectMatchWindow (br.anchorBuffers fix.vehicleId)
  else none

def matchRequest (window : List (AnchorFix R)) : MatchRequest R :=
  { coordinates := window.map fun f => ⟨f.latitude, f.longitude⟩
    radiuses := matchRadiuses window }

/-- A stopped fix neither anchored nor matched, far from the position last displayed, leaves
that one in place. -/
def Bridge.settle (br : Bridge R) (fix : StoredFix R) (display : Option (LatLng R)) :
    Option (LatLng R) :=
  match display with
  | some d => some d
  | none =>
    if !fix.row.suspect && isStoppedFix (fix.processed.anchorFix fix.pos) then
      (br.lastDisplayedPosition fix.vehicleId).filter fun last =>
        anchorInitialRadiusMinM < fix.raw.distance last
    else none

/-- `broadcast`. -/
def StoredFix.update (fix : StoredFix R) (display : Option (LatLng R)) : PositionUpdate R :=
  { companyId := fix.processed.vehicle.companyId
    driverId := fix.processed.driverId
    latitude := fix.pos.latitude
    longitude := fix.pos.longitude
    displayLatitude := (display.getD fix.raw).latitude
    displayLongitude := (display.getD fix.raw).longitude
    speed := fix.processed.dto.speed
    heading := fix.processed.heading
    accuracy := fix.processed.dto.accuracy
    suspect := fix.row.suspect
    confidence := computeConfidence fix.processed.dto.accuracy fix.row.suspect
      fix.processed.dto.speed
    timestamp := fix.timestamp
    deliveryId := fix.processed.dto.deliveryId
    vehicleId := fix.vehicleId }

/-- The end of `handlePosition`: remember what is displayed, and broadcast a fix that is not
late. -/
def finish (fix : StoredFix R) (outOfOrder : Bool) (display : Option (LatLng R))
    (s : MarkerState R) : MarkerState R :=
  let display := s.bridge.settle fix display
  let displayed := match display with
    | some d => some d
    | none => if fix.row.suspect then s.bridge.lastDisplayedPosition fix.vehicleId else some fix.raw
  let lastDisplayedPosition :=
    Function.update s.bridge.lastDisplayedPosition fix.vehicleId displayed
  let broadcasts := if outOfOrder then s.broadcasts else s.broadcasts ++ [fix.update display]
  { s with bridge := { s.bridge with lastDisplayedPosition }, broadcasts }

def Bridge.setMatchInFlight (br : Bridge R) (vehicleId : String) (b : Bool) : Bridge R :=
  { br with matchInFlight := Function.update br.matchInFlight vehicleId b }

/-- The fix leaves the queue and enters the history. -/
def MarkerState.record (s : MarkerState R) (k : Nat) (fix : StoredFix R) : MarkerState R :=
  { s with
    bridge := recordFix fix.processed fix.pos s.bridge
    ready := s.ready.eraseIdx k
    newest := Function.update s.newest fix.vehicleId
      (some (max ((s.newest fix.vehicleId).getD fix.timestamp) fix.timestamp)) }

/-- `handlePosition` from the history to the broadcast, or to the call of the road matcher. -/
def resumeFix (cfg : BridgeConfig R) (s : MarkerState R) (k : Nat) (fix : StoredFix R) :
    MarkerState R :=
  let outOfOrder := s.bridge.outOfOrder fix.vehicleId fix.timestamp
  let s' := s.record k fix
  match s'.bridge.anchor fix with
  | some anchor => finish fix outOfOrder (some anchor) s'
  | none =>
    match s'.bridge.matchWindow cfg fix with
    | some window =>
      { s' with
        bridge := s'.bridge.setMatchInFlight fix.vehicleId true
        matching := s'.matching ++ [⟨fix, outOfOrder, matchRequest window⟩] }
    | none => finish fix outOfOrder none s'

/-- `handlePosition` after the call of the road matcher. -/
def endMatch (s : MarkerState R) (k : Nat) (m : RoadMatch R) (answer : Option (MatchResult R)) :
    MarkerState R :=
  finish m.fix m.outOfOrder (answer.bind (acceptSnappedTail m.fix.raw))
    { s with
      bridge := s.bridge.setMatchInFlight m.fix.vehicleId false
      matching := s.matching.eraseIdx k }

/-- The section under the lock. -/
def receiveFix (cfg : BridgeConfig R) (reg : Registry) (s : MarkerState R)
    (pos : TraccarPosition R) (now : Int) : MarkerState R :=
  if acceptsFix cfg pos then
    match ingest cfg reg pos now s.bridge with
    | (none, br) => { s with bridge := br }
    | (some p, br) =>
      match h : p.position with
      | none => { s with bridge := br }
      | some row => { s with bridge := br, ready := s.ready ++ [⟨pos, p, row, h⟩] }
  else s

def markerStep (cfg : BridgeConfig R) (reg : Registry) (s : MarkerState R) :
    MarkerEvent R → Option (MarkerState R)
  | .receive pos now => some (receiveFix cfg reg s pos now)
  | .resume k => s.ready[k]?.map (resumeFix cfg s k)
  | .matched k answer => s.matching[k]?.map (endMatch s k · answer)

/-! ## Never back -/

/-- The broadcasts of each vehicle are in time order. -/
def Forward (broadcasts : List (PositionUpdate R)) : Prop :=
  broadcasts.Pairwise fun a b => a.vehicleId = b.vehicleId → a.timestamp ≤ b.timestamp

/-- No newer fix of the vehicle was handled. -/
def MarkerState.Newest (s : MarkerState R) (fix : StoredFix R) : Prop :=
  ∀ t ∈ s.newest fix.vehicleId, t ≤ fix.timestamp

/-- A fix that passes for the newest one is the newest one: when it meets the late test, and
when its match ends. -/
def Timely (s : MarkerState R) : MarkerEvent R → Prop
  | .receive _ _ => True
  | .resume k => ∀ fix ∈ s.ready[k]?,
      s.bridge.outOfOrder fix.vehicleId fix.timestamp = false → s.Newest fix
  | .matched k _ => ∀ m ∈ s.matching[k]?, m.outOfOrder = false → s.Newest m.fix

instance (s : MarkerState R) : DecidablePred (Timely s) := fun e =>
  match e with
  | .receive _ _ => inferInstanceAs (Decidable True)
  | .resume k => inferInstanceAs (Decidable (∀ fix ∈ s.ready[k]?,
      s.bridge.outOfOrder fix.vehicleId fix.timestamp = false →
        ∀ t ∈ s.newest fix.vehicleId, t ≤ fix.timestamp))
  | .matched k _ => inferInstanceAs (Decidable (∀ m ∈ s.matching[k]?, m.outOfOrder = false →
      ∀ t ∈ s.newest m.fix.vehicleId, t ≤ m.fix.timestamp))

/-- A time up to which fixes of the vehicle were handled. -/
def MarkerState.Noted (s : MarkerState R) (vehicleId : String) (timestamp : Int) : Prop :=
  ∃ t, s.newest vehicleId = some t ∧ timestamp ≤ t

/-- Nothing is broadcast, and nothing waits for a match, that was not handled. -/
structure MarkerInvariant (s : MarkerState R) : Prop where
  forward : Forward s.broadcasts
  broadcast : ∀ b ∈ s.broadcasts, s.Noted b.vehicleId b.timestamp
  waiting : ∀ m ∈ s.matching, s.Noted m.fix.vehicleId m.fix.timestamp

section Steps

variable {cfg : BridgeConfig R} {reg : Registry} {s t : MarkerState R}

omit [Field R] [LinearOrder R] [JsMath R] in
theorem MarkerState.Noted.record {vehicleId : String} {timestamp : Int}
    (h : s.Noted vehicleId timestamp) (k : Nat) (fix : StoredFix R) :
    (s.record k fix).Noted vehicleId timestamp := by
  obtain ⟨n, hn, hle⟩ := h
  rcases Decidable.em (vehicleId = fix.vehicleId) with rfl | hother
  · refine ⟨_, Function.update_self .., hle.trans ?_⟩
    rw [hn]
    exact le_max_left ..
  · exact ⟨n, (Function.update_of_ne hother ..).trans hn, hle⟩

omit [Field R] [LinearOrder R] [JsMath R] in
theorem MarkerState.noted_record (s : MarkerState R) (k : Nat) (fix : StoredFix R) :
    (s.record k fix).Noted fix.vehicleId fix.timestamp :=
  ⟨_, Function.update_self .., le_max_right ..⟩

omit [Field R] [LinearOrder R] [JsMath R] in
/-- The newest fix is not older than any broadcast. -/
theorem MarkerInvariant.le_of_newest (h : MarkerInvariant s) {fix : StoredFix R}
    (hnewest : s.Newest fix) :
    ∀ b ∈ s.broadcasts, b.vehicleId = fix.vehicleId → b.timestamp ≤ fix.timestamp := by
  intro b hb hvehicle
  obtain ⟨n, hn, hle⟩ := h.broadcast b hb
  rw [hvehicle] at hn
  exact hle.trans (hnewest n hn)

/-- Finishing a handled fix keeps the invariant, when a fix that is not late is not older than
any broadcast. -/
theorem MarkerInvariant.finish (h : MarkerInvariant s) {fix : StoredFix R} {outOfOrder : Bool}
    (hnoted : s.Noted fix.vehicleId fix.timestamp)
    (hlast : outOfOrder = false →
      ∀ b ∈ s.broadcasts, b.vehicleId = fix.vehicleId → b.timestamp ≤ fix.timestamp)
    (display : Option (LatLng R)) : MarkerInvariant (finish fix outOfOrder display s) := by
  cases outOfOrder with
  | true => exact ⟨h.forward, h.broadcast, h.waiting⟩
  | false =>
    set update := fix.update (s.bridge.settle fix display) with hupdate
    have hbroadcasts : (Traccar.finish fix false display s).broadcasts
        = s.broadcasts ++ [update] := rfl
    refine ⟨?_, ?_, h.waiting⟩
    · rw [hbroadcasts]
      refine List.pairwise_append.mpr ⟨h.forward, List.pairwise_singleton .., ?_⟩
      intro b hb c hc hvehicle
      rw [List.mem_singleton.mp hc] at hvehicle ⊢
      exact hlast rfl b hb hvehicle
    · intro b hb
      rw [hbroadcasts] at hb
      rcases List.mem_append.mp hb with hb | hb
      · exact h.broadcast b hb
      · rw [List.mem_singleton.mp hb]
        exact hnoted

/-- A handled fix keeps the invariant, if one that passes the late test is the newest. -/
theorem MarkerInvariant.resume (h : MarkerInvariant s) {k : Nat} {fix : StoredFix R}
    (htimely : s.bridge.outOfOrder fix.vehicleId fix.timestamp = false → s.Newest fix) :
    MarkerInvariant (resumeFix cfg s k fix) := by
  have hrecord : MarkerInvariant (s.record k fix) :=
    ⟨h.forward, fun b hb => (h.broadcast b hb).record k fix,
      fun m hm => (h.waiting m hm).record k fix⟩
  have hnoted := s.noted_record k fix
  unfold resumeFix
  simp only
  split
  · exact hrecord.finish hnoted (fun hlate => h.le_of_newest (htimely hlate)) _
  · split
    · refine ⟨hrecord.forward, hrecord.broadcast, ?_⟩
      intro m hm
      rcases List.mem_append.mp hm with hm | hm
      · exact hrecord.waiting m hm
      · rw [List.mem_singleton.mp hm]
        exact hnoted
    · exact hrecord.finish hnoted (fun hlate => h.le_of_newest (htimely hlate)) _

/-- So does the end of a match, if a fix that is not late is still the newest. -/
theorem MarkerInvariant.endMatch (h : MarkerInvariant s) {k : Nat} {m : RoadMatch R}
    (hm : s.matching[k]? = some m) (htimely : m.outOfOrder = false → s.Newest m.fix)
    (answer : Option (MatchResult R)) : MarkerInvariant (endMatch s k m answer) := by
  have hrest : MarkerInvariant { s with
      bridge := s.bridge.setMatchInFlight m.fix.vehicleId false
      matching := s.matching.eraseIdx k } :=
    ⟨h.forward, h.broadcast, fun m hm => h.waiting m (List.mem_of_mem_eraseIdx hm)⟩
  exact hrest.finish (h.waiting m (List.mem_of_getElem? hm))
    (fun hlate => h.le_of_newest (htimely hlate)) _

/-- Receiving a fix touches nothing the invariant is about. -/
theorem receiveFix_frame (cfg : BridgeConfig R) (reg : Registry) (s : MarkerState R)
    (pos : TraccarPosition R) (now : Int) :
    (receiveFix cfg reg s pos now).broadcasts = s.broadcasts ∧
      (receiveFix cfg reg s pos now).matching = s.matching ∧
      (receiveFix cfg reg s pos now).newest = s.newest := by
  unfold receiveFix
  split
  · split
    · exact ⟨rfl, rfl, rfl⟩
    · split
      · exact ⟨rfl, rfl, rfl⟩
      · exact ⟨rfl, rfl, rfl⟩
  · exact ⟨rfl, rfl, rfl⟩

theorem MarkerInvariant.step {e : MarkerEvent R} (h : MarkerInvariant s)
    (hstep : Guarded (Steps (markerStep cfg reg)) Timely s e t) : MarkerInvariant t := by
  obtain ⟨hstep, htimely⟩ := hstep
  cases e with
  | receive pos now =>
    cases hstep
    obtain ⟨hbroadcasts, hmatching, hnewest⟩ := receiveFix_frame cfg reg s pos now
    refine ⟨by rw [hbroadcasts]; exact h.forward, ?_, ?_⟩
    · rw [hbroadcasts]
      simp only [MarkerState.Noted, hnewest]
      exact h.broadcast
    · rw [hmatching]
      simp only [MarkerState.Noted, hnewest]
      exact h.waiting
  | resume k =>
    obtain ⟨fix, hfix, rfl⟩ := Option.map_eq_some_iff.mp hstep
    exact h.resume (htimely fix hfix)
  | matched k answer =>
    obtain ⟨m, hm, rfl⟩ := Option.map_eq_some_iff.mp hstep
    exact h.endMatch hm (htimely m hm) answer

end Steps

/-- **In a run of timely steps the marker of no vehicle goes back in time.** -/
theorem marker_forward {cfg : BridgeConfig R} {reg : Registry} {br : Bridge R}
    {es : List (MarkerEvent R)} {s : MarkerState R}
    (h : Run (Guarded (Steps (markerStep cfg reg)) Timely) (.start br) es s) : Forward s.broadcasts := by
  have hstart : MarkerInvariant (MarkerState.start br) :=
    ⟨List.Pairwise.nil, by simp [MarkerState.start], by simp [MarkerState.start]⟩
  exact (h.invariant (fun hs hstep => hs.step hstep) hstart).forward

/-! ### Three fixes of a parked vehicle -/

/-- Fixes of the sample tracker, each handled from the lock to the map before the next. -/
def receiveAndResume (dates : List Int) : List (MarkerEvent ℚ) :=
  dates.flatMap fun date => [.receive (samplePosition date 12) 20000, .resume 0]

/-- A late fix and a fix in time. -/
theorem lateRun_forward : ∃ s : MarkerState ℚ,
    s.broadcasts.map PositionUpdate.timestamp = [10000, 12000] ∧ Forward s.broadcasts := by
  have hdone : ((receiveAndResume [10000, 5000, 12000]).foldlM
      (guardStep (markerStep sampleConfig trackerRegistry) Timely) (.start emptyBridge)).map
        (fun s => s.broadcasts.map PositionUpdate.timestamp) = some [10000, 12000] := by
    decide +kernel
  obtain ⟨s, hs, htimes⟩ := Option.map_eq_some_iff.mp hdone
  exact ⟨s, htimes, marker_forward (Run.of_guardStep hs)⟩

/-- Dated 10 s, 5 s and 7 s: the second is late, and the third is compared with it. -/
theorem marker_goes_back : ∃ s, Run (Steps (markerStep sampleConfig trackerRegistry))
      (.start emptyBridge) (receiveAndResume [10000, 5000, 7000]) s ∧
    (∀ b ∈ s.broadcasts, b.suspect = false) ∧
    ¬ Forward s.broadcasts := by
  have hdone : ((receiveAndResume [10000, 5000, 7000]).foldlM
      (markerStep sampleConfig trackerRegistry) (.start emptyBridge)).map
        (fun s => s.broadcasts.map fun b => (b.vehicleId, b.timestamp, b.suspect))
      = some [(sampleTracker.id, 10000, false), (sampleTracker.id, 7000, false)] := by
    decide +kernel
  obtain ⟨s, hs, hbroadcasts⟩ := Option.map_eq_some_iff.mp hdone
  refine ⟨s, Run.of_foldlM hs, ?_, ?_⟩
  · intro b hb
    have hmem := List.mem_map_of_mem (f := fun b => (b.vehicleId, b.timestamp, b.suspect)) hb
    rw [hbroadcasts] at hmem
    simp only [List.mem_cons, Prod.mk.injEq, List.not_mem_nil, or_false] at hmem
    rcases hmem with hb' | hb'
    · exact hb'.2.2
    · exact hb'.2.2
  · intro hforward
    have hpairs : (s.broadcasts.map fun b => (b.vehicleId, b.timestamp, b.suspect)).Pairwise
        fun a b => a.1 = b.1 → a.2.1 ≤ b.2.1 :=
      List.pairwise_map.mpr hforward
    rw [hbroadcasts] at hpairs
    have hback := List.rel_of_pairwise_cons hpairs (List.mem_singleton_self _) rfl
    cases of_decide_eq_false (by decide : decide ((10000 : Int) ≤ 7000) = false) hback

end DeliveryTracking.Traccar
