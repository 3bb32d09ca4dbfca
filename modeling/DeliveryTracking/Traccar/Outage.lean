/-
# `DeliveryTracking.Traccar.Outage` — the gap a reconnection has to close

While the socket is down Traccar goes on recording.  When it reopens, `open`
starts `performBackfill`, which visits the tracker vehicles one after the other,
and `message` hands live positions to `handlePosition` in between.  Both move
the key `traccar:last_position:<device>`, and the backfill asks for what comes
after it.

    receiveFix_rows, backfillDevice_rows    no step loses a row
    backfillDevice_settles                  what a visit asks for is stored or filtered
    outage_closed                           so is the outage, if every visit asks for it

`live_fix_hides_outage` is a live position handled before the visit.
-/
import DeliveryTracking.Traccar.Backfill
import DeliveryTracking.Traccar.Marker

namespace DeliveryTracking.Traccar

open Geo Tracking

variable {R : Type}

/-! ## The system -/

/-- The vehicles a backfill visits. -/
def vehiclesWithTrackers (reg : Registry) : List Vehicle :=
  reg.vehicles.filter fun v => v.traccarDeviceId.any (· ≠ "") &&
    v.positionSource == .physicalTracker && v.isActive && v.deletedAt.isNone

/-- The live system and the backfill under way. -/
structure Reconnection (R : Type) where
  live : MarkerState R
  /-- The vehicles not visited yet. -/
  todo : List Vehicle
  /-- What the visits held in quarantine, by vehicle; nothing reads it. -/
  held : List (String × TraccarPosition R)

inductive ReconnectionEvent (R : Type) where
  | live (e : MarkerEvent R)
  /-- The visit of the next vehicle. -/
  | visit

variable [Field R] [LinearOrder R] [JsMath R]

/-- What the visit of a vehicle gets from Traccar. -/
def requested (cfg : BridgeConfig R) (rest : Rest R) (now : Int) (v : Vehicle) (br : Bridge R) :
    List (TraccarPosition R) :=
  match v.traccarDeviceId with
  | none => []
  | some deviceId =>
    let lower := effectiveFrom cfg br deviceId v.id now
    if now ≤ lower then [] else rest deviceId lower now

/-- The positions the loop holds in quarantine. -/
def heldBack (reg : Registry) (v : Vehicle) (now : Int) :
    BackfillState R → List (TraccarPosition R) → List (TraccarPosition R)
  | _, [] => []
  | st, pos :: rest =>
    let held := heldBack reg v now (backfillStep reg v now st pos) rest
    if isValidCoordinates pos.latitude pos.longitude && pos.valid != some false &&
        (st.wake pos (parseTimestampMeta pos now).1).quarantine then pos :: held
    else held

def visit (cfg : BridgeConfig R) (reg : Registry) (rest : Rest R) (now : Int) (v : Vehicle)
    (todo : List Vehicle) (s : Reconnection R) : Reconnection R :=
  let br := s.live.bridge
  { live := { s.live with bridge := backfillDevice cfg reg rest now v br }
    todo := todo
    held := s.held ++
      (heldBack reg v now (backfillStart br v) (requested cfg rest now v br)).map (v.id, ·) }

def reconnectionStep (cfg : BridgeConfig R) (reg : Registry) (rest : Rest R) (now : Int)
    (s : Reconnection R) : ReconnectionEvent R → Option (Reconnection R)
  | .live e => (markerStep cfg reg s.live e).map fun live => { s with live }
  | .visit =>
    match s.todo with
    | [] => none
    | v :: todo => some (visit cfg reg rest now v todo s)

/-! ## Rows stay -/

section Rows

variable {cfg : BridgeConfig R} {reg : Registry}

theorem receiveFix_rows (cfg : BridgeConfig R) (reg : Registry) (s : MarkerState R)
    (pos : TraccarPosition R) (now : Int) :
    s.bridge.positions.rows <+: (receiveFix cfg reg s pos now).bridge.positions.rows := by
  obtain ⟨added, hadded, -⟩ := ingest_rows cfg reg pos now s.bridge
  have hgrow : s.bridge.positions.rows <+: (ingest cfg reg pos now s.bridge).2.positions.rows :=
    ⟨added, hadded.symm⟩
  unfold receiveFix
  split
  · split
    · rename_i br hingest
      rw [hingest] at hgrow
      exact hgrow
    · rename_i p br hingest
      rw [hingest] at hgrow
      split <;> exact hgrow
  · exact List.prefix_rfl

theorem resumeFix_rows (cfg : BridgeConfig R) (s : MarkerState R) (k : Nat) (fix : StoredFix R) :
    (resumeFix cfg s k fix).bridge.positions = s.bridge.positions := by
  have hrecord := recordFix_positions fix.processed fix.pos s.bridge
  unfold resumeFix
  simp only
  split
  · exact hrecord
  · split
    · exact hrecord
    · exact hrecord

theorem markerStep_rows {s t : MarkerState R} {e : MarkerEvent R}
    (h : markerStep cfg reg s e = some t) :
    s.bridge.positions.rows <+: t.bridge.positions.rows := by
  cases e with
  | receive pos now =>
    cases h
    exact receiveFix_rows cfg reg s pos now
  | resume k =>
    obtain ⟨fix, -, rfl⟩ := Option.map_eq_some_iff.mp h
    rw [resumeFix_rows]
  | matched k answer =>
    obtain ⟨m, -, rfl⟩ := Option.map_eq_some_iff.mp h
    exact List.prefix_rfl

omit [Field R] [LinearOrder R] [JsMath R] in
theorem insertBackfill_rows (cfg : BridgeConfig R) (deviceId vehicleId : String)
    (toInsert : List (GpsPosition R)) (br : Bridge R) :
    br.positions.rows <+: (insertBackfill cfg deviceId vehicleId toInsert br).positions.rows := by
  unfold insertBackfill
  simp only
  split
  · exact List.prefix_rfl
  · exact ⟨_, (Table.rows_createMany ..).symm⟩

theorem backfillDevice_eq {v : Vehicle} {deviceId : String} (h : v.traccarDeviceId = some deviceId)
    (rest : Rest R) (now : Int) (br : Bridge R) :
    backfillDevice cfg reg rest now v br = insertBackfill cfg deviceId v.id
      ((requested cfg rest now v br).foldl (backfillStep reg v now) (backfillStart br v)).toInsert
      br := by
  simp only [backfillDevice, requested, h]
  split
  · rfl
  · rfl

theorem backfillDevice_rows (rest : Rest R) (now : Int) (v : Vehicle) (br : Bridge R) :
    br.positions.rows <+: (backfillDevice cfg reg rest now v br).positions.rows := by
  cases hdevice : v.traccarDeviceId with
  | none =>
    simp only [backfillDevice, hdevice]
    exact List.prefix_rfl
  | some deviceId =>
    rw [backfillDevice_eq hdevice]
    exact insertBackfill_rows ..

end Rows

/-! ## A visit -/

/-- A fix the loop goes through is in the lot, or was filtered. -/
theorem backfillLoop_settles (reg : Registry) (v : Vehicle) (now : Int) :
    ∀ (positions : List (TraccarPosition R)) (st : BackfillState R), ∀ pos ∈ positions,
      isValidCoordinates pos.latitude pos.longitude = true → pos.valid ≠ some false →
      (∃ row ∈ (positions.foldl (backfillStep reg v now) st).toInsert,
        row.key = (v.id, (parseTimestampMeta pos now).1)) ∨ pos ∈ heldBack reg v now st positions
  | [], _ => by simp
  | first :: rest, st => by
      intro pos hpos hcoordinates hvalid
      rcases List.mem_cons.mp hpos with rfl | hpos
      · cases hwake : (st.wake pos (parseTimestampMeta pos now).1).quarantine with
        | true =>
          refine Or.inr ?_
          simp [heldBack, hcoordinates, hvalid, hwake]
        | false =>
          refine Or.inl ?_
          obtain ⟨rows, hrows, -⟩ := foldl_appends BackfillState.toInsert (fun _ _ => True)
            (fun st pos => by
              obtain ⟨added, hadded, -⟩ := backfillStep_rows reg v now st pos
              exact ⟨added, hadded, fun _ _ => trivial⟩)
            rest (backfillStep reg v now st pos)
          have hstep : backfillStep reg v now st pos
              = backfillKeep reg v st pos (parseTimestampMeta pos now) := by
            simp [backfillStep, hcoordinates, hvalid, hwake]
          rw [List.foldl_cons, hrows, hstep]
          refine ⟨_, List.mem_append_left _ (List.mem_append_right _ (List.mem_singleton_self _)), ?_⟩
          rfl
      · rcases backfillLoop_settles reg v now rest (backfillStep reg v now st first) pos hpos
            hcoordinates hvalid with hrow | hheld
        · exact Or.inl hrow
        · refine Or.inr ?_
          unfold heldBack
          simp only
          split
          · exact List.mem_cons_of_mem _ hheld
          · exact hheld

/-! ## The outage -/

/-- A position Traccar dates. -/
structure DatedPosition (R : Type) where
  pos : TraccarPosition R
  date : Int
  dated : pos.fixTime = .at date

/-- The time the socket was down, and the positions Traccar has of each device. -/
structure Outage (R : Type) where
  start : Int
  stop : Int
  history : String → List (TraccarPosition R)

/-- A position of the vehicle's tracker, dated inside the outage. -/
def Outage.Misses (o : Outage R) (v : Vehicle) (f : DatedPosition R) : Prop :=
  o.start ≤ f.date ∧ f.date < o.stop ∧ ∃ deviceId ∈ v.traccarDeviceId, f.pos ∈ o.history deviceId

/-- Traccar returns all its positions of the interval. -/
def Outage.Complete (o : Outage R) (rest : Rest R) : Prop :=
  ∀ deviceId lower upper, ∀ pos ∈ o.history deviceId, ∀ date, pos.fixTime = .at date →
    lower ≤ date → date ≤ upper → pos ∈ rest deviceId lower upper

/-- Stored, or rejected by a filter. -/
def Settled (s : Reconnection R) (v : Vehicle) (f : DatedPosition R) : Prop :=
  (rowAt s.live.bridge.positions.rows v.id f.date).isSome ∨
    isValidCoordinates f.pos.latitude f.pos.longitude = false ∨ f.pos.valid = some false ∨
    (v.id, f.pos) ∈ s.held

/-- The last time known of the vehicle's tracker is at least 1 s before a date, and the date is
not too old. -/
def Reaches (cfg : BridgeConfig R) (now : Int) (br : Bridge R) (v : Vehicle) (date : Int) : Prop :=
  ∀ deviceId ∈ v.traccarDeviceId,
    (lastKnown cfg br deviceId v.id).getD (now - backfillMax) + 1000 ≤ date ∧
      now - backfillMax ≤ date

/-- A visit reaches what the outage left unsettled of its vehicle. -/
def Covers (cfg : BridgeConfig R) (o : Outage R) (now : Int) (s : Reconnection R) :
    ReconnectionEvent R → Prop
  | .live _ => True
  | .visit => ∀ v ∈ s.todo.head?, ∀ f, o.Misses v f → ¬ Settled s v f →
      Reaches cfg now s.live.bridge v f.date

section Closing

variable {cfg : BridgeConfig R} {reg : Registry} {rest : Rest R} {now : Int} {o : Outage R}
  {v : Vehicle} {s t : Reconnection R}

/-- A settled position stays settled. -/
theorem Settled.step {f : DatedPosition R} (h : Settled s v f) {e : ReconnectionEvent R}
    (hstep : reconnectionStep cfg reg rest now s e = some t) : Settled t v f := by
  have hgrows : s.live.bridge.positions.rows <+: t.live.bridge.positions.rows ∧
      ∀ x ∈ s.held, x ∈ t.held := by
    cases e with
    | live e =>
      obtain ⟨live, hlive, rfl⟩ := Option.map_eq_some_iff.mp hstep
      exact ⟨markerStep_rows hlive, fun _ hx => hx⟩
    | visit =>
      simp only [reconnectionStep] at hstep
      split at hstep
      · cases hstep
      · cases hstep
        exact ⟨backfillDevice_rows .., fun _ hx => List.mem_append_left _ hx⟩
  rcases h with hstored | hcoordinates | hvalid | hheld
  · exact Or.inl (rowAt_isSome_of_grow hstored hgrows.1)
  · exact Or.inr (Or.inl hcoordinates)
  · exact Or.inr (Or.inr (Or.inl hvalid))
  · exact Or.inr (Or.inr (Or.inr (hgrows.2 _ hheld)))

/-- A visit that reaches a position settles it. -/
theorem visit_settles (hrest : o.Complete rest) (hnow : o.stop ≤ now) {f : DatedPosition R}
    (hmiss : o.Misses v f) (hreach : Reaches cfg now s.live.bridge v f.date)
    (todo : List Vehicle) : Settled (visit cfg reg rest now v todo s) v f := by
  obtain ⟨-, hstop, deviceId, hdevice, hhistory⟩ := hmiss
  rcases hcoordinates : isValidCoordinates f.pos.latitude f.pos.longitude with _ | _
  · exact Or.inr (Or.inl hcoordinates)
  rcases Decidable.em (f.pos.valid = some false) with hvalid | hvalid
  · exact Or.inr (Or.inr (Or.inl hvalid))
  have hlower : effectiveFrom cfg s.live.bridge deviceId v.id now ≤ f.date :=
    max_le (hreach deviceId hdevice).1 (hreach deviceId hdevice).2
  have hrequested : f.pos ∈ requested cfg rest now v s.live.bridge := by
    simp only [requested, Option.mem_def.mp hdevice]
    rw [if_neg (by omega)]
    exact hrest deviceId _ _ f.pos hhistory f.date f.dated hlower (by omega)
  have htime : parseTimestampMeta f.pos now = (f.date, false) := by
    refine parseTimestampMeta_of_device ?_ ?_
    · rw [TraccarPosition.rawTime, f.dated]
    · have hskew : traccarFutureSkewTolerance = 300000 := rfl
      omega
  rcases backfillLoop_settles reg v now _ (backfillStart s.live.bridge v) f.pos hrequested
      hcoordinates hvalid with ⟨row, hrow, hkey⟩ | hheld
  · refine Or.inl ?_
    rw [htime] at hkey
    show (rowAt (backfillDevice cfg reg rest now v s.live.bridge).positions.rows v.id f.date).isSome
    rw [backfillDevice_eq hdevice, rowAt_insertBackfill, Option.isSome_or,
      rowAt_isSome_of_mem hrow hkey, Bool.or_true]
  · exact Or.inr (Or.inr (Or.inr
      (List.mem_append_right _ (List.mem_map.mpr ⟨f.pos, hheld, rfl⟩))))

/-- What the outage left of every visited vehicle is settled. -/
def Closed (o : Outage R) (vehicles : List Vehicle) (s : Reconnection R) : Prop :=
  ∀ v ∈ vehicles, v ∈ s.todo ∨ ∀ f, o.Misses v f → Settled s v f

theorem Closed.step (hrest : o.Complete rest) (hnow : o.stop ≤ now) {vehicles : List Vehicle}
    {e : ReconnectionEvent R} (h : Closed o vehicles s)
    (hstep : Guarded (Steps (reconnectionStep cfg reg rest now)) (Covers cfg o now) s e t) :
    Closed o vehicles t := by
  obtain ⟨hstep, hcovers⟩ := hstep
  intro v hv
  rcases h v hv with htodo | hsettled
  · cases e with
    | live e =>
      obtain ⟨live, -, rfl⟩ := Option.map_eq_some_iff.mp hstep
      exact Or.inl htodo
    | visit =>
      have hstep' := hstep
      simp only [Steps, reconnectionStep] at hstep'
      split at hstep'
      · cases hstep'
      · rename_i next todo hnext
        cases hstep'
        rw [hnext] at htodo
        rcases List.mem_cons.mp htodo with rfl | hlater
        · refine Or.inr fun f hmiss => ?_
          rcases Classical.em (Settled s v f) with hdone | hdone
          · exact hdone.step hstep
          · exact visit_settles hrest hnow hmiss
              (hcovers v (by rw [hnext]; rfl) f hmiss hdone) todo
        · exact Or.inl hlater
  · exact Or.inr fun f hmiss => (hsettled f hmiss).step hstep

end Closing

/-- **If every visit reaches what the outage left unsettled of its vehicle, the finished backfill
has closed the outage.** -/
theorem outage_closed {cfg : BridgeConfig R} {reg : Registry} {rest : Rest R} {now : Int}
    {o : Outage R} (hrest : o.Complete rest) (hnow : o.stop ≤ now) {live : MarkerState R}
    {vehicles : List Vehicle} {es : List (ReconnectionEvent R)} {s : Reconnection R}
    (h : Run (Guarded (Steps (reconnectionStep cfg reg rest now)) (Covers cfg o now))
      ⟨live, vehicles, []⟩ es s) (hdone : s.todo = []) :
    ∀ v ∈ vehicles, ∀ f, o.Misses v f → Settled s v f := by
  have hclosed : Closed o vehicles s :=
    h.invariant (fun hs hstep => hs.step hrest hnow hstep) fun v hv => Or.inl hv
  intro v hv
  rcases hclosed v hv with htodo | hsettled
  · rw [hdone] at htodo
    cases htodo
  · exact hsettled

/-! ### A live position before the visit -/

/-- Down from 2 s to 10 s, with one position of 5 s. -/
def sampleOutage : Outage ℚ where
  start := 2000
  stop := 10000
  history := fun deviceId => if deviceId = "1" then [samplePosition 5000 12] else []

def sampleRest : Rest ℚ := fun deviceId lower upper =>
  (sampleOutage.history deviceId).filter fun pos =>
    match pos.fixTime with
    | .at date => lower ≤ date ∧ date ≤ upper
    | _ => false

theorem sampleOutage_complete : sampleOutage.Complete sampleRest := by
  intro deviceId lower upper pos hpos date hdate hlower hupper
  refine List.mem_filter.mpr ⟨hpos, ?_⟩
  rw [hdate]
  exact decide_eq_true ⟨hlower, hupper⟩

def missedPosition : DatedPosition ℚ := ⟨samplePosition 5000 12, 5000, rfl⟩

theorem missedPosition_missed : sampleOutage.Misses sampleTracker missedPosition :=
  ⟨by decide, by decide, "1", rfl, List.mem_singleton_self _⟩

/-- Without a live position before it, the visit settles the position. -/
theorem sampleOutage_closed : ∃ s, Run
      (Guarded (Steps (reconnectionStep sampleConfig trackerRegistry sampleRest 11000))
        (Covers sampleConfig sampleOutage 11000))
      ⟨.start emptyBridge, [sampleTracker], []⟩ [.visit] s ∧
    Settled s sampleTracker missedPosition := by
  have hcovers : Covers sampleConfig sampleOutage 11000
      ⟨.start emptyBridge, [sampleTracker], []⟩ .visit := by
    intro v _ f hmiss _ deviceId _
    have hstart : 2000 ≤ f.date := hmiss.1
    have hunknown : lastKnown sampleConfig emptyBridge deviceId v.id = none := rfl
    have hmax : backfillMax = 86400000 := rfl
    show (lastKnown sampleConfig emptyBridge deviceId v.id).getD _ + 1000 ≤ f.date ∧ _
    rw [hunknown, Option.getD_none]
    omega
  have hrun : Run (Guarded (Steps (reconnectionStep sampleConfig trackerRegistry sampleRest 11000))
        (Covers sampleConfig sampleOutage 11000))
      ⟨.start emptyBridge, [sampleTracker], []⟩ [.visit]
      (visit sampleConfig trackerRegistry sampleRest 11000 sampleTracker []
        ⟨.start emptyBridge, [sampleTracker], []⟩) :=
    .single ⟨rfl, hcovers⟩
  exact ⟨_, hrun, outage_closed sampleOutage_complete (by decide) hrun rfl sampleTracker
    (List.mem_singleton_self _) missedPosition missedPosition_missed⟩

/-- The socket reopens at 10 s, and a position of 10.5 s is handled before the visit. -/
theorem live_fix_hides_outage : ∃ s, Run
      (Steps (reconnectionStep sampleConfig trackerRegistry sampleRest 11000))
      ⟨.start emptyBridge, vehiclesWithTrackers trackerRegistry, []⟩
      [.live (.receive (samplePosition 10500 12) 11000), .visit] s ∧
    s.todo = [] ∧ sampleTracker ∈ vehiclesWithTrackers trackerRegistry ∧
    sampleOutage.stop - sampleOutage.start < backfillMax ∧ sampleOutage.Complete sampleRest ∧
    sampleOutage.Misses sampleTracker missedPosition ∧
    ¬ Settled s sampleTracker missedPosition := by
  have hdone : ([.live (.receive (samplePosition 10500 12) 11000), .visit].foldlM
      (reconnectionStep sampleConfig trackerRegistry sampleRest 11000)
      ⟨.start emptyBridge, vehiclesWithTrackers trackerRegistry, []⟩).map
        (fun s => (s.live.bridge.positions.rows.map GpsPosition.key, s.todo, s.held))
      = some ([(sampleTracker.id, 10500)], [], []) := by
    decide +kernel
  obtain ⟨s, hs, hfinal⟩ := Option.map_eq_some_iff.mp hdone
  obtain ⟨hrows, htodo, hheld⟩ : s.live.bridge.positions.rows.map GpsPosition.key
      = [(sampleTracker.id, 10500)] ∧ s.todo = [] ∧ s.held = [] := by
    simpa using hfinal
  refine ⟨s, Run.of_foldlM hs, htodo, by decide, by decide, sampleOutage_complete,
    missedPosition_missed, ?_⟩
  rintro (hstored | hcoordinates | hvalid | hmem)
  · obtain ⟨row, hrow, hkey⟩ := List.find?_isSome.mp hstored
    have hmem := List.mem_map_of_mem (f := GpsPosition.key) hrow
    rw [hrows, of_decide_eq_true hkey, List.mem_singleton] at hmem
    cases (Prod.mk.inj hmem).2
  · exact absurd hcoordinates (by decide +kernel)
  · cases hvalid
  · rw [hheld] at hmem
    cases hmem

end DeliveryTracking.Traccar
