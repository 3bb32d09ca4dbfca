/-
# `DeliveryTracking.Traccar.Parity` — live and backfilled fixes of a tracker

`handlePosition` and `performBackfill` are two copies of one pipeline.  On fixes
of one tracker, more than 1 s apart, both resolve the same speed
(`ParityState.speed`); they differ in three places:

    which fixes they keep    the satellite floor and the DTO validation are live only,
                             so the two wake quarantines can part as well
    the suspect flag         the backfill's reference has no speed

`live_backfill_agree_iff`: they store the same fixes exactly when, fix by fix,
neither difference shows.
-/
import DeliveryTracking.Runs
import DeliveryTracking.Traccar.Backfill

namespace DeliveryTracking.Traccar

open Geo Tracking

variable {R : Type}

/-! ## The fixes -/

/-- A fix with its device's date, and the time at which `handlePosition` gets it. -/
structure Feed (R : Type) where
  pos : TraccarPosition R
  date : Int
  now : Int
  device : pos.rawTime = .at date
  notAhead : date ≤ now + traccarFutureSkewTolerance

/-- What both paths know before a fix: the last trusted fix with the speed stored for it, all
trusted fixes, and the quarantine of each path. -/
structure ParityState (R : Type) where
  reference : Option (TeleportReference R)
  history : List (GroundSpeedRef R)
  liveQuarantine : Option WakeQuarantine
  backfillQuarantine : Option WakeQuarantine

def ParityState.start : ParityState R := ⟨none, [], none, none⟩

variable [Field R] [LinearOrder R] [JsMath R]

namespace ParityState

variable (st : ParityState R) (f : Feed R)

/-- The speed both paths resolve. -/
def speed : R :=
  trackerSpeed f.pos (f.date, false) (st.reference.map TeleportReference.speedRef) st.history

/-- The verdict on a fix from a reference. -/
def verdict (reference : Option (TeleportReference R)) : Bool :=
  match reference with
  | none => false
  | some r =>
    (evaluateTeleportation r f.pos.latitude f.pos.longitude f.date (some f.pos.derivedAccuracy)
      (some (st.speed f))).suspect

/-- Live, the reference has the speed stored for it. -/
def liveVerdict : Bool := st.verdict f st.reference

/-- In the backfill it has none. -/
def backfillVerdict : Bool :=
  st.verdict f (st.reference.map fun r => r.speedRef.reference)

/-- The wake verdict from a quarantine. -/
def wake (quarantine : Option WakeQuarantine) : WakeFixVerdict :=
  evaluateWakeFix f.pos.sat (st.reference.map fun r => f.date - r.timestamp) quarantine f.date

/-- The DTO of the live path. -/
def liveDto (reg : Registry) (v : Vehicle) : UpdatePositionDto R :=
  { latitude := f.pos.latitude, longitude := f.pos.longitude, speed := some (st.speed f),
    accuracy := some f.pos.derivedAccuracy, timestamp := f.date, vehicleId := v.id,
    deliveryId := currentDelivery reg (resolveDriverIdAtTimestamp reg v.id f.date) }

/-- `handlePosition` stores the fix. -/
def liveKeeps (cfg : BridgeConfig R) (reg : Registry) (v : Vehicle) : Bool :=
  acceptsFix cfg f.pos && !(st.wake f st.liveQuarantine).quarantine &&
    validDto (st.liveDto f reg v) (f.pos.course.getD 0) f.now

/-- The filters of the backfill. -/
def backfillAccepts : Bool :=
  isValidCoordinates f.pos.latitude f.pos.longitude && f.pos.valid != some false

/-- `performBackfill` stores the fix. -/
def backfillKeeps : Bool :=
  backfillAccepts f && !(st.wake f st.backfillQuarantine).quarantine

/-- What both paths know after a fix that was or was not stored, suspect or not. -/
def advance (cfg : BridgeConfig R) (keep suspect : Bool) : ParityState R :=
  { reference := if keep && !suspect then
        some ⟨f.pos.latitude, f.pos.longitude, f.date, some (st.speed f), some f.pos.derivedAccuracy⟩
      else st.reference
    history := if keep && !suspect then st.history ++ [f.pos.speedRef f.date] else st.history
    liveQuarantine := if acceptsFix cfg f.pos then (st.wake f st.liveQuarantine).state
      else st.liveQuarantine
    backfillQuarantine := if backfillAccepts f then (st.wake f st.backfillQuarantine).state
      else st.backfillQuarantine }

/-- A fix both paths treat alike. -/
def Alike (cfg : BridgeConfig R) (reg : Registry) (v : Vehicle) : Prop :=
  st.liveKeeps f cfg reg v = st.backfillKeeps f ∧
    (st.backfillKeeps f = true → st.liveVerdict f = st.backfillVerdict f)

end ParityState

/-- The suspect flags agree unless the reference's own speed decides the jump rule. -/
theorem ParityState.liveVerdict_eq (st : ParityState R) (f : Feed R)
    (h : ∀ r, st.reference = some r →
      (plausibleDistance r (f.date - r.timestamp) (some f.pos.derivedAccuracy) (some (st.speed f))
          < haversineDistance r.latitude r.longitude f.pos.latitude f.pos.longitude ↔
        plausibleDistance r.speedRef.reference (f.date - r.timestamp)
            (some f.pos.derivedAccuracy) (some (st.speed f))
          < haversineDistance r.latitude r.longitude f.pos.latitude f.pos.longitude)) :
    st.liveVerdict f = st.backfillVerdict f := by
  unfold liveVerdict backfillVerdict verdict
  cases hreference : st.reference with
  | none => rfl
  | some r =>
    have hsame : evaluateTeleportation r f.pos.latitude f.pos.longitude f.date
          (some f.pos.derivedAccuracy) (some (st.speed f))
        = evaluateTeleportation r.speedRef.reference f.pos.latitude f.pos.longitude f.date
          (some f.pos.derivedAccuracy) (some (st.speed f)) := by
      refine evaluateTeleportation_congr_speed ?_ ?_ ?_ ?_ _ _ _ _ _ (h r hreference) <;> rfl
    exact congrArg TeleportEvaluation.suspect hsame

/-- Both paths treat every fix alike. -/
def SamePipeline (cfg : BridgeConfig R) (reg : Registry) (v : Vehicle) :
    ParityState R → List (Feed R) → Prop
  | _, [] => True
  | st, f :: rest =>
    st.Alike f cfg reg v ∧
      SamePipeline cfg reg v (st.advance f cfg (st.backfillKeeps f) (st.backfillVerdict f)) rest

/-! ## What is stored -/

/-- Position, speed and suspect flag stored for a vehicle at a time. -/
def storedFix (rows : List (GpsPosition R)) (v : String) (timestamp : Int) :
    Option (LatLng R × Option R × Bool) :=
  (rowAt rows v timestamp).map fun p => (⟨p.latitude, p.longitude⟩, p.speed, p.suspect)

/-- The fixes handled one after the other. -/
def feedLive (cfg : BridgeConfig R) (reg : Registry) (feeds : List (Feed R)) (br : Bridge R) :
    Bridge R :=
  feeds.foldl (fun br f => handlePosition cfg reg f.pos f.now br) br

/-- The same fixes as the answer of Traccar to a backfill. -/
def feedBackfill (cfg : BridgeConfig R) (reg : Registry) (now : Int) (v : Vehicle)
    (feeds : List (Feed R)) (br : Bridge R) : Bridge R :=
  backfillDevice cfg reg (fun _ _ _ => feeds.map Feed.pos) now v br

/-- Both paths store the same fixes of a vehicle, with the same speed and suspect flag. -/
def SameStored (cfg : BridgeConfig R) (reg : Registry) (now : Int) (v : Vehicle)
    (feeds : List (Feed R)) (br : Bridge R) : Prop :=
  ∀ timestamp, storedFix (feedLive cfg reg feeds br).positions.rows v.id timestamp
    = storedFix (feedBackfill cfg reg now v feeds br).positions.rows v.id timestamp

omit [Field R] [LinearOrder R] [JsMath R] in
theorem storedFix_append (xs ys : List (GpsPosition R)) (v : String) (timestamp : Int) :
    storedFix (xs ++ ys) v timestamp
      = (storedFix xs v timestamp).or (storedFix ys v timestamp) := by
  unfold storedFix
  rw [rowAt_append]
  cases rowAt xs v timestamp <;> rfl

/-! ## The live path -/

/-- Of a spaced history the buffers keep enough. -/
theorem trackerSpeed_rtake {pos : TraccarPosition R} {date : Int} {fallback : Bool}
    {history : List (GroundSpeedRef R)} (h : Spaced history date) {n : Nat} (hn : 12 ≤ n)
    (previous : Option (GroundSpeedRef R)) :
    trackerSpeed pos (date, fallback) previous (history.rtake n)
      = trackerSpeed pos (date, fallback) previous history := by
  unfold trackerSpeed
  rw [h.selectSpeedWindowRef_rtake hn]

/-- The bridge knows of a vehicle what the state says. -/
structure LiveState (br : Bridge R) (v : Vehicle) (st : ParityState R) : Prop where
  reference : (br.lastDb v.id).map GpsPosition.reference = st.reference
  source : ∀ p, br.lastDb v.id = some p → p.source = .physicalTracker
  buffer : (br.anchorBuffers v.id).map AnchorFix.speedRef = st.history.rtake anchorBufferSize
  quarantine : br.wakeQuarantine v.id = st.liveQuarantine

section Live

variable {cfg : BridgeConfig R} {reg : Registry} {br : Bridge R} {v : Vehicle}
  {st : ParityState R} {f : Feed R}

omit [JsMath R] in
theorem LiveState.wake_eq (h : LiveState br v st) :
    br.wake v.id f.pos f.date = st.wake f st.liveQuarantine := by
  rw [ParityState.wake, ← h.reference, ← h.quarantine, Option.map_map]
  rfl

theorem LiveState.updateDto_eq (h : LiveState br v st) (hspaced : Spaced st.history f.date) :
    br.updateDto reg v f.pos (f.date, false) = st.liveDto f reg v := by
  have hprevious : (br.lastDb v.id).map (fun last => (⟨last.latitude, last.longitude,
      last.timestamp, last.accuracy⟩ : GroundSpeedRef R))
      = st.reference.map TeleportReference.speedRef := by
    rw [← h.reference, Option.map_map]
    rfl
  unfold Bridge.updateDto ParityState.liveDto ParityState.speed
  rw [hprevious, h.buffer, trackerSpeed_rtake hspaced (by decide)]

/-- The suspect flag `savePosition` gives the fix. -/
theorem LiveState.detect_eq (h : LiveState br v st) (hlong : LongBefore br.positions v.id f.date) :
    detectTeleportation br.positions (st.liveDto f reg v) .physicalTracker
      = st.liveVerdict f := by
  have hlong' : LongBefore br.positions (st.liveDto f reg v).vehicleId
    (st.liveDto f reg v).timestamp := hlong
  rw [hlong'.detectTeleportation_eq h.source, ParityState.liveVerdict, ← h.reference]
  have hlast : getLastPosition br.positions (st.liveDto f reg v).vehicleId true = br.lastDb v.id := rfl
  rw [hlast]
  cases br.lastDb v.id <;> rfl

theorem LiveState.dropped (h : LiveState br v st)
    (htracker : trackerVehicle reg f.pos.deviceId = some v) (hspaced : Spaced st.history f.date)
    (hdrop : st.liveKeeps f cfg reg v = false) (suspect : Bool) :
    (handlePosition cfg reg f.pos f.now br).positions = br.positions ∧
      LiveState (handlePosition cfg reg f.pos f.now br) v (st.advance f cfg false suspect) := by
  have htime := parseTimestampMeta_of_device f.device f.notAhead
  unfold handlePosition
  cases haccept : acceptsFix cfg f.pos with
  | false =>
    refine ⟨rfl, h.reference, h.source, h.buffer, ?_⟩
    show br.wakeQuarantine v.id = if acceptsFix cfg f.pos then _ else st.liveQuarantine
    rw [haccept]
    exact h.quarantine
  | true =>
    have hingest : ingest cfg reg f.pos f.now br
        = (none, br.setWake v.id (st.wake f st.liveQuarantine).state) := by
      simp only [ingest, htracker, htime, h.wake_eq, h.updateDto_eq hspaced]
      cases hwake : (st.wake f st.liveQuarantine).quarantine with
      | true => rfl
      | false =>
        have hinvalid : validDto (st.liveDto f reg v) (f.pos.course.getD 0) f.now = false := by
          simpa [ParityState.liveKeeps, haccept, hwake] using hdrop
        rw [hinvalid]
        rfl
    rw [hingest]
    refine ⟨rfl, h.reference, h.source, h.buffer, ?_⟩
    show Function.update br.wakeQuarantine v.id _ v.id
      = if acceptsFix cfg f.pos then _ else st.liveQuarantine
    rw [haccept, Function.update_self]
    rfl

/-- A kept fix is stored with the speed and the verdict of the state. -/
theorem LiveState.kept (h : LiveState br v st)
    (htracker : trackerVehicle reg f.pos.deviceId = some v) (hspaced : Spaced st.history f.date)
    (hlong : LongBefore br.positions v.id f.date) (hkeep : st.liveKeeps f cfg reg v = true) :
    ∃ row, br.positions.create row = some (handlePosition cfg reg f.pos f.now br).positions ∧
      row.key = (v.id, f.date) ∧
      storedFix [row] v.id f.date
        = some (⟨f.pos.latitude, f.pos.longitude⟩, some (st.speed f), st.liveVerdict f) ∧
      LiveState (handlePosition cfg reg f.pos f.now br) v
        (st.advance f cfg true (st.liveVerdict f)) := by
  have htime := parseTimestampMeta_of_device f.device f.notAhead
  simp only [ParityState.liveKeeps, Bool.and_eq_true, Bool.not_eq_true'] at hkeep
  obtain ⟨⟨haccept, hwake⟩, hvalid⟩ := hkeep
  obtain ⟨hid, hdelivery⟩ := validDto_ids hvalid
  obtain ⟨t', hcreate, hsave⟩ := savePosition_of_longBefore
    (admitPosition_tracker htracker rfl hid hdelivery) hlong
    (resolveDriverIdAtTimestamp reg v.id f.date)
  rw [h.detect_eq hlong] at hcreate hsave
  set row := (st.liveDto f reg v).row (resolveDriverIdAtTimestamp reg v.id f.date) v.companyId
    .physicalTracker (st.liveVerdict f) with hrow
  have hstored : handlePosition cfg reg f.pos f.now br = recordFix
      ⟨some row, v, resolveDriverIdAtTimestamp reg v.id f.date, st.liveDto f reg v,
        f.pos.course.getD 0⟩ f.pos
      ((br.setWake v.id (st.wake f st.liveQuarantine).state).setStored cfg f.pos.deviceId f.date
        t') := by
    unfold handlePosition
    rw [if_pos haccept]
    simp only [ingest, htracker, htime, h.wake_eq, h.updateDto_eq hspaced, hwake, hvalid, hsave]
    rfl
  have hlater : ∀ p ∈ br.positions.rows, (p.vehicleId == v.id && !(true && p.suspect)) = true →
      p.timestamp < row.timestamp := by
    intro p hp hq
    have hbefore := hlong p hp (by simp at hq; exact hq.1)
    have hskew : dedupClockSkew = 1000 := rfl
    show p.timestamp < f.date
    omega
  have hlast : getLastPosition t' v.id true
      = if st.liveVerdict f then br.lastDb v.id else some row := by
    rw [getLastPosition, latest_create_of_later hcreate _ hlater]
    cases hverdict : st.liveVerdict f <;>
      simp [hrow, hverdict, UpdatePositionDto.row, ParityState.liveDto, Bridge.lastDb,
        getLastPosition]
  have hquarantine : Function.update br.wakeQuarantine v.id (st.wake f st.liveQuarantine).state v.id
      = if acceptsFix cfg f.pos then (st.wake f st.liveQuarantine).state else st.liveQuarantine :=
    (Function.update_self ..).trans (if_pos haccept).symm
  have hfix : storedFix [row] v.id f.date
      = some (⟨f.pos.latitude, f.pos.longitude⟩, some (st.speed f), st.liveVerdict f) := by
    have hkey : row.key = (v.id, f.date) := rfl
    rw [storedFix, rowAt_singleton hkey]
    rfl
  rw [hstored]
  cases hverdict : st.liveVerdict f with
  | true =>
    rw [hverdict] at hlast hfix
    rw [show recordFix ⟨some row, v, _, _, _⟩ f.pos _ = _ from if_pos hverdict]
    refine ⟨row, hcreate, rfl, hfix, ?_, ?_, h.buffer, hquarantine⟩
    · show (getLastPosition t' v.id true).map GpsPosition.reference = st.reference
      rw [hlast]
      exact h.reference
    · show ∀ p, getLastPosition t' v.id true = some p → _
      rw [hlast]
      exact h.source
  | false =>
    rw [hverdict] at hlast hfix
    have hnot : ¬ row.suspect = true := by
      rw [show row.suspect = false from hverdict]
      exact Bool.false_ne_true
    rw [show recordFix ⟨some row, v, _, _, _⟩ f.pos _ = _ from if_neg hnot]
    refine ⟨row, hcreate, rfl, hfix, ?_, ?_, ?_, hquarantine⟩
    · show (getLastPosition t' v.id true).map GpsPosition.reference = _
      rw [hlast]
      rfl
    · show ∀ p, getLastPosition t' v.id true = some p → _
      rw [hlast]
      rintro p ⟨rfl⟩
      rfl
    · show (Function.update br.anchorBuffers v.id (pushBounded anchorBufferSize
        (br.anchorBuffers v.id) _) v.id).map AnchorFix.speedRef = _
      rw [Function.update_self, map_pushBounded, h.buffer, pushBounded_rtake]
      rfl

/-- One fix on the live path: what is stored at its date, and the state after it. -/
theorem LiveState.step (cfg : BridgeConfig R) (h : LiveState br v st)
    (htracker : trackerVehicle reg f.pos.deviceId = some v) (hspaced : Spaced st.history f.date)
    (hlong : LongBefore br.positions v.id f.date) :
    storedFix (handlePosition cfg reg f.pos f.now br).positions.rows v.id f.date
      = (if st.liveKeeps f cfg reg v then
          some (⟨f.pos.latitude, f.pos.longitude⟩, some (st.speed f), st.liveVerdict f) else none) ∧
    ∀ suspect, (st.liveKeeps f cfg reg v = true → suspect = st.liveVerdict f) →
      LiveState (handlePosition cfg reg f.pos f.now br) v
        (st.advance f cfg (st.liveKeeps f cfg reg v) suspect) := by
  have hnone : storedFix br.positions.rows v.id f.date = none := by
    rw [storedFix, hlong.rowAt_eq_none]
    rfl
  cases hkeep : st.liveKeeps f cfg reg v with
  | false =>
    have hdrop := fun suspect => h.dropped htracker hspaced hkeep suspect
    refine ⟨?_, fun suspect _ => (hdrop suspect).2⟩
    rw [(hdrop false).1]
    exact hnone
  | true =>
    obtain ⟨row, hcreate, -, hrow, hstate⟩ := h.kept htracker hspaced hlong hkeep
    refine ⟨?_, fun suspect hsuspect => ?_⟩
    · rw [Table.rows_of_create hcreate, storedFix_append, hnone, hrow]
      rfl
    · rw [hsuspect rfl]
      exact hstate

end Live

/-! ## The backfill -/

/-- The loop carries what the state says. -/
structure LoopState (bs : BackfillState R) (st : ParityState R) : Prop where
  last : bs.last = st.reference.map TeleportReference.speedRef
  history : bs.history = st.history.rtake backfillHistorySize
  quarantine : bs.quarantine = st.backfillQuarantine

section Backfill

variable {cfg : BridgeConfig R} {reg : Registry} {bs : BackfillState R} {v : Vehicle} {now : Int}
  {st : ParityState R} {f : Feed R}

omit [JsMath R] in
theorem LoopState.wake_eq (h : LoopState bs st) :
    bs.wake f.pos f.date = st.wake f st.backfillQuarantine := by
  rw [BackfillState.wake, h.last, h.quarantine, Option.map_map]
  rfl

theorem LoopState.dropped (h : LoopState bs st) (hnow : f.date ≤ now + traccarFutureSkewTolerance)
    (hdrop : st.backfillKeeps f = false) (suspect : Bool) :
    (backfillStep reg v now bs f.pos).toInsert = bs.toInsert ∧
      LoopState (backfillStep reg v now bs f.pos) (st.advance f cfg false suspect) := by
  have htime := parseTimestampMeta_of_device f.device hnow
  unfold backfillStep
  simp only [htime, h.wake_eq]
  cases hvalid : isValidCoordinates f.pos.latitude f.pos.longitude with
  | false =>
    refine ⟨rfl, h.last, h.history, ?_⟩
    show bs.quarantine = if ParityState.backfillAccepts f then _ else st.backfillQuarantine
    rw [ParityState.backfillAccepts, hvalid]
    exact h.quarantine
  | true =>
    rcases Decidable.em (f.pos.valid = some false) with hlbs | hgps
    · rw [if_neg (by simp), if_pos hlbs]
      refine ⟨rfl, h.last, h.history, ?_⟩
      show bs.quarantine = if ParityState.backfillAccepts f then _ else st.backfillQuarantine
      rw [ParityState.backfillAccepts, hvalid, hlbs]
      exact h.quarantine
    · have haccept : ParityState.backfillAccepts f = true := by
        simpa [ParityState.backfillAccepts, hvalid] using hgps
      have hwake : (st.wake f st.backfillQuarantine).quarantine = true := by
        simpa [ParityState.backfillKeeps, haccept] using hdrop
      rw [if_neg (by simp), if_neg hgps, if_pos hwake]
      refine ⟨rfl, h.last, h.history, ?_⟩
      show _ = if ParityState.backfillAccepts f then _ else st.backfillQuarantine
      rw [haccept]
      rfl

/-- A kept fix joins the lot with the speed and the verdict of the state. -/
theorem LoopState.kept (h : LoopState bs st) (hnow : f.date ≤ now + traccarFutureSkewTolerance)
    (hspaced : Spaced st.history f.date) (hkeep : st.backfillKeeps f = true) :
    ∃ row, (backfillStep reg v now bs f.pos).toInsert = bs.toInsert ++ [row] ∧
      row.key = (v.id, f.date) ∧
      storedFix [row] v.id f.date
        = some (⟨f.pos.latitude, f.pos.longitude⟩, some (st.speed f), st.backfillVerdict f) ∧
      LoopState (backfillStep reg v now bs f.pos)
        (st.advance f cfg true (st.backfillVerdict f)) := by
  have htime := parseTimestampMeta_of_device f.device hnow
  simp only [ParityState.backfillKeeps, Bool.and_eq_true, Bool.not_eq_true'] at hkeep
  obtain ⟨haccept, hwake⟩ := hkeep
  have haccept' := haccept
  simp only [ParityState.backfillAccepts, Bool.and_eq_true, bne_iff_ne] at haccept'
  have hstep : backfillStep reg v now bs f.pos = backfillKeep reg v bs f.pos (f.date, false) := by
    unfold backfillStep
    simp only [htime, h.wake_eq]
    rw [if_neg (by simp [haccept'.1]), if_neg haccept'.2, if_neg (by simp [hwake])]
  have hspeed : trackerSpeed f.pos (f.date, false) bs.last bs.history = st.speed f := by
    rw [h.last, h.history, trackerSpeed_rtake hspaced (by decide)]
    rfl
  have hsuspect : backfillSuspect bs.last f.pos f.date (st.speed f) = st.backfillVerdict f := by
    rw [h.last]
    unfold backfillSuspect ParityState.backfillVerdict ParityState.verdict
    cases st.reference <;> rfl
  have hquarantine : (bs.wake f.pos f.date).state
      = if ParityState.backfillAccepts f then (st.wake f st.backfillQuarantine).state
        else st.backfillQuarantine := by
    rw [h.wake_eq, if_pos haccept]
  rw [hstep]
  unfold backfillKeep
  simp only [hspeed, hsuspect]
  have hkey : (backfillRow reg v f.pos f.date (st.speed f) (st.backfillVerdict f)).key
      = (v.id, f.date) := rfl
  refine ⟨_, rfl, hkey, ?_, ?_, ?_, hquarantine⟩
  · rw [storedFix, rowAt_singleton hkey]
    rfl
  · cases hverdict : st.backfillVerdict f with
    | true => exact h.last
    | false => rfl
  · cases hverdict : st.backfillVerdict f with
    | true => exact h.history
    | false =>
      show pushBounded _ bs.history _ = (st.history ++ [_]).rtake _
      rw [h.history, pushBounded_rtake]

/-- One fix in the backfill: what the lot holds at its date, and the state after it. -/
theorem LoopState.step (cfg : BridgeConfig R) (reg : Registry) (h : LoopState bs st)
    (hnow : f.date ≤ now + traccarFutureSkewTolerance)
    (hspaced : Spaced st.history f.date) (hnone : storedFix bs.toInsert v.id f.date = none) :
    storedFix (backfillStep reg v now bs f.pos).toInsert v.id f.date
      = (if st.backfillKeeps f then
          some (⟨f.pos.latitude, f.pos.longitude⟩, some (st.speed f), st.backfillVerdict f)
        else none) ∧
    LoopState (backfillStep reg v now bs f.pos)
      (st.advance f cfg (st.backfillKeeps f) (st.backfillVerdict f)) := by
  cases hkeep : st.backfillKeeps f with
  | false =>
    obtain ⟨hsame, hstate⟩ := h.dropped hnow hkeep (st.backfillVerdict f)
    exact ⟨by rw [hsame]; exact hnone, hstate⟩
  | true =>
    obtain ⟨row, hrows, -, hrow, hstate⟩ := h.kept hnow hspaced hkeep
    refine ⟨?_, hstate⟩
    rw [hrows, storedFix_append, hnone, hrow]
    rfl

end Backfill

/-! ## Both paths on a list -/

section Agreement

variable {cfg : BridgeConfig R} {reg : Registry} {v : Vehicle} {now : Int}

/-- Handling fixes adds rows at their dates. -/
theorem feedLive_grows (cfg : BridgeConfig R) (reg : Registry) (feeds : List (Feed R)) (br : Bridge R) :
    ∃ rows, (feedLive cfg reg feeds br).positions.rows = br.positions.rows ++ rows ∧
      ∀ p ∈ rows, ∃ f ∈ feeds, p.timestamp = f.date := by
  refine foldl_appends (fun br : Bridge R => br.positions.rows) (fun f p => p.timestamp = f.date)
    ?_ feeds br
  intro br f
  obtain ⟨added, hadded, htimes⟩ := handlePosition_rows cfg reg f.pos f.now br
  rw [parseTimestampMeta_of_device f.device f.notAhead] at htimes
  exact ⟨added, hadded, htimes⟩

theorem backfillLoop_grows (reg : Registry) (v : Vehicle) (feeds : List (Feed R))
    (hnow : ∀ f ∈ feeds, f.date ≤ now + traccarFutureSkewTolerance) (bs : BackfillState R) :
    ∃ rows, ((feeds.map Feed.pos).foldl (backfillStep reg v now) bs).toInsert
        = bs.toInsert ++ rows ∧
      ∀ p ∈ rows, p.vehicleId = v.id ∧ ∃ f ∈ feeds, p.timestamp = f.date := by
  obtain ⟨rows, hrows, htimes⟩ := foldl_appends BackfillState.toInsert
    (fun pos p => p.timestamp = (parseTimestampMeta pos now).1 ∧ p.vehicleId = v.id)
    (backfillStep_rows reg v now) (feeds.map Feed.pos) bs
  refine ⟨rows, hrows, fun p hp => ?_⟩
  obtain ⟨pos, hpos, htime, hvehicle⟩ := htimes p hp
  obtain ⟨f, hf, rfl⟩ := List.mem_map.mp hpos
  rw [parseTimestampMeta_of_device f.device (hnow f hf)] at htime
  exact ⟨hvehicle, f, hf, htime⟩

omit [Field R] [LinearOrder R] [JsMath R] in
/-- Rows at other times leave a time as it was. -/
theorem storedFix_of_grows {xs rows : List (GpsPosition R)} {id : String} {timestamp : Int}
    (h : ∀ p ∈ rows, p.timestamp ≠ timestamp) :
    storedFix (xs ++ rows) id timestamp = storedFix xs id timestamp := by
  have hnone : storedFix rows id timestamp = none := by
    rw [storedFix, rowAt_eq_none fun p hp _ => h p hp]
    rfl
  rw [storedFix_append, hnone, Option.or_none]

/-- Fixes of one tracker, spaced after all both paths know of it. -/
structure Ahead (reg : Registry) (v : Vehicle) (now : Int) (st : ParityState R) (br : Bridge R)
    (bs : BackfillState R) (f : Feed R) : Prop where
  tracker : trackerVehicle reg f.pos.deviceId = some v
  now : f.date ≤ now + traccarFutureSkewTolerance
  spaced : Spaced st.history f.date
  stored : LongBefore br.positions v.id f.date
  lot : ∀ p ∈ bs.toInsert, p.timestamp ≠ f.date

/-- After a fix, the later ones are still ahead. -/
theorem Ahead.next {st : ParityState R} {br : Bridge R} {bs : BackfillState R} {f g : Feed R}
    (cfg : BridgeConfig R) (hf : Ahead reg v now st br bs f) (hg : Ahead reg v now st br bs g)
    (hfg : f.date + 1000 < g.date) (keep suspect : Bool) :
    Ahead reg v now (st.advance f cfg keep suspect) (handlePosition cfg reg f.pos f.now br)
      (backfillStep reg v now bs f.pos) g where
  tracker := hg.tracker
  now := hg.now
  spaced := by
    show Spaced (if keep && !suspect then st.history ++ [f.pos.speedRef f.date] else st.history) _
    split
    · refine ⟨List.pairwise_append.mpr ⟨hf.spaced.apart, List.pairwise_singleton _ _, ?_⟩, ?_⟩
      · intro a ha b hb
        rw [List.mem_singleton.mp hb]
        exact hf.spaced.before a ha
      · intro a ha
        rcases List.mem_append.mp ha with ha | ha
        · exact hg.spaced.before a ha
        · rw [List.mem_singleton.mp ha]
          exact hfg
    · exact hg.spaced
  stored := by
    obtain ⟨added, hadded, htimes⟩ := handlePosition_rows cfg reg f.pos f.now br
    rw [parseTimestampMeta_of_device f.device f.notAhead] at htimes
    intro p hp hv
    rw [hadded] at hp
    rcases List.mem_append.mp hp with hp | hp
    · exact hg.stored p hp hv
    · rw [htimes p hp]
      exact hfg
  lot := by
    obtain ⟨added, hadded, htimes⟩ := backfillStep_rows reg v now bs f.pos
    rw [parseTimestampMeta_of_device f.device hf.now] at htimes
    intro p hp
    rw [hadded] at hp
    rcases List.mem_append.mp hp with hp | hp
    · exact hg.lot p hp
    · rw [(htimes p hp).1]
      show f.date ≠ g.date
      omega

theorem sameStored_run : ∀ (feeds : List (Feed R)) (br : Bridge R) (bs : BackfillState R)
    (st : ParityState R), LiveState br v st → LoopState bs st →
    (∀ f ∈ feeds, Ahead reg v now st br bs f) →
    feeds.Pairwise (fun a b => a.date + 1000 < b.date) →
    ((∀ f ∈ feeds, storedFix (feedLive cfg reg feeds br).positions.rows v.id f.date
        = storedFix ((feeds.map Feed.pos).foldl (backfillStep reg v now) bs).toInsert v.id f.date) ↔
      SamePipeline cfg reg v st feeds)
  | [], _, _, _, _, _, _, _ => by simp [SamePipeline]
  | f :: rest, br, bs, st, hlive, hloop, hahead, hapart => by
      obtain ⟨hlater, hrest⟩ := List.pairwise_cons.mp hapart
      have hf := hahead f (List.mem_cons_self ..)
      have hlot : storedFix bs.toInsert v.id f.date = none := by
        rw [storedFix, rowAt_eq_none fun p hp _ => hf.lot p hp]
        rfl
      obtain ⟨hstoredLive, hstateLive⟩ := hlive.step cfg hf.tracker hf.spaced hf.stored
      obtain ⟨hstoredLot, hstateLot⟩ := hloop.step cfg reg hf.now hf.spaced hlot
      set br' := handlePosition cfg reg f.pos f.now br
      set bs' := backfillStep reg v now bs f.pos
      -- what follows does not touch the date of the first fix
      obtain ⟨rows, hrows, htimes⟩ := feedLive_grows cfg reg rest br'
      have hheadLive : storedFix (feedLive cfg reg (f :: rest) br).positions.rows v.id f.date
          = storedFix br'.positions.rows v.id f.date := by
        show storedFix (feedLive cfg reg rest br').positions.rows v.id f.date = _
        rw [hrows]
        refine storedFix_of_grows fun p hp heq => ?_
        obtain ⟨g, hg, htime⟩ := htimes p hp
        have hfg := hlater g hg
        omega
      obtain ⟨lot, hlotRows, hlotTimes⟩ := backfillLoop_grows reg v rest
        (fun g hg => (hahead g (List.mem_cons_of_mem _ hg)).now) bs'
      have hheadLot : storedFix (((f :: rest).map Feed.pos).foldl (backfillStep reg v now)
            bs).toInsert v.id f.date
          = storedFix bs'.toInsert v.id f.date := by
        show storedFix ((rest.map Feed.pos).foldl (backfillStep reg v now) bs').toInsert v.id
          f.date = _
        rw [hlotRows]
        refine storedFix_of_grows fun p hp heq => ?_
        obtain ⟨-, g, hg, htime⟩ := hlotTimes p hp
        have hfg := hlater g hg
        omega
      have hhead : storedFix (feedLive cfg reg (f :: rest) br).positions.rows v.id f.date
            = storedFix (((f :: rest).map Feed.pos).foldl (backfillStep reg v now)
                bs).toInsert v.id f.date ↔ st.Alike f cfg reg v := by
        rw [hheadLive, hheadLot, hstoredLive, hstoredLot, ParityState.Alike]
        cases st.liveKeeps f cfg reg v <;> cases st.backfillKeeps f <;> simp
      rw [List.forall_mem_cons, SamePipeline, hhead]
      refine and_congr_right fun halike => ?_
      have hstate : LiveState br' v
          (st.advance f cfg (st.backfillKeeps f) (st.backfillVerdict f)) := by
        rw [← halike.1]
        refine hstateLive _ fun hkeep => ?_
        exact (halike.2 (halike.1.symm.trans hkeep)).symm
      exact sameStored_run rest br' bs' _ hstate hstateLot
        (fun g hg => hf.next cfg (hahead g (List.mem_cons_of_mem _ hg)) (hlater g hg) _ _) hrest

/-- A vehicle of which nothing is stored or remembered. -/
structure Untouched (br : Bridge R) (v : Vehicle) (deviceId : String) : Prop where
  positions : ∀ p ∈ br.positions.rows, p.vehicleId ≠ v.id
  key : br.lastPosition deviceId = none
  buffer : br.anchorBuffers v.id = []
  quarantine : br.wakeQuarantine v.id = none

/-- **Live and backfilled, the fixes of a fresh vehicle are stored alike exactly when no fix
falls into a difference of the two pipelines.** -/
theorem live_backfill_agree_iff {deviceId : String} {br : Bridge R} {feeds : List (Feed R)}
    (htracker : trackerVehicle reg deviceId = some v) (hfresh : Untouched br v deviceId)
    (hdevice : ∀ f ∈ feeds, f.pos.deviceId = deviceId)
    (hnow : ∀ f ∈ feeds, f.date ≤ now + traccarFutureSkewTolerance)
    (hapart : feeds.Pairwise fun a b => a.date + 1000 < b.date) :
    SameStored cfg reg now v feeds br ↔ SamePipeline cfg reg v .start feeds := by
  have hlastDb : br.lastDb v.id = none :=
    latest_eq_none fun p hp => by simp [hfresh.positions p hp]
  have hlive : LiveState br v .start := by
    refine ⟨by rw [hlastDb]; rfl, by rw [hlastDb]; simp, ?_, hfresh.quarantine⟩
    rw [hfresh.buffer]
    rfl
  have hstart : backfillStart br v = ⟨none, none, [], []⟩ := by
    rw [backfillStart, hlastDb]
    rfl
  have hloop : LoopState (backfillStart br v) .start := by
    rw [hstart]
    exact ⟨rfl, rfl, rfl⟩
  have hahead : ∀ f ∈ feeds, Ahead reg v now .start br (backfillStart br v) f := by
    intro f hf
    rw [hstart]
    refine ⟨by rw [hdevice f hf]; exact htracker, hnow f hf, ⟨.nil, by simp [ParityState.start]⟩,
      fun p hp hv => absurd hv (hfresh.positions p hp), by simp⟩
  have hnone : ∀ timestamp, storedFix br.positions.rows v.id timestamp = none := by
    intro timestamp
    rw [storedFix, rowAt_eq_none fun p hp hv => absurd hv (hfresh.positions p hp)]
    rfl
  -- the backfill inserts its lot
  have hlot : ∀ timestamp, storedFix (feedBackfill cfg reg now v feeds br).positions.rows v.id
        timestamp
      = storedFix ((feeds.map Feed.pos).foldl (backfillStep reg v now)
          (backfillStart br v)).toInsert v.id timestamp := by
    intro timestamp
    have hlower : effectiveFrom cfg br deviceId v.id now < now := by
      have hpositions : getLastPosition br.positions v.id false = none :=
        latest_eq_none fun p hp => by simp [hfresh.positions p hp]
      unfold effectiveFrom lastKnown
      rw [hfresh.key, hpositions, ite_self]
      show max (now - backfillMax + 1000) (now - backfillMax) < now
      have hmax : backfillMax = 86400000 := rfl
      omega
    have hdevice' := (trackerVehicle_spec htracker).2.1
    have hinsert : feedBackfill cfg reg now v feeds br = insertBackfill cfg deviceId v.id
        ((feeds.map Feed.pos).foldl (backfillStep reg v now) (backfillStart br v)).toInsert br := by
      simp only [feedBackfill, backfillDevice, hdevice', if_neg (not_le.mpr hlower)]
    rw [hinsert, storedFix, rowAt_insertBackfill,
      rowAt_eq_none fun p hp hv => absurd hv (hfresh.positions p hp), Option.none_or]
    rfl
  rw [← sameStored_run feeds br (backfillStart br v) .start hlive hloop hahead hapart]
  refine ⟨fun h f _ => (h f.date).trans (hlot f.date), fun h timestamp => ?_⟩
  rw [hlot]
  rcases Decidable.em (∃ f ∈ feeds, f.date = timestamp) with ⟨f, hf, rfl⟩ | hother
  · exact h f hf
  · obtain ⟨rows, hrows, htimes⟩ := feedLive_grows cfg reg feeds br
    obtain ⟨lot, hlotRows, hlotTimes⟩ := backfillLoop_grows reg v feeds hnow (backfillStart br v)
    have hlotNone : storedFix (backfillStart br v).toInsert v.id timestamp = none := by
      rw [hstart]
      rfl
    rw [hrows, hlotRows, storedFix_of_grows, storedFix_of_grows, hnone, hlotNone]
    · intro p hp heq
      obtain ⟨-, f, hf, htime⟩ := hlotTimes p hp
      exact hother ⟨f, hf, htime.symm.trans heq⟩
    · intro p hp heq
      obtain ⟨f, hf, htime⟩ := htimes p hp
      exact hother ⟨f, hf, htime.symm.trans heq⟩

end Agreement

/-! ### Three satellites -/

def sampleFeed (date : Int) (sat : ℚ) : Feed ℚ where
  pos := samplePosition date sat
  date := date
  now := date
  device := rfl
  notAhead := le_add_of_nonneg_right (by decide)

/-- Twelve satellites, then three. -/
def sampleFeeds : List (Feed ℚ) := [sampleFeed 1000 12, sampleFeed 11000 3]

theorem sampleFeeds_agree_iff :
    SameStored sampleConfig trackerRegistry 20000 sampleTracker sampleFeeds emptyBridge ↔
      SamePipeline sampleConfig trackerRegistry sampleTracker .start sampleFeeds :=
  live_backfill_agree_iff (by decide : trackerVehicle trackerRegistry "1" = some sampleTracker)
    ⟨by simp [emptyBridge, Table.empty], rfl, rfl, rfl⟩ (by simp [sampleFeeds, sampleFeed, samplePosition])
    (by decide) (by decide)

/-- The second fix is below the live satellite floor: only the backfill stores it. -/
theorem backfill_stores_weak_fix :
    storedFix (feedLive sampleConfig trackerRegistry sampleFeeds emptyBridge).positions.rows
        sampleTracker.id 11000 = none ∧
    storedFix (feedBackfill sampleConfig trackerRegistry 20000 sampleTracker sampleFeeds
        emptyBridge).positions.rows sampleTracker.id 11000
      = some (⟨-189 / 10, 475 / 10⟩, some 0, false) ∧
    ¬ SameStored sampleConfig trackerRegistry 20000 sampleTracker sampleFeeds emptyBridge := by
  have hlive : storedFix (feedLive sampleConfig trackerRegistry sampleFeeds
      emptyBridge).positions.rows sampleTracker.id 11000 = none := by
    decide +kernel
  have hbackfill : storedFix (feedBackfill sampleConfig trackerRegistry 20000 sampleTracker
      sampleFeeds emptyBridge).positions.rows sampleTracker.id 11000
        = some (⟨-189 / 10, 475 / 10⟩, some 0, false) := by
    decide +kernel
  refine ⟨hlive, hbackfill, ?_⟩
  intro h
  have hsame := h 11000
  rw [show storedFix _ sampleTracker.id 11000 = none from hlive,
    show storedFix _ sampleTracker.id 11000 = some _ from hbackfill] at hsame
  cases hsame

end DeliveryTracking.Traccar
