/-
# `DeliveryTracking.Geo.GroundSpeed` — a reliable ground speed, and the teleport verdict

Both rules are the single source the four ingestion paths share: `resolveGroundSpeed`
keeps a reported speed only when the displacement does not contradict it, and
`evaluateTeleportation` flags a fix that its reference point makes implausible.
-/
import Mathlib.Data.List.DropRight
import DeliveryTracking.Geo.Math

namespace DeliveryTracking.Geo

/-! ## Constants -/

section Constants

def gpsNoiseMaxAccuracyScale {R : Type} [Field R] : R := 15 / 10
def gpsAccuracyFallbackM {R : Type} [Field R] : R := 25
def gpsNoiseSigmaK {R : Type} [Field R] : R := 2
def gpsNoiseFloorM {R : Type} [Field R] : R := 4
def movementTrustMaxAccuracyM {R : Type} [Field R] : R := 30
def stationarySpeedMs {R : Type} [Field R] : R := 1 / 2
def reliableReportedSpeedMs {R : Type} [Field R] : R := 3
def speedWindowPairMinMs {R : Type} [Field R] : R := 1
/-- Milliseconds. -/
def speedWindowMin : Int := 12 * 1000
def groundSpeedMinDt : Int := 1 * 1000
def groundSpeedMaxDt : Int := 120 * 1000

def teleportSpeedThresholdMs {R : Type} [Field R] : R := 5556 / 100
def teleportDistanceThresholdM {R : Type} [Field R] : R := 5000
def teleportTimeThreshold : Int := 10 * 1000
def incoherentJumpMaxDt : Int := 30 * 1000
def incoherentJumpSpeedMargin {R : Type} [Field R] : R := 2
def incoherentJumpNoiseMult {R : Type} [Field R] : R := 3
def incoherentJumpMinSpeedMs {R : Type} [Field R] : R := 8

end Constants

variable {R : Type} [Field R] [LinearOrder R] [JsMath R]

/-! ## Ground speed -/

/-- A fix with the accuracy announced for it (`GroundSpeedRef`). -/
structure GroundSpeedRef (R : Type) where
  latitude : R
  longitude : R
  /-- Milliseconds. -/
  timestamp : Int
  accuracy : Option R
  deriving DecidableEq, Repr

/-- An accuracy that is absent or within the trust limit authenticates a displacement. -/
def isAccuracyTrustworthy (accuracy : Option R) : Bool :=
  match accuracy with
  | none => true
  | some a => a ≤ movementTrustMaxAccuracyM

/-- The accuracy used when none, or a non-positive one, is announced. -/
def accuracyOrFallback (accuracy : Option R) : R :=
  match accuracy with
  | some a => if 0 < a then a else gpsAccuracyFallbackM
  | none => gpsAccuracyFallbackM

/-- Under this distance a displacement cannot be told from the noise of the two fixes. -/
def combinedGpsNoiseGate (accuracy₁ accuracy₂ : Option R) : R :=
  max gpsNoiseFloorM
    (gpsNoiseSigmaK * JsMath.hypot (accuracyOrFallback accuracy₁) (accuracyOrFallback accuracy₂)
      / JsMath.sqrt2)

/-- Old enough for the speed window, and not too old. -/
def inSpeedWindow (current : Int) (f : GroundSpeedRef R) : Bool :=
  !decide (current - f.timestamp < speedWindowMin ∨ groundSpeedMaxDt < current - f.timestamp)

/-- One turn of the search for the window reference. -/
def speedWindowStep (current : Int) (best : Option (GroundSpeedRef R)) (f : GroundSpeedRef R) :
    Option (GroundSpeedRef R) :=
  if inSpeedWindow current f then
    match best with
    | none => some f
    | some b => if b.timestamp < f.timestamp then some f else some b
  else best

/-- `selectSpeedWindowRef`: the most recent fix of `history` between 12 s and 120 s older than
`current`. -/
def selectSpeedWindowRef (history : List (GroundSpeedRef R)) (current : Int) :
    Option (GroundSpeedRef R) :=
  history.foldl (speedWindowStep current) none

omit [Field R] [LinearOrder R] [JsMath R] in
/-- In a history in time order the search ends on the last point in the window. -/
theorem foldl_speedWindowStep (current : Int) : ∀ (history : List (GroundSpeedRef R))
    (best : Option (GroundSpeedRef R)), history.Pairwise (fun a b => a.timestamp < b.timestamp) →
    (∀ b, best = some b → ∀ f ∈ history, b.timestamp < f.timestamp) →
    history.foldl (speedWindowStep current) best
      = ((history.filter (inSpeedWindow current)).getLast?).or best
  | [], _, _, _ => rfl
  | f :: history, best, h, hbest => by
      obtain ⟨hf, hsorted⟩ := List.pairwise_cons.mp h
      rw [List.foldl_cons]
      cases hwindow : inSpeedWindow current f with
      | false =>
        have hstep : speedWindowStep current best f = best := if_neg (by simp [hwindow])
        rw [hstep, List.filter_cons_of_neg (by simp [hwindow])]
        exact foldl_speedWindowStep current history best hsorted
          fun b hb g hg => hbest b hb g (List.mem_cons_of_mem _ hg)
      | true =>
        have hstep : speedWindowStep current best f = some f := by
          refine (if_pos hwindow).trans ?_
          cases best with
          | none => rfl
          | some b => exact if_pos (hbest b rfl f (List.mem_cons_self ..))
        rw [hstep, List.filter_cons_of_pos hwindow, List.getLast?_cons,
          foldl_speedWindowStep current history (some f) hsorted (by
            rintro b ⟨rfl⟩ g hg
            exact hf g hg)]
        cases (history.filter (inSpeedWindow current)).getLast? <;> rfl

omit [Field R] [LinearOrder R] [JsMath R] in
theorem selectSpeedWindowRef_eq {history : List (GroundSpeedRef R)} (current : Int)
    (h : history.Pairwise fun a b => a.timestamp < b.timestamp) :
    selectSpeedWindowRef history current = (history.filter (inSpeedWindow current)).getLast? := by
  rw [selectSpeedWindowRef, foldl_speedWindowStep current history none h (by simp),
    Option.or_none]

/-- Points more than 1 s apart, the last one more than 1 s before `current`. -/
structure Spaced (history : List (GroundSpeedRef R)) (current : Int) : Prop where
  apart : history.Pairwise fun a b => a.timestamp + 1000 < b.timestamp
  before : ∀ f ∈ history, f.timestamp + 1000 < current

omit [Field R] [LinearOrder R] [JsMath R] in
theorem Spaced.sorted {history : List (GroundSpeedRef R)} {current : Int}
    (h : Spaced history current) : history.Pairwise fun a b => a.timestamp < b.timestamp :=
  h.apart.imp fun {a b} hab => by omega

omit [Field R] [LinearOrder R] [JsMath R] in
/-- The first of `n` spaced points is more than `n` seconds old. -/
theorem Spaced.head_lt : ∀ {history : List (GroundSpeedRef R)} {e : GroundSpeedRef R}
    {current : Int}, Spaced (e :: history) current →
    e.timestamp + 1000 * (history.length + 1) < current
  | [], e, current, h => by
      have hbefore := h.before e (List.mem_cons_self ..)
      simpa using hbefore
  | f :: history, e, current, h => by
      obtain ⟨hf, hapart⟩ := List.pairwise_cons.mp h.apart
      have hrest := Spaced.head_lt ⟨hapart, fun g hg => h.before g (List.mem_cons_of_mem _ hg)⟩
      have hef := hf f (List.mem_cons_self ..)
      rw [List.length_cons]
      push_cast
      omega

omit [Field R] [LinearOrder R] [JsMath R] in
/-- Of spaced points the last twelve decide: an older one in the window is never the last. -/
theorem Spaced.selectSpeedWindowRef_rtake {history : List (GroundSpeedRef R)} {current : Int}
    (h : Spaced history current) {n : Nat} (hn : 12 ≤ n) :
    selectSpeedWindowRef (history.rtake n) current = selectSpeedWindowRef history current := by
  set old := history.take (history.length - n)
  set recent := history.rtake n
  have hsplit : old ++ recent = history := List.take_append_drop ..
  have hsorted := h.sorted
  rw [← hsplit] at hsorted
  obtain ⟨-, hrecent, hold⟩ := List.pairwise_append.mp hsorted
  rw [selectSpeedWindowRef_eq current hrecent, selectSpeedWindowRef_eq current h.sorted, ← hsplit,
    List.filter_append, List.getLast?_append]
  cases hlast : (recent.filter (inSpeedWindow current)).getLast? with
  | some f => rfl
  | none =>
    rw [List.getLast?_eq_none_iff] at hlast
    have hnone : old.filter (inSpeedWindow current) = [] := by
      refine List.filter_eq_nil_iff.mpr fun a ha hwindow => ?_
      have hlong : n < history.length := by
        have hlength := List.length_pos_of_mem ha
        rw [List.length_take] at hlength
        omega
      have hcount : recent.length = n := by
        have hlength : recent.length = history.length - (history.length - n) := List.length_drop
        omega
      -- the first of the recent points is in the window too
      cases hcases : recent with
      | nil => rw [hcases] at hcount; simp at hcount; omega
      | cons e rest =>
        have hsuffix : Spaced recent current := by
          rw [← hsplit] at h
          exact ⟨(List.pairwise_append.mp h.apart).2.1,
            fun f hf => h.before f (List.mem_append_right _ hf)⟩
        have hmem : e ∈ recent := by rw [hcases]; exact List.mem_cons_self ..
        rw [hcases] at hsuffix hcount
        have hage := hsuffix.head_lt
        have hae := hold a ha e hmem
        have hin : inSpeedWindow current e = true := by
          simp only [inSpeedWindow, Bool.not_eq_true', decide_eq_false_iff_not, not_or, not_lt]
            at hwindow ⊢
          have hcount' : (rest.length : Int) + 1 = n := by
            rw [List.length_cons] at hcount
            exact_mod_cast hcount
          have hn' : (12 : Int) ≤ n := by exact_mod_cast hn
          rw [hcount'] at hage
          have hmin : speedWindowMin = 12000 := rfl
          omega
        have hfiltered := List.mem_filter.mpr ⟨hmem, hin⟩
        rw [hlast] at hfiltered
        cases hfiltered
    rw [hnone]
    rfl

/-- `push`, then `shift` until at most `size` are left. -/
def pushBounded {α : Type} (size : Nat) (buffer : List α) (x : α) : List α :=
  (buffer ++ [x]).drop (buffer.length + 1 - size)

theorem map_pushBounded {α β : Type} (g : α → β) (size : Nat) (buffer : List α) (x : α) :
    (pushBounded size buffer x).map g = pushBounded size (buffer.map g) (g x) := by
  rw [pushBounded, pushBounded, List.map_drop, List.map_append, List.map_singleton,
    List.length_map]

/-- A bounded buffer holds the end of all that was pushed. -/
theorem pushBounded_rtake {α : Type} (size : Nat) (pushed : List α) (x : α) :
    pushBounded size (pushed.rtake size) x = (pushed ++ [x]).rtake size := by
  have hlength : (pushed.rtake size).length = pushed.length - (pushed.length - size) :=
    List.length_drop
  rw [pushBounded, hlength, List.rtake, List.rtake,
    ← List.drop_append_of_le_length (Nat.sub_le ..), List.drop_drop, List.length_append,
    List.length_singleton]
  congr 1
  omega

inductive GroundSpeedSource where
  | measured
  | derived
  | clampedZero
  | unknown
  deriving DecidableEq, Repr

structure ResolveGroundSpeedInput (R : Type) where
  reportedSpeedMs : Option R
  previous : Option (GroundSpeedRef R)
  current : GroundSpeedRef R
  currentTimestampIsServerFallback : Bool
  windowPrevious : Option (GroundSpeedRef R)

structure ResolveGroundSpeedResult (R : Type) where
  speedMs : R
  source : GroundSpeedSource
  deriving DecidableEq, Repr

/-- Metres from a reference to a fix. -/
def GroundSpeedRef.distance (p q : GroundSpeedRef R) : R :=
  haversineDistance p.latitude p.longitude q.latitude q.longitude

/-- The speed over the window, when the vehicle left the noise over it and still moves. -/
def windowSpeed (input : ResolveGroundSpeedInput R) : Option R :=
  match input.windowPrevious with
  | none => none
  | some w =>
    let wDt := input.current.timestamp - w.timestamp
    let wMoved := w.distance input.current
    let wGate := combinedGpsNoiseGate w.accuracy input.current.accuracy
    let dt : Int := match input.previous with
      | some p => input.current.timestamp - p.timestamp
      | none => 0
    let moved : R := match input.previous with
      | some p => p.distance input.current
      | none => 0
    if input.currentTimestampIsServerFallback = false ∧
        speedWindowMin ≤ wDt ∧ wDt ≤ groundSpeedMaxDt ∧ wGate < wMoved ∧
        stationarySpeedMs ≤ wMoved / secs wDt ∧ 0 < dt ∧
        speedWindowPairMinMs ≤ moved / secs dt then
      some (wMoved / secs wDt)
    else none

/-- `resolveGroundSpeed`. -/
def resolveGroundSpeed (input : ResolveGroundSpeedInput R) : ResolveGroundSpeedResult R :=
  let reported : Option R := match input.reportedSpeedMs with
    | some s => if 0 < s then some s else none
    | none => none
  let dt : Int := match input.previous with
    | some p => input.current.timestamp - p.timestamp
    | none => 0
  let moved : R := match input.previous with
    | some p => p.distance input.current
    | none => 0
  let gate := combinedGpsNoiseGate (input.previous.bind GroundSpeedRef.accuracy)
    input.current.accuracy
  let dtPositive : Bool := input.previous.isSome ∧
    input.currentTimestampIsServerFallback = false ∧ 0 < dt
  let stationary : Bool := dtPositive ∧
    (moved < gate ∨ (moved + gate) / secs dt < stationarySpeedMs)
  match reported, windowSpeed input with
  | some reported, window =>
    match stationary, window with
    | true, some w => ⟨max reported w, .measured⟩
    | true, none =>
      -- the position does not contradict a speed above the tracker's phantom background
      if reliableReportedSpeedMs ≤ reported ∧ reported * secs dt ≤ moved + gate then
        ⟨reported, .measured⟩
      else ⟨0, .clampedZero⟩
    | false, _ =>
      if reported < stationarySpeedMs then ⟨0, .clampedZero⟩ else ⟨reported, .measured⟩
  | none, window =>
    if window.isSome ∧ isAccuracyTrustworthy (input.windowPrevious.bind GroundSpeedRef.accuracy) ∧
        isAccuracyTrustworthy input.current.accuracy then
      ⟨window.getD 0, .derived⟩
    else if dtPositive ∧ groundSpeedMinDt ≤ dt ∧ dt ≤ groundSpeedMaxDt ∧ gate ≤ moved ∧
        isAccuracyTrustworthy (input.previous.bind GroundSpeedRef.accuracy) ∧
        isAccuracyTrustworthy input.current.accuracy then
      if moved / secs dt < stationarySpeedMs then ⟨0, .clampedZero⟩
      else ⟨moved / secs dt, .derived⟩
    else ⟨0, if input.previous.isSome then .clampedZero else .unknown⟩

/-! ## Teleportation -/

structure TeleportReference (R : Type) where
  latitude : R
  longitude : R
  timestamp : Int
  speed : Option R
  accuracy : Option R
  deriving DecidableEq, Repr

/-- A teleport reference as a point speeds are measured from. -/
def TeleportReference.speedRef {R : Type} (r : TeleportReference R) : GroundSpeedRef R :=
  { latitude := r.latitude, longitude := r.longitude, timestamp := r.timestamp,
    accuracy := r.accuracy }

/-- A point as a teleport reference, its speed unknown. -/
def GroundSpeedRef.reference {R : Type} (r : GroundSpeedRef R) : TeleportReference R :=
  { latitude := r.latitude, longitude := r.longitude, timestamp := r.timestamp, speed := none,
    accuracy := r.accuracy }

inductive TeleportReason where
  | nonCroissant
  | vitesse
  | sautCourt
  | sautIncoherent
  deriving DecidableEq, Repr

structure TeleportEvaluation (R : Type) where
  suspect : Bool
  reason : Option TeleportReason
  timeDiffSec : R
  distance : R
  speedMs : R
  deriving DecidableEq, Repr

/-- The short-jump threshold grows with the accuracy, up to half as much again. -/
def accuracyScale (accuracy : Option R) : R :=
  match accuracy with
  | some a => if a = 0 then 1 else max 1 (min (a / 10) gpsNoiseMaxAccuracyScale)
  | none => 1

/-- Both ends are precise and the new fix has a speed: the jump rule applies. -/
def jumpRuleApplies (reference : TeleportReference R) (dt : Int) (accuracy speed : Option R) :
    Bool :=
  let precise (a : R) : Bool := 0 < a ∧ a ≤ movementTrustMaxAccuracyM
  (1000 ≤ dt ∧ dt ≤ incoherentJumpMaxDt : Bool) && speed.isSome &&
    (match accuracy with | some a => precise a | none => false) &&
    (match reference.accuracy with | some a => precise a | none => true)

/-- The farthest the announced speeds allow, noise included. -/
def plausibleDistance (reference : TeleportReference R) (dt : Int) (accuracy speed : Option R) :
    R :=
  max (max (speed.getD 0) (reference.speed.getD 0)) incoherentJumpMinSpeedMs * secs dt *
      incoherentJumpSpeedMargin +
    incoherentJumpNoiseMult *
      combinedGpsNoiseGate (reference.accuracy <|> accuracy) accuracy

/-- `evaluateTeleportation`. -/
def evaluateTeleportation (reference : TeleportReference R) (latitude longitude : R)
    (timestamp : Int) (accuracy speed : Option R) : TeleportEvaluation R :=
  let dt := timestamp - reference.timestamp
  if dt ≤ 0 then ⟨true, some .nonCroissant, secs dt, 0, 0⟩
  else
    let distance :=
      haversineDistance reference.latitude reference.longitude latitude longitude
    let speedMs := distance / secs dt
    if teleportSpeedThresholdMs < speedMs then ⟨true, some .vitesse, secs dt, distance, speedMs⟩
    else if teleportDistanceThresholdM * accuracyScale accuracy < distance ∧
        dt < teleportTimeThreshold then
      ⟨true, some .sautCourt, secs dt, distance, speedMs⟩
    else if jumpRuleApplies reference dt accuracy speed ∧
        plausibleDistance reference dt accuracy speed < distance then
      ⟨true, some .sautIncoherent, secs dt, distance, speedMs⟩
    else ⟨false, none, secs dt, distance, speedMs⟩

/-- The reference's own speed matters to the jump rule only: two references that differ in
it agree unless that rule decides. -/
theorem evaluateTeleportation_congr_speed {reference reference' : TeleportReference R}
    (hlat : reference.latitude = reference'.latitude)
    (hlon : reference.longitude = reference'.longitude)
    (hts : reference.timestamp = reference'.timestamp)
    (hacc : reference.accuracy = reference'.accuracy) (latitude longitude : R) (timestamp : Int)
    (accuracy speed : Option R)
    (hspeed : plausibleDistance reference (timestamp - reference.timestamp) accuracy speed
        < haversineDistance reference.latitude reference.longitude latitude longitude ↔
      plausibleDistance reference' (timestamp - reference.timestamp) accuracy speed
        < haversineDistance reference.latitude reference.longitude latitude longitude) :
    evaluateTeleportation reference latitude longitude timestamp accuracy speed =
      evaluateTeleportation reference' latitude longitude timestamp accuracy speed := by
  have hrule : jumpRuleApplies reference (timestamp - reference.timestamp) accuracy speed =
      jumpRuleApplies reference' (timestamp - reference.timestamp) accuracy speed := by
    simp only [jumpRuleApplies, hacc]
  simp only [evaluateTeleportation, ← hlat, ← hlon, ← hts, ← hrule]
  simp only [hspeed]

end DeliveryTracking.Geo
