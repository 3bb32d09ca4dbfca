/-
# `DeliveryTracking.Phone.MotionState` — the cadence of the GPS of a phone

The detector of `MotionStateDetector.java` takes the readings one by one and keeps of
them a place, a counter and a date.  What it answers is a property of all that was read
since:

    Stationary   the last reading has a speed, of at most half a metre a second; or it
                 and the one before have none, each near the one before it
    slow         stationary, for more than ninety seconds since the last reading that
                 moved, or since the acquisition was started

`LocationForegroundService` asks the provider for another cadence where the answer
changes (`cadence_iff`), once for each change.
-/
import DeliveryTracking.Geo.Math
import Mathlib.Data.List.Induction

namespace DeliveryTracking.Phone.MotionState

open DeliveryTracking.Geo

def STATIONARY_SPEED_THRESHOLD_MS {R : Type} [Field R] : R := 1 / 2
def STATIONARY_SWITCH_DELAY_MS : Int := 90000
def STATIONARY_POSITION_STAY_THRESHOLD_M {R : Type} [Field R] : R := 15
def STATIONARY_CONFIRM_MIN_FIXES : Nat := 2

inductive State where
  | movingConfirmed
  | stationaryConfirmed
  | unknown
  deriving DecidableEq

/-- A location; `speed` is `none` where `hasSpeed()` is false. -/
structure Reading (R : Type) where
  speed : Option R
  place : LatLng R

/-- The fields of a `MotionStateDetector`; no place is `NaN`. -/
structure Detector (R : Type) where
  last : Option (LatLng R)
  consecutiveNoSpeedStayFixes : Nat
  lastMovingTimestamp : Int

variable {R : Type}

/-- A new detector. -/
def Detector.new : Detector R := ⟨none, 0, 0⟩

def Detector.markStart (d : Detector R) (now : Int) : Detector R :=
  { d with lastMovingTimestamp := now }

variable [Field R] [LinearOrder R] [JsMath R]

/-- The reading is less than fifteen metres from the place. -/
def near (last : LatLng R) (fix : Reading R) : Bool :=
  decide (last.distance fix.place < STATIONARY_POSITION_STAY_THRESHOLD_M)

def Detector.classify (d : Detector R) (fix : Reading R) : State × Detector R :=
  match fix.speed with
  | some speed =>
      (if STATIONARY_SPEED_THRESHOLD_MS < speed then .movingConfirmed else .stationaryConfirmed,
        { d with consecutiveNoSpeedStayFixes := 0, last := some fix.place })
  | none =>
      match d.last with
      | some last =>
          (if STATIONARY_CONFIRM_MIN_FIXES ≤
              (if near last fix then d.consecutiveNoSpeedStayFixes + 1 else 0) then
            .stationaryConfirmed
          else .unknown,
          { d with
            consecutiveNoSpeedStayFixes :=
              if near last fix then d.consecutiveNoSpeedStayFixes + 1 else 0
            last := some fix.place })
      | none => (.unknown, { d with last := some fix.place })

def Detector.shouldBeSlow (d : Detector R) (fix : Reading R) (now : Int) : Bool × Detector R :=
  match d.classify fix with
  | (.movingConfirmed, d) => (false, { d with lastMovingTimestamp := now })
  | (.stationaryConfirmed, d) =>
      (decide (0 < d.lastMovingTimestamp ∧
        STATIONARY_SWITCH_DELAY_MS < now - d.lastMovingTimestamp), d)
  | (.unknown, d) => (false, d)

/-! ## The service -/

/-- What the provider is asked for: a fix each three seconds, or each twenty. -/
inductive Cadence where
  | fast
  | slow
  deriving DecidableEq

def Cadence.of (slow : Bool) : Cadence := if slow then .slow else .fast

/-- The acquisition of the service; `requested` is the last request that went through. -/
structure Acquisition (R : Type) where
  motionDetector : Detector R
  slowAcquisitionMode : Bool
  requested : Cadence

/-- `start`: `startLocationUpdates`, with the permission.  `result`: the last location of a
result, with the time and whether a request made now would go through. -/
inductive Event (R : Type) where
  | start (now : Int)
  | result (fix : Reading R) (now : Int) (accepted : Bool)

def Acquisition.new : Acquisition R := ⟨.new, false, .fast⟩

def adaptAcquisitionInterval (s : Acquisition R) (fix : Reading R) (now : Int) (accepted : Bool) :
    Acquisition R :=
  match s.motionDetector.shouldBeSlow fix now with
  | (shouldBeSlow, motionDetector) =>
      if shouldBeSlow = s.slowAcquisitionMode then { s with motionDetector := motionDetector }
      else
        { motionDetector := motionDetector
          slowAcquisitionMode := shouldBeSlow
          requested := if accepted then .of shouldBeSlow else s.requested }

def step (s : Acquisition R) : Event R → Acquisition R
  | .start now =>
      { motionDetector := s.motionDetector.markStart now
        slowAcquisitionMode := false
        requested := .fast }
  | .result fix now accepted => adaptAcquisitionInterval s fix now accepted

/-! ## What was read -/

omit [Field R] [LinearOrder R] [JsMath R] in
/-- The readings, newest first. -/
def readings (es : List (Event R)) : List (Reading R) :=
  es.reverse.filterMap fun
    | .start _ => none
    | .result fix _ _ => some fix

omit [JsMath R] in
/-- The reading has a speed, of more than half a metre a second. -/
def moves (fix : Reading R) : Bool :=
  fix.speed.any fun speed => decide (STATIONARY_SPEED_THRESHOLD_MS < speed)

omit [JsMath R] in
/-- When the delay is counted from the event. -/
def Event.movedAt : Event R → Option Int
  | .start now => some now
  | .result fix now _ => if moves fix then some now else none

omit [JsMath R] in
/-- When the phone last moved or the acquisition was last started. -/
def lastMoving (es : List (Event R)) : Int := (es.reverse.findSome? Event.movedAt).getD 0

/-- Of the readings, newest first. -/
def Stationary : List (Reading R) → Prop
  | [] => False
  | fix :: earlier =>
      (∃ speed, fix.speed = some speed ∧ speed ≤ STATIONARY_SPEED_THRESHOLD_MS) ∨
        fix.speed = none ∧ ∃ p q rest, earlier = p :: q :: rest ∧
          near p.place fix ∧ p.speed = none ∧ near q.place p

/-- The phone is slow at `now`, after the events. -/
def Slow (es : List (Event R)) (now : Int) : Prop :=
  Stationary (readings es) ∧ 0 < lastMoving es ∧ STATIONARY_SWITCH_DELAY_MS < now - lastMoving es

/-- How many readings without a speed are near the one before, up to the last. -/
def stayRun : List (Reading R) → Nat
  | fix :: p :: earlier =>
      if fix.speed = none ∧ near p.place fix then stayRun (p :: earlier) + 1 else 0
  | _ => 0

variable {es : List (Event R)} {fix : Reading R} {earlier : List (Reading R)} {now : Int}
  {accepted : Bool} {d : Detector R}

theorem two_le_stayRun :
    STATIONARY_CONFIRM_MIN_FIXES ≤ stayRun (fix :: earlier) ↔
      fix.speed = none ∧ ∃ p q rest, earlier = p :: q :: rest ∧
        near p.place fix ∧ p.speed = none ∧ near q.place p := by
  constructor
  · intro h
    have hone : ¬ STATIONARY_CONFIRM_MIN_FIXES ≤ 1 := by decide
    have hzero : ¬ STATIONARY_CONFIRM_MIN_FIXES ≤ 0 := by decide
    match earlier with
    | [] => exact absurd h hzero
    | [p] =>
      rw [stayRun] at h
      split at h
      · exact absurd h hone
      · exact absurd h hzero
    | p :: q :: rest =>
      rw [stayRun] at h
      split at h
      · rename_i hfix
        rw [stayRun] at h
        split at h
        · rename_i hp
          exact ⟨hfix.1, p, q, rest, rfl, hfix.2, hp⟩
        · exact absurd h hone
      · exact absurd h hzero
  · rintro ⟨hspeed, p, q, rest, rfl, hnear, hp⟩
    rw [stayRun, if_pos ⟨hspeed, hnear⟩, stayRun, if_pos hp, STATIONARY_CONFIRM_MIN_FIXES]
    omega

/-! ## What the detector keeps of it -/

/-- What the detector holds after the events. -/
structure Keeps (d : Detector R) (es : List (Event R)) : Prop where
  last : d.last = (readings es).head?.map Reading.place
  stays : d.consecutiveNoSpeedStayFixes = stayRun (readings es)
  moving : d.lastMovingTimestamp = lastMoving es

omit [Field R] [LinearOrder R] [JsMath R] in
theorem readings_result :
    readings (es ++ [.result fix now accepted]) = fix :: readings es := by
  simp [readings]

omit [Field R] [LinearOrder R] [JsMath R] in
theorem readings_start : readings (es ++ [.start now]) = readings es := by
  simp [readings]

omit [JsMath R] in
theorem lastMoving_append (e : Event R) :
    lastMoving (es ++ [e]) = e.movedAt.getD (lastMoving es) := by
  rw [lastMoving, List.reverse_append, List.reverse_singleton, List.singleton_append,
    List.findSome?_cons, lastMoving]
  cases e.movedAt with
  | none => rfl
  | some now => rfl

/-- The answer of `classify` to a reading, the earlier ones newest first. -/
structure Classified (answer : State × Detector R) (d : Detector R) (fix : Reading R)
    (earlier : List (Reading R)) : Prop where
  moving : answer.1 = .movingConfirmed ↔ moves fix = true
  stationary : answer.1 = .stationaryConfirmed ↔ Stationary (fix :: earlier)
  last : answer.2.last = some fix.place
  stays : answer.2.consecutiveNoSpeedStayFixes = stayRun (fix :: earlier)
  moved : answer.2.lastMovingTimestamp = d.lastMovingTimestamp

/-- A speed decides by itself. -/
theorem classify_speed {speed : R} (hspeed : fix.speed = some speed) :
    Classified (d.classify fix) d fix earlier := by
  have hrun : stayRun (fix :: earlier) = 0 := by
    cases earlier with
    | nil => rfl
    | cons p rest => rw [stayRun, if_neg (by simp [hspeed])]
  have hstationary : Stationary (fix :: earlier) ↔ speed ≤ STATIONARY_SPEED_THRESHOLD_MS := by
    simp [Stationary, hspeed]
  have hmoves : moves fix = true ↔ STATIONARY_SPEED_THRESHOLD_MS < speed := by
    simp [moves, hspeed]
  rw [Detector.classify, hspeed]
  by_cases hfast : STATIONARY_SPEED_THRESHOLD_MS < speed
  · simp only [if_pos hfast]
    refine ⟨?_, ?_, rfl, hrun.symm, rfl⟩
    · exact ⟨fun _ => hmoves.mpr hfast, fun _ => rfl⟩
    · exact ⟨fun h => (by cases h), fun h => absurd (hstationary.mp h) (not_le.mpr hfast)⟩
  · simp only [if_neg hfast]
    refine ⟨?_, ?_, rfl, hrun.symm, rfl⟩
    · exact ⟨fun h => (by cases h), fun h => absurd (hmoves.mp h) hfast⟩
    · exact ⟨fun _ => hstationary.mpr (not_lt.mp hfast), fun _ => rfl⟩

/-- Without a speed, the readings before decide. -/
theorem classify_no_speed (hspeed : fix.speed = none)
    (hlast : d.last = earlier.head?.map Reading.place)
    (hstays : d.consecutiveNoSpeedStayFixes = stayRun earlier) :
    Classified (d.classify fix) d fix earlier := by
  have hstationary : Stationary (fix :: earlier) ↔
      STATIONARY_CONFIRM_MIN_FIXES ≤ stayRun (fix :: earlier) := by
    rw [two_le_stayRun, Stationary, or_iff_right]
    rintro ⟨speed, hsome, -⟩
    rw [hspeed] at hsome
    cases hsome
  have hmoves : ¬ moves fix = true := by simp [moves, hspeed]
  rw [Detector.classify, hspeed]
  cases earlier with
  | nil =>
    rw [show d.last = none from hlast]
    refine ⟨⟨fun h => (by cases h), fun h => absurd h hmoves⟩, ?_, rfl, hstays, rfl⟩
    exact ⟨fun h => (by cases h), fun h => absurd (hstationary.mp h) (by simp [stayRun,
      STATIONARY_CONFIRM_MIN_FIXES])⟩
  | cons p rest =>
    rw [show d.last = some p.place from hlast]
    have hrun : stayRun (fix :: p :: rest) =
        if near p.place fix then d.consecutiveNoSpeedStayFixes + 1 else 0 := by
      rw [stayRun, hstays]
      simp [hspeed]
    simp only [← hrun]
    by_cases hconfirmed : STATIONARY_CONFIRM_MIN_FIXES ≤ stayRun (fix :: p :: rest)
    · simp only [if_pos hconfirmed]
      refine ⟨⟨fun h => (by cases h), fun h => absurd h hmoves⟩, ?_, rfl, rfl, rfl⟩
      exact ⟨fun _ => hstationary.mpr hconfirmed, fun _ => rfl⟩
    · simp only [if_neg hconfirmed]
      refine ⟨⟨fun h => (by cases h), fun h => absurd h hmoves⟩, ?_, rfl, rfl, rfl⟩
      exact ⟨fun h => (by cases h), fun h => absurd (hstationary.mp h) hconfirmed⟩

theorem Keeps.classify (h : Keeps d es) (fix : Reading R) :
    Classified (d.classify fix) d fix (readings es) := by
  cases hspeed : fix.speed with
  | some speed => exact classify_speed hspeed
  | none => exact classify_no_speed hspeed h.last h.stays

/-- One reading more. -/
theorem Keeps.shouldBeSlow (h : Keeps d es) :
    Keeps (d.shouldBeSlow fix now).2 (es ++ [.result fix now accepted]) ∧
      ((d.shouldBeSlow fix now).1 = true ↔ Slow (es ++ [.result fix now accepted]) now) := by
  obtain ⟨hmoving, hstationary, hlast, hstays, hmoved⟩ := h.classify fix
  have hnow : lastMoving (es ++ [.result fix now accepted]) =
      if moves fix then now else d.lastMovingTimestamp := by
    rw [lastMoving_append, Event.movedAt, h.moving]
    split
    · rfl
    · rfl
  rw [Slow, readings_result, hnow, Detector.shouldBeSlow]
  match hanswer : d.classify fix with
  | (.movingConfirmed, d') =>
    rw [hanswer] at hmoving hstationary hlast hstays
    have hmoves : moves fix = true := hmoving.mp rfl
    refine ⟨⟨?_, ?_, ?_⟩, ?_⟩
    · rw [readings_result]; exact hlast
    · rw [readings_result]; exact hstays
    · rw [hnow, if_pos hmoves]
    · exact ⟨fun h => (by cases h), fun h => (by cases hstationary.mpr h.1)⟩
  | (.stationaryConfirmed, d') =>
    rw [hanswer] at hmoving hstationary hlast hstays hmoved
    have hmoves : ¬ moves fix = true := fun h => (by cases hmoving.mpr h)
    refine ⟨⟨?_, ?_, ?_⟩, ?_⟩
    · rw [readings_result]; exact hlast
    · rw [readings_result]; exact hstays
    · rw [hnow, if_neg hmoves]; exact hmoved
    · rw [if_neg hmoves, ← hmoved, decide_eq_true_eq]
      exact ⟨fun h => ⟨hstationary.mp rfl, h⟩, And.right⟩
  | (.unknown, d') =>
    rw [hanswer] at hmoving hstationary hlast hstays hmoved
    have hmoves : ¬ moves fix = true := fun h => (by cases hmoving.mpr h)
    refine ⟨⟨?_, ?_, ?_⟩, ?_⟩
    · rw [readings_result]; exact hlast
    · rw [readings_result]; exact hstays
    · rw [hnow, if_neg hmoves]; exact hmoved
    · exact ⟨fun h => (by cases h), fun h => (by cases hstationary.mpr h.1)⟩

/-! ## The cadence -/

/-- The acquisition after the events. -/
def after (es : List (Event R)) : Acquisition R := es.foldl step .new

theorem after_append (es : List (Event R)) (e : Event R) :
    after (es ++ [e]) = step (after es) e := List.foldl_concat ..

/-- The service keeps what the detector answers. -/
theorem adaptAcquisitionInterval_spec (s : Acquisition R) (fix : Reading R) (now : Int)
    (accepted : Bool) :
    (adaptAcquisitionInterval s fix now accepted).motionDetector =
        (s.motionDetector.shouldBeSlow fix now).2 ∧
      (adaptAcquisitionInterval s fix now accepted).slowAcquisitionMode =
        (s.motionDetector.shouldBeSlow fix now).1 := by
  rw [adaptAcquisitionInterval]
  split
  rename_i slow d hanswer
  split
  · rename_i hsame
    rw [hanswer]
    exact ⟨rfl, hsame.symm⟩
  · rw [hanswer]
    exact ⟨rfl, rfl⟩

theorem keeps_after (es : List (Event R)) : Keeps (after es).motionDetector es := by
  induction es using List.reverseRecOn with
  | nil => exact ⟨rfl, rfl, rfl⟩
  | append_singleton es e ih =>
    rw [after_append]
    cases e with
    | start now =>
      refine ⟨?_, ?_, ?_⟩
      · rw [readings_start]; exact ih.last
      · rw [readings_start]; exact ih.stays
      · rw [lastMoving_append]; rfl
    | result fix now accepted =>
      show Keeps (adaptAcquisitionInterval (after es) fix now accepted).motionDetector _
      rw [(adaptAcquisitionInterval_spec ..).1]
      exact ih.shouldBeSlow.1

/-- No request of the event is refused. -/
def Event.Granted : Event R → Prop
  | .start _ => True
  | .result _ _ accepted => accepted = true

theorem requested_step {s : Acquisition R} {e : Event R} (haccepted : e.Granted)
    (h : s.requested = .of s.slowAcquisitionMode) :
    (step s e).requested = .of (step s e).slowAcquisitionMode := by
  cases e with
  | start now => rfl
  | result fix now accepted =>
    obtain rfl : accepted = true := haccepted
    rw [step, adaptAcquisitionInterval]
    split
    split
    · exact h
    · rfl

/-- **The cadence is slow exactly where all that was read says so.**  While no request is refused,
that is what the provider was last asked for. -/
theorem cadence_iff (es : List (Event R)) (fix : Reading R) (now : Int) (accepted : Bool) :
    ((after (es ++ [.result fix now accepted])).slowAcquisitionMode = true ↔
        Slow (es ++ [.result fix now accepted]) now) ∧
      ((∀ e ∈ es ++ [.result fix now accepted], e.Granted) →
        (after (es ++ [.result fix now accepted])).requested =
          .of (after (es ++ [.result fix now accepted])).slowAcquisitionMode) := by
  constructor
  · rw [after_append]
    show (adaptAcquisitionInterval (after es) fix now accepted).slowAcquisitionMode = true ↔ _
    rw [(adaptAcquisitionInterval_spec ..).2]
    exact (keeps_after es).shouldBeSlow.2
  · intro haccepted
    refine List.foldlRecOn (motive := fun s : Acquisition R =>
      s.requested = .of s.slowAcquisitionMode) _ step rfl fun s h e he => ?_
    exact requested_step (haccepted e he) h

/-- A parked phone without a speed. -/
def parkedReading : Reading ℚ := ⟨none, -94396 / 5000, 475079 / 10000⟩

def parked : List (Event ℚ) :=
  [.start 1000000, .result parkedReading 1010000 true, .result parkedReading 1020000 true]

theorem cadence_iff_parked :
    (after (parked ++ [.result parkedReading 1090001 true])).requested = .slow := by
  obtain ⟨hmode, hrequested⟩ := cadence_iff parked parkedReading 1090001 true
  have hstationary : Stationary (readings (parked ++ [.result parkedReading 1090001 true])) :=
    .inr ⟨rfl, parkedReading, parkedReading, [], rfl, by decide +kernel, rfl, by decide +kernel⟩
  have hslow := hmode.mpr ⟨hstationary, by decide +kernel, by decide +kernel⟩
  rw [hrequested (by simp [parked, Event.Granted]), hslow]
  rfl

end DeliveryTracking.Phone.MotionState
