/-
# `DeliveryTracking.Geo.Quality` — how good a fix is

The accuracy deduced from what the tracker announces, the confidence shown with
a position, and the wake rule: after a silence, a fix with few satellites is
held back (`evaluateWakeFix`) until a reliable one arrives or the quarantine has
lasted long enough.

A tracker attribute is the finite number `Number(…)` makes of it, or `none`.
-/
import DeliveryTracking.Geo.Math

namespace DeliveryTracking.Geo

variable {R : Type} [Field R] [LinearOrder R] [JsMath R]

/-! ## Accuracy -/

def hdopUere {R : Type} [Field R] : R := 5
def maxPlausibleHdop {R : Type} [Field R] : R := 50
def maxAccuracyM {R : Type} [Field R] : R := 1000
def defaultAccuracyM {R : Type} [Field R] : R := 50

omit [JsMath R] in
/-- `accuracyFromSatellites`: metres, by the number of satellites. -/
def accuracyFromSatellites (sat : Option R) : Option R :=
  match sat with
  | none => none
  | some n =>
    if n ≤ 0 then none
    else if 12 ≤ n then some 8
    else if 10 ≤ n then some 12
    else if 8 ≤ n then some 20
    else if n = 7 then some 35
    else if n = 6 then some 55
    else if n = 5 then some 90
    else some 150

/-- The more cautious of an estimate and the next one. -/
def retain {R : Type} [LinearOrder R] (accuracy candidate : Option R) : Option R :=
  match accuracy, candidate with
  | accuracy, none => accuracy
  | none, some c => some c
  | some a, some c => some (if a < c then c else a)

/-- The accuracy of `computeCombinedAccuracy`. -/
def computeCombinedAccuracy (deviceAccuracy hdop sat : Option R) : R :=
  let fromDevice := deviceAccuracy.filter (0 < ·)
  let fromHdop := (hdop.filter fun h => 0 < h ∧ h ≤ maxPlausibleHdop).map
    fun h => JsMath.round (h * hdopUere)
  let accuracy := (retain (retain fromDevice fromHdop) (accuracyFromSatellites sat)).getD
    defaultAccuracyM
  if maxAccuracyM < accuracy then maxAccuracyM else accuracy

omit [JsMath R] in
/-- `computeConfidence`, out of 100. -/
def computeConfidence (accuracy : Option R) (suspect : Bool) (speed : Option R) : Int :=
  let penalty : Int := match accuracy.filter (0 < ·) with
    | none => 30
    | some a => if a ≤ 5 then 5 else if a ≤ 10 then 10 else if a ≤ 20 then 20
        else if a ≤ 50 then 40 else 60
  let score := 100 - penalty - if suspect then 50 else 0
  let slow : Bool := match speed with
    | some s => s < 1 / 10
    | none => false
  max 0 (min 100 (if slow then min score 70 else score))

/-! ## The wake rule -/

def wakeTrustMinSat {R : Type} [Field R] : R := 10
/-- Milliseconds. -/
def wakeSilenceMin : Int := 120 * 1000
def wakeQuarantineMax : Int := 120 * 1000
def wakeQuarantineStale : Int := 600 * 1000

/-- A quarantine in progress: its first fix, and its last one. -/
structure WakeQuarantine where
  sinceMs : Int
  lastMs : Int
  deriving DecidableEq, Repr

/-- What `evaluateWakeFix` answers: whether the fix is held back, and the quarantine after it. -/
structure WakeFixVerdict where
  quarantine : Bool
  state : Option WakeQuarantine
  deriving DecidableEq, Repr

omit [JsMath R] in
/-- Few satellites, as far as the tracker says. -/
def weakFix (sat : Option R) : Bool :=
  match sat with
  | none => false
  | some n => 0 < n ∧ n < wakeTrustMinSat

omit [JsMath R] in
/-- `evaluateWakeFix`. -/
def evaluateWakeFix (sat : Option R) (gapSincePrev : Option Int) (state : Option WakeQuarantine)
    (fixTime : Int) : WakeFixVerdict :=
  -- a weak fix with no open episode: held back after a silence
  let opens : WakeFixVerdict :=
    if gapSincePrev.all (wakeSilenceMin < ·) then ⟨true, some ⟨fixTime, fixTime⟩⟩ else ⟨false, none⟩
  if weakFix sat = false then ⟨false, none⟩
  else match state with
    | none => opens
    | some q =>
      let lastMs := max q.lastMs q.sinceMs
      if wakeQuarantineStale < fixTime - lastMs then opens
      else if wakeQuarantineMax ≤ fixTime - q.sinceMs then ⟨false, none⟩
      else ⟨true, some ⟨q.sinceMs, max lastMs fixTime⟩⟩

end DeliveryTracking.Geo
