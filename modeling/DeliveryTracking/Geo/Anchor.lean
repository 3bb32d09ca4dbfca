/-
# `DeliveryTracking.Geo.Anchor` — the position to show

Two corrections of the position shown, never of the one stored.  A parked
vehicle is drawn at the weighted centre of its run of stopped fixes
(`computeAnchoredPosition`); a moving one may be drawn on the road, from a short
window of fixes sent to the road matcher (`selectMatchWindow`,
`acceptSnappedTail`).
-/
import Mathlib.Data.List.Sort
import DeliveryTracking.Geo.GroundSpeed

namespace DeliveryTracking.Geo

/-- A fix of the recent history of a vehicle. -/
structure AnchorFix (R : Type) where
  latitude : R
  longitude : R
  accuracy : Option R
  speed : Option R
  motion : Option Bool
  /-- Milliseconds. -/
  timestamp : Int
  deriving DecidableEq, Repr

/-- A fix as a point speeds are measured from. -/
def AnchorFix.speedRef {R : Type} (f : AnchorFix R) : GroundSpeedRef R :=
  { latitude := f.latitude, longitude := f.longitude, timestamp := f.timestamp,
    accuracy := f.accuracy }

section Constants

/-- `ANCHOR_WINDOW_MS`. -/
def anchorWindow : Int := 90 * 60000
def anchorMinFixes : Nat := 2
def anchorInitialRadiusMinM {R : Type} [Field R] : R := 150
def anchorInitialRadiusAccMult {R : Type} [Field R] : R := 4
def anchorClusterRadiusMinM {R : Type} [Field R] : R := 60
def anchorClusterRadiusAccMult {R : Type} [Field R] : R := 3
def anchorMaxLagMinM {R : Type} [Field R] : R := 20
/-- Milliseconds. -/
def anchorMaxLagContinuous : Int := 120 * 1000
def anchorMaxLagAccMult {R : Type} [Field R] : R := 3
def anchorAccuracyFloorM {R : Type} [Field R] : R := 5

def matchMinFixes : Nat := 4
def matchWindowSize : Nat := 8
def matchMinConfidence {R : Type} [Field R] : R := 1 / 2
def matchMaxSnapDistanceM {R : Type} [Field R] : R := 50
def matchRadiusMinM {R : Type} [Field R] : R := 15
def matchRadiusMaxM {R : Type} [Field R] : R := 50

end Constants

variable {R : Type} [Field R] [LinearOrder R] [JsMath R]

def AnchorFix.distance (p q : AnchorFix R) : R :=
  haversineDistance p.latitude p.longitude q.latitude q.longitude

omit [JsMath R] in
/-- `accOf`. -/
def AnchorFix.accOf (f : AnchorFix R) : R :=
  (f.accuracy.filter (0 < ·)).getD 50

omit [JsMath R] in
/-- `isStoppedFix`: the speed decides, the motion attribute only without one. -/
def isStoppedFix (f : AnchorFix R) : Bool :=
  match f.speed with
  | some speed => speed < stationarySpeedMs
  | none => f.motion != some true

/-! ## The stationary anchor -/

/-- The stopped fixes before `newest`, newest first, up to the first that moves, is far or old. -/
def stoppedRun (newest : AnchorFix R) (earlier : List (AnchorFix R)) : List (AnchorFix R) :=
  let initialRadius := max anchorInitialRadiusMinM (anchorInitialRadiusAccMult * newest.accOf)
  newest :: earlier.takeWhile fun f =>
    newest.timestamp - f.timestamp ≤ anchorWindow ∧ isStoppedFix f ∧
      newest.distance f ≤ initialRadius

/-- The centre of a cluster, each fix weighing the inverse square of its accuracy. -/
def weightedCentre (cluster : List (AnchorFix R)) : Option (LatLng R) :=
  let weight (f : AnchorFix R) : R :=
    let a := max anchorAccuracyFloorM f.accOf
    1 / (a * a)
  let wSum := (cluster.map weight).sum
  if 0 < wSum then
    some ⟨(cluster.map fun f => f.latitude * weight f).sum / wSum,
      (cluster.map fun f => f.longitude * weight f).sum / wSum⟩
  else none

/-- `tryAnchorEndingAt`, the fixes before `newest` given newest first. -/
def tryAnchorEndingAt (newest : AnchorFix R) (earlier : List (AnchorFix R)) : Option (LatLng R) :=
  if isStoppedFix newest then
    let run := stoppedRun newest earlier
    if run.length < anchorMinFixes then none
    else
      let pivot := run.foldl (fun best f => if f.accOf < best.accOf then f else best) newest
      let clusterRadius := max anchorClusterRadiusMinM (anchorClusterRadiusAccMult * pivot.accOf)
      let cluster := run.filter fun f => pivot.distance f ≤ clusterRadius
      if cluster.length < anchorMinFixes then none else weightedCentre cluster
  else none

/-- The most recent anchor of the history, given newest first. -/
def latestAnchor : List (AnchorFix R) → Option (LatLng R)
  | newest :: previous :: rest =>
    tryAnchorEndingAt newest (previous :: rest) <|> latestAnchor (previous :: rest)
  | _ => none

/-- `computeAnchoredPosition`. -/
def computeAnchoredPosition (fixes : List (AnchorFix R)) : Option (LatLng R) :=
  match (fixes.insertionSort fun a b => a.timestamp ≤ b.timestamp).reverse with
  | newest :: previous :: rest =>
    if isStoppedFix newest then
      let maxLagM := max anchorMaxLagMinM (anchorMaxLagAccMult * newest.accOf)
      let continuous : Bool := newest.timestamp - previous.timestamp ≤ anchorMaxLagContinuous
      match latestAnchor (newest :: previous :: rest) with
      | some anchor =>
        if continuous ∧ maxLagM <
            haversineDistance anchor.latitude anchor.longitude newest.latitude newest.longitude then
          none
        else some anchor
      | none => none
    else none
  | _ => none

/-! ## Road matching -/

omit [Field R] [LinearOrder R] [JsMath R] in
/-- `selectMatchWindow`: the last fixes, if there are enough. -/
def selectMatchWindow (fixes : List (AnchorFix R)) : Option (List (AnchorFix R)) :=
  if fixes.length < matchMinFixes then none
  else some (fixes.drop (fixes.length - matchWindowSize))

/-- `matchRadiuses`. -/
def matchRadiuses (window : List (AnchorFix R)) : List R :=
  window.map fun f =>
    JsMath.round (max matchRadiusMinM
      (min matchRadiusMaxM ((f.accuracy.filter (0 < ·)).getD gpsAccuracyFallbackM)))

/-- The answer of the road matcher. -/
structure MatchResult (R : Type) where
  snappedTail : Option (LatLng R)
  confidence : R
  deriving DecidableEq, Repr

/-- `acceptSnappedTail`. -/
def acceptSnappedTail (rawLast : LatLng R) (res : MatchResult R) : Option (LatLng R) :=
  match res.snappedTail with
  | none => none
  | some snapped =>
    if ¬ matchMinConfidence ≤ res.confidence then none
    else if matchMaxSnapDistanceM < rawLast.distance snapped then none
    else some snapped

end DeliveryTracking.Geo
