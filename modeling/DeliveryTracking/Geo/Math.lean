/-
# `DeliveryTracking.Geo.Math` — the numbers, and the great-circle distance

The geometry is written over an ordered field `R` with the functions of
JavaScript's `Math` it calls (`JsMath`).  A missing number (`null`, `undefined`)
is `none`.  Clock readings are whole milliseconds, so tests on times compare
integers; a duration that enters a formula is `secs`.

`ℚ` gets an executable instance, good to about ten decimals, on which concrete
inputs are evaluated.
-/
import DeliveryTracking.Numerals
import Mathlib.Algebra.Order.Field.Rat
import Mathlib.Data.Rat.Floor

namespace DeliveryTracking.Geo

/-- The functions of `Math` the geometry uses. -/
class JsMath (R : Type) where
  pi : R
  sqrt2 : R
  sin : R → R
  cos : R → R
  sqrt : R → R
  atan2 : R → R → R
  hypot : R → R → R
  round : R → R

variable {R : Type} [Field R] [LinearOrder R] [JsMath R]

/-- Milliseconds as seconds. -/
def secs (ms : Int) : R := (ms : R) / 1000

def toRad (deg : R) : R := deg * JsMath.pi / 180

/-- Metres between two points given in degrees. -/
def haversineDistance (lat₁ lon₁ lat₂ lon₂ : R) : R :=
  let dLat := toRad (lat₂ - lat₁)
  let dLon := toRad (lon₂ - lon₁)
  let a := JsMath.sin (dLat / 2) ^ 2 +
    JsMath.cos (toRad lat₁) * JsMath.cos (toRad lat₂) * JsMath.sin (dLon / 2) ^ 2
  6371000 * 2 * JsMath.atan2 (JsMath.sqrt a) (JsMath.sqrt (1 - a))

/-- A latitude and a longitude. -/
structure LatLng (R : Type) where
  latitude : R
  longitude : R
  deriving DecidableEq, Repr

def LatLng.distance (p q : LatLng R) : R :=
  haversineDistance p.latitude p.longitude q.latitude q.longitude

/-! ## Rational arithmetic -/

namespace RatMath

/-- Round to fifteen decimals. -/
def fix (x : ℚ) : ℚ := (⌊x * 10 ^ 15 + 1 / 2⌋ : ℚ) / 10 ^ 15

/-- Horner's scheme, rounding at every step. -/
def horner (x : ℚ) : List ℚ → ℚ
  | [] => 0
  | c :: cs => fix (c + x * horner x cs)

/-- The sine series to degree 25, for `|x| ≤ π`. -/
def sin (x : ℚ) : ℚ :=
  fix (x * horner (fix (x * x)) [1, -1 / 6, 1 / 120, -1 / 5040, 1 / 362880, -1 / 39916800,
    1 / 6227020800, -1 / 1307674368000, 1 / 355687428096000, -1 / 121645100408832000,
    1 / 51090942171709440000, -1 / 25852016738884976640000,
    1 / 15511210043330985984000000])

def cos (x : ℚ) : ℚ :=
  horner (fix (x * x)) [1, -1 / 2, 1 / 24, -1 / 720, 1 / 40320, -1 / 3628800, 1 / 479001600,
    -1 / 87178291200, 1 / 20922789888000, -1 / 6402373705728000, 1 / 2432902008176640000,
    -1 / 1124000727777607680000, 1 / 620448401733239439360000]

/-- Newton's iteration for the integer square root, at most `fuel` steps. -/
def natSqrt : Nat → Nat → Nat → Nat
  | 0, _, x => x
  | fuel + 1, n, x =>
    let y := (x + n / x) / 2
    if y < x then natSqrt fuel n y else x

def sqrt (x : ℚ) : ℚ :=
  let n := ⌊x * 10 ^ 30⌋.toNat
  (natSqrt 200 n (n + 1) : ℚ) / 10 ^ 15

def hypot (x y : ℚ) : ℚ := sqrt (x * x + y * y)

/-- `tan (θ / 2)` from the coordinates of a point at the angle `θ`. -/
def halfTan (y x : ℚ) : ℚ := if hypot x y + x = 0 then 0 else fix (y / (hypot x y + x))

def pi : ℚ := 3141592653589793 / 10 ^ 15

/-- Three halvings bring the slope under `tan (π / 8)`, where the series converges fast. -/
def atan2 (y x : ℚ) : ℚ :=
  let t := halfTan (halfTan (halfTan y x) 1) 1
  if y = 0 ∧ x < 0 then pi
  else fix (8 * t * horner (fix (t * t)) [1, -1 / 3, 1 / 5, -1 / 7, 1 / 9, -1 / 11, 1 / 13, -1 / 15,
    1 / 17, -1 / 19, 1 / 21, -1 / 23])

/-- `Math.round`: halves go up. -/
def round (x : ℚ) : ℚ := ⌊x + 1 / 2⌋

end RatMath

instance : JsMath ℚ where
  pi := RatMath.pi
  sqrt2 := 1414213562373095 / 10 ^ 15
  sin := RatMath.sin
  cos := RatMath.cos
  sqrt := RatMath.sqrt
  atan2 := RatMath.atan2
  hypot := RatMath.hypot
  round := RatMath.round

end DeliveryTracking.Geo
