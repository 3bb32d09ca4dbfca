/-
# `DeliveryTracking.Geo.KalmanFilter` — the filter that smooths the position on display

The state is `[lat, lng, vLat, vLng]`, with a 4×4 covariance `P` that the class
multiplies out by hand.  Latitude and longitude never mix: `P` is two covariances of a
position and its velocity, one on the rows and columns 0 and 2, one on 1 and 3,

    P = blocks lat lng        (`Tracks`)

and each call does to both what it does to one coordinate (`Covariance`):

    predict   advance, add whiteNoise
    update    observe, with the variance of the measurement
    reset     nothing

That is the invariant; symmetry, positivity and the bounds on `detS` and on the move
of `update` are read off it.  Arithmetic is exact, over an ordered field, and `cos` is
any function.
-/
import DeliveryTracking.Covariance
import DeliveryTracking.Geo.Math
import DeliveryTracking.Runs
import Mathlib.Algebra.BigOperators.Fin
import Mathlib.Data.Matrix.Basic

namespace DeliveryTracking.Geo

variable {R : Type} [Field R] [LinearOrder R] [JsMath R]

/-! ## The class -/

/-- `number[][]` with four rows of four. -/
abbrev Mat44 (R : Type) := Fin 4 → Fin 4 → R

/-- The inner loop adds `A[i][k] * B[k][j]` for `k` from 0 to 3. -/
def mult44 (A B : Mat44 R) : Mat44 R := fun i j =>
  (List.finRange 4).foldl (fun result k => result + A i k * B k j) 0

def transpose44 (M : Mat44 R) : Mat44 R := fun i j => M j i

def add44 (A B : Mat44 R) : Mat44 R := fun i j => A i j + B i j

def sub44 (A B : Mat44 R) : Mat44 R := fun i j => A i j - B i j

structure KalmanFilter (R : Type) where
  x : Fin 4 → R
  P : Mat44 R
  lastTs : Option R
  dt : R

namespace KalmanFilter

def metersPerDegreeLat : R := 111320

/-- The density of the acceleration noise, `3.2e-10`. -/
def qA : R := 32 / 10 ^ 11

def latStdDeg (accuracy : R) : R := max 1 accuracy / metersPerDegreeLat

def vStdDeg : R := 10 / metersPerDegreeLat

/-- `constructor(initialLat, initialLng, accuracy)`. -/
def new (initialLat initialLng accuracy : R) : KalmanFilter R :=
  let cosLat := JsMath.cos (toRad initialLat)
  let lngStdDeg := latStdDeg accuracy / max (1 / 100) cosLat
  let vLngStdDeg := vStdDeg / max (1 / 100) cosLat
  { x := ![initialLat, initialLng, 0, 0]
    P := ![![latStdDeg accuracy * latStdDeg accuracy, 0, 0, 0],
           ![0, lngStdDeg * lngStdDeg, 0, 0],
           ![0, 0, vStdDeg * vStdDeg, 0],
           ![0, 0, 0, vLngStdDeg * vLngStdDeg]]
    lastTs := none
    dt := 1 }

def processNoiseMatrix (dt : R) : Mat44 R :=
  let qa := qA
  let dt2 := dt * dt
  let dt3 := dt2 * dt
  ![![qa * dt3 / 3, 0, qa * dt2 / 2, 0],
    ![0, qa * dt3 / 3, 0, qa * dt2 / 2],
    ![qa * dt2 / 2, 0, qa * dt, 0],
    ![0, qa * dt2 / 2, 0, qa * dt]]

variable (f : KalmanFilter R)

/-- The `dt` of a prediction: kept before there is a last time. -/
def nextDt (now : R) : R :=
  match f.lastTs with
  | some lastTs => max (1 / 10) ((now - lastTs) / 1000)
  | none => f.dt

/-- `predict(timestamp)`; `now` is the timestamp, or the clock. -/
def predict (now : R) : KalmanFilter R :=
  let dt := f.nextDt now
  let F : Mat44 R :=
    ![![1, 0, dt, 0],
      ![0, 1, 0, dt],
      ![0, 0, 1, 0],
      ![0, 0, 0, 1]]
  let FP := mult44 F f.P
  let FT := transpose44 F
  { x := ![f.x 0 + f.x 2 * dt, f.x 1 + f.x 3 * dt, f.x 2, f.x 3]
    P := add44 (mult44 FP FT) (processNoiseMatrix dt)
    lastTs := some now
    dt := dt }

def rLat (accuracy : R) : R := max (1 / 10 ^ 10) ((accuracy / metersPerDegreeLat) ^ 2)

def rLng (accuracy : R) : R :=
  let cosLat := JsMath.cos (toRad (f.x 0))
  let metersPerDegLng := metersPerDegreeLat * max (1 / 100) cosLat
  max (1 / 10 ^ 10) ((accuracy / metersPerDegLng) ^ 2)

/-- `S = H P Hᵀ + R`. -/
def S (accuracy : R) : Fin 2 → Fin 2 → R :=
  ![![f.P 0 0 + rLat accuracy, f.P 0 1],
    ![f.P 1 0, f.P 1 1 + f.rLng accuracy]]

def detS (accuracy : R) : R :=
  f.S accuracy 0 0 * f.S accuracy 1 1 - f.S accuracy 0 1 * f.S accuracy 1 0

def invS (accuracy : R) : Fin 2 → Fin 2 → R :=
  ![![f.S accuracy 1 1 / f.detS accuracy, -f.S accuracy 0 1 / f.detS accuracy],
    ![-f.S accuracy 1 0 / f.detS accuracy, f.S accuracy 0 0 / f.detS accuracy]]

def K (accuracy : R) : Fin 4 → Fin 2 → R := fun i j =>
  f.P i 0 * f.invS accuracy 0 j + f.P i 1 * f.invS accuracy 1 j

/-- The guard of `update`: it returns without a correction. -/
def Singular (accuracy : R) : Prop := |f.detS accuracy| < 1 / 10 ^ 20

instance (accuracy : R) : Decidable (f.Singular accuracy) := inferInstanceAs (Decidable (_ < _))

def update (lat lng accuracy : R) : KalmanFilter R :=
  let yLat := lat - f.x 0
  let yLng := lng - f.x 1
  if f.Singular accuracy then f
  else
    let K := f.K accuracy
    let I : Mat44 R :=
      ![![1, 0, 0, 0],
        ![0, 1, 0, 0],
        ![0, 0, 1, 0],
        ![0, 0, 0, 1]]
    let KH : Mat44 R :=
      ![![K 0 0, K 0 1, 0, 0],
        ![K 1 0, K 1 1, 0, 0],
        ![K 2 0, K 2 1, 0, 0],
        ![K 3 0, K 3 1, 0, 0]]
    { f with
      x := fun i => f.x i + (K i 0 * yLat + K i 1 * yLng)
      P := mult44 (sub44 I KH) f.P }

/-- `reset`: the covariance stays, and so does `dt`. -/
def reset (lat lng : R) : KalmanFilter R :=
  { f with x := ![lat, lng, 0, 0], lastTs := none }

end KalmanFilter

/-- A call. -/
inductive FilterCall (R : Type) where
  | predict (now : R)
  | update (lat lng accuracy : R)
  | reset (lat lng : R)

def KalmanFilter.step (f : KalmanFilter R) : FilterCall R → KalmanFilter R
  | .predict now => f.predict now
  | .update lat lng accuracy => f.update lat lng accuracy
  | .reset lat lng => f.reset lat lng

/-! ## Two coordinates -/

section Blocks

omit [JsMath R]

/-- Latitude on the rows and columns 0 and 2, longitude on 1 and 3. -/
def blocks (lat lng : Covariance R) : Mat44 R :=
  ![![lat.pos, 0, lat.cross, 0],
    ![0, lng.pos, 0, lng.cross],
    ![lat.cross, 0, lat.vel, 0],
    ![0, lng.cross, 0, lng.vel]]

omit [LinearOrder R] in
theorem mult44_apply (A B : Mat44 R) (i j : Fin 4) :
    mult44 A B i j = A i 0 * B 0 j + A i 1 * B 1 j + A i 2 * B 2 j + A i 3 * B 3 j := by
  simp [mult44, List.finRange_succ]

theorem fin_four (i : Fin 4) : i = 0 ∨ i = 1 ∨ i = 2 ∨ i = 3 := by
  omega

theorem blocks_symm (lat lng : Covariance R) (i j : Fin 4) :
    blocks lat lng i j = blocks lat lng j i := by
  rcases fin_four i with rfl | rfl | rfl | rfl <;> rcases fin_four j with rfl | rfl | rfl | rfl <;> rfl

theorem blocks_decoupled (lat lng : Covariance R) (i j : Fin 4) (h : i.val % 2 ≠ j.val % 2) :
    blocks lat lng i j = 0 := by
  rcases fin_four i with rfl | rfl | rfl | rfl <;> rcases fin_four j with rfl | rfl | rfl | rfl <;>
    first | rfl | exact absurd rfl h

/-- The quadratic form is the sum of those of the coordinates. -/
theorem blocks_form (lat lng : Covariance R) (v : Fin 4 → R) :
    ∑ i, ∑ j, v i * blocks lat lng i j * v j = lat.form (v 0) (v 2) + lng.form (v 1) (v 3) := by
  simp only [Fin.sum_univ_four]
  show v 0 * lat.pos * v 0 + v 0 * 0 * v 1 + v 0 * lat.cross * v 2 + v 0 * 0 * v 3 +
      (v 1 * 0 * v 0 + v 1 * lng.pos * v 1 + v 1 * 0 * v 2 + v 1 * lng.cross * v 3) +
      (v 2 * lat.cross * v 0 + v 2 * 0 * v 1 + v 2 * lat.vel * v 2 + v 2 * 0 * v 3) +
      (v 3 * 0 * v 0 + v 3 * lng.cross * v 1 + v 3 * 0 * v 2 + v 3 * lng.vel * v 3) = _
  unfold Covariance.form
  ring

namespace KalmanFilter

variable (f : KalmanFilter R)

/-- The covariance is that of two coordinates that do not mix, and time goes on. -/
structure Tracks (lat lng : Covariance R) : Prop where
  P : f.P = blocks lat lng
  dt : 0 < f.dt

variable {f} {lat lng : Covariance R}

theorem Tracks.reset (h : f.Tracks lat lng) (z w : R) : (f.reset z w).Tracks lat lng := ⟨h.P, h.dt⟩

variable [IsStrictOrderedRing R]

theorem nextDt_pos (hdt : 0 < f.dt) (now : R) : 0 < f.nextDt now := by
  unfold nextDt
  split
  · exact lt_of_lt_of_le (by norm_num) (le_max_left _ _)
  · exact hdt

/-- One coordinate after a prediction. -/
def predicted (c : Covariance R) (dt : R) (hdt : 0 < dt) : Covariance R :=
  (c.advance dt).add (.whiteNoise qA dt (by unfold qA; positivity) hdt.le)

/-- The product and the sum that `predict` multiplies out. -/
theorem predict_blocks {dt : R} (hdt : 0 < dt) (lat lng : Covariance R) :
    add44 (mult44 (mult44 ![![1, 0, dt, 0], ![0, 1, 0, dt], ![0, 0, 1, 0], ![0, 0, 0, 1]]
        (blocks lat lng))
      (transpose44 ![![1, 0, dt, 0], ![0, 1, 0, dt], ![0, 0, 1, 0], ![0, 0, 0, 1]]))
      (processNoiseMatrix dt) = blocks (predicted lat dt hdt) (predicted lng dt hdt) := by
  funext i j
  rcases fin_four i with rfl | rfl | rfl | rfl <;> rcases fin_four j with rfl | rfl | rfl | rfl <;>
    simp [-Matrix.cons_val, Matrix.cons_val_two, Matrix.cons_val_three, mult44_apply, transpose44,
      add44, processNoiseMatrix, blocks, predicted, Covariance.advance, Covariance.add,
      Covariance.whiteNoise, Covariance.form] <;> ring

theorem Tracks.predict (h : f.Tracks lat lng) (now : R) :
    (f.predict now).Tracks (predicted lat _ (nextDt_pos h.dt now))
      (predicted lng _ (nextDt_pos h.dt now)) := by
  refine ⟨?_, nextDt_pos h.dt now⟩
  rw [KalmanFilter.predict, h.P]
  exact predict_blocks (nextDt_pos h.dt now) lat lng

end KalmanFilter

end Blocks

/-! ## What each call does to them -/

section Calls

variable [IsStrictOrderedRing R]

namespace KalmanFilter

variable {f : KalmanFilter R} {lat lng : Covariance R}

theorem tracks_new (initialLat initialLng accuracy : R) :
    ∃ lat lng, (new initialLat initialLng accuracy).Tracks lat lng := by
  have hP : (new initialLat initialLng accuracy).P =
      blocks (.independent (latStdDeg accuracy) vStdDeg)
        (.independent (latStdDeg accuracy / max (1 / 100) (JsMath.cos (toRad initialLat)))
          (vStdDeg / max (1 / 100) (JsMath.cos (toRad initialLat)))) := rfl
  exact ⟨_, _, hP, one_pos⟩

omit [JsMath R] [IsStrictOrderedRing R] in
theorem rLat_ge (accuracy : R) : 1 / 10 ^ 10 ≤ rLat accuracy := le_max_left _ _

omit [IsStrictOrderedRing R] in
theorem rLng_ge (accuracy : R) : 1 / 10 ^ 10 ≤ f.rLng accuracy := le_max_left _ _

omit [JsMath R] in
theorem rLat_pos (accuracy : R) : 0 < rLat accuracy :=
  lt_of_lt_of_le (by positivity) (rLat_ge accuracy)

theorem rLng_pos (accuracy : R) : 0 < f.rLng accuracy :=
  lt_of_lt_of_le (by positivity) (rLng_ge accuracy)

omit [IsStrictOrderedRing R] in
/-- `detS` is the product of the two innovations' variances. -/
theorem Tracks.detS (h : f.Tracks lat lng) (accuracy : R) :
    f.detS accuracy = (lat.pos + rLat accuracy) * (lng.pos + f.rLng accuracy) := by
  simp [-Matrix.cons_val, KalmanFilter.detS, S, h.P, blocks]

/-- Each factor is at least `1e-10`. -/
theorem Tracks.not_singular (h : f.Tracks lat lng) (accuracy : R) : ¬ f.Singular accuracy := by
  have hLat : 1 / 10 ^ 10 ≤ lat.pos + rLat accuracy :=
    (rLat_ge accuracy).trans (le_add_of_nonneg_left lat.pos_nonneg)
  have hLng : 1 / 10 ^ 10 ≤ lng.pos + f.rLng accuracy :=
    (rLng_ge accuracy).trans (le_add_of_nonneg_left lng.pos_nonneg)
  have hprod : (1 / 10 ^ 10 : R) * (1 / 10 ^ 10) ≤ f.detS accuracy := by
    rw [h.detS]
    exact mul_le_mul hLat hLng (by positivity) ((by positivity : (0 : R) ≤ 1 / 10 ^ 10).trans hLat)
  have hsq : (1 / 10 ^ 10 : R) * (1 / 10 ^ 10) = 1 / 10 ^ 20 := by norm_num
  rw [hsq] at hprod
  exact not_lt.mpr (hprod.trans (le_abs_self _))

/-- The gains: a position moves by its own measurement only. -/
theorem Tracks.K (h : f.Tracks lat lng) (accuracy : R) :
    f.K accuracy = ![![lat.gain (rLat accuracy), 0], ![0, lng.gain (f.rLng accuracy)],
      ![lat.cross / (lat.pos + rLat accuracy), 0],
      ![0, lng.cross / (lng.pos + f.rLng accuracy)]] := by
  have hLat : lat.pos + rLat accuracy ≠ 0 := (lat.sum_pos (rLat_pos accuracy)).ne'
  have hLng : lng.pos + f.rLng accuracy ≠ 0 := (lng.sum_pos (rLng_pos accuracy)).ne'
  funext i j
  rcases fin_four i with rfl | rfl | rfl | rfl <;>
    rcases Fin.exists_fin_two.mp ⟨j, rfl⟩ with rfl | rfl <;>
    simp [-Matrix.cons_val, Matrix.cons_val_two, Matrix.cons_val_three, KalmanFilter.K, invS, h.detS,
      S, h.P, blocks, Covariance.gain] <;> field_simp

theorem Tracks.update (h : f.Tracks lat lng) (z w accuracy : R) :
    (f.update z w accuracy).Tracks (lat.observe (rLat accuracy) (rLat_pos accuracy))
      (lng.observe (f.rLng accuracy) (rLng_pos accuracy)) := by
  have hLat : lat.pos + rLat accuracy ≠ 0 := (lat.sum_pos (rLat_pos accuracy)).ne'
  have hLng : lng.pos + f.rLng accuracy ≠ 0 := (lng.sum_pos (rLng_pos accuracy)).ne'
  rw [KalmanFilter.update, if_neg (h.not_singular accuracy)]
  refine ⟨?_, h.dt⟩
  dsimp only
  rw [h.K, h.P]
  funext i j
  rcases fin_four i with rfl | rfl | rfl | rfl <;> rcases fin_four j with rfl | rfl | rfl | rfl <;>
    simp [-Matrix.cons_val, Matrix.cons_val_two, Matrix.cons_val_three, mult44_apply, sub44, blocks,
      Covariance.observe, Covariance.gain] <;> field_simp <;> ring

/-! ## What the filter promises -/

/-- The covariance is symmetric and positive semidefinite and does not couple the coordinates; the
guard of `update` does not fire, and each coordinate goes to a place between where it is and where
it is measured. -/
structure Sound (f : KalmanFilter R) : Prop where
  symmetric : ∀ i j, f.P i j = f.P j i
  decoupled : ∀ i j : Fin 4, i.val % 2 ≠ j.val % 2 → f.P i j = 0
  semidefinite : ∀ v : Fin 4 → R, 0 ≤ ∑ i, ∑ j, v i * f.P i j * v j
  regular : ∀ accuracy, ¬ f.Singular accuracy
  between : ∀ lat lng accuracy, (f.update lat lng accuracy).x 0 ∈ Set.uIcc (f.x 0) lat ∧
    (f.update lat lng accuracy).x 1 ∈ Set.uIcc (f.x 1) lng

/-- The correction of a coordinate is its gain times the way to its measurement. -/
theorem Tracks.update_x (h : f.Tracks lat lng) (z w accuracy : R) :
    (f.update z w accuracy).x 0 = f.x 0 + lat.gain (rLat accuracy) * (z - f.x 0) ∧
      (f.update z w accuracy).x 1 = f.x 1 + lng.gain (f.rLng accuracy) * (w - f.x 1) := by
  rw [KalmanFilter.update, if_neg (h.not_singular accuracy)]
  dsimp only
  rw [h.K]
  constructor
  · show f.x 0 + (lat.gain (rLat accuracy) * (z - f.x 0) + 0 * (w - f.x 1)) = _
    rw [zero_mul, add_zero]
  · show f.x 1 + (0 * (z - f.x 0) + lng.gain (f.rLng accuracy) * (w - f.x 1)) = _
    rw [zero_mul, zero_add]

theorem Tracks.sound (h : f.Tracks lat lng) : f.Sound where
  symmetric i j := by
    rw [h.P]
    exact blocks_symm lat lng i j
  decoupled i j hij := by
    rw [h.P]
    exact blocks_decoupled lat lng i j hij
  semidefinite v := by
    rw [h.P, blocks_form]
    exact add_nonneg (lat.form_nonneg _ _) (lng.form_nonneg _ _)
  regular accuracy := h.not_singular accuracy
  between z w accuracy := by
    obtain ⟨hLat, hLng⟩ := h.update_x z w accuracy
    rw [hLat, hLng]
    exact ⟨Covariance.mem_uIcc_of_gain (lat.gain_nonneg (rLat_pos accuracy))
        (lat.gain_le_one (rLat_pos accuracy)) _ _,
      Covariance.mem_uIcc_of_gain (lng.gain_nonneg (rLng_pos accuracy))
        (lng.gain_le_one (rLng_pos accuracy)) _ _⟩

/-- Step lemma. -/
theorem tracks_step (h : ∃ lat lng, f.Tracks lat lng) (call : FilterCall R) :
    ∃ lat lng, (f.step call).Tracks lat lng := by
  obtain ⟨lat, lng, h⟩ := h
  cases call with
  | predict now => exact ⟨_, _, h.predict now⟩
  | update z w accuracy => exact ⟨_, _, h.update z w accuracy⟩
  | reset z w => exact ⟨_, _, h.reset z w⟩

/-- **Whatever a filter is called with, its covariance stays symmetric, positive semidefinite and
decoupled, `update` corrects, and corrects to a place in between.** -/
theorem filter_sound (initialLat initialLng accuracy : R) (calls : List (FilterCall R)) :
    (calls.foldl step (new initialLat initialLng accuracy)).Sound := by
  have hrun := Run.of_foldl step calls (new initialLat initialLng accuracy)
  obtain ⟨lat, lng, h⟩ := hrun.invariant (I := fun f => ∃ lat lng, f.Tracks lat lng) (by
    rintro f call g h rfl
    exact tracks_step h call) (tracks_new initialLat initialLng accuracy)
  exact h.sound

/-- Two fixes near Antananarivo, five seconds apart, and a reset. -/
theorem filter_sound_sample :
    ([.predict 0, .update (-18879 / 1000) (47508 / 1000) 12, .predict 5000,
      .update (-18878 / 1000) (47509 / 1000) 8, .reset (-18) 47].foldl step
        (new (-1888 / 100) (4751 / 100) 20) : KalmanFilter ℚ).Sound :=
  filter_sound (-1888 / 100) (4751 / 100) 20 _

end KalmanFilter

end Calls

end DeliveryTracking.Geo
