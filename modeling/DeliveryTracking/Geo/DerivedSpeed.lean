/-
# `DeliveryTracking.Geo.DerivedSpeed` — no speed without a displacement

`resolveGroundSpeed` answers one of four speeds (`SpeedOrigin`):

    zero
    the reported one        from the stationary floor on
    over the window         the vehicle left the noise around the window reference
    since the last fix      it reached the noise gate of the last fix

A displacement of exactly the noise gate counts as one from the last fix
(`resolveGroundSpeed_at_gate`), and does not from the window reference.
-/
import DeliveryTracking.Geo.GroundSpeed
import DeliveryTracking.Geo.RealMath

namespace DeliveryTracking.Geo

variable {R : Type} [Field R] [LinearOrder R] [JsMath R]

/-! ## The origin of a speed -/

/-- The noise gate between a reference and a fix. -/
def GroundSpeedRef.gate (p q : GroundSpeedRef R) : R := combinedGpsNoiseGate p.accuracy q.accuracy

/-- The speed of the displacement from a reference to the fix, on a clock that is trusted and
over an interval in the band. -/
structure DisplacementSpeed (input : ResolveGroundSpeedInput R) (reference : GroundSpeedRef R)
    (minDt : Int) (speed : R) : Prop where
  clock : input.currentTimestampIsServerFallback = false
  band : minDt ≤ input.current.timestamp - reference.timestamp ∧
    input.current.timestamp - reference.timestamp ≤ groundSpeedMaxDt
  speed : speed = reference.distance input.current /
    secs (input.current.timestamp - reference.timestamp)

/-- Where the speed of a fix comes from. -/
inductive SpeedOrigin (input : ResolveGroundSpeedInput R) : R → Prop
  | zero : SpeedOrigin input 0
  | reported {s : R} (h : input.reportedSpeedMs = some s) (hfloor : stationarySpeedMs ≤ s) :
      SpeedOrigin input s
  | window {w : GroundSpeedRef R} {s : R} (h : input.windowPrevious = some w)
      (hspeed : DisplacementSpeed input w speedWindowMin s)
      (hgate : w.gate input.current < w.distance input.current) (hfloor : stationarySpeedMs ≤ s) :
      SpeedOrigin input s
  | previous {p : GroundSpeedRef R} {s : R} (h : input.previous = some p)
      (hspeed : DisplacementSpeed input p groundSpeedMinDt s)
      (hgate : p.gate input.current ≤ p.distance input.current) (hfloor : stationarySpeedMs ≤ s) :
      SpeedOrigin input s

theorem windowSpeed_origin {input : ResolveGroundSpeedInput R} {s : R}
    (h : windowSpeed input = some s) : SpeedOrigin input s ∧ stationarySpeedMs ≤ s := by
  simp only [windowSpeed] at h
  cases hwindow : input.windowPrevious with
  | none =>
    rw [hwindow] at h
    cases h
  | some w =>
    rw [hwindow] at h
    simp only [Option.ite_none_right_eq_some, Option.some.injEq] at h
    obtain ⟨⟨hclock, hmin, hmax, hgate, hfloor, -, -⟩, rfl⟩ := h
    exact ⟨.window hwindow ⟨hclock, ⟨hmin, hmax⟩, rfl⟩ hgate hfloor, hfloor⟩

omit [JsMath R] in
/-- The speed a device reports, if it is positive. -/
theorem reported_eq_some {reportedSpeedMs : Option R} {s : R}
    (h : (match reportedSpeedMs with
      | some s => if 0 < s then some s else none
      | none => none) = some s) : reportedSpeedMs = some s := by
  cases reportedSpeedMs with
  | none => cases h
  | some s' =>
    simp only [Option.ite_none_right_eq_some] at h
    exact h.2

section Ordered

variable [IsStrictOrderedRing R]

omit [JsMath R] in
theorem stationary_le_reliable : (stationarySpeedMs : R) ≤ reliableReportedSpeedMs := by
  rw [stationarySpeedMs, reliableReportedSpeedMs]
  norm_num

theorem resolveGroundSpeed_origin (input : ResolveGroundSpeedInput R) :
    SpeedOrigin input (resolveGroundSpeed input).speedMs := by
  simp only [resolveGroundSpeed]
  split
  · rename_i s hreported
    have hreported := reported_eq_some hreported
    split
    · -- noise between the last fixes, and a displacement over the window
      rename_i w _ hwindow
      obtain ⟨horigin, hfloor⟩ := windowSpeed_origin hwindow
      obtain hle | hle := le_total w s
      · rw [max_eq_left hle]
        exact .reported hreported (hfloor.trans hle)
      · rw [max_eq_right hle]
        exact horigin
    · split_ifs with hreliable
      · exact .reported hreported (stationary_le_reliable.trans hreliable.1)
      · exact .zero
    · split_ifs with hslow
      · exact .zero
      · exact .reported hreported (not_lt.mp hslow)
  · split_ifs with hwindow hpair hslow
    · obtain ⟨s, hs⟩ := Option.isSome_iff_exists.mp hwindow.1
      rw [hs, Option.getD_some]
      exact (windowSpeed_origin hs).1
    · exact .zero
    · simp only [decide_eq_true_eq] at hpair
      obtain ⟨⟨hsome, hclock, -⟩, hmin, hmax, hgate, -⟩ := hpair
      obtain ⟨p, hp⟩ := Option.isSome_iff_exists.mp hsome
      simp only [hp] at hmin hmax hgate hslow ⊢
      exact .previous hp ⟨hclock, ⟨hmin, hmax⟩, rfl⟩ hgate (not_lt.mp hslow)
    · exact .zero
    · exact .zero

omit [JsMath R] in
theorem stationarySpeedMs_pos : (0 : R) < stationarySpeedMs := by
  rw [stationarySpeedMs]
  norm_num

theorem SpeedOrigin.nonneg {input : ResolveGroundSpeedInput R} {s : R} (h : SpeedOrigin input s) :
    0 ≤ s := by
  cases h with
  | zero => exact le_rfl
  | reported _ hfloor => exact stationarySpeedMs_pos.le.trans hfloor
  | window _ _ _ hfloor => exact stationarySpeedMs_pos.le.trans hfloor
  | previous _ _ _ hfloor => exact stationarySpeedMs_pos.le.trans hfloor

/-- No speed is fabricated: it is not negative; a positive one is reported, or that of a
displacement beyond the noise of the window reference, or out to the noise gate of the last
fix, on a trusted clock and within the band; a fix nearer to both that reports less than the
stationary floor does not move. -/
theorem resolveGroundSpeed_displaced (input : ResolveGroundSpeedInput R) :
    0 ≤ (resolveGroundSpeed input).speedMs ∧
      (0 < (resolveGroundSpeed input).speedMs →
        input.reportedSpeedMs = some (resolveGroundSpeed input).speedMs ∨
        (∃ w, input.windowPrevious = some w ∧
          DisplacementSpeed input w speedWindowMin (resolveGroundSpeed input).speedMs ∧
          w.gate input.current < w.distance input.current) ∨
        ∃ p, input.previous = some p ∧
          DisplacementSpeed input p groundSpeedMinDt (resolveGroundSpeed input).speedMs ∧
          p.gate input.current ≤ p.distance input.current) ∧
      ((∀ p, input.previous = some p → p.distance input.current < p.gate input.current) →
        (∀ w, input.windowPrevious = some w → w.distance input.current ≤ w.gate input.current) →
        (∀ s, input.reportedSpeedMs = some s → s < stationarySpeedMs) →
        (resolveGroundSpeed input).speedMs = 0) := by
  have horigin := resolveGroundSpeed_origin input
  refine ⟨horigin.nonneg, fun hpos => ?_, fun hprevious hwindow hreported => ?_⟩
  · generalize (resolveGroundSpeed input).speedMs = s at horigin hpos ⊢
    cases horigin with
    | zero => exact absurd hpos (lt_irrefl 0)
    | reported h _ => exact .inl h
    | window h hspeed hgate _ => exact .inr (.inl ⟨_, h, hspeed, hgate⟩)
    | previous h hspeed hgate _ => exact .inr (.inr ⟨_, h, hspeed, hgate⟩)
  · generalize (resolveGroundSpeed input).speedMs = s at horigin ⊢
    cases horigin with
    | zero => rfl
    | reported h hfloor => exact absurd (hreported _ h) (not_lt.mpr hfloor)
    | window h _ hgate _ => exact absurd hgate (not_lt.mpr (hwindow _ h))
    | previous h _ hgate _ => exact absurd (hprevious _ h) (not_lt.mpr hgate)

end Ordered

/-- A parked vehicle that reports 0.2 m/s, its last fix and its window reference at its place. -/
def phantom : ResolveGroundSpeedInput ℚ where
  reportedSpeedMs := some (1 / 5)
  previous := some ⟨-18, 47, 15000, some 5⟩
  current := ⟨-18, 47, 20000, some 5⟩
  currentTimestampIsServerFallback := false
  windowPrevious := some ⟨-18, 47, 0, some 5⟩

theorem resolveGroundSpeed_displaced_phantom : (resolveGroundSpeed phantom).speedMs = 0 := by
  refine (resolveGroundSpeed_displaced phantom).2.2 (fun p hp => ?_) (fun w hw => ?_)
    fun s hs => ?_
  · obtain rfl := Option.some.inj hp
    decide +kernel
  · obtain rfl := Option.some.inj hw
    decide +kernel
  · obtain rfl := Option.some.inj hs
    decide +kernel

/-! ## Exactly at the gate -/

/-- Without a reported speed and without a window reference, a displacement out to the gate
gives the speed. -/
theorem resolveGroundSpeed_pair {input : ResolveGroundSpeedInput R} {p : GroundSpeedRef R} {s : R}
    (hreported : input.reportedSpeedMs = none) (hwindow : input.windowPrevious = none)
    (hp : input.previous = some p) (hspeed : DisplacementSpeed input p groundSpeedMinDt s)
    (hgate : p.gate input.current ≤ p.distance input.current)
    (htrusted : isAccuracyTrustworthy p.accuracy ∧ isAccuracyTrustworthy input.current.accuracy)
    (hfloor : stationarySpeedMs ≤ s) : (resolveGroundSpeed input).speedMs = s := by
  obtain ⟨hclock, ⟨hmin, hmax⟩, rfl⟩ := hspeed
  have hpositive : 0 < input.current.timestamp - p.timestamp := lt_of_lt_of_le (by decide) hmin
  rw [GroundSpeedRef.gate] at hgate
  simp only [resolveGroundSpeed, windowSpeed, hreported, hwindow, hp, Option.bind_some]
  rw [if_neg (by simp), if_pos ⟨decide_eq_true ⟨rfl, hclock, hpositive⟩, hmin, hmax, hgate, htrusted⟩,
    if_neg (not_lt.mpr hfloor)]

/-- Four metres north of the last fix a second later; both announce an accuracy of 1 m. -/
noncomputable def fourMetres : ResolveGroundSpeedInput ℝ where
  reportedSpeedMs := none
  previous := some ⟨0, 0, 0, some 1⟩
  current := ⟨720 / (6371000 * Real.pi), 0, 1000, some 1⟩
  currentTimestampIsServerFallback := false
  windowPrevious := none

theorem fourMetres_distance :
    GroundSpeedRef.distance ⟨0, 0, 0, some 1⟩ fourMetres.current = 4 := by
  have hpi := Real.two_le_pi
  have hlat : haversineDistance 0 0 (720 / (6371000 * Real.pi)) 0 =
      6371000 * toRad (720 / (6371000 * Real.pi)) := by
    refine haversineDistance_meridian (by positivity) ?_
    rw [div_le_iff₀ (by positivity)]
    linarith
  have hrad : (toRad (720 / (6371000 * Real.pi)) : ℝ) =
      720 / (6371000 * Real.pi) * Real.pi / 180 := rfl
  rw [GroundSpeedRef.distance]
  refine hlat.trans ?_
  rw [hrad]
  field_simp
  norm_num

theorem fourMetres_gate : (combinedGpsNoiseGate (some 1) (some 1) : ℝ) = 4 := by
  have hhypot : (JsMath.hypot (accuracyOrFallback (some 1)) (accuracyOrFallback (some 1)) : ℝ) =
      √2 := by
    have hone : (accuracyOrFallback (some 1) : ℝ) = 1 := by simp [accuracyOrFallback]
    rw [hone]
    show √(1 ^ 2 + 1 ^ 2) = √2
    norm_num
  rw [combinedGpsNoiseGate, hhypot]
  show max 4 (2 * √2 / √2) = (4 : ℝ)
  rw [mul_div_assoc, div_self (by positivity)]
  norm_num

/-- The displacement is the noise gate and not more, and a speed of 4 m/s is derived from it. -/
theorem resolveGroundSpeed_at_gate :
    ¬ (0 < (resolveGroundSpeed fourMetres).speedMs →
      fourMetres.reportedSpeedMs = some (resolveGroundSpeed fourMetres).speedMs ∨
      (∃ w, fourMetres.windowPrevious = some w ∧
        DisplacementSpeed fourMetres w speedWindowMin (resolveGroundSpeed fourMetres).speedMs ∧
        w.gate fourMetres.current < w.distance fourMetres.current) ∨
      ∃ p, fourMetres.previous = some p ∧
        DisplacementSpeed fourMetres p groundSpeedMinDt (resolveGroundSpeed fourMetres).speedMs ∧
        p.gate fourMetres.current < p.distance fourMetres.current) := by
  have hmoved := fourMetres_distance
  have hspeed : (resolveGroundSpeed fourMetres).speedMs = 4 := by
    refine resolveGroundSpeed_pair rfl rfl rfl ⟨rfl, ⟨by decide, by decide⟩, ?_⟩ ?_ ?_ ?_
    · rw [hmoved]
      show (4 : ℝ) = 4 / secs (1000 - 0)
      norm_num [secs]
    · rw [hmoved]
      exact fourMetres_gate.le
    · have htrusted : isAccuracyTrustworthy (some 1 : Option ℝ) = true := by
        simp [isAccuracyTrustworthy, movementTrustMaxAccuracyM]
      exact ⟨htrusted, htrusted⟩
    · norm_num [stationarySpeedMs]
  rw [hspeed]
  intro h
  obtain h | ⟨w, h, -⟩ | ⟨p, h, -, hgate⟩ := h (by norm_num)
  · cases h
  · cases h
  · obtain rfl := Option.some.inj h
    rw [GroundSpeedRef.gate, hmoved] at hgate
    exact absurd (hgate.trans_eq fourMetres_gate.symm) (lt_irrefl _)

end DeliveryTracking.Geo
