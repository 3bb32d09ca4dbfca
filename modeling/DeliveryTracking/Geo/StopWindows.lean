/-
# `DeliveryTracking.Geo.StopWindows` — what a window of a track is

A window holds a fix and the fixes gathered after it: no gap, no trusted moving
fix, each near the mean of those before it (`Gathered`), up to the first that does
not fit, for a minute at least.  The fix it starts at is never tested for a speed.
It is a moving one exactly where a trusted moving fix starts such a group
(`detectStopWindows_sound_iff`): no earlier group takes it, so a block starts at it.
-/
import Mathlib.Data.List.Chain
import DeliveryTracking.Geo.Stops

namespace DeliveryTracking.Geo

variable {R : Type} [Field R] [LinearOrder R]

/-! ## Gathered fixes -/

/-- The mean of a coordinate. -/
def mean (coordinate : StopFix R → R) (fixes : List (StopFix R)) : R :=
  (fixes.map coordinate).sum / fixes.length

/-- Fixes that make a group, whatever the first one is. -/
structure Gathered (distance : R → R → R → R → R) (fixes : List (StopFix R)) : Prop where
  dense : fixes.IsChain fun p q => q.time - p.time ≤ stationaryMaxSampleGap
  still : ∀ p ∈ fixes.tail, p.movingHere = false
  near : ∀ before p, before ++ [p] <+: fixes → before ≠ [] →
    distance (mean StopFix.latitude before) (mean StopFix.longitude before) p.latitude
      p.longitude ≤ stopClusterRadiusM

variable {distance : R → R → R → R → R}

/-- A fix that fits the group after its last fix. -/
def Fits (distance : R → R → R → R → R) (fixes : List (StopFix R)) (last f : StopFix R) : Prop :=
  f.time - last.time ≤ stationaryMaxSampleGap ∧ f.movingHere = false ∧
    distance (mean StopFix.latitude fixes) (mean StopFix.longitude fixes) f.latitude f.longitude ≤
      stopClusterRadiusM

theorem gathered_singleton (f : StopFix R) : Gathered distance [f] where
  dense := List.isChain_singleton f
  still p hp := by cases hp
  near before p hbegins hbefore := by
    have hlength := hbegins.length_le
    rw [List.length_append, List.length_singleton, List.length_singleton] at hlength
    exact absurd (List.eq_nil_of_length_eq_zero (by omega)) hbefore

theorem gathered_concat {fixes : List (StopFix R)} {last f : StopFix R}
    (hlast : fixes.getLast? = some last) :
    Gathered distance (fixes ++ [f]) ↔ Gathered distance fixes ∧ Fits distance fixes last f := by
  have hne : fixes ≠ [] := by
    rintro rfl
    cases hlast
  constructor
  · intro h
    obtain ⟨hdense, -, hgap⟩ := List.isChain_append.mp h.dense
    refine ⟨⟨hdense, fun p hp => h.still p ?_, fun before p hbegins hbefore =>
      h.near before p (hbegins.trans (List.prefix_append _ _)) hbefore⟩, ?_, h.still f ?_, ?_⟩
    · rw [List.tail_append_of_ne_nil hne]
      exact List.mem_append_left _ hp
    · exact hgap last hlast f rfl
    · rw [List.tail_append_of_ne_nil hne]
      exact List.mem_append_right _ (List.mem_singleton_self f)
    · exact h.near fixes f (List.prefix_refl _) hne
  · rintro ⟨h, hgap, hmoving, hnear⟩
    refine ⟨List.isChain_append.mpr ⟨h.dense, List.isChain_singleton f, ?_⟩, fun p hp => ?_,
      fun before p hbegins hbefore => ?_⟩
    · rintro p hp q hq
      obtain rfl := Option.some.inj (hlast.symm.trans hp)
      obtain rfl := Option.some.inj hq
      exact hgap
    · rw [List.tail_append_of_ne_nil hne] at hp
      obtain hp | hp := List.mem_append.mp hp
      · exact h.still p hp
      · rw [List.mem_singleton.mp hp]
        exact hmoving
    · obtain heq | hbegins := List.prefix_concat_iff.mp hbegins
      · obtain ⟨rfl, hp⟩ := List.append_inj' heq rfl
        obtain rfl := List.singleton_inj.mp hp
        exact hnear
      · exact h.near before p hbegins hbefore

theorem Gathered.of_append {fixes after : List (StopFix R)} (h : Gathered distance (fixes ++ after)) :
    Gathered distance fixes where
  dense := h.dense.left_of_append
  still p hp := h.still p (by
    cases fixes with
    | nil => cases hp
    | cons f fixes => exact List.mem_append_left _ hp)
  near before p hbegins := h.near before p (hbegins.trans (List.prefix_append _ _))

/-! ## Groups as lists of fixes -/

/-- The group that holds some fixes. -/
structure StopGroup.Of (fixes : List (StopFix R)) (g : StopGroup R) : Prop where
  first : fixes.head? = some g.first
  last : fixes.getLast? = some g.last
  count : g.count = fixes.length
  cLat : g.cLat = mean StopFix.latitude fixes
  cLng : g.cLng = mean StopFix.longitude fixes

theorem StopGroup.of_start (f : StopFix R) : StopGroup.Of [f] ((stopGroups distance).start f) where
  first := rfl
  last := rfl
  count := rfl
  cLat := by simp [stopGroups, mean]
  cLng := by simp [stopGroups, mean]

/-- A group takes a fix exactly if it fits. -/
theorem StopGroup.Of.grow_eq_none_iff {fixes : List (StopFix R)} {g : StopGroup R} {f : StopFix R}
    (h : g.Of fixes) : g.grow distance f = none ↔ ¬ Fits distance fixes g.last f := by
  rw [StopGroup.grow_eq_none_iff, h.cLat, h.cLng, Fits, not_and_or, not_and_or, not_le, not_le,
    Bool.not_eq_false]

section Mean

variable [IsStrictOrderedRing R]

/-- The running mean is the mean. -/
theorem mean_concat (coordinate : StopFix R → R) {fixes : List (StopFix R)} (f : StopFix R)
    (h : fixes ≠ []) :
    (mean coordinate fixes * fixes.length + coordinate f) / (fixes.length + 1) =
      mean coordinate (fixes ++ [f]) := by
  have hlength : (fixes.length : R) ≠ 0 := by
    exact_mod_cast List.length_pos_iff.mpr h |>.ne'
  rw [mean, mean, div_mul_cancel₀ _ hlength, List.map_append, List.sum_append, List.length_append]
  simp

theorem StopGroup.Of.grow {fixes : List (StopFix R)} {g g' : StopGroup R} {f : StopFix R}
    (h : g.Of fixes) (hgrow : g.grow distance f = some g') : g'.Of (fixes ++ [f]) := by
  have hne : fixes ≠ [] := by
    rintro rfl
    cases h.first
  obtain ⟨-, -, -, rfl⟩ := StopGroup.grow_eq_some hgrow
  refine ⟨?_, List.getLast?_concat, ?_, ?_, ?_⟩
  · rw [List.head?_append_of_ne_nil _ hne]
    exact h.first
  · simp only [List.length_append, List.length_singleton, h.count]
  · simp only [h.cLat, h.count]
    exact mean_concat _ f hne
  · simp only [h.cLng, h.count]
    exact mean_concat _ f hne

/-- A group grown over fixes holds them, and they are gathered. -/
theorem StopGroup.Of.of_grows {g g' : StopGroup R} {stretch : List (StopFix R)}
    (hgrows : (stopGroups distance).Grows g stretch g') : ∀ {fixes : List (StopFix R)},
      g.Of fixes → Gathered distance fixes →
        g'.Of (fixes ++ stretch) ∧ Gathered distance (fixes ++ stretch) := by
  induction hgrows with
  | nil =>
    intro fixes h hgathered
    rw [List.append_nil]
    exact ⟨h, hgathered⟩
  | @cons g g₁ g₂ f stretch hgrow _ ih =>
    intro fixes h hgathered
    have hgrow' : g.grow distance f = some g₁ := hgrow
    have hfits : Fits distance fixes g.last f := by
      by_contra hfits
      rw [h.grow_eq_none_iff.mpr hfits] at hgrow'
      cases hgrow'
    rw [List.append_cons]
    exact ih (h.grow hgrow') ((gathered_concat h.last).mpr ⟨hgathered, hfits⟩)

/-- Over gathered fixes a group grows. -/
theorem StopGroup.Of.grows : ∀ {stretch fixes : List (StopFix R)} {g : StopGroup R}, g.Of fixes →
    Gathered distance (fixes ++ stretch) → ∃ g', (stopGroups distance).Grows g stretch g'
  | [], _, g, _, _ => ⟨g, .nil⟩
  | f :: stretch, fixes, g, h, hgathered => by
      rw [List.append_cons] at hgathered
      obtain ⟨-, hfits⟩ := (gathered_concat h.last).mp hgathered.of_append
      cases hgrow : g.grow distance f with
      | none => exact absurd hfits (h.grow_eq_none_iff.mp hgrow)
      | some g₁ =>
        obtain ⟨g', hrest⟩ := StopGroup.Of.grows (h.grow hgrow) hgathered
        exact ⟨g', .cons hgrow hrest⟩

end Mean

/-! ## The windows -/

/-- The fixes of a window. -/
def StopWindow.members (positions : List (StopFix R)) (w : StopWindow R) : List (StopFix R) :=
  (positions.drop w.startIndex).take (w.endIndex + 1 - w.startIndex)

/-- What a stop is meant to be: a minute of fixes of the track, sampled without a gap, each near
the centre of those before it, none of them a trusted moving one. -/
structure StopWindow.Sound (distance : R → R → R → R → R) (positions : List (StopFix R))
    (w : StopWindow R) : Prop where
  inside : w.startIndex ≤ w.endIndex ∧ w.endIndex < positions.length
  lasts : ∀ first last, (w.members positions).head? = some first →
    (w.members positions).getLast? = some last → stopClusterMinDuration ≤ last.time - first.time
  dense : (w.members positions).IsChain fun p q => q.time - p.time ≤ stationaryMaxSampleGap
  near : ∀ before p, before ++ [p] <+: w.members positions → before ≠ [] →
    distance (mean StopFix.latitude before) (mean StopFix.longitude before) p.latitude
      p.longitude ≤ stopClusterRadiusM
  still : ∀ p ∈ w.members positions, p.movingHere = false

/-- A window that starts after some fixes: a group that is kept, grown over the fixes after its
first up to one it does not take. -/
structure StopWindow.Spans (distance : R → R → R → R → R) (w : StopWindow R) (start : Nat)
    (first : StopFix R) (stretch after : List (StopFix R)) (g : StopGroup R) : Prop where
  grows : (stopGroups distance).Grows ((stopGroups distance).start first) stretch g
  keeps : (stopGroups distance).keeps g = true
  ends : ∀ next, after.head? = some next → g.grow distance next = none
  startIndex : w.startIndex = start
  endIndex : w.endIndex = start + stretch.length

theorem mem_windowsFrom {fixes : List (StopFix R)} {blocks : List (Block (StopFix R) (StopGroup R))}
    (hcut : (stopGroups distance).Cut fixes blocks) : ∀ {i : Nat} {w : StopWindow R},
      w ∈ windowsFrom i blocks → ∃ before first stretch after g,
        fixes = before ++ first :: (stretch ++ after) ∧
          w.Spans distance (i + before.length) first stretch after g := by
  induction hcut with
  | nil =>
    intro i w hw
    cases hw
  | @single a as bs _ _ ih =>
    intro i w hw
    obtain ⟨before, first, stretch, after, g, rfl, hspans⟩ := ih hw
    refine ⟨a :: before, first, stretch, after, g, rfl, ?_⟩
    rw [List.length_cons, Nat.add_comm before.length, ← Nat.add_assoc]
    exact hspans
  | @group a as bs hkeeps _ ih =>
    intro i w hw
    set r := (stopGroups distance).run ((stopGroups distance).start a) as
    have htake : (as.take r.2).length = r.2 :=
      List.length_take_of_le (Clustering.run_le as _)
    obtain rfl | hw := List.mem_cons.mp hw
    · refine ⟨[], a, as.take r.2, as.drop r.2, r.1, ?_, Clustering.grows_run as _, hkeeps,
        fun next hnext => ?_, rfl, ?_⟩
      · rw [List.take_append_drop, List.nil_append]
      · obtain ⟨rest, hrest⟩ := List.head?_eq_some_iff.mp hnext
        exact Clustering.grow_after_run hrest
      · rw [htake, List.length_nil, Nat.add_zero]
    · obtain ⟨before, first, stretch, after, g, hdrop, hspans⟩ := ih hw
      refine ⟨a :: (as.take r.2 ++ before), first, stretch, after, g, ?_, ?_⟩
      · rw [List.cons_append, List.append_assoc, ← hdrop, List.take_append_drop]
      · have hlength : i + (a :: (as.take r.2 ++ before)).length = i + r.2 + 1 + before.length := by
          rw [List.length_cons, List.length_append, htake]
          omega
        rw [hlength]
        exact hspans

omit [LinearOrder R] in
theorem le_of_mem_windowsFrom : ∀ {blocks : List (Block (StopFix R) (StopGroup R))} {i : Nat}
    {w : StopWindow R}, w ∈ windowsFrom i blocks → i ≤ w.startIndex
  | [], _, _, hw => by cases hw
  | .single _ :: _, _, _, hw => Nat.le_of_succ_le (le_of_mem_windowsFrom hw)
  | .group _ more :: _, i, _, hw => by
      obtain rfl | hw := List.mem_cons.mp hw
      · exact le_rfl
      · have hle := le_of_mem_windowsFrom hw
        omega

omit [LinearOrder R] in
/-- A window ends before the next one starts. -/
theorem windowsFrom_disjoint : ∀ (blocks : List (Block (StopFix R) (StopGroup R))) (i : Nat),
    (windowsFrom i blocks).Pairwise fun w w' => w.endIndex < w'.startIndex
  | [], _ => List.Pairwise.nil
  | .single _ :: blocks, i => windowsFrom_disjoint blocks (i + 1)
  | .group _ more :: blocks, i =>
      List.pairwise_cons.mpr ⟨fun _ hw => le_of_mem_windowsFrom hw,
        windowsFrom_disjoint blocks (i + more + 1)⟩

omit [LinearOrder R] in
theorem windowsFrom_append : ∀ (blocks blocks' : List (Block (StopFix R) (StopGroup R))) (i : Nat),
    windowsFrom i (blocks ++ blocks') =
      windowsFrom i blocks ++ windowsFrom (i + (blocks.map Block.size).sum) blocks'
  | [], _, _ => rfl
  | .single _ :: blocks, blocks', i => by
      rw [List.cons_append, windowsFrom, windowsFrom, windowsFrom_append, List.map_cons,
        List.sum_cons, Block.size, Nat.add_assoc]
  | .group _ more :: blocks, blocks', i => by
      rw [List.cons_append, windowsFrom, windowsFrom, windowsFrom_append, List.map_cons,
        List.sum_cons, Block.size, List.cons_append, Nat.add_assoc i, Nat.add_assoc i]

/-! ## Where the windows are stops -/

section Sound

variable [IsStrictOrderedRing R] {positions before stretch after : List (StopFix R)}
  {first : StopFix R} {g : StopGroup R} {w : StopWindow R}

omit [IsStrictOrderedRing R] in
theorem StopWindow.Spans.members_eq
    (hpositions : positions = before ++ first :: (stretch ++ after))
    (h : w.Spans distance before.length first stretch after g) :
    w.members positions = first :: stretch := by
  have hcount : w.endIndex + 1 - w.startIndex = (first :: stretch).length := by
    rw [h.endIndex, h.startIndex, List.length_cons]
    omega
  rw [StopWindow.members, hcount, h.startIndex, hpositions, List.drop_left, ← List.cons_append,
    List.take_left]

theorem StopWindow.Spans.of (h : w.Spans distance before.length first stretch after g) :
    g.Of (first :: stretch) ∧ Gathered distance (first :: stretch) :=
  StopGroup.Of.of_grows h.grows (StopGroup.of_start first) (gathered_singleton first)

/-- A window is a stop exactly if the fix it starts at does not move. -/
theorem StopWindow.Spans.sound_iff
    (hpositions : positions = before ++ first :: (stretch ++ after))
    (h : w.Spans distance before.length first stretch after g) :
    w.Sound distance positions ↔ first.movingHere = false := by
  have hmembers := h.members_eq hpositions
  obtain ⟨hof, hgathered⟩ := h.of
  constructor
  · intro hsound
    refine hsound.still first ?_
    rw [hmembers]
    exact List.mem_cons_self ..
  · intro hfirst
    have hkeeps := h.keeps
    simp only [stopGroups, Bool.and_eq_true, decide_eq_true_eq] at hkeeps
    refine ⟨?_, ?_, ?_, ?_, ?_⟩
    · rw [h.startIndex, h.endIndex, hpositions, List.length_append, List.length_cons,
        List.length_append]
      omega
    · intro first' last' hfirst' hlast'
      rw [hmembers] at hfirst' hlast'
      obtain rfl := Option.some.inj (hfirst'.symm.trans hof.first)
      obtain rfl := Option.some.inj (hlast'.symm.trans hof.last)
      exact hkeeps.2
    · rw [hmembers]
      exact hgathered.dense
    · rw [hmembers]
      exact hgathered.near
    · intro p hp
      rw [hmembers] at hp
      obtain rfl | hp := List.mem_cons.mp hp
      · exact hfirst
      · exact hgathered.still p hp

/-- No trusted moving fix starts a stop: the fixes that gather after it, up to the first that
does not fit, last less than a stop. -/
def NoMovingStart (distance : R → R → R → R → R) (positions : List (StopFix R)) : Prop :=
  ∀ before first stretch after, positions = before ++ first :: (stretch ++ after) →
    first.movingHere = true → Gathered distance (first :: stretch) →
    (∀ next, after.head? = some next → ¬ Gathered distance (first :: stretch ++ [next])) →
    ∀ last, (first :: stretch).getLast? = some last →
      last.time - first.time < stopClusterMinDuration

/-- Where a moving fix starts a stop there is a window: no group before it takes it. -/
theorem exists_window_of_moving (hsearched : searched positions = true)
    (hpositions : positions = before ++ first :: (stretch ++ after))
    (hmoving : first.movingHere = true) (hgathered : Gathered distance (first :: stretch))
    (hends : ∀ next, after.head? = some next → ¬ Gathered distance (first :: stretch ++ [next]))
    {last : StopFix R} (hlast : (first :: stretch).getLast? = some last)
    (hlong : stopClusterMinDuration ≤ last.time - first.time) :
    ∃ w ∈ detectStopWindows distance positions, ∃ g,
      w.Spans distance before.length first stretch after g := by
  have hstart : StopGroup.Of [first] ((stopGroups distance).start first) := StopGroup.of_start first
  obtain ⟨g, hgrows⟩ := hstart.grows hgathered
  obtain ⟨hof, -⟩ := StopGroup.Of.of_grows hgrows hstart (gathered_singleton first)
  have hstop : ∀ next, after.head? = some next → g.grow distance next = none := fun next hnext =>
    hof.grow_eq_none_iff.mpr fun hfits =>
      hends next hnext ((gathered_concat hof.last).mpr ⟨hgathered, hfits⟩)
  have hrun := Clustering.run_of_grows hgrows hstop
  have hkeeps : (stopGroups distance).keeps g = true := by
    have hglast := Option.some.inj (hof.last.symm.trans hlast)
    have hgfirst := Option.some.inj hof.first
    -- alone, the fix would last no time
    have hcount : 1 < (first :: stretch).length := by
      cases stretch with
      | nil =>
        have hsame : first = last := Option.some.inj hlast
        rw [hsame, Int.sub_self] at hlong
        exact absurd hlong (by decide)
      | cons f stretch => simp
    simp only [stopGroups, Bool.and_eq_true, decide_eq_true_eq, hof.count, hglast, ← hgfirst]
    exact ⟨hcount, hlong⟩
  have hfree : ∀ h : StopGroup R, (stopGroups distance).grow h first = none := fun h =>
    StopGroup.grow_eq_none_iff.mpr (.inr (.inl hmoving))
  obtain ⟨bs₁, bs₂, hblocks, hsize, hcut⟩ :=
    (Clustering.cut_blocksFrom (C := stopGroups distance) positions 0).head hpositions hfree
  rw [detectStopWindows, if_pos hsearched, hblocks, windowsFrom_append, hsize, Nat.zero_add]
  cases hcut with
  | single hsingle _ =>
    rw [hrun, hkeeps] at hsingle
    cases hsingle
  | group _ _ =>
    rw [hrun]
    exact ⟨_, List.mem_append_right _ (List.mem_cons_self ..), g, hgrows, hkeeps, hstop, rfl, rfl⟩

/-- The windows come one after another, and they are stops exactly if no trusted moving fix
starts one. -/
theorem detectStopWindows_sound_iff (distance : R → R → R → R → R) (positions : List (StopFix R)) :
    (∀ w ∈ detectStopWindows distance positions, w.Sound distance positions) ∧
        (detectStopWindows distance positions).Pairwise (fun w w' => w.endIndex < w'.startIndex) ↔
      (searched positions = true → NoMovingStart distance positions) := by
  constructor
  · rintro ⟨hsound, -⟩ hsearched before first stretch after hpositions hmoving hgathered hends last
      hlast
    by_contra hlong
    obtain ⟨w, hw, g, hspans⟩ := exists_window_of_moving hsearched hpositions hmoving hgathered
      hends hlast (Int.not_lt.mp hlong)
    have hstill := (hspans.sound_iff hpositions).mp (hsound w hw)
    rw [hmoving] at hstill
    cases hstill
  · intro hnone
    cases hsearched : searched positions with
    | false =>
      have hnil : detectStopWindows distance positions = [] := by
        rw [detectStopWindows, hsearched]
        rfl
      rw [hnil]
      exact ⟨fun w hw => absurd hw List.not_mem_nil, List.Pairwise.nil⟩
    | true =>
      rw [detectStopWindows, if_pos hsearched]
      refine ⟨fun w hw => ?_, windowsFrom_disjoint _ _⟩
      obtain ⟨before, first, stretch, after, g, hpositions, hspans⟩ :=
        mem_windowsFrom (Clustering.cut_blocksFrom positions 0) hw
      rw [List.drop_zero] at hpositions
      rw [Nat.zero_add] at hspans
      refine (hspans.sound_iff hpositions).mpr (Bool.eq_false_iff.mpr fun hmoving => ?_)
      obtain ⟨hof, hgathered⟩ := hspans.of
      have hshort := hnone hsearched before first stretch after hpositions hmoving hgathered
        (fun next hnext hmore => (hof.grow_eq_none_iff.mp (hspans.ends next hnext))
          ((gathered_concat hof.last).mp hmore).2) g.last hof.last
      have hkeeps := hspans.keeps
      simp only [stopGroups, Bool.and_eq_true, decide_eq_true_eq] at hkeeps
      rw [Option.some.inj hof.first] at hshort
      omega

end Sound

/-! ## A window that starts at a moving fix -/

section Example

/-- A vehicle that drives at 5 m/s, and is parked 40 s and 80 s later. -/
def arrival : List (StopFix ℚ) := [parkedFix 0 5, parkedFix 40 0, parkedFix 80 0]

/-- The window of the stop starts at the fix that drives. -/
theorem arrival_not_sound :
    ¬ ((∀ w ∈ detectStopWindows haversineDistance arrival, w.Sound haversineDistance arrival) ∧
      (detectStopWindows haversineDistance arrival).Pairwise fun w w' =>
        w.endIndex < w'.startIndex) := by
  rintro ⟨hsound, -⟩
  have hwindows : detectStopWindows haversineDistance arrival = [⟨0, 2, -18, 47, 80⟩] := by
    decide +kernel
  have hstill := (hsound ⟨0, 2, -18, 47, 80⟩ (by simp [hwindows])).still (parkedFix 0 5)
    (by decide +kernel)
  exact absurd hstill (by decide +kernel)

/-- Two minutes at one place: no fix moves, and the window is a stop. -/
theorem detectStopWindows_sound_parked :
    (∀ w ∈ detectStopWindows haversineDistance parkedTrack,
        w.Sound haversineDistance parkedTrack) ∧
      (detectStopWindows haversineDistance parkedTrack).Pairwise fun w w' =>
        w.endIndex < w'.startIndex := by
  refine (detectStopWindows_sound_iff haversineDistance parkedTrack).mpr ?_
  intro _ before first stretch after hpositions hmoving
  have hmem : first ∈ parkedTrack := by
    rw [hpositions]
    exact List.mem_append_right _ (List.mem_cons_self ..)
  have hstill : ∀ p ∈ parkedTrack, p.movingHere = false := by decide +kernel
  rw [hstill first hmem] at hmoving
  cases hmoving

end Example

end DeliveryTracking.Geo
