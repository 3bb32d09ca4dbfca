/-
# `DeliveryTracking.Traccar.Quarantine` — a wake quarantine always ends

After a silence the fixes with few satellites are held back.  What one fix does to
the quarantine of its vehicle (`Woken`):

    reliable    it ends the quarantine
    rolling     no quarantine is open, and the last stored fix is recent
    opens       no quarantine is open, or a stale one: a new one starts at the fix
    released    the quarantine has lasted long enough
    held        it has not

`quarantineAfter` threads the quarantine through the fixes of a vehicle.  A fix that
is held back is less than `wakeQuarantineMax` after the start of its quarantine
(`quarantineAfter_ends`).  The bridge threads its map of quarantines the same way
(`handlePositions_wake`).
-/
import DeliveryTracking.Traccar.Live

namespace DeliveryTracking.Traccar

open Geo Tracking

variable {R : Type} [Field R] [LinearOrder R]

/-! ## One fix -/

/-- What `evaluateWakeFix` is given of a fix. -/
structure WakeFix (R : Type) where
  sat : Option R
  gapSincePrev : Option Int
  fixTime : Int

/-- The verdict on a fix, from the quarantine before it. -/
def WakeFix.verdict (f : WakeFix R) (q : Option WakeQuarantine) : WakeFixVerdict :=
  evaluateWakeFix f.sat f.gapSincePrev q f.fixTime

/-- An open quarantine that the time of a fix leaves too far behind. -/
def Stale (q : WakeQuarantine) (fixTime : Int) : Prop :=
  wakeQuarantineStale < fixTime - max q.lastMs q.sinceMs

/-- What a fix does to a quarantine. -/
inductive Woken (q : Option WakeQuarantine) (f : WakeFix R) : WakeFixVerdict → Prop
  | reliable (h : weakFix f.sat = false) : Woken q f ⟨false, none⟩
  | rolling (h : ∀ p, q = some p → Stale p f.fixTime) : Woken q f ⟨false, none⟩
  | opens (hweak : weakFix f.sat = true) (h : ∀ p, q = some p → Stale p f.fixTime) :
      Woken q f ⟨true, some ⟨f.fixTime, f.fixTime⟩⟩
  | released {p : WakeQuarantine} (h : q = some p) : Woken q f ⟨false, none⟩
  | held {p : WakeQuarantine} (hweak : weakFix f.sat = true) (h : q = some p)
      (htime : f.fixTime < p.sinceMs + wakeQuarantineMax) :
      Woken q f ⟨true, some ⟨p.sinceMs, max (max p.lastMs p.sinceMs) f.fixTime⟩⟩

theorem WakeFix.woken (f : WakeFix R) (q : Option WakeQuarantine) : Woken q f (f.verdict q) := by
  simp only [WakeFix.verdict, evaluateWakeFix]
  cases hweak : weakFix f.sat with
  | false => exact .reliable hweak
  | true =>
    rw [if_neg (by decide)]
    have hopens (h : ∀ p, q = some p → Stale p f.fixTime) : Woken q f
        (if f.gapSincePrev.all (wakeSilenceMin < ·) = true then
          ⟨true, some ⟨f.fixTime, f.fixTime⟩⟩ else ⟨false, none⟩) := by
      split
      · exact .opens hweak h
      · exact .rolling h
    cases q with
    | none => exact hopens fun p hp => by cases hp
    | some p =>
      dsimp only
      by_cases hstale : wakeQuarantineStale < f.fixTime - max p.lastMs p.sinceMs
      · rw [if_pos hstale]
        exact hopens fun p' hp' => Option.some.inj hp' ▸ hstale
      · rw [if_neg hstale]
        by_cases hmax : wakeQuarantineMax ≤ f.fixTime - p.sinceMs
        · rw [if_pos hmax]
          exact .released rfl
        · rw [if_neg hmax]
          exact .held hweak rfl (by omega)

/-- A reliable fix ends any quarantine. -/
theorem WakeFix.verdict_of_reliable {f : WakeFix R} (h : weakFix f.sat = false)
    (q : Option WakeQuarantine) : f.verdict q = ⟨false, none⟩ :=
  if_pos h

/-- A fix late enough ends the quarantine it goes on with. -/
theorem WakeFix.verdict_of_late {f : WakeFix R} {q : WakeQuarantine}
    (hstale : ¬ Stale q f.fixTime) (hlate : q.sinceMs + wakeQuarantineMax ≤ f.fixTime) :
    f.verdict (some q) = ⟨false, none⟩ := by
  have hwoken := f.woken (some q)
  generalize f.verdict (some q) = verdict at hwoken ⊢
  cases hwoken with
  | reliable => rfl
  | rolling => rfl
  | opens _ h => exact absurd (h q rfl) hstale
  | released => rfl
  | held _ h htime =>
    obtain rfl := Option.some.inj h
    omega

/-! ## A sequence of fixes -/

/-- The quarantine after some fixes, from the one before them. -/
def quarantineFrom (q : Option WakeQuarantine) (fixes : List (WakeFix R)) : Option WakeQuarantine :=
  fixes.foldl (fun q f => (f.verdict q).state) q

/-- The quarantine after the first fixes of a vehicle. -/
def quarantineAfter (fixes : List (WakeFix R)) : Option WakeQuarantine := quarantineFrom none fixes

theorem quarantineAfter_concat (fixes : List (WakeFix R)) (f : WakeFix R) :
    quarantineAfter (fixes ++ [f]) = (f.verdict (quarantineAfter fixes)).state := by
  rw [quarantineAfter, quarantineFrom, List.foldl_append]
  rfl

/-- An open quarantine dates from before its last fix, which is the last of all. -/
structure OpenAfter (fixes : List (WakeFix R)) (q : WakeQuarantine) : Prop where
  since_le_last : q.sinceMs ≤ q.lastMs
  last : ∃ f, fixes.getLast? = some f ∧ f.fixTime = q.lastMs

theorem openAfter_quarantineAfter {fixes : List (WakeFix R)}
    (horder : fixes.Pairwise fun f g => f.fixTime ≤ g.fixTime) :
    ∀ q, quarantineAfter fixes = some q → OpenAfter fixes q := by
  induction fixes using List.reverseRecOn with
  | nil =>
    intro q h
    cases h
  | append_singleton fixes f ih =>
    obtain ⟨hfixes, -, hlast⟩ := List.pairwise_append.mp horder
    intro q h
    rw [quarantineAfter_concat] at h
    have hwoken := f.woken (quarantineAfter fixes)
    generalize f.verdict (quarantineAfter fixes) = verdict at h hwoken
    cases hwoken with
    | reliable => cases h
    | rolling => cases h
    | released => cases h
    | opens =>
      obtain rfl := Option.some.inj h
      exact ⟨le_rfl, f, List.getLast?_concat, rfl⟩
    | @held p _ hopen _ =>
      obtain rfl := Option.some.inj h
      obtain ⟨hsince, g, hg, htime⟩ := ih hfixes p hopen
      -- the fix is not older than the last one held back
      have hle := hlast g (List.mem_of_getLast? hg) f (List.mem_singleton_self f)
      have hmax : max (max p.lastMs p.sinceMs) f.fixTime = f.fixTime := by omega
      refine ⟨?_, f, List.getLast?_concat, hmax.symm⟩
      show p.sinceMs ≤ max (max p.lastMs p.sinceMs) f.fixTime
      omega

/-- Fixes in time order, from no quarantine: an open quarantine starts before it was last
extended, a reliable fix closes it, and within an episode no fix is held back once the
quarantine has lasted its maximum; what is held back is always less than that after the start
of its quarantine. -/
theorem quarantineAfter_ends {fixes : List (WakeFix R)}
    (horder : fixes.Pairwise fun f g => f.fixTime ≤ g.fixTime) {before after : List (WakeFix R)}
    {f : WakeFix R} (hfixes : fixes = before ++ f :: after) :
    (∀ q, quarantineAfter (before ++ [f]) = some q → q.sinceMs ≤ q.lastMs) ∧
      (weakFix f.sat = false → quarantineAfter (before ++ [f]) = none) ∧
      (∀ q, quarantineAfter before = some q →
        (∀ p, before.getLast? = some p → f.fixTime - p.fixTime ≤ wakeQuarantineStale) →
        q.sinceMs + wakeQuarantineMax ≤ f.fixTime →
        (f.verdict (quarantineAfter before)).quarantine = false ∧
          quarantineAfter (before ++ [f]) = none) ∧
      ((f.verdict (quarantineAfter before)).quarantine = true →
        ∃ q, quarantineAfter (before ++ [f]) = some q ∧ q.sinceMs ≤ f.fixTime ∧
          f.fixTime < q.sinceMs + wakeQuarantineMax) := by
  have hprefix : (before ++ [f]).Pairwise fun f g => f.fixTime ≤ g.fixTime := by
    rw [hfixes, List.append_cons] at horder
    exact (List.pairwise_append.mp horder).1
  have hopen := openAfter_quarantineAfter hprefix
  refine ⟨fun q hq => (hopen q hq).since_le_last, fun hreliable => ?_, fun q hq hpause hlate => ?_,
    fun hheld => ?_⟩
  · rw [quarantineAfter_concat, WakeFix.verdict_of_reliable hreliable]
  · have hstale : ¬ Stale q f.fixTime := by
      obtain ⟨hsince, g, hg, htime⟩ :=
        openAfter_quarantineAfter (List.pairwise_append.mp hprefix).1 q hq
      have hshort := hpause g hg
      rw [Stale]
      omega
    have hverdict := WakeFix.verdict_of_late hstale hlate
    rw [quarantineAfter_concat, hq, hverdict]
    exact ⟨rfl, rfl⟩
  · rw [quarantineAfter_concat] at hopen ⊢
    have hwoken := f.woken (quarantineAfter before)
    generalize f.verdict (quarantineAfter before) = verdict at hheld hwoken hopen ⊢
    cases hwoken with
    | reliable => cases hheld
    | rolling => cases hheld
    | released => cases hheld
    | opens => exact ⟨_, rfl, le_rfl, by
        show f.fixTime < f.fixTime + wakeQuarantineMax
        have hmax : wakeQuarantineMax = 120000 := rfl
        omega⟩
    | @held p _ _ htime =>
      obtain ⟨hsince, g, hg, hlast⟩ := hopen _ rfl
      rw [List.getLast?_concat] at hg
      obtain rfl := Option.some.inj hg
      exact ⟨_, rfl, hsince.trans_eq hlast.symm, htime⟩

/-- A fix with five satellites, and no stored one before it. -/
def weakWake (fixTime : Int) : WakeFix ℚ := ⟨some 5, none, fixTime⟩

/-- A tracker that wakes up and has no better fixes: after two minutes they are let through. -/
theorem quarantineAfter_ends_weak :
    ((weakWake 120000).verdict (quarantineAfter [weakWake 0, weakWake 60000])).quarantine = false ∧
      quarantineAfter [weakWake 0, weakWake 60000, weakWake 120000] = none := by
  have horder : [weakWake 0, weakWake 60000, weakWake 120000].Pairwise
      fun f g => f.fixTime ≤ g.fixTime := by
    decide
  have hsplit : [weakWake 0, weakWake 60000, weakWake 120000] =
      [weakWake 0, weakWake 60000] ++ weakWake 120000 :: [] := rfl
  refine (quarantineAfter_ends horder hsplit).2.2.1 ⟨0, 60000⟩ (by decide +kernel)
    (fun p hp => ?_) (by decide)
  obtain rfl := Option.some.inj hp
  decide

/-! ## The bridge -/

variable [JsMath R]

/-- A position of the vehicle as the wake rule sees it. -/
def Bridge.wakeFix (br : Bridge R) (vehicleId : String) (pos : TraccarPosition R) (now : Int) :
    WakeFix R :=
  { sat := pos.sat
    gapSincePrev := (br.lastDb vehicleId).map fun last =>
      (parseTimestampMeta pos now).1 - last.timestamp
    fixTime := (parseTimestampMeta pos now).1 }

/-- The positions are handled one after another. -/
def handlePositions (cfg : BridgeConfig R) (reg : Registry) (arrivals : List (TraccarPosition R × Int))
    (br : Bridge R) : Bridge R :=
  arrivals.foldl (fun br a => handlePosition cfg reg a.1 a.2 br) br

/-- The position is evaluated for the vehicle. -/
def reachesWake (cfg : BridgeConfig R) (reg : Registry) (vehicleId : String)
    (pos : TraccarPosition R) : Bool :=
  acceptsFix cfg pos && (trackerVehicle reg pos.deviceId).any (·.id == vehicleId)

/-- The fixes of the vehicle among the arrivals, each as it finds the bridge. -/
def wakeFixes (cfg : BridgeConfig R) (reg : Registry) (vehicleId : String) :
    List (TraccarPosition R × Int) → Bridge R → List (WakeFix R)
  | [], _ => []
  | (pos, now) :: arrivals, br =>
    let rest := wakeFixes cfg reg vehicleId arrivals (handlePosition cfg reg pos now br)
    if reachesWake cfg reg vehicleId pos then br.wakeFix vehicleId pos now :: rest else rest

omit [Field R] [LinearOrder R] [JsMath R] in
theorem recordFix_wakeQuarantine (p : Processed R) (pos : TraccarPosition R) (br : Bridge R) :
    (recordFix p pos br).wakeQuarantine = br.wakeQuarantine := by
  unfold recordFix
  split
  · rfl
  · split <;> rfl

theorem ingest_wakeQuarantine (cfg : BridgeConfig R) (reg : Registry) (pos : TraccarPosition R)
    (now : Int) (br : Bridge R) (vehicleId : String) :
    (ingest cfg reg pos now br).2.wakeQuarantine vehicleId =
      if (trackerVehicle reg pos.deviceId).any (·.id == vehicleId) then
        ((br.wakeFix vehicleId pos now).verdict (br.wakeQuarantine vehicleId)).state
      else br.wakeQuarantine vehicleId := by
  have hset (v : Vehicle) : (br.setWake v.id (br.wake v.id pos
      (parseTimestampMeta pos now).1).state).wakeQuarantine vehicleId =
      if v.id = vehicleId then
        ((br.wakeFix vehicleId pos now).verdict (br.wakeQuarantine vehicleId)).state
      else br.wakeQuarantine vehicleId := by
    show Function.update br.wakeQuarantine v.id _ vehicleId = _
    by_cases hv : v.id = vehicleId
    · subst hv
      rw [Function.update_self, if_pos rfl]
      rfl
    · rw [Function.update_of_ne (Ne.symm hv), if_neg hv]
  rcases ingest_cases cfg reg pos now br with ⟨hnone, hskip⟩ |
    ⟨v, wake, dto, hv, hwake, -, ⟨-, hskip⟩ | ⟨-, -, driverId, saved, -, hstore⟩⟩
  · rw [hskip, hnone]
    rfl
  · rw [hskip, hwake, hset v, hv]
    simp
  · rw [hstore, hv]
    refine Eq.trans ?_ ((hset v).trans (by simp))
    rw [hwake]
    rfl

theorem handlePosition_wakeQuarantine (cfg : BridgeConfig R) (reg : Registry)
    (pos : TraccarPosition R) (now : Int) (br : Bridge R) (vehicleId : String) :
    (handlePosition cfg reg pos now br).wakeQuarantine vehicleId =
      if reachesWake cfg reg vehicleId pos then
        ((br.wakeFix vehicleId pos now).verdict (br.wakeQuarantine vehicleId)).state
      else br.wakeQuarantine vehicleId := by
  have hingest := ingest_wakeQuarantine cfg reg pos now br vehicleId
  rw [handlePosition, reachesWake]
  cases acceptsFix cfg pos with
  | false => rfl
  | true =>
    rw [if_pos rfl, Bool.true_and, ← hingest]
    split
    · rename_i br' heq
      rw [heq]
    · rename_i p br' heq
      rw [heq, recordFix_wakeQuarantine]

/-- The quarantine of a vehicle is threaded through its fixes, whatever arrives in between. -/
theorem handlePositions_wake (cfg : BridgeConfig R) (reg : Registry) (vehicleId : String) :
    ∀ (arrivals : List (TraccarPosition R × Int)) (br : Bridge R),
      (handlePositions cfg reg arrivals br).wakeQuarantine vehicleId =
        quarantineFrom (br.wakeQuarantine vehicleId) (wakeFixes cfg reg vehicleId arrivals br)
  | [], _ => rfl
  | (pos, now) :: arrivals, br => by
      have hstep := handlePosition_wakeQuarantine cfg reg pos now br vehicleId
      have hrest := handlePositions_wake cfg reg vehicleId arrivals
        (handlePosition cfg reg pos now br)
      rw [handlePositions, List.foldl_cons, wakeFixes]
      refine hrest.trans ?_
      rw [hstep]
      cases reachesWake cfg reg vehicleId pos <;> rfl

end DeliveryTracking.Traccar
