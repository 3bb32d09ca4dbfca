/-
# `DeliveryTracking.Fuel.Deviation` — the consumption verdict of a fill-up

Three columns hold it: the flag, its reason, and the direction of the deviation.

    analysis   the queue job computes all three from a snapshot of the row, and
               writes all three
    update     a changed measure resets the flag and the reason, not the direction

Calls read and then write, and interleave.  Reason and flag agree always; the
direction is left on an unflagged row by each resetting update that finds one, and
by nothing else (`verdict_always_iff`).
-/
import DeliveryTracking.Fuel.CrossCheck

namespace DeliveryTracking.Fuel

open Geo

/-! ## The row and the analysis -/

inductive ConsumptionDeviationDirection where
  | over
  | under
  deriving DecidableEq, Repr

/-- A row of `fuel_logs` with the columns of the analysis. -/
structure AnalysedLog (R : Type) extends FuelLog R where
  calculatedConsumption : Option R
  consumptionAnomalyReason : Option String
  consumptionDeviationDirection : Option ConsumptionDeviationDirection
  deriving DecidableEq, Repr

/-- The columns an analysis writes. -/
structure ConsumptionVerdict (R : Type) where
  calculatedConsumption : Option R
  consumptionAnomalyFlag : Bool
  consumptionAnomalyReason : Option String
  consumptionDeviationDirection : Option ConsumptionDeviationDirection
  deriving DecidableEq, Repr

/-- How numbers are written in a text. -/
structure NumberText (R : Type) where
  toFixed : Nat → R → String
  plain : R → String

variable {R : Type}

def ConsumptionVerdict.none (calculatedConsumption : Option R) : ConsumptionVerdict R :=
  ⟨calculatedConsumption, false, .none, .none⟩

/-- `consumptionAnomalyReason`. -/
def NumberText.reason (text : NumberText R) (calculated deviation reference threshold : R) : String :=
  "Consumption " ++ text.toFixed 2 calculated ++ " L/100km deviates " ++ text.toFixed 1 deviation ++
    "% from expected " ++ text.plain reference ++ " L/100km (threshold: " ++ text.plain threshold ++
    "%)"

section Analysis

variable [Field R] [LinearOrder R]

/-- `theoretical && theoretical > 0 ? theoretical : 8`. -/
def referenceConsumption (theoretical : Option R) : R :=
  match theoretical with
  | some theoretical => if 0 < theoretical then theoretical else 8
  | none => 8

/-- What `processFuelLogAnalysis` computes from its snapshot; a threshold that is no number flags
nothing. -/
def analyse (text : NumberText R) (fuelLog : FuelLog R) (theoretical threshold : Option R) :
    ConsumptionVerdict R :=
  if 0 < fuelLog.kilometers then
    let calculated := fuelLog.liters / fuelLog.kilometers * 100
    let reference := referenceConsumption theoretical
    let deviation := |calculated - reference| / reference * 100
    match threshold with
    | some threshold =>
      if threshold < deviation then
        { calculatedConsumption := some calculated
          consumptionAnomalyFlag := true
          consumptionAnomalyReason := some (text.reason calculated deviation reference threshold)
          consumptionDeviationDirection := some (if reference < calculated then .over else .under) }
      else .none (some calculated)
    | none => .none (some calculated)
  else .none none

end Analysis

/-- `prisma.fuelLog.update` of an analysis. -/
def ConsumptionVerdict.write (v : ConsumptionVerdict R) (row : AnalysedLog R) : AnalysedLog R :=
  { row with
    calculatedConsumption := v.calculatedConsumption
    consumptionAnomalyFlag := v.consumptionAnomalyFlag
    consumptionAnomalyReason := v.consumptionAnomalyReason
    consumptionDeviationDirection := v.consumptionDeviationDirection }

/-- The insert of `create`. -/
def CreateFuelLogDto.insert (dto : CreateFuelLogDto R) (id companyId : String) : AnalysedLog R :=
  { id := id, companyId := companyId, vehicleId := dto.vehicleId, fillDate := dto.fillDate
    liters := dto.liters, kilometers := dto.kilometers, cost := dto.cost
    consumptionAnomalyFlag := false, gpsAnomalyFlag := false, gpsCoverageInsufficientFlag := false
    calculatedConsumption := none, consumptionAnomalyReason := none
    consumptionDeviationDirection := none }

/-- What `update` writes to a row, when it compared its values with `existing`. -/
def UpdateFuelLogDto.update [DecidableEq R] (dto : UpdateFuelLogDto R) (existing : FuelLog R)
    (row : AnalysedLog R) : AnalysedLog R :=
  let data := { row with toFuelLog := dto.patch row.toFuelLog }
  if measuredChanged existing dto then
    { data with
      consumptionAnomalyFlag := false
      consumptionAnomalyReason := none
      gpsAnomalyFlag := false
      gpsCoverageInsufficientFlag := false }
  else data

/-! ## Calls -/

/-- A call about the fill-up, between its read and its write. -/
inductive AnalysisCall (R : Type) where
  | updating (existing : FuelLog R) (dto : UpdateFuelLogDto R)
  | removing
  | analysing (fuelLog : FuelLog R) (theoretical threshold : Option R)

/-- A call reads the tables as they are at the time. -/
inductive AnalysisEvent (R : Type) where
  | create (vehicles : List (Vehicle R)) (id companyId : String) (dto : CreateFuelLogDto R)
  | findOne (vehicles : List (Vehicle R)) (companyId : String) (dto : UpdateFuelLogDto R)
  | update (i : Nat)
  | findRemoved (companyId : String)
  | remove (i : Nat)
  /-- A job starts, once more if the queue retries it. -/
  | job (vehicles : List (Vehicle R)) (anomalyThreshold : Option R) (companyId : String)
  | analyse (i : Nat)
  /-- A write of the cross-check. -/
  | gpsFlag (w : FlagWrite)

/-- A fill-up with the calls about it. -/
structure AnalysisRun (R : Type) where
  log : Option (AnalysedLog R)
  created : Bool
  calls : List (AnalysisCall R)

/-- Before the fill-up is created. -/
def AnalysisRun.start : AnalysisRun R := ⟨none, false, []⟩

def hasVehicle (vehicles : List (Vehicle R)) (companyId vehicleId : String) : Bool :=
  vehicles.any fun v => v.id == vehicleId && (v.companyId == companyId && v.deletedAt.isNone)

namespace AnalysisRun

/-- A write to the row, which fails when it is gone; the call ends. -/
def finish (s : AnalysisRun R) (i : Nat) (f : AnalysedLog R → AnalysedLog R) : AnalysisRun R :=
  { s with log := s.log.map f, calls := s.calls.eraseIdx i }

def addCall (s : AnalysisRun R) (c : AnalysisCall R) : AnalysisRun R :=
  { s with calls := s.calls ++ [c] }

variable [Field R] [LinearOrder R] (text : NumberText R) (defaultThreshold : Option R)

def step (s : AnalysisRun R) : AnalysisEvent R → Option (AnalysisRun R)
  | .create vehicles id companyId dto =>
    if !s.created && hasVehicle vehicles companyId dto.vehicleId then
      some { s with log := some (dto.insert id companyId), created := true }
    else none
  | .findOne vehicles companyId dto =>
    match s.log with
    | some row =>
      if row.companyId == companyId && dto.vehicleId.all fun vehicleId =>
          vehicleId == row.vehicleId || hasVehicle vehicles companyId vehicleId then
        some (s.addCall (.updating row.toFuelLog dto))
      else none
    | none => none
  | .update i =>
    match s.calls[i]? with
    | some (.updating existing dto) => some (s.finish i (dto.update existing))
    | _ => none
  | .findRemoved companyId =>
    if s.log.any (·.companyId == companyId) then some (s.addCall .removing) else none
  | .remove i =>
    match s.calls[i]? with
    | some .removing => some { s with log := none, calls := s.calls.eraseIdx i }
    | _ => none
  | .job vehicles anomalyThreshold companyId =>
    match s.log with
    | some row =>
      if row.companyId == companyId then
        let theoretical := (vehicles.find? (·.id == row.vehicleId)).bind (·.theoreticalConsumption)
        some (s.addCall (.analysing row.toFuelLog theoretical (anomalyThreshold <|> defaultThreshold)))
      else none
    | none => none
  | .analyse i =>
    match s.calls[i]? with
    | some (.analysing fuelLog theoretical threshold) =>
      some (s.finish i (Fuel.analyse text fuelLog theoretical threshold).write)
    | _ => none
  | .gpsFlag w =>
    match s.log with
    | some row =>
      some { s with log := some { row with toFuelLog := row.setFlags (w.apply row.gpsFlags) } }
    | none => none

end AnalysisRun

/-! ## What is left on a row -/

/-- Direction and reason are there for a flag. -/
structure AnalysedLog.Consistent (row : AnalysedLog R) : Prop where
  direction : row.consumptionDeviationDirection ≠ none → row.consumptionAnomalyFlag = true
  reason : row.consumptionAnomalyReason ≠ none → row.consumptionAnomalyFlag = true

namespace AnalysisRun

/-- The row is consistent while there is one. -/
def Consistent (s : AnalysisRun R) : Prop := ∀ row, s.log = some row → row.Consistent

def undirectedReset [DecidableEq R] (s : AnalysisRun R) : AnalysisEvent R → Bool
  | .update i =>
    match s.calls[i]?, s.log with
    | some (.updating existing dto), some row =>
      !measuredChanged existing dto || row.consumptionDeviationDirection.isNone
    | _, _ => true
  | _ => true

/-- An update that is about to write resets no row with a direction. -/
def UndirectedReset [DecidableEq R] (s : AnalysisRun R) (e : AnalysisEvent R) : Prop :=
  s.undirectedReset e = true

instance [DecidableEq R] (s : AnalysisRun R) (e : AnalysisEvent R) :
    Decidable (s.UndirectedReset e) :=
  inferInstanceAs (Decidable (_ = true))

theorem consistent_finish (s : AnalysisRun R) (i : Nat) (f : AnalysedLog R → AnalysedLog R) :
    (s.finish i f).Consistent ↔ ∀ row, s.log = some row → (f row).Consistent := by
  constructor
  · intro h row hrow
    exact h (f row) (congrArg (Option.map f) hrow)
  · intro h row hrow
    obtain ⟨before, hbefore, rfl⟩ := Option.map_eq_some_iff.mp hrow
    exact h before hbefore

section Writes

variable [LinearOrder R]

theorem analyse_consistent [Field R] (text : NumberText R) (fuelLog : FuelLog R)
    (theoretical threshold : Option R) (row : AnalysedLog R) :
    ((analyse text fuelLog theoretical threshold).write row).Consistent := by
  have hnone : ∀ c : Option R, ((ConsumptionVerdict.none c).write row).Consistent :=
    fun c => ⟨fun h => absurd rfl h, fun h => absurd rfl h⟩
  unfold analyse
  split
  · dsimp only
    split
    · split
      · exact ⟨fun _ => rfl, fun _ => rfl⟩
      · exact hnone _
    · exact hnone _
  · exact hnone _

/-- A reset keeps a row consistent when there is no direction to keep. -/
theorem update_consistent_iff {existing : FuelLog R} {dto : UpdateFuelLogDto R} {row : AnalysedLog R}
    (h : row.Consistent) : (dto.update existing row).Consistent ↔
      (!measuredChanged existing dto || row.consumptionDeviationDirection.isNone) = true := by
  unfold UpdateFuelLogDto.update
  dsimp only
  cases hchanged : measuredChanged existing dto with
  | false => exact iff_of_true ⟨h.direction, h.reason⟩ rfl
  | true =>
    rw [if_pos rfl, Bool.not_true, Bool.false_or, Option.isNone_iff_eq_none]
    constructor
    · intro hrow
      by_contra hdirection
      exact Bool.false_ne_true (hrow.direction hdirection)
    · intro hdirection
      exact ⟨fun hne => absurd hdirection hne, fun hne => absurd rfl hne⟩

end Writes

section Runs

variable [Field R] [LinearOrder R] {text : NumberText R} {defaultThreshold : Option R}
  {s t : AnalysisRun R} {e : AnalysisEvent R}

/-- A step keeps the row consistent exactly when it resets no row with a direction. -/
theorem consistent_step_iff (h : s.Consistent) (hstep : s.step text defaultThreshold e = some t) :
    t.Consistent ↔ s.UndirectedReset e := by
  cases e with
  | create vehicles id companyId dto =>
    rw [step, Option.ite_none_right_eq_some] at hstep
    obtain ⟨-, hstep⟩ := hstep
    cases hstep
    refine iff_of_true ?_ rfl
    rintro row hrow
    cases hrow
    exact ⟨fun hne => absurd rfl hne, fun hne => absurd rfl hne⟩
  | findOne vehicles companyId dto =>
    rw [step] at hstep
    split at hstep
    · rw [Option.ite_none_right_eq_some] at hstep
      obtain ⟨-, hstep⟩ := hstep
      cases hstep
      exact iff_of_true h rfl
    · cases hstep
  | update i =>
    rw [step] at hstep
    split at hstep
    · rename_i existing dto hcall
      cases hstep
      rw [consistent_finish, UndirectedReset, undirectedReset, hcall]
      cases hlog : s.log with
      | none => exact iff_of_true (fun row hrow => by cases hrow) rfl
      | some row =>
        rw [← update_consistent_iff (h row hlog)]
        exact ⟨fun hrows => hrows row rfl, fun hrow row' heq => Option.some.inj heq ▸ hrow⟩
    · cases hstep
  | findRemoved companyId =>
    rw [step, Option.ite_none_right_eq_some] at hstep
    obtain ⟨-, hstep⟩ := hstep
    cases hstep
    exact iff_of_true h rfl
  | remove i =>
    rw [step] at hstep
    split at hstep
    · cases hstep
      exact iff_of_true (fun row hrow => by cases hrow) rfl
    · cases hstep
  | job vehicles anomalyThreshold companyId =>
    rw [step] at hstep
    split at hstep
    · rw [Option.ite_none_right_eq_some] at hstep
      obtain ⟨-, hstep⟩ := hstep
      cases hstep
      exact iff_of_true h rfl
    · cases hstep
  | analyse i =>
    rw [step] at hstep
    split at hstep
    · rename_i fuelLog theoretical threshold hcall
      cases hstep
      refine iff_of_true ?_ rfl
      rw [consistent_finish]
      intro row _
      exact analyse_consistent text fuelLog theoretical threshold row
    · cases hstep
  | gpsFlag w =>
    rw [step] at hstep
    split at hstep
    · rename_i before hbefore
      cases hstep
      refine iff_of_true ?_ rfl
      rintro row hrow
      cases hrow
      exact ⟨(h before hbefore).direction, (h before hbefore).reason⟩
    · cases hstep

/-- In every state of a run direction and reason are there for a flag, exactly when no update of the
run resets a row with a direction. -/
theorem verdict_always_iff {es : List (AnalysisEvent R)}
    (h : Run (Steps (step text defaultThreshold)) .start es t) :
    (∀ es₁ es₂ u, es = es₁ ++ es₂ → Run (Steps (step text defaultThreshold)) .start es₁ u →
        u.Consistent) ↔
      Run (Guarded (Steps (step text defaultThreshold)) UndirectedReset) .start es t := by
  refine Run.always_iff_guarded ?_ ?_ h ?_
  · intro s e t t' h h'
    exact Option.some.inj (h.symm.trans h')
  · intro s e t hs hstep
    exact consistent_step_iff hs hstep
  · rintro row hrow
    cases hrow

end Runs

end AnalysisRun

/-! ## A corrected fill-up -/

/-- Numbers are not written. -/
def noText : NumberText ℚ := ⟨fun _ _ => "", fun _ => ""⟩

/-- Ten litres are entered, and analysed without a setting of the company. -/
def analysed (kilometers : ℚ) : List (AnalysisEvent ℚ) :=
  [.create sampleFleet.vehicles "log-1" "company-1" (newFill kilometers),
    .job sampleFleet.vehicles none "company-1", .analyse 0]

/-- Then the kilometres are corrected to 110. -/
def correctedAfter (kilometers : ℚ) : List (AnalysisEvent ℚ) :=
  analysed kilometers ++ [.findOne sampleFleet.vehicles "company-1" (correct 110), .update 0]

/-- From 100 kilometres on, within the threshold: nothing was flagged. -/
theorem verdict_always_corrected : ∃ t,
    Run (Steps (AnalysisRun.step noText (some 15))) .start (correctedAfter 100) t ∧
      ∀ es₁ es₂ u, correctedAfter 100 = es₁ ++ es₂ →
        Run (Steps (AnalysisRun.step noText (some 15))) .start es₁ u → u.Consistent := by
  have hend : ((correctedAfter 100).foldlM (guardStep (AnalysisRun.step noText (some 15))
      AnalysisRun.UndirectedReset) .start).isSome = true := by
    decide +kernel
  obtain ⟨t, ht⟩ := Option.isSome_iff_exists.mp hend
  have hrun := Run.of_guardStep ht
  exact ⟨t, hrun.of_guarded, (AnalysisRun.verdict_always_iff hrun.of_guarded).mpr hrun⟩

/-- From 50 kilometres on: the direction of the flagged consumption stays on the corrected row. -/
theorem direction_outlives_flag :
    ¬∀ (es : List (AnalysisEvent ℚ)) (t : AnalysisRun ℚ),
      Run (Steps (AnalysisRun.step noText (some 15))) .start es t → t.Consistent := by
  intro hclaim
  have hend : ((correctedAfter 50).foldlM (AnalysisRun.step noText (some 15)) .start).any (fun t =>
      t.log.any fun row => row.consumptionDeviationDirection == some .over &&
        !row.consumptionAnomalyFlag) = true := by
    decide +kernel
  obtain ⟨t, hrun, ht⟩ := Run.of_foldlM_any hend
  obtain ⟨row, hrow, htest⟩ := (Option.any_eq_true _ _).mp ht
  simp only [Bool.and_eq_true, beq_iff_eq, Bool.not_eq_true'] at htest
  have hflag := (hclaim _ t hrun row hrow).direction (by rw [htest.1]; exact Option.some_ne_none _)
  rw [htest.2] at hflag
  cases hflag

end DeliveryTracking.Fuel
