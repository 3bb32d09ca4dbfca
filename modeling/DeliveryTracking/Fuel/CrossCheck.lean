/-
# `DeliveryTracking.Fuel.CrossCheck` — is the stored GPS verdict the current one

A check of a fill-up compares its kilometres with the track since the fill-up
before it, and writes one of two flags.  It works from a snapshot of the row.
Checks start in three ways, each with its own snapshot:

    create    queues a job, or checks what it inserted if the queue refuses it
    update    resets the flags if a measured value changed, then checks what it wrote
    job       loads the row and checks it, in the API process or in the worker

Each process keeps a set of the fill-ups it is checking and skips a second check.
A step is one database call, so the steps of all calls interleave.

When no update writes while a check of the same fill-up has a snapshot, and each
update compared its values with the row that it overwrites, the flags are those of
a fresh check as soon as all calls have ended (`verdict_current`).
-/
import DeliveryTracking.Runs
import DeliveryTracking.Fuel.Attribution
import DeliveryTracking.Fuel.TrackScan

namespace DeliveryTracking.Fuel

open Geo
open Tracking (PositionTable)

/-! ## The check -/

/-- The two columns a check writes, without their reasons. -/
structure GpsFlags where
  anomaly : Bool
  coverageInsufficient : Bool
  deriving DecidableEq, Repr

def GpsFlags.reset : GpsFlags := ⟨false, false⟩

/-- One write of a check. -/
inductive FlagWrite where
  | coverageInsufficient (flag : Bool)
  | anomaly (flag : Bool)
  deriving DecidableEq, Repr

def FlagWrite.apply : FlagWrite → GpsFlags → GpsFlags
  | .coverageInsufficient flag, f => { f with coverageInsufficient := flag }
  | .anomaly flag, f => { f with anomaly := flag }

/-- What a check finds. -/
inductive GpsVerdict where
  | unverifiable
  /-- The track covers the kilometres, which are too few to compare. -/
  | short
  | anomaly
  | consistent
  deriving DecidableEq, Repr

/-- What a check writes, by the flags of its snapshot. -/
def GpsVerdict.writes (v : GpsVerdict) (seen : GpsFlags) : List FlagWrite :=
  let uncover := if seen.coverageInsufficient then [.coverageInsufficient false] else []
  match v with
  | .unverifiable => if seen.coverageInsufficient then [] else [.coverageInsufficient true]
  | .short => uncover
  | .anomaly => uncover ++ [.anomaly true]
  | .consistent => uncover ++ if seen.anomaly then [.anomaly false] else []

/-- The flags after some writes. -/
def GpsFlags.after (f : GpsFlags) (ws : List FlagWrite) : GpsFlags := ws.foldl (fun f w => w.apply f) f

def coverageMinFraction {R : Type} [Field R] : R := 2 / 5
def coverageMinManualKm {R : Type} [Field R] : R := 5

/-- The tables a check reads, apart from the row it checks. -/
structure CrossCheckTables (R : Type) where
  vehicles : List (Vehicle R)
  otherLogs : List (FuelLog R)
  positions : PositionTable R
  /-- `company_fuel_settings.crossCheckThreshold`. -/
  crossCheckThreshold : String → Option R

variable {R : Type}

def FuelLog.gpsFlags (log : FuelLog R) : GpsFlags :=
  ⟨log.gpsAnomalyFlag, log.gpsCoverageInsufficientFlag⟩

def FuelLog.setFlags (log : FuelLog R) (f : GpsFlags) : FuelLog R :=
  { log with gpsAnomalyFlag := f.anomaly, gpsCoverageInsufficientFlag := f.coverageInsufficient }

/-- What a check reads of its snapshot besides the flags. -/
structure Measured (R : Type) where
  companyId : String
  vehicleId : String
  fillDate : Int
  kilometers : R
  deriving DecidableEq, Repr

def FuelLog.measured (log : FuelLog R) : Measured R :=
  ⟨log.companyId, log.vehicleId, log.fillDate, log.kilometers⟩

/-- The time of the last fill-up of the vehicle before the one checked. -/
def prevFill (logs : List (FuelLog R)) (m : Measured R) : Option Int :=
  (lastBy FuelLog.fillDate (logs.filter fun l =>
    l.vehicleId == m.vehicleId && (l.companyId == m.companyId && decide (l.fillDate < m.fillDate)))).map
      FuelLog.fillDate

section Check

variable [Field R] [LinearOrder R] [JsMath R] (pageDistance : Nat → List (Fix R) → R × Nat)
  (T : CrossCheckTables R)

/-- The start of the window: the fill-up before, else thirty days or the first position. -/
def windowStart (prevLog : Option Int) (m : Measured R) : Int :=
  match prevLog with
  | some fillDate => fillDate
  | none =>
    let rawStart := m.fillDate - 30 * 24 * 60 * 60 * 1000
    let firstEver := (inOrder T.positions.rows fun p => p.vehicleId == m.vehicleId &&
      (p.companyId == m.companyId && decide (p.timestamp ≤ m.fillDate))).head?
    match firstEver with
    | some p => if rawStart < p.timestamp then p.timestamp else rawStart
    | none => rawStart

/-- The comparison of `crossCheckFuelLogWithGpsLocked`. -/
def gpsVerdict (prevLog : Option Int) (m : Measured R) : GpsVerdict :=
  let rawStart := windowStart T prevLog m
  let scan := scanVehicleTrack T.positions m.vehicleId m.companyId m.fillDate pageDistance 20000
    rawStart
  let gpsKm := scan.distanceMeters / 1000
  let manualKm := m.kilometers
  if isStationaryNoise gpsKm (scan.netDisplacementMeters / 1000) scan.avgAccuracy then .unverifiable
  else
    let spanMs := m.fillDate - rawStart
    let coverage : R :=
      if 0 < spanMs then min 1 (((max 0 scan.coveredMs : Int) : R) / (spanMs : R)) else 1
    if 0 < scan.count ∧ scan.firstTimestamp.isSome ∧ scan.lastTimestamp.isSome ∧
        coverage < coverageMinFraction ∧ coverageMinManualKm ≤ manualKm then .unverifiable
    else if gpsKm ≤ 0 then .unverifiable
    else
      let ratio := manualKm / gpsKm
      let crossCheckThreshold := (T.crossCheckThreshold m.companyId).getD (13 / 10)
      if manualKm < coverageMinManualKm then .short
      else if crossCheckThreshold < ratio then .anomaly
      else if ratio < 1 / crossCheckThreshold then .anomaly
      else .consistent

/-- The writes of a check that runs from a snapshot while the row is `stored`. -/
def checkWrites (stored : FuelLog R) (snapshot : FuelLog R) : List FlagWrite :=
  (gpsVerdict pageDistance T (prevFill (T.otherLogs ++ [stored]) snapshot.measured)
    snapshot.measured).writes snapshot.gpsFlags

/-- The flags `crossCheckFuelLogWithGps` computes for a row: those it leaves when it runs alone, from
reset flags. -/
def crossCheckFuelLogWithGps (log : FuelLog R) : GpsFlags :=
  if log.kilometers ≤ 0 then .reset
  else GpsFlags.reset.after (checkWrites pageDistance T log (log.setFlags .reset))

end Check

/-! ## Calls -/

inductive Process where
  | api
  | worker
  deriving DecidableEq, Repr

structure CreateFuelLogDto (R : Type) where
  vehicleId : String
  fillDate : Int
  liters : R
  kilometers : R
  cost : R
  deriving DecidableEq, Repr

/-- The fields of a PATCH; the columns refuse a null. -/
structure UpdateFuelLogDto (R : Type) where
  vehicleId : Option String
  fillDate : Option Int
  liters : Option R
  kilometers : Option R
  cost : Option R
  deriving DecidableEq, Repr

/-- `measuredChanged`. -/
def measuredChanged [DecidableEq R] (existing : FuelLog R) (dto : UpdateFuelLogDto R) : Bool :=
  dto.liters.any (· != existing.liters) || (dto.kilometers.any (· != existing.kilometers) ||
    (dto.fillDate.any (· != existing.fillDate) || dto.vehicleId.any (· != existing.vehicleId)))

/-- The columns a PATCH writes. -/
def UpdateFuelLogDto.patch (dto : UpdateFuelLogDto R) (log : FuelLog R) : FuelLog R :=
  { log with
    vehicleId := dto.vehicleId.getD log.vehicleId
    fillDate := dto.fillDate.getD log.fillDate
    liters := dto.liters.getD log.liters
    kilometers := dto.kilometers.getD log.kilometers
    cost := dto.cost.getD log.cost }

/-- A call in progress. -/
inductive CheckThread (R : Type) where
  /-- `create` adds the job of the row it inserted. -/
  | queueing
  /-- `update` has read the row. -/
  | updating (existing : FuelLog R) (dto : UpdateFuelLogDto R)
  /-- A snapshot is about to be checked. -/
  | checking (p : Process) (snapshot : FuelLog R)
  /-- The fill-up is in the set of the process. -/
  | locked (p : Process) (snapshot : FuelLog R)
  /-- The writes a check has left. -/
  | writing (p : Process) (writes : List FlagWrite)

inductive CheckEvent (R : Type) where
  /-- `create` inserts the row; `queued` is whether the queue takes its job. -/
  | create (id companyId : String) (dto : CreateFuelLogDto R) (queued : Bool)
  | queue (i : Nat)
  | findOne (companyId : String) (dto : UpdateFuelLogDto R)
  | write (i : Nat)
  | job (p : Process)
  | enter (i : Nat)
  | scan (i : Nat)
  | flag (i : Nat)
  | leave (i : Nat)

/-- A fill-up with the calls about it. -/
structure CheckRun (R : Type) where
  log : Option (FuelLog R)
  jobs : Nat
  crossCheckInProgress : Process → Bool
  threads : List (CheckThread R)

/-- Before the fill-up is created. -/
def CheckRun.start : CheckRun R := ⟨none, 0, fun _ => false, []⟩

/-- The vehicle of a request is a live one of the company. -/
def CrossCheckTables.hasVehicle (T : CrossCheckTables R) (companyId vehicleId : String) : Bool :=
  T.vehicles.any fun v => v.id == vehicleId && (v.companyId == companyId && v.deletedAt.isNone)

namespace CheckRun

variable [Field R] [LinearOrder R] [JsMath R] (pageDistance : Nat → List (Fix R) → R × Nat)
  (T : CrossCheckTables R) (s : CheckRun R)

def setThread (i : Nat) (th : CheckThread R) : CheckRun R := { s with threads := s.threads.set i th }

def endThread (i : Nat) : CheckRun R := { s with threads := s.threads.eraseIdx i }

def addThread (th : CheckThread R) : CheckRun R := { s with threads := s.threads ++ [th] }

def setInProgress (p : Process) (b : Bool) : CheckRun R :=
  { s with crossCheckInProgress := Function.update s.crossCheckInProgress p b }

/-- The insert of `create`. -/
def create (id companyId : String) (dto : CreateFuelLogDto R) (queued : Bool) : CheckRun R :=
  let log : FuelLog R :=
    { id := id, companyId := companyId, vehicleId := dto.vehicleId, fillDate := dto.fillDate
      liters := dto.liters, kilometers := dto.kilometers, cost := dto.cost
      consumptionAnomalyFlag := false, gpsAnomalyFlag := false
      gpsCoverageInsufficientFlag := false }
  { s with log := some log }.addThread (if queued then .queueing else .checking .api log)

/-- The write of `update`, and the check that follows it. -/
def write (i : Nat) (existing : FuelLog R) (dto : UpdateFuelLogDto R) (log : FuelLog R) :
    CheckRun R :=
  if measuredChanged existing dto then
    let updated := { (dto.patch log).setFlags .reset with consumptionAnomalyFlag := false }
    { s with log := some updated }.setThread i (.checking .api updated)
  else { s with log := some (dto.patch log) }.endThread i

def step : CheckEvent R → Option (CheckRun R)
  | .create id companyId dto queued =>
    if s.log.isNone && T.hasVehicle companyId dto.vehicleId then
      some (s.create id companyId dto queued)
    else none
  | .queue i =>
    match s.threads[i]? with
    | some .queueing => some { s.endThread i with jobs := s.jobs + 1 }
    | _ => none
  | .findOne companyId dto =>
    match s.log with
    | some log =>
      if log.companyId == companyId && dto.vehicleId.all fun vehicleId =>
          vehicleId == log.vehicleId || T.hasVehicle companyId vehicleId then
        some (s.addThread (.updating log dto))
      else none
    | none => none
  | .write i =>
    match s.threads[i]?, s.log with
    | some (.updating existing dto), some log => some (s.write i existing dto log)
    | _, _ => none
  | .job p =>
    match s.jobs, s.log with
    | jobs + 1, some log => some ({ s with jobs := jobs }.addThread (.checking p log))
    | _, _ => none
  | .enter i =>
    match s.threads[i]? with
    | some (.checking p snapshot) =>
      if snapshot.kilometers ≤ 0 then some (s.endThread i)
      else if s.crossCheckInProgress p then some (s.endThread i)
      else some ((s.setInProgress p true).setThread i (.locked p snapshot))
    | _ => none
  | .scan i =>
    match s.threads[i]?, s.log with
    | some (.locked p snapshot), some log =>
      some (s.setThread i (.writing p (checkWrites pageDistance T log snapshot)))
    | _, _ => none
  | .flag i =>
    match s.threads[i]?, s.log with
    | some (.writing p (w :: ws)), some log =>
      some ({ s with log := some (log.setFlags (w.apply log.gpsFlags)) }.setThread i (.writing p ws))
    | _, _ => none
  | .leave i =>
    match s.threads[i]? with
    | some (.writing p []) => some ((s.setInProgress p false).endThread i)
    | _ => none

/-- All calls have ended, and no job is queued. -/
def Quiet : Prop := s.threads = [] ∧ s.jobs = 0

end CheckRun

/-! ## A fresh check -/

namespace GpsVerdict

variable {v : GpsVerdict}

/-- The flags a verdict stands for. -/
def flags (v : GpsVerdict) : GpsFlags := GpsFlags.reset.after (v.writes .reset)

/-- From reset flags or from its own, a check writes nothing that is not in its flags. -/
theorem writes_lead {f : GpsFlags} (hf : f = .reset ∨ f = v.flags) {w : FlagWrite}
    (hw : w ∈ v.writes f) : w.apply .reset = v.flags ∧ w.apply v.flags = v.flags := by
  rcases hf with rfl | rfl
  · cases v with
    | unverifiable =>
      obtain rfl : w = .coverageInsufficient true := List.mem_singleton.mp hw
      exact ⟨rfl, rfl⟩
    | short => cases hw
    | anomaly =>
      obtain rfl : w = .anomaly true := List.mem_singleton.mp hw
      exact ⟨rfl, rfl⟩
    | consistent => cases hw
  · cases v with
    | unverifiable => cases hw
    | short => cases hw
    | anomaly =>
      obtain rfl : w = .anomaly true := List.mem_singleton.mp hw
      exact ⟨rfl, rfl⟩
    | consistent => cases hw

theorem flags_of_writes_nil (h : v.writes .reset = []) : v.flags = .reset := by
  rw [flags, h]
  rfl

end GpsVerdict

section Fresh

variable [Field R] [LinearOrder R] [JsMath R] {pageDistance : Nat → List (Fix R) → R × Nat}
  {T : CrossCheckTables R} {log snapshot : FuelLog R}

omit [Field R] [LinearOrder R] [JsMath R] in
/-- A row is not the fill-up before itself. -/
theorem prevFill_self (logs : List (FuelLog R)) (log : FuelLog R) {m : Measured R}
    (h : m = log.measured) : prevFill (logs ++ [log]) m = prevFill logs m := by
  subst h
  have hself : decide (log.fillDate < log.measured.fillDate) = false := decide_eq_false (lt_irrefl _)
  rw [prevFill, prevFill, List.filter_append, List.filter_cons, hself]
  simp

/-- A check whose snapshot has the measured values of the row. -/
theorem checkWrites_eq (h : snapshot.measured = log.measured) :
    checkWrites pageDistance T log snapshot =
      (gpsVerdict pageDistance T (prevFill T.otherLogs log.measured) log.measured).writes
        snapshot.gpsFlags := by
  rw [checkWrites, h, prevFill_self T.otherLogs log rfl]

theorem crossCheck_eq (h : ¬log.kilometers ≤ 0) :
    crossCheckFuelLogWithGps pageDistance T log =
      (gpsVerdict pageDistance T (prevFill T.otherLogs log.measured) log.measured).flags := by
  have hsame : (log.setFlags .reset).measured = log.measured := rfl
  rw [crossCheckFuelLogWithGps, if_neg h, checkWrites_eq hsame]
  rfl

/-- The computed flags depend on the measured values only. -/
theorem crossCheck_congr (h : snapshot.measured = log.measured) :
    crossCheckFuelLogWithGps pageDistance T snapshot = crossCheckFuelLogWithGps pageDistance T log := by
  have hkm : snapshot.kilometers = log.kilometers := congrArg Measured.kilometers h
  by_cases hzero : log.kilometers ≤ 0
  · rw [crossCheckFuelLogWithGps, crossCheckFuelLogWithGps, if_pos hzero, if_pos (hkm ▸ hzero)]
  · rw [crossCheck_eq hzero, crossCheck_eq (hkm ▸ hzero), h]

end Fresh

/-! ## The invariant -/

namespace CheckThread

/-- The thread has a snapshot that it checks. -/
def checks : CheckThread R → Bool
  | .queueing | .updating _ _ => false
  | .checking _ _ | .locked _ _ | .writing _ _ => true

/-- The thread keeps the fill-up in the set of a process. -/
def InSet (p : Process) : CheckThread R → Prop
  | .locked q _ | .writing q _ => q = p
  | _ => False

/-- The thread checks, or queues a job. -/
def Pending : CheckThread R → Prop
  | .updating _ _ => False
  | _ => True

section Good

variable [Field R] [LinearOrder R] [JsMath R] (pageDistance : Nat → List (Fix R) → R × Nat)
  (T : CrossCheckTables R) (log : FuelLog R)

/-- A snapshot has the measured values of the row, and reset flags, or current ones as the row. -/
def Seen (snapshot : FuelLog R) : Prop :=
  snapshot.measured = log.measured ∧ (snapshot.gpsFlags = .reset ∨
    snapshot.gpsFlags = crossCheckFuelLogWithGps pageDistance T log ∧
      log.gpsFlags = crossCheckFuelLogWithGps pageDistance T log)

/-- What a call still does leads to the current flags. -/
def Good : CheckThread R → Prop
  | .queueing | .updating _ _ => True
  | .checking _ snapshot => Seen pageDistance T log snapshot
  | .locked _ snapshot => Seen pageDistance T log snapshot ∧ ¬snapshot.kilometers ≤ 0
  | .writing _ ws =>
    (ws = [] → log.gpsFlags = crossCheckFuelLogWithGps pageDistance T log) ∧
      ∀ w ∈ ws, w.apply .reset = crossCheckFuelLogWithGps pageDistance T log ∧
        w.apply (crossCheckFuelLogWithGps pageDistance T log) =
          crossCheckFuelLogWithGps pageDistance T log

variable {pageDistance T log}

/-- A row that changes neither its measured values nor current flags. -/
theorem Good.mono {log' : FuelLog R} (hmeasured : log'.measured = log.measured)
    (hflags : log.gpsFlags = crossCheckFuelLogWithGps pageDistance T log →
      log'.gpsFlags = log.gpsFlags) {th : CheckThread R} (h : th.Good pageDistance T log) :
    th.Good pageDistance T log' := by
  have hcheck : crossCheckFuelLogWithGps pageDistance T log' =
      crossCheckFuelLogWithGps pageDistance T log := crossCheck_congr hmeasured
  have hseen : ∀ {snapshot}, Seen pageDistance T log snapshot → Seen pageDistance T log' snapshot := by
    rintro snapshot ⟨hsame, hreset | ⟨hcurrent, hrow⟩⟩
    · exact ⟨hsame.trans hmeasured.symm, .inl hreset⟩
    · exact ⟨hsame.trans hmeasured.symm, .inr ⟨hcurrent.trans hcheck.symm,
        (hflags hrow).trans (hrow.trans hcheck.symm)⟩⟩
  cases th with
  | queueing => trivial
  | updating existing dto => trivial
  | checking p snapshot => exact hseen h
  | locked p snapshot => exact ⟨hseen h.1, h.2⟩
  | writing p ws =>
    refine ⟨fun hnil => ?_, ?_⟩
    · rw [hcheck, hflags (h.1 hnil)]
      exact h.1 hnil
    · rw [hcheck]
      exact h.2

end Good

end CheckThread

namespace CheckRun

variable [Field R] [LinearOrder R] [JsMath R] {pageDistance : Nat → List (Fix R) → R × Nat}
  {T : CrossCheckTables R}

/-- The flags are reset or current; every call leads to the current ones; who finds the fill-up in a
set finds its check; and while the flags are not current a call or a job will check. -/
structure Current (pageDistance : Nat → List (Fix R) → R × Nat) (T : CrossCheckTables R)
    (s : CheckRun R) (log : FuelLog R) : Prop where
  flags : log.gpsFlags = .reset ∨ log.gpsFlags = crossCheckFuelLogWithGps pageDistance T log
  threads : ∀ th ∈ s.threads, th.Good pageDistance T log
  lock : ∀ p, s.crossCheckInProgress p = true → ∃ th ∈ s.threads, th.InSet p
  pending : log.gpsFlags ≠ crossCheckFuelLogWithGps pageDistance T log →
    0 < s.jobs ∨ ∃ th ∈ s.threads, th.Pending

/-- Nothing happens before the fill-up is created. -/
def Inv (pageDistance : Nat → List (Fix R) → R × Nat) (T : CrossCheckTables R) (s : CheckRun R) :
    Prop :=
  match s.log with
  | none => s.threads = [] ∧ s.jobs = 0 ∧ ∀ p, s.crossCheckInProgress p = false
  | some log => s.Current pageDistance T log

/-- A write of `update` compared its values with the row it overwrites, and finds no check of the
fill-up with a snapshot. -/
def freshWrite (s : CheckRun R) : CheckEvent R → Bool
  | .write i =>
    match s.threads[i]?, s.log with
    | some (.updating existing dto), some log =>
      (measuredChanged existing dto || decide ((dto.patch log).measured = log.measured)) &&
        (!measuredChanged existing dto || s.threads.all fun th => !th.checks)
    | _, _ => true
  | _ => true

def FreshWrite (s : CheckRun R) (e : CheckEvent R) : Prop := s.freshWrite e = true

instance (s : CheckRun R) (e : CheckEvent R) : Decidable (s.FreshWrite e) :=
  inferInstanceAs (Decidable (_ = true))

/-! ## One step -/

section Steps

variable {s : CheckRun R} {log : FuelLog R} {i : Nat} {p : Process}

theorem current_create {id companyId : String} {dto : CreateFuelLogDto R} {queued : Bool}
    (hidle : s.threads = [] ∧ s.jobs = 0 ∧ ∀ p, s.crossCheckInProgress p = false) :
    Inv pageDistance T (s.create id companyId dto queued) := by
  obtain ⟨hthreads, -, hfree⟩ := hidle
  refine ⟨.inl rfl, ?_, ?_, ?_⟩
  · intro th hth
    have hnew : th ∈ s.threads ++ [_] := hth
    rw [hthreads, List.nil_append, List.mem_singleton] at hnew
    subst hnew
    cases queued with
    | true => trivial
    | false => exact ⟨rfl, .inl rfl⟩
  · intro p hp
    exact absurd ((hfree p).symm.trans hp) Bool.false_ne_true
  · intro _
    refine .inr ⟨_, List.mem_append_right _ List.mem_cons_self, ?_⟩
    cases queued <;> trivial

theorem current_queue (hs : s.Current pageDistance T log) (hi : s.threads[i]? = some .queueing) :
    { s.endThread i with jobs := s.jobs + 1 }.Current pageDistance T log := by
  refine ⟨hs.flags, ?_, ?_, fun _ => .inl (Nat.succ_pos _)⟩
  · intro th hth
    exact hs.threads th (List.mem_of_mem_eraseIdx hth)
  · intro p hp
    obtain ⟨th, hth, hin⟩ := hs.lock p hp
    refine ⟨th, mem_eraseIdx_of_ne hi hth ?_, hin⟩
    rintro rfl
    exact hin

/-- A call that has a new thread, of a snapshot of the row if it checks. -/
theorem current_addThread (hs : s.Current pageDistance T log) {th : CheckThread R}
    (hgood : th.Good pageDistance T log) : (s.addThread th).Current pageDistance T log := by
  refine ⟨hs.flags, ?_, ?_, ?_⟩
  · exact forall_mem_concat hs.threads hgood
  · intro p hp
    obtain ⟨th', hth', hin⟩ := hs.lock p hp
    exact ⟨th', List.mem_append_left _ hth', hin⟩
  · intro hne
    exact (hs.pending hne).imp_right fun ⟨th', hth', hpending⟩ =>
      ⟨th', List.mem_append_left _ hth', hpending⟩

theorem current_job (hs : s.Current pageDistance T log) (p : Process) (jobs : Nat) :
    ({ s with jobs := jobs }.addThread (.checking p log)).Current pageDistance T log := by
  have hseen : CheckThread.Seen pageDistance T log log := by
    refine ⟨rfl, ?_⟩
    rcases hs.flags with hreset | hcurrent
    · exact .inl hreset
    · exact .inr ⟨hcurrent, hcurrent⟩
  refine ⟨hs.flags, ?_, ?_, ?_⟩
  · exact forall_mem_concat hs.threads hseen
  · intro q hq
    obtain ⟨th, hth, hin⟩ := hs.lock q hq
    exact ⟨th, List.mem_append_left _ hth, hin⟩
  · intro _
    exact .inr ⟨_, List.mem_append_right _ List.mem_cons_self, trivial⟩

/-- A call that ends, while the flags are current or another call checks. -/
theorem current_endThread (hs : s.Current pageDistance T log) {old : CheckThread R}
    (hi : s.threads[i]? = some old) (hset : ∀ p, ¬old.InSet p)
    (hpending : log.gpsFlags ≠ crossCheckFuelLogWithGps pageDistance T log →
      0 < s.jobs ∨ ∃ th ∈ s.threads, th.Pending ∧ th ≠ old) :
    (s.endThread i).Current pageDistance T log := by
  refine ⟨hs.flags, ?_, ?_, ?_⟩
  · intro th hth
    exact hs.threads th (List.mem_of_mem_eraseIdx hth)
  · intro p hp
    obtain ⟨th, hth, hin⟩ := hs.lock p hp
    refine ⟨th, mem_eraseIdx_of_ne hi hth ?_, hin⟩
    rintro rfl
    exact hset p hin
  · intro hne
    rcases hpending hne with hjobs | ⟨th, hth, hp, hother⟩
    · exact .inl hjobs
    · exact .inr ⟨th, mem_eraseIdx_of_ne hi hth hother, hp⟩

/-- A check that goes on, in the set of its process. -/
theorem current_setThread (hs : s.Current pageDistance T log) {old : CheckThread R}
    (hi : s.threads[i]? = some old) (new : CheckThread R) (hgood : new.Good pageDistance T log)
    (hchecks : new.Pending) (held : Process → Bool) (hset : ∀ q, held q = true → new.InSet q ∨
      s.crossCheckInProgress q = true ∧ ¬old.InSet q) :
    ({ s with crossCheckInProgress := held }.setThread i new).Current pageDistance T log := by
  refine ⟨hs.flags, forall_mem_set hs.threads hgood, fun q hq => ?_,
    fun _ => .inr ⟨new, mem_set_self hi, hchecks⟩⟩
  · rcases hset q hq with hnew | ⟨hold, hnot⟩
    · exact ⟨new, mem_set_self hi, hnew⟩
    · obtain ⟨th, hth, hin⟩ := hs.lock q hold
      refine ⟨th, mem_set_of_ne hi hth ?_, hin⟩
      rintro rfl
      exact hnot hin

theorem current_enter {snapshot : FuelLog R} (hs : s.Current pageDistance T log)
    (hi : s.threads[i]? = some (.checking p snapshot)) {t : CheckRun R}
    (ht : t = if snapshot.kilometers ≤ 0 then s.endThread i
      else if s.crossCheckInProgress p then s.endThread i
      else (s.setInProgress p true).setThread i (.locked p snapshot)) :
    t.Current pageDistance T log := by
  have hseen : CheckThread.Seen pageDistance T log snapshot :=
    hs.threads _ (List.mem_of_getElem? hi)
  subst ht
  split_ifs with hzero hbusy
  · -- nothing to compare: the current flags are the reset ones
    refine current_endThread hs hi (fun _ h => h) fun hne => absurd ?_ hne
    have hsame : snapshot.kilometers = log.kilometers := congrArg Measured.kilometers hseen.1
    have hkm : log.kilometers ≤ 0 := hsame ▸ hzero
    rcases hs.flags with hreset | hcurrent
    · rw [hreset, crossCheckFuelLogWithGps, if_pos hkm]
    · exact hcurrent
  · -- the check in progress has a snapshot as good as this one
    refine current_endThread hs hi (fun _ h => h) fun _ => .inr ?_
    obtain ⟨th, hth, hin⟩ := hs.lock p hbusy
    refine ⟨th, hth, ?_, ?_⟩
    · cases th with
      | queueing => trivial
      | updating existing dto => exact hin
      | checking q snap => trivial
      | locked q snap => trivial
      | writing q ws => trivial
    · rintro rfl
      exact hin
  · refine current_setThread hs hi (.locked p snapshot) ⟨hseen, hzero⟩ trivial _ ?_
    intro q hq
    by_cases hqp : q = p
    · exact .inl hqp.symm
    · rw [Function.update_of_ne hqp] at hq
      exact .inr ⟨hq, id⟩

theorem current_scan {snapshot : FuelLog R} (hs : s.Current pageDistance T log)
    (hi : s.threads[i]? = some (.locked p snapshot)) :
    (s.setThread i (.writing p (checkWrites pageDistance T log snapshot))).Current pageDistance T
      log := by
  obtain ⟨⟨hsame, hflags⟩, hzero⟩ := hs.threads _ (List.mem_of_getElem? hi)
  have hequal : snapshot.kilometers = log.kilometers := congrArg Measured.kilometers hsame
  have hkm : ¬log.kilometers ≤ 0 := hequal ▸ hzero
  have hcurrent : crossCheckFuelLogWithGps pageDistance T log = _ := crossCheck_eq hkm
  refine current_setThread hs hi (.writing p _) ?_ trivial s.crossCheckInProgress ?_
  · rw [checkWrites_eq hsame]
    refine ⟨fun hnil => ?_, fun w hw => ?_⟩
    · rcases hflags with hreset | ⟨-, hrow⟩
      · rw [hreset] at hnil
        rcases hs.flags with hlog | hlog
        · rw [hlog, hcurrent, GpsVerdict.flags_of_writes_nil hnil]
        · exact hlog
      · exact hrow
    · rw [hcurrent] at hflags ⊢
      exact GpsVerdict.writes_lead (hflags.imp_right And.left) hw
  · intro q hq
    by_cases hqp : p = q
    · exact .inl hqp
    · exact .inr ⟨hq, hqp⟩

theorem current_flag {w : FlagWrite} {ws : List FlagWrite} (hs : s.Current pageDistance T log)
    (hi : s.threads[i]? = some (.writing p (w :: ws))) :
    Inv pageDistance T
      ({ s with log := some (log.setFlags (w.apply log.gpsFlags)) }.setThread i (.writing p ws)) := by
  obtain ⟨-, hlead⟩ := hs.threads _ (List.mem_of_getElem? hi)
  obtain ⟨hreset, hcurrent⟩ := hlead w List.mem_cons_self
  have hnow : w.apply log.gpsFlags = crossCheckFuelLogWithGps pageDistance T log := by
    rcases hs.flags with h | h
    · rw [h, hreset]
    · rw [h, hcurrent]
  have hmeasured : (log.setFlags (w.apply log.gpsFlags)).measured = log.measured := rfl
  have hcheck : crossCheckFuelLogWithGps pageDistance T (log.setFlags (w.apply log.gpsFlags)) =
      crossCheckFuelLogWithGps pageDistance T log := crossCheck_congr hmeasured
  have hdone : (log.setFlags (w.apply log.gpsFlags)).gpsFlags =
      crossCheckFuelLogWithGps pageDistance T (log.setFlags (w.apply log.gpsFlags)) :=
    hnow.trans hcheck.symm
  refine ⟨.inr hdone, ?_, ?_, fun hne => absurd hdone hne⟩
  · intro th hth
    rcases List.mem_or_eq_of_mem_set hth with hold | rfl
    · exact (hs.threads th hold).mono hmeasured fun h => hnow.trans h.symm
    · refine ⟨fun _ => hdone, fun w' hw' => ?_⟩
      rw [hcheck]
      exact hlead w' (List.mem_cons_of_mem _ hw')
  · intro q hq
    obtain ⟨th, hth, hin⟩ := hs.lock q hq
    by_cases hqp : p = q
    · exact ⟨_, mem_set_self hi, hqp⟩
    · refine ⟨th, mem_set_of_ne hi hth ?_, hin⟩
      rintro rfl
      exact hqp hin

theorem current_leave (hs : s.Current pageDistance T log)
    (hi : s.threads[i]? = some (.writing p [])) :
    ((s.setInProgress p false).endThread i).Current pageDistance T log := by
  have hdone := (hs.threads _ (List.mem_of_getElem? hi)).1 rfl
  refine ⟨hs.flags, ?_, ?_, fun hne => absurd hdone hne⟩
  · intro th hth
    exact hs.threads th (List.mem_of_mem_eraseIdx hth)
  · intro q hq
    by_cases hqp : q = p
    · subst hqp
      have hoff : (s.setInProgress q false).crossCheckInProgress q = false :=
        Function.update_self ..
      exact absurd (hoff.symm.trans hq) Bool.false_ne_true
    · have hother : (s.setInProgress p false).crossCheckInProgress q = s.crossCheckInProgress q :=
        Function.update_of_ne hqp ..
      obtain ⟨th, hth, hin⟩ := hs.lock q (hother.symm.trans hq)
      refine ⟨th, mem_eraseIdx_of_ne hi hth ?_, hin⟩
      rintro rfl
      exact hqp hin.symm

theorem current_write {existing : FuelLog R} {dto : UpdateFuelLogDto R}
    (hs : s.Current pageDistance T log) (hi : s.threads[i]? = some (.updating existing dto))
    (hmeasured : (dto.patch log).measured ≠ log.measured → measuredChanged existing dto = true)
    (hfree : measuredChanged existing dto = true → ∀ th ∈ s.threads, th.checks = false) :
    Inv pageDistance T (s.write i existing dto log) := by
  unfold write
  split
  · rename_i hchanged
    have hnone := hfree hchanged
    refine ⟨.inl rfl, ?_, ?_, fun _ => .inr ⟨_, mem_set_self hi, trivial⟩⟩
    · intro th hth
      rcases List.mem_or_eq_of_mem_set hth with hold | rfl
      · have hnot := hnone th hold
        cases th with
        | queueing => trivial
        | updating existing dto => trivial
        | checking q snap => cases hnot
        | locked q snap => cases hnot
        | writing q ws => cases hnot
      · exact ⟨rfl, .inl rfl⟩
    · intro q hq
      obtain ⟨th, hth, hin⟩ := hs.lock q hq
      have hnot := hnone th hth
      cases th with
      | queueing => exact absurd hin id
      | updating existing dto => exact absurd hin id
      | checking q snap => cases hnot
      | locked q snap => cases hnot
      | writing q ws => cases hnot
  · rename_i hsame
    have heq : (dto.patch log).measured = log.measured := by
      by_contra hne
      exact hsame (hmeasured hne)
    have hflags : (dto.patch log).gpsFlags = log.gpsFlags := rfl
    have hcheck : crossCheckFuelLogWithGps pageDistance T (dto.patch log) =
        crossCheckFuelLogWithGps pageDistance T log := crossCheck_congr heq
    have hpatched : { s with log := some (dto.patch log) }.Current pageDistance T (dto.patch log) := by
      refine ⟨by rw [hflags, hcheck]; exact hs.flags, ?_, hs.lock, ?_⟩
      · intro th hth
        exact (hs.threads th hth).mono heq fun _ => hflags
      · intro hne
        rw [hflags, hcheck] at hne
        exact hs.pending hne
    refine current_endThread hpatched hi (fun _ h => h) fun hne => ?_
    refine (hpatched.pending hne).imp_right ?_
    rintro ⟨th, hth, hpending⟩
    refine ⟨th, hth, hpending, ?_⟩
    rintro rfl
    exact hpending

theorem current_of_inv (hs : s.Inv pageDistance T) (hlog : s.log = some log) :
    s.Current pageDistance T log := by
  rw [Inv, hlog] at hs
  exact hs

theorem inv_of_current {t : CheckRun R} (hlog : t.log = some log)
    (ht : t.Current pageDistance T log) : t.Inv pageDistance T := by
  rw [Inv, hlog]
  exact ht

/-- A thread is there only once the fill-up is. -/
theorem exists_log (hs : s.Inv pageDistance T) {th : CheckThread R} (hi : s.threads[i]? = some th) :
    ∃ log, s.log = some log := by
  cases hlog : s.log with
  | some log => exact ⟨log, rfl⟩
  | none =>
    rw [Inv, hlog] at hs
    rw [hs.1] at hi
    cases hi

theorem inv_step {t : CheckRun R} {e : CheckEvent R} (hs : s.Inv pageDistance T)
    (hstep : s.step pageDistance T e = some t) (hfresh : s.FreshWrite e) : t.Inv pageDistance T := by
  cases e with
  | create id companyId dto queued =>
    rw [step] at hstep
    split at hstep
    · rename_i hnone
      rw [Bool.and_eq_true, Option.isNone_iff_eq_none] at hnone
      obtain rfl := Option.some.inj hstep
      rw [Inv, hnone.1] at hs
      exact current_create hs
    · cases hstep
  | queue i =>
    rw [step] at hstep
    split at hstep
    · rename_i hi
      obtain rfl := Option.some.inj hstep
      obtain ⟨log, hlog⟩ := exists_log hs hi
      exact inv_of_current hlog (current_queue (current_of_inv hs hlog) hi)
    · cases hstep
  | findOne companyId dto =>
    rw [step] at hstep
    split at hstep
    · rename_i log hlog
      split at hstep
      · obtain rfl := Option.some.inj hstep
        exact inv_of_current hlog (current_addThread (current_of_inv hs hlog) trivial)
      · cases hstep
    · cases hstep
  | write i =>
    rw [step] at hstep
    split at hstep
    · rename_i existing dto log hi hlog
      obtain rfl := Option.some.inj hstep
      rw [FreshWrite, freshWrite, hi, hlog] at hfresh
      simp only [Bool.and_eq_true, Bool.or_eq_true, decide_eq_true_eq, Bool.not_eq_true',
        List.all_eq_true] at hfresh
      obtain ⟨hmeasured, hfree⟩ := hfresh
      refine current_write (current_of_inv hs hlog) hi hmeasured.resolve_right ?_
      intro hchanged
      rw [hchanged] at hfree
      exact hfree.resolve_left Bool.noConfusion
    · cases hstep
  | job p =>
    rw [step] at hstep
    split at hstep
    · rename_i jobs log _ hlog
      obtain rfl := Option.some.inj hstep
      exact inv_of_current hlog (current_job (current_of_inv hs hlog) p jobs)
    · cases hstep
  | enter i =>
    rw [step] at hstep
    split at hstep
    · rename_i p snapshot hi
      obtain ⟨log, hlog⟩ := exists_log hs hi
      have ht : t = if snapshot.kilometers ≤ 0 then s.endThread i
          else if s.crossCheckInProgress p then s.endThread i
          else (s.setInProgress p true).setThread i (.locked p snapshot) := by
        split_ifs at hstep ⊢ <;> exact (Option.some.inj hstep).symm
      refine inv_of_current ?_ (current_enter (current_of_inv hs hlog) hi ht)
      rw [ht]
      split_ifs <;> exact hlog
    · cases hstep
  | scan i =>
    rw [step] at hstep
    split at hstep
    · rename_i p snapshot log hi hlog
      obtain rfl := Option.some.inj hstep
      exact inv_of_current hlog (current_scan (current_of_inv hs hlog) hi)
    · cases hstep
  | flag i =>
    rw [step] at hstep
    split at hstep
    · rename_i p w ws log hi hlog
      obtain rfl := Option.some.inj hstep
      exact current_flag (current_of_inv hs hlog) hi
    · cases hstep
  | leave i =>
    rw [step] at hstep
    split at hstep
    · rename_i p hi
      obtain rfl := Option.some.inj hstep
      obtain ⟨log, hlog⟩ := exists_log hs hi
      exact inv_of_current hlog (current_leave (current_of_inv hs hlog) hi)
    · cases hstep

/-- After a run whose updates write fresh, when all calls and jobs have ended, the flags are those of
a check of the stored row. -/
theorem verdict_current {t : CheckRun R} {es : List (CheckEvent R)}
    (hrun : Run (Guarded (Steps (step pageDistance T)) FreshWrite) start es t) (hquiet : t.Quiet)
    {log : FuelLog R} (hlog : t.log = some log) :
    log.gpsFlags = crossCheckFuelLogWithGps pageDistance T log := by
  have hinv : t.Inv pageDistance T :=
    hrun.invariant (I := Inv pageDistance T) (fun hs hstep => inv_step hs hstep.1 hstep.2)
      ⟨rfl, rfl, fun _ => rfl⟩
  have hcurrent := current_of_inv hinv hlog
  by_contra hne
  rcases hcurrent.pending hne with hjobs | ⟨th, hth, -⟩
  · rw [hquiet.2] at hjobs
    exact absurd hjobs (Nat.lt_irrefl 0)
  · rw [hquiet.1] at hth
    cases hth

end Steps

end CheckRun

/-! ## Two corrections of one fill-up -/

/-- The chord from fix to fix, with no road matching: every fix is in motion. -/
def chordScan (matchBudget : Nat) (fixes : List (Fix ℚ)) : ℚ × Nat := (chordDistance fixes, matchBudget)

/-- A vehicle that drives a kilometre a minute, and a fill-up three minutes after its start. -/
def shortTrip : CrossCheckTables ℚ where
  vehicles := sampleFleet.vehicles
  otherLogs := []
  positions := ⟨[
    { samplePosition sampleMorning (-19) none with speed := some 20 },
    { samplePosition (sampleMorning + 60000) (-1899 / 100) none with speed := some 20 },
    { samplePosition (sampleMorning + 120000) (-1898 / 100) none with speed := some 20 }], by decide⟩
  crossCheckThreshold := fun _ => none

def newFill (kilometers : ℚ) : CreateFuelLogDto ℚ :=
  { vehicleId := "vehicle-1", fillDate := sampleMorning + 180000, liters := 10
    kilometers := kilometers, cost := 50000 }

def correct (kilometers : ℚ) : UpdateFuelLogDto ℚ :=
  { vehicleId := none, fillDate := none, liters := none, kilometers := some kilometers, cost := none }

/-- A fill-up is created and checked by the worker. -/
def created : List (CheckEvent ℚ) :=
  [.create "log-1" "company-1" (newFill 1) true, .queue 0, .job .worker, .enter 0, .scan 0, .leave 0]

/-- Then its kilometres are corrected to 400. -/
def corrected : List (CheckEvent ℚ) :=
  created ++ [.findOne "company-1" (correct 400), .write 0, .enter 0, .scan 0, .flag 0, .leave 0]

theorem corrected_current : ∃ t log,
    Run (Guarded (Steps (CheckRun.step chordScan shortTrip)) CheckRun.FreshWrite) .start corrected t ∧
      t.log = some log ∧ log.gpsFlags = ⟨true, false⟩ ∧
      log.gpsFlags = crossCheckFuelLogWithGps chordScan shortTrip log := by
  have hend : (corrected.foldlM (guardStep (CheckRun.step chordScan shortTrip) CheckRun.FreshWrite)
      .start).any (fun t => t.threads.isEmpty && (t.jobs == 0 &&
        t.log.any fun log => log.gpsFlags == ⟨true, false⟩)) = true := by
    decide +kernel
  obtain ⟨t, ht, htest⟩ := Option.any_eq_true _ _ |>.mp hend
  simp only [Bool.and_eq_true, beq_iff_eq, List.isEmpty_iff] at htest
  obtain ⟨hthreads, hjobs, hlog⟩ := htest
  obtain ⟨log, hsome, hflags⟩ := (Option.any_eq_true _ _).mp hlog
  have hrun := Run.of_guardStep ht
  exact ⟨t, log, hrun, hsome, beq_iff_eq.mp hflags,
    CheckRun.verdict_current hrun ⟨hthreads, hjobs⟩ hsome⟩

/-- Its kilometres are corrected to 400, then, while that check runs, back to 1. -/
def overlapping : List (CheckEvent ℚ) :=
  created ++ [.findOne "company-1" (correct 400), .write 0, .enter 0,
    .findOne "company-1" (correct 1), .scan 0, .write 1, .enter 1, .flag 0, .leave 0]

/-- The check of the second correction is skipped, and the one of the first flags the kilometre of the
second. -/
theorem overlapping_stale : ∃ t log,
    Run (Steps (CheckRun.step chordScan shortTrip)) .start overlapping t ∧ t.Quiet ∧
      t.log = some log ∧ log.kilometers = 1 ∧ log.gpsFlags = ⟨true, false⟩ ∧
      crossCheckFuelLogWithGps chordScan shortTrip log = .reset := by
  have hend : (overlapping.foldlM (CheckRun.step chordScan shortTrip) .start).any (fun t =>
      t.threads.isEmpty && (t.jobs == 0 && t.log.any fun log =>
        log.kilometers == 1 && (log.gpsFlags == ⟨true, false⟩ &&
          crossCheckFuelLogWithGps chordScan shortTrip log == .reset))) = true := by
    decide +kernel
  obtain ⟨t, hrun, ht⟩ := Run.of_foldlM_any hend
  simp only [Bool.and_eq_true, beq_iff_eq, List.isEmpty_iff] at ht
  obtain ⟨hthreads, hjobs, hlog⟩ := ht
  obtain ⟨log, hsome, htest⟩ := (Option.any_eq_true _ _).mp hlog
  simp only [Bool.and_eq_true, beq_iff_eq] at htest
  exact ⟨t, log, hrun, ⟨hthreads, hjobs⟩, hsome, htest⟩

end DeliveryTracking.Fuel
