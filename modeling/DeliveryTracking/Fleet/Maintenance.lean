/-
# `DeliveryTracking.Fleet.Maintenance` — what is to be serviced, and the alerts of it

A schedule counts the kilometres, the months or both since the last record of its type
on its vehicle.  Its status is computed each time it is read:

    overdue    nothing remains of one of the two
    upcoming   500 km or 14 days remain, at most
    ok         else

and gets no better while nothing is recorded (`status_mono`).  A nightly pass raises an
alert for each active schedule that is not `ok`, unless one is open: there is at most
one at any time, and one after the pass (`alerts_cover`).
-/
import DeliveryTracking.Calendar
import DeliveryTracking.Geo.Rounding
import DeliveryTracking.Runs
import DeliveryTracking.Table
import Mathlib.Algebra.Order.BigOperators.Group.List
import Mathlib.Data.List.Sort

namespace DeliveryTracking.Fleet.Maintenance

open DeliveryTracking.Calendar DeliveryTracking.Geo

def WARNING_KM_THRESHOLD {R : Type} [Field R] : R := 500
def WARNING_DAYS_THRESHOLD : Int := 14

inductive MaintenanceStatus where
  | ok
  | upcoming
  | overdue
  deriving DecidableEq, Repr

/-- How urgent a status is. -/
def MaintenanceStatus.rank : MaintenanceStatus → Nat
  | ok => 0
  | upcoming => 1
  | overdue => 2

inductive MaintenanceError where
  | vehicleNotFound
  | scheduleNotFound
  | noInterval
  deriving DecidableEq

def MaintenanceError.message : MaintenanceError → String
  | vehicleNotFound => "Vehicle not found"
  | scheduleNotFound => "Maintenance schedule not found"
  | noInterval => "Précisez un intervalle en kilomètres et/ou en mois (au moins un des deux)"

structure Schedule where
  id : String
  companyId : String
  vehicleId : String
  label : String
  type : String
  intervalKm : Option Int
  intervalMonths : Option Int
  isActive : Bool
  createdAt : Int
  deriving DecidableEq

structure Vehicle where
  id : String
  companyId : String
  brand : String
  model : String
  licensePlate : String
  deleted : Bool

structure MaintenanceRecord where
  vehicleId : String
  type : String
  date : Int

structure DailyFuelReport (R : Type) where
  vehicleId : String
  reportDate : Int
  distanceKm : R

inductive NotificationType where
  | maintenanceDue
  | other
  deriving DecidableEq

inductive NotificationPriority where
  | low
  | medium
  | high
  | critical
  deriving DecidableEq

structure Notification where
  id : String
  companyId : String
  type : NotificationType
  priority : NotificationPriority
  link : Option String
  resolved : Bool

/-- A number that is neither `null` nor zero. -/
def truthy (x : Option Int) : Option Int := x.filter (· ≠ 0)

/-! ## Statuses -/

structure ScheduleWithStatus (R : Type) where
  schedule : Schedule
  vehicleLabel : String
  referenceDate : Int
  kmSinceService : Option R
  kmRemaining : Option R
  nextDueDate : Option Int
  daysRemaining : Option Int
  status : MaintenanceStatus

/-- What the statuses are computed from. -/
structure History (R : Type) where
  vehicles : List Vehicle
  records : List MaintenanceRecord
  reports : List (DailyFuelReport R)

/-- The newest record of the type, or the creation of the schedule. -/
def getReferenceDate (records : List MaintenanceRecord) (vehicleId type : String)
    (scheduleCreatedAt : Int) : Int :=
  ((lastBy MaintenanceRecord.date
    (records.filter fun r => r.vehicleId = vehicleId ∧ r.type = type)).map
      MaintenanceRecord.date).getD scheduleCreatedAt

section Status

variable {R : Type} [Field R] [LinearOrder R] [JsMath R]

def getKmSince (reports : List (DailyFuelReport R)) (vehicleId : String) (since : Int) : R :=
  ((reports.filter fun r => r.vehicleId = vehicleId ∧ since < r.reportDate).map
    DailyFuelReport.distanceKm).sum

omit [JsMath R] in
def computeStatus (kmRemaining : Option R) (daysRemaining : Option Int) : MaintenanceStatus :=
  if kmRemaining.any (fun km => decide (km ≤ 0)) || daysRemaining.any (fun days => decide (days ≤ 0))
  then .overdue
  else if kmRemaining.any (fun km => decide (km ≤ WARNING_KM_THRESHOLD)) ||
      daysRemaining.any (fun days => decide (days ≤ WARNING_DAYS_THRESHOLD)) then .upcoming
  else .ok

/-- `Math.round((intervalKm - kmSinceService) * 10) / 10` -/
def kmRemaining (intervalKm : Int) (kmSinceService : R) : R :=
  JsMath.round ((intervalKm - kmSinceService) * 10) / 10

/-- `setMonth(getMonth() + intervalMonths)`, in UTC. -/
def nextDueDate (referenceDate intervalMonths : Int) : Int :=
  setUTCMonth referenceDate (getUTCMonth referenceDate + intervalMonths)

/-- `Math.ceil((nextDueDate - Date.now()) / 86_400_000)` -/
def daysUntil (now nextDueDate : Int) : Int := -((now - nextDueDate) / msPerDay)

def withStatus (now : Int) (history : History R) (schedule : Schedule) (vehicleLabel : String) :
    ScheduleWithStatus R :=
  let referenceDate :=
    getReferenceDate history.records schedule.vehicleId schedule.type schedule.createdAt
  let kmSinceService := (truthy schedule.intervalKm).map fun _ =>
    getKmSince history.reports schedule.vehicleId referenceDate
  let kmLeft := (truthy schedule.intervalKm).map fun intervalKm =>
    kmRemaining intervalKm (getKmSince history.reports schedule.vehicleId referenceDate)
  let dueDate := (truthy schedule.intervalMonths).map (nextDueDate referenceDate)
  let daysLeft := dueDate.map (daysUntil now)
  { schedule := schedule
    vehicleLabel := vehicleLabel
    referenceDate := referenceDate
    kmSinceService := kmSinceService
    kmRemaining := kmLeft
    nextDueDate := dueDate
    daysRemaining := daysLeft
    status := computeStatus kmLeft daysLeft }

def vehicleLabel (vehicles : List Vehicle) (vehicleId : String) : String :=
  match vehicles.find? fun v => v.id = vehicleId with
  | some v => v.brand ++ " " ++ v.model ++ " (" ++ v.licensePlate ++ ")"
  | none => ""

/-- Newest first. -/
def byCreation (schedules : List Schedule) : List Schedule :=
  schedules.insertionSort fun a b => b.createdAt ≤ a.createdAt

def findDueSoon (now : Int) (history : History R) (schedules : List Schedule) (companyId : String) :
    List (ScheduleWithStatus R) :=
  (((byCreation (schedules.filter fun s => s.companyId = companyId ∧ s.isActive)).map fun s =>
    withStatus now history s (vehicleLabel history.vehicles s.vehicleId)).filter
      fun s => s.status ≠ .ok).insertionSort fun a b => b.status.rank ≤ a.status.rank

/-! ## Between two services -/

omit [JsMath R] in
/-- Less remains, and the schedule is as urgent at least. -/
theorem computeStatus_mono {km km' : Option R} {days days' : Option Int}
    (hkm : ∀ x, km = some x → ∃ y, km' = some y ∧ y ≤ x)
    (hdays : ∀ x, days = some x → ∃ y, days' = some y ∧ y ≤ x) :
    (computeStatus km days).rank ≤ (computeStatus km' days').rank := by
  have hany : ∀ bound : R, km.any (fun x => decide (x ≤ bound)) = true →
      km'.any (fun x => decide (x ≤ bound)) = true := by
    intro bound h
    obtain ⟨x, hx, hle⟩ := (Option.any_eq_true ..).mp h
    obtain ⟨y, hy, hyx⟩ := hkm x hx
    exact (Option.any_eq_true ..).mpr ⟨y, hy, decide_eq_true (hyx.trans (of_decide_eq_true hle))⟩
  have hanyDays : ∀ bound : Int, days.any (fun x => decide (x ≤ bound)) = true →
      days'.any (fun x => decide (x ≤ bound)) = true := by
    intro bound h
    obtain ⟨x, hx, hle⟩ := (Option.any_eq_true ..).mp h
    obtain ⟨y, hy, hyx⟩ := hdays x hx
    exact (Option.any_eq_true ..).mpr ⟨y, hy, decide_eq_true (hyx.trans (of_decide_eq_true hle))⟩
  have hor : ∀ (bound : R) (boundDays : Int),
      (km.any (fun x => decide (x ≤ bound)) || days.any fun x => decide (x ≤ boundDays)) = true →
        (km'.any (fun x => decide (x ≤ bound)) ||
          days'.any fun x => decide (x ≤ boundDays)) = true := by
    intro bound boundDays h
    rw [Bool.or_eq_true] at h ⊢
    exact h.imp (hany bound) (hanyDays boundDays)
  rw [computeStatus, computeStatus]
  by_cases hoverdue : (km.any (fun km => decide (km ≤ 0)) ||
      days.any fun days => decide (days ≤ 0)) = true
  · rw [if_pos hoverdue, if_pos (hor 0 0 hoverdue)]
  · rw [if_neg hoverdue]
    by_cases hupcoming : (km.any (fun km => decide (km ≤ WARNING_KM_THRESHOLD)) ||
        days.any fun days => decide (days ≤ WARNING_DAYS_THRESHOLD)) = true
    · rw [if_pos hupcoming, if_pos (hor _ _ hupcoming)]
      split
      · decide
      · exact Nat.le_refl _
    · rw [if_neg hupcoming]
      exact Nat.zero_le _

theorem daysUntil_anti {now now' dueDate : Int} (h : now ≤ now') :
    daysUntil now' dueDate ≤ daysUntil now dueDate := by
  rw [daysUntil, daysUntil, msPerDay_eq]
  omega

variable [IsStrictOrderedRing R] [FloorRing R] [RoundsHalfUp R]

theorem kmRemaining_anti {intervalKm : Int} {km km' : R} (h : km ≤ km') :
    kmRemaining intervalKm km' ≤ kmRemaining intervalKm km := by
  rw [kmRemaining, kmRemaining]
  have hround := RoundsHalfUp.round_mono (R := R)
    (show (intervalKm - km') * 10 ≤ ((intervalKm : R) - km) * 10 by linarith)
  linarith

omit [FloorRing R] [RoundsHalfUp R] [JsMath R] in
/-- The reports of more days add up to more. -/
theorem getKmSince_mono {reports more : List (DailyFuelReport R)} {vehicleId : String} {since : Int}
    (hdistance : ∀ r ∈ more, 0 ≤ r.distanceKm) :
    getKmSince reports vehicleId since ≤ getKmSince (reports ++ more) vehicleId since := by
  rw [getKmSince, getKmSince, List.filter_append, List.map_append, List.sum_append]
  refine le_add_of_nonneg_right (List.sum_nonneg fun x hx => ?_)
  obtain ⟨r, hr, rfl⟩ := List.mem_map.mp hx
  exact hdistance r (List.mem_of_mem_filter hr)

/-- **A schedule gets no less urgent until a service of its type is recorded**, while time passes
and the vehicle drives. -/
theorem status_mono {now now' : Int} (hnow : now ≤ now') {history history' : History R}
    {more : List (DailyFuelReport R)} (hreports : history'.reports = history.reports ++ more)
    (hdistance : ∀ r ∈ more, 0 ≤ r.distanceKm) {schedule : Schedule}
    {recorded : List MaintenanceRecord} (hrecords : history'.records = history.records ++ recorded)
    (hnone : ∀ r ∈ recorded, ¬ (r.vehicleId = schedule.vehicleId ∧ r.type = schedule.type))
    (label label' : String) :
    (withStatus now history schedule label).status.rank ≤
      (withStatus now' history' schedule label').status.rank := by
  have hreference : getReferenceDate history'.records schedule.vehicleId schedule.type
      schedule.createdAt = getReferenceDate history.records schedule.vehicleId schedule.type
        schedule.createdAt := by
    have hother : (recorded.filter fun r =>
        r.vehicleId = schedule.vehicleId ∧ r.type = schedule.type) = [] :=
      List.filter_eq_nil_iff.mpr fun r hr => by simpa using hnone r hr
    rw [getReferenceDate, getReferenceDate, hrecords, List.filter_append, hother, List.append_nil]
  refine computeStatus_mono ?_ ?_
  · intro x hx
    obtain ⟨intervalKm, hinterval, rfl⟩ := Option.map_eq_some_iff.mp hx
    refine ⟨_, Option.map_eq_some_iff.mpr ⟨intervalKm, hinterval, rfl⟩, ?_⟩
    rw [hreference, hreports]
    exact kmRemaining_anti (getKmSince_mono hdistance)
  · intro x hx
    obtain ⟨dueDate, hdue, rfl⟩ := Option.map_eq_some_iff.mp hx
    rw [hreference]
    exact ⟨_, Option.map_eq_some_iff.mpr ⟨dueDate, hdue, rfl⟩, daysUntil_anti hnow⟩

def oilChange : Schedule :=
  ⟨"schedule-1", "company-1", "vehicle-1", "Vidange", "vidange", some 5000, none, true, 0⟩

/-- One vehicle, with a report for each distance. -/
def driven (distances : List ℚ) : History ℚ :=
  ⟨[⟨"vehicle-1", "company-1", "Toyota", "Hilux", "1234 TAA", false⟩], [],
    distances.map fun km => ⟨"vehicle-1", 1, km⟩⟩

/-- Two hundred kilometres more, and the oil change is not less due. -/
theorem status_mono_oilChange : (withStatus 0 (driven [4800]) oilChange "").status = .upcoming ∧
    1 ≤ (withStatus 5 (driven [4800, 200]) oilChange "").status.rank := by
  have hupcoming : (withStatus 0 (driven [4800]) oilChange "").status = .upcoming := by
    decide +kernel
  have hreports : (driven [4800, 200]).reports = (driven [4800]).reports ++
      [⟨"vehicle-1", 1, 200⟩] := rfl
  have hrecords : (driven [4800, 200]).records = (driven [4800]).records ++ [] := rfl
  have hnone : ∀ r ∈ ([] : List MaintenanceRecord),
      ¬ (r.vehicleId = oilChange.vehicleId ∧ r.type = oilChange.type) := fun _ h => by cases h
  have hle := status_mono (show (0 : Int) ≤ 5 by decide) hreports (by decide +kernel) hrecords
    hnone "" ""
  rw [hupcoming] at hle
  exact ⟨hupcoming, hle⟩

end Status

/-! ## The alerts -/

def alertLink (scheduleId : String) : String := "/vehicles?maintenanceScheduleId=" ++ scheduleId

/-- An alert under the link that is not resolved. -/
def isOpen (companyId link : String) (n : Notification) : Bool :=
  decide (n.companyId = companyId ∧ n.type = .maintenanceDue ∧ n.resolved = false ∧
    n.link = some link)

structure Tables (R : Type) where
  now : Int
  companies : List String
  schedules : List Schedule
  history : History R
  notifications : List Notification

/-- `undefined`, or a value that may be `null`. -/
abbrev Patch (α : Type) := Option (Option α)

structure UpdateMaintenanceScheduleDto where
  label : Option String
  type : Option String
  intervalKm : Patch Int
  intervalMonths : Patch Int
  isActive : Option Bool

variable {R : Type}

/-- `create`, with a new `id`. -/
def create (s : Tables R) (schedule : Schedule) : Except MaintenanceError (Tables R) :=
  if s.history.vehicles.all fun v =>
      !decide (v.id = schedule.vehicleId ∧ v.companyId = schedule.companyId ∧ v.deleted = false) then
    .error .vehicleNotFound
  else if truthy schedule.intervalKm = none ∧ truthy schedule.intervalMonths = none then
    .error .noInterval
  else .ok { s with schedules := s.schedules ++ [schedule] }

def patched (dto : UpdateMaintenanceScheduleDto) (schedule : Schedule) : Schedule :=
  { schedule with
    label := dto.label.getD schedule.label
    type := dto.type.getD schedule.type
    intervalKm := dto.intervalKm.getD schedule.intervalKm
    intervalMonths := dto.intervalMonths.getD schedule.intervalMonths
    isActive := dto.isActive.getD schedule.isActive }

def update (s : Tables R) (companyId id : String) (dto : UpdateMaintenanceScheduleDto) :
    Except MaintenanceError (Tables R) :=
  match s.schedules.find? fun x => x.id = id ∧ x.companyId = companyId with
  | none => .error .scheduleNotFound
  | some existing =>
      if truthy (patched dto existing).intervalKm = none ∧
          truthy (patched dto existing).intervalMonths = none then
        .error .noInterval
      else
        .ok { s with schedules := s.schedules.map fun x => if x.id = id then patched dto x else x }

def remove (s : Tables R) (companyId id : String) : Except MaintenanceError (Tables R) :=
  match s.schedules.find? fun x => x.id = id ∧ x.companyId = companyId with
  | none => .error .scheduleNotFound
  | some _ => .ok { s with schedules := s.schedules.filter fun x => x.id ≠ id }

/-- `AlertsService.resolve` -/
def resolve (notifications : List Notification) (companyId id : String) : List Notification :=
  if notifications.any fun n => decide (n.id = id ∧ n.companyId = companyId) then
    notifications.map fun n => if n.id = id then { n with resolved := true } else n
  else notifications

section Check

variable [Field R] [LinearOrder R] [JsMath R]

def alertFor (companyId : String) (newId : String) (item : ScheduleWithStatus R) : Notification where
  id := newId
  companyId := companyId
  type := .maintenanceDue
  priority := if item.status = .overdue then .high else .medium
  link := some (alertLink item.schedule.id)
  resolved := false

/-- An alert for the item, unless one is open. -/
def alertUnlessOpen (companyId : String) (newId : String → String) (notifications : List Notification)
    (item : ScheduleWithStatus R) : List Notification :=
  if notifications.any (isOpen companyId (alertLink item.schedule.id)) then notifications
  else notifications ++ [alertFor companyId (newId item.schedule.id) item]

/-- The pass over one company. -/
def checkCompany (s : Tables R) (newId : String → String) (notifications : List Notification)
    (companyId : String) : List Notification :=
  (findDueSoon s.now s.history s.schedules companyId).foldl (alertUnlessOpen companyId newId)
    notifications

/-- `checkDueMaintenances` -/
def checkDueMaintenances (s : Tables R) (newId : String → String) : List Notification :=
  s.companies.foldl (checkCompany s newId) s.notifications

/-! ### One pass -/

/-- How many alerts are open under the link. -/
def openCount (companyId link : String) (notifications : List Notification) : Nat :=
  notifications.countP (isOpen companyId link)

/-- No link has two open alerts. -/
def AtMostOne (notifications : List Notification) : Prop :=
  ∀ companyId link, openCount companyId link notifications ≤ 1

variable {s : Tables R} {newId : String → String} {notifications : List Notification}
  {companyId c link : String} {item : ScheduleWithStatus R}

omit [Field R] [LinearOrder R] [JsMath R] in
theorem isOpen_alertFor {id : String} : isOpen c link (alertFor companyId id item) = true ↔
    companyId = c ∧ alertLink item.schedule.id = link := by
  simp [isOpen, alertFor]

omit [Field R] [LinearOrder R] [JsMath R] in
/-- The alert is open afterwards, and no other one is touched. -/
theorem openCount_alertUnlessOpen :
    openCount c link (alertUnlessOpen companyId newId notifications item) =
      if companyId = c ∧ alertLink item.schedule.id = link then
        max 1 (openCount c link notifications)
      else openCount c link notifications := by
  have hany : notifications.any (isOpen companyId (alertLink item.schedule.id)) = true ↔
      1 ≤ openCount companyId (alertLink item.schedule.id) notifications := by
    rw [openCount, Nat.succ_le_iff, List.countP_pos_iff, List.any_eq_true]
  rw [alertUnlessOpen]
  by_cases hopen : notifications.any (isOpen companyId (alertLink item.schedule.id)) = true
  · rw [if_pos hopen]
    split
    · rename_i hsame
      obtain ⟨rfl, rfl⟩ := hsame
      exact (max_eq_right (hany.mp hopen)).symm
    · rfl
  · rw [if_neg hopen, openCount, List.countP_append, List.countP_singleton]
    have hnone := mt hany.mpr hopen
    by_cases hsame : companyId = c ∧ alertLink item.schedule.id = link
    · rw [if_pos hsame, if_pos (isOpen_alertFor.mpr hsame)]
      obtain ⟨rfl, rfl⟩ := hsame
      rw [openCount] at hnone ⊢
      omega
    · rw [if_neg hsame, if_neg (mt isOpen_alertFor.mp hsame)]
      rfl

omit [Field R] [LinearOrder R] [JsMath R] in
/-- A link is given an open alert or left as it is. -/
theorem openCount_foldl (items : List (ScheduleWithStatus R)) :
    openCount c link notifications ≤
        openCount c link (items.foldl (alertUnlessOpen companyId newId) notifications) ∧
      openCount c link (items.foldl (alertUnlessOpen companyId newId) notifications) ≤
        max 1 (openCount c link notifications) := by
  induction items generalizing notifications with
  | nil => exact ⟨Nat.le_refl _, le_max_right ..⟩
  | cons item items ih =>
    obtain ⟨hle, hmax⟩ := @ih (alertUnlessOpen companyId newId notifications item)
    rw [openCount_alertUnlessOpen] at hle hmax
    rw [List.foldl_cons]
    split at hle
    · rename_i hsame
      rw [if_pos hsame] at hmax
      omega
    · rename_i hother
      rw [if_neg hother] at hmax
      exact ⟨hle, hmax⟩

omit [Field R] [LinearOrder R] [JsMath R] in
/-- Each item has an open alert after the pass. -/
theorem one_le_openCount_foldl {items : List (ScheduleWithStatus R)} (hitem : item ∈ items) :
    1 ≤ openCount companyId (alertLink item.schedule.id)
      (items.foldl (alertUnlessOpen companyId newId) notifications) := by
  induction items generalizing notifications with
  | nil => cases hitem
  | cons first items ih =>
    rw [List.foldl_cons]
    rcases List.mem_cons.mp hitem with rfl | hrest
    · refine Nat.le_trans ?_ (openCount_foldl items).1
      rw [openCount_alertUnlessOpen, if_pos ⟨rfl, rfl⟩]
      exact le_max_left ..
    · exact ih hrest

omit [Field R] [LinearOrder R] [JsMath R] in
/-- Without an item of its own a link is left as it is. -/
theorem openCount_foldl_of_ne (items : List (ScheduleWithStatus R))
    (h : companyId = c → ∀ item ∈ items, alertLink item.schedule.id ≠ link) :
    openCount c link (items.foldl (alertUnlessOpen companyId newId) notifications) =
      openCount c link notifications := by
  induction items generalizing notifications with
  | nil => rfl
  | cons item items ih =>
    rw [List.foldl_cons, ih fun hc item' hitem' => h hc item' (List.mem_cons_of_mem _ hitem'),
      openCount_alertUnlessOpen, if_neg]
    rintro ⟨hc, hlink⟩
    exact h hc item (List.mem_cons_self ..) hlink

/-- The items of a company are its active schedules that are not `ok`. -/
theorem mem_findDueSoon : item ∈ findDueSoon s.now s.history s.schedules companyId ↔
    ∃ schedule ∈ s.schedules, (schedule.companyId = companyId ∧ schedule.isActive = true) ∧
      item.status ≠ .ok ∧ withStatus s.now s.history schedule
        (vehicleLabel s.history.vehicles schedule.vehicleId) = item := by
  rw [findDueSoon, List.mem_insertionSort, List.mem_filter, List.mem_map, decide_eq_true_eq]
  simp only [byCreation, List.mem_insertionSort, List.mem_filter, decide_eq_true_eq]
  constructor
  · rintro ⟨⟨schedule, ⟨hmem, hkept⟩, rfl⟩, hdue⟩
    exact ⟨schedule, hmem, hkept, hdue, rfl⟩
  · rintro ⟨schedule, hmem, hkept, hdue, rfl⟩
    exact ⟨⟨schedule, ⟨hmem, hkept⟩, rfl⟩, hdue⟩

/-- The schedule is due for an alert of the company. -/
structure Due (s : Tables R) (companyId : String) (schedule : Schedule) : Prop where
  mem : schedule ∈ s.schedules
  company : schedule.companyId = companyId
  active : schedule.isActive = true
  urgent : (withStatus s.now s.history schedule
    (vehicleLabel s.history.vehicles schedule.vehicleId)).status ≠ .ok

theorem Due.mem_findDueSoon {schedule : Schedule} (h : Due s companyId schedule) :
    withStatus s.now s.history schedule (vehicleLabel s.history.vehicles schedule.vehicleId) ∈
      findDueSoon s.now s.history s.schedules companyId :=
  Maintenance.mem_findDueSoon.mpr ⟨schedule, h.mem, ⟨h.company, h.active⟩, h.urgent, rfl⟩

theorem openCount_companies (companies : List String) :
    openCount c link notifications ≤
        openCount c link (companies.foldl (checkCompany s newId) notifications) ∧
      openCount c link (companies.foldl (checkCompany s newId) notifications) ≤
        max 1 (openCount c link notifications) := by
  induction companies generalizing notifications with
  | nil => exact ⟨Nat.le_refl _, le_max_right ..⟩
  | cons companyId companies ih =>
    obtain ⟨hle, hmax⟩ := @ih (checkCompany s newId notifications companyId)
    obtain ⟨hle', hmax'⟩ : openCount c link notifications ≤
        openCount c link (checkCompany s newId notifications companyId) ∧
      openCount c link (checkCompany s newId notifications companyId) ≤
        max 1 (openCount c link notifications) := openCount_foldl _
    rw [List.foldl_cons]
    omega

theorem one_le_openCount_companies {companies : List String} (hc : c ∈ companies)
    {schedule : Schedule} (hdue : Due s c schedule) :
    1 ≤ openCount c (alertLink schedule.id)
      (companies.foldl (checkCompany s newId) notifications) := by
  induction companies generalizing notifications with
  | nil => cases hc
  | cons first companies ih =>
    rw [List.foldl_cons]
    rcases List.mem_cons.mp hc with rfl | hrest
    · exact Nat.le_trans (one_le_openCount_foldl hdue.mem_findDueSoon) (openCount_companies _).1
    · exact ih hrest

theorem openCount_companies_of_ne (companies : List String)
    (h : ∀ schedule, Due s c schedule → alertLink schedule.id ≠ link) :
    openCount c link (companies.foldl (checkCompany s newId) notifications) =
      openCount c link notifications := by
  induction companies generalizing notifications with
  | nil => rfl
  | cons companyId companies ih =>
    rw [List.foldl_cons, ih]
    refine openCount_foldl_of_ne _ ?_
    rintro rfl item hitem
    obtain ⟨schedule, hmem, ⟨hcompany, hactive⟩, hurgent, rfl⟩ := mem_findDueSoon.mp hitem
    exact h schedule ⟨hmem, hcompany, hactive, hurgent⟩

/-! ### Runs -/

inductive Event (R : Type) where
  | elapse (ms : Nat)
  | vehicles (vehicles : List Vehicle)
  | create (schedule : Schedule)
  | update (companyId id : String) (dto : UpdateMaintenanceScheduleDto)
  | remove (companyId id : String)
  | record (record : MaintenanceRecord)
  | report (report : DailyFuelReport R)
  /-- A notification of another kind. -/
  | notify (notification : Notification)
  | resolve (companyId id : String)
  | check (newId : String → String)

def step (s : Tables R) : Event R → Option (Tables R)
  | .elapse ms => some { s with now := s.now + ms }
  | .vehicles vehicles => some { s with history := { s.history with vehicles := vehicles } }
  | .create schedule =>
      if s.schedules.any fun x => decide (x.id = schedule.id) then none
      else (create s schedule).toOption
  | .update companyId id dto => (update s companyId id dto).toOption
  | .remove companyId id => (remove s companyId id).toOption
  | .record record =>
      some { s with history := { s.history with records := s.history.records ++ [record] } }
  | .report report =>
      some { s with history := { s.history with reports := s.history.reports ++ [report] } }
  | .notify notification =>
      if notification.type = .other then
        some { s with notifications := s.notifications ++ [notification] }
      else none
  | .resolve companyId id =>
      some { s with notifications := resolve s.notifications companyId id }
  | .check newId => some { s with notifications := checkDueMaintenances s newId }

omit [Field R] [LinearOrder R] [JsMath R] in
/-- An alert that is resolved is not open. -/
theorem openCount_resolve {id : String} :
    openCount c link (resolve notifications companyId id) ≤ openCount c link notifications := by
  rw [resolve]
  split
  · rw [openCount, List.countP_map, openCount]
    refine List.countP_mono_left fun n _ hopen => ?_
    rw [Function.comp_apply] at hopen
    split at hopen
    · simp [isOpen] at hopen
    · exact hopen
  · exact Nat.le_refl _

/-- The schedule counts something. -/
def HasInterval (schedule : Schedule) : Prop :=
  ¬ (truthy schedule.intervalKm = none ∧ truthy schedule.intervalMonths = none)

/-- Every schedule counts something, and no link has two open alerts. -/
structure Sound (s : Tables R) : Prop where
  keys : (s.schedules.map Schedule.id).Nodup
  intervals : ∀ schedule ∈ s.schedules, HasInterval schedule
  atMostOne : AtMostOne s.notifications

omit [Field R] [LinearOrder R] [JsMath R] in
theorem AtMostOne.of_le {notifications' : List Notification} (h : AtMostOne notifications)
    (hle : ∀ companyId link,
      openCount companyId link notifications' ≤ max 1 (openCount companyId link notifications)) :
    AtMostOne notifications' := by
  intro companyId link
  have hone := h companyId link
  have hmax := hle companyId link
  omega

omit [Field R] [LinearOrder R] [JsMath R] in
theorem eq_ok_of_toOption {ε α : Type} {x : Except ε α} {a : α} (h : x.toOption = some a) :
    x = .ok a := by
  cases x with
  | error e => cases h
  | ok b => obtain rfl := Option.some.inj h; rfl

omit [Field R] [LinearOrder R] [JsMath R] in
theorem Sound.create {t : Tables R} {schedule : Schedule} (h : Sound s)
    (hnew : s.schedules.any (fun x => decide (x.id = schedule.id)) = false)
    (hcreate : create s schedule = .ok t) : Sound t := by
  rw [Maintenance.create] at hcreate
  split at hcreate
  · cases hcreate
  · split at hcreate
    · cases hcreate
    · rename_i hinterval
      cases hcreate
      refine ⟨?_, fun x hx => ?_, h.atMostOne⟩
      · rw [List.map_append, List.map_singleton]
        refine List.nodup_append.mpr ⟨h.keys, List.nodup_singleton _, ?_⟩
        rintro id hid _ hlast rfl
        obtain ⟨x, hx, hxid⟩ := List.mem_map.mp hid
        exact List.any_eq_false.mp hnew x hx
          (decide_eq_true (hxid.trans (List.mem_singleton.mp hlast)))
      rcases List.mem_append.mp hx with hx | hx
      · exact h.intervals x hx
      · rw [List.mem_singleton.mp hx]
        exact hinterval

omit [Field R] [LinearOrder R] [JsMath R] in
theorem Sound.update {t : Tables R} {id : String} {dto : UpdateMaintenanceScheduleDto}
    (h : Sound s) (hupdate : update s companyId id dto = .ok t) : Sound t := by
  rw [Maintenance.update] at hupdate
  split at hupdate
  · cases hupdate
  · rename_i existing hfind
    split at hupdate
    · cases hupdate
    · rename_i hinterval
      cases hupdate
      have hids : (s.schedules.map fun x => if x.id = id then patched dto x else x).map Schedule.id =
          s.schedules.map Schedule.id := by
        rw [List.map_map]
        refine List.map_congr_left fun x _ => ?_
        rw [Function.comp_apply]
        split
        · rfl
        · rfl
      refine ⟨hids ▸ h.keys, fun x hx => ?_, h.atMostOne⟩
      obtain ⟨y, hy, rfl⟩ := List.mem_map.mp hx
      split
      · rename_i hid
        have hexisting := List.find?_some hfind
        rw [decide_eq_true_eq] at hexisting
        obtain rfl := List.inj_on_of_nodup_map h.keys hy (List.mem_of_find?_eq_some hfind)
          (hid.trans hexisting.1.symm)
        exact hinterval
      · exact h.intervals y hy

omit [Field R] [LinearOrder R] [JsMath R] in
theorem Sound.remove {t : Tables R} {id : String} (h : Sound s)
    (hremove : remove s companyId id = .ok t) : Sound t := by
  rw [Maintenance.remove] at hremove
  split at hremove
  · cases hremove
  · cases hremove
    exact ⟨h.keys.sublist (List.filter_sublist.map _),
      fun x hx => h.intervals x (List.mem_of_mem_filter hx), h.atMostOne⟩

theorem Sound.check (h : Sound s) (newId : String → String) :
    AtMostOne (checkDueMaintenances s newId) :=
  h.atMostOne.of_le fun _ _ => (openCount_companies s.companies).2

theorem Sound.step {t : Tables R} {e : Event R} (h : Sound s) (hstep : Steps step s e t) :
    Sound t := by
  cases e with
  | elapse ms =>
    obtain rfl := Option.some.inj hstep
    exact ⟨h.keys, h.intervals, h.atMostOne⟩
  | vehicles vehicles =>
    obtain rfl := Option.some.inj hstep
    exact ⟨h.keys, h.intervals, h.atMostOne⟩
  | create schedule =>
    obtain ⟨hnew, hcreate⟩ := Option.ite_none_left_eq_some.mp hstep
    exact h.create (Bool.not_eq_true _ ▸ hnew) (eq_ok_of_toOption hcreate)
  | update companyId id dto => exact h.update (eq_ok_of_toOption hstep)
  | remove companyId id => exact h.remove (eq_ok_of_toOption hstep)
  | record record =>
    obtain rfl := Option.some.inj hstep
    exact ⟨h.keys, h.intervals, h.atMostOne⟩
  | report report =>
    obtain rfl := Option.some.inj hstep
    exact ⟨h.keys, h.intervals, h.atMostOne⟩
  | notify notification =>
    obtain ⟨hother, ⟨⟩⟩ := Option.ite_none_right_eq_some.mp hstep
    refine ⟨h.keys, h.intervals, h.atMostOne.of_le fun companyId link => ?_⟩
    rw [openCount, List.countP_append, List.countP_singleton,
      if_neg (by simp [isOpen, hother])]
    exact le_max_right ..
  | resolve companyId id =>
    obtain rfl := Option.some.inj hstep
    exact ⟨h.keys, h.intervals, h.atMostOne.of_le fun _ _ =>
      Nat.le_trans openCount_resolve (le_max_right ..)⟩
  | check newId =>
    obtain rfl := Option.some.inj hstep
    exact ⟨h.keys, h.intervals, h.check newId⟩

/-- The tables before there is a schedule. -/
def start (now : Int) (companies : List String) (history : History R) : Tables R :=
  ⟨now, companies, [], history, []⟩

/-- **After a pass each schedule that is due has one open alert**, and the other links have those
they had: at most one at any time. -/
theorem alerts_cover {now : Int} {companies : List String} {history : History R}
    {es : List (Event R)} (hrun : Run (Steps step) (start now companies history) es s)
    (newId : String → String) :
    (∀ schedule ∈ s.schedules, HasInterval schedule) ∧
      (∀ companyId link, openCount companyId link s.notifications ≤ 1) ∧
      (∀ companyId ∈ s.companies, ∀ schedule, Due s companyId schedule →
        openCount companyId (alertLink schedule.id) (checkDueMaintenances s newId) = 1) ∧
      ∀ companyId link, (∀ schedule, Due s companyId schedule → alertLink schedule.id ≠ link) →
        openCount companyId link (checkDueMaintenances s newId) =
          openCount companyId link s.notifications := by
  have hstart : Sound (start now companies history) := by
    refine ⟨List.nodup_nil, fun x hx => ?_, fun _ _ => Nat.zero_le _⟩
    cases hx
  have hsound : Sound s := hrun.invariant (fun h hstep => Sound.step h hstep) hstart
  refine ⟨hsound.intervals, hsound.atMostOne, fun companyId hcompany schedule hdue => ?_, ?_⟩
  · have hone := hsound.check newId companyId (alertLink schedule.id)
    have hopen : 1 ≤ openCount companyId (alertLink schedule.id) (checkDueMaintenances s newId) :=
      one_le_openCount_companies hcompany hdue
    omega
  · exact fun companyId link hne => openCount_companies_of_ne s.companies hne

end Check

/-! ### An oil change -/

def serviced : Tables ℚ := start 0 ["company-1"] (driven [4800])

theorem alerts_cover_oilChange : ∃ s, [.create oilChange].foldlM step serviced = some s ∧
    openCount "company-1" (alertLink "schedule-1") (checkDueMaintenances s id) = 1 := by
  have hcreated : [.create oilChange].foldlM step serviced =
      some { serviced with schedules := [oilChange] } := rfl
  have hdue : Due { serviced with schedules := [oilChange] } "company-1" oilChange :=
    ⟨List.mem_singleton_self _, rfl, rfl, by decide +kernel⟩
  obtain ⟨-, -, hcovered, -⟩ := alerts_cover (Run.of_foldlM hcreated) id
  exact ⟨_, hcreated, hcovered "company-1" (List.mem_singleton_self _) oilChange hdue⟩

end DeliveryTracking.Fleet.Maintenance
