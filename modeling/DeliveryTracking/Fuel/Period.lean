/-
# `DeliveryTracking.Fuel.Period` — Malagasy days, weeks, months and years

Madagascar is three hours ahead of UTC.  Two ways of finding a day are in use:

    getMadagascarDayBounds t     the day called by the UTC date of t, first and last
                                 millisecond (fuel reports, driver scores, trips)
    periodKeyStart g t           the period of t on the Malagasy calendar, its start and
                                 the start of the next (fuel summary)

From 21:00 UTC on the Malagasy date is one ahead of the UTC date, and there the
two part (`dayBounds_agree_iff`).
-/
import Mathlib
import DeliveryTracking.Calendar

namespace DeliveryTracking.Fuel

open Calendar

/-! ## Day bounds -/

/-- A window with both ends in it. -/
structure DayBounds where
  start : Int
  stop : Int
  deriving DecidableEq, Repr

def DayBounds.Contains (w : DayBounds) (t : Int) : Prop := w.start ≤ t ∧ t ≤ w.stop

instance (w : DayBounds) (t : Int) : Decidable (w.Contains t) :=
  inferInstanceAs (Decidable (_ ∧ _))

def getMadagascarDayBounds (date : Int) : DayBounds :=
  let start := setUTCHours date 21 0 0 0
  let stop := setUTCHours date 20 59 59 999
  { start := setUTCDate start (getUTCDate start - 1)
    stop := setUTCDate stop (getUTCDate stop) }

/-- The driver score has the function to itself. -/
def DriverScore.getMadagascarDayBounds (date : Int) : DayBounds :=
  let start := setUTCHours date 21 0 0 0
  let stop := setUTCHours date 20 59 59 999
  { start := setUTCDate start (getUTCDate start - 1)
    stop := setUTCDate stop (getUTCDate stop) }

/-- The window of `getVehicleTrip`, which sets the hour of the end only. -/
def tripBounds (base : Int) : DayBounds :=
  let start := setUTCHours base 21 0 0 0
  { start := setUTCDate start (getUTCDate start - 1)
    stop := setUTCHours base 20 59 59 999 }

/-- `MG_OFFSET_MS`. -/
def mgOffset : Int := 3 * 60 * 60 * 1000

theorem mgOffset_eq : mgOffset = 10800000 := rfl

/-- The bounds are those of the Malagasy day with the UTC date's number. -/
theorem getMadagascarDayBounds_eq (t : Int) :
    getMadagascarDayBounds t =
      { start := day t * msPerDay - mgOffset, stop := day t * msPerDay - mgOffset + msPerDay - 1 } := by
  have hstart := setUTCDate_add (setUTCHours t 21 0 0 0) (-1)
  have hstop := setUTCDate_add (setUTCHours t 20 59 59 999) 0
  rw [← sub_eq_add_neg] at hstart
  rw [add_zero] at hstop
  simp only [getMadagascarDayBounds, hstart, hstop]
  simp only [setUTCHours, DayBounds.mk.injEq, msPerDay_eq, mgOffset_eq]
  omega

theorem driverScore_bounds (t : Int) :
    DriverScore.getMadagascarDayBounds t = getMadagascarDayBounds t := rfl

theorem tripBounds_eq (t : Int) : tripBounds t = getMadagascarDayBounds t := by
  have hstop := setUTCDate_add (setUTCHours t 20 59 59 999) 0
  rw [add_zero, zero_mul, add_zero] at hstop
  simp [tripBounds, getMadagascarDayBounds, hstop]

/-! ## Periods of the Malagasy calendar -/

inductive GroupBy where
  | day
  | week
  | month
  | year
  deriving DecidableEq, Repr

structure Period where
  key : String
  start : Int
  /-- The start of the next period. -/
  stop : Int
  localStart : String
  deriving DecidableEq, Repr

/-- `String(n).padStart(2, '0')`. -/
def pad (n : Int) : String :=
  let s := toString n
  "".pushn '0' (2 - s.length) ++ s

/-- A date of the local calendar; the month counts from 0. -/
def localMarker (yy mm dd : Int) : String :=
  toString yy ++ "-" ++ pad (mm + 1) ++ "-" ++ pad dd

/-- The instant of local midnight. -/
def mgMidnight (y m date : Int) : Int := dateUTC y m date - mgOffset

def periodKeyStart (groupBy : GroupBy) (d : Int) : Period :=
  let local' := d + mgOffset
  let y := getUTCFullYear local'
  let m := getUTCMonth local'
  let date := getUTCDate local'
  match groupBy with
  | .year =>
    { key := toString y
      localStart := localMarker y 0 1
      start := mgMidnight y 0 1
      stop := mgMidnight (y + 1) 0 1 }
  | .month =>
    { key := toString y ++ "-" ++ pad (m + 1)
      localStart := localMarker y m 1
      start := mgMidnight y m 1
      stop := mgMidnight y (m + 1) 1 }
  | .week =>
    let mondayOffset := (getUTCDay local' + 6) % 7
    let start := mgMidnight y m (date - mondayOffset)
    let sl := start + mgOffset
    let mk := localMarker (getUTCFullYear sl) (getUTCMonth sl) (getUTCDate sl)
    { key := mk
      localStart := mk
      start := start
      stop := mgMidnight y m (date - mondayOffset + 7) }
  | .day =>
    let mk := localMarker y m date
    { key := mk
      localStart := mk
      start := mgMidnight y m date
      stop := mgMidnight y m (date + 1) }

/-! ## One day, or two -/

/-- The day of an instant on the Malagasy calendar. -/
def localDay (t : Int) : Int := day (t + mgOffset)

/-- A year that `Date.UTC` takes as it is. -/
def PlainYear (y : Int) : Prop := ¬ (0 ≤ y ∧ y ≤ 99)

instance (y : Int) : Decidable (PlainYear y) := inferInstanceAs (Decidable (¬ _))

theorem dateUTC_plain {y : Int} (hy : PlainYear y) (m date : Int) :
    dateUTC y m date = makeDay y m date * msPerDay := by
  rw [dateUTC, twoDigitYear, if_neg hy]

/-- A century read into a year is noticed. -/
theorem dateUTC_ne {y : Int} (hy : ¬ PlainYear y) (m date : Int) :
    dateUTC y m date ≠ makeDay y m date * msPerDay := by
  have hyear : 0 ≤ y ∧ y ≤ 99 := not_not.mp hy
  have hlater := months.strictMono (show 12 * y + m < 12 * (1900 + y) + m by omega)
  change firstOfMonth _ < firstOfMonth _ at hlater
  rw [dateUTC, twoDigitYear, if_pos hyear, makeDay_eq, makeDay_eq, msPerDay_eq]
  omega

/-- The milliseconds from the start of a period to the next. -/
def Period.bounds (p : Period) : DayBounds := { start := p.start, stop := p.stop - 1 }

/-- Every instant lies in a window, and in one only. -/
def Partitions (w : Int → DayBounds) : Prop :=
  (∀ u, ∃ t, (w t).Contains u) ∧
    ∀ t t' u, (w t).Contains u → (w t').Contains u → w t = w t'

theorem contains_iff (t u : Int) :
    (getMadagascarDayBounds t).Contains u ↔ localDay u = day t := by
  rw [getMadagascarDayBounds_eq, DayBounds.Contains, localDay, day_eq_iff]
  dsimp only
  omega

theorem dayBounds_partition : Partitions getMadagascarDayBounds := by
  refine ⟨fun u => ⟨u + mgOffset, (contains_iff _ u).mpr rfl⟩, ?_⟩
  intro t t' u h h'
  rw [contains_iff] at h h'
  rw [getMadagascarDayBounds_eq, getMadagascarDayBounds_eq, ← h, ← h']

/-- Before 21:00 UTC the two dates are one. -/
theorem localDay_eq_iff (t : Int) : localDay t = day t ↔ timeWithinDay t < 21 * 60 * 60 * 1000 := by
  have hlt := day_add_timeWithinDay t
  have hnonneg : 0 ≤ timeWithinDay t := Int.emod_nonneg t (by decide)
  rw [localDay, day_eq_iff, mgOffset_eq, msPerDay_eq] at *
  omega

theorem periodKeyStart_day_bounds {t : Int} (hy : PlainYear (getUTCFullYear (t + mgOffset))) :
    (periodKeyStart .day t).bounds =
      { start := localDay t * msPerDay - mgOffset
        stop := localDay t * msPerDay - mgOffset + msPerDay - 1 } := by
  have hself : makeDay (getUTCFullYear (t + mgOffset)) (getUTCMonth (t + mgOffset))
      (getUTCDate (t + mgOffset)) = localDay t := makeDay_self _
  have hnext : makeDay (getUTCFullYear (t + mgOffset)) (getUTCMonth (t + mgOffset))
      (getUTCDate (t + mgOffset) + 1) = localDay t + 1 := makeDay_add _ 1
  simp only [Period.bounds, periodKeyStart, mgMidnight, dateUTC_plain hy, hself, hnext,
    DayBounds.mk.injEq, true_and]
  rw [add_mul]
  omega

/-- The window of `t` holds `t` and is the summary's day of `t`. -/
def DayAgrees (t : Int) : Prop :=
  (getMadagascarDayBounds t).Contains t ∧
    (periodKeyStart .day t).bounds = getMadagascarDayBounds t

instance (t : Int) : Decidable (DayAgrees t) := inferInstanceAs (Decidable (_ ∧ _))

theorem dayAgrees_iff (t : Int) :
    DayAgrees t ↔ timeWithinDay t < 21 * 60 * 60 * 1000 ∧ PlainYear (getUTCFullYear t) := by
  rw [DayAgrees, contains_iff, localDay_eq_iff]
  refine and_congr_right fun hearly => ?_
  have hday : localDay t = day t := (localDay_eq_iff t).mpr hearly
  have hyear : getUTCFullYear (t + mgOffset) = getUTCFullYear t := congrArg yearOfDay hday
  constructor
  · intro h
    by_contra hplain
    have hstart := congrArg DayBounds.start h
    rw [getMadagascarDayBounds_eq] at hstart
    have hself : makeDay (getUTCFullYear (t + mgOffset)) (getUTCMonth (t + mgOffset))
        (getUTCDate (t + mgOffset)) = localDay t := makeDay_self _
    rw [← hyear] at hplain
    have hne := dateUTC_ne hplain (getUTCMonth (t + mgOffset)) (getUTCDate (t + mgOffset))
    rw [hself, hday] at hne
    simp only [Period.bounds, periodKeyStart, mgMidnight] at hstart
    omega
  · intro hplain
    rw [← hyear] at hplain
    rw [periodKeyStart_day_bounds hplain, getMadagascarDayBounds_eq, hday]

def GroupBy.periods : GroupBy → Periods
  | .day => days
  | .week => weeks
  | .month => months
  | .year => years

/-- The number of the period of an instant. -/
def periodOf (groupBy : GroupBy) (t : Int) : Int := groupBy.periods.index (localDay t)

/-- The date of a local day. -/
def dayMarker (d : Int) : String := localMarker (yearOfDay d) (monthOfDay d) (dateOfDay d)

def keyAt (groupBy : GroupBy) (k : Int) : String :=
  match groupBy with
  | .day => dayMarker (days.start k)
  | .week => dayMarker (weeks.start k)
  | .month => toString (k / 12) ++ "-" ++ pad (k % 12 + 1)
  | .year => toString k

/-- The instant a period starts. -/
def startAt (groupBy : GroupBy) (k : Int) : Int := groupBy.periods.start k * msPerDay - mgOffset

def periodAt (groupBy : GroupBy) (k : Int) : Period :=
  { key := keyAt groupBy k
    start := startAt groupBy k
    stop := startAt groupBy (k + 1)
    localStart := dayMarker (groupBy.periods.start k) }

/-- The year is 100 or later on the Malagasy calendar. -/
def Modern (t : Int) : Prop := 100 ≤ yearOfDay (localDay t)

instance (t : Int) : Decidable (Modern t) := inferInstanceAs (Decidable (_ ≤ _))

theorem startAt_lt (g : GroupBy) {k k' : Int} (h : k < k') : startAt g k < startAt g k' := by
  have hstart := g.periods.strictMono h
  rw [startAt, startAt, msPerDay_eq]
  omega

theorem startAt_le (g : GroupBy) {k k' : Int} (h : k ≤ k') : startAt g k ≤ startAt g k' := by
  have hstart := g.periods.strictMono.monotone h
  rw [startAt, startAt, msPerDay_eq]
  omega

theorem startAt_le_iff (g : GroupBy) {k t : Int} : startAt g k ≤ t ↔ k ≤ periodOf g t := by
  rw [periodOf, ← g.periods.start_le_iff, localDay, startAt, day, msPerDay_eq]
  omega

theorem lt_startAt_iff (g : GroupBy) {k t : Int} : t < startAt g k ↔ periodOf g t < k := by
  rw [← not_le, startAt_le_iff, not_le]

theorem periodOf_eq_iff (g : GroupBy) {k t : Int} :
    periodOf g t = k ↔ startAt g k ≤ t ∧ t < startAt g (k + 1) := by
  rw [startAt_le_iff, lt_startAt_iff]
  omega

@[simp] theorem periodOf_startAt (g : GroupBy) (k : Int) : periodOf g (startAt g k) = k :=
  (periodOf_eq_iff g).mpr ⟨le_refl _, startAt_lt g (by omega)⟩

theorem periodOf_mono (g : GroupBy) {t t' : Int} (h : t ≤ t') : periodOf g t ≤ periodOf g t' :=
  (startAt_le_iff g).mp (((startAt_le_iff g).mpr (le_refl _)).trans h)

theorem Modern.mono {t t' : Int} (ht : Modern t) (h : t ≤ t') : Modern t' :=
  le_trans (b := periodOf .year t) ht (periodOf_mono .year h)

theorem Modern.plain {t : Int} (ht : Modern t) : PlainYear (getUTCFullYear (t + mgOffset)) :=
  fun h => absurd (ht.trans h.2) (by decide)

theorem Modern.plain_succ {t : Int} (ht : Modern t) :
    PlainYear (getUTCFullYear (t + mgOffset) + 1) := by
  have h : 100 ≤ getUTCFullYear (t + mgOffset) := ht
  unfold PlainYear
  omega

/-- The first day of a month, as a date. -/
theorem firstOfMonth_date (y : Int) {m : Nat} (hm : m < 12) :
    yearOfDay (firstOfMonth (12 * y + m)) = y ∧ monthOfDay (firstOfMonth (12 * y + m)) = m ∧
      dateOfDay (firstOfMonth (12 * y + m)) = 1 := by
  have hindex : 12 * yearOfDay (firstOfMonth (12 * y + m)) +
      monthOfDay (firstOfMonth (12 * y + m)) = 12 * y + m := months.index_start (12 * y + m)
  have hlt := (monthOfDay_spec (firstOfMonth (12 * y + m))).1
  have hyear : yearOfDay (firstOfMonth (12 * y + m)) = y := by omega
  have hmonth : monthOfDay (firstOfMonth (12 * y + m)) = m := by omega
  refine ⟨hyear, hmonth, ?_⟩
  rw [dateOfDay, hyear, hmonth, firstOfMonth_eq y hm]
  omega

theorem dayMarker_firstOfMonth (y : Int) {m : Nat} (hm : m < 12) :
    dayMarker (firstOfMonth (12 * y + m)) = localMarker y m 1 := by
  obtain ⟨hyear, hmonth, hdate⟩ := firstOfMonth_date y hm
  rw [dayMarker, hyear, hmonth, hdate]

theorem weekStart_eq (d : Int) : d - (weekDay d + 6) % 7 = weeks.start (weeks.index d) := by
  change d - ((d + 4) % 7 + 6) % 7 = 7 * ((d + 3) / 7) - 3
  omega

theorem startAt_localDay (d : Int) : day (d * msPerDay - mgOffset + mgOffset) = d := by
  rw [day_eq_iff, msPerDay_eq]
  omega

/-- The day `n` days after that of `t`, as the source writes it. -/
theorem makeDay_local (t n : Int) :
    makeDay (getUTCFullYear (t + mgOffset)) (getUTCMonth (t + mgOffset))
      (getUTCDate (t + mgOffset) + n) = localDay t + n :=
  makeDay_add (localDay t) n

theorem makeDay_local_self (t : Int) :
    makeDay (getUTCFullYear (t + mgOffset)) (getUTCMonth (t + mgOffset))
      (getUTCDate (t + mgOffset)) = localDay t :=
  makeDay_self (localDay t)

section Numbered

variable {t : Int} (ht : Modern t)
include ht

theorem periodKeyStart_day : periodKeyStart .day t = periodAt .day (periodOf .day t) := by
  simp only [periodKeyStart, mgMidnight, dateUTC_plain ht.plain, makeDay_local_self, makeDay_local]
  rfl

theorem periodKeyStart_week : periodKeyStart .week t = periodAt .week (periodOf .week t) := by
  have hmonday := weekStart_eq (localDay t)
  have hstart : makeDay (getUTCFullYear (t + mgOffset)) (getUTCMonth (t + mgOffset))
      (getUTCDate (t + mgOffset) - (getUTCDay (t + mgOffset) + 6) % 7) =
        weeks.start (weeks.index (localDay t)) := by
    rw [sub_eq_add_neg, makeDay_local, ← sub_eq_add_neg]
    exact hmonday
  have hstop : makeDay (getUTCFullYear (t + mgOffset)) (getUTCMonth (t + mgOffset))
      (getUTCDate (t + mgOffset) - (getUTCDay (t + mgOffset) + 6) % 7 + 7) =
        weeks.start (weeks.index (localDay t) + 1) := by
    rw [sub_add, sub_eq_add_neg, makeDay_local, ← sub_eq_add_neg, ← sub_add]
    change localDay t - (weekDay (localDay t) + 6) % 7 + 7 = 7 * (weeks.index (localDay t) + 1) - 3
    rw [hmonday]
    change 7 * weeks.index (localDay t) - 3 + 7 = _
    omega
  simp only [periodKeyStart, mgMidnight, dateUTC_plain ht.plain, hstart, hstop]
  simp only [getUTCFullYear, getUTCMonth, getUTCDate, startAt_localDay]
  rfl

theorem periodKeyStart_month : periodKeyStart .month t = periodAt .month (periodOf .month t) := by
  have hm := (monthOfDay_spec (localDay t)).1
  have hstart : makeDay (getUTCFullYear (t + mgOffset)) (getUTCMonth (t + mgOffset)) 1 =
      months.start (months.index (localDay t)) := by
    rw [makeDay_eq]
    exact add_sub_cancel_right _ _
  have hstop : makeDay (getUTCFullYear (t + mgOffset)) (getUTCMonth (t + mgOffset) + 1) 1 =
      months.start (months.index (localDay t) + 1) := by
    rw [makeDay_eq, ← add_assoc]
    exact add_sub_cancel_right _ _
  have hmarker := dayMarker_firstOfMonth (yearOfDay (localDay t)) hm
  have hyear : months.index (localDay t) / 12 = yearOfDay (localDay t) := by
    change (12 * yearOfDay (localDay t) + (monthOfDay (localDay t) : Int)) / 12 = _
    omega
  have hmonth : months.index (localDay t) % 12 = monthOfDay (localDay t) := by
    change (12 * yearOfDay (localDay t) + (monthOfDay (localDay t) : Int)) % 12 = _
    omega
  simp only [periodKeyStart, mgMidnight, dateUTC_plain ht.plain, hstart, hstop, periodAt, periodOf,
    GroupBy.periods, keyAt, hyear, hmonth, startAt]
  exact congrArg (Period.mk _ _ _) hmarker.symm

theorem periodKeyStart_year : periodKeyStart .year t = periodAt .year (periodOf .year t) := by
  have hstart : ∀ y : Int, makeDay y 0 1 = years.start y := by
    intro y
    have hfirst := firstOfMonth_eq y (m := 0) (by decide)
    rw [monthStart_zero, add_zero] at hfirst
    rw [makeDay_eq, add_sub_cancel_right]
    exact hfirst
  have hmarker := dayMarker_firstOfMonth (yearOfDay (localDay t)) (m := 0) (by decide)
  have hfirst := firstOfMonth_eq (yearOfDay (localDay t)) (m := 0) (by decide)
  rw [hfirst, monthStart_zero, add_zero] at hmarker
  simp only [periodKeyStart, mgMidnight, dateUTC_plain ht.plain, dateUTC_plain ht.plain_succ, hstart]
  exact congrArg (Period.mk _ _ _) hmarker.symm

/-- A period of the source is the period of its number. -/
theorem periodKeyStart_eq (g : GroupBy) : periodKeyStart g t = periodAt g (periodOf g t) := by
  cases g with
  | day => exact periodKeyStart_day ht
  | week => exact periodKeyStart_week ht
  | month => exact periodKeyStart_month ht
  | year => exact periodKeyStart_year ht

end Numbered

/-! ## Keys tell periods apart -/

theorem pad_spec : ∀ a b : Fin 32, (pad (a : Nat)).length = 2 ∧
    (pad (a : Nat) = pad (b : Nat) → a = b) := by
  decide +kernel

/-- Numbers a calendar pads to two digits. -/
theorem length_pad {n : Int} (h0 : 0 ≤ n) (h : n < 32) : (pad n).length = 2 := by
  obtain ⟨m, rfl⟩ := Int.eq_ofNat_of_zero_le h0
  exact (pad_spec ⟨m, by omega⟩ 0).1

theorem pad_injective {n n' : Int} (h0 : 0 ≤ n) (h : n < 32) (h0' : 0 ≤ n') (h' : n' < 32)
    (heq : pad n = pad n') : n = n' := by
  obtain ⟨m, rfl⟩ := Int.eq_ofNat_of_zero_le h0
  obtain ⟨m', rfl⟩ := Int.eq_ofNat_of_zero_le h0'
  have hfin := (pad_spec ⟨m, by omega⟩ ⟨m', by omega⟩).2 heq
  exact congrArg Nat.cast (congrArg Fin.val hfin)

/-- Texts that end in parts of one length agree part by part. -/
theorem dash_injective {a b c d : String} (hlen : b.length = d.length)
    (h : a ++ "-" ++ b = c ++ "-" ++ d) : a = c ∧ b = d := by
  have hlist := congrArg String.toList h
  simp only [String.toList_append] at hlist
  obtain ⟨hfront, hback⟩ := List.append_inj' hlist (by rwa [String.length_toList, String.length_toList])
  obtain ⟨hfirst, -⟩ := List.append_inj' hfront rfl
  exact ⟨String.toList_inj.mp hfirst, String.toList_inj.mp hback⟩

theorem dayMarker_injective {d d' : Int} (h : dayMarker d = dayMarker d') : d = d' := by
  have hd := dateOfDay_bounds d
  have hd' := dateOfDay_bounds d'
  have hm := (monthOfDay_spec d).1
  have hm' := (monthOfDay_spec d').1
  obtain ⟨hym, hdate⟩ := dash_injective
    (by rw [length_pad (by omega) (by omega), length_pad (by omega) (by omega)]) h
  obtain ⟨hyear, hmonth⟩ := dash_injective
    (by rw [length_pad (by omega) (by omega), length_pad (by omega) (by omega)]) hym
  have hmonth' := pad_injective (by omega) (by omega) (by omega) (by omega) hmonth
  have hdate' := pad_injective (by omega) (by omega) (by omega) (by omega) hdate
  exact ymd_injective (Int.repr_inj.mp hyear) (by omega) hdate'

theorem keyAt_injective (g : GroupBy) {k k' : Int} (h : keyAt g k = keyAt g k') : k = k' := by
  cases g with
  | day => exact days.strictMono.injective (dayMarker_injective h)
  | week => exact weeks.strictMono.injective (dayMarker_injective h)
  | month =>
    obtain ⟨hyear, hmonth⟩ := dash_injective
      (by rw [length_pad (by omega) (by omega), length_pad (by omega) (by omega)]) h
    have hyear' : k / 12 = k' / 12 := Int.repr_inj.mp hyear
    have hmonth' := pad_injective (by omega) (by omega) (by omega) (by omega) hmonth
    omega
  | year => exact Int.repr_inj.mp h

/-- Instants have the key of one period exactly when they are in one. -/
theorem key_eq_iff {t : Int} (ht : Modern t) (g : GroupBy) (k : Int) :
    (periodKeyStart g t).key = keyAt g k ↔ periodOf g t = k := by
  rw [periodKeyStart_eq ht]
  constructor
  · exact keyAt_injective g
  · exact congrArg (keyAt g)

end DeliveryTracking.Fuel
