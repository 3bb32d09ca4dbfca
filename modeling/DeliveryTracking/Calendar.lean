/-
# `DeliveryTracking.Calendar` — UTC dates as JavaScript computes them

A date value is a number of milliseconds, a day a number of days, both since
1970 and both `Int`, so that `/` and `%` round down as the language's
specification wants.  Years and months are found from the day they start:

    dayFromYear y          the day the year y starts
    monthStart y m         the days of the year y before its month m
    makeDay y m d          the day of a date, months and days out of range rolling over

A way to cut the days into periods is a `Periods`: the day each period starts
and the period of each day.  Days, weeks, months and years are instances; what
they share is proved once, for every `Periods`.

Nothing below names the repository.
-/
import Mathlib.Algebra.Order.Ring.Int
import Mathlib.Algebra.BigOperators.Group.List.Lemmas
import Mathlib.Order.SuccPred.Basic
import Mathlib.Data.Int.ConditionallyCompleteOrder

namespace DeliveryTracking.Calendar

/-! ## Years -/

def dayFromYear (y : Int) : Int :=
  365 * (y - 1970) + (y - 1969) / 4 - (y - 1901) / 100 + (y - 1601) / 400

def leap (y : Int) : Bool := y % 4 = 0 ∧ (y % 100 ≠ 0 ∨ y % 400 = 0)

/-- The extra day of a leap year. -/
def leapDay (y : Int) : Int := if leap y then 1 else 0

/-- 400 years are 146097 days, and a year found by that rate is off by one at most. -/
def yearOfDay (d : Int) : Int :=
  let y := 1970 + 400 * d / 146097
  if d < dayFromYear y then y - 1 else if dayFromYear (y + 1) ≤ d then y + 1 else y

theorem leapDay_cases (y : Int) : leapDay y = 0 ∨ leapDay y = 1 := by
  unfold leapDay
  split
  · exact .inr rfl
  · exact .inl rfl

theorem dayFromYear_succ (y : Int) : dayFromYear (y + 1) = dayFromYear y + 365 + leapDay y := by
  unfold leapDay leap dayFromYear
  split
  · rename_i h
    simp only [decide_eq_true_eq] at h
    omega
  · rename_i h
    simp only [decide_eq_true_eq] at h
    omega

theorem year_estimate {d y : Int} (hy : y = 1970 + 400 * d / 146097) :
    dayFromYear (y - 1) ≤ d ∧ d < dayFromYear (y + 1 + 1) := by
  unfold dayFromYear
  omega

theorem yearOfDay_spec (d : Int) :
    dayFromYear (yearOfDay d) ≤ d ∧ d < dayFromYear (yearOfDay d + 1) := by
  have hest := year_estimate (d := d) rfl
  unfold yearOfDay
  dsimp only
  split
  · rw [sub_add_cancel]
    omega
  · split <;> omega

/-! ## Months -/

/-- Which of consecutive stretches of the given lengths `r` falls in. -/
def locate : List Int → Int → Nat
  | [], _ => 0
  | n :: ns, r => if r < n then 0 else locate ns (r - n) + 1

theorem locate_spec : ∀ {l : List Int} {r : Int}, 0 ≤ r → r < l.sum →
    locate l r < l.length ∧ (l.take (locate l r)).sum ≤ r ∧
      r < (l.take (locate l r + 1)).sum
  | [], r, h0, h => absurd h (by simpa using h0)
  | n :: ns, r, h0, h => by
    rw [List.sum_cons] at h
    by_cases hn : r < n
    · have hloc : locate (n :: ns) r = 0 := if_pos hn
      simp [hloc, h0, hn]
    · have hloc : locate (n :: ns) r = locate ns (r - n) + 1 := if_neg hn
      obtain ⟨hlen, hle, hlt⟩ := locate_spec (l := ns) (r := r - n) (by omega) (by omega)
      rw [hloc, List.take_succ_cons, List.take_succ_cons, List.sum_cons, List.sum_cons,
        List.length_cons]
      omega

def monthLengths (y : Int) : List Int :=
  [31, 28 + leapDay y, 31, 30, 31, 30, 31, 31, 30, 31, 30, 31]

/-- The days of the year before its month `m`, counted from 0. -/
def monthStart (y : Int) (m : Nat) : Int := ((monthLengths y).take m).sum

@[simp] theorem monthStart_zero (y : Int) : monthStart y 0 = 0 := rfl

theorem monthStart_twelve (y : Int) : monthStart y 12 = 365 + leapDay y := by
  simp [monthStart, monthLengths]
  omega

theorem monthStart_succ_lt (y : Int) {m : Nat} (hm : m < 12) :
    monthStart y m + 27 < monthStart y (m + 1) := by
  have hlong : ∀ n ∈ monthLengths y, 27 < n := by
    have h := leapDay_cases y
    simp [monthLengths]
    omega
  have hlast := hlong _ (List.getElem_mem (l := monthLengths y) (n := m) hm)
  have hsum := List.sum_take_succ (monthLengths y) m hm
  unfold monthStart
  omega

def monthOfDay (d : Int) : Nat :=
  locate (monthLengths (yearOfDay d)) (d - dayFromYear (yearOfDay d))

theorem monthOfDay_spec (d : Int) :
    monthOfDay d < 12 ∧
      dayFromYear (yearOfDay d) + monthStart (yearOfDay d) (monthOfDay d) ≤ d ∧
      d < dayFromYear (yearOfDay d) + monthStart (yearOfDay d) (monthOfDay d + 1) := by
  have hy := yearOfDay_spec d
  have hlen : (monthLengths (yearOfDay d)).sum = 365 + leapDay (yearOfDay d) :=
    monthStart_twelve _
  have hsucc := dayFromYear_succ (yearOfDay d)
  obtain ⟨hm, hle, hlt⟩ := locate_spec (l := monthLengths (yearOfDay d))
    (r := d - dayFromYear (yearOfDay d)) (by omega) (by omega)
  refine ⟨hm, ?_, ?_⟩
  · unfold monthStart monthOfDay
    omega
  · unfold monthStart monthOfDay
    omega

/-! ## Cutting the days into periods -/

/-- Consecutive periods of days, numbered by the integers. -/
structure Periods where
  start : Int → Int
  /-- The period of a day. -/
  index : Int → Int
  start_lt : ∀ k, start k < start (k + 1)
  index_spec : ∀ d, start (index d) ≤ d ∧ d < start (index d + 1)

namespace Periods

variable (p : Periods)

theorem strictMono : StrictMono p.start := strictMono_int_of_lt_succ p.start_lt

theorem start_le_iff {k d : Int} : p.start k ≤ d ↔ k ≤ p.index d := by
  constructor
  · intro h
    have hlt : p.start k < p.start (p.index d + 1) := lt_of_le_of_lt h (p.index_spec d).2
    exact Int.lt_add_one_iff.mp (p.strictMono.lt_iff_lt.mp hlt)
  · intro h
    exact (p.strictMono.monotone h).trans (p.index_spec d).1

theorem lt_start_iff {k d : Int} : d < p.start k ↔ p.index d < k := by
  rw [← not_le, p.start_le_iff, not_le]

theorem index_eq_iff {k d : Int} : p.index d = k ↔ p.start k ≤ d ∧ d < p.start (k + 1) := by
  rw [p.start_le_iff, p.lt_start_iff]
  omega

@[simp] theorem index_start (k : Int) : p.index (p.start k) = k :=
  p.index_eq_iff.mpr ⟨le_refl _, p.start_lt k⟩

theorem index_mono {d d' : Int} (h : d ≤ d') : p.index d ≤ p.index d' :=
  p.start_le_iff.mp ((p.index_spec d).1.trans h)

end Periods

def days : Periods where
  start k := k
  index d := d
  start_lt k := by omega
  index_spec d := by omega

/-- Weeks from Monday; day 0 was a Thursday. -/
def weeks : Periods where
  start k := 7 * k - 3
  index d := (d + 3) / 7
  start_lt k := by omega
  index_spec d := by omega

/-- The first day of a month, the months counted from January of year 0. -/
def firstOfMonth (k : Int) : Int := dayFromYear (k / 12) + monthStart (k / 12) (k % 12).toNat

theorem firstOfMonth_eq (y : Int) {m : Nat} (hm : m < 12) :
    firstOfMonth (12 * y + m) = dayFromYear y + monthStart y m := by
  have hdiv : (12 * y + m) / 12 = y := by omega
  have hmod : (12 * y + m) % 12 = m := by omega
  rw [firstOfMonth, hdiv, hmod, Int.toNat_natCast]

theorem firstOfMonth_succ (y : Int) {m : Nat} (hm : m < 12) :
    firstOfMonth (12 * y + m + 1) = dayFromYear y + monthStart y (m + 1) := by
  by_cases hlast : m + 1 < 12
  · have h := firstOfMonth_eq y hlast
    rw [Nat.cast_succ, ← add_assoc] at h
    exact h
  · have hm' : m = 11 := by omega
    have hnext : 12 * y + (m : Int) + 1 = 12 * (y + 1) + (0 : Nat) := by omega
    rw [hnext, firstOfMonth_eq (y + 1) (by decide), dayFromYear_succ, hm', monthStart_twelve]
    simp [add_assoc]

/-- Every month number is a year and a month of it. -/
theorem exists_month (k : Int) : ∃ (y : Int) (m : Nat), m < 12 ∧ k = 12 * y + m :=
  ⟨k / 12, (k % 12).toNat, by omega, by omega⟩

def months : Periods where
  start := firstOfMonth
  index d := 12 * yearOfDay d + monthOfDay d
  start_lt k := by
    obtain ⟨y, m, hm, rfl⟩ := exists_month k
    rw [firstOfMonth_eq y hm, firstOfMonth_succ y hm]
    have h := monthStart_succ_lt y hm
    omega
  index_spec d := by
    obtain ⟨hm, hle, hlt⟩ := monthOfDay_spec d
    rw [firstOfMonth_eq _ hm, firstOfMonth_succ _ hm]
    exact ⟨hle, hlt⟩

def years : Periods where
  start := dayFromYear
  index := yearOfDay
  start_lt y := by
    have h := dayFromYear_succ y
    have hl := leapDay_cases y
    omega
  index_spec := yearOfDay_spec

/-! ## Dates -/

/-- The day of the month, from 1. -/
def dateOfDay (d : Int) : Int :=
  d - dayFromYear (yearOfDay d) - monthStart (yearOfDay d) (monthOfDay d) + 1

/-- Sunday is 0. -/
def weekDay (d : Int) : Int := (d + 4) % 7

/-- The day of a date; a month out of range is one of another year, and a day of the month out of
range one of another month. -/
def makeDay (y m date : Int) : Int :=
  dayFromYear (y + m / 12) + monthStart (y + m / 12) (m % 12).toNat + date - 1

theorem makeDay_eq (y m date : Int) : makeDay y m date = firstOfMonth (12 * y + m) + date - 1 := by
  have hdiv : (12 * y + m) / 12 = y + m / 12 := by omega
  have hmod : (12 * y + m) % 12 = m % 12 := by omega
  rw [makeDay, firstOfMonth, hdiv, hmod]

/-- Days counted on from a date. -/
theorem makeDay_add (d n : Int) :
    makeDay (yearOfDay d) (monthOfDay d) (dateOfDay d + n) = d + n := by
  have hm := (monthOfDay_spec d).1
  rw [makeDay_eq, firstOfMonth_eq _ hm, dateOfDay]
  omega

theorem makeDay_self (d : Int) : makeDay (yearOfDay d) (monthOfDay d) (dateOfDay d) = d := by
  have h := makeDay_add d 0
  simpa using h

/-- Dates that name the same day are the same. -/
theorem ymd_injective {d d' : Int} (hy : yearOfDay d = yearOfDay d')
    (hm : monthOfDay d = monthOfDay d') (hd : dateOfDay d = dateOfDay d') : d = d' := by
  rw [← makeDay_self d, ← makeDay_self d', hy, hm, hd]

theorem dateOfDay_bounds (d : Int) : 1 ≤ dateOfDay d ∧ dateOfDay d ≤ 31 := by
  obtain ⟨hm, hle, hlt⟩ := monthOfDay_spec d
  have hlong : ∀ n ∈ monthLengths (yearOfDay d), n ≤ 31 := by
    have h := leapDay_cases (yearOfDay d)
    simp [monthLengths]
    omega
  have hlast := hlong _ (List.getElem_mem (l := monthLengths (yearOfDay d)) (n := monthOfDay d) hm)
  have hsum := List.sum_take_succ (monthLengths (yearOfDay d)) (monthOfDay d) hm
  unfold monthStart at hle hlt
  unfold dateOfDay monthStart
  omega

/-! ## Date values -/

def msPerDay : Int := 86400000

theorem msPerDay_eq : msPerDay = 86400000 := rfl

def day (t : Int) : Int := t / msPerDay

def timeWithinDay (t : Int) : Int := t % msPerDay

def getUTCFullYear (t : Int) : Int := yearOfDay (day t)

def getUTCMonth (t : Int) : Int := monthOfDay (day t)

def getUTCDate (t : Int) : Int := dateOfDay (day t)

def getUTCDay (t : Int) : Int := weekDay (day t)

/-- `Date.UTC` reads a year of at most two digits as one of the twentieth century. -/
def twoDigitYear (y : Int) : Int := if 0 ≤ y ∧ y ≤ 99 then 1900 + y else y

/-- `Date.UTC(y, m, d)`. -/
def dateUTC (y m date : Int) : Int := makeDay (twoDigitYear y) m date * msPerDay

def setUTCHours (t h min s ms : Int) : Int :=
  day t * msPerDay + (h * 3600000 + min * 60000 + s * 1000 + ms)

def setUTCDate (t date : Int) : Int :=
  makeDay (getUTCFullYear t) (getUTCMonth t) date * msPerDay + timeWithinDay t

def setUTCMonth (t m : Int) : Int :=
  makeDay (getUTCFullYear t) m (getUTCDate t) * msPerDay + timeWithinDay t

def setUTCFullYear (t y : Int) : Int :=
  makeDay y (getUTCMonth t) (getUTCDate t) * msPerDay + timeWithinDay t

theorem day_add_timeWithinDay (t : Int) : day t * msPerDay + timeWithinDay t = t :=
  Int.ediv_mul_add_emod t msPerDay

theorem day_eq_iff {t d : Int} :
    day t = d ↔ d * msPerDay ≤ t ∧ t < d * msPerDay + msPerDay := by
  rw [day, msPerDay_eq]
  omega

/-- Moving the day of the month by `n` moves a date value by `n` days. -/
theorem setUTCDate_add (t n : Int) : setUTCDate t (getUTCDate t + n) = t + n * msPerDay := by
  have h := day_add_timeWithinDay t
  rw [setUTCDate, getUTCFullYear, getUTCMonth, getUTCDate, makeDay_add, add_mul]
  omega

/-- A later month is a later date, the day of the month being kept. -/
theorem setUTCMonth_lt (t : Int) {m m' : Int} (h : m < m') : setUTCMonth t m < setUTCMonth t m' := by
  have hfirst : firstOfMonth (12 * getUTCFullYear t + m) <
      firstOfMonth (12 * getUTCFullYear t + m') := months.strictMono (by omega)
  rw [setUTCMonth, setUTCMonth, makeDay_eq, makeDay_eq, msPerDay_eq]
  omega

end DeliveryTracking.Calendar
