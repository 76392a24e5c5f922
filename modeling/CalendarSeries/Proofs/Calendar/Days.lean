import CalendarSeries.Calendar.Wall
import Mathlib.Tactic.IntervalCases
/-!
Day numbers and dates. Every day number is that of one date the calendar has, and a month is
followed by the next after as many days as it has.
-/
namespace CalendarSeries.Date

/-- The days of a four-hundred-year cycle before its year `year`. -/
def daysBefore (year : Nat) : Nat :=
  365 * year + year / 4 - year / 100 + year / 400

theorem yearOfCycle_mono {m n : Nat} (le : m ≤ n) : yearOfCycle m ≤ yearOfCycle n := by
  unfold yearOfCycle
  apply Nat.div_le_div_right
  omega

theorem yearOfCycle_ends :
    ∀ year < 400, yearOfCycle (daysBefore year) = year ∧
      yearOfCycle (daysBefore (year + 1) - 1) = year := by
  decide +kernel

theorem yearOfCycle_lt {n : Nat} (inside : n < 146097) : yearOfCycle n < 400 := by
  have last : yearOfCycle 146096 = 399 := by decide
  have := yearOfCycle_mono (Nat.le_of_lt_succ inside)
  omega

/-- The year of a cycle's day is the one that has begun and is not over. -/
theorem daysBefore_yearOfCycle {n : Nat} (inside : n < 146097) :
    daysBefore (yearOfCycle n) ≤ n ∧ n < daysBefore (yearOfCycle n + 1) := by
  have bound := yearOfCycle_lt inside
  constructor
  · by_contra early
    cases year : yearOfCycle n with
    | zero => simp [year, daysBefore] at early
    | succ previous =>
      have ends := (yearOfCycle_ends previous (by omega)).2
      rw [year] at early
      have := yearOfCycle_mono (show n ≤ daysBefore (previous + 1) - 1 by omega)
      omega
  · by_contra late
    rcases Nat.lt_or_ge (yearOfCycle n + 1) 400 with next | final
    · have begins := (yearOfCycle_ends _ next).1
      have := yearOfCycle_mono (Nat.le_of_not_lt late)
      omega
    · have year : yearOfCycle n = 399 := by omega
      rw [year] at late
      exact late inside

theorem daysBefore_succ (year : Nat) (inside : year < 400) :
    daysBefore (year + 1) = daysBefore year + if isLeap (year + 1) then 366 else 365 := by
  revert year
  decide +kernel

/-- The month, counted from March, of a day of a year that begins there. -/
def monthOfYear (dayOfYear : Nat) : Nat :=
  (5 * dayOfYear + 2) / 153

/-- The days of a year that begins in March before one of its months. -/
def daysBeforeMonth (month : Nat) : Nat :=
  (153 * month + 2) / 5

def civilMonth (month : Nat) : Nat :=
  if month < 10 then month + 3 else month - 9

theorem marchMonth_civilMonth {month : Nat} (inside : month < 12) :
    marchMonth (civilMonth month) = month ∧ 1 ≤ civilMonth month ∧ civilMonth month ≤ 12 := by
  unfold marchMonth civilMonth
  split <;> omega

/-- A day of the year falls into the month that has begun and is not over. -/
theorem daysBeforeMonth_monthOfYear (dayOfYear : Nat) :
    daysBeforeMonth (monthOfYear dayOfYear) ≤ dayOfYear ∧
      dayOfYear < daysBeforeMonth (monthOfYear dayOfYear + 1) := by
  unfold daysBeforeMonth monthOfYear
  omega

theorem monthOfYear_lt {dayOfYear : Nat} (inside : dayOfYear < 366) :
    monthOfYear dayOfYear < 12 := by
  unfold monthOfYear
  omega

theorem isLeap_iff (year : Int) :
    isLeap year = true ↔ year % 4 = 0 ∧ (year % 100 ≠ 0 ∨ year % 400 = 0) := by
  simp [isLeap]

theorem isLeap_add_cycles (cycle year : Int) :
    isLeap (cycle * 400 + year) = isLeap year := by
  have four : (cycle * 400 + year) % 4 = year % 4 := by omega
  have century : (cycle * 400 + year) % 100 = year % 100 := by omega
  have era : (cycle * 400 + year) % 400 = year % 400 := by omega
  simp only [isLeap, four, century, era]

/-- The date of a day number, by the cycle, its year and the day of that year. -/
theorem exists_parts (days : Int) :
    ∃ (cycle : Int) (year dayOfYear : Nat),
      year < 400 ∧ days + 719468 = 146097 * cycle + daysBefore year + dayOfYear ∧
      (dayOfYear < if isLeap (cycle * 400 + year + 1) then 366 else 365) ∧
      ofDays days =
        ⟨cycle * 400 + year + (if civilMonth (monthOfYear dayOfYear) ≤ 2 then 1 else 0),
          civilMonth (monthOfYear dayOfYear),
          dayOfYear - daysBeforeMonth (monthOfYear dayOfYear) + 1⟩ := by
  have inside : ((days + 719468) % 146097).toNat < 146097 := by omega
  obtain ⟨begun, running⟩ := daysBefore_yearOfCycle inside
  have bound := yearOfCycle_lt inside
  have noCentury : yearOfCycle ((days + 719468) % 146097).toNat / 400 = 0 := by omega
  refine ⟨(days + 719468) / 146097, yearOfCycle ((days + 719468) % 146097).toNat,
    ((days + 719468) % 146097).toNat -
      daysBefore (yearOfCycle ((days + 719468) % 146097).toNat), bound, ?_, ?_, ?_⟩
  · omega
  · rw [daysBefore_succ _ bound] at running
    rw [Int.add_assoc, isLeap_add_cycles]
    split at running
    all_goals rename_i leap
    · rw [if_pos leap]; omega
    · rw [if_neg leap]; omega
  · simp only [ofDays, daysBefore, noCentury, monthOfYear, daysBeforeMonth, civilMonth,
      Nat.add_zero]

/-- Each day number is that of its date. -/
theorem toDays_ofDays (days : Int) : (ofDays days).toDays = days := by
  obtain ⟨cycle, year, dayOfYear, bound, total, short, date⟩ := exists_parts days
  have inYear : dayOfYear < 366 := by split at short <;> omega
  obtain ⟨march, low, -⟩ := marchMonth_civilMonth (monthOfYear_lt inYear)
  obtain ⟨begun, -⟩ := daysBeforeMonth_monthOfYear dayOfYear
  have civilYear : marchYear (cycle * 400 + year +
      (if civilMonth (monthOfYear dayOfYear) ≤ 2 then 1 else 0))
      (civilMonth (monthOfYear dayOfYear)) = cycle * 400 + year := by
    unfold marchYear
    split <;> omega
  rw [date]
  simp only [toDays, civilYear, march]
  unfold daysBefore at total
  unfold daysBeforeMonth at begun ⊢
  omega

/-- The date of a day number is one that the calendar has. -/
theorem ofDays_proper (days : Int) :
    1 ≤ (ofDays days).month ∧ (ofDays days).month ≤ 12 ∧ 1 ≤ (ofDays days).day ∧
      (ofDays days).day ≤ daysInMonth (ofDays days).year (ofDays days).month := by
  obtain ⟨cycle, year, dayOfYear, bound, total, short, date⟩ := exists_parts days
  have inYear : dayOfYear < 366 := by split at short <;> omega
  obtain ⟨march, low, high⟩ := marchMonth_civilMonth (monthOfYear_lt inYear)
  obtain ⟨begun, running⟩ := daysBeforeMonth_monthOfYear dayOfYear
  have twelve := monthOfYear_lt inYear
  rw [date]
  refine ⟨low, high, by simp, ?_⟩
  generalize monthOfYear dayOfYear = month at *
  unfold daysBeforeMonth at begun running ⊢
  by_cases february : month = 11
  · -- the last month takes what is left of the year
    subst february
    by_cases leap : isLeap (cycle * 400 + year + 1)
    · rw [if_pos leap] at short
      simp [civilMonth, daysInMonth, leap]
      omega
    · rw [if_neg leap] at short
      simp [civilMonth, daysInMonth, leap]
      omega
  · interval_cases month <;> simp [civilMonth, daysInMonth] <;> omega

theorem toDays_add_day (date : Date) (first : 1 ≤ date.day) :
    date.toDays = toDays { date with day := 1 } + (date.day - 1) := by
  simp only [toDays]
  omega

/-- A month is followed by the next after as many days as it has. -/
theorem toDays_nextMonth (date : Date) (low : 1 ≤ date.month) (high : date.month ≤ 12) :
    date.nextMonth.toDays =
      toDays { date with day := 1 } + daysInMonth date.year date.month := by
  obtain ⟨year, month, day⟩ := date
  dsimp only at low high
  by_cases february : month = 2
  · subst february
    by_cases leap : isLeap year
    · have rule := (isLeap_iff year).1 leap
      simp [nextMonth, toDays, marchYear, marchMonth, daysInMonth, leap]
      omega
    · have rule := mt (isLeap_iff year).2 leap
      simp [nextMonth, toDays, marchYear, marchMonth, daysInMonth, leap]
      omega
  · interval_cases month <;>
      simp [nextMonth, toDays, marchYear, marchMonth, daysInMonth] <;> omega

theorem daysInMonth_bounds (year : Int) (month : Nat) :
    28 ≤ daysInMonth year month ∧ daysInMonth year month ≤ 31 := by
  unfold daysInMonth
  split_ifs <;> omega

/-- The next month begins after the day it is asked for, and within thirty-one days. -/
theorem nextMonth_after (days : Int) :
    days < (ofDays days).nextMonth.toDays ∧ (ofDays days).nextMonth.toDays ≤ days + 31 := by
  obtain ⟨low, high, first, last⟩ := ofDays_proper days
  have start := toDays_add_day (ofDays days) first
  have next := toDays_nextMonth (ofDays days) low high
  have bounds := daysInMonth_bounds (ofDays days).year (ofDays days).month
  have same := toDays_ofDays days
  omega

theorem nextMonth_proper (date : Date) (low : 1 ≤ date.month) (high : date.month ≤ 12) :
    date.nextMonth.day = 1 ∧ 1 ≤ date.nextMonth.month ∧ date.nextMonth.month ≤ 12 := by
  unfold nextMonth
  split <;> simp_all
  omega

/-- The first days of a year's months lie in that year. -/
theorem toDays_first_bounds (year : Int) (month : Nat) (low : 1 ≤ month) (high : month ≤ 12) :
    toDays ⟨year, 1, 1⟩ ≤ toDays ⟨year, month, 1⟩ ∧
      toDays ⟨year, month, 1⟩ + 31 ≤ toDays ⟨year + 1, 1, 1⟩ := by
  interval_cases month <;> simp [toDays, marchYear, marchMonth] <;> omega

theorem newYear_mono {year later : Int} (order : year ≤ later) :
    toDays ⟨year, 1, 1⟩ ≤ toDays ⟨later, 1, 1⟩ := by
  simp only [toDays, marchYear, marchMonth]
  omega

theorem december_eq (year : Int) :
    toDays ⟨year + 1, 1, 1⟩ = toDays ⟨year, 12, 1⟩ + 31 :=
  toDays_nextMonth ⟨year, 12, 1⟩ (by simp) (by simp)

/-- The next month begins in its own year. -/
theorem nextMonth_bounds (days : Int) :
    toDays ⟨(ofDays days).nextMonth.year, 1, 1⟩ ≤ (ofDays days).nextMonth.toDays ∧
      (ofDays days).nextMonth.toDays + 31 ≤
        toDays ⟨(ofDays days).nextMonth.year + 1, 1, 1⟩ := by
  obtain ⟨low, high, -, -⟩ := ofDays_proper days
  obtain ⟨first, nextLow, nextHigh⟩ := nextMonth_proper (ofDays days) low high
  have inYear := toDays_first_bounds (ofDays days).nextMonth.year _ nextLow nextHigh
  have itself : Date.mk (ofDays days).nextMonth.year (ofDays days).nextMonth.month 1 =
      (ofDays days).nextMonth := congrArg (Date.mk _ _) first.symm
  rwa [itself] at inYear

theorem nextMonth_toDays_le (days : Int) {year : Int}
    (within : (ofDays days).nextMonth.year ≤ year) :
    (ofDays days).nextMonth.toDays ≤ toDays ⟨year, 12, 1⟩ := by
  have inYear := nextMonth_bounds days
  have mono := newYear_mono (show (ofDays days).nextMonth.year + 1 ≤ year + 1 by omega)
  have december := december_eq year
  omega

/-- The next month lies in a year or before it exactly up to the last month of that year. -/
theorem nextMonth_year_le_iff (days year : Int) :
    (ofDays days).nextMonth.year ≤ year ↔ days < toDays ⟨year, 12, 1⟩ := by
  obtain ⟨after, soon⟩ := nextMonth_after days
  constructor
  · intro within
    exact Int.lt_of_lt_of_le after (nextMonth_toDays_le days within)
  · intro before
    by_contra beyond
    have inYear := nextMonth_bounds days
    have mono := newYear_mono (show year + 1 ≤ (ofDays days).nextMonth.year by omega)
    have december := december_eq year
    omega

end CalendarSeries.Date
