import CalendarSeries.Proofs.Calendar.Days
/-!
The year and the month that a day number falls into. The starts of years and of months come in
order, so a day number lies between the start of its own year or month and the start of the next.
-/
namespace CalendarSeries.Date

/-- The number of a year's first day. -/
def newYear (year : Int) : Int :=
  toDays ⟨year, 1, 1⟩

theorem newYear_succ (year : Int) :
    newYear year + 365 ≤ newYear (year + 1) ∧ newYear (year + 1) ≤ newYear year + 366 := by
  simp only [newYear, toDays, marchYear, marchMonth]
  omega

theorem newYear_le {year later : Int} (order : year ≤ later) : newYear year ≤ newYear later :=
  newYear_mono order

/-- A day number lies in the month of its date. -/
theorem ofDays_month_bounds (days : Int) :
    toDays ⟨(ofDays days).year, (ofDays days).month, 1⟩ ≤ days ∧
      days < toDays ⟨(ofDays days).year, (ofDays days).month, 1⟩ +
        daysInMonth (ofDays days).year (ofDays days).month := by
  obtain ⟨-, -, first, last⟩ := ofDays_proper days
  have start : _ = toDays ⟨(ofDays days).year, (ofDays days).month, 1⟩ + _ :=
    toDays_add_day (ofDays days) first
  have same := toDays_ofDays days
  omega

theorem ofDays_year_bounds (days : Int) :
    newYear (ofDays days).year ≤ days ∧ days < newYear ((ofDays days).year + 1) := by
  obtain ⟨low, high, -, -⟩ := ofDays_proper days
  obtain ⟨begun, running⟩ := ofDays_month_bounds days
  obtain ⟨from_start, to_stop⟩ := toDays_first_bounds (ofDays days).year _ low high
  have short := (daysInMonth_bounds (ofDays days).year (ofDays days).month).2
  unfold newYear
  omega

theorem ofDays_year_eq {days year : Int} (begun : newYear year ≤ days)
    (running : days < newYear (year + 1)) : (ofDays days).year = year := by
  obtain ⟨first, next⟩ := ofDays_year_bounds days
  rcases Int.lt_trichotomy (ofDays days).year year with before | same | after
  · have := newYear_le (show (ofDays days).year + 1 ≤ year by omega)
    omega
  · exact same
  · have := newYear_le (show year + 1 ≤ (ofDays days).year by omega)
    omega

/-- The months from March to October have the same place in all years, and from February to
November lie a month away from the ends of their year. -/
theorem inner_month_bounds (year : Int) {month : Nat} (low : 2 ≤ month) (high : month ≤ 11) :
    newYear year + 31 ≤ toDays ⟨year, month, 1⟩ ∧
      toDays ⟨year, month, 1⟩ + 61 ≤ newYear (year + 1) := by
  unfold newYear
  interval_cases month <;> simp [toDays, marchYear, marchMonth] <;> omega

/-- A month begins after all shorter than it of its year. -/
theorem month_order (year : Int) {month later : Nat} (low : 1 ≤ month) (order : month + 1 ≤ later)
    (high : later ≤ 12) :
    toDays ⟨year, month, 1⟩ + daysInMonth year month ≤ toDays ⟨year, later, 1⟩ := by
  induction later, order using Nat.le_induction with
  | base =>
    have next := toDays_nextMonth ⟨year, month, 1⟩ low (by simp; omega)
    have below : ¬month = 12 := by omega
    simp only [nextMonth, if_neg below] at next
    exact Int.le_of_eq next.symm
  | succ later order ih =>
    have earlier := ih (by omega)
    have next := toDays_nextMonth ⟨year, later, 1⟩ (by simp; omega) (by simp; omega)
    have below : ¬later = 12 := by omega
    simp only [nextMonth, if_neg below] at next
    omega

/-- A day number within a month has that month's date. -/
theorem ofDays_month_eq {days year : Int} {month : Nat} (low : 1 ≤ month) (high : month ≤ 12)
    (begun : toDays ⟨year, month, 1⟩ ≤ days)
    (running : days < toDays ⟨year, month, 1⟩ + daysInMonth year month) :
    (ofDays days).year = year ∧ (ofDays days).month = month := by
  obtain ⟨first, next⟩ := toDays_first_bounds year month low high
  have short := (daysInMonth_bounds year month).2
  have same : (ofDays days).year = year := by
    apply ofDays_year_eq <;> unfold newYear <;> omega
  refine ⟨same, ?_⟩
  obtain ⟨least, greatest, -, -⟩ := ofDays_proper days
  obtain ⟨started, going⟩ := ofDays_month_bounds days
  rw [same] at started going
  rcases Nat.lt_trichotomy (ofDays days).month month with before | equal | after
  · have := month_order year least before high
    omega
  · exact equal
  · have := month_order year low after greatest
    omega

/-- All days of a month have the same next month. -/
theorem nextMonth_eq {days : Int} {date : Date} (low : 1 ≤ date.month) (high : date.month ≤ 12)
    (begun : toDays { date with day := 1 } ≤ days)
    (running : days < toDays { date with day := 1 } + daysInMonth date.year date.month) :
    (ofDays days).nextMonth = date.nextMonth := by
  obtain ⟨year, month⟩ := ofDays_month_eq low high begun running
  rw [nextMonth, nextMonth, year, month]

/-- What the calendar having a date comes to. -/
theorem isValid_iff {date : Date} :
    date.isValid = true ↔ (leastYear ≤ date.year ∧ date.year ≤ greatestYear) ∧
      (1 ≤ date.month ∧ date.month ≤ 12) ∧
      1 ≤ date.day ∧ date.day ≤ daysInMonth date.year date.month := by
  simp [isValid, yearInRange, and_assoc]

/-- The dates that the calendar has are numbered from the first to the last day. -/
theorem toDays_bounds {date : Date} (valid : date.isValid = true) :
    leastDay ≤ date.toDays ∧ date.toDays ≤ greatestDay := by
  obtain ⟨⟨least, greatest⟩, ⟨low, high⟩, first, last⟩ := isValid_iff.1 valid
  have days := (daysInMonth_bounds date.year date.month).2
  have start : _ = toDays ⟨date.year, date.month, 1⟩ + _ := toDays_add_day date first
  obtain ⟨begun, running⟩ := toDays_first_bounds date.year date.month low high
  have opening := newYear_mono least
  have ending := newYear_mono (Int.add_le_add_right greatest 1)
  have final : greatestDay = toDays ⟨greatestYear + 1, 1, 1⟩ - 1 := by decide
  have initial : leastDay = toDays ⟨leastYear, 1, 1⟩ := rfl
  omega

end CalendarSeries.Date
