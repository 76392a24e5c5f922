import CalendarSeries.Proofs.Bucket.LocalDays
import CalendarSeries.Proofs.Calendar.DateText
/-!
Where the days and months of an orderly timetable begin and end. The bounds of a local day and of a
local month are the instants that their first midnight and the one after them denote, and a step of
months leads to the same instants, so that each month that is reached so is the one that was meant.
-/
namespace CalendarSeries

open Timetable (perDay_eq perSecond_eq)

namespace Date

/-- Whether two dates lie in one month. -/
def SameMonth (date other : Date) : Prop :=
  date.year = other.year ∧ date.month = other.month

instance (date other : Date) : Decidable (date.SameMonth other) :=
  inferInstanceAs (Decidable (_ ∧ _))

/-- The first day of the month of a date. -/
def firstOfMonth (date : Date) : Date :=
  { date with day := 1 }

theorem SameMonth.nextMonth_eq {date other : Date} (same : date.SameMonth other) :
    date.nextMonth = other.nextMonth := by
  rw [nextMonth, nextMonth, same.1, same.2]

/-- A day number has the date of another exactly if it is the same. -/
theorem ofDays_inj {days other : Int} : ofDays days = ofDays other ↔ days = other := by
  constructor
  · intro same
    rw [← toDays_ofDays days, same, toDays_ofDays]
  · exact congrArg ofDays

/-- The days of a month are those from its first one to the first one of the next month. -/
theorem ofDays_sameMonth_iff {days : Int} {date : Date} (low : 1 ≤ date.month)
    (high : date.month ≤ 12) : (ofDays days).SameMonth date ↔
      date.firstOfMonth.toDays ≤ days ∧ days < date.nextMonth.toDays := by
  have next := toDays_nextMonth date low high
  change date.nextMonth.toDays = date.firstOfMonth.toDays + _ at next
  rw [next]
  constructor
  · rintro ⟨year, month⟩
    have bounds := ofDays_month_bounds days
    rwa [year, month] at bounds
  · rintro ⟨begun, running⟩
    exact ofDays_month_eq low high begun running

end Date

/-- The readings of a date are those from its midnight to the next. -/
theorem Wall.date_eq_iff {wall day : Int} : date wall = Date.ofDays day ↔
    day * Micros.perDay ≤ wall ∧ wall < day * Micros.perDay + Micros.perDay := by
  rw [date, Date.ofDays_inj, Wall.day, perDay_eq]
  omega

/-- The readings of a month are those from its first midnight to that of the next month. -/
theorem Wall.date_sameMonth_iff {wall : Int} {date : Date} (low : 1 ≤ date.month)
    (high : date.month ≤ 12) : (Wall.date wall).SameMonth date ↔
      date.firstOfMonth.toDays * Micros.perDay ≤ wall ∧
        wall < date.nextMonth.toDays * Micros.perDay := by
  rw [Wall.date, Date.ofDays_sameMonth_iff low high, Wall.day, perDay_eq]
  omega

namespace Timetable

variable {table : Timetable} {date next : Date}

/-- What the clocks show a number of milliseconds after the epoch. -/
def shownAt (table : Timetable) (instant : Int) : Int :=
  instant * 1000 + table.shiftAt (instant * 1000)

/-- The local date a number of milliseconds after the epoch. -/
def dateAt (table : Timetable) (instant : Int) : Date :=
  Wall.date (table.shownAt instant)

/-- The milliseconds at which a date begins, as a timetable tells them. -/
def begins (table : Timetable) (date : Date) : Int :=
  Instant.milliseconds ((table.localize (Wall.midnight date)).getD 0)

/-- A date whose midnight can be read begins at the instant that it denotes. -/
theorem Orderly.localize_begins (orderly : table.Orderly)
    (reads : table.Reads (Wall.midnight date)) :
    table.localize (date.toDays * Micros.perDay) = some (table.begins date * 1000) ∧
      table.Denotes (date.toDays * Micros.perDay) (table.begins date * 1000) := by
  obtain ⟨instant, found, denotes⟩ := orderly.localize_denotes reads
  have seconds := denotes.whole_seconds
  have begins : table.begins date = instant / 1000 :=
    (congrArg (fun result => Instant.milliseconds (Option.getD result 0)) found).trans
      (Instant.milliseconds_eq instant)
  have whole : table.begins date * 1000 = instant := by
    rw [begins]
    simp only [Wall.midnight, perSecond_eq, perDay_eq] at seconds
    omega
  rw [whole]
  exact ⟨found, denotes⟩

/-- Where a date begins the clocks have reached it, by less than two days. -/
theorem Orderly.shownAt_begins (orderly : table.Orderly)
    (reads : table.Reads (Wall.midnight date)) :
    date.toDays * Micros.perDay ≤ table.shownAt (table.begins date) ∧
      table.shownAt (table.begins date) < date.toDays * Micros.perDay + 2 * Micros.perDay := by
  obtain ⟨-, denotes⟩ := orderly.localize_begins reads
  have near := denotes.bounds
  have short := orderly.shiftAt_short (table.begins date * 1000)
  refine ⟨denotes.le_shown, ?_⟩
  rw [shownAt]
  omega

/-- Where a month begins the clocks show one of its dates. -/
theorem Orderly.dateAt_begins (orderly : table.Orderly) (low : 1 ≤ date.month)
    (high : date.month ≤ 12) (reads : table.Reads (Wall.midnight date.firstOfMonth)) :
    (table.dateAt (table.begins date.firstOfMonth)).SameMonth date := by
  have shown := orderly.shownAt_begins reads
  have next := Date.toDays_nextMonth date low high
  change date.nextMonth.toDays = date.firstOfMonth.toDays + _ at next
  have days := (Date.daysInMonth_bounds date.year date.month).1
  rw [dateAt, Wall.date_sameMonth_iff low high, next]
  rw [perDay_eq] at *
  omega

end Timetable

namespace Bucket

variable {table : Timetable} {date next : Date} {wall start : Int}

theorem localized_begins (orderly : table.Orderly) (reads : table.Reads (Wall.midnight date)) :
    localized table (Wall.midnight date) = .ok (table.begins date) := by
  change (inRange (table.localize (date.toDays * Micros.perDay))).map _ = _
  rw [(orderly.localize_begins reads).1]
  exact congrArg Except.ok (Instant.milliseconds_mul _)

/-- A local day goes from where its date begins to where the next one does. -/
theorem dayBoundsIn_begins (orderly : table.Orderly) (reads : table.Reads (Wall.midnight date))
    (following : table.Reads (Wall.midnight next))
    (writable : Wall.inRange (Wall.midnight next) = true)
    (consecutive : next.toDays = date.toDays + 1) :
    dayBoundsIn table date = .ok ⟨table.begins date, table.begins next⟩ := by
  have midnight : (Wall.midnight date + Micros.perDay : Int) = Wall.midnight next := by
    change date.toDays * Micros.perDay + Micros.perDay = next.toDays * Micros.perDay
    rw [consecutive, nextDay_eq]
  have checked : Instant.checked (Wall.midnight next) = .ok (Wall.midnight next) :=
    checked_ok_iff.2 ⟨writable, rfl⟩
  simp only [dayBoundsIn, localized_begins orderly reads, bind, Except.bind, midnight, checked,
    localized_begins orderly following]

theorem reads_nextMonth (inRange : Wall.inRange wall = true) (next : HasNext table .month wall) :
    table.Reads (Wall.midnight (Wall.date wall).nextMonth) :=
  (next.reads inRange).2

/-- The start of the month after a reading is where that month begins. -/
theorem nextMonthStart_begins (orderly : table.Orderly) (inRange : Wall.inRange wall = true)
    (next : HasNext table .month wall) :
    nextMonthStart table wall = .ok (table.begins (Wall.date wall).nextMonth * 1000) := by
  have reads := reads_nextMonth inRange next
  obtain ⟨localize, -⟩ := orderly.localize_begins reads
  obtain ⟨instant, normalize, found, -⟩ :=
    orderly.normalize_denotes (next.reads inRange).1 reads
  cases localize.symm.trans found
  have year : Date.yearInRange (Wall.date wall).nextMonth.year = true := by
    have low := leastYear_le_nextMonth inRange
    have high : (Wall.date wall).nextMonth.year ≤ Date.greatestYear := next
    simp [Date.yearInRange, low, high]
  simp only [nextMonthStart, midnight, year, if_true, bind, Except.bind]
  exact congrArg Bucket.inRange normalize

/-- A step of months leads to where the next month begins. -/
theorem monthStep_begins (orderly : table.Orderly) (name : String)
    (shown : wallAt table start = .ok wall) (next : HasNext table .month wall) :
    unitStep .month name table start = .ok (table.begins (Wall.date wall).nextMonth) := by
  obtain ⟨-, inRange, -⟩ := wallAt_ok_iff.1 shown
  simp only [unitStep, monthStep, shown, nextMonthStart_begins orderly inRange next, bind,
    Except.bind]
  exact congrArg Except.ok (Instant.milliseconds_mul _)

/-- The month after the first midnight of a month is the one after that month. -/
theorem nextMonth_firstOfMonth (low : 1 ≤ date.month) (high : date.month ≤ 12) :
    (Wall.date (Wall.midnight date.firstOfMonth)).nextMonth = date.nextMonth := by
  have next := Date.toDays_nextMonth date low high
  change date.nextMonth.toDays = date.firstOfMonth.toDays + _ at next
  have days := (Date.daysInMonth_bounds date.year date.month).1
  apply Date.SameMonth.nextMonth_eq
  change (Wall.date (date.firstOfMonth.toDays * Micros.perDay)).SameMonth date
  rw [Wall.date_sameMonth_iff low high, next, perDay_eq]
  omega

theorem proper_nextMonth (wall : Int) :
    (Wall.date wall).nextMonth.day = 1 ∧ 1 ≤ (Wall.date wall).nextMonth.month ∧
      (Wall.date wall).nextMonth.month ≤ 12 := by
  obtain ⟨low, high, -, -⟩ := Date.ofDays_proper (Wall.day wall)
  exact Date.nextMonth_proper (Wall.date wall) low high

theorem nextMonth_itself (wall : Int) :
    (Wall.date wall).nextMonth.firstOfMonth = (Wall.date wall).nextMonth := by
  rw [Date.firstOfMonth, ← (proper_nextMonth wall).1]

theorem hasNext_firstOfMonth (low : 1 ≤ date.month) (high : date.month ≤ 12)
    (year : date.nextMonth.year ≤ Date.greatestYear) :
    HasNext table .month (Wall.midnight date.firstOfMonth) := by
  change (Wall.date (Wall.midnight date.firstOfMonth)).nextMonth.year ≤ _
  rwa [nextMonth_firstOfMonth low high]

/-- A local month goes from where its first day begins to where that of the next one does. -/
theorem monthBoundsIn_begins (orderly : table.Orderly) (valid : date.firstOfMonth.isValid = true)
    (reads : table.Reads (Wall.midnight date.firstOfMonth))
    (year : date.nextMonth.year ≤ Date.greatestYear) :
    monthBoundsIn table date =
      .ok ⟨table.begins date.firstOfMonth, table.begins date.nextMonth⟩ := by
  obtain ⟨-, (⟨low, high⟩ : 1 ≤ date.month ∧ date.month ≤ 12), -⟩ := Date.isValid_iff.1 valid
  have stop := nextMonthStart_begins orderly (Date.midnight_inRange valid)
    (hasNext_firstOfMonth low high year)
  rw [nextMonth_firstOfMonth low high] at stop
  change (do
    let start ← localized table (Wall.midnight date.firstOfMonth)
    let stop ← nextMonthStart table (Wall.midnight date.firstOfMonth)
    Except.ok (⟨start, Instant.milliseconds stop⟩ : Bucket)) = _
  simp only [localized_begins orderly reads, stop, bind, Except.bind, Instant.milliseconds_mul]

end Bucket

end CalendarSeries
