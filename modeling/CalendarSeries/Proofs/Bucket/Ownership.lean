import CalendarSeries.Proofs.Bucket.Bounds
import CalendarSeries.Proofs.Calendar.Wall
import CalendarSeries.Proofs.Zone.Arrival
import Mathlib.Order.Bounds.Basic
/-!
Which instants the bounds of local days and months own. All instants of a day or month come before
its end, and its start is the first of them, unless the clocks come late to the midnight that it
begins with. What they show between coming there first and its start is taken for the day or month
before.
-/
namespace CalendarSeries

open Timetable (ofZone perDay_eq perSecond_eq not_comesLate_of_isFixed)

namespace Timetable

variable {table : Timetable} {date : Date} {instant finish : Int}

/-- How the start of a span stands to the instants at which the clocks show it: it is the first of
them, unless the clocks come late to the midnight that the span begins with; then one is earlier. -/
structure Opens (table : Timetable) (midnight : Int) (shown : Set Int) (start : Int) : Prop where
  first : ¬table.ComesLate midnight → IsLeast shown start
  late : table.ComesLate midnight → ∃ instant ∈ shown, instant < start

/-- A date opens every span that its midnight begins and that the clocks show at all. -/
theorem Orderly.opens_begins (orderly : table.Orderly) (reads : table.Reads (Wall.midnight date))
    (reached : date.toDays * Micros.perDay ≤ table.shownAt instant)
    (within : table.shownAt instant < finish) :
    table.Opens (Wall.midnight date) {other | date.toDays * Micros.perDay ≤ table.shownAt other ∧
      table.shownAt other < finish} (table.begins date) := by
  obtain ⟨found, denotes⟩ := orderly.localize_begins reads
  constructor
  · intro prompt
    have next := orderly.shown_le_of_reached denotes prompt reached
    refine ⟨⟨denotes.le_shown, Int.lt_of_le_of_lt next within⟩, ?_⟩
    rintro other ⟨shown, -⟩
    have after := orderly.le_of_reached denotes prompt shown
    omega
  · intro late
    have whole : date.toDays * Micros.perDay % Micros.perSecond = 0 := by
      rw [perSecond_eq, perDay_eq]
      omega
    obtain ⟨other, earlier, seconds, shown, first⟩ := late.exists_reached orderly whole found
    have aligned : other / 1000 * 1000 = other := by
      rw [perSecond_eq] at seconds
      omega
    have there : table.shownAt (other / 1000) = other + table.shiftAt other := by
      rw [shownAt, aligned]
    rw [← there] at shown first
    exact ⟨other / 1000, ⟨shown, Int.lt_of_le_of_lt (first _ reached) within⟩, by omega⟩

/-- What the clocks show before a midnight comes before the date begins. -/
theorem Orderly.lt_begins (orderly : table.Orderly) (reads : table.Reads (Wall.midnight date))
    (ahead : table.shownAt instant < date.toDays * Micros.perDay) :
    instant < table.begins date := by
  obtain ⟨-, denotes⟩ := orderly.localize_begins reads
  have later : instant * 1000 < table.begins date * 1000 :=
    denotes.lt_of_midnight (orderly.shiftAt_short (instant * 1000)) ahead
  omega

theorem Orderly.opens_date (orderly : table.Orderly)
    (reads : table.Reads (Wall.midnight (table.dateAt instant))) :
    table.Opens (Wall.midnight (table.dateAt instant))
      {other | table.dateAt other = table.dateAt instant} (table.begins (table.dateAt instant)) := by
  have number : (table.dateAt instant).toDays = Wall.day (table.shownAt instant) :=
    Date.toDays_ofDays _
  obtain ⟨reached, within⟩ := Wall.date_eq_iff.1
    (show Wall.date (table.shownAt instant) = Date.ofDays (Wall.day (table.shownAt instant)) from rfl)
  rw [← number] at reached within
  have same : {other | table.dateAt other = table.dateAt instant} = _ :=
    Set.ext fun other => Wall.date_eq_iff
  rw [same, ← number]
  exact orderly.opens_begins reads reached within

theorem Orderly.opens_month (orderly : table.Orderly) (low : 1 ≤ date.month)
    (high : date.month ≤ 12) (reads : table.Reads (Wall.midnight date.firstOfMonth)) :
    table.Opens (Wall.midnight date.firstOfMonth) {other | (table.dateAt other).SameMonth date}
      (table.begins date.firstOfMonth) := by
  obtain ⟨reached, within⟩ :=
    (Wall.date_sameMonth_iff low high).1 (orderly.dateAt_begins low high reads)
  have same : {other | (table.dateAt other).SameMonth date} = _ :=
    Set.ext fun other => Wall.date_sameMonth_iff low high
  rw [same]
  exact orderly.opens_begins reads reached within

end Timetable

namespace Bucket

/-- What the bounds of a span have to do with the instants at which the clocks show it: they all
come before its end, and its start opens it. -/
structure Owns (table : Timetable) (midnight : Int) (shown : Set Int) (bound : Bucket) : Prop where
  opens : table.Opens midnight shown bound.start
  before : ∀ instant ∈ shown, instant < bound.stop

variable {table : Timetable} {date : Date} {instant wall : Int}

theorem dayBoundsIn_owns (orderly : table.Orderly)
    (reads : table.Reads (Wall.midnight (table.dateAt instant)))
    (inRange : Wall.inRange (Wall.midnight (table.dateAt instant)) = true)
    (next : HasNext table .day (Wall.midnight (table.dateAt instant))) :
    ∃ bound, dayBoundsIn table (table.dateAt instant) = .ok bound ∧
      Owns table (Wall.midnight (table.dateAt instant))
        {other | table.dateAt other = table.dateAt instant} bound := by
  obtain ⟨writable, following⟩ := next.reads inRange
  let later := Date.ofDays ((table.dateAt instant).toDays + 1)
  have consecutive : later.toDays = (table.dateAt instant).toDays + 1 := Date.toDays_ofDays _
  have midnight : follower .day (Wall.midnight (table.dateAt instant)) = Wall.midnight later := by
    change (table.dateAt instant).toDays * Micros.perDay + Micros.perDay = later.toDays * _
    rw [consecutive, nextDay_eq]
  rw [midnight] at writable following
  refine ⟨_, dayBoundsIn_begins orderly reads following writable consecutive,
    orderly.opens_date reads, ?_⟩
  intro other same
  have number : (table.dateAt instant).toDays = Wall.day (table.shownAt instant) :=
    Date.toDays_ofDays _
  have within := (Wall.date_eq_iff.1 same).2
  apply orderly.lt_begins following
  rwa [consecutive, number, ← nextDay_eq]

theorem monthBoundsIn_owns (orderly : table.Orderly) (valid : date.firstOfMonth.isValid = true)
    (reads : table.Reads (Wall.midnight date.firstOfMonth))
    (year : date.nextMonth.year ≤ Date.greatestYear) :
    ∃ bound, monthBoundsIn table date = .ok bound ∧
      Owns table (Wall.midnight date.firstOfMonth) {other | (table.dateAt other).SameMonth date}
        bound := by
  obtain ⟨-, (⟨low, high⟩ : 1 ≤ date.month ∧ date.month ≤ 12), -⟩ := Date.isValid_iff.1 valid
  have next : HasNext table .month (Wall.midnight date.firstOfMonth) :=
    hasNext_firstOfMonth low high year
  have following := reads_nextMonth (Date.midnight_inRange valid) next
  rw [nextMonth_firstOfMonth low high] at following
  refine ⟨_, monthBoundsIn_begins orderly valid reads year,
    orderly.opens_month low high reads, ?_⟩
  intro other shown
  exact orderly.lt_begins following ((Wall.date_sameMonth_iff low high).1 shown).2

theorem nextMonthStart_opens (orderly : table.Orderly) (inRange : Wall.inRange wall = true)
    (next : HasNext table .month wall) :
    ∃ start, (nextMonthStart table wall).map Instant.milliseconds = .ok start ∧
      table.Opens (Wall.midnight (Wall.date wall).nextMonth)
        {other | (table.dateAt other).SameMonth (Wall.date wall).nextMonth} start := by
  have reads := reads_nextMonth inRange next
  obtain ⟨-, low, high⟩ := proper_nextMonth wall
  have itself := nextMonth_itself wall
  refine ⟨table.begins (Wall.date wall).nextMonth, ?_, ?_⟩
  · rw [nextMonthStart_begins orderly inRange next]
    exact congrArg Except.ok (Instant.milliseconds_mul _)
  · have opens := orderly.opens_month low high (by rwa [itself])
    rwa [itself] at opens

/-- The bounds of local days and months own the instants at which the clocks show them, in every
known zone and along every orderly timetable, and the start of the next month opens it. Where the
clocks come late to a midnight, they leave out what these showed before. -/
theorem bounds_ownInstants (name : String) (table : Timetable) :
    (timetable name = .ok table →
      table.Orderly ∧ dayBounds name = dayBoundsIn table ∧ monthBounds name = monthBoundsIn table) ∧
    (table.Orderly → ∀ instant wall, wallAt table instant = .ok wall →
      (table.Reads (Wall.midnight (Wall.date wall)) →
        HasNext table .day (Wall.midnight (Wall.date wall)) →
        ∃ bound, dayBoundsIn table (Wall.date wall) = .ok bound ∧
          Owns table (Wall.midnight (Wall.date wall)) {other | table.dateAt other = Wall.date wall}
            bound) ∧
      (table.Reads (Wall.midnight (Wall.date wall).firstOfMonth) → HasNext table .month wall →
        ∃ bound, monthBoundsIn table (Wall.date wall) = .ok bound ∧
          Owns table (Wall.midnight (Wall.date wall).firstOfMonth)
            {other | (table.dateAt other).SameMonth (Wall.date wall)} bound) ∧
      (HasNext table .month wall →
        ∃ start, (nextMonthStart table wall).map Instant.milliseconds = .ok start ∧
          table.Opens (Wall.midnight (Wall.date wall).nextMonth)
            {other | (table.dateAt other).SameMonth (Wall.date wall).nextMonth} start)) := by
  constructor
  · intro zone
    exact ⟨Timetable.orderly_of_name zone, dayBounds_eq zone, monthBounds_eq zone⟩
  · intro orderly instant wall shown
    obtain ⟨-, inRange, rfl⟩ := wallAt_ok_iff.1 shown
    have valid := Wall.date_isValid inRange
    obtain ⟨years, months, first, last⟩ := Date.isValid_iff.1 valid
    have firstValid : (table.dateAt instant).firstOfMonth.isValid = true :=
      Date.isValid_iff.2 ⟨years, months, Nat.le_refl 1, Nat.le_trans first last⟩
    refine ⟨fun reads next => ?_, fun reads next => ?_, fun next => ?_⟩
    · exact dayBoundsIn_owns orderly reads (Date.midnight_inRange valid) next
    · exact monthBoundsIn_owns orderly firstValid reads next
    · exact nextMonthStart_opens orderly inRange next

/-- In St. John's, which showed the first minute of November 2009 twice, the bounds leave out the
first time; in universal time they leave out nothing. -/
theorem bounds_ownInstants_november :
    (∃ bound, dayBounds "America/St_Johns" ⟨2009, 11, 1⟩ = .ok bound ∧
      1257042600000 < bound.start ∧
      (ofZone Zone.stJohns).dateAt 1257042600000 = ⟨2009, 11, 1⟩ ∧
      (ofZone Zone.stJohns).ComesLate (Wall.midnight ⟨2009, 11, 1⟩)) ∧
    ∃ bound, monthBounds "UTC" ⟨2009, 11, 1⟩ = .ok bound ∧
      IsLeast {other | ((ofZone Zone.universal).dateAt other).SameMonth ⟨2009, 11, 1⟩} bound.start := by
  constructor
  · obtain ⟨named, owned⟩ := bounds_ownInstants "America/St_Johns" (ofZone Zone.stJohns)
    obtain ⟨orderly, same, -⟩ := named rfl
    obtain ⟨day, -, -⟩ := owned orderly 1257042600000 1257033600000000
      (ok_of_toOption (by decide +kernel))
    have date : Wall.date 1257033600000000 = ⟨2009, 11, 1⟩ := by decide +kernel
    have shown : (ofZone Zone.stJohns).dateAt 1257042600000 = ⟨2009, 11, 1⟩ := by decide +kernel
    rw [date] at day
    obtain ⟨bound, found, owns⟩ := day (.inr (by decide +kernel))
      ⟨by decide +kernel, fun _ => by decide +kernel⟩
    have bounds : dayBoundsIn (ofZone Zone.stJohns) ⟨2009, 11, 1⟩ =
        .ok ⟨1257046200000, 1257132600000⟩ := ok_of_toOption (by decide +kernel)
    cases found.symm.trans bounds
    refine ⟨_, by rw [same]; exact bounds, by decide, shown, ?_⟩
    by_contra prompt
    have first := (owns.opens.first prompt).2 shown
    exact absurd first (by decide)
  · obtain ⟨named, owned⟩ := bounds_ownInstants "UTC" (ofZone Zone.universal)
    obtain ⟨orderly, -, same⟩ := named rfl
    obtain ⟨-, month, -⟩ := owned orderly 1257042600000 1257042600000000
      (ok_of_toOption (by decide +kernel))
    have date : Wall.date 1257042600000000 = ⟨2009, 11, 1⟩ := by decide +kernel
    rw [date] at month
    obtain ⟨bound, found, owns⟩ := month (.inl rfl) ((nextMonth_year_iff _).2 (by decide))
    rw [same]
    exact ⟨bound, found, owns.opens.first (not_comesLate_of_isFixed rfl)⟩

/-- The first minute of November 2009 in St. John's, which the clocks showed twice, and the first
seconds of September 1927 in Santiago, where they were set ahead just before midnight, come before
the start of the day, the month and the next month. -/
theorem bounds_leaveOutFirst :
    ((ofZone Zone.stJohns).dateAt 1257042600000 = ⟨2009, 11, 1⟩ ∧
      dayBounds "America/St_Johns" ⟨2009, 11, 1⟩ = .ok ⟨1257046200000, 1257132600000⟩ ∧
      monthBounds "America/St_Johns" ⟨2009, 11, 1⟩ = .ok ⟨1257046200000, 1259638200000⟩ ∧
      (nextMonthStart (ofZone Zone.stJohns) (Wall.midnight ⟨2009, 10, 20⟩)).map
        Instant.milliseconds = .ok 1257046200000) ∧
    (ofZone Zone.santiago).dateAt (-1335986235000) = ⟨1927, 9, 1⟩ ∧
      monthBounds "America/Santiago" ⟨1927, 9, 1⟩ = .ok ⟨-1335986220000, -1333396800000⟩ := by
  refine ⟨⟨?_, ok_of_toOption ?_, ok_of_toOption ?_, ok_of_toOption ?_⟩, ?_, ok_of_toOption ?_⟩
  all_goals decide +kernel

end Bucket

end CalendarSeries
