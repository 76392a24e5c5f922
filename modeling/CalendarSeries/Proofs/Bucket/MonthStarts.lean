import CalendarSeries.Proofs.Bucket.Bounds
/-!
Month buckets by the calendar. A step of months keeps nothing but an instant, yet where a month
begins the clocks show a date of that month, so the next step leads to the month after it. Each
later month has its one boundary, and a bucket that goes from one to the next has the bounds of its
month.
-/
namespace CalendarSeries

open Timetable (ofZone perDay_eq)

namespace Date

/-- The first of the month that many months later. -/
def laterMonth (first : Date) : Nat → Date
  | 0 => first
  | count + 1 => (first.laterMonth count).nextMonth

variable {first : Date}

theorem laterMonth_proper (begins : first.day = 1) (low : 1 ≤ first.month)
    (high : first.month ≤ 12) (count : Nat) :
    (first.laterMonth count).day = 1 ∧ 1 ≤ (first.laterMonth count).month ∧
      (first.laterMonth count).month ≤ 12 := by
  induction count with
  | zero => exact ⟨begins, low, high⟩
  | succ count ih => exact nextMonth_proper _ ih.2.1 ih.2.2

/-- Months follow one another by four weeks at least. -/
theorem laterMonth_apart (begins : first.day = 1) (low : 1 ≤ first.month)
    (high : first.month ≤ 12) {count later : Nat} (order : count + 1 ≤ later) :
    (first.laterMonth count).toDays + 28 ≤ (first.laterMonth later).toDays := by
  have next (count : Nat) :
      (first.laterMonth count).toDays + 28 ≤ (first.laterMonth (count + 1)).toDays := by
    obtain ⟨day, least, greatest⟩ := laterMonth_proper begins low high count
    have itself : { first.laterMonth count with day := 1 } = first.laterMonth count := by
      rw [← day]
    have starts := toDays_nextMonth (first.laterMonth count) least greatest
    have days := (daysInMonth_bounds (first.laterMonth count).year
      (first.laterMonth count).month).1
    rw [itself] at starts
    rw [laterMonth]
    omega
  induction later, order using Nat.le_induction with
  | base => exact next count
  | succ later _ ih =>
    have following := next later
    omega

theorem year_le_nextMonth (date : Date) : date.year ≤ date.nextMonth.year := by
  unfold nextMonth
  split <;> simp

theorem laterMonth_year_le {count later : Nat} (order : count ≤ later) :
    (first.laterMonth count).year ≤ (first.laterMonth later).year := by
  induction later, order using Nat.le_induction with
  | base => exact Int.le_refl _
  | succ later _ ih => exact Int.le_trans ih (year_le_nextMonth _)

theorem laterMonth_nextMonth (date : Date) (count : Nat) :
    date.nextMonth.laterMonth count = date.laterMonth (count + 1) := by
  induction count with
  | zero => rfl
  | succ count ih => exact congrArg nextMonth ih

end Date

namespace Bucket

variable {table : Timetable} {name : String} {start stop wall : Int} {date : Date}

theorem nextMonth_isValid (inRange : Wall.inRange wall = true) (next : HasNext table .month wall) :
    (Wall.date wall).nextMonth.isValid = true := by
  obtain ⟨first, months⟩ := proper_nextMonth wall
  rw [Date.isValid_iff, first]
  exact ⟨⟨leastYear_le_nextMonth inRange, next⟩, months, Nat.le_refl 1,
    Nat.le_trans (by decide) (Date.daysInMonth_bounds _ _).1⟩

/-- The bounds of a month are asked for with any of its dates. -/
theorem monthBoundsIn_eq_of_sameMonth {other : Date} (same : date.SameMonth other) :
    monthBoundsIn table date = monthBoundsIn table other := by
  have first : date.firstOfMonth = other.firstOfMonth := by
    rw [Date.firstOfMonth, Date.firstOfMonth, same.1, same.2]
  change monthBoundsIn table date.firstOfMonth = monthBoundsIn table other.firstOfMonth
  rw [first]

/-- Where the next month begins the clocks show a date of it. -/
theorem shows_nextMonth (orderly : table.Orderly) (shown : wallAt table start = .ok wall)
    (year : (Wall.date wall).nextMonth.nextMonth.year ≤ Date.greatestYear) :
    ∃ reading, wallAt table (table.begins (Wall.date wall).nextMonth) = .ok reading ∧
      (Wall.date reading).SameMonth (Wall.date wall).nextMonth := by
  obtain ⟨-, inRange, -⟩ := wallAt_ok_iff.1 shown
  have next : HasNext table .month wall := Int.le_trans (Date.year_le_nextMonth _) year
  have reads := reads_nextMonth inRange next
  have itself := nextMonth_itself wall
  obtain ⟨-, low, high⟩ := proper_nextMonth wall
  refine ⟨table.shownAt (table.begins (Wall.date wall).nextMonth), ?_, ?_⟩
  · -- the month after it can be written, so it begins well before the years end
    have early := (nextMonth_year_iff (Wall.midnight (Wall.date wall).nextMonth.firstOfMonth)).1
      (by rwa [nextMonth_firstOfMonth low high])
    have late := (follower_month_bounds wall).1
    obtain ⟨reached, near⟩ := orderly.shownAt_begins reads
    have short := orderly.shiftAt_short (table.begins (Wall.date wall).nextMonth * 1000)
    have begin := lt_of_step orderly (monthStep_begins orderly "" shown next)
    obtain ⟨startInRange, -, -⟩ := wallAt_ok_iff.1 shown
    rw [itself] at early
    simp only [Wall.midnight, follower, Timetable.shownAt, Timetable.inRange_iff, perDay_eq] at *
    rw [wallAt_ok_iff, Timetable.inRange_iff, Timetable.inRange_iff]
    omega
  · have same := orderly.dateAt_begins low high (by rwa [itself])
    rwa [itself] at same

/-- Where a range starts, and then where each month from one on begins. -/
def startsFrom (table : Timetable) (start : Int) (first : Date) : Nat → Int
  | 0 => start
  | count + 1 => table.begins (first.laterMonth count)

section Stepping

variable {count k : Nat} (orderly : table.Orderly) (shown : wallAt table start = .ok wall)
  (year : ((Wall.date wall).nextMonth.laterMonth count).year ≤ Date.greatestYear)
include orderly shown year

/-- At each of these starts the clocks show a date of the month before the next one. -/
theorem shows_startsFrom (bound : k ≤ count) : ∃ reading,
    wallAt table (startsFrom table start (Wall.date wall).nextMonth k) = .ok reading ∧
      HasNext table .month reading ∧
      (Wall.date reading).nextMonth = (Wall.date wall).nextMonth.laterMonth k := by
  have following {k : Nat} (bound : k ≤ count) {reading : Int}
      (next : (Wall.date reading).nextMonth = (Wall.date wall).nextMonth.laterMonth k) :
      HasNext table .month reading := by
    change (Wall.date reading).nextMonth.year ≤ _
    rw [next]
    exact Int.le_trans (Date.laterMonth_year_le bound) year
  induction k with
  | zero => exact ⟨wall, shown, following bound rfl, rfl⟩
  | succ k ih =>
    obtain ⟨reading, found, -, next⟩ := ih (by omega)
    have within := Int.le_trans (Date.laterMonth_year_le bound) year
    rw [Date.laterMonth, ← next] at within
    obtain ⟨later, there, same⟩ := shows_nextMonth orderly found within
    rw [next] at there same
    exact ⟨later, there, following bound same.nextMonth_eq, same.nextMonth_eq⟩

theorem step_startsFrom (name : String) (bound : k ≤ count) :
    unitStep .month name table (startsFrom table start (Wall.date wall).nextMonth k) =
      .ok (startsFrom table start (Wall.date wall).nextMonth (k + 1)) := by
  obtain ⟨reading, found, next, month⟩ := shows_startsFrom orderly shown year bound
  have stepped := monthStep_begins orderly name found next
  rwa [month] at stepped

/-- The bounds of a date that the clocks show where a month begins are two starts in a row. -/
theorem monthBounds_startsFrom (bound : k < count) :
    (table.dateAt (startsFrom table start (Wall.date wall).nextMonth (k + 1))).SameMonth
        ((Wall.date wall).nextMonth.laterMonth k) ∧
      monthBoundsIn table ((Wall.date wall).nextMonth.laterMonth k) =
        .ok ⟨startsFrom table start (Wall.date wall).nextMonth (k + 1),
          startsFrom table start (Wall.date wall).nextMonth (k + 2)⟩ := by
  obtain ⟨reading, found, next, month⟩ := shows_startsFrom orderly shown year (Nat.le_of_lt bound)
  obtain ⟨-, inRange, -⟩ := wallAt_ok_iff.1 found
  have itself := nextMonth_itself reading
  have valid := nextMonth_isValid inRange next
  have reads := reads_nextMonth inRange next
  obtain ⟨-, low, high⟩ := proper_nextMonth reading
  have within : (Wall.date reading).nextMonth.nextMonth.year ≤ Date.greatestYear := by
    rw [month]
    exact Int.le_trans (Date.laterMonth_year_le bound) year
  have same := orderly.dateAt_begins low high (by rwa [itself])
  have bounds := monthBoundsIn_begins orderly (by rwa [itself]) (by rwa [itself]) within
  rw [itself, month] at same bounds
  exact ⟨same, bounds⟩

theorem run_startsFrom (name : String)
    (reached : stop ≤ table.begins ((Wall.date wall).nextMonth.laterMonth count)) :
    ∃ buckets, Run (unitStep .month name table) stop start buckets ∧ buckets.map Bucket.start =
      start :: ((List.range count).map fun k =>
        startsFrom table start (Wall.date wall).nextMonth (k + 1)).takeWhile (· < stop) :=
  Run.of_starts (startsFrom table start (Wall.date wall).nextMonth) count
    (fun _ bound => step_startsFrom orderly shown year name bound)
    (fun _ bound => lt_of_step orderly (step_startsFrom orderly shown year name bound)) reached

end Stepping

/-- Month buckets that start, from the second one on, where the bounds of the given months do, as
long as these come before the end, and with the bounds of their month where others surround them. -/
structure StartsMonths (table : Timetable) (bounds : Date → Except Error Bucket)
    (months : List Date) (start stop : Int) (buckets : List Bucket) : Prop where
  tiling : Tiling start stop buckets
  starts : ∃ found, months.mapM bounds = .ok found ∧
    buckets.tail.map Bucket.start = (found.map Bucket.start).takeWhile (· < stop)
  inner : ∀ bucket ∈ buckets.tail.dropLast, bounds (table.dateAt bucket.start) = .ok bucket

theorem exists_startsMonths (orderly : table.Orderly) (shown : wallAt table start = .ok wall)
    {count : Nat}
    (year : ((Wall.date wall).nextMonth.laterMonth count).year ≤ Date.greatestYear)
    (reached : stop ≤ table.begins ((Wall.date wall).nextMonth.laterMonth count)) (name : String) :
    ∃ buckets, Run (unitStep .month name table) stop start buckets ∧
      StartsMonths table (monthBoundsIn table)
        ((List.range count).map (Wall.date wall).nextMonth.laterMonth) start stop buckets := by
  obtain ⟨buckets, run, begin⟩ := run_startsFrom orderly shown year name reached
  have bounds {k : Nat} (bound : k < count) := monthBounds_startsFrom orderly shown year bound
  have starts := (List.map_tail (f := Bucket.start) (l := buckets)).trans (congrArg List.tail begin)
  refine ⟨buckets, run, run.tiling, ⟨(List.range count).map fun k => ⟨startsFrom table start (Wall.date wall).nextMonth (k + 1),
      startsFrom table start (Wall.date wall).nextMonth (k + 2)⟩, ?_, ?_⟩, ?_⟩
  · rw [List.mapM_map]
    exact mapM_of_forall fun k member => (bounds (List.mem_range.1 member)).2
  · rw [starts, List.map_map]
    rfl
  · intro bucket member
    have later : bucket.start ∈ buckets.tail.map Bucket.start :=
      List.mem_map_of_mem (List.dropLast_subset _ member)
    rw [starts] at later
    obtain ⟨k, inside, same⟩ := List.mem_map.1 ((List.takeWhile_prefix _).subset later)
    rw [List.mem_range] at inside
    have stepped := run.stepped_of_mem_dropLast bucket
      (List.mem_of_mem_tail (by rwa [List.tail_dropLast]))
    have next := step_startsFrom orderly shown year name (Nat.succ_le_of_lt inside)
    obtain ⟨month, found⟩ := bounds inside
    change startsFrom table start (Wall.date wall).nextMonth (k + 1) = bucket.start at same
    rw [same] at next month found
    have ends := Except.ok.inj (next.symm.trans stepped)
    rw [monthBoundsIn_eq_of_sameMonth month, found]
    exact congrArg (Except.ok ∘ Bucket.mk bucket.start) ends

/-- Month buckets go by the calendar, in every known zone and along every orderly timetable, as long
as there is a month that can be written and begins no earlier than the range ends. -/
theorem calendar_startsMonths (name : String) (table : Timetable) (start stop wall : Int)
    (count : Nat) (shown : wallAt table start = .ok wall) (order : start ≤ stop)
    (year : ((Wall.date wall).nextMonth.laterMonth count).year ≤ Date.greatestYear)
    (reached : stop ≤ table.begins ((Wall.date wall).nextMonth.laterMonth count)) :
    (timetable name = .ok table →
      ∃ buckets, calendar .month name start stop = .ok buckets ∧
        StartsMonths table (monthBounds name)
          ((List.range count).map (Wall.date wall).nextMonth.laterMonth) start stop buckets) ∧
    (table.Orderly →
      ∃ buckets, cut (unitStep .month name table) start stop = .ok buckets ∧
        StartsMonths table (monthBoundsIn table)
          ((List.range count).map (Wall.date wall).nextMonth.laterMonth) start stop buckets) := by
  constructor
  · intro zone
    obtain ⟨buckets, run, starts⟩ :=
      exists_startsMonths (Timetable.orderly_of_name zone) shown year reached name
    rw [monthBounds_eq zone]
    exact ⟨buckets, (calendar_ok_iff zone).2 ⟨order, run⟩, starts⟩
  · intro orderly
    obtain ⟨buckets, run, starts⟩ := exists_startsMonths orderly shown year reached name
    exact ⟨buckets, (cut_unitStep_iff orderly order).2 run, starts⟩

/-- From October to December 2009 in St. John's, where November began twice, and along a timetable
that skips twelve hours before and after the midnight at which January 1970 begins. -/
theorem calendar_startsMonths_oddMidnights :
    (∃ buckets, calendar .month "America/St_Johns" 1256000000000 1262000000000 = .ok buckets ∧
      StartsMonths (ofZone Zone.stJohns) (monthBounds "America/St_Johns")
        [⟨2009, 11, 1⟩, ⟨2009, 12, 1⟩] 1256000000000 1262000000000 buckets) ∧
    ∃ buckets, cut (unitStep .month "" ⟨⟨-43200, 0⟩, [(0, ⟨43200, 0⟩)]⟩) (-5000000000)
        5000000000 = .ok buckets ∧
      StartsMonths ⟨⟨-43200, 0⟩, [(0, ⟨43200, 0⟩)]⟩
        (monthBoundsIn ⟨⟨-43200, 0⟩, [(0, ⟨43200, 0⟩)]⟩)
        [⟨1969, 12, 1⟩, ⟨1970, 1, 1⟩, ⟨1970, 2, 1⟩] (-5000000000) 5000000000 buckets := by
  constructor
  · exact (calendar_startsMonths "America/St_Johns" (ofZone Zone.stJohns) 1256000000000
      1262000000000 1255991000000000 2 (ok_of_toOption (by decide +kernel)) (by decide)
      (by decide +kernel) (by decide +kernel)).1 rfl
  · exact (calendar_startsMonths "" ⟨⟨-43200, 0⟩, [(0, ⟨43200, 0⟩)]⟩ (-5000000000) 5000000000
      (-5043200000000) 3 (ok_of_toOption (by decide +kernel)) (by decide) (by decide +kernel)
      (by decide +kernel)).2 (by decide +kernel)

/-- Tokyo's first morning is the month of January of the year one there, and February can be
bounded, but in universal time it is still the year zero, and the range is refused. -/
theorem calendar_refusesFirstMorning :
    Wall.date (-62135596800001000 + (ofZone Zone.tokyo).shiftAt (-62135596800001000)) =
        ⟨1, 1, 1⟩ ∧
      monthBounds "Asia/Tokyo" ⟨1, 2, 1⟩ = .ok ⟨-62132951940000, -62130532740000⟩ ∧
      (calendar .month "Asia/Tokyo" (-62135596800001) (-62132000000000)).toOption = none := by
  refine ⟨?_, ok_of_toOption ?_, ?_⟩
  all_goals decide +kernel

end Bucket

end CalendarSeries
