import CalendarSeries.Proofs.Bucket.Midnight
import CalendarSeries.Proofs.Bucket.MonthStarts
import Mathlib.Data.List.TakeWhile
/-!
Month buckets from the first of a month to that of a later one. Each step leads to where the next
month begins by the timetable, so there is one bucket for each month; the first starts where the
range does, the others where their month begins.
-/
namespace CalendarSeries.Bucket

open Timetable (perDay_eq)

variable {zone : Zone} {name : String} {date : Date}

/-- Where a month begins by its zone, the clocks of the timetable show a date of it too. -/
theorem wallAt_zone_begins (charted : zone.IsCharted) (first : date.day = 1)
    (settles : zone.Settles date) (following : zone.Settles date.nextMonth)
    (late : Wall.inRange (zone.begins date * 1000) = true) :
    ∃ wall, wallAt (.ofZone zone) (zone.begins date) = .ok wall ∧
      (Wall.date wall).nextMonth = date.nextMonth := by
  obtain ⟨after, before, reached⟩ := settles.near charted (.inl rfl)
  obtain ⟨-, (⟨low, high⟩ : 1 ≤ date.month ∧ date.month ≤ 12), -⟩ :=
    Date.isValid_iff.1 settles.valid
  have short := charted.table.shiftAt_short (zone.begins date * 1000)
  have itself : date.firstOfMonth = date := by rw [Date.firstOfMonth, ← first]
  have next := Date.toDays_nextMonth date low high
  change date.nextMonth.toDays = date.firstOfMonth.toDays + _ at next
  have days := (Date.daysInMonth_bounds date.year date.month).1
  have early := (Date.toDays_bounds following.valid).2
  have least := (Date.toDays_bounds settles.valid).1
  have opening : Date.leastDay = -719162 := by decide
  have closing : Date.greatestDay = 2932896 := by decide
  refine ⟨_, wallAt_ok_iff.2 ⟨late, ?_, rfl⟩, Date.SameMonth.nextMonth_eq ?_⟩
  · rw [Timetable.inRange_iff]
    rw [itself] at next
    rw [perDay_eq] at *
    omega
  · rw [Wall.date_sameMonth_iff low high, next, itself]
    rw [perDay_eq] at *
    omega

/-- Where the buckets of the months from a first one on start: the first where a range from there
does, the others where their month begins. -/
def monthStart (zone : Zone) (first : Date) : Nat → Int
  | 0 => zone.begins first
  | k + 1 => (Timetable.ofZone zone).begins (first.laterMonth (k + 1))

theorem startsFrom_eq (zone : Zone) (date : Date) (k : Nat) :
    startsFrom (.ofZone zone) (zone.begins date) date.nextMonth k = monthStart zone date k := by
  cases k with
  | zero => rfl
  | succ k => rw [startsFrom, monthStart, Date.laterMonth_nextMonth]

/-- A month begins before the months after it, whichever way it is told. -/
theorem monthStart_lt_begins (charted : zone.IsCharted) (first : date.day = 1) {k later : Nat}
    (order : k < later) (settles : ∀ count ≤ later, zone.Settles (date.laterMonth count)) :
    monthStart zone date k < zone.begins (date.laterMonth later) := by
  obtain ⟨-, ⟨low, high⟩, -⟩ := Date.isValid_iff.1 (settles 0 (Nat.zero_le _)).valid
  have apart := Date.laterMonth_apart first low high order
  have told : monthStart zone date k = zone.begins (date.laterMonth k) ∨
      monthStart zone date k = (Timetable.ofZone zone).begins (date.laterMonth k) := by
    cases k with
    | zero => exact .inl rfl
    | succ k => exact .inr rfl
  have here := (settles k (Nat.le_of_lt order)).near charted told
  have there := (settles later (Nat.le_refl _)).near charted (.inl rfl)
  rw [perDay_eq] at here there
  omega

/-- A range from the first of a month to that of a later one has a bucket for each month. -/
theorem cut_months (name : String) (charted : zone.IsCharted) (first : date.day = 1)
    (late : Wall.inRange (zone.begins date * 1000) = true) (last : Nat)
    (settles : ∀ k ≤ last + 1, zone.Settles (date.laterMonth k)) :
    zone.begins date ≤ zone.begins (date.laterMonth (last + 1)) ∧
    ∃ buckets, cut (unitStep .month name (.ofZone zone)) (zone.begins date)
        (zone.begins (date.laterMonth (last + 1))) = .ok buckets ∧
      buckets.map Bucket.start = (List.range (last + 1)).map (monthStart zone date) := by
  have order : zone.begins date ≤ zone.begins (date.laterMonth (last + 1)) :=
    Int.le_of_lt (monthStart_lt_begins charted first (Nat.succ_pos last) settles)
  refine ⟨order, ?_⟩
  obtain ⟨wall, shown, next⟩ := wallAt_zone_begins charted first (settles 0 (Nat.zero_le _))
    (settles 1 (Nat.succ_le_succ (Nat.zero_le _))) late
  have final := settles (last + 1) (Nat.le_refl _)
  have year : ((Wall.date wall).nextMonth.laterMonth last).year ≤ Date.greatestYear := by
    rw [next, Date.laterMonth_nextMonth]
    exact (Date.isValid_iff.1 final.valid).1.2
  have reached : zone.begins (date.laterMonth (last + 1)) ≤
      (Timetable.ofZone zone).begins ((Wall.date wall).nextMonth.laterMonth last) := by
    rw [next, Date.laterMonth_nextMonth]
    exact (final.begins_le charted).1
  obtain ⟨buckets, run, begin⟩ := run_startsFrom charted.table shown year name reached
  refine ⟨buckets, (cut_unitStep_iff charted.table order).2 run, ?_⟩
  simp only [next, startsFrom_eq] at begin
  have early : ((List.range last).map fun k => monthStart zone date (k + 1)).takeWhile
      (· < zone.begins (date.laterMonth (last + 1))) =
        (List.range last).map fun k => monthStart zone date (k + 1) := by
    rw [List.takeWhile_eq_self_iff]
    intro start member
    obtain ⟨k, inside, rfl⟩ := List.mem_map.1 member
    rw [List.mem_range] at inside
    simpa using monthStart_lt_begins charted first (show k + 1 < last + 1 by omega) settles
  rw [begin, early, List.range_succ_eq_map, List.map_cons, List.map_map]
  rfl

end CalendarSeries.Bucket
