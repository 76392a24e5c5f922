import CalendarSeries.Proofs.Calendar.Years
import Mathlib.Logic.Function.Iterate
/-!
Day numbers as what is counted from one date to the next. The calendar says which date follows a
date; the first of January 1970 is day zero, and each date has one number more than the one before.
-/
namespace CalendarSeries.Date

/-- The date after a date. -/
def tomorrow (date : Date) : Date :=
  if date.day < daysInMonth date.year date.month then { date with day := date.day + 1 }
  else date.nextMonth

/-- The first of January 1970. -/
def epoch : Date := ⟨1970, 1, 1⟩

/-- A date lies so many days after the first of January 1970, or before it if they are negative. -/
def IsDay (date : Date) (days : Int) : Prop :=
  ∃ onward back : Nat, tomorrow^[onward] epoch = tomorrow^[back] date ∧
    days = (onward : Int) - back

/-- A date that the calendar has, in any year. -/
structure IsProper (date : Date) : Prop where
  month : 1 ≤ date.month ∧ date.month ≤ 12
  day : 1 ≤ date.day ∧ date.day ≤ daysInMonth date.year date.month

theorem isProper_ofDays (days : Int) : (ofDays days).IsProper := by
  obtain ⟨low, high, first, last⟩ := ofDays_proper days
  exact ⟨⟨low, high⟩, first, last⟩

theorem isProper_of_isValid {date : Date} (valid : date.isValid = true) : date.IsProper := by
  obtain ⟨-, month, day⟩ := isValid_iff.1 valid
  exact ⟨month, day⟩

namespace IsProper

variable {date : Date} (proper : date.IsProper)

include proper

theorem tomorrow : date.tomorrow.IsProper := by
  unfold Date.tomorrow
  split
  · rename_i within
    exact ⟨proper.month, by simp, within⟩
  · obtain ⟨first, low, high⟩ := nextMonth_proper date proper.month.1 proper.month.2
    have days := (daysInMonth_bounds date.nextMonth.year date.nextMonth.month).1
    exact ⟨⟨low, high⟩, by omega, by omega⟩

/-- The next date has the next number, also over the end of a month. -/
theorem toDays_tomorrow : date.tomorrow.toDays = date.toDays + 1 := by
  have start := toDays_add_day date proper.day.1
  unfold Date.tomorrow
  split
  · have next := toDays_add_day { date with day := date.day + 1 } (by simp)
    simp only at next
    omega
  · rename_i last
    have next := toDays_nextMonth date proper.month.1 proper.month.2
    have most := proper.day.2
    omega

/-- A date is that of its number. -/
theorem ofDays_toDays : ofDays date.toDays = date := by
  obtain ⟨⟨low, high⟩, first, last⟩ := proper
  have start := toDays_add_day date first
  have begun : toDays ⟨date.year, date.month, 1⟩ ≤ date.toDays := by omega
  obtain ⟨year, month⟩ := ofDays_month_eq low high begun (by omega)
  have found := toDays_add_day (ofDays date.toDays) (isProper_ofDays _).day.1
  simp only [toDays_ofDays, year, month] at found
  have day : (ofDays date.toDays).day = date.day := by
    have least := (isProper_ofDays date.toDays).day.1
    omega
  generalize ofDays date.toDays = other at year month day
  obtain ⟨otherYear, otherMonth, otherDay⟩ := other
  simp only at year month day
  rw [year, month, day]

end IsProper

theorem tomorrow_ofDays (days : Int) : (ofDays days).tomorrow = ofDays (days + 1) := by
  have proper := isProper_ofDays days
  rw [← proper.tomorrow.ofDays_toDays, proper.toDays_tomorrow, toDays_ofDays]

theorem iterate_tomorrow_ofDays (days : Int) (count : Nat) :
    tomorrow^[count] (ofDays days) = ofDays (days + count) := by
  induction count with
  | zero => simp
  | succ count ih =>
    rw [Function.iterate_succ_apply', ih, tomorrow_ofDays]
    congr 1
    omega

/-- Counting the dates comes to the day number. -/
theorem IsProper.isDay_iff {date : Date} (proper : date.IsProper) {days : Int} :
    date.IsDay days ↔ days = date.toDays := by
  have zero : epoch = ofDays 0 := by decide
  unfold IsDay
  rw [zero, ← proper.ofDays_toDays]
  simp only [iterate_tomorrow_ofDays, toDays_ofDays]
  constructor
  · rintro ⟨onward, back, meet, count⟩
    have same := congrArg toDays meet
    rw [toDays_ofDays, toDays_ofDays] at same
    omega
  · intro count
    refine ⟨days.toNat, (-days).toNat, ?_, by omega⟩
    congr 1
    omega

end CalendarSeries.Date
