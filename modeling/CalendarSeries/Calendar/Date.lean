/-!
Dates of the Gregorian calendar, extended to all years, and their day numbers: 1 January 1970 is
day zero. `Date.toDays` and `Date.ofDays` count with years that begin in March, so that the leap
day is the last of its year.
-/
namespace CalendarSeries

structure Date where
  year : Int
  month : Nat
  day : Nat
  deriving DecidableEq, Repr

namespace Date

def isLeap (year : Int) : Bool :=
  year % 4 == 0 && (year % 100 != 0 || year % 400 == 0)

def daysInMonth (year : Int) (month : Nat) : Nat :=
  if month = 2 then (if isLeap year then 29 else 28)
  else if month = 4 ∨ month = 6 ∨ month = 9 ∨ month = 11 then 30
  else 31

def leastYear : Int := 1

def greatestYear : Int := 9999

def yearInRange (year : Int) : Bool :=
  leastYear ≤ year && year ≤ greatestYear

/-- A date that the calendar has, in a year that can be written with four digits. -/
def isValid (date : Date) : Bool :=
  yearInRange date.year && (1 ≤ date.month && date.month ≤ 12) &&
    (1 ≤ date.day && date.day ≤ daysInMonth date.year date.month)

/-- The months from March on, counted from zero. -/
def marchMonth (month : Nat) : Nat :=
  (month + 9) % 12

/-- The year that a month belongs to if years begin in March. -/
def marchYear (year : Int) (month : Nat) : Int :=
  if month ≤ 2 then year - 1 else year

def toDays (date : Date) : Int :=
  let year := marchYear date.year date.month
  let dayOfYear := (153 * marchMonth date.month + 2) / 5 + date.day - 1
  365 * year + year / 4 - year / 100 + year / 400 + dayOfYear - 719468

/-- The year of a four-hundred-year cycle that holds the cycle's day `n`. -/
def yearOfCycle (n : Nat) : Nat :=
  (n - n / 1460 + n / 36524 - n / 146096) / 365

def ofDays (days : Int) : Date :=
  let shifted := days + 719468
  let cycle := shifted / 146097
  let dayOfCycle := (shifted % 146097).toNat
  let year := yearOfCycle dayOfCycle
  let dayOfYear := dayOfCycle - (365 * year + year / 4 - year / 100)
  let month := (5 * dayOfYear + 2) / 153
  let day := dayOfYear - (153 * month + 2) / 5 + 1
  let civilMonth := if month < 10 then month + 3 else month - 9
  ⟨cycle * 400 + year + (if civilMonth ≤ 2 then 1 else 0), civilMonth, day⟩

/-- The day of the week, from zero for Monday. -/
def weekday (days : Int) : Nat :=
  ((days + 3) % 7).toNat

/-- The Monday of the first week that has most of its days in `year`. -/
def firstWeek (year : Int) : Int :=
  let newYear := toDays ⟨year, 1, 1⟩
  let monday := newYear - weekday newYear
  if 3 < weekday newYear then monday + 7 else monday

/-- Whether the year's weeks number fifty-three. -/
def hasLongYear (year : Int) : Bool :=
  let first := weekday (toDays ⟨year, 1, 1⟩)
  first == 3 || (first == 2 && isLeap year)

/-- The day number of a week date; weeks and days count from one. -/
def ofWeek (year : Int) (week day : Nat) : Option Int :=
  if yearInRange year && (1 ≤ week && (week ≤ 52 || (week == 53 && hasLongYear year))) &&
      (1 ≤ day && day ≤ 7) then
    some (firstWeek year + 7 * ((week : Int) - 1) + (day - 1))
  else none

def leastDay : Int := toDays ⟨1, 1, 1⟩

def greatestDay : Int := toDays ⟨9999, 12, 31⟩

/-- The first day of the following month. -/
def nextMonth (date : Date) : Date :=
  if date.month = 12 then ⟨date.year + 1, 1, 1⟩ else ⟨date.year, date.month + 1, 1⟩

end Date

end CalendarSeries
