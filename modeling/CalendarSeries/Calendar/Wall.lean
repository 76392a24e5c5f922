import CalendarSeries.Calendar.Date
/-!
Readings of a clock on the wall: a date with a time of day, held as microseconds since midnight of
1 January 1970 on the same clock face. A reading says nothing about where the clock hangs.
-/
namespace CalendarSeries

/-- A number of microseconds: a span of time, an instant since the epoch, or a clock reading. -/
abbrev Micros := Int

namespace Micros

def perSecond : Int := 1000000

def perMinute : Int := 60 * perSecond

def perHour : Int := 60 * perMinute

def perDay : Int := 24 * perHour

end Micros

structure TimeOfDay where
  hour : Nat
  minute : Nat
  second : Nat
  micro : Nat
  deriving DecidableEq, Repr

def TimeOfDay.midnight : TimeOfDay := ⟨0, 0, 0, 0⟩

def TimeOfDay.isValid (time : TimeOfDay) : Bool :=
  time.hour < 24 && time.minute < 60 && time.second < 60 && time.micro < 1000000

def TimeOfDay.micros (time : TimeOfDay) : Micros :=
  time.hour * Micros.perHour + time.minute * Micros.perMinute + time.second * Micros.perSecond +
    time.micro

namespace Wall

def of (days : Int) (time : TimeOfDay) : Micros :=
  days * Micros.perDay + time.micros

/-- Midnight at the start of a date. -/
def midnight (date : Date) : Micros :=
  date.toDays * Micros.perDay

def day (wall : Micros) : Int :=
  wall / Micros.perDay

def date (wall : Micros) : Date :=
  Date.ofDays (day wall)

def timeOfDay (wall : Micros) : TimeOfDay :=
  let rest := (wall % Micros.perDay).toNat
  ⟨rest / 3600000000, rest / 60000000 % 60, rest / 1000000 % 60, rest % 1000000⟩

def least : Micros := Date.leastDay * Micros.perDay

def greatest : Micros := (Date.greatestDay + 1) * Micros.perDay - 1

/-- Whether a reading lies in the years that can be written with four digits. -/
def inRange (wall : Micros) : Bool :=
  least ≤ wall && wall ≤ greatest

end Wall

end CalendarSeries
