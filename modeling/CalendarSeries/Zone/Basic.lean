import CalendarSeries.Calendar.Wall
/-!
Time zones: the offsets that a region's clocks have had, the instants at which they changed, and
the yearly rule for the time after the last listed change. Instants are counted in seconds since
the epoch, offsets in seconds east of universal time.
-/
namespace CalendarSeries

/-- What clocks show for a while: their offset, and how much of it is daylight saving. -/
structure Regime where
  offset : Int
  saving : Int
  deriving DecidableEq, Repr

/-- A moment of the year: the `week`-th `weekday` of a month, from zero for Sunday, the fifth
being the last one, and the second of that day on the clock in force. -/
structure YearlyMoment where
  month : Nat
  week : Nat
  weekday : Nat
  second : Int
  deriving DecidableEq, Repr

/-- What holds after the last listed change. -/
inductive Footer where
  | fixed (regime : Regime)
  | yearly (standard daylight : Regime) (start stop : YearlyMoment)
  deriving DecidableEq, Repr

structure Zone where
  name : String
  /-- In force before the first change. -/
  first : Regime
  /-- Instants in ascending order, each with the regime that begins there. -/
  changes : List (Int × Regime)
  footer : Footer
  deriving DecidableEq, Repr

namespace Zone

/-- A zone given by a table of regimes and the index of the regime that begins at each change. -/
def ofTable (name : String) (regimes : List Regime) (changes : List (Int × Nat))
    (footer : Footer) : Zone :=
  let first := regimes.headD ⟨0, 0⟩
  ⟨name, first, changes.map fun (instant, index) => (instant, regimes.getD index first), footer⟩

/-- The regime of the last change up to `instant`, and `regime` if there is none. -/
def lastUpTo (regime : Regime) (instant : Int) : List (Int × Regime) → Regime
  | [] => regime
  | (change, next) :: changes =>
    if change ≤ instant then lastUpTo next instant changes else regime

/-- The instant of the last change, if the list has one. -/
def lastInstant (changes : List (Int × Regime)) : Option Int :=
  changes.getLast?.map (·.1)

end Zone

/-- The second at which the moment falls in a year, on the clock that the rule is written in. -/
def YearlyMoment.inYear (moment : YearlyMoment) (year : Int) : Int :=
  let first := Date.toDays ⟨year, moment.month, 1⟩
  let lead := (moment.weekday + 13 - Date.weekday first) % 7
  let day := lead + 7 * (moment.week - 1)
  let day := if Date.daysInMonth year moment.month ≤ day then day - 7 else day
  (first + day) * 86400 + moment.second

/-- Whether `second` lies between the start and the stop of a period that may run over the new
year. -/
def Footer.isWithin (start stop second : Int) : Bool :=
  if start < stop then start ≤ second && second < stop else !(stop ≤ second && second < start)

end CalendarSeries
