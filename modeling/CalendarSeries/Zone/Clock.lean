import CalendarSeries.Zone.Basic
/-!
What the clocks of a zone show, to the second and for all years: the regime at an instant, and
the regime behind a reading of the clock on the wall. A reading that the clocks skipped, and one
that they showed twice, both count as made before the change.
-/
namespace CalendarSeries

/-- The saving time of a rule that lies ahead of standard time by `lead`. -/
def Footer.lead (standard daylight : Regime) : Int :=
  daylight.offset - standard.offset

namespace Footer

/-- The regime at an instant after the last listed change. -/
def atInstant (instant : Int) : Footer → Regime
  | .fixed regime => regime
  | .yearly standard daylight start stop =>
    let year := (Date.ofDays (instant / 86400)).year
    if isWithin (start.inYear year - standard.offset) (stop.inYear year - daylight.offset) instant
    then daylight else standard

/-- The regime behind a reading after the last listed change. A change takes effect on the wall
once neither of its two offsets can lead to an earlier reading. -/
def atReading (reading : Int) : Footer → Regime
  | .fixed regime => regime
  | .yearly standard daylight start stop =>
    let year := (Date.ofDays (reading / 86400)).year
    let ahead := max 0 (lead standard daylight)
    let behind := max 0 (-(lead standard daylight))
    if isWithin (start.inYear year + ahead) (stop.inYear year + behind) reading
    then daylight else standard

end Footer

namespace Zone

/-- Each change by the first reading of the wall clock at which it is in effect. -/
def wallChanges (before : Regime) : List (Int × Regime) → List (Int × Regime)
  | [] => []
  | (instant, next) :: changes =>
    (instant + max before.offset next.offset, next) :: wallChanges next changes

/-- The regime in force at a moment that is later than the last change, or by the list. -/
def select (first : Regime) (changes : List (Int × Regime)) (moment : Int)
    (after : Regime) : Regime :=
  match lastInstant changes with
  | none => after
  | some last => if last < moment then after else lastUpTo first moment changes

/-- The regime at an instant, in seconds. -/
def regimeAt (zone : Zone) (instant : Int) : Regime :=
  select zone.first zone.changes instant (zone.footer.atInstant instant)

/-- The regime behind a reading of the wall clock, in seconds. -/
def regimeOfReading (zone : Zone) (reading : Int) : Regime :=
  select zone.first (wallChanges zone.first zone.changes) reading (zone.footer.atReading reading)

/-- The offset at an instant. -/
def offsetAt (zone : Zone) (instant : Micros) : Micros :=
  (zone.regimeAt (instant / Micros.perSecond)).offset * Micros.perSecond

/-- The offset behind a reading of the wall clock. -/
def offsetOfReading (zone : Zone) (wall : Micros) : Micros :=
  (zone.regimeOfReading (wall / Micros.perSecond)).offset * Micros.perSecond

/-- The daylight saving behind a reading of the wall clock, in seconds. -/
def savingOfReading (zone : Zone) (wall : Micros) : Int :=
  (zone.regimeOfReading (wall / Micros.perSecond)).saving

/-- The reading of the wall clock at an instant. -/
def reading (zone : Zone) (instant : Micros) : Micros :=
  instant + zone.offsetAt instant

/-- The instant of a reading of the wall clock. -/
def instant (zone : Zone) (wall : Micros) : Micros :=
  wall - zone.offsetOfReading wall

end Zone

end CalendarSeries
