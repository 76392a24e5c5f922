import CalendarSeries.Zone.Clock
/-!
The timetable of a zone: its offsets in whole minutes, with every change in one finite list that
begins and ends with the range of a signed count of 32 bits. `localize` finds the instant of a
reading of the wall clock by trying the offsets in force a day before and a day after it. What
would leave the years one to 9999 on the way gives nothing.
-/
namespace CalendarSeries

structure Timetable where
  first : Regime
  changes : List (Int × Regime)
  deriving DecidableEq, Repr

namespace Timetable

/-- The first instant of a timetable. -/
def opening : Int := -2147483648

/-- The first instant after a timetable. -/
def closing : Int := 2147483648

/-- The last year in which the yearly rule is listed. -/
def lastYear : Int := 2037

/-- An offset to the nearest minute, half a minute going up. -/
def wholeMinutes (regime : Regime) : Regime :=
  { regime with offset := (regime.offset + 30) / 60 * 60 }

/-- The two changes of a rule in one year, in order. -/
def changesInYear (standard daylight : Regime) (start stop : YearlyMoment) (year : Int) :
    List (Int × Regime) :=
  let onset := (start.inYear year - standard.offset, daylight)
  let finish := (stop.inYear year - daylight.offset, standard)
  if onset.1 < finish.1 then [onset, finish] else [finish, onset]

/-- The changes of the yearly rule after the last listed change `last`. -/
def ruleChanges (last : Int) : Footer → List (Int × Regime)
  | .fixed _ => []
  | .yearly standard daylight start stop =>
    let year := (Date.ofDays (last / 86400)).year
    let years := (List.range (lastYear - year + 1).toNat).map fun (k : Nat) => year + (k : Int)
    (years.flatMap (changesInYear standard daylight start stop)).filter (last < ·.1)

/-- Changes before the opening are left out, and what is in force then starts there. -/
def fromOpening (first : Regime) (changes : List (Int × Regime)) : List (Int × Regime) :=
  let early := changes.filter (·.1 < opening)
  let later := changes.filter (opening ≤ ·.1)
  match early.getLast? with
  | some (_, regime) => (opening, regime) :: later
  | none => if later.isEmpty then [] else (opening, first) :: later

/-- The timetable of a zone. -/
def ofZone (zone : Zone) : Timetable :=
  let listed := zone.changes ++
    match Zone.lastInstant zone.changes with
    | some last => ruleChanges last zone.footer
    | none => []
  let kept := (fromOpening zone.first listed).filter (·.1 < closing)
  ⟨wholeMinutes zone.first, kept.map fun (instant, regime) => (instant, wholeMinutes regime)⟩

/-- Whether the clocks never changed. -/
def isFixed (table : Timetable) : Bool :=
  table.changes.isEmpty

def regimeAt (table : Timetable) (instant : Micros) : Regime :=
  Zone.lastUpTo table.first (instant / Micros.perSecond) table.changes

def offsetAt (table : Timetable) (instant : Micros) : Micros :=
  (table.regimeAt instant).offset * Micros.perSecond

/-- A reading or an instant within the years that can be written. -/
def checked (value : Micros) : Option Micros :=
  if Wall.inRange value then some value else none

/-- The reading of the wall clock at an instant. -/
def reading (table : Timetable) (instant : Micros) : Option Micros :=
  checked (instant + table.offsetAt instant)

/-- The instant that `wall` denotes under the offset in force at the instant `probe`, if the
clocks do show `wall` then. -/
def tryOffset (table : Timetable) (wall probe : Micros) : Option (Option Micros) := do
  let probe ← checked probe
  let instant ← checked (wall - table.offsetAt probe)
  let shown ← table.reading instant
  some (if shown = wall then some instant else none)

/-- Of two instants with the same reading: the only one without daylight saving, else the
later. -/
def preferred (table : Timetable) (a b : Micros) : Micros :=
  let isStandard := fun instant => (table.regimeAt instant).saving == 0
  if isStandard a && !isStandard b then a
  else if isStandard b && !isStandard a then b
  else max a b

/-- How far a reading that the clocks skipped is wound back to find an offset for it. -/
def windBack : Micros := 6 * Micros.perHour

/-- The offset of a reading; one that the clocks skipped has that of `windBack` earlier. -/
def localOffset (table : Timetable) : Nat → Micros → Option Micros
  | 0, _ => none
  | steps + 1, wall => do
    let earlier ← table.tryOffset wall (wall - Micros.perDay)
    let later ← table.tryOffset wall (wall + Micros.perDay)
    match earlier, later with
    | some a, some b => some (wall - (if a = b then a else table.preferred a b))
    | some a, none => some (wall - a)
    | none, some b => some (wall - b)
    | none, none => table.localOffset steps (wall - windBack)

/-- As often as a reading can be wound back before the first year ends it. -/
def windings (wall : Micros) : Nat :=
  ((wall - Wall.least) / windBack).toNat + 1

/-- The instant of a reading of the wall clock. -/
def localize (table : Timetable) (wall : Micros) : Option Micros :=
  if table.isFixed then some (wall - table.first.offset * Micros.perSecond)
  else (table.localOffset (windings wall) wall).map (wall - ·)

/-- The instant of a reading, where both it and what the clocks show then can be written. -/
def normalize (table : Timetable) (wall : Micros) : Option Micros := do
  let instant ← table.localize wall
  if table.isFixed then some instant
  else
    let instant ← checked instant
    let _ ← table.reading instant
    some instant

end Timetable

end CalendarSeries
