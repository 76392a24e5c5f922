import CalendarSeries.Bucket.Basic
import CalendarSeries.Instant
import CalendarSeries.Journal
/-!
Buckets along a zone's calendar. A range is cut by a step that leads from the start of a bucket to
its boundary: the start of the next local month, or the same reading of the wall clock a day later.
A day on which the clocks change is therefore shorter or longer than 24 hours. The last bucket is
clamped to the end of the range.
-/
namespace CalendarSeries.Bucket

def timetable (name : String) : Except Error Timetable :=
  (Zone.timetable name).mapError .unknownZone

/-- What would leave the writable years is an error. -/
def inRange (result : Option Micros) : Except Error Micros :=
  match result with
  | some value => .ok value
  | none => .error (.outOfRange .date)

/-- The reading of a zone's wall clock at a number of milliseconds after the epoch. -/
def wallAt (table : Timetable) (start : Int) : Except Error Micros := do
  inRange (table.reading (← Instant.ofMilliseconds start))

/-- Midnight at the start of a date whose year can be written. -/
def midnight (date : Date) : Except Error Micros :=
  if Date.yearInRange date.year then .ok (Wall.midnight date)
  else .error (.yearOutOfRange date.year)

/-- The instant of the first midnight of the month after a reading. -/
def nextMonthStart (table : Timetable) (wall : Micros) : Except Error Micros := do
  inRange (table.normalize (← midnight (Wall.date wall).nextMonth))

/-- From the start of a bucket to the start of the next local month. -/
def monthStep (table : Timetable) (start : Int) : Except Error Int := do
  let wall ← wallAt table start
  (nextMonthStart table wall).map Instant.milliseconds

/-- From the start of a bucket to the same reading one day later. -/
def dayStep (table : Timetable) (start : Int) : Except Error Int := do
  let wall ← wallAt table start
  let next ← Instant.checked (wall + Micros.perDay)
  (inRange (table.normalize next)).map Instant.milliseconds

/-- Cuts up to `stop`, with a bound on the number of buckets. -/
def cutWithin (step : Int → Except Error Int) (stop : Int) : Nat → Int → Except Error (List Bucket)
  | 0, _ => .ok []
  | count + 1, start =>
    match step start with
    | .error error => .error error
    | .ok boundary =>
      if stop ≤ boundary then .ok [⟨start, stop⟩]
      else (cutWithin step stop count boundary).map (⟨start, boundary⟩ :: ·)

/-- Cuts the range from `start` to `stop` at the boundaries that `step` leads to. -/
def cut (step : Int → Except Error Int) (start stop : Int) : Except Error (List Bucket) :=
  cutWithin step stop ((stop - start).toNat + 1) start

/-- The starts that are reached, each with the boundary of its step, with a bound on their
number. -/
def stepsWithin (step : Int → Except Error Int) (stop : Int) : Nat → Int → List (Int × Int)
  | 0, _ => []
  | count + 1, start =>
    match step start with
    | .error _ => []
    | .ok boundary =>
      (start, boundary) :: if stop ≤ boundary then [] else stepsWithin step stop count boundary

def steps (step : Int → Except Error Int) (start stop : Int) : List (Int × Int) :=
  stepsWithin step stop ((stop - start).toNat + 1) start

/-- The step of a unit. Days also need the zone under exactly its name. -/
def unitStep (unit : CalendarUnit) (name : String) (table : Timetable) (start : Int) :
    Except Error Int :=
  match unit with
  | .month => monthStep table start
  | .day => do
    let boundary ← dayStep table start
    let _ ← Instant.exactZone name
    .ok boundary

def checkRange (start stop : Int) : Except Error Unit :=
  if stop < start then .error (.reversedRange (Value.intText start) (Value.intText stop))
  else .ok ()

/-- The buckets of a calendar unit in the zone of this name. -/
def calendar (unit : CalendarUnit) (name : String) (start stop : Int) :
    Except Error (List Bucket) := do
  checkRange start stop
  let table ← timetable name
  cut (unitStep unit name table) start stop

/-- The unit of a value: a unit itself or its name. -/
def unitOf (value : Value) : Except Error CalendarUnit :=
  match value.text?.bind CalendarUnit.ofWord? with
  | some unit => .ok unit
  | none => .error (.unknownUnit value)

/-- What is noted of a day on which daylight saving changes. -/
def savingNote (name : String) (wall : Micros) (start boundary : Int) : Note :=
  let hours := Binary64.general 6 (Binary64.ofQuotient (boundary - start) 3600000)
  ⟨.debug, .planner, "DST transition on " ++ String.ofList (Iso.dateText (Wall.date wall)) ++
    " in " ++ name ++ ": bucket lasts " ++ hours ++ "h"⟩

/-- The notes of cutting a range into days. -/
def dayNotes (name : String) (start stop : Int) : List Note :=
  match Zone.timetable name, Zone.find name with
  | .ok table, .ok zone =>
    (steps (unitStep .day name table) start stop).flatMap fun (first, boundary) =>
      match wallAt table first with
      | .ok wall =>
        if Instant.changesSaving zone (Wall.day wall) then [savingNote name wall first boundary]
        else []
      | .error _ => []
  | _, _ => []

/-- The notes of cutting a range. -/
def notes (unit : CalendarUnit) (name : String) (start stop : Int) : List Note :=
  match unit with
  | .month => []
  | .day => if stop < start then [] else dayNotes name start stop

/-- The instant of a reading as milliseconds. -/
def localized (table : Timetable) (wall : Micros) : Except Error Int :=
  (inRange (table.localize wall)).map Instant.milliseconds

/-- The bounds of the local day with a date, along a timetable. -/
def dayBoundsIn (table : Timetable) (date : Date) : Except Error Bucket := do
  let start ← localized table (Wall.midnight date)
  let next ← Instant.checked (Wall.midnight date + Micros.perDay)
  let stop ← localized table next
  .ok ⟨start, stop⟩

/-- The bounds of the local day with a date. -/
def dayBounds (name : String) (date : Date) : Except Error Bucket := do
  dayBoundsIn (← timetable name) date

/-- The bounds of the local month that holds a date, along a timetable. -/
def monthBoundsIn (table : Timetable) (date : Date) : Except Error Bucket := do
  let wall := Wall.midnight { date with day := 1 }
  let start ← localized table wall
  let stop ← nextMonthStart table wall
  .ok ⟨start, Instant.milliseconds stop⟩

/-- The bounds of the local month that holds a date. -/
def monthBounds (name : String) (date : Date) : Except Error Bucket := do
  monthBoundsIn (← timetable name) date

end CalendarSeries.Bucket
