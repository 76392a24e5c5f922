import CalendarSeries.Text.Digit
/-!
Aggregations: a statistic with the length of the buckets that it is taken over, which is a fixed
number of milliseconds or a unit of the calendar. `ofWord?_word` and `word_of_ofWord?` say that a
statistic is found by its own word only.
-/
namespace CalendarSeries

/-- Bucket lengths that depend on the calendar. -/
inductive CalendarUnit where
  | month
  | day
  deriving DecidableEq, Repr

namespace CalendarUnit

def word : CalendarUnit → String
  | month => "month"
  | day => "day"

def ofWord? (text : String) : Option CalendarUnit :=
  [month, day].find? (·.word == text)

end CalendarUnit

inductive Statistic where
  | average
  | count
  | first
  | last
  | maximum
  | minimum
  | range
  | populationDeviation
  | sampleDeviation
  | sum
  | populationVariance
  | sampleVariance
  | timeWeighted
  deriving DecidableEq, Repr

namespace Statistic

def word : Statistic → String
  | average => "avg"
  | count => "count"
  | first => "first"
  | last => "last"
  | maximum => "max"
  | minimum => "min"
  | range => "range"
  | populationDeviation => "std.p"
  | sampleDeviation => "std.s"
  | sum => "sum"
  | populationVariance => "var.p"
  | sampleVariance => "var.s"
  | timeWeighted => "twa"

def all : List Statistic :=
  [average, count, first, last, maximum, minimum, range, populationDeviation, sampleDeviation,
   sum, populationVariance, sampleVariance, timeWeighted]

def ofWord? (text : String) : Option Statistic :=
  all.find? (·.word == text)

theorem ofWord?_word (statistic : Statistic) : ofWord? statistic.word = some statistic := by
  cases statistic <;> rfl

theorem word_of_ofWord? {text : String} {statistic : Statistic}
    (found : ofWord? text = some statistic) : statistic.word = text := by
  simpa using List.find?_some found

end Statistic

inductive BucketLength where
  | fixed (milliseconds : Int)
  | calendar (unit : CalendarUnit)
  deriving DecidableEq, Repr

def BucketLength.render : BucketLength → String
  | fixed milliseconds => String.ofList (Text.ofInt milliseconds)
  | calendar unit => unit.word

structure Aggregation where
  statistic : Statistic
  length : BucketLength
  deriving DecidableEq, Repr

namespace Aggregation

def unit? (aggregation : Aggregation) : Option CalendarUnit :=
  match aggregation.length with
  | .fixed _ => none
  | .calendar unit => some unit

def isCalendar (aggregation : Aggregation) : Bool :=
  aggregation.unit?.isSome

/-- The clause of a command, in words. -/
def render (aggregation : Aggregation) : String :=
  "AGGREGATION " ++ aggregation.statistic.word ++ " " ++ aggregation.length.render

end Aggregation

end CalendarSeries
