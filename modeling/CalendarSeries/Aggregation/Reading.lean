import CalendarSeries.Aggregation.Basic
import CalendarSeries.Value.Conversion
/-!
Aggregations from arguments: a statistic's name in any case, and a duration as milliseconds, as a
span of time, or as a calendar unit. Aggregations are compared with anything that can be read as
one.
-/
namespace CalendarSeries.Aggregation

open CalendarSeries.Text

/-- A complaint about a value that is shown in it. -/
def refused (value : Value) (complaint : Error) : Error :=
  if value.isWritable then complaint else .unwritableInteger

/-- The statistic that a value names in words. -/
def statisticOf (value : Value) : Except Error Statistic :=
  let name := lower value.render
  if !value.isWritable then .error .unwritableInteger
  else match Statistic.ofWord? name with
  | some statistic => .ok statistic
  | none => .error (.unknownStatistic name)

/-- The whole milliseconds of a span, counted by way of its seconds as a floating number. -/
def millisecondsOfSpan (span : Micros) : Int :=
  match (Binary64.ofQuotient span 1000000).timesNat 1000 with
  | .finite negative significand exponent => Binary64.truncate negative significand exponent
  | _ => 0

def positive (milliseconds : Int) : Except Error BucketLength :=
  if 0 < milliseconds then .ok (.fixed milliseconds)
  else .error (refused (.int milliseconds) (.durationNotPositive milliseconds))

/-- A duration in words: a unit in any case, or digits. -/
def lengthOfText (value : Value) (content : String) : Except Error BucketLength :=
  match CalendarUnit.ofWord? (lower content) with
  | some unit => .ok (.calendar unit)
  | none =>
    if content.toList.all isDigit && content != "" then do
      positive (← Value.integerOf (.text content) (Whole.read content.toList))
    else .error (.unreadableDuration value)

def lengthOf (value : Value) : Except Error BucketLength :=
  match value with
  | .unit unit => .ok (.calendar unit)
  | .span micros => positive (millisecondsOfSpan micros)
  | .int n => positive n
  | _ =>
    match value.text? with
    | some content => lengthOfText value content
    | none => .error (refused value (.unreadableDuration value))

/-- The aggregation of a statistic and a duration. -/
def make (statistic length : Value) : Except Error Aggregation := do
  .ok ⟨← statisticOf statistic, ← lengthOf length⟩

/-- An argument that may be left out: an aggregation, or a pair that makes one. -/
def ofValue (value : Value) : Except Error (Option Aggregation) :=
  match value with
  | .none => .ok none
  | .aggregation aggregation => .ok (some aggregation)
  | _ =>
    match value.items? with
    | some [statistic, length] => (make statistic length).map some
    | _ => .error (refused value (.notAnAggregation value))

/-- The same statistic over fixed buckets. -/
def withFixed (aggregation : Aggregation) (milliseconds : Int) : Aggregation :=
  ⟨aggregation.statistic, .fixed milliseconds⟩

/-- The same statistic with another duration. -/
def withLength (aggregation : Aggregation) (length : Value) : Except Error Aggregation :=
  make (.text aggregation.statistic.word) length

/-- The clause of a command; a calendar unit has none. -/
def clause (aggregation : Aggregation) : Except Error (List Value) :=
  match aggregation.length with
  | .fixed milliseconds =>
    .ok [.text "AGGREGATION", .text aggregation.statistic.word, .int milliseconds]
  | .calendar unit => .error (.unresolvedUnit unit)

/-- Whether a value reads as this aggregation; one that is none is different. -/
def equals (aggregation : Aggregation) (value : Value) : Except Error Bool :=
  match ofValue value with
  | .ok other => .ok (other == some aggregation)
  | .error error => if error.kind = .aggregation then .ok false else .error error

end CalendarSeries.Aggregation
