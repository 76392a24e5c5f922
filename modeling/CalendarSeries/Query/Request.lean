import CalendarSeries.Aggregation.Reading
import CalendarSeries.Instant
/-!
Range requests: one logical query of a series, with everything that its commands are made of.
-/
namespace CalendarSeries

/-- A bound of a query: open at the oldest or the newest sample, or at an instant. -/
inductive Bound where
  | oldest
  | newest
  | instant (milliseconds : Int)
  | other (value : Value)

namespace Bound

/-- A bound as it is given. -/
def ofGiven (value : Value) : Bound :=
  match value with
  | .text "-" => oldest
  | .text "+" => newest
  | .int n => instant n
  | _ => other value

def value : Bound → Value
  | oldest => .text "-"
  | newest => .text "+"
  | instant n => .int n
  | other value => value

/-- The instant of a bound that has one. -/
def instant? : Bound → Option Int
  | instant n => some n
  | other value => value.integer?
  | _ => none

/-- A bound from an argument: open by default or by its mark, else a point in time. -/
def ofValue (assumed : Instant.Assumed) (default : Bound) (value : Value) : Except Error Bound :=
  match value with
  | .none => .ok default
  | .text "-" => .ok oldest
  | .text "+" => .ok newest
  | _ => (Instant.ofValue assumed value).map instant

/-- Whether an instant lies between two bounds; an open bound lets every instant pass. -/
def within (start stop : Bound) (moment : Int) : Bool :=
  (start.instant?.all (· ≤ moment)) && stop.instant?.all (moment ≤ ·)

end Bound

structure RangeRequest where
  key : Value
  start : Bound := .oldest
  stop : Bound := .newest
  aggregation : Option Aggregation := none
  /-- The timestamps to which the result is restricted. -/
  timestamps : Option (List Int) := none
  /-- The sub-ranges to which the result is restricted. -/
  ranges : Option (List TimeRange) := none
  /-- The least and the greatest value of the samples that count. -/
  values : Option (Value × Value) := none
  /-- The most results of one command. -/
  count : Option Value := none
  /-- Where fixed buckets are aligned. -/
  align : Value := .text "start"
  includeEmpty : Bool := true
  reverse : Bool := false
  /-- Whether a last, incomplete bucket is reported. -/
  latest : Bool := false
  timezone : Option String := none

namespace RangeRequest

def command (request : RangeRequest) : String :=
  if request.reverse then "TS.REVRANGE" else "TS.RANGE"

/-- The calendar unit of the request's aggregation. -/
def unit? (request : RangeRequest) : Option CalendarUnit :=
  request.aggregation.bind Aggregation.unit?

def isCalendar (request : RangeRequest) : Bool :=
  request.unit?.isSome

/-- A zone by its name, where an empty one stands for the default. -/
def zoneOr (default : String) (timezone : Option String) : String :=
  match timezone with
  | none => default
  | some "" => default
  | some name => name

def timestampArguments (request : RangeRequest) : List Value :=
  match request.timestamps with
  | some (first :: rest) => .text "FILTER_BY_TS" :: .int first :: rest.map .int
  | _ => []

def valueArguments (request : RangeRequest) : List Value :=
  match request.values with
  | some (least, greatest) => [.text "FILTER_BY_VALUE", least, greatest]
  | none => []

def countArguments (request : RangeRequest) : List Value :=
  match request.count with
  | some count => [.text "COUNT", count]
  | none => []

/-- The clause of the aggregation, after the alignment that only it needs. -/
def aggregationArguments (request : RangeRequest) : Except Error (List Value) :=
  match request.aggregation with
  | none => .ok []
  | some aggregation =>
    aggregation.clause.map fun clause =>
      .text "ALIGN" :: request.align :: clause ++
        if request.includeEmpty then [.text "EMPTY"] else []

/-- What follows the command's name. -/
def arguments (request : RangeRequest) : Except Error (List Value) :=
  request.aggregationArguments.map fun aggregation =>
    [request.key, request.start.value, request.stop.value] ++
      (if request.latest then [.text "LATEST"] else []) ++
      request.timestampArguments ++ request.valueArguments ++ request.countArguments ++
      aggregation

end RangeRequest

end CalendarSeries
