import CalendarSeries.Aggregation.Basic
import CalendarSeries.Binary64.Basic
import CalendarSeries.Decimal.Basic
import CalendarSeries.DuplicatePolicy
import CalendarSeries.LabelFilter.Basic
import CalendarSeries.MergePolicy
import CalendarSeries.Zone.Basic
/-!
The values that arguments and replies are made of: numbers of several kinds, texts, points and
spans of time, sequences and maps, the options of a query, and reports of failure. A reply may
hold any of them anywhere, so one type has them all.
-/
namespace CalendarSeries

/-- An inclusive span of time in milliseconds since the epoch. -/
structure TimeRange where
  start : Int
  stop : Int
  deriving DecidableEq, Repr

/-- Where a clock hangs: nowhere known, at universal time, at a fixed offset, or in a zone. -/
inductive Place where
  | unknown
  | universal
  | offset (micros : Micros)
  | zone (zone : Zone)
  deriving DecidableEq, Repr

/-- The kinds of failure that are told apart. -/
inductive FailureKind where
  | series
  | aggregation
  | filter
  | unknownPolicy
  | calculation
  | malformedReply
  | pipelineMismatch
  | configuration
  | value
  | type
  | missingAttribute
  | overflow
  | index
  | os
  | fileNotFound
  | isDirectory
  | unicodeDecode
  | recursion
  | runtime
  | key
  | unknownTimeZone
  | zoneNotFound
  | response
  | connection
  | timeout
  | data
  | authentication
  | remote
  | invalidOperation
  | divisionByZero
  | divisionUndefined
  | decimalOverflow
  | other (name : String)
  deriving DecidableEq, Repr

inductive Value where
  | none
  | bool (truth : Bool)
  | int (n : Int)
  | text (content : String)
  | bytes (bytes : List UInt8)
  | double (x : Binary64)
  | decimal (x : Decimal)
  | list (items : List Value)
  | tuple (items : List Value)
  | map (entries : List (Value × Value))
  | moment (wall : Micros) (place : Place)
  | date (date : Date)
  | span (micros : Micros)
  | range (start stop step : Int)
  | timeRange (range : TimeRange)
  | aggregation (aggregation : Aggregation)
  | unit (unit : CalendarUnit)
  | mergePolicy (policy : MergePolicy)
  | filters (filters : List LabelFilter)
  | policy (policy : DuplicatePolicy)
  | series (key : String)
  /-- A report of failure, with the text it was made with. -/
  | failure (kind : FailureKind) (text : String)
  /-- A report that a row of a reply is malformed. -/
  | malformed (row : Value)

instance : Inhabited Value := ⟨.none⟩

namespace Value

/-- A whole number; the truth values count as one and zero. -/
def integer? : Value → Option Int
  | int n => some n
  | bool truth => some (if truth then 1 else 0)
  | _ => Option.none

/-- A text; the named options are texts too. -/
def text? : Value → Option String
  | text content => some content
  | unit member => some member.word
  | mergePolicy member => some member.word
  | _ => Option.none

/-- The items of a list or tuple. -/
def items? : Value → Option (List Value)
  | list items => some items
  | tuple items => some items
  | _ => Option.none

def isFailure : Value → Bool
  | failure .. => true
  | malformed _ => true
  | _ => false

/-- Whether a value that is not a number. -/
def isNaN : Value → Bool
  | decimal x => x.isNaN
  | double x => x.isNaN
  | _ => false

end Value

namespace Range

/-- How many numbers from `start` on, `step` apart, lie before `stop`. -/
def count (start stop step : Int) : Nat :=
  if 0 < step then ((stop - start + step - 1) / step).toNat
  else if step < 0 then ((start - stop - step - 1) / (-step)).toNat
  else 0

def toList (start stop step : Int) : List Int :=
  (List.range (count start stop step)).map fun (k : Nat) => start + step * k

end Range

end CalendarSeries
