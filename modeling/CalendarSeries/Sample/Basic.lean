import CalendarSeries.Instant
import CalendarSeries.Value.Conversion
/-!
Samples: a timestamp with a value. A merged sample holds the values of several series until a
reduction leaves one. Sequences of samples may hold marks of failure between them, and carry
metadata.
-/
namespace CalendarSeries

/-- What a merged sample holds. -/
inductive Entry where
  | pending (values : List Value)
  | reduced (value : Value)

namespace Entry

def value : Entry → Value
  | pending values => .list values
  | reduced value => value

def isReduced : Entry → Bool
  | pending _ => false
  | reduced _ => true

end Entry

/-- An element of a sequence of samples. -/
inductive Element where
  | sample (stamp : Int) (value : Value)
  | merged (stamp : Int) (entry : Entry)
  | failure (error : Error)

instance : Inhabited Element := ⟨.sample 0 .none⟩

namespace Element

def isFailure : Element → Bool
  | failure _ => true
  | _ => false

/-- The timestamp and value of a sample. -/
def reading? : Element → Option (Int × Value)
  | sample stamp value => some (stamp, value)
  | merged stamp entry => some (stamp, entry.value)
  | failure _ => none

def failure? : Element → Option Error
  | failure error => some error
  | _ => none

def literal : Element → String
  | sample stamp value =>
    "Sample(ts_msec=" ++ Value.intText stamp ++ ", value=" ++ value.literal ++ ")"
  | merged stamp entry =>
    "CalculatedSample(ts_msec=" ++ Value.intText stamp ++ ", value=" ++ entry.value.literal ++ ")"
  | failure error => error.literal

/-- A sample as a map of its parts. -/
def toMap (stamp : Int) (value : Value) : Value :=
  .map [(.text "timestamp", .int stamp), (.text "value", value)]

/-- A row of a reply as a sample: a whole number and a decimal. -/
def ofRow (row : Value) : Except Error Element :=
  let parts := do
    let (stamp, value) ← row.pair
    let stamp ← stamp.toInteger
    .ok (sample stamp (.decimal (← value.toDecimal)))
  match parts with
  | .ok element => .ok element
  | .error error => .error (if error.isTypeOrValue then .malformedRow row else error)

end Element

/-- A sequence of samples with its metadata. -/
structure Samples where
  elements : List Element
  metadata : List (Value × Value)

namespace Samples

def readings (samples : Samples) : List (Int × Value) :=
  samples.elements.filterMap Element.reading?

def failures (samples : Samples) : List Error :=
  samples.elements.filterMap Element.failure?

def hasFailures (samples : Samples) : Bool :=
  samples.elements.any Element.isFailure

def literal (samples : Samples) : String :=
  "Samples([" ++ Value.commas (samples.elements.map Element.literal) ++ "])"

/-- The instant of a sample in universal time. -/
def momentOf (stamp : Int) : Except Error Value :=
  (Instant.ofMilliseconds stamp).map fun instant => .moment instant .universal

/-- The timestamps, as they are or as points in time, each with its value. -/
def toPairs (raw : Bool) (samples : Samples) : Except Error (List (Value × Value)) :=
  samples.readings.mapM fun (stamp, value) =>
    if raw then .ok (.int stamp, value)
    else (momentOf stamp).map fun moment => (moment, value)

/-- The pairs as a map: a repeated timestamp keeps its first place and its last value. -/
def toMap (raw : Bool) (samples : Samples) : Except Error Value :=
  (toPairs raw samples).map fun pairs => .map (Value.distinct pairs)

end Samples

end CalendarSeries
