import CalendarSeries.Query.Execution
/-!
Building a request step by step. Points in time are kept as they were given and read again whenever
the zone changes; the request is replaced, never changed. A step that fails with a filter's error
leaves what is remembered as it was.
-/
namespace CalendarSeries

/-- Points in time as they were given. -/
structure Given where
  start : Value
  stop : Value
  timestamps : Option (List Value) := none
  ranges : Option (List Value) := none
  align : Option Value := none

structure Builder where
  given : Given
  request : RangeRequest

namespace Builder

/-- The zone in which points in time are read. -/
def zone (context : Context) (builder : Builder) : String :=
  RangeRequest.zoneOr context.zone builder.request.timezone

/-- Values without those that were there before, in the order of their first appearance. -/
def distinct (stamps : List Int) : List Int :=
  (stamps.foldl (fun kept stamp => if stamp ∈ kept then kept else stamp :: kept) []).reverse

def readTimestamps (assumed : Instant.Assumed) (given : List Value) : Except Error (List Int) :=
  match given.mapM (Instant.ofValue assumed) with
  | .ok stamps => .ok (distinct stamps)
  | .error error =>
    .error (if error.isTypeOrValue then .invalidTimestamp error.message else error)

/-- An alignment: a reading of a clock becomes milliseconds, all else stays as it is. -/
def readAlign (assumed : Instant.Assumed) (given : Value) : Except Error Value :=
  match given with
  | .moment .. => (Instant.ofValue assumed given).map .int
  | _ => .ok given

/-- What is remembered, read by `read`; `unset` if there is nothing. -/
def readIf (given : Option α) (unset : β) (read : α → Except Error β) : Except Error β :=
  match given with
  | some given => read given
  | none => .ok unset

/-- The request with every point in time read in the zone now in force. -/
def resolved (context : Context) (builder : Builder) : Except Error RangeRequest := do
  let assumed := Instant.Assumed.named (builder.zone context)
  let given := builder.given
  let request := builder.request
  let start ← Bound.ofValue assumed .oldest given.start
  let stop ← Bound.ofValue assumed .newest given.stop
  let timestamps ← readIf given.timestamps request.timestamps fun stamps =>
    (readTimestamps assumed stamps).map some
  let ranges ← readIf given.ranges request.ranges fun ranges =>
    (ranges.mapM (TimeRange.ofValue assumed)).map some
  let align ← readIf given.align request.align (readAlign assumed)
  .ok { request with start, stop, timestamps, ranges, align }

/-- Reads everything again; an error leaves the builder as it is. -/
def resolve (context : Context) (builder : Builder) : Builder × Option Error :=
  match builder.resolved context with
  | .ok request => ({ builder with request }, none)
  | .error error => (builder, some error)

/-- A new builder for a key and the bounds of a range. -/
def start (context : Context) (key first last : Value) (timezone : Option String) :
    Except Error Builder :=
  let builder : Builder := ⟨⟨first, last, none, none, none⟩, { key, timezone }⟩
  (builder.resolved context).map fun request => { builder with request }

/-- Remembers what is given, and forgets it if it makes a filter's error. -/
def remember (context : Context) (builder : Builder) (given : Given) : Builder × Option Error :=
  match resolve context { builder with given } with
  | (changed, none) => (changed, none)
  | (changed, some error) =>
    if error.kind = .filter then ({ changed with given := builder.given }, some error)
    else (changed, some error)

/-- One step of building. -/
inductive Step where
  | aggregation (aggregation duration : Value)
  | timestamps (stamps : Value)
  | ranges (ranges : Value)
  | values (least greatest : Value)
  | count (count : Value)
  | align (align : Value)
  | empty (includeEmpty : Bool)
  | latest (latest : Bool)
  | reverse
  | zone (timezone : Option String)

/-- An aggregation, or a statistic with its duration. -/
def readAggregation (aggregation duration : Value) : Except Error (Option Aggregation) :=
  match duration with
  | .none => Aggregation.ofValue aggregation
  | _ => Aggregation.ofValue (.tuple [aggregation, duration])

def readCount (count : Value) : Except Error Value := do
  if ← count.isBelow 1 then .error (.countNotPositive count.render) else .ok count

/-- A builder with another request, or the error that there is none. -/
def replace (builder : Builder) (request : Except Error RangeRequest) : Builder × Option Error :=
  match request with
  | .ok request => ({ builder with request }, none)
  | .error error => (builder, some error)

/-- A builder that remembers a sequence of given values. -/
def rememberItems (context : Context) (builder : Builder) (items : Value)
    (given : List Value → Given) : Builder × Option Error :=
  match items.iterate with
  | .ok items => builder.remember context (given items)
  | .error error => (builder, some error)

/-- Takes a step: the builder after it, and the error if it fails. -/
def step (context : Context) (builder : Builder) (step : Step) : Builder × Option Error :=
  let request := builder.request
  let given := builder.given
  match step with
  | .aggregation aggregation duration =>
    builder.replace ((readAggregation aggregation duration).map fun aggregation =>
      { request with aggregation })
  | .timestamps stamps =>
    builder.rememberItems context stamps fun items => { given with timestamps := some items }
  | .ranges ranges =>
    builder.rememberItems context ranges fun items => { given with ranges := some items }
  | .values least greatest =>
    ({ builder with request := { request with values := some (least, greatest) } }, none)
  | .count count =>
    builder.replace ((readCount count).map fun count => { request with count := some count })
  | .align align => builder.remember context { given with align := some align }
  | .empty includeEmpty => ({ builder with request := { request with includeEmpty } }, none)
  | .latest latest => ({ builder with request := { request with latest } }, none)
  | .reverse => ({ builder with request := { request with reverse := true } }, none)
  | .zone timezone =>
    resolve context { builder with request := { request with timezone } }

/-- Takes steps in turn, up to the first that fails. -/
def steps (context : Context) (builder : Builder) : List Step → Except Error Builder
  | [] => .ok builder
  | first :: rest =>
    match builder.step context first with
    | (builder, none) => steps context builder rest
    | (_, some error) => .error error

/-- Plans the request and runs the plan. -/
def execute (context : Context) (builder : Builder) : Run Samples := do
  let plan ← QueryPlan.prepare context builder.request
  plan.execute context

end Builder

end CalendarSeries
