import CalendarSeries.Bucket.Calendar
import CalendarSeries.Query.Range
import CalendarSeries.Query.Request
/-!
Plans: the remote commands that answer one request. A calendar request has one command for each
bucket, or one for each sub-range that a bucket holds; timestamps are dealt out in ascending
chunks. Each command asks for a fixed duration that covers its bucket, aligned to the bucket's
start, so that the server makes one bucket of it.
-/
namespace CalendarSeries

/-- One command and the bucket that its rows belong to. -/
structure SubQuery where
  bucket : Nat
  request : RangeRequest

structure QueryPlan where
  request : RangeRequest
  /-- Empty if no calendar unit is asked for; then the whole range counts as one bucket. -/
  buckets : List Bucket
  subqueries : List SubQuery
  /-- Whether the result is reversed in the end. -/
  reverseResult : Bool

/-- The size of a timestamp filter's chunks unless another is set. -/
def defaultChunkSize : Int := 128

namespace QueryPlan

def isCalendar (plan : QueryPlan) : Bool :=
  !plan.buckets.isEmpty

def bucketCount (plan : QueryPlan) : Nat :=
  if plan.buckets.isEmpty then 1 else plan.buckets.length

/-- Items in chunks of a size that has to be positive. -/
def chunks (size : Int) (items : List α) : Except Error (List (List α)) :=
  if 1 ≤ size then .ok (chunksOf size.toNat items)
  else .error (.chunkNotPositive (Value.intText size))

/-- The request of a window, or one for each chunk of the timestamps that lie in it. -/
def withChunks (size : Int) (timestamps : Option (List Int)) (window : RangeRequest) :
    Except Error (List RangeRequest) :=
  match timestamps with
  | none => .ok [window]
  | some timestamps => do
    let inside := (timestamps.filter (Bound.within window.start window.stop)).mergeSort
    (chunks size inside).map fun parts =>
      parts.map fun part => { window with timestamps := some part }

/-- The sub-ranges of a request that lies in no buckets, each as a window. -/
def fixedWindows (request : RangeRequest) : List RangeRequest :=
  let base := { request with timestamps := none, ranges := none }
  match request.ranges with
  | none => [base]
  | some [] => [base]
  | some ranges =>
    let align := match request.start.instant? with
      | some _ => request.start.value
      | none => request.align
    let inside := fun range : TimeRange =>
      Bound.within request.start request.stop range.start &&
        Bound.within request.start request.stop range.stop
    (ranges.filter inside).map fun range =>
      { base with start := .instant range.start, stop := .instant range.stop, align }

/-- The plan of a request without a calendar unit. Several commands go newest first if the
result is to be reversed, so that a limit keeps the newest rows. -/
def fixed (size : Int) (request : RangeRequest) : Except Error QueryPlan := do
  let parts ← (fixedWindows request).mapM (withChunks size request.timestamps)
  let requests := if request.reverse then parts.flatten.reverse else parts.flatten
  .ok ⟨request, [], requests.map (⟨0, ·⟩), false⟩

/-- A bucket's start, in the words of the request if the range starts there. -/
def startOf (request : RangeRequest) (index : Nat) (bucket : Bucket) : Bound :=
  if index = 0 then request.start else .instant bucket.start

/-- The request of a whole bucket. -/
def bucketRequest (request : RangeRequest) (aggregation : Aggregation) (index : Nat)
    (bucket : Bucket) : RangeRequest :=
  let start := startOf request index bucket
  { request with
    start
    stop := if bucket.stop - 1 ≤ bucket.start then start else .instant (bucket.stop - 1)
    aggregation := some (aggregation.withFixed (max bucket.duration 1))
    align := start.value
    includeEmpty := false
    reverse := false
    timestamps := none
    ranges := none }

/-- The windows of a bucket: the sub-ranges that it holds, or all of it if there are none. -/
def bucketWindows (ranges : Option (List TimeRange)) (bucket : Bucket) (window : RangeRequest) :
    List RangeRequest :=
  match ranges with
  | none => [window]
  | some [] => [window]
  | some ranges =>
    (ranges.filter fun range => bucket.contains range.start range.stop).map fun range =>
      { window with start := .instant range.start, stop := .instant range.stop }

/-- The commands of one bucket. -/
def bucketQueries (size : Int) (request : RangeRequest) (aggregation : Aggregation)
    (bucket : Bucket) (index : Nat) : Except Error (List SubQuery) := do
  let windows := bucketWindows request.ranges bucket
    (bucketRequest request aggregation index bucket)
  let parts ← windows.mapM (withChunks size request.timestamps)
  .ok (parts.flatten.map (⟨index, ·⟩))

/-- The range of a calendar request: both bounds have to be instants, in order. -/
def calendarRange (request : RangeRequest) (unit : CalendarUnit) : Except Error (Int × Int) :=
  match request.start.instant?, request.stop.instant? with
  | some start, some stop =>
    if stop < start then
      .error (.reversedRange request.start.value.render request.stop.value.render)
    else .ok (start, stop)
  | _, _ => .error (.openCalendarRange unit)

/-- The plan of a request with a calendar unit. -/
def calendar (size : Int) (zone : String) (request : RangeRequest) (aggregation : Aggregation)
    (unit : CalendarUnit) : Except Error QueryPlan := do
  let (start, stop) ← calendarRange request unit
  let buckets ← Bucket.calendar unit zone start stop
  let parts ← buckets.zipIdx.mapM fun (bucket, index) =>
    bucketQueries size request aggregation bucket index
  .ok ⟨request, buckets, parts.flatten, request.reverse⟩

/-- The calendar aggregation of a request, with its unit. -/
def calendarAggregation? (request : RangeRequest) : Option (Aggregation × CalendarUnit) := do
  let aggregation ← request.aggregation
  some (aggregation, ← aggregation.unit?)

/-- The plan of a request. -/
def make (size : Int) (defaultZone : String) (request : RangeRequest) : Except Error QueryPlan :=
  if request.timestamps.any List.isEmpty then .error .noTimestamps
  else
    match calendarAggregation? request with
    | none => fixed size request
    | some (aggregation, unit) =>
      calendar size (RangeRequest.zoneOr defaultZone request.timezone) request aggregation unit

/-- The bounds of the buckets, the outermost in the words of the request. -/
def bounds (plan : QueryPlan) : List (Value × Value) :=
  plan.buckets.zipIdx.map fun (bucket, index) =>
    ((startOf plan.request index bucket).value,
      if index + 1 = plan.buckets.length then plan.request.stop.value else .int bucket.stop)

/-- What is noted of a calendar plan. -/
def planNote (plan : QueryPlan) (unit : CalendarUnit) (zone : String) : Note :=
  ⟨.debug, .planner, "Planned " ++ Value.intText plan.subqueries.length ++ " calls over " ++
    Value.intText plan.buckets.length ++ " " ++ unit.word ++ " buckets for " ++
    plan.request.key.render ++ " (" ++ zone ++ ")"⟩

/-- The notes of making a plan. -/
def notes (size : Int) (defaultZone : String) (request : RangeRequest) : List Note :=
  match request.timestamps.any List.isEmpty, request.unit? with
  | false, some unit =>
    let zone := RangeRequest.zoneOr defaultZone request.timezone
    match calendarRange request unit with
    | .error _ => []
    | .ok (start, stop) =>
      Bucket.notes unit zone start stop ++
        match make size defaultZone request with
        | .ok plan => [planNote plan unit zone]
        | .error _ => []
  | _, _ => []

end QueryPlan

end CalendarSeries
