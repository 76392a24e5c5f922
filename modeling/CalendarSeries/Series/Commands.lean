import CalendarSeries.DuplicatePolicy.Reading
import CalendarSeries.LabelFilter.Reading
import CalendarSeries.Query.Builder
import CalendarSeries.Series.Info
/-!
The commands of one series: creating and deleting it, adding to it, reading from it, and compacting
it into others. Each checks its arguments, sends one command and reads the reply.
-/
namespace CalendarSeries

/-- The series with a key, reached in a context. -/
structure Series where
  key : String
  context : Context
  deriving DecidableEq, Repr

namespace Series

def literal (series : Series) : String :=
  (Value.series series.key).literal

def call (series : Series) (name : String) (arguments : List Value) : Run Value :=
  Link.call series.context name arguments

/-- The options of a new series. -/
structure Creation where
  retention : Value := .none
  uncompressed : Bool := false
  chunkSize : Value := .none
  policy : Value := .none
  labels : Value := .none

/-- A duration in milliseconds, from a span of time or a number. -/
def duration (value : Value) : Except Error Int :=
  match value with
  | .span micros => .ok (Aggregation.millisecondsOfSpan micros)
  | _ => value.toInteger

/-- The words of an option unless it is left out. -/
def option (name : String) (value : Value) : List Value :=
  match value with
  | .none => []
  | _ => [.text name, value]

def retentionArguments (value : Value) : Except Error (List Value) :=
  match value with
  | .none => .ok []
  | _ => (duration value).map fun milliseconds => [.text "RETENTION", .int milliseconds]

/-- The words of a duplicate policy under the name of an option. -/
def policyArguments (name : String) (value : Value) : Except Error (List Value) :=
  match value with
  | .none => .ok []
  | _ => (DuplicatePolicy.ofValue value).map fun policy => [.text name, .text policy.word]

def labelArguments (value : Value) : Except Error (List Value) :=
  match value with
  | .map entries =>
    .ok (if entries.isEmpty then []
      else .text "LABELS" :: entries.flatMap fun (label, value) => [label, value])
  | _ => if value.isTrue then .error (.missingMethod "labels are a map") else .ok []

def uncompressedArguments (uncompressed : Bool) : List Value :=
  if uncompressed then [.text "UNCOMPRESSED"] else []

def creationArguments (key : String) (creation : Creation) : Except Error (List Value) := do
  let retention ← retentionArguments creation.retention
  let policy ← policyArguments DuplicatePolicy.creationOption creation.policy
  let labels ← labelArguments creation.labels
  .ok (.text key :: retention ++ uncompressedArguments creation.uncompressed ++
    option "CHUNK_SIZE" creation.chunkSize ++ policy ++ labels)

/-- Creates a series. -/
def create (series : Series) (creation : Creation) : Run Unit := do
  let arguments ← Run.ofExcept (creationArguments series.key creation)
  let _ ← series.call "TS.CREATE" arguments
  Link.note ⟨.info, .client, "Created series " ++ series.key⟩

/-- Deletes a series; whether there was one. -/
def delete (series : Series) : Run Bool := do
  return (← series.call "DEL" [.text series.key]).isTrue

/-- The keys of the series whose labels match. -/
def queryIndex (context : Context) (filters : Value) : Run (List String) := do
  let filters ← Run.ofExcept (LabelFilter.given filters)
  let filters ← Run.ofExcept (LabelFilter.validate filters)
  let words := filters.map fun filter => Value.text filter.render
  let keys ← Link.call context "TS.QUERYINDEX" words
  if keys.isTrue then
    Run.ofExcept do (← keys.iterate).mapM Value.toText
  else pure []

/-- A timestamp: the server's mark and whole numbers as they are, else a point in time. -/
def timestamp (value : Value) : Except Error Value :=
  match value with
  | .text "*" => .ok value
  | .bool _ => .ok value
  | _ => (Instant.ofValue .universal value).map .int

/-- A sample that was added, from the timestamp in a reply. -/
def addedSample (reply value : Value) : Except Error Element := do
  let stamp ← reply.toInteger
  .ok (.sample stamp (.decimal (← value.toDecimal)))

/-- Adds one sample. -/
def add (series : Series) (value stamp : Value) (uncompressed : Bool) (policy : Value) :
    Run Element := do
  let stamp ← Run.ofExcept (timestamp stamp)
  let policy ← Run.ofExcept (policyArguments DuplicatePolicy.additionOption policy)
  let reply ← series.call "TS.ADD"
    ([.text series.key, stamp, value] ++ uncompressedArguments uncompressed ++ policy)
  Run.ofExcept (addedSample reply value)

/-- Several samples at once: one at the server's time, some at given times, or some one
millisecond apart from now on. -/
inductive Batch where
  | single (value : Value)
  | pairs (pairs : List Value)
  | values (values : List Value)
  | other

/-- The timestamps and values of a batch that is added at `now`. -/
def Batch.read (now : Int) : Batch → Except Error (List (Value × Value))
  | .single value => .ok [(.text "*", value)]
  | .pairs given =>
    given.mapM fun pair => do
      let (stamp, value) ← pair.pair
      .ok (← timestamp stamp, value)
  | .values given =>
    .ok (given.zipIdx.map fun (value, offset) => (.int (now + offset), value))
  | .other => .error (.wrongType "Unsupported madd input")

/-- What a reply to one of several samples says. -/
def batchElement (reply value : Value) : Except Error Element :=
  match Error.ofValue? reply with
  | some error => .ok (.failure error)
  | none => addedSample reply value

/-- Adds several samples with one command. -/
def addBatch (series : Series) (now : Int) (batch : Batch) : Run (List Element) := do
  let pairs ← Run.ofExcept (batch.read now)
  let arguments := pairs.flatMap fun (stamp, value) => [.text series.key, stamp, value]
  let replies ← series.call "TS.MADD" arguments
  Run.ofExcept do
    ((← replies.iterate).zip pairs).mapM fun (reply, _, value) => batchElement reply value

/-- Counts up or down. -/
def count (series : Series) (name : String) (value stamp : Value) (uncompressed : Bool) :
    Run Value := do
  let stamp ← match stamp with
    | .none => pure []
    | _ => Run.ofExcept ((timestamp stamp).map fun stamp => [.text "TIMESTAMP", stamp])
  series.call name ([.text series.key, value] ++ stamp ++ uncompressedArguments uncompressed)

def increment (series : Series) (value stamp : Value) (uncompressed : Bool) : Run Value :=
  series.count "TS.INCRBY" value stamp uncompressed

def decrement (series : Series) (value stamp : Value) (uncompressed : Bool) : Run Value :=
  series.count "TS.DECRBY" value stamp uncompressed

/-- The latest sample, if there is one. -/
def get (series : Series) : Run (Option Element) := do
  let reply ← series.call "TS.GET" [.text series.key]
  if reply.isTrue then Run.ofExcept ((Element.ofRow reply).map some) else pure none

def info (series : Series) : Run Info := do
  let reply ← series.call "TS.INFO" [.text series.key]
  Run.ofExcept (Info.ofReply series.key reply)

/-- The options of a range query. -/
structure RangeOptions where
  start : Value := .none
  stop : Value := .none
  aggregation : Value := .none
  count : Value := .none
  timestamps : Value := .none
  ranges : Value := .none
  values : Value := .none
  align : Value := .none
  empty : Value := .none
  latest : Bool := false
  timezone : Option String := none
  reverse : Bool := false

/-- A step for an option that is given. -/
def given (value : Value) (step : Value → Builder.Step) : List Builder.Step :=
  match value with
  | .none => []
  | _ => [step value]

/-- The two bounds of a filter by value. -/
def valueBounds (value : Value) : Except Error Builder.Step := do
  match ← value.iterate with
  | [least, greatest] => .ok (.values least greatest)
  | _ => .error (.wrongType "a filter by value has two bounds")

/-- The steps before the filter by value, and those from it on. -/
def RangeOptions.steps (options : RangeOptions) : List Builder.Step × List Builder.Step :=
  (given options.aggregation (.aggregation · .none) ++ given options.count .count ++
      given options.timestamps .timestamps ++ given options.ranges .ranges,
    given options.align .align ++ given options.empty (.empty ·.isTrue) ++
      (if options.latest then [.latest true] else []) ++
      (if options.reverse then [.reverse] else []))

/-- The request of a range query. -/
def rangeBuilder (series : Series) (options : RangeOptions) : Except Error Builder := do
  let context := series.context
  let (before, after) := options.steps
  let builder ← Builder.start context (.text series.key) options.start options.stop
    options.timezone
  let builder ← builder.steps context before
  let values ← match options.values with
    | .none => .ok []
    | values => (valueBounds values).map ([·])
  builder.steps context (values ++ after)

/-- The samples of a range. -/
def range (series : Series) (options : RangeOptions) : Run Samples := do
  (← Run.ofExcept (series.rangeBuilder options)).execute series.context

/-- The key of a series, or a key itself. -/
def keyOf (value : Value) : String :=
  match value with
  | .series key => key
  | _ => value.render

/-- Compacts this series into another. -/
def createRule (series : Series) (destination aggregation : Value) : Run Value := do
  let aggregation ← Run.ofExcept do
    match ← Aggregation.ofValue aggregation with
    | some aggregation => .ok aggregation
    | none => .error .noRuleAggregation
  let clause ← Run.ofExcept aggregation.clause
  series.call "TS.CREATERULE" ([.text series.key, .text (keyOf destination)] ++ clause)

def deleteRule (series : Series) (destination : Value) : Run Value :=
  series.call "TS.DELETERULE" [.text series.key, .text (keyOf destination)]

/-- Whether a value is this series, by its key; nothing if it is no series. -/
def isSame? (series : Series) (value : Value) : Option Bool :=
  match value with
  | .series key => some (key == series.key)
  | _ => none

end Series

end CalendarSeries
