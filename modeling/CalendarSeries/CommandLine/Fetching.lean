import CalendarSeries.Bucket.Calendar
import CalendarSeries.CommandLine.Invocation
import CalendarSeries.Query.Builder
import CalendarSeries.Sample.Merge
/-!
Fetching what a command asks for. A day or a month stands for its bounds in the zone of the command
and goes before other bounds. Keys are fetched one after the other; if any has failures, nothing is
combined, for that would reduce over the wrong series.
-/
namespace CalendarSeries.CommandLine

/-- What fetching comes to. -/
inductive Fetched where
  | samples (samples : Samples)
  /-- The keys that have failures, with them. -/
  | failures (failed : List (String × List Error))
  /-- A statistic without a bucket, or a bucket without a statistic. -/
  | halfAggregation

/-- An option's text, unless it is empty. -/
def given? (option : Option String) : Option String :=
  option.filter (· != "")

namespace Selection

/-- The zone in force; it has to be known. -/
def zoneIn (context : Context) (selection : Selection) : Except Error String :=
  let zone := RangeRequest.zoneOr context.zone selection.zone
  match Bucket.timetable zone with
  | .ok _ => .ok zone
  | .error _ => .error (.settings (.optionZone zone))

/-- A bound of a range; a text of digits is a number of milliseconds. -/
def readBound (option : Option String) : Except Error Value :=
  match option with
  | none => .ok .none
  | some text =>
    if text != "" && text.toList.all Text.isDigit then (Value.text text).toInteger.map .int
    else .ok (.text text)

def readDate (pattern text : String) (read : List Char → Except Pattern.Fault Date) :
    Except Error Date :=
  (read text.toList).mapError (.unreadableDate text pattern)

def boundsOf (bucket : Bucket) : Value × Value :=
  (.int bucket.start, .int bucket.stop)

def bounds (zone : String) (selection : Selection) : Except Error (Value × Value) :=
  match given? selection.day, given? selection.month with
  | some day, _ => do
    let date ← readDate "%Y-%m-%d" day Pattern.day
    (Bucket.dayBounds zone date).map boundsOf
  | none, some month => do
    let date ← readDate "%Y-%m" month Pattern.month
    (Bucket.monthBounds zone date).map boundsOf
  | none, none => do
    let start ← readBound selection.start
    let stop ← readBound selection.stop
    .ok (start, stop)

/-- Fetches a key between two bounds, after the given steps of building. -/
def fetch (context : Context) (selection : Selection) (bounds : Value × Value) (key : String)
    (steps : List Builder.Step) : Run Samples := do
  let builder ← Run.ofExcept
    (Builder.start context (.text key) bounds.1 bounds.2 selection.zone)
  let builder ← Run.ofExcept (builder.steps context steps)
  builder.execute context

/-- The step for the aggregation, if there is one; nothing if only half of it is given. -/
def aggregationSteps? (selection : Selection) : Option (List Builder.Step) :=
  match given? selection.statistic, given? selection.bucket with
  | none, none => some []
  | some statistic, some bucket => some [.aggregation (.text statistic) (.text bucket)]
  | _, _ => none

def fetchRange (context : Context) (selection : Selection) (bounds : Value × Value)
    (key : String) (reverse : Bool) (count : Option Int) : Run Fetched :=
  match selection.aggregationSteps? with
  | some aggregation =>
    .samples <$> selection.fetch context bounds key
      (.empty selection.includeEmpty :: aggregation ++
        (count.map fun n => .count (.int n)).toList ++ if reverse then [.reverse] else [])
  | none => do
    let _ ← Run.ofExcept (Builder.start context (.text key) bounds.1 bounds.2 selection.zone)
    pure .halfAggregation

/-- The keys whose samples have failures, each once, with those of its last samples. -/
def failedKeys (fetched : List (String × Samples)) : List (String × List Error) :=
  let failed := fetched.filter (·.2.hasFailures)
  (failed.map (·.1)).eraseDups.map fun key =>
    (key, ((failed.reverse.lookup key).map (·.failures)).getD [])

def finishOutcome (outcome : Outcome) : Except Error Samples :=
  match outcome.error with
  | some error => .error error
  | none => .ok outcome.samples

/-- Merges sets of samples, reduces them and rounds what comes out. -/
def combined (policy : MergePolicy) (reduction : Reduction) (places : Option Int)
    (sets : List Samples) : Except Error Samples := do
  let reduced ← finishOutcome ((Samples.merge policy sets).reduce reduction)
  match places with
  | none => .ok reduced
  | some places => finishOutcome (reduced.transform (← Transform.rounding places))

def fetchCombined (context : Context) (selection : Selection) (bounds : Value × Value)
    (keys : List String) (policy : MergePolicy) (reduction : Reduction) (places : Option Int) :
    Run Fetched := do
  let steps := [.aggregation (.text (selection.statistic.getD ""))
    (.text (selection.bucket.getD "")), .empty selection.includeEmpty]
  let fetched ← keys.mapM fun key => do
    pure (key, ← selection.fetch context bounds key steps)
  match failedKeys fetched with
  | [] => do
    let sets := fetched.map (·.2)
    Link.noteAll (Samples.mergeNotes sets)
    .samples <$> Run.ofExcept (combined policy reduction places sets)
  | failed => pure (.failures failed)

end Selection

namespace Invocation

/-- Fetches what a command asks for, and tells the zone in which it is shown. -/
def fetch (context : Context) (invocation : Invocation) : Run (String × Fetched) := do
  let selection := invocation.selection
  let zone ← Run.ofExcept (selection.zoneIn context)
  let bounds ← Run.ofExcept (selection.bounds zone)
  let fetched ← match invocation.command with
    | .range key reverse count => selection.fetchRange context bounds key reverse count
    | .combine keys policy reduction places =>
      selection.fetchCombined context bounds keys policy reduction places
  pure (zone, fetched)

end Invocation

end CalendarSeries.CommandLine
