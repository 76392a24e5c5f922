import CalendarSeries.Aggregation.Reading
/-!
What a server says about a series: its sizes and times, its labels, and the rules that compact it
into other series. Names come in camel case and are read in snake case; unknown ones are passed
over.
-/
namespace CalendarSeries

open CalendarSeries.Text

/-- A rule that compacts one series into another. -/
structure Rule where
  source : String
  destination : Value
  aggregation : Aggregation

namespace Rule

/-- The items of a sequence that can be cut, which a map cannot. -/
def itemsInOrder (value : Value) : Except Error (List Value) :=
  match value with
  | .map _ => .error (.wrongType "a map cannot be cut")
  | _ => value.iterate

/-- A rule from a destination, a duration and a statistic. -/
def ofValue (source : String) (value : Value) : Except Error Rule := do
  let parts ← ((← itemsInOrder value).take 3).mapM Value.decoded
  match parts with
  | [destination, duration, statistic] =>
    let duration ← duration.toInteger
    .ok ⟨source, destination, ← Aggregation.make statistic (.int duration)⟩
  | _ => .error (.tooFew 3 parts.length)

end Rule

/-- The properties of a series that are known. -/
inductive Property where
  | totalSamples
  | memoryUsage
  | firstTimestamp
  | lastTimestamp
  | retentionTime
  | chunkCount
  | chunkSize
  | chunkType
  | duplicatePolicy
  | labels
  | sourceKey
  | rules
  deriving DecidableEq, Repr

namespace Property

def name : Property → String
  | totalSamples => "total_samples"
  | memoryUsage => "memory_usage"
  | firstTimestamp => "first_timestamp"
  | lastTimestamp => "last_timestamp"
  | retentionTime => "retention_time"
  | chunkCount => "chunk_count"
  | chunkSize => "chunk_size"
  | chunkType => "chunk_type"
  | duplicatePolicy => "duplicate_policy"
  | labels => "labels"
  | sourceKey => "source_key"
  | rules => "rules"

/-- The properties that hold one value. -/
def simple : List Property :=
  [totalSamples, memoryUsage, firstTimestamp, lastTimestamp, retentionTime, chunkCount, chunkSize,
   chunkType, duplicatePolicy, sourceKey]

def all : List Property :=
  labels :: rules :: simple

def isCapital (c : Char) : Bool :=
  'A' ≤ c && c ≤ 'Z'

/-- A name with an underscore before each capital that follows a character not yet used up. -/
def splitCapitals : List Char → List Char
  | a :: b :: cs =>
    if a ≠ '\n' ∧ isCapital b then a :: '_' :: b :: splitCapitals cs
    else a :: splitCapitals (b :: cs)
  | cs => cs

/-- The property of a name in camel case. -/
def ofName? (name : String) : Option Property :=
  let snake := lower (String.ofList (splitCapitals name.toList))
  all.find? (·.name == snake)

end Property

structure Info where
  /-- The properties that were told, the latest first. -/
  properties : List (Property × Value)
  labels : List (Value × Value)
  rules : List Rule

namespace Info

def get (info : Info) (property : Property) : Value :=
  (info.properties.lookup property).getD .none

/-- The key of the series that this one is compacted from. -/
def source? (info : Info) : Option Value :=
  let key := info.get .sourceKey
  if key.isTrue then some key else none

/-- One property of a reply; the name has to be a text. -/
def readProperty (name value : Value) : Except Error (Option (Property × Value)) := do
  match ← name.decoded with
  | .text name =>
    match Property.ofName? name with
    | some property => do .ok (some (property, ← value.decoded))
    | none => .ok none
  | _ => .error (.wrongType "a name is a text")

/-- Names and values in turn; a name without a value is left out. -/
def readProperties : List Value → Except Error (List (Property × Value))
  | name :: value :: rest => do
    let property ← readProperty name value
    let properties ← readProperties rest
    .ok (properties ++ property.toList)
  | _ => .ok []

/-- A label's value: digits after minus signs are read as a number. -/
def labelValue (value : Value) : Except Error Value :=
  match value with
  | .text content =>
    let digits := content.toList.dropWhile (· == '-')
    if digits.all isDigit && !digits.isEmpty then value.toInteger.map .int else .ok value
  | _ => .ok value

/-- Whether a value can be a key of a map. -/
def isKey : Value → Bool
  | .list _ => false
  | .map _ => false
  | _ => true

def readLabel (value : Value) : Except Error (Value × Value) := do
  let (label, value) ← value.pair
  let label ← label.decoded
  let value ← labelValue (← value.decoded)
  if isKey label then .ok (label, value) else .error (.wrongType "a list is no key")

/-- The items of a property that may be missing. -/
def itemsOf (properties : List (Property × Value)) (property : Property) :
    Except Error (List Value) :=
  let value := (properties.lookup property).getD .none
  if value.isTrue then value.iterate else .ok []

/-- What a reply tells about the series with a key. -/
def ofReply (key : String) (reply : Value) : Except Error Info := do
  let properties ← readProperties (← Rule.itemsInOrder reply)
  let labels ← (← itemsOf properties .labels).mapM readLabel
  let rules ← (← itemsOf properties .rules).mapM (Rule.ofValue key)
  .ok ⟨properties, Value.distinct labels, rules⟩

end Info

end CalendarSeries
