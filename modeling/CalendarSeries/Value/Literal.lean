import CalendarSeries.Binary64.Text
import CalendarSeries.Calendar.Iso
import CalendarSeries.Decimal.Text
import CalendarSeries.Number.Whole
import CalendarSeries.Value.FailureKind
import CalendarSeries.Zone.Clock
/-!
Values in words. `literal` writes a value so that its kind can be seen, with quotes around texts;
`render` writes it for a reader, texts as they are.
-/
namespace CalendarSeries.Value

open CalendarSeries.Text

def commas (parts : List String) : String :=
  ", ".intercalate parts

def intText (n : Int) : String :=
  String.ofList (Text.ofInt n)

def boolText (truth : Bool) : String :=
  if truth then "True" else "False"

/-- The days, seconds and microseconds of a span; only the days can be negative. -/
def spanParts (span : Micros) : Int × Int × Int :=
  (span / Micros.perDay, span % Micros.perDay / Micros.perSecond, span % Micros.perSecond)

def spanLiteral (span : Micros) : String :=
  let (days, seconds, micros) := spanParts span
  let parts := [("days", days), ("seconds", seconds), ("microseconds", micros)].filter (·.2 != 0)
  let shown := parts.map fun (name, n) => name ++ "=" ++ intText n
  "datetime.timedelta(" ++ (if shown.isEmpty then "0" else commas shown) ++ ")"

/-- Days if there are any, then hours without a leading zero, minutes and seconds. -/
def spanText (span : Micros) : String :=
  let (days, seconds, micros) := spanParts span
  let seconds := seconds.toNat
  let dayText :=
    if days = 0 then ""
    else intText days ++ (if days.natAbs = 1 then " day, " else " days, ")
  let clock := Nat.toDigits 10 (seconds / 3600) ++ ':' :: padded 2 (seconds / 60 % 60) ++
    ':' :: padded 2 (seconds % 60)
  let fraction := if micros = 0 then [] else '.' :: padded 6 micros.toNat
  dayText ++ String.ofList (clock ++ fraction)

def dateNumbers (date : Date) : List Int :=
  [date.year, date.month, date.day]

def dateLiteral (date : Date) : String :=
  "datetime.date(" ++ commas ((dateNumbers date).map intText) ++ ")"

/-- Hours and minutes, and as many further parts of a time as are needed. -/
def timeNumbers (time : TimeOfDay) : List Int :=
  [(time.hour : Int), time.minute] ++
    if time.micro ≠ 0 then [(time.second : Int), time.micro]
    else if time.second ≠ 0 then [(time.second : Int)] else []

def placeLiteral : Place → String
  | .unknown => ""
  | .universal => ", tzinfo=datetime.timezone.utc"
  | .offset micros => ", tzinfo=datetime.timezone(" ++ spanLiteral micros ++ ")"
  | .zone zone => ", tzinfo=zoneinfo.ZoneInfo(key=" ++ quoted zone.name ++ ")"

def momentLiteral (wall : Micros) (place : Place) : String :=
  let numbers := dateNumbers (Wall.date wall) ++ timeNumbers (Wall.timeOfDay wall)
  "datetime.datetime(" ++ commas (numbers.map intText) ++ placeLiteral place ++ ")"

/-- The offset of a reading at a place, unless that is unknown. -/
def placeOffset? (wall : Micros) : Place → Option Micros
  | .unknown => Option.none
  | .universal => some 0
  | .offset micros => some micros
  | .zone zone => some (zone.offsetOfReading wall)

/-- Date and time with a separating character, and the offset if it is known. -/
def momentText (separator : Char) (wall : Micros) (place : Place) : String :=
  String.ofList (Iso.dateText (Wall.date wall) ++
    separator :: Iso.clockText false (Wall.timeOfDay wall) ++
    ((placeOffset? wall place).map Iso.offsetText).getD [])

def rangeLiteral (start stop step : Int) : String :=
  "range(" ++ commas ((if step = 1 then [start, stop] else [start, stop, step]).map intText) ++ ")"

def timeRangeLiteral (range : TimeRange) : String :=
  "TimeRange(start=" ++ intText range.start ++ ", end=" ++ intText range.stop ++ ")"

def aggregationLiteral (aggregation : Aggregation) : String :=
  let length := match aggregation.length with
    | .fixed milliseconds => intText milliseconds
    | .calendar member => quoted member.word
  "Aggregation(" ++ quoted aggregation.statistic.word ++ ", " ++ length ++ ")"

def unitName : CalendarUnit → String
  | .month => "CalendarUnit.MONTH"
  | .day => "CalendarUnit.DAY"

def mergePolicyName : MergePolicy → String
  | .keepAll => "MergePolicy.KEEP_ALL"
  | .keepEqual => "MergePolicy.KEEP_EQUAL"
  | .keepFirst => "MergePolicy.KEEP_FIRST"

def memberLiteral (name word : String) : String :=
  "<" ++ name ++ ": " ++ quoted word ++ ">"

/-- What says that a row is malformed, given the row's literal. -/
def malformedText (row : String) : String :=
  "Malformed reply row: " ++ row

def failureLiteral (kind : FailureKind) (text : String) : String :=
  kind.name ++ "(" ++ quoted text ++ ")"

def tupleText (parts : List String) : String :=
  match parts with
  | [part] => "(" ++ part ++ ",)"
  | parts => "(" ++ commas parts ++ ")"

mutual

def literal : Value → String
  | none => "None"
  | bool truth => boolText truth
  | int n => intText n
  | text content => quoted content
  | bytes content => quotedBytes (content.map UInt8.toNat)
  | double x => x.render
  | decimal x => "Decimal('" ++ x.render ++ "')"
  | list items => "[" ++ commas (literals items) ++ "]"
  | tuple items => tupleText (literals items)
  | map entries => "\x7b" ++ commas (entryLiterals entries) ++ "\x7d"
  | moment wall place => momentLiteral wall place
  | date day => dateLiteral day
  | span micros => spanLiteral micros
  | range start stop step => rangeLiteral start stop step
  | timeRange bounds => timeRangeLiteral bounds
  | aggregation content => aggregationLiteral content
  | unit member => memberLiteral (unitName member) member.word
  | mergePolicy member => memberLiteral (mergePolicyName member) member.word
  | filters content => " ".intercalate (content.map LabelFilter.render)
  | policy member => "DuplicatePolicy(" ++ quoted member.word ++ ")"
  | series key => "TimeSeries(" ++ quoted key ++ ")"
  | failure kind content => failureLiteral kind content
  | malformed row => failureLiteral .malformedReply (malformedText (literal row))

def literals : List Value → List String
  | [] => []
  | value :: values => literal value :: literals values

def entryLiterals : List (Value × Value) → List String
  | [] => []
  | (key, value) :: entries => (literal key ++ ": " ++ literal value) :: entryLiterals entries

end

/-- A value as text. -/
def render : Value → String
  | text content => content
  | decimal x => x.render
  | moment wall place => momentText ' ' wall place
  | date day => String.ofList (Iso.dateText day)
  | span micros => spanText micros
  | aggregation content => content.render
  | unit member => unitName member
  | mergePolicy member => mergePolicyName member
  | policy member => member.render
  | failure kind content => kind.shown content
  | malformed row => malformedText (literal row)
  | other => literal other

/-- Whether a whole number has no more digits than are written. -/
def isWritableInt (n : Int) : Bool :=
  Number.digitCount n.natAbs ≤ Whole.digitLimit

mutual

/-- Whether a value can be put in words, which takes that all whole numbers in it can. -/
def isWritable : Value → Bool
  | int n => isWritableInt n
  | list items => areWritable items
  | tuple items => areWritable items
  | map entries => areWritableEntries entries
  | range start stop step => isWritableInt start && isWritableInt stop && isWritableInt step
  | timeRange bounds => isWritableInt bounds.start && isWritableInt bounds.stop
  | aggregation ⟨_, .fixed milliseconds⟩ => isWritableInt milliseconds
  | malformed row => isWritable row
  | _ => true

def areWritable : List Value → Bool
  | [] => true
  | value :: values => isWritable value && areWritable values

def areWritableEntries : List (Value × Value) → Bool
  | [] => true
  | (key, value) :: entries => isWritable key && isWritable value && areWritableEntries entries

end

end CalendarSeries.Value
