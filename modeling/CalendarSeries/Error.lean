import CalendarSeries.Calendar.Pattern
import CalendarSeries.Decimal.Text
import CalendarSeries.Value.Literal
import CalendarSeries.Zone.Lookup
/-!
What can go wrong, each cause with what it is about. `kind` tells the causes' kinds apart, and
`message` is the wording, written in one place.
-/
namespace CalendarSeries

/-- How a point or span of time, or a number, can leave its range. -/
inductive OutOfRange where
  | date
  | spanDays (days : Int)
  | wideSpan
  | infiniteDouble
  | infiniteDecimal
  deriving DecidableEq, Repr

/-- What can be wrong with settings. -/
inductive SettingsFault where
  | emptyAddress
  | unknownZone (name : String)
  | chunkSize (shown : String)
  | unknownLevel (name : String)
  | invalid (reason : String)
  | optionZone (name : String)
  deriving DecidableEq, Repr

/-- What can be wrong with the layout that a template asks for. -/
inductive LayoutFault where
  | unreadable
  | noPrecision
  | unknownCode (code : Char) (kind : String)
  | grouping (mark code : Char)
  | bothGroupings
  | signedText
  | alternateText
  | alignedText
  | preciseInteger
  | signedCharacter
  | alternateCharacter
  | noCharacter
  deriving DecidableEq, Repr

/-- What can be wrong with a template, or with the values that it is filled with. -/
inductive TemplateFault where
  | loneOpening
  | loneClosing
  | unclosed
  | nestedBrace
  | noConversion
  | noColon
  | openLayout
  | unknownConversion (conversion : Char)
  | tooDeep
  | missingName (name : String)
  | missingPosition
  | emptyStep
  | strayStep
  | openItem
  | layout (fault : LayoutFault)
  deriving DecidableEq, Repr

inductive Error where
  | notAnInstant (value : Value)
  | unreadableTime (text : String)
  | unreadableDate (text pattern : String) (fault : Pattern.Fault)
  | unknownZone (cause : Zone.Unknown)
  | outOfRange (cause : OutOfRange)
  | yearOutOfRange (year : Int)
  | reversedRange (start stop : String)
  | unknownUnit (value : Value)
  | unknownMergePolicy (value : Value)
  | signal (signal : Decimal.Signal)
  | notNumeric (value : Value)
  | unreadableInteger (value : Value)
  | longInteger (digits : Nat)
  | unwritableInteger
  | doubleNotInteger
  | decimalNotInteger
  | unreadableDouble (value : Value)
  | wrongType (what : String)
  | missingMethod (what : String)
  | tooFew (expected got : Nat)
  | tooMany (expected : Nat)
  | notUtf8
  | notATimeRange (value : Value)
  | invertedTimeRange (value : Value)
  | invalidTimestamp (reason : String)
  | noTimestamps
  | unreadableFilter (word : String)
  | invalidFilterValue (value : Value)
  | noEquality
  | unknownStatistic (name : String)
  | unreadableDuration (value : Value)
  | durationNotPositive (duration : Int)
  | notAnAggregation (value : Value)
  | unresolvedUnit (unit : CalendarUnit)
  | openCalendarRange (unit : CalendarUnit)
  | noRuleAggregation
  | unknownPolicy (name : String)
  | notMerged (shown : String)
  | zeroDivisor
  | malformedRow (row : Value)
  | replyCount (replies commands : Nat)
  | countNotPositive (shown : String)
  | chunkNotPositive (shown : String)
  | settings (fault : SettingsFault)
  | noSuchFile (name : String)
  | isDirectory (name : String)
  | notADirectory (name : String)
  | fileExists (name : String)
  | embeddedNul
  | invalidVariable
  | illegalName
  | unknownLogLevel (name : String)
  | negativeLogLevel (severity : Int)
  | template (fault : TemplateFault)
  | reported (kind : FailureKind) (text : String)

instance : Inhabited Error := ⟨.zeroDivisor⟩

namespace Error

def signalKind : Decimal.Signal → FailureKind
  | .invalidOperation => .invalidOperation
  | .divisionByZero => .divisionByZero
  | .overflow => .decimalOverflow

def zoneKind : Zone.Unknown → FailureKind
  | .missing _ => .zoneNotFound
  | .noTimetable _ => .unknownTimeZone
  | _ => .value

def layoutKind : LayoutFault → FailureKind
  | .noCharacter => .overflow
  | _ => .value

def templateKind : TemplateFault → FailureKind
  | .missingName _ => .key
  | .missingPosition => .index
  | .layout fault => layoutKind fault
  | _ => .value

def kind : Error → FailureKind
  | notAnInstant _ => .value
  | unreadableTime _ => .value
  | unreadableDate .. => .value
  | unknownZone cause => zoneKind cause
  | outOfRange _ => .overflow
  | yearOutOfRange _ => .value
  | reversedRange .. => .value
  | unknownUnit _ => .value
  | unknownMergePolicy _ => .value
  | signal cause => signalKind cause
  | notNumeric _ => .value
  | unreadableInteger _ => .value
  | longInteger _ => .value
  | unwritableInteger => .value
  | doubleNotInteger => .value
  | decimalNotInteger => .value
  | unreadableDouble _ => .value
  | wrongType _ => .type
  | missingMethod _ => .missingAttribute
  | tooFew .. => .value
  | tooMany _ => .value
  | notUtf8 => .unicodeDecode
  | notATimeRange _ => .filter
  | invertedTimeRange _ => .filter
  | invalidTimestamp _ => .filter
  | noTimestamps => .filter
  | unreadableFilter _ => .filter
  | invalidFilterValue _ => .filter
  | noEquality => .filter
  | unknownStatistic _ => .aggregation
  | unreadableDuration _ => .aggregation
  | durationNotPositive _ => .aggregation
  | notAnAggregation _ => .aggregation
  | unresolvedUnit _ => .aggregation
  | openCalendarRange _ => .aggregation
  | noRuleAggregation => .aggregation
  | unknownPolicy _ => .unknownPolicy
  | notMerged _ => .calculation
  | zeroDivisor => .calculation
  | malformedRow _ => .malformedReply
  | replyCount .. => .pipelineMismatch
  | countNotPositive _ => .value
  | chunkNotPositive _ => .value
  | settings _ => .configuration
  | noSuchFile _ => .fileNotFound
  | isDirectory _ => .isDirectory
  | notADirectory _ => .other "NotADirectoryError"
  | fileExists _ => .other "FileExistsError"
  | embeddedNul => .value
  | invalidVariable => .os
  | illegalName => .value
  | unknownLogLevel _ => .value
  | negativeLogLevel _ => .value
  | template fault => templateKind fault
  | reported kind _ => kind

def signalText (signal : Decimal.Signal) : String :=
  match signal with
  | .invalidOperation => "[<class 'decimal.InvalidOperation'>]"
  | .divisionByZero => "[<class 'decimal.DivisionByZero'>]"
  | .overflow => "[<class 'decimal.Overflow'>]"

def zoneText : Zone.Unknown → String
  | .absolute name => "ZoneInfo keys may not be absolute paths, got: " ++ name
  | .notNormal name => "ZoneInfo keys must be normalized relative paths, got: " ++ name
  | .outside name => "ZoneInfo keys must refer to subdirectories of TZPATH, got: " ++ name
  | .nul => "embedded null byte"
  | .missing name => "No time zone found with key " ++ name
  | .noTimetable name => name

def outOfRangeText : OutOfRange → String
  | .date => "date value out of range"
  | .spanDays days =>
    "days=" ++ Value.intText days ++ "; must have magnitude <= 999999999"
  | .wideSpan => "Python int too large to convert to C int"
  | .infiniteDouble => "cannot convert float infinity to integer"
  | .infiniteDecimal => "cannot convert Infinity to integer"

def yearText (year : Int) : String :=
  "year " ++ Value.intText year ++ " is out of range"

def dateText (text pattern : String) : Pattern.Fault → String
  | .mismatch =>
    "time data " ++ Text.quoted text ++ " does not match format " ++ Text.quoted pattern
  | .leftOver rest => "unconverted data remains: " ++ String.ofList rest
  | .yearOutOfRange year => yearText year
  | .dayOutOfRange => "day is out of range for month"

def logLevels : List String :=
  ["TRACE", "DEBUG", "INFO", "SUCCESS", "WARNING", "ERROR", "CRITICAL"]

def settingsText : SettingsFault → String
  | .emptyAddress =>
    "TSRANGE_REDIS_URL must not be empty. Set it in .env or environment " ++
      "(e.g., TSRANGE_REDIS_URL=redis://localhost:6379/0)"
  | .unknownZone name =>
    "Unknown timezone '" ++ name ++ "' in TSRANGE_DEFAULT_TZ. " ++
      "Use an IANA name such as UTC or Europe/Brussels"
  | .chunkSize shown => "TSRANGE_FILTER_CHUNK_SIZE must be positive, got " ++ shown
  | .unknownLevel name =>
    "Unknown log level '" ++ name ++ "'. Options: " ++ ", ".intercalate logLevels
  | .invalid reason => "Invalid configuration: " ++ reason
  | .optionZone name => "Unknown timezone '" ++ name ++ "'"

def layoutText : LayoutFault → String
  | .unreadable => "Invalid format specifier"
  | .noPrecision => "Format specifier missing precision"
  | .unknownCode code kind =>
    "Unknown format code '" ++ String.singleton code ++ "' for object of type '" ++ kind ++ "'"
  | .grouping mark code =>
    "Cannot specify '" ++ String.singleton mark ++ "' with '" ++ String.singleton code ++ "'."
  | .bothGroupings => "Cannot specify both ',' and '_'."
  | .signedText => "Sign not allowed in string format specifier"
  | .alternateText => "Alternate form (#) not allowed in string format specifier"
  | .alignedText => "'=' alignment not allowed in string format specifier"
  | .preciseInteger => "Precision not allowed in integer format specifier"
  | .signedCharacter => "Sign not allowed with integer format specifier 'c'"
  | .alternateCharacter =>
    "Alternate form (#) not allowed with integer format specifier 'c'"
  | .noCharacter => "%c arg not in range(0x110000)"

def templateText : TemplateFault → String
  | .loneOpening => "Single '\x7b' encountered in format string"
  | .loneClosing => "Single '\x7d' encountered in format string"
  | .unclosed => "expected '\x7d' before end of string"
  | .nestedBrace => "unexpected '\x7b' in field name"
  | .noConversion => "end of string while looking for conversion specifier"
  | .noColon => "expected ':' after conversion specifier"
  | .openLayout => "unmatched '\x7b' in format spec"
  | .unknownConversion conversion =>
    "Unknown conversion specifier " ++ String.singleton conversion
  | .tooDeep => "Max string recursion exceeded"
  | .missingName name => name
  | .missingPosition => "Replacement index 0 out of range for positional args tuple"
  | .emptyStep => "Empty attribute in format string"
  | .strayStep => "Only '.' or '[' may follow ']' in format field specifier"
  | .openItem => "Missing ']' in format string"
  | .layout fault => layoutText fault

/-- What a failure is about, as the text that it is made with. -/
def text : Error → String
  | notAnInstant value => "Cannot convert " ++ value.literal ++ " to milliseconds"
  | unreadableTime text => "Cannot parse datetime: " ++ text
  | unreadableDate text pattern fault => dateText text pattern fault
  | unknownZone cause => zoneText cause
  | outOfRange cause => outOfRangeText cause
  | yearOutOfRange year => yearText year
  | reversedRange start stop => "Range end " ++ stop ++ " is before start " ++ start
  | unknownUnit value => value.literal ++ " is not a valid CalendarUnit"
  | unknownMergePolicy value => value.literal ++ " is not a valid MergePolicy"
  | signal cause => signalText cause
  | notNumeric value => "Not a numeric value: " ++ value.literal
  | unreadableInteger value => "invalid literal for int() with base 10: " ++ value.literal
  | longInteger digits =>
    "Exceeds the limit (4300 digits) for integer string conversion: value has " ++
      Value.intText digits ++ " digits; use sys.set_int_max_str_digits() to increase the limit"
  | unwritableInteger =>
    "Exceeds the limit (4300 digits) for integer string conversion; " ++
      "use sys.set_int_max_str_digits() to increase the limit"
  | doubleNotInteger => "cannot convert float NaN to integer"
  | decimalNotInteger => "cannot convert NaN to integer"
  | unreadableDouble value => "could not convert string to float: " ++ value.literal
  | wrongType what => what
  | missingMethod what => what
  | tooFew expected got =>
    "not enough values to unpack (expected " ++ Value.intText expected ++ ", got " ++
      Value.intText got ++ ")"
  | tooMany expected => "too many values to unpack (expected " ++ Value.intText expected ++ ")"
  | notUtf8 => "invalid UTF-8"
  | notATimeRange value => "Couldn't parse " ++ value.literal ++ " into a time range"
  | invertedTimeRange value => "Time range " ++ value.literal ++ " ends before it starts"
  | invalidTimestamp reason => "Invalid FILTER_BY_TS value: " ++ reason
  | noTimestamps => "FILTER_BY_TS requires at least one timestamp"
  | unreadableFilter word => "Unable to parse '" ++ word ++ "'"
  | invalidFilterValue value => "Invalid filter dict value " ++ value.render
  | noEquality => "Filtering requires at least one equality comparison"
  | unknownStatistic name => name ++ " is not a valid aggregation type!"
  | unreadableDuration value => "Couldn't parse duration " ++ value.literal
  | durationNotPositive duration =>
    "Aggregation duration must be positive, got " ++ Value.intText duration
  | notAnAggregation value => "Couldn't parse " ++ value.literal ++ " into an aggregation rule!"
  | unresolvedUnit unit =>
    "Calendar aggregation '" ++ unit.word ++ "' must be resolved into buckets before sending"
  | openCalendarRange unit =>
    "Calendar aggregation '" ++ unit.word ++ "' needs explicit start and end times"
  | noRuleAggregation => "create_rule requires an aggregation"
  | unknownPolicy name => name ++ " is not a valid duplicate policy"
  | notMerged shown =>
    "expected a list of values in sample.value, but sample is " ++ shown
  | zeroDivisor => "Cannot divide sample values by zero"
  | malformedRow row => Value.malformedText row.literal
  | replyCount replies commands =>
    "Pipeline returned " ++ Value.intText replies ++ " replies for " ++
      Value.intText commands ++ " commands"
  | countNotPositive shown => "COUNT must be positive, got " ++ shown
  | chunkNotPositive shown => "Chunk size must be positive, got " ++ shown
  | settings fault => settingsText fault
  | noSuchFile name => "[Errno 2] No such file or directory: " ++ Text.quoted name
  | isDirectory name => "[Errno 21] Is a directory: " ++ Text.quoted name
  | notADirectory name => "[Errno 20] Not a directory: " ++ Text.quoted name
  | fileExists name => "[Errno 17] File exists: " ++ Text.quoted name
  | embeddedNul => "embedded null byte"
  | invalidVariable => "[Errno 22] Invalid argument"
  | illegalName => "illegal environment variable name"
  | unknownLogLevel name => "Level '" ++ name ++ "' does not exist"
  | negativeLogLevel severity =>
    "Invalid level value, it should be a positive integer, not: " ++ Value.intText severity
  | template fault => templateText fault
  | reported _ text => text

/-- The wording of a failure. -/
def message (error : Error) : String :=
  error.kind.shown error.text

/-- A failure as a literal. -/
def literal (error : Error) : String :=
  Value.failureLiteral error.kind error.text

/-- A report of failure as the failure itself. -/
def ofValue? : Value → Option Error
  | .failure kind text => some (reported kind text)
  | .malformed row => some (malformedRow row)
  | _ => none

/-- Whether a failure says that a value has the wrong type or cannot be read. -/
def isTypeOrValue (error : Error) : Bool :=
  error.kind == .type || error.kind.isValueFailure

end Error

end CalendarSeries
