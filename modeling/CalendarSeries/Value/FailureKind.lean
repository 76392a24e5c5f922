import CalendarSeries.Text.Quoted
import CalendarSeries.Value.Basic
/-!
The names of the kinds of failure as they are shown, and the families that they fall into.
-/
namespace CalendarSeries.FailureKind

def name : FailureKind → String
  | series => "TimeSeriesError"
  | aggregation => "AggregationError"
  | filter => "FilterError"
  | unknownPolicy => "UnknownPolicyError"
  | calculation => "CalculationError"
  | malformedReply => "MalformedReplyError"
  | pipelineMismatch => "PipelineMismatchError"
  | configuration => "ConfigError"
  | value => "ValueError"
  | type => "TypeError"
  | missingAttribute => "AttributeError"
  | overflow => "OverflowError"
  | index => "IndexError"
  | os => "OSError"
  | fileNotFound => "FileNotFoundError"
  | isDirectory => "IsADirectoryError"
  | unicodeDecode => "UnicodeDecodeError"
  | recursion => "RecursionError"
  | runtime => "RuntimeError"
  | key => "KeyError"
  | unknownTimeZone => "UnknownTimeZoneError"
  | zoneNotFound => "ZoneInfoNotFoundError"
  | response => "ResponseError"
  | connection => "ConnectionError"
  | timeout => "TimeoutError"
  | data => "DataError"
  | authentication => "AuthenticationError"
  | remote => "RedisError"
  | invalidOperation => "InvalidOperation"
  | divisionByZero => "DivisionByZero"
  | divisionUndefined => "DivisionUndefined"
  | decimalOverflow => "Overflow"
  | other name => name

def all : List FailureKind :=
  [series, aggregation, filter, unknownPolicy, calculation, malformedReply, pipelineMismatch,
   configuration, value, type, missingAttribute, overflow, index, os, fileNotFound, isDirectory,
   unicodeDecode, recursion, runtime, key, unknownTimeZone, zoneNotFound, response, connection,
   timeout, data, authentication, remote, invalidOperation, divisionByZero, divisionUndefined,
   decimalOverflow]

def ofName (name : String) : FailureKind :=
  (all.find? (·.name == name)).getD (.other name)

/-- Failures of a look-up, whose text is shown in quotes. -/
def isKeyFailure (kind : FailureKind) : Bool :=
  kind ∈ [key, unknownTimeZone, zoneNotFound]

/-- Failures of a value that has the right type. -/
def isValueFailure (kind : FailureKind) : Bool :=
  kind ∈ [value, unicodeDecode]

/-- What a caller can do about a failure. -/
inductive Family where
  | configuration
  | remote
  | unexpected
  deriving DecidableEq, Repr

/-- Faults of the settings or the query come first, then those of the server. -/
def family : FailureKind → Family
  | configuration => .configuration
  | aggregation => .configuration
  | filter => .configuration
  | unknownPolicy => .configuration
  | value => .configuration
  | unicodeDecode => .configuration
  | series => .remote
  | calculation => .remote
  | malformedReply => .remote
  | pipelineMismatch => .remote
  | response => .remote
  | connection => .remote
  | timeout => .remote
  | data => .remote
  | authentication => .remote
  | remote => .remote
  | _ => .unexpected

/-- The text of a failure as it is shown. -/
def shown (kind : FailureKind) (text : String) : String :=
  if kind.isKeyFailure then Text.quoted text else text

end CalendarSeries.FailureKind
