import CalendarSeries.Link
import CalendarSeries.Settings.Environment
import CalendarSeries.Value.Conversion
/-!
Settings: where the server is, how queries are cut and sent, and what is logged. They are checked
when they are made, and can be read from environment variables.
-/
namespace CalendarSeries

structure Settings where
  address : String := "redis://localhost:6379/0"
  zone : String := "UTC"
  chunkSize : Int := 128
  /-- Seconds to wait for a reply, or nothing to wait without limit. -/
  timeout : Value := .none
  debug : Bool := false
  level : Level := .info
  /-- Where logs are written to, if anywhere. -/
  directory : Option String := none

namespace Settings

/-- Settings as they are given, before any check. -/
structure Given where
  address : String := "redis://localhost:6379/0"
  zone : String := "UTC"
  chunkSize : Int := 128
  timeout : Value := .none
  debug : Bool := false
  level : String := "INFO"
  directory : Option String := none

/-- A directory in short form; an empty text stays as it is. -/
def shortDirectory (directory : String) : String :=
  if directory = "" then "" else Text.shortPath directory

/-- Settings that have an address, a known zone, a positive chunk size and a known level; the
first of these that is missing is the fault. -/
def make (given : Given) : Except SettingsFault Settings :=
  if given.address = "" then .error .emptyAddress
  else if given.zone ∉ Zone.names then .error (.unknownZone given.zone)
  else if given.chunkSize < 1 then .error (.chunkSize (Value.intText given.chunkSize))
  else
    let name := Text.upper given.level
    match Level.ofName? name with
    | none => .error (.unknownLevel name)
    | some level =>
      .ok { address := given.address
            zone := given.zone
            chunkSize := given.chunkSize
            timeout := given.timeout
            debug := given.debug
            level
            directory := given.directory.map shortDirectory }

/-- A whole number from a variable. -/
def readNumber (content : String) : Except SettingsFault Int :=
  ((Value.text content).toInteger).mapError fun error => .invalid error.message

/-- Seconds from a variable; an empty one sets no limit. -/
def readTimeout (content : Option String) : Except SettingsFault Value :=
  match content with
  | none => .ok .none
  | some "" => .ok .none
  | some content =>
    match Binary64.read content.toList with
    | some seconds => .ok (.double seconds)
    | none => .error (.invalid (Error.message (.unreadableDouble (.text content))))

def isSwitchedOn (content : String) : Bool :=
  Text.lower content == "true" || Text.lower content == "1"

/-- The variables that settings are read from. -/
def variableNames : List String :=
  ["TSRANGE_REDIS_URL", "TSRANGE_DEFAULT_TZ", "TSRANGE_FILTER_CHUNK_SIZE",
   "TSRANGE_SOCKET_TIMEOUT", "TSRANGE_DEBUG", "TSRANGE_LOG_LEVEL", "TSRANGE_LOG_DIR"]

/-- The settings of an environment. -/
def ofEnvironment (environment : Environment) : Except SettingsFault Settings := do
  let chunkSize ← readNumber (environment.getOr "TSRANGE_FILTER_CHUNK_SIZE" "128")
  let timeout ← readTimeout (environment.get? "TSRANGE_SOCKET_TIMEOUT")
  make {
    address := environment.getOr "TSRANGE_REDIS_URL" "redis://localhost:6379/0"
    zone := environment.getOr "TSRANGE_DEFAULT_TZ" "UTC"
    chunkSize
    timeout
    debug := isSwitchedOn (environment.getOr "TSRANGE_DEBUG" "false")
    level := environment.getOr "TSRANGE_LOG_LEVEL" "INFO"
    directory := (environment.get? "TSRANGE_LOG_DIR").map Text.shortPath }

/-- The context for a server with these settings. -/
def context (settings : Settings) : Context :=
  ⟨settings.debug, settings.chunkSize, settings.zone⟩

end Settings

end CalendarSeries
