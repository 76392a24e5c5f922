import CalendarSeries.Settings.Basic
/-!
Settings over time: an environment, the files of the current directory, and the settings that were
loaded last. Loading from a file sets the variables of the environment first; what is set before a
failure stays set, and settings are remembered only if loading succeeds.
-/
namespace CalendarSeries

structure Session where
  environment : Environment := []
  /-- The files by the short form of their paths. -/
  files : List (String × String) := []
  remembered : Option Settings := none

namespace Session

/-- What a step in a session comes to, and the session after it. -/
abbrev Step (α : Type) := Session → Except Error α × Session

def defaultFile : String := ".env"

/-- Whether a short path leads to a directory that is always there. -/
def isDirectory (path : String) : Bool :=
  path ∈ [".", "..", "/", "//"]

/-- Whether a path leads to a file or a directory. -/
def hasPath (session : Session) (path : String) : Bool :=
  isDirectory path || (session.files.lookup path).isSome

/-- What a file holds. -/
def readFile (session : Session) (path : String) : Except Error String :=
  if Environment.hasNul path then .error .embeddedNul
  else if isDirectory path then .error (.isDirectory path)
  else match session.files.lookup path with
    | some content => .ok content
    | none => .error (.noSuchFile path)

def writeFile (name content : String) : Step Unit := fun session =>
  let path := Text.shortPath name
  if Environment.hasNul path then (.error .embeddedNul, session)
  else if isDirectory path then (.error (.isDirectory path), session)
  else (.ok (), { session with files := (path, content) :: session.files.filter (·.1 != path) })

def removeFile (name : String) : Step Unit := fun session =>
  let path := Text.shortPath name
  if Environment.hasNul path then (.error .embeddedNul, session)
  else if (session.files.lookup path).isSome then
    (.ok (), { session with files := session.files.filter (·.1 != path) })
  else (.error (.noSuchFile path), session)

def setVariable (name value : String) : Step Unit := fun session =>
  match session.environment.set name value with
  | .ok environment => (.ok (), { session with environment })
  | .error error => (.error error, session)

def unsetVariable (name : String) (session : Session) : Session :=
  { session with environment := session.environment.remove name }

/-- Sets the variables of a file. -/
def loadFile (name : String) : Step Unit := fun session =>
  match session.readFile (Text.shortPath name) with
  | .error error => (.error error, session)
  | .ok content =>
    let (environment, error) := EnvFile.load session.environment content
    (match error with | some error => .error error | none => .ok (), { session with environment })

/-- Sets the variables of the file that is named, or of the default file, if there is one. -/
def loadFileIfPresent (name : Option String) : Step Unit := fun session =>
  let name := name.getD defaultFile
  if session.hasPath (Text.shortPath name) then loadFile name session else (.ok (), session)

/-- The settings of the environment after a file has been loaded. -/
def fromEnvironment (name : Option String) : Step Settings := fun session =>
  match loadFileIfPresent name session with
  | (.error error, session) => (.error error, session)
  | (.ok _, session) =>
    ((Settings.ofEnvironment session.environment).mapError .settings, session)

/-- Loads settings and remembers them. -/
def load (name : Option String) : Step Settings := fun session =>
  match fromEnvironment name session with
  | (.ok settings, session) => (.ok settings, { session with remembered := some settings })
  | failed => failed

/-- The remembered settings; the first time they are loaded from the environment. -/
def get : Step Settings := fun session =>
  match session.remembered with
  | some settings => (.ok settings, session)
  | none => load none session

/-- An example of a file with all settings. -/
def exampleFile : String :=
  "\n".intercalate
    ["# tsrange configuration",
     "# Copy this to .env and adjust values",
     "",
     "# ====================",
     "# Redis",
     "# ====================",
     "",
     "# Server with the time-series module loaded (optional)",
     "TSRANGE_REDIS_URL=redis://localhost:6379/0",
     "",
     "# Socket timeout in seconds for one pipelined round trip (optional)",
     "# TSRANGE_SOCKET_TIMEOUT=5.0",
     "",
     "# ====================",
     "# Query planning",
     "# ====================",
     "",
     "# Zone for month/day bucketing (optional, default: UTC)",
     "# Examples: UTC, America/New_York, Europe/Brussels",
     "TSRANGE_DEFAULT_TZ=UTC",
     "",
     "# Max FILTER_BY_TS values per remote call (optional, default: 128)",
     "TSRANGE_FILTER_CHUNK_SIZE=128",
     "",
     "# ====================",
     "# Logging",
     "# ====================",
     "",
     "# Log level (optional, default: INFO)",
     "# Options: TRACE, DEBUG, INFO, SUCCESS, WARNING, ERROR, CRITICAL",
     "TSRANGE_LOG_LEVEL=INFO",
     "",
     "# Log every command before it is sent (optional, default: false)",
     "TSRANGE_DEBUG=false",
     "",
     "# Directory for JSONL logs (optional, console only if not set)",
     "# TSRANGE_LOG_DIR=logs",
     ""]

end Session

end CalendarSeries
