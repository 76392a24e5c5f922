import CalendarSeries.CommandLine.Report
import CalendarSeries.Logging.Json
/-!
The program: it gathers what a command line depends on, runs it, and shows and stores what comes of
it. It has no network, so the link it runs on answers that there is no connection.
-/
namespace CalendarSeries.CommandLine

def offline : List Answer :=
  [.failure (.reported .connection "no connection to a server")]

/-- A file with its path, if it can be read. -/
def readFile? (path : String) : IO (Option (String × String)) := do
  try return some (Text.shortPath path, ← IO.FS.readFile path)
  catch _ => return none

def readVariable? (name : String) : IO (Option (String × String)) := do
  return (← IO.getEnv name).map fun value => (name, value)

/-- The file with settings that a command line names. -/
def envFileOf (args : List String) : Option String :=
  match Invocation.read Report.leadsToDirectory args with
  | .invoked invocation => invocation.envFile
  | _ => none

/-- The session that a command line starts in. -/
def currentSession (args : List String) : IO Session := do
  let environment ← Settings.variableNames.filterMapM readVariable?
  let files ← (Session.defaultFile :: (envFileOf args).toList).filterMapM readFile?
  return { environment, files }

def put : Output → IO Unit
  | .line text => IO.println text
  | .complaint text => IO.eprintln text
  | .logged record => IO.eprintln record.line

/-- Adds the records of a log file to the file. -/
def store (file : LogFile) : IO Unit := do
  let handle ← IO.FS.Handle.mk file.path .append
  for record in file.records do
    handle.putStrLn record.jsonLine

def finish (report : Report) : IO UInt32 := do
  report.terminal.outputs.forM put
  if let some directory := report.server.bind (·.directory) then
    IO.FS.createDirAll (Text.shortPath directory)
    report.terminal.book.files.forM store
  match report.exit with
  | .ok code => return code.number.toUInt32
  | .error error =>
    IO.eprintln error.message
    return 1

end CalendarSeries.CommandLine

open CalendarSeries.CommandLine in
def main (args : List String) : IO UInt32 := do
  finish (Report.ofWords args (← currentSession args) offline)
