import CalendarSeries.CommandLine.ExitCode
import CalendarSeries.CommandLine.Fetching
import CalendarSeries.CommandLine.Rows
import CalendarSeries.Logging.Setup
import CalendarSeries.Settings.Session
/-!
Running a command line. Settings come first, then the logbook, then the query; a failure of any of
them is logged, complained about and ends the command with the exit code of its kind. Only showing
the samples is not guarded: a time that cannot be shown is an error of the program itself.
-/
namespace CalendarSeries.CommandLine

/-- What running a command line comes to. -/
structure Report where
  /-- The exit code, or the error that was not caught. -/
  exit : Except Error ExitCode
  terminal : Terminal := {}
  /-- The settings of the server that was connected to. -/
  server : Option Settings := none
  events : List Event := []

namespace Report

def halfAggregationText : String :=
  "Error: --agg and --bucket must be given together"

def usage : List String :=
  ["Usage: tsrange [--env-file FILE] [--debug] range KEY [OPTIONS]",
   "       tsrange [--env-file FILE] [--debug] combine KEY... --agg STATISTIC --bucket BUCKET",
   "               --op REDUCTION [OPTIONS]"]

/-- What a command is called in messages. -/
def title : Command → String
  | .range key .. => "range " ++ key
  | .combine keys .. => "combine " ++ " ".intercalate keys

def failed (command : Command) (error : Error) (terminal : Terminal) : Report :=
  let note : Note :=
    ⟨.error, .commandLine, title command ++ " failed: " ++ error.message⟩
  { exit := .ok (.ofError error)
    terminal := (terminal.note note).complain ("❌ " ++ error.message) }

/-- Complains about the failures of one key. -/
def complainOf (terminal : Terminal) (key : String) (errors : List Error) : Terminal :=
  let note : Note :=
    ⟨.error, .commandLine,
      "combine: " ++ key ++ " returned " ++ Value.intText errors.length ++ " errors"⟩
  errors.foldl (fun terminal error => terminal.complain
    ("error: " ++ key ++ ": " ++ error.message)) (terminal.note note)

/-- The exit code for samples that are shown. Combined samples have no failures. -/
def exitFor (samples : Samples) : ExitCode :=
  if samples.hasFailures then .remote else .success

/-- Shows samples in a zone. -/
def ofSamples (asJson : Bool) (zone : String) (samples : Samples) (terminal : Terminal) :
    Report :=
  match Row.ofElements zone samples.elements terminal with
  | (.error error, terminal) => { exit := .error error, terminal }
  | (.ok rows, terminal) =>
    { exit := .ok (exitFor samples), terminal := Row.print asJson rows terminal }

def ofFetched (asJson : Bool) (zone : String) (terminal : Terminal) : Fetched → Report
  | .samples samples => ofSamples asJson zone samples terminal
  | .failures failed =>
    { exit := .ok .remote
      terminal := failed.foldl (fun terminal (key, errors) => complainOf terminal key errors)
        terminal }
  | .halfAggregation => { exit := .ok .usage, terminal := terminal.complain halfAggregationText }

/-- Runs a query on a server that gives the answers. -/
def ofQuery (invocation : Invocation) (settings : Settings) (answers : List Answer)
    (terminal : Terminal) : Report :=
  let (fetched, link) := Link.perform (invocation.fetch settings.context) { answers }
  let terminal := terminal.noteAll link.notes
  let report := match fetched with
    | .error error => failed invocation.command error terminal
    | .ok (zone, fetched) => ofFetched invocation.selection.asJson zone terminal fetched
  { report with server := some settings, events := link.events }

/-- Runs a command with the settings of a session. -/
def ofInvocation (invocation : Invocation) (session : Session) (answers : List Answer) :
    Report :=
  match session.load invocation.envFile with
  | (.error error, _) => failed invocation.command error {}
  | (.ok settings, _) =>
    let settings := { settings with debug := settings.debug || invocation.debug }
    match Logbook.setUp (session.files.map (·.1)) settings.logOptions with
    | (.error error, book) => failed invocation.command error (.ofBook book)
    | (.ok _, book) => ofQuery invocation settings answers (.ofBook book)

/-- Whether a path that is given leads to a directory. -/
def leadsToDirectory (path : String) : Bool :=
  path != "" && Session.isDirectory (Text.shortPath path)

/-- Runs a command line. -/
def ofWords (args : List String) (session : Session) (answers : List Answer) : Report :=
  match Invocation.read leadsToDirectory args with
  | .help => { exit := .ok .success, terminal := usage.foldl Terminal.print {} }
  | .misused => { exit := .ok .usage }
  | .invoked invocation => ofInvocation invocation session answers

/-- Runs a command line on a context that is supplied; no settings are loaded for it. -/
def ofContext (args : List String) (context : Context) (answers : List Answer) : Report :=
  match Invocation.read leadsToDirectory args with
  | .help => { exit := .ok .success, terminal := usage.foldl Terminal.print {} }
  | .misused => { exit := .ok .usage }
  | .invoked invocation =>
    let settings : Settings :=
      { debug := context.debug, zone := context.zone, chunkSize := context.chunkSize }
    { ofQuery invocation settings answers {} with server := none }

end Report

end CalendarSeries.CommandLine
