import CalendarSeries.Logging.Logbook
import CalendarSeries.Settings.Basic
/-!
Setting a logbook up: a console, and in a directory one file for all records, one for timed work
and one for each component. The file for timed work takes records from debugging upwards, whatever
the level is.
-/
namespace CalendarSeries

structure LogOptions where
  level : Value := .text "INFO"
  directory : Option String := none
  console : Bool := true
  timings : Bool := true

namespace Logbook

def mainFile : String := "tsrange"

def timingFile : String := "timing"

/-- The path of a log file in a directory. -/
def filePath (directory name : String) : String :=
  Text.shortPath (directory ++ "/" ++ name ++ ".jsonl")

/-- Why a directory cannot be made where some files already are, if so. -/
def directoryFault (taken : List String) (directory : String) : Option Error :=
  if directory ∈ taken then some (.fileExists directory)
  else if taken.any fun file => directory.startsWith (file ++ "/") then
    some (.notADirectory directory)
  else none

/-- The files of a directory, for a level of the given severity. -/
def filesIn (directory : String) (timings : Bool) (least : Nat) : List LogFile :=
  let timingFiles :=
    if timings then [⟨filePath directory timingFile, Level.debug.severity, .timings, []⟩] else []
  ⟨filePath directory mainFile, least, .every, []⟩ :: timingFiles ++
    Component.all.map fun part => ⟨filePath directory part.name, least, .component part, []⟩

/-- The note that a logbook with files is ready. -/
def announce (level : Value) (directory : String) (book : Logbook) :
    Except Error Unit × Logbook :=
  book.write (.text Level.debug.name) "Loguru configured"
    [(Record.componentField, .text Component.commandLine.name)]
    [("log_dir", .text directory), ("level", level)]

/-- Adds the files of a directory to a logbook, unless files that are `taken` are in the way. The
first file is opened before the level is looked at. -/
def openFiles (taken : List String) (options : LogOptions) (directory : String)
    (book : Logbook) : Except Error Unit × Logbook :=
  match directoryFault taken directory with
  | some error => (.error error, book)
  | none =>
    match Grade.ofValue options.level with
    | .error error => (.error error, { book with idle := [filePath directory mainFile] })
    | .ok grade =>
      announce options.level directory
        { book with files := filesIn directory options.timings grade.severity }

/-- Sets a logbook up. What was set up before a failure stays. -/
def setUp (taken : List String) (options : LogOptions) : Except Error Unit × Logbook :=
  let files (book : Logbook) : Except Error Unit × Logbook :=
    match options.directory with
    | none => (.ok (), book)
    | some directory => openFiles taken options (Text.shortPath directory) book
  if options.console then
    match Grade.ofValue options.level with
    | .error error => (.error error, {})
    | .ok grade => files { console := some grade.severity }
  else files {}

end Logbook

/-- How settings want the log. Debugging shows at least the records of that level. -/
def Settings.logOptions (settings : Settings) : LogOptions :=
  let level :=
    if settings.debug && Level.debug.severity < settings.level.severity then Level.debug
    else settings.level
  { level := .text level.name, directory := settings.directory }

end CalendarSeries
