import CalendarSeries.Logging.Record
import CalendarSeries.Template.Filling
/-!
A logbook: a console and files that take the records that are grave enough for them. A file may
take only some kinds of records. The console comes first, and gives a record that names no
component the default one, which the files then see too. Without console and files nothing is
looked at, and a message is filled in only if some record of its severity is taken.
-/
namespace CalendarSeries

/-- Which records a file takes. -/
inductive Sieve where
  | every
  /-- The records of timed work. -/
  | timings
  | component (component : Component)
  deriving DecidableEq, Repr

namespace Sieve

def timingField : String := "timing"

def passes (sieve : Sieve) (record : Record) : Bool :=
  match sieve with
  | every => true
  | timings => (record.fields.lookup timingField).any Value.isTrue
  | component part =>
    ((record.fields.lookup Record.componentField).bind Value.text?) == some part.name

end Sieve

structure LogFile where
  path : String
  least : Nat
  sieve : Sieve
  records : List Record := []

def LogFile.takes (file : LogFile) (record : Record) : Bool :=
  file.least ≤ record.grade.severity && file.sieve.passes record

def LogFile.add (file : LogFile) (record : Record) : LogFile :=
  if file.takes record then { file with records := file.records ++ [record] } else file

structure Logbook where
  /-- The least severity that the console shows, if there is a console. -/
  console : Option Nat := none
  files : List LogFile := []
  /-- Files that were opened, but that no record goes to. -/
  idle : List String := []
  /-- The records on the console. -/
  shown : List Record := []

namespace Logbook

/-- The severities from which on the console and the files take records. -/
def thresholds (book : Logbook) : List Nat :=
  book.console.toList ++ book.files.map (·.least)

/-- Whether some record of a severity may be taken. -/
def isOpenFor (book : Logbook) (severity : Nat) : Bool :=
  book.thresholds.any (· ≤ severity)

def shows (book : Logbook) (severity : Nat) : Bool :=
  book.console.any (· ≤ severity)

/-- Adds a record wherever it is taken. -/
def add (book : Logbook) (record : Record) : Logbook :=
  if book.shows record.grade.severity then
    let record := record.withComponent
    { book with
      shown := book.shown ++ [record]
      files := book.files.map (·.add record) }
  else { book with files := book.files.map (·.add record) }

/-- What a message and named values for it come to; without values it is no template. -/
def message (template : String) (values : Fields) : Except Error String :=
  if values.isEmpty then .ok template else Template.fill values template

/-- Makes a record of a message and adds it. The values for the message are fields too. -/
def write (grade : Value) (template : String) (fields values : Fields) (book : Logbook) :
    Except Error Unit × Logbook :=
  if book.thresholds.isEmpty then (.ok (), book)
  else
    match Grade.ofValue grade with
    | .error error => (.error error, book)
    | .ok grade =>
      if book.isOpenFor grade.severity then
        match message template values with
        | .error error => (.error error, book)
        | .ok message => (.ok (), book.add ⟨grade, message, fields.putAll values⟩)
      else (.ok (), book)

/-- Adds a note. -/
def note (book : Logbook) (note : Note) : Logbook :=
  book.add (.ofNote note)

end Logbook

end CalendarSeries
