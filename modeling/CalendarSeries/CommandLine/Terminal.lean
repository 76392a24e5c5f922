import CalendarSeries.Logging.Logbook
/-!
What a command shows: lines of its result, lines of complaint, and the records of its logbook that
the console takes, all in one order.
-/
namespace CalendarSeries.CommandLine

inductive Output where
  | line (text : String)
  | complaint (text : String)
  | logged (record : Record)

structure Terminal where
  book : Logbook := {}
  outputs : List Output := []

namespace Terminal

def add (terminal : Terminal) (output : Output) : Terminal :=
  { terminal with outputs := terminal.outputs ++ [output] }

def complain (terminal : Terminal) (text : String) : Terminal :=
  terminal.add (.complaint text)

def print (terminal : Terminal) (text : String) : Terminal :=
  terminal.add (.line text)

/-- A terminal that shows what a logbook has on its console. -/
def ofBook (book : Logbook) : Terminal :=
  ⟨book, book.shown.map .logged⟩

/-- Adds a note to the logbook, and shows it if the console takes it. -/
def note (terminal : Terminal) (note : Note) : Terminal :=
  let noted := { terminal with book := terminal.book.note note }
  if terminal.book.shows note.level.severity then noted.add (.logged (.ofNote note)) else noted

def noteAll (terminal : Terminal) (notes : List Note) : Terminal :=
  notes.foldl Terminal.note terminal

end Terminal

end CalendarSeries.CommandLine
