import CalendarSeries.Logging.Logbook
/-!
Timed work: a record when it starts, and one when it ends, well or not, that says how long it took.
What is known about the work beforehand stands in both, what is learnt during it in the second. The
names of the records' own fields are not free for that.
-/
namespace CalendarSeries

structure TimedWork where
  operation : Value
  component : Value := .text Record.defaultComponent
  /-- What is known beforehand. -/
  details : Fields := []
  /-- What is learnt meanwhile. -/
  findings : Fields := []
  failure : Option Error := none
  nanoseconds : Nat := 0

namespace TimedWork

def operationField : String := "operation"

def phaseField : String := "phase"

def durationFields : List String :=
  ["duration_ms", "duration_ns"]

/-- What is known about work at its end. -/
def context (work : TimedWork) : Fields :=
  Fields.putAll ((operationField, work.operation) :: work.details) work.findings

/-- The fields that both records have. -/
def bound (work : TimedWork) : Fields :=
  [(Record.componentField, work.component), (Sieve.timingField, .bool true),
    (operationField, work.operation)]

def durations (work : TimedWork) : Fields :=
  durationFields.zip
    [.double (Binary64.ofQuotient work.nanoseconds 1000000), .int work.nanoseconds]

/-- Writes one of the two records; `own` are its own fields, which no other may repeat. -/
def write (work : TimedWork) (title : String) (own more : Fields) (book : Logbook) :
    Except Error Unit × Logbook :=
  if more.hasAny (own.map (·.1)) then (.error (.wrongType "a name is given twice"), book)
  else
    book.write (.text Level.debug.name) (title ++ ": " ++ work.operation.render) work.bound
      (own ++ more)

def start (work : TimedWork) (book : Logbook) : Except Error Unit × Logbook :=
  work.write "START" [(phaseField, .text "start")] work.details book

def finish (work : TimedWork) (book : Logbook) : Except Error Unit × Logbook :=
  work.write "END" ((phaseField, .text "end") :: work.durations)
    (work.context.erase operationField) book

/-- Logs work from start to end. A failure to log is told rather than the failure of the work. -/
def log (work : TimedWork) (book : Logbook) : Except Error Fields × Logbook :=
  if work.details.hasAny [operationField, Record.componentField] then
    (.error (.wrongType "a name is given twice"), book)
  else
    match work.start book with
    | (.error error, book) => (.error error, book)
    | (.ok _, book) =>
      match work.finish book, work.failure with
      | (.error error, book), _ => (.error error, book)
      | (.ok _, book), some error => (.error error, book)
      | (.ok _, book), none => (.ok work.context, book)

end TimedWork

end CalendarSeries
