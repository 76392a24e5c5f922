import CalendarSeries.CommandLine.Terminal
import CalendarSeries.Instant
import CalendarSeries.Sample.Basic
import CalendarSeries.Text.Json
/-!
Samples as rows, with the time on the clocks of a zone, printed one to a line or as JSON. Failures
among the samples are complained about in their place.
-/
namespace CalendarSeries.CommandLine

structure Row where
  stamp : Int
  time : String
  value : String
  deriving DecidableEq, Repr

namespace Row

def ofReading (zone : String) (stamp : Int) (value : Value) : Except Error Row :=
  (Instant.readingIn (.named zone) stamp).map fun reading =>
    ⟨stamp, Iso.render reading, value.render⟩

/-- The rows of samples, and the terminal with complaints about the failures among them. A time
that cannot be shown ends it. -/
def ofElements (zone : String) :
    List Element → Terminal → Except Error (List Row) × Terminal
  | [], terminal => (.ok [], terminal)
  | element :: elements, terminal =>
    match element.failure?, element.reading? with
    | some error, _ => ofElements zone elements (terminal.complain ("error: " ++ error.message))
    | none, none => ofElements zone elements terminal
    | none, some (stamp, value) =>
      match ofReading zone stamp value with
      | .error error => (.error error, terminal)
      | .ok row =>
        let (rows, terminal) := ofElements zone elements terminal
        (rows.map (row :: ·), terminal)

def line (row : Row) : String :=
  row.time ++ "  " ++ row.value

/-- The lines of a row as an object, up to its last member. -/
def jsonLines (row : Row) : List String :=
  ["  \x7b",
   "    \"timestamp\": " ++ Value.intText row.stamp ++ ",",
   "    \"time\": " ++ Text.jsonString row.time ++ ",",
   "    \"value\": " ++ Text.jsonString row.value]

/-- The lines of all rows as objects; a comma parts them. -/
def jsonObjects : List Row → List String
  | [] => []
  | [row] => row.jsonLines ++ ["  \x7d"]
  | row :: rows => row.jsonLines ++ "  \x7d," :: jsonObjects rows

def jsonText (rows : List Row) : String :=
  if rows.isEmpty then "[]" else "\n".intercalate ("[" :: jsonObjects rows ++ ["]"])

def print (asJson : Bool) (rows : List Row) (terminal : Terminal) : Terminal :=
  if asJson then terminal.print (jsonText rows)
  else rows.foldl (fun terminal row => terminal.print row.line) terminal

end Row

end CalendarSeries.CommandLine
