import CalendarSeries.Logging.Record
import CalendarSeries.Text.Json
/-!
Records as they are written to a file: one object of JSON to a line.
-/
namespace CalendarSeries

namespace Value

def jsonDouble : Binary64 → String
  | .nan => "NaN"
  | .infinite negative => if negative then "-Infinity" else "Infinity"
  | x => x.render

mutual

/-- A stored value as JSON. -/
def json : Value → String
  | .none => "null"
  | .bool truth => if truth then "true" else "false"
  | .int n => intText n
  | .double x => jsonDouble x
  | .list items => "[" ++ ", ".intercalate (jsonItems items) ++ "]"
  | .map entries => "\x7b" ++ ", ".intercalate (jsonEntries entries) ++ "\x7d"
  | value => Text.jsonString value.render

def jsonItems : List Value → List String
  | [] => []
  | item :: items => json item :: jsonItems items

def jsonEntries : List (Value × Value) → List String
  | [] => []
  | (key, value) :: entries =>
    (Text.jsonString key.render ++ ": " ++ json value) :: jsonEntries entries

end

end Value

namespace Record

/-- A record as a line of a file. -/
def jsonLine (record : Record) : String :=
  Value.json (.map
    [(.text "level", .text record.grade.name),
     (.text "message", .text record.message),
     (.text "extra", .map (record.storedFields.map fun (name, value) => (.text name, value)))])

end Record

end CalendarSeries
