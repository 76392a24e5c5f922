import CalendarSeries.Error
import CalendarSeries.Journal
/-!
Records of the log: how grave they are, their message, and named fields that say more. A record is
graded by a level or by a bare number.
-/
namespace CalendarSeries

inductive Grade where
  | level (level : Level)
  | number (severity : Nat)
  deriving DecidableEq, Repr

namespace Grade

def severity : Grade → Nat
  | level known => known.severity
  | number n => n

def name : Grade → String
  | level known => known.name
  | number n => "Level " ++ Value.intText n

/-- A level by its name, or a number that is not negative. -/
def ofValue (value : Value) : Except Error Grade :=
  match value, value.integer? with
  | .text name, _ =>
    match Level.ofName? name with
    | some found => .ok (level found)
    | none => .error (.unknownLogLevel name)
  | _, some n => if n < 0 then .error (.negativeLogLevel n) else .ok (number n.toNat)
  | _, none => .error (.wrongType "a level is a name or a whole number")

end Grade

/-- Values by name, in the order in which the names were first given. -/
abbrev Fields := List (String × Value)

namespace Fields

def has (fields : Fields) (name : String) : Bool :=
  fields.any (·.1 == name)

def put (fields : Fields) (name : String) (value : Value) : Fields :=
  if fields.has name then
    fields.map fun (other, old) => (other, if other = name then value else old)
  else fields ++ [(name, value)]

def putAll (fields more : Fields) : Fields :=
  more.foldl (fun fields (name, value) => fields.put name value) fields

def erase (fields : Fields) (name : String) : Fields :=
  fields.filter (·.1 != name)

/-- Whether one of some names is taken. -/
def hasAny (fields : Fields) (names : List String) : Bool :=
  names.any fields.has

end Fields

structure Record where
  grade : Grade
  message : String
  fields : Fields

namespace Record

def componentField : String := "component"

/-- The component of records that come from none of the parts. -/
def defaultComponent : String := "tsrange"

/-- A record that names its component. -/
def withComponent (record : Record) : Record :=
  if record.fields.has componentField then record
  else
    { record with
      fields := record.fields ++ [(componentField, .text defaultComponent)] }

def component (record : Record) : String :=
  ((record.fields.lookup componentField).map Value.render).getD defaultComponent

/-- Text filled up with blanks on the right. -/
def padRight (width : Nat) (text : String) : String :=
  text ++ String.ofList (List.replicate (width - text.length) ' ')

/-- A record as it stands on the console, without its time. -/
def line (record : Record) : String :=
  padRight 8 record.grade.name ++ " | " ++ record.component ++ " | " ++ record.message

mutual

/-- A value as it stands in a file: what is no number and no text, nor made of such, is put in
words. -/
def stored : Value → Value
  | .none => .none
  | .bool truth => .bool truth
  | .int n => .int n
  | .text content => .text content
  | .double x => .double x
  | .list items => .list (storedItems items)
  | .tuple items => .list (storedItems items)
  | .map entries => .map (storedEntries entries)
  | value => .text value.render

def storedItems : List Value → List Value
  | [] => []
  | item :: items => stored item :: storedItems items

def storedEntries : List (Value × Value) → List (Value × Value)
  | [] => []
  | (key, value) :: entries => (.text key.render, stored value) :: storedEntries entries

end

/-- The fields as they stand in a file, sorted by name. -/
def storedFields (record : Record) : Fields :=
  (record.fields.map fun (name, value) => (name, stored value)).mergeSort
    fun one other => decide (one.1 ≤ other.1)

/-- A note as a record. -/
def ofNote (note : Note) : Record :=
  ⟨.level note.level, note.message, [(componentField, .text note.component.name)]⟩

end Record

end CalendarSeries
