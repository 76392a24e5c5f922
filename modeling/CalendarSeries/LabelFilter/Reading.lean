import CalendarSeries.LabelFilter.Basic
import CalendarSeries.Value.Conversion
/-!
Sets of label filters from a text of words or from a map of labels, and back to a map.
-/
namespace CalendarSeries.LabelFilter

open CalendarSeries.Text

def ofWord (word : List Char) : Except Error LabelFilter :=
  match ofWord? word with
  | some filter => .ok filter
  | none => .error (.unreadableFilter (String.ofList word))

/-- The filters of a text, one a word. -/
def ofText (content : String) : Except Error (List LabelFilter) :=
  (words content.toList).mapM ofWord

/-- What a map says to exclude: one value, or any of several. -/
def excluding (label : String) (value : Value) : LabelFilter :=
  match value.items? with
  | some items => noneOf label (items.map Value.render)
  | none => notEqual label value.render

/-- The filter of one entry of a map. -/
def ofEntry (key value : Value) : Except Error LabelFilter :=
  let label := key.render
  match value with
  | .bool true => .ok (present label)
  | .bool false => .ok (absent label)
  | .map [(.text "not", excluded)] => .ok (excluding label excluded)
  | .map _ => .error (.invalidFilterValue value)
  | _ =>
    match value.items? with
    | some items => .ok (anyOf label (items.map Value.render))
    | none => .ok (equal label value.render)

/-- The filters of an argument; what is neither a text nor a map has none. -/
def ofValue (value : Value) : Except Error (List LabelFilter) :=
  match value with
  | .map entries => entries.mapM fun (key, value) => ofEntry key value
  | _ =>
    match value.text? with
    | some content => ofText content
    | none => .ok []

/-- Filters that are read already, or those of an argument. -/
def given (value : Value) : Except Error (List LabelFilter) :=
  match value with
  | .filters filters => .ok filters
  | _ => ofValue value

def texts (values : List String) : Value :=
  .list (values.map .text)

/-- The value of the filter's label in a map of filters. -/
def entryValue : LabelFilter → Value
  | equal _ value => .text value
  | notEqual _ value => .map [(.text "not", .text value)]
  | absent _ => .bool false
  | present _ => .bool true
  | anyOf _ values => texts values
  | noneOf _ values => .map [(.text "not", texts values)]

/-- Filters as a map; of several for one label the last stays. -/
def toMap (filters : List LabelFilter) : Value :=
  .map (Value.distinct (filters.map fun filter => (.text filter.label, filter.entryValue)))

/-- What a server asks for: at least one equality. -/
def isValid (filters : List LabelFilter) : Bool :=
  filters.any isEqual

def validate (filters : List LabelFilter) : Except Error (List LabelFilter) :=
  if isValid filters then .ok filters else .error .noEquality

def renderAll (filters : List LabelFilter) : String :=
  " ".intercalate (filters.map render)

end CalendarSeries.LabelFilter
