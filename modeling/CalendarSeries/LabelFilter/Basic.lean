import CalendarSeries.Text.Blank
/-!
Label filters: six conditions on one label of a series, and their written form. `ofWord?` reads
one condition from a word without blanks.
-/
namespace CalendarSeries

inductive LabelFilter where
  | equal (label value : String)
  | notEqual (label value : String)
  | absent (label : String)
  | present (label : String)
  | anyOf (label : String) (values : List String)
  | noneOf (label : String) (values : List String)
  deriving DecidableEq, Repr

namespace LabelFilter

open CalendarSeries.Text

/-- Values in brackets, parted by commas. -/
def listText (values : List String) : String :=
  "(" ++ ",".intercalate values ++ ")"

def render : LabelFilter → String
  | equal label value => label ++ "=" ++ value
  | notEqual label value => label ++ "!=" ++ value
  | absent label => label ++ "="
  | present label => label ++ "!="
  | anyOf label values => label ++ "=" ++ listText values
  | noneOf label values => label ++ "!=" ++ listText values

def label : LabelFilter → String
  | equal label _ => label
  | notEqual label _ => label
  | absent label => label
  | present label => label
  | anyOf label _ => label
  | noneOf label _ => label

def isEqual : LabelFilter → Bool
  | equal .. => true
  | _ => false

/-- The characters of a label. -/
def isLabelChar (c : Char) : Bool :=
  c != '!' && c != '='

/-- What stands after the sign of a condition. -/
inductive Operand where
  | nothing
  | value (text : String)
  | values (texts : List String)
  deriving DecidableEq, Repr

/-- The text between brackets that open and close `cs`, unless it is empty. -/
def bracketed? (cs : List Char) : Option (List Char) :=
  if cs.head? = some '(' ∧ cs.getLast? = some ')' ∧ 2 < cs.length then
    some ((cs.drop 1).take (cs.length - 2))
  else none

def readOperand (cs : List Char) : Option Operand :=
  match bracketed? cs with
  | some body =>
    some (.values ((splitWhen (· == ',') body).map fun value => String.ofList (strip value)))
  | none =>
    if cs.isEmpty then some .nothing
    else if cs.contains '(' then none
    else some (.value (String.ofList cs))

/-- The condition that a label has to equal an operand, or not to. -/
def ofOperand (negated : Bool) (label : String) : Operand → LabelFilter
  | .nothing => if negated then present label else absent label
  | .value text => if negated then notEqual label text else equal label text
  | .values texts => if negated then noneOf label texts else anyOf label texts

/-- Reads a label, `=` or `!=`, and an operand. -/
def ofWord? (word : List Char) : Option LabelFilter := do
  let label := word.takeWhile isLabelChar
  if label.isEmpty then none
  match word.dropWhile isLabelChar with
  | '!' :: '=' :: rest =>
    (readOperand rest).map (ofOperand true (String.ofList label))
  | '=' :: rest =>
    (readOperand rest).map (ofOperand false (String.ofList label))
  | _ => none

end LabelFilter

end CalendarSeries
