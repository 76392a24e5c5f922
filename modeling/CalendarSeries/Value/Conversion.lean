import CalendarSeries.Error
import CalendarSeries.Number.Whole
import CalendarSeries.Text.Utf8
import CalendarSeries.Value.Equality
/-!
Values taken as something else: as a whole number, a decimal, a truth, a sequence of items, a pair.
-/
namespace CalendarSeries.Value

def integerOf (value : Value) (result : Except Whole.Fault Int) : Except Error Int :=
  match result with
  | .ok n => .ok n
  | .error .malformed => .error (.unreadableInteger value)
  | .error (.tooLong digits) => .error (.longInteger digits)

/-- The whole number that a value denotes; fractions are cut off. -/
def toInteger (value : Value) : Except Error Int :=
  match value with
  | bytes content => integerOf value (Whole.readBytes content)
  | double (.finite negative significand exponent) =>
    .ok (Binary64.truncate negative significand exponent)
  | double (.infinite _) => .error (.outOfRange .infiniteDouble)
  | double .nan => .error .doubleNotInteger
  | decimal (.finite negative coefficient exponent) =>
    .ok (Decimal.truncate negative coefficient exponent)
  | decimal (.infinite _) => .error (.outOfRange .infiniteDecimal)
  | decimal (.nan ..) => .error .decimalNotInteger
  | _ =>
    match value.integer?, value.text? with
    | some n, _ => .ok n
    | _, some content => integerOf value (Whole.read content.toList)
    | _, _ => .error (.wrongType "a number or a text is needed")

def decimalOfText (shown : Value) (content : List Char) : Except Error Decimal :=
  match Decimal.read content with
  | some x => .ok x
  | Option.none => .error (.notNumeric shown)

/-- The decimal that a value as it is sent denotes. A floating number is taken by its shortest
text, a truth value is none. -/
def toDecimal (value : Value) : Except Error Decimal :=
  match value with
  | decimal x => .ok x
  | int n => .ok (Decimal.ofInt n)
  | double x => decimalOfText (text x.render) x.renderChars
  | bytes content =>
    match Text.decodeUtf8 (content.map UInt8.toNat) with
    | some cs => decimalOfText (text (String.ofList cs)) cs
    | Option.none => .error .notUtf8
  | _ =>
    match value.text? with
    | some content => decimalOfText value content.toList
    | Option.none => .error (.notNumeric value)

/-- Whether a value counts as true: not nothing, not zero, not empty. -/
def isTrue : Value → Bool
  | none => false
  | bool truth => truth
  | int n => n != 0
  | text content => content != ""
  | bytes content => !content.isEmpty
  | double (.finite _ significand _) => significand != 0
  | decimal (.finite _ coefficient _) => coefficient != 0
  | list items => !items.isEmpty
  | tuple items => !items.isEmpty
  | map entries => !entries.isEmpty
  | span micros => micros != 0
  | range start stop step => Range.count start stop step != 0
  | _ => true

def characters (content : String) : List Value :=
  content.toList.map fun c => text (String.singleton c)

/-- The items of a sequence: characters of a text, numbers of bytes, keys of a map. -/
def iterate (value : Value) : Except Error (List Value) :=
  match value with
  | list items => .ok items
  | tuple items => .ok items
  | bytes content => .ok (content.map fun byte => int byte.toNat)
  | map entries => .ok (entries.map (·.1))
  | range start stop step => .ok ((Range.toList start stop step).map int)
  | _ =>
    match value.text? with
    | some content => .ok (characters content)
    | Option.none => .error (.wrongType "a sequence is needed")

/-- The two items of a pair. -/
def pair (value : Value) : Except Error (Value × Value) := do
  match ← iterate value with
  | [a, b] => .ok (a, b)
  | _ :: _ :: _ => .error (.tooMany 2)
  | items => .error (.tooFew 2 items.length)

/-- Bytes as the text that they encode, other values as they are. -/
def decoded (value : Value) : Except Error Value :=
  match value with
  | bytes content =>
    match Text.decodeUtf8 (content.map UInt8.toNat) with
    | some cs => .ok (text (String.ofList cs))
    | Option.none => .error .notUtf8
  | _ => .ok value

/-- Bytes as the text that they encode, other values in words. -/
def toText (value : Value) : Except Error String :=
  (decoded value).map render

/-- Whether a number is below a whole one; values that are no numbers have no order. -/
def isBelow (value : Value) (bound : Int) : Except Error Bool :=
  match value with
  | double .nan => .ok false
  | _ =>
    match value.number? with
    | some x => (x.less (Decimal.ofInt bound)).mapError .signal
    | Option.none => .error (.wrongType "a number is needed")

/-- A value as `equal` finds it, where a failure to compare is an error. -/
def sameAs (x y : Value) : Except Error Bool :=
  (x.equal y).mapError .signal

end CalendarSeries.Value
