import CalendarSeries.Template.Basic
import CalendarSeries.Template.Layout
import CalendarSeries.Value.Conversion
/-!
Filling a template in: every field becomes the value of its name. A name may be followed by steps
into the value, an item in brackets or a part after a point.
-/
namespace CalendarSeries.Template

open CalendarSeries.Text

/-- Names with their values. -/
abbrev Names := List (String × Value)

def fault (fault : TemplateFault) : Except Error α :=
  .error (.template fault)

/-- The value of a key of digits, if it is one. -/
def position? (key : List Char) : Option Nat := do
  if key.isEmpty then none
  let digits ← key.mapM decimalValue
  some (digitsValue digits)

def itemAt (items : List Value) (index : Nat) : Except Error Value :=
  match items[index]? with
  | some item => .ok item
  | none => fault .missingPosition

def entryAt (entries : List (Value × Value)) (isKey : Value → Bool) (key : String) :
    Except Error Value :=
  match entries.find? (isKey ·.1) with
  | some (_, value) => .ok value
  | none => fault (.missingName key)

/-- The item of a value under a key in brackets. -/
def itemOf (value : Value) (key : List Char) : Except Error Value :=
  match position? key, value with
  | some index, .list items => itemAt items index
  | some index, .tuple items => itemAt items index
  | some index, .text content => itemAt (Value.characters content) index
  | some index, .map entries =>
    entryAt entries (fun found => found.integer? = some (index : Int)) (String.ofList key)
  | none, .map entries =>
    entryAt entries (fun found => found.text? = some (String.ofList key)) (String.ofList key)
  | _, _ => .error (.wrongType "an item in brackets needs a value with items")

/-- A way into a value: where it leads so far, and what is being gathered, in reverse. -/
inductive Way where
  | reached (value : Value)
  | item (value : Value) (gathered : List Char)
  | part (value : Value) (gathered : List Char)

namespace Way

/-- A value has no parts with names. -/
def part? (gathered : List Char) : Except Error α :=
  if gathered.isEmpty then fault .emptyStep
  else .error (.missingMethod (String.ofList gathered.reverse))

def step (way : Way) (c : Char) : Except Error Way :=
  match way with
  | .reached value =>
    match c with
    | '[' => .ok (.item value [])
    | '.' => .ok (.part value [])
    | _ => fault .strayStep
  | .item value gathered =>
    if c ≠ ']' then .ok (.item value (c :: gathered))
    else if gathered.isEmpty then fault .emptyStep
    else (itemOf value gathered.reverse).map .reached
  | .part value gathered =>
    if c = '[' ∨ c = '.' then part? gathered else .ok (.part value (c :: gathered))

def finish : Way → Except Error Value
  | .reached value => .ok value
  | .item .. => fault .openItem
  | .part _ gathered => part? gathered

end Way

def isStep (c : Char) : Bool :=
  c = '.' || c = '['

/-- The value of a field's name with its steps. There are no values by position. -/
def lookup (names : Names) (name : List Char) : Except Error Value := do
  let first := name.takeWhile (!isStep ·)
  if first.isEmpty || (position? first).isSome then fault .missingPosition
  match names.lookup (String.ofList first) with
  | none => fault (.missingName (String.ofList first))
  | some value => ((name.drop first.length).foldlM Way.step (.reached value)) >>= Way.finish

/-- A character that is not of ASCII as its number. -/
def asciiOnly (c : Char) : List Char :=
  if c.toNat < 0x80 then [c]
  else if c.toNat ≤ 0xFF then '\\' :: 'x' :: hexDigits 2 c.toNat
  else if c.toNat ≤ 0xFFFF then '\\' :: 'u' :: hexDigits 4 c.toNat
  else '\\' :: 'U' :: hexDigits 8 c.toNat

/-- A value after the conversion that a field asks for. -/
def convert (conversion : Option Char) (value : Value) : Except Error Value :=
  match conversion with
  | none => .ok value
  | some 's' => .ok (.text value.render)
  | some 'r' => .ok (.text value.literal)
  | some 'a' => .ok (.text (String.ofList (value.literal.toList.flatMap asciiOnly)))
  | some other => fault (.unknownConversion other)

def laid (result : Except LayoutFault (List Char)) : Except Error (List Char) :=
  result.mapError fun fault => .template (.layout fault)

/-- A whole number in one of the forms for fractions. -/
def writeRounded (layout : Layout) (n : Int) : Except Error (List Char) :=
  match Binary64.ofInt n with
  | .infinite _ => .error (.outOfRange .infiniteDouble)
  | x => laid (layout.writeFraction x)

/-- A value in a field with a layout. Only numbers and texts can be laid out. -/
def write (value : Value) (layout : List Char) : Except Error (List Char) := do
  if layout.isEmpty then return value.render.toList
  match value, value.integer?, value.text? with
  | .double x, _, _ => laid (Layout.read none layout >>= fun layout => layout.writeFraction x)
  | _, some n, _ =>
    let layout ← (Layout.read (some 'd') layout).mapError fun fault => .template (.layout fault)
    if layout.code.any Layout.isFraction then writeRounded layout n
    else laid (layout.writeInteger n)
  | _, _, some content =>
    laid (Layout.read (some 's') layout >>= fun layout => layout.writeText content.toList)
  | _, _, _ => .error (.wrongType "only numbers and texts have layouts")

/-- Fills in a template; the fields in its layouts may not have such fields themselves. -/
def fillWithin (names : Names) : Nat → List Char → Except Error (List Char)
  | 0, _ => fault .tooDeep
  | depth + 1, template => do
    let parts ← (pieces template).mapM fun
      | .plain text => .ok text
      | .broken cause => fault cause
      | .field name conversion layout => do
        let value ← lookup names name >>= convert conversion
        write value (← if '\x7b' ∈ layout then fillWithin names depth layout else .ok layout)
    .ok parts.flatten

/-- Fills in a template. -/
def fill (names : Names) (template : String) : Except Error String :=
  (fillWithin names 2 template.toList).map String.ofList

end CalendarSeries.Template
