import CalendarSeries.Decimal.Arithmetic
import CalendarSeries.Value.Conversion
/-!
Arithmetic on the values of samples. They are decimals as a rule; whole numbers join in, and
floating numbers only among their own kind.
-/
namespace CalendarSeries.Value

def decimalResult (result : Except Decimal.Signal Decimal) : Except Error Value :=
  match result with
  | .ok x => .ok (decimal x)
  | .error cause => .error (.signal cause)

def unfit (operation : String) : Except Error α :=
  .error (.wrongType ("unsupported operand for " ++ operation))

/-- The decimal of a decimal or a whole number. -/
def decimalLike? : Value → Option Decimal
  | decimal x => some x
  | value => value.integer?.map Decimal.ofInt

/-- A decimal plus a value. -/
def addTo (total : Decimal) (value : Value) : Except Error Decimal :=
  match value.decimalLike? with
  | some x => (total.add x).mapError .signal
  | Option.none => unfit "+"

/-- The sum of values, from zero on. -/
def sumOf (values : List Value) : Except Error Decimal :=
  values.foldlM addTo Decimal.zero

def double? : Value → Option Binary64
  | double x => some x
  | value => value.integer?.map Binary64.ofInt

/-- Twice a value; a text or a sequence is repeated. -/
def twice (value : Value) : Except Error Value :=
  match value with
  | decimal x => decimalResult (x.mul (Decimal.ofInt 2))
  | double x => .ok (double (x.timesNat 2))
  | bytes content => .ok (bytes (content ++ content))
  | list items => .ok (list (items ++ items))
  | tuple items => .ok (tuple (items ++ items))
  | span micros => .ok (span (2 * micros))
  | _ =>
    match value.integer?, value.text? with
    | some n, _ => .ok (int (2 * n))
    | _, some content => .ok (text (content ++ content))
    | _, _ => unfit "*"

/-- The difference of two numbers of one kind, a whole number being of any kind. -/
def minus (x y : Value) : Except Error Value :=
  match x.integer?, y.integer? with
  | some a, some b => .ok (int (a - b))
  | _, _ =>
    match x.decimalLike?, y.decimalLike? with
    | some a, some b => decimalResult (a.sub b)
    | _, _ =>
      match x.double?, y.double? with
      | some a, some b => .ok (double (a.sub b))
      | _, _ => unfit "-"

/-- Whether two texts are in order, character by character. -/
def lessText : List Char → List Char → Bool
  | _, [] => false
  | [], _ => true
  | a :: as, b :: bs => if a = b then lessText as bs else a < b

/-- Whether two values that hold no others are in order. -/
def lessSimple (x y : Value) : Except Error Bool :=
  match x.number?, y.number? with
  | some a, some b => (a.less b).mapError .signal
  | _, _ =>
    match x.text?, y.text? with
    | some a, some b => .ok (lessText a.toList b.toList)
    | _, _ =>
      match x, y with
      | bytes a, bytes b => .ok (decide (a.map UInt8.toNat < b.map UInt8.toNat))
      | date a, date b => .ok (decide (a.toDays < b.toDays))
      | span a, span b => .ok (decide (a < b))
      | _, _ => unfit "<"

mutual

/-- Whether a value is less than another of a kind with an order. -/
def less : Value → Value → Except Error Bool
  | list xs, list ys => lessItems xs ys
  | tuple xs, tuple ys => lessItems xs ys
  | x, y => lessSimple x y

/-- Sequences have the order of the first items that differ, or else of their lengths. -/
def lessItems : List Value → List Value → Except Error Bool
  | [], ys => .ok (!ys.isEmpty)
  | _ :: _, [] => .ok false
  | x :: xs, y :: ys => do if ← sameAs x y then lessItems xs ys else less x y

end

/-- The first of the least values, `before` being the order. -/
def extreme (before : Value → Value → Except Error Bool) :
    Value → List Value → Except Error Value
  | found, [] => .ok found
  | found, value :: values => do
    if ← before value found then extreme before value values else extreme before found values

/-- A value times a decimal. -/
def times (factor : Decimal) (value : Value) : Except Error Value :=
  match value.decimalLike? with
  | some x => decimalResult (x.mul factor)
  | Option.none => unfit "*"

/-- A value divided by a decimal. -/
def dividedBy (factor : Decimal) (value : Value) : Except Error Value :=
  match value.decimalLike? with
  | some x => decimalResult (x.div factor)
  | Option.none => unfit "/"

/-- A decimal rounded to the places of `exponent`. -/
def roundTo (exponent : Int) (value : Value) : Except Error Value :=
  match value with
  | decimal x => decimalResult (x.quantize exponent)
  | _ => .error (.missingMethod "only a decimal can be rounded")

/-- Whether a number is above zero. -/
def isPositive (value : Value) : Except Error Bool :=
  match value.number? with
  | some x => (Decimal.zero.less x).mapError .signal
  | Option.none => unfit ">"

/-- A number with the other sign. -/
def opposite (value : Value) : Except Error Value :=
  match value with
  | decimal x => decimalResult x.neg
  | double x => .ok (double x.neg)
  | span micros => .ok (span (-micros))
  | _ =>
    match value.integer? with
    | some n => .ok (int (-n))
    | Option.none => unfit "-"

end CalendarSeries.Value
