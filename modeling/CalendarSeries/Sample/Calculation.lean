import CalendarSeries.Sample.Basic
import CalendarSeries.Sample.Number
/-!
Calculations on sequences of samples: reductions, which leave one value of each merged sample, and
transforms, which change every value by itself. Elements are changed from the first on; one that
cannot be changed stops the calculation, and those before it stay changed.
-/
namespace CalendarSeries

/-- The elements after a calculation, and the error that stopped it, if any. -/
structure Outcome where
  samples : Samples
  error : Option Error

/-- Changes elements up to the first that cannot be changed. -/
def changeEach (change : Element → Except Error Element) :
    List Element → List Element × Option Error
  | [] => ([], none)
  | element :: elements =>
    match change element with
    | .error error => (element :: elements, some error)
    | .ok changed =>
      let (rest, error) := changeEach change elements
      (changed :: rest, error)

namespace Samples

def changed (change : Element → Except Error Element) (samples : Samples) : Outcome :=
  let (elements, error) := changeEach change samples.elements
  ⟨{ samples with elements := elements }, error⟩

end Samples

/-- How the values of a merged sample become one. -/
inductive Reduction where
  | sum
  | average
  | subtract
  | minimum
  | maximum
  deriving DecidableEq, Repr

namespace Reduction

def word : Reduction → String
  | sum => "sum"
  | average => "avg"
  | subtract => "subtract"
  | minimum => "min"
  | maximum => "max"

def all : List Reduction :=
  [sum, average, subtract, minimum, maximum]

def ofWord? (text : String) : Option Reduction :=
  all.find? (·.word == text)

/-- Whether values that are not numbers are passed over. -/
def skipsNaN : Reduction → Bool
  | minimum => true
  | maximum => true
  | _ => false

/-- Twice the first value less all the others. -/
def subtraction (first : Value) (rest : List Value) : Except Error Value := do
  rest.foldlM Value.minus (← first.twice)

/-- The value that is left of `first` and `rest`. -/
def apply (reduction : Reduction) (first : Value) (rest : List Value) : Except Error Value :=
  match reduction with
  | sum => do
    let zeroed := (first :: rest).map fun value =>
      if value.isNaN then .decimal Decimal.zero else value
    .ok (.decimal (← Value.sumOf zeroed))
  | average => do
    let total ← Value.sumOf (first :: rest)
    Value.decimalResult (total.div (Decimal.ofInt (rest.length + 1)))
  | subtract => subtraction first rest
  | minimum => Value.extreme Value.less first rest
  | maximum => Value.extreme (fun x y => y.less x) first rest

end Reduction

/-- What holds a value after a reduction; a list can be reduced again. -/
def Entry.ofValue : Value → Entry
  | .list values => .pending values
  | value => .reduced value

namespace Element

def isPending : Element → Bool
  | merged _ (.pending _) => true
  | _ => false

/-- Reduces a merged sample, unless no values are left to do it with. -/
def reduce (reduction : Reduction) (element : Element) : Except Error Element :=
  match element with
  | merged stamp (.pending values) =>
    match if reduction.skipsNaN then values.filter (!·.isNaN) else values with
    | [] => .ok element
    | first :: rest => (reduction.apply first rest).map fun value => merged stamp (.ofValue value)
  | _ => .error (.notMerged element.literal)

end Element

namespace Samples

/-- Reduces every element; first each of them has to hold a list of values. -/
def reduce (reduction : Reduction) (samples : Samples) : Outcome :=
  match samples.elements.find? (!·.isPending) with
  | some element => ⟨samples, some (.notMerged element.literal)⟩
  | none => samples.changed (Element.reduce reduction)

end Samples

/-- How each value changes by itself. -/
inductive Transform where
  | multiply (factor : Decimal)
  | divide (factor : Decimal)
  | round (exponent : Int)
  | replaceNaN (replacement : Decimal)
  | dropNegative
  | flipSign
  deriving DecidableEq, Repr

namespace Transform

/-- Only the replacement of what is not a number concerns values that are none. -/
def concernsNaN : Transform → Bool
  | replaceNaN _ => true
  | _ => false

def change (transform : Transform) (value : Value) : Except Error Value :=
  match transform with
  | multiply factor => value.times factor
  | divide factor => value.dividedBy factor
  | round exponent => value.roundTo exponent
  | replaceNaN replacement => .ok (.decimal replacement)
  | dropNegative => do if ← value.isPositive then .ok value else .ok (.decimal Decimal.zero)
  | flipSign => value.opposite

def apply (transform : Transform) (value : Value) : Except Error Value :=
  if value.isNaN = transform.concernsNaN then transform.change value else .ok value

def multiplication (factor : Value) : Except Error Transform :=
  factor.toDecimal.map multiply

def division (factor : Value) : Except Error Transform := do
  let factor ← factor.toDecimal
  match factor.equal Decimal.zero with
  | .error cause => .error (.signal cause)
  | .ok true => .error .zeroDivisor
  | .ok false => .ok (divide factor)

/-- Rounding to a number of places; a negative number rounds to tens and more. -/
def rounding (places : Int) : Except Error Transform :=
  match Decimal.powerOfTen (-places) with
  | .ok (.finite _ _ exponent) => .ok (round exponent)
  | .ok _ => .error (.signal .invalidOperation)
  | .error cause => .error (.signal cause)

/-- Rounding to a number of places that is given as a value. -/
def roundingOf (places : Value) : Except Error Transform :=
  match places with
  | .decimal (.finite negative coefficient 0) =>
    rounding (Whole.signed negative coefficient)
  | .decimal _ => .error (.signal .invalidOperation)
  | _ =>
    match places.integer? with
    | some n => rounding n
    | none => .error (.wrongType "a number of places is a whole number")

def replacement (value : Value) : Except Error Transform :=
  value.toDecimal.map replaceNaN

end Transform

namespace Element

def transform (transform : Transform) (element : Element) : Except Error Element :=
  match element with
  | failure error => .ok (failure error)
  | sample stamp value => (transform.apply value).map (sample stamp)
  | merged stamp (.reduced value) =>
    (transform.apply value).map fun value => merged stamp (.reduced value)
  | merged stamp (.pending values) =>
    (values.mapM transform.apply).map fun values => merged stamp (.pending values)

end Element

namespace Samples

def transform (transform : Transform) (samples : Samples) : Outcome :=
  samples.changed (Element.transform transform)

end Samples

end CalendarSeries
