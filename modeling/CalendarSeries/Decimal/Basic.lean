import CalendarSeries.Number.Rounding
/-!
Decimal numbers: a signed coefficient with an exponent of ten, the two infinities, and the quiet
and signalling values that are not a number. The exponent is part of the number, so `1.0` and `1`
are equal in value and yet different decimals. `Limits` bound the digits and exponents of results.
-/
namespace CalendarSeries

inductive Decimal where
  | finite (negative : Bool) (coefficient : Nat) (exponent : Int)
  | infinite (negative : Bool)
  | nan (negative signaling : Bool) (payload : Nat)
  deriving DecidableEq, Repr

namespace Decimal

/-- Why an operation gives no result. -/
inductive Signal where
  | invalidOperation
  | divisionByZero
  | overflow
  deriving DecidableEq, Repr

/-- The most digits of a result, and the greatest and least exponent of its first digit. -/
structure Limits where
  precision : Nat
  top : Int
  bottom : Int
  deriving DecidableEq, Repr

/-- The least exponent of a result's last digit. -/
def Limits.tiny (limits : Limits) : Int :=
  limits.bottom - (limits.precision - 1)

/-- The limits that all arithmetic keeps. -/
def working : Limits := ⟨28, 999999, -999999⟩

/-- The limits of what can be written down at all. -/
def widest : Limits := ⟨999999999999999999, 999999999999999999, -999999999999999999⟩

def zero : Decimal := .finite false 0 0

def one : Decimal := .finite false 1 0

/-- The quiet value that stands for a missing number. -/
def notANumber : Decimal := .nan false false 0

def ofInt (n : Int) : Decimal :=
  .finite (decide (n < 0)) n.natAbs 0

def isNaN : Decimal → Bool
  | .nan .. => true
  | _ => false

def isFinite : Decimal → Bool
  | .finite .. => true
  | _ => false

def isNegative : Decimal → Bool
  | .finite negative _ _ => negative
  | .infinite negative => negative
  | .nan negative _ _ => negative

/-- The exponent of the first digit of a coefficient. -/
def leadingExponent (coefficient : Nat) (exponent : Int) : Int :=
  exponent + Number.logTen coefficient

/-- The order of two positive numbers: first by the place of the first digit, then digit by
digit after writing both with the smaller exponent. -/
def comparePositive (a : Nat) (i : Int) (b : Nat) (j : Int) : Ordering :=
  match compare (leadingExponent a i) (leadingExponent b j) with
  | .eq => compare (a * Number.tenTo (i - j).toNat) (b * Number.tenTo (j - i).toNat)
  | decided => decided

/-- The order of two finite numbers by value; the zeros are equal whatever their sign. -/
def compareFinite (m : Bool) (a : Nat) (i : Int) (n : Bool) (b : Nat) (j : Int) : Ordering :=
  if a = 0 then (if b = 0 then .eq else if n then .gt else .lt)
  else if b = 0 then (if m then .lt else .gt)
  else match m, n with
    | false, true => .gt
    | true, false => .lt
    | false, false => comparePositive a i b j
    | true, true => comparePositive b j a i

/-- The order of two numbers; nothing if one of them is not a number. -/
def order? : Decimal → Decimal → Option Ordering
  | .nan .., _ => none
  | _, .nan .. => none
  | .infinite m, .infinite n => some (if m = n then .eq else if m then .lt else .gt)
  | .infinite m, .finite .. => some (if m then .lt else .gt)
  | .finite .., .infinite n => some (if n then .gt else .lt)
  | .finite m a i, .finite n b j => some (compareFinite m a i n b j)

def isSignaling : Decimal → Bool
  | .nan _ signaling _ => signaling
  | _ => false

/-- Equality by value: a quiet value that is no number differs from everything, a signalling one
cannot be compared. -/
def equal (x y : Decimal) : Except Signal Bool :=
  if x.isSignaling || y.isSignaling then .error .invalidOperation
  else .ok (x.order? y == some .eq)

/-- The strict order by value, of two numbers. -/
def less (x y : Decimal) : Except Signal Bool :=
  match x.order? y with
  | none => .error .invalidOperation
  | some decided => .ok (decided == .lt)

end Decimal

end CalendarSeries
