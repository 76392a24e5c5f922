import CalendarSeries.Number.Rounding
/-!
Binary floating point numbers of 64 bits, as exact values: a sign, a significand below `2 ^ 53` and
an exponent of two. Every operation is the exact rational result rounded once to the nearest such
number, a half going to the even significand; what is too large becomes an infinity.
-/
namespace CalendarSeries

/-- A finite number is `significand · 2 ^ exponent`. -/
inductive Binary64 where
  | finite (negative : Bool) (significand : Nat) (exponent : Int)
  | infinite (negative : Bool)
  | nan
  deriving DecidableEq, Repr

namespace Binary64

/-- The exponent of the smallest positive number. -/
def leastExponent : Int := -1074

/-- The exponent of the largest finite numbers. -/
def greatestExponent : Int := 971

/-- The least significand of numbers that have all their digits. -/
def leastNormal : Nat := Nat.pow 2 52

def zero : Binary64 := .finite false 0 leastExponent

/-- `2 ^ n` for a negative `n` is a power of the divisor. -/
def scaleUp (n : Int) : Nat := Nat.pow 2 n.toNat

/-- The greatest `e` with `2 ^ e ≤ dividend / divisor`, for a positive quotient. -/
def logTwo (dividend divisor : Nat) : Int :=
  let guess : Int := (dividend.log2 : Int) - divisor.log2
  if dividend * scaleUp (-guess) < divisor * scaleUp guess then guess - 1 else guess

/-- The number nearest to `dividend / divisor`. -/
def ofRatio (negative : Bool) (dividend divisor : Nat) : Binary64 :=
  if dividend = 0 then .finite negative 0 leastExponent
  else
    let exponent := max leastExponent (logTwo dividend divisor - 52)
    let significand :=
      Number.nearest .toEven (dividend * scaleUp (-exponent)) (divisor * scaleUp exponent)
    let (significand, exponent) :=
      if significand = 2 * leastNormal then (leastNormal, exponent + 1)
      else (significand, exponent)
    if greatestExponent < exponent then .infinite negative
    else .finite negative significand exponent

def ofInt (n : Int) : Binary64 :=
  ofRatio (decide (n < 0)) n.natAbs 1

/-- The quotient of two whole numbers; the divisor is positive. -/
def ofQuotient (n : Int) (divisor : Nat) : Binary64 :=
  ofRatio (decide (n < 0)) n.natAbs divisor

/-- A finite number's magnitude as a fraction. -/
def fraction (significand : Nat) (exponent : Int) : Nat × Nat :=
  (significand * scaleUp exponent, scaleUp (-exponent))

/-- A number times a whole number. -/
def timesNat (factor : Nat) : Binary64 → Binary64
  | .finite negative significand exponent =>
    let (dividend, divisor) := fraction significand exponent
    ofRatio negative (dividend * factor) divisor
  | other => other

def neg : Binary64 → Binary64
  | .finite negative significand exponent => .finite (!negative) significand exponent
  | .infinite negative => .infinite (!negative)
  | .nan => .nan

def signedValue (negative : Bool) (n : Nat) : Int :=
  if negative then -(n : Int) else n

def add (x y : Binary64) : Binary64 :=
  match x, y with
  | .nan, _ => .nan
  | _, .nan => .nan
  | .infinite m, .infinite n => if m = n then .infinite m else .nan
  | .infinite m, _ => .infinite m
  | _, .infinite n => .infinite n
  | .finite m a i, .finite n b j =>
    let exponent := min i j
    let sum := signedValue m (a * scaleUp (i - exponent)) +
      signedValue n (b * scaleUp (j - exponent))
    if sum = 0 then .finite (m && n) 0 leastExponent
    else ofRatio (decide (sum < 0)) (sum.natAbs * scaleUp exponent) (scaleUp (-exponent))

def sub (x y : Binary64) : Binary64 :=
  add x y.neg

/-- The whole part of a finite number. -/
def truncate (negative : Bool) (significand : Nat) (exponent : Int) : Int :=
  let (dividend, divisor) := fraction significand exponent
  signedValue negative (dividend / divisor)

def isNaN : Binary64 → Bool
  | .nan => true
  | _ => false

end Binary64

end CalendarSeries
