import CalendarSeries.Decimal.Basic
/-!
Decimal arithmetic. Each operation gives the exact result rounded to the working limits, a half
going to the even neighbour; trailing zeros tell which places the operands had. A result above the
limits, a meaningless operation and a division by zero signal; one below the limits is rounded to
the least exponent.
-/
namespace CalendarSeries.Decimal

open CalendarSeries.Number

/-- A finite number rounded to `limits`. -/
def fit (limits : Limits) (negative : Bool) (coefficient : Nat) (exponent : Int) :
    Except Signal Decimal :=
  if coefficient = 0 then
    .ok (.finite negative 0 (max limits.tiny (min limits.top exponent)))
  else
    let digits := digitCount coefficient
    if limits.top < exponent + digits - 1 then .error .overflow
    else
      let least := max limits.tiny (exponent + digits - limits.precision)
      if least ≤ exponent then .ok (.finite negative coefficient exponent)
      else
        let rounded := dropDigits .toEven coefficient (least - exponent).toNat
        let (rounded, least) :=
          if rounded = Number.tenTo limits.precision then (rounded / 10, least + 1)
          else (rounded, least)
        if limits.top < least + digitCount rounded - 1 then .error .overflow
        else .ok (.finite negative rounded least)

/-- A value that is not a number as a result: a signalling one signals, a quiet one passes on
with as much of its payload as has room. -/
def passNaN (limits : Limits) : Decimal → Except Signal Decimal
  | .nan negative false payload =>
    .ok (.nan negative false (payload % Number.tenTo limits.precision))
  | .nan .. => .error .invalidOperation
  | other => .ok other

/-- The operand that decides the result of an operation on a value that is not a number. -/
def nanOperand (x y : Decimal) : Option Decimal :=
  if x.isSignaling then some x
  else if y.isSignaling then some y
  else if x.isNaN then some x
  else if y.isNaN then some y
  else none

/-- Both coefficients at the smaller exponent. A summand too small to show is first replaced by
one unit in a place where it still cannot show. -/
def align (precision : Nat) (a : Nat) (i : Int) (b : Nat) (j : Int) : Nat × Nat × Int :=
  if i < j then
    let floor := j + min (-1) ((digitCount b : Int) - precision - 2)
    let (a, i) := if i + digitCount a - 1 < floor then (1, floor) else (a, i)
    (a, b * Number.tenTo (j - i).toNat, i)
  else
    let floor := i + min (-1) ((digitCount a : Int) - precision - 2)
    let (b, j) := if j + digitCount b - 1 < floor then (1, floor) else (b, j)
    (a * Number.tenTo (i - j).toNat, b, j)

/-- The sum of a zero with exponent `i` and the number `b` at `j`: the number with as many of the
zero's places as can show. -/
def addToZero (limits : Limits) (i : Int) (n : Bool) (b : Nat) (j : Int) :
    Except Signal Decimal :=
  let exponent := max (min i j) (j - limits.precision - 1)
  fit limits n (b * Number.tenTo (j - exponent).toNat) exponent

def addFinite (limits : Limits) (m : Bool) (a : Nat) (i : Int) (n : Bool) (b : Nat) (j : Int) :
    Except Signal Decimal :=
  if a = 0 ∧ b = 0 then fit limits (m && n) 0 (min i j)
  else if a = 0 then addToZero limits i n b j
  else if b = 0 then addToZero limits j m a i
  else
    let (a, b, exponent) := align limits.precision a i b j
    if m = n then fit limits m (a + b) exponent
    else if a = b then fit limits false 0 (min i j)
    else if b < a then fit limits m (a - b) exponent
    else fit limits n (b - a) exponent

def add (x y : Decimal) : Except Signal Decimal :=
  match nanOperand x y with
  | some operand => passNaN working operand
  | none =>
    match x, y with
    | .infinite m, .infinite n =>
      if m = n then .ok (.infinite m) else .error .invalidOperation
    | .infinite m, _ => .ok (.infinite m)
    | _, .infinite n => .ok (.infinite n)
    | .finite m a i, .finite n b j => addFinite working m a i n b j
    | _, _ => .error .invalidOperation

/-- The number with the other sign, unrounded. -/
def flip : Decimal → Decimal
  | .finite negative coefficient exponent => .finite (!negative) coefficient exponent
  | .infinite negative => .infinite (!negative)
  | other => other

def sub (x y : Decimal) : Except Signal Decimal :=
  match nanOperand x y with
  | some operand => passNaN working operand
  | none => add x y.flip

def mul (x y : Decimal) : Except Signal Decimal :=
  match nanOperand x y with
  | some operand => passNaN working operand
  | none =>
    match x, y with
    | .finite m a i, .finite n b j => fit working (xor m n) (a * b) (i + j)
    | .infinite m, .infinite n => .ok (.infinite (xor m n))
    | .infinite m, .finite n b _ =>
      if b = 0 then .error .invalidOperation else .ok (.infinite (xor m n))
    | .finite m a _, .infinite n =>
      if a = 0 then .error .invalidOperation else .ok (.infinite (xor m n))
    | _, _ => .error .invalidOperation

/-- The quotient of two positive numbers: one digit more than the precision, the last one moved
off a tie if the division is not exact; an exact quotient loses the zeros it does not need. -/
def divPositive (limits : Limits) (negative : Bool) (a : Nat) (i : Int) (b : Nat) (j : Int) :
    Except Signal Decimal :=
  let shift : Int := (digitCount b : Int) - digitCount a + limits.precision + 1
  let dividend := a * Number.tenTo shift.toNat
  let divisor := b * Number.tenTo (-shift).toNat
  let quotient := dividend / divisor
  let exponent := i - j - shift
  if dividend % divisor = 0 then
    let (quotient, dropped) := dropZeros shift.toNat quotient
    fit limits negative quotient (exponent + dropped)
  else
    fit limits negative (if quotient % 5 = 0 then quotient + 1 else quotient) exponent

def div (x y : Decimal) : Except Signal Decimal :=
  match nanOperand x y with
  | some operand => passNaN working operand
  | none =>
    match x, y with
    | .infinite _, .infinite _ => .error .invalidOperation
    | .infinite m, .finite n _ _ => .ok (.infinite (xor m n))
    | .finite m _ _, .infinite n => .ok (.finite (xor m n) 0 working.tiny)
    | .finite m a i, .finite n b j =>
      if b = 0 then .error (if a = 0 then .invalidOperation else .divisionByZero)
      else if a = 0 then fit working (xor m n) 0 (i - j)
      else divPositive working (xor m n) a i b j
    | _, _ => .error .invalidOperation

/-- The number with the other sign, rounded; a zero always comes out positive. -/
def neg : Decimal → Except Signal Decimal
  | .finite negative coefficient exponent =>
    fit working (if coefficient = 0 then false else !negative) coefficient exponent
  | .infinite negative => .ok (.infinite (!negative))
  | other => passNaN working other

/-- The number of the form `k · 10 ^ exponent` nearest to `x`, a half going away from zero; it
must not need more digits than the precision. -/
def quantize (x : Decimal) (exponent : Int) : Except Signal Decimal :=
  match x with
  | .nan .. => passNaN working x
  | .infinite _ => .error .invalidOperation
  | .finite negative coefficient own =>
    if working.top < exponent || exponent < working.tiny then .error .invalidOperation
    else if coefficient = 0 then .ok (.finite negative 0 exponent)
    else if (working.precision : Int) < digitCount coefficient + (own - exponent) then
      .error .invalidOperation
    else
      let rounded :=
        if exponent ≤ own then coefficient * Number.tenTo (own - exponent).toNat
        else dropDigits .away coefficient (exponent - own).toNat
      if rounded ≠ 0 ∧ (working.precision < digitCount rounded ∨
          working.top < exponent + digitCount rounded - 1) then .error .invalidOperation
      else .ok (.finite negative rounded exponent)

/-- `10 ^ places` as a decimal; beyond the reach of the limits it signals, below them it is a
zero with the least exponent. -/
def powerOfTen (places : Int) : Except Signal Decimal :=
  if 2 * (working.top + working.precision) < places.natAbs then .error .invalidOperation
  else fit working false 1 places

end CalendarSeries.Decimal
