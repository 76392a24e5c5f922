import CalendarSeries.Binary64.Basic
import CalendarSeries.Number.Whole
/-!
Binary numbers as text. `render` writes the fewest digits that read back as the same number, the
nearest such digits; `read` rounds a decimal text to the nearest number; `general` writes a given
number of significant digits without trailing zeros.
-/
namespace CalendarSeries.Binary64

open CalendarSeries.Text

/-- The greatest `e` with `10 ^ e ≤ dividend / divisor`, for a positive quotient. -/
def logTenRatio (dividend divisor : Nat) : Int :=
  let guess : Int := (Number.logTen dividend : Int) - Number.logTen divisor
  if dividend * Number.tenTo (-guess).toNat < divisor * Number.tenTo guess.toNat then guess - 1
  else guess

/-- The magnitudes that round to `significand · 2 ^ exponent`, in quarters of its last place:
the lower end, the number itself and the upper end. -/
def neighbourhood (significand : Nat) (exponent : Int) : Nat × Nat × Nat :=
  let below := if significand = leastNormal ∧ leastExponent < exponent then 1 else 2
  (4 * significand - below, 4 * significand, 4 * significand + 2)

/-- Of two grid points that both lie near enough, the nearer one, and the even one of a tie. -/
def nearerPoint (value low step : Nat) : Nat :=
  match compare (2 * value) ((2 * low + 1) * step) with
  | .lt => low
  | .gt => low + 1
  | .eq => if low % 2 = 0 then low else low + 1

/-- The grid point beside a number that lies in its neighbourhood. All are given as multiples of
one small unit. -/
def pickNear (inside : Nat → Bool) (value low step : Nat) : Option Nat :=
  let high := low + 1
  match inside (low * step), inside (high * step) with
  | true, true => some (nearerPoint value low step)
  | true, false => some low
  | false, true => some high
  | false, false => none

/-- Tries grids of ever more digits; the digits found and the exponent of the last of them. -/
def shortestFrom (significand : Nat) (exponent : Int) (leading : Int) :
    Nat → Nat → Nat × Int
  | 0, _ => (0, 0)
  | fuel + 1, digits =>
    let (least, value, most) := neighbourhood significand exponent
    let place := leading - digits + 1
    let unit := scaleUp (exponent - 2) * Number.tenTo (-place).toNat
    let step := scaleUp (2 - exponent) * Number.tenTo place.toNat
    let inside (n : Nat) : Bool :=
      if significand % 2 = 0 then least * unit ≤ n && n ≤ most * unit
      else least * unit < n && n < most * unit
    match pickNear inside (value * unit) (value * unit / step) step with
    | some found => (found, place)
    | none => shortestFrom significand exponent leading fuel (digits + 1)

/-- The shortest digits of a positive number and the exponent of the last digit; seventeen digits
always suffice. -/
def shortest (significand : Nat) (exponent : Int) : Nat × Int :=
  let (dividend, divisor) := fraction significand exponent
  shortestFrom significand exponent (logTenRatio dividend divisor) 17 1

/-- An exponent mark with a sign and at least two digits. -/
def exponentText (exponent : Int) : List Char :=
  'e' :: (if exponent < 0 then '-' else '+') :: padded 2 exponent.natAbs

/-- Digits with the point after the first `whole` of them, zeros filling up on either side. -/
def placePoint (digits : List Char) (whole : Int) : List Char × List Char :=
  if whole ≤ 0 then (['0'], List.replicate whole.natAbs '0' ++ digits)
  else
    let count := whole.toNat
    (digits.take count ++ List.replicate (count - digits.length) '0', digits.drop count)

/-- Digits with one before the point and an exponent mark. -/
def scientific (digits : List Char) (leading : Int) : List Char :=
  (match digits with
    | [] => ['0']
    | [digit] => [digit]
    | digit :: rest => digit :: '.' :: rest) ++ exponentText leading

/-- The text of a number's digits: positional from `0.0001` up to below `10 ^ 16`, with at least
one digit on either side of the point. -/
def positional (digits : List Char) (leading : Int) : List Char :=
  if -4 ≤ leading && leading < 16 then
    let (whole, rest) := placePoint digits (leading + 1)
    whole ++ '.' :: (if rest.isEmpty then ['0'] else rest)
  else scientific digits leading

def signText (negative : Bool) : List Char :=
  if negative then ['-'] else []

def renderChars : Binary64 → List Char
  | .nan => "nan".toList
  | .infinite negative => signText negative ++ "inf".toList
  | .finite negative 0 _ => signText negative ++ "0.0".toList
  | .finite negative significand exponent =>
    let (found, place) := shortest significand exponent
    let (found, dropped) := Number.dropZeros 17 found
    let digits := Nat.toDigits 10 found
    signText negative ++ positional digits (place + dropped + digits.length - 1)

def render (x : Binary64) : String :=
  String.ofList x.renderChars

/-- A number with `precision` significant digits and no trailing zeros; an exponent mark below
`0.0001` and from `10 ^ precision` on. -/
def generalChars (precision : Nat) : Binary64 → List Char
  | .nan => "nan".toList
  | .infinite negative => signText negative ++ "inf".toList
  | .finite negative significand exponent =>
    if significand = 0 then signText negative ++ ['0']
    else
      let (dividend, divisor) := fraction significand exponent
      let leading := logTenRatio dividend divisor
      let place := leading - precision + 1
      let rounded := Number.nearest .toEven (dividend * Number.tenTo (-place).toNat)
        (divisor * Number.tenTo place.toNat)
      let leading := if rounded = Number.tenTo precision then leading + 1 else leading
      let digits := Nat.toDigits 10 (Number.dropZeros (precision + 1) rounded).1
      signText negative ++
        if -4 ≤ leading && leading < precision then
          let (whole, rest) := placePoint digits (leading + 1)
          if rest.isEmpty then whole else whole ++ '.' :: rest
        else scientific digits leading

def general (precision : Nat) (x : Binary64) : String :=
  String.ofList (x.generalChars precision)

/-- Digits grouped by single underscores; no digits at all are allowed. -/
def readDigits (cs : List Char) : Option (List Nat) :=
  if cs.isEmpty then some [] else Whole.groupedDigits decimalValue cs

/-- The mantissa and exponent of a decimal text. -/
def readMantissa (cs : List Char) : Option (Nat × Int) := do
  let (whole, rest) ← match splitFirst '.' cs with
    | none => some (← readDigits cs, [])
    | some (before, after) => some (← readDigits before, ← readDigits after)
  if whole.isEmpty && rest.isEmpty then none
  else some (digitsValue (whole ++ rest), -(rest.length : Int))

def readScaled (cs : List Char) : Option (Nat × Int) :=
  match splitFirst 'e' cs with
  | none => readMantissa cs
  | some (mantissa, power) => do
    let (digits, place) ← readMantissa mantissa
    let (negative, body) := Whole.splitSign power
    let power ← Whole.groupedDigits decimalValue body
    some (digits, place + Whole.signed negative (digitsValue power))

/-- The number nearest to `digits · 10 ^ place`. Far outside the range of the format the exact
value is not needed. -/
def ofDecimal (negative : Bool) (digits : Nat) (place : Int) : Binary64 :=
  if digits = 0 then .finite negative 0 leastExponent
  else
    let leading := place + Number.logTen digits
    if 400 < leading then .infinite negative
    else if leading < -400 then .finite negative 0 leastExponent
    else ofRatio negative (digits * Number.tenTo place.toNat) (Number.tenTo (-place).toNat)

/-- Reads a number: blanks around it, a sign, then digits with a point or an exponent, or the
name of an infinity or of the value that is not a number, in either case. -/
def read (cs : List Char) : Option Binary64 :=
  let (negative, body) := Whole.splitSign (trimBoth isNumberBlank cs)
  let body := body.map Char.toLower
  if body = "inf".toList || body = "infinity".toList then some (.infinite negative)
  else if body = "nan".toList then some .nan
  else (readScaled body).map fun (digits, place) => ofDecimal negative digits place

end CalendarSeries.Binary64
