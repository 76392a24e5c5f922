import CalendarSeries.Decimal.Basic
import CalendarSeries.Number.Whole
/-!
Decimals as text. `read` takes every decimal exactly as written, `render` writes one so that it
reads back the same, with an exponent where it has to, and `plain` writes one with digits and at
most a point.
-/
namespace CalendarSeries.Decimal

open CalendarSeries.Text

/-- Digits with at most one point among them: the digits' values, and how many follow the point. -/
def readCoefficient (cs : List Char) : Option (List Nat × Nat) :=
  match splitFirst '.' cs with
  | none => do
    let digits ← cs.mapM decimalValue
    if digits.isEmpty then none else some (digits, 0)
  | some (before, after) => do
    let whole ← before.mapM decimalValue
    let fraction ← after.mapM decimalValue
    if whole.isEmpty && fraction.isEmpty then none else some (whole ++ fraction, fraction.length)

/-- An exponent: an optional sign and at least one digit. -/
def readExponent (cs : List Char) : Option Int := do
  let (negative, body) := Whole.splitSign cs
  let digits ← body.mapM decimalValue
  if digits.isEmpty then none else some (Whole.signed negative (digitsValue digits))

/-- Whether a finite number can be held without losing a digit. -/
def holdsExactly (coefficient : Nat) (exponent : Int) : Bool :=
  widest.tiny ≤ exponent && leadingExponent coefficient exponent ≤ widest.top

def readFinite (negative : Bool) (cs : List Char) : Option Decimal := do
  let (digits, places, exponent) ←
    match splitFirst 'e' cs with
    | none => do
      let (digits, places) ← readCoefficient cs
      some (digits, places, (0 : Int))
    | some (mantissa, power) => do
      let (digits, places) ← readCoefficient mantissa
      some (digits, places, ← readExponent power)
  let coefficient := digitsValue digits
  let exponent := exponent - places
  if holdsExactly coefficient exponent then some (.finite negative coefficient exponent) else none

/-- The payload after the name of a value that is not a number: any digits, or none. -/
def readPayload (cs : List Char) : Option Nat :=
  (cs.mapM decimalValue).map digitsValue

/-- A number without its sign, in lower case. -/
def readUnsigned (negative : Bool) (cs : List Char) : Option Decimal :=
  match cs with
  | 'n' :: 'a' :: 'n' :: payload => (readPayload payload).map (.nan negative false)
  | 's' :: 'n' :: 'a' :: 'n' :: payload => (readPayload payload).map (.nan negative true)
  | _ =>
    if cs = "inf".toList || cs = "infinity".toList then some (.infinite negative)
    else readFinite negative cs

/-- Reads a decimal exactly: blanks around it and underscores anywhere do not count, letters may
have either case and digits any script. -/
def read (cs : List Char) : Option Decimal :=
  let (negative, body) := Whole.splitSign ((strip cs).filter (· != '_'))
  readUnsigned negative (body.map Char.toLower)

def signText (negative : Bool) : List Char :=
  if negative then ['-'] else []

/-- An exponent mark with its sign always written. -/
def exponentText (exponent : Int) : List Char :=
  'E' :: (if exponent < 0 then '-' else '+') :: Nat.toDigits 10 exponent.natAbs

/-- `digits` with a point before the last `places` of them, zeros filling up on the left. -/
def withPoint (digits : List Char) (places : Nat) : List Char :=
  if places = 0 then digits
  else
    let filled := List.replicate (places + 1 - digits.length) '0' ++ digits
    filled.take (filled.length - places) ++ '.' :: filled.drop (filled.length - places)

/-- A coefficient and exponent: positional if the exponent is not positive and the number not
below `0.000001`, else with one digit before the point and an exponent mark. -/
def finiteText (coefficient : Nat) (exponent : Int) : List Char :=
  let digits := Nat.toDigits 10 coefficient
  let leading := exponent + digits.length - 1
  if exponent ≤ 0 && -6 ≤ leading then withPoint digits exponent.natAbs
  else withPoint digits (digits.length - 1) ++ exponentText leading

def nanText (signaling : Bool) (payload : Nat) : List Char :=
  (if signaling then "sNaN".toList else "NaN".toList) ++
    if payload = 0 then [] else Nat.toDigits 10 payload

def renderChars : Decimal → List Char
  | .finite negative coefficient exponent => signText negative ++ finiteText coefficient exponent
  | .infinite negative => signText negative ++ "Infinity".toList
  | .nan negative signaling payload => signText negative ++ nanText signaling payload

def render (x : Decimal) : String :=
  String.ofList x.renderChars

/-- Digits and at most a point: a positive exponent is written out as zeros. -/
def plainChars : Decimal → List Char
  | .finite negative coefficient exponent =>
    signText negative ++
      if exponent ≤ 0 then withPoint (Nat.toDigits 10 coefficient) exponent.natAbs
      else if coefficient = 0 then ['0']
      else Nat.toDigits 10 coefficient ++ List.replicate exponent.natAbs '0'
  | other => renderChars other

def plain (x : Decimal) : String :=
  String.ofList x.plainChars

/-- The whole part of a finite number. -/
def truncate (negative : Bool) (coefficient : Nat) (exponent : Int) : Int :=
  Whole.signed negative
    (if 0 ≤ exponent then coefficient * Number.tenTo exponent.toNat
    else if Number.digitCount coefficient ≤ exponent.natAbs then 0
    else coefficient / Number.tenTo exponent.natAbs)

end CalendarSeries.Decimal
