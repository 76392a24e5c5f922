import CalendarSeries.Binary64.Text
/-!
Binary numbers with a given number of places after the point, in positional and in scientific
form. The exact value is rounded once, a half going to the even digit.
-/
namespace CalendarSeries.Binary64

def isNegative : Binary64 → Bool
  | .finite negative .. => negative
  | .infinite negative => negative
  | .nan => false

/-- A number without its sign. -/
def magnitude : Binary64 → Binary64
  | .finite _ significand exponent => .finite false significand exponent
  | .infinite _ => .infinite false
  | .nan => .nan

/-- A number with `places` digits after the point. -/
def fixedChars (places : Nat) : Binary64 → List Char
  | .finite negative significand exponent =>
    let (dividend, divisor) := fraction significand exponent
    let rounded := Number.nearest .toEven (dividend * Number.tenTo places) divisor
    let digits := Text.padded (places + 1) rounded
    let whole := digits.take (digits.length - places)
    signText negative ++ whole ++
      if places = 0 then [] else '.' :: digits.drop (digits.length - places)
  | other => other.renderChars

/-- A number with one digit before the point, `places` after it, and an exponent mark. -/
def scientificChars (places : Nat) : Binary64 → List Char
  | .finite negative 0 _ =>
    signText negative ++ scientific (List.replicate (places + 1) '0') 0
  | .finite negative significand exponent =>
    let (dividend, divisor) := fraction significand exponent
    let leading := logTenRatio dividend divisor
    let place := leading - places
    let rounded := Number.nearest .toEven (dividend * Number.tenTo (-place).toNat)
      (divisor * Number.tenTo place.toNat)
    signText negative ++
      if rounded = Number.tenTo (places + 1) then
        scientific (Nat.toDigits 10 (Number.tenTo places)) (leading + 1)
      else scientific (Nat.toDigits 10 rounded) leading
  | other => other.renderChars

end CalendarSeries.Binary64
