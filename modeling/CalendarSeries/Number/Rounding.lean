/-!
Whole-number arithmetic behind decimal and binary rounding: how many digits a number has, and the
quotient of two numbers rounded to the nearest whole number under a rule for ties.
-/
namespace CalendarSeries.Number

/-- A power of ten. -/
def tenTo (n : Nat) : Nat :=
  Nat.pow 10 n

/-- The exponent of the greatest power of ten up to `n`, found by trying `10 ^ 2 ^ k` downwards. -/
def logTenBelow : Nat → Nat → Nat
  | 0, _ => 0
  | k + 1, n =>
    let power := tenTo (Nat.pow 2 k)
    if power ≤ n then Nat.pow 2 k + logTenBelow k (n / power) else logTenBelow k n

/-- The greatest `e` with `10 ^ e ≤ n`, and zero for zero. -/
def logTen (n : Nat) : Nat :=
  logTenBelow (n.log2.log2 + 1) n

/-- The number of digits of `n` in base ten; zero has one. -/
def digitCount (n : Nat) : Nat :=
  logTen n + 1

/-- What becomes of a quotient that lies halfway between two whole numbers. -/
inductive Tie where
  | toEven
  | away
  deriving DecidableEq, Repr

/-- Whether a quotient with this remainder is rounded up. -/
def roundsUp (tie : Tie) (quotient remainder divisor : Nat) : Bool :=
  divisor < 2 * remainder ||
    (divisor == 2 * remainder && (tie == .away || quotient % 2 == 1))

/-- The whole number nearest to `dividend / divisor`. -/
def nearest (tie : Tie) (dividend divisor : Nat) : Nat :=
  let quotient := dividend / divisor
  if roundsUp tie quotient (dividend % divisor) divisor then quotient + 1 else quotient

/-- `n / 10 ^ places` rounded; a number of fewer digits than `places` is below one half. -/
def dropDigits (tie : Tie) (n places : Nat) : Nat :=
  if digitCount n < places then 0 else nearest tie n (tenTo places)

/-- Removes trailing zeros from `n`, at most `most` of them; what is left and how many went. -/
def dropZeros : Nat → Nat → Nat × Nat
  | 0, n => (n, 0)
  | most + 1, n =>
    if n % 10 = 0 ∧ n ≠ 0 then
      let (rest, dropped) := dropZeros most (n / 10)
      (rest, dropped + 1)
    else (n, 0)

end CalendarSeries.Number
