import CalendarSeries.Decimal.Arithmetic
/-!
Arithmetic on numbers, the infinite ones included, gives numbers. Where there is no number to give,
as for the quotient of two infinities, an operation signals.
-/
namespace CalendarSeries.Decimal

variable {x y z : Decimal} {limits : Limits}

theorem fit_isNaN {negative : Bool} {coefficient : Nat} {exponent : Int}
    (fitted : fit limits negative coefficient exponent = .ok z) : z.isNaN = false := by
  unfold fit at fitted
  split at fitted
  · cases fitted
    rfl
  dsimp only at fitted
  split at fitted
  · cases fitted
  split at fitted
  · cases fitted
    rfl
  -- the rounded coefficient may gain a digit, and then be too large
  split at fitted <;> dsimp only at fitted <;> split at fitted <;> cases fitted <;> rfl

theorem nanOperand_eq_none (number : x.isNaN = false) (other : y.isNaN = false) :
    nanOperand x y = none := by
  cases x <;> cases y
  case nan.finite | nan.infinite | nan.nan => cases number
  case finite.nan | infinite.nan => cases other
  all_goals rfl

theorem mul_isNaN (number : x.isNaN = false) (other : y.isNaN = false)
    (product : x.mul y = .ok z) : z.isNaN = false := by
  unfold mul at product
  rw [nanOperand_eq_none number other] at product
  cases x <;> cases y
  case nan.finite | nan.infinite | nan.nan => cases number
  case finite.nan | infinite.nan => cases other
  case finite.finite => exact fit_isNaN product
  case infinite.infinite =>
    cases product
    rfl
  case infinite.finite | finite.infinite =>
    dsimp only at product
    split at product <;> cases product
    rfl

theorem divPositive_isNaN {negative : Bool} {a b : Nat} {i j : Int}
    (quotient : divPositive limits negative a i b j = .ok z) : z.isNaN = false := by
  unfold divPositive at quotient
  dsimp only at quotient
  split at quotient <;> exact fit_isNaN quotient

theorem div_isNaN (number : x.isNaN = false) (other : y.isNaN = false)
    (quotient : x.div y = .ok z) : z.isNaN = false := by
  unfold div at quotient
  rw [nanOperand_eq_none number other] at quotient
  cases x <;> cases y
  case nan.finite | nan.infinite | nan.nan => cases number
  case finite.nan | infinite.nan => cases other
  case finite.finite =>
    dsimp only at quotient
    split at quotient
    · cases quotient
    split at quotient
    · exact fit_isNaN quotient
    · exact divPositive_isNaN quotient
  case infinite.infinite => cases quotient
  case infinite.finite | finite.infinite =>
    cases quotient
    rfl

theorem neg_isNaN (number : x.isNaN = false) (opposite : x.neg = .ok z) : z.isNaN = false := by
  cases x with
  | finite => exact fit_isNaN opposite
  | infinite =>
    cases opposite
    rfl
  | nan => cases number

theorem quantize_isNaN {exponent : Int} (number : x.isNaN = false)
    (rounded : x.quantize exponent = .ok z) : z.isNaN = false := by
  cases x with
  | finite negative coefficient own =>
    unfold quantize at rounded
    dsimp only at rounded
    split at rounded
    · cases rounded
    split at rounded
    · cases rounded
      rfl
    split at rounded
    · cases rounded
    -- digits are added or dropped, and then there may be too many
    split at rounded <;> split at rounded <;> cases rounded <;> rfl
  | infinite => cases rounded
  | nan => cases number

end CalendarSeries.Decimal
