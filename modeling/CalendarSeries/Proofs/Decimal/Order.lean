import CalendarSeries.Proofs.Decimal.Rational
import Mathlib.Order.WithBot
/-!
Decimals by what they denote: the rational numbers with two infinities. The order of decimals that
are numbers is the order of what they denote.
-/
namespace CalendarSeries.Decimal

/-- The number that a decimal denotes; what is not a number may stand anywhere. -/
def number : Decimal → WithBot (WithTop ℚ)
  | .finite negative coefficient exponent =>
    ((rational negative coefficient exponent : ℚ) : WithTop ℚ)
  | .infinite true => ⊥
  | .infinite false => ((⊤ : WithTop ℚ) : WithBot (WithTop ℚ))
  | .nan .. => ⊥

theorem number_finite (m : Bool) (a : Nat) (i : Int) :
    (finite m a i).number = ((rational m a i : ℚ) : WithTop ℚ) :=
  rfl

theorem number_le_iff {m n : Bool} {a b : Nat} {i j : Int} :
    (finite m a i).number ≤ (finite n b j).number ↔ rational m a i ≤ rational n b j := by
  rw [number_finite, number_finite, WithBot.coe_le_coe, WithTop.coe_le_coe]

/-- Of two decimals that are numbers one is less if what it denotes is. -/
theorem less_eq {x y : Decimal} (number : x.isNaN = false) (other : y.isNaN = false) :
    x.less y = .ok (decide (x.number < y.number)) := by
  cases x <;> cases y
  case nan.finite | nan.infinite | nan.nan => cases number
  case finite.nan | infinite.nan => cases other
  case finite.finite m a i n b j =>
    rw [less, order?, compareFinite_eq]
    dsimp only
    congr 1
    rw [Bool.eq_iff_iff, beq_iff_eq, compare_lt_iff_lt, decide_eq_true_iff, number_finite,
      number_finite, WithBot.coe_lt_coe, WithTop.coe_lt_coe]
  case infinite.infinite m n => cases m <;> cases n <;> simp [less, order?, Decimal.number]
  case infinite.finite m n b j => cases m <;> simp [less, order?, Decimal.number]
  case finite.infinite m a i n =>
    have below : (finite m a i).number < (infinite false).number :=
      WithBot.coe_lt_coe.2 (WithTop.coe_lt_top _)
    cases n with
    | false => exact congrArg Except.ok (decide_eq_true below).symm
    | true => simp [less, order?, Decimal.number]

end CalendarSeries.Decimal
