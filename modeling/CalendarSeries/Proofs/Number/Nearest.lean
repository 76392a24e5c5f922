import CalendarSeries.Number.Rounding
import Mathlib.Tactic.Linarith
import Mathlib.Tactic.Ring
/-!
The whole number nearest to a quotient. It lies at most half a unit away, a tie goes to the even
neighbour, and it depends on nothing but the quotient.
-/
namespace CalendarSeries.Number

/-- A whole number at most half a unit away from a quotient, and an even one if it is just half. -/
structure IsNearest (dividend divisor n : Nat) : Prop where
  least : 2 * dividend ≤ (2 * n + 1) * divisor
  most : 2 * n * divisor ≤ 2 * dividend + divisor
  even : 2 * dividend = (2 * n + 1) * divisor ∨ 2 * n * divisor = 2 * dividend + divisor →
    n % 2 = 0

variable {dividend divisor n m : Nat}

theorem nearest_isNearest (positive : 0 < divisor) :
    IsNearest dividend divisor (nearest .toEven dividend divisor) := by
  have whole := Nat.div_add_mod dividend divisor
  have rest := Nat.mod_lt dividend positive
  rw [nearest]
  generalize dividend / divisor = quotient at whole ⊢
  generalize dividend % divisor = remainder at whole rest ⊢
  subst whole
  split
  · rename_i up
    have half : divisor < 2 * remainder ∨ divisor = 2 * remainder ∧ quotient % 2 = 1 := by
      simpa [roundsUp, show (Tie.toEven == .away) = false from rfl] using up
    have enough : divisor ≤ 2 * remainder := by omega
    refine ⟨by nlinarith, by nlinarith, ?_⟩
    rintro (tie | tie)
    · nlinarith
    · rcases half with above | ⟨-, odd⟩
      · nlinarith
      · omega
  · rename_i down
    have half : 2 * remainder < divisor ∨ divisor = 2 * remainder ∧ quotient % 2 = 0 := by
      simp [roundsUp, show (Tie.toEven == .away) = false from rfl] at down
      omega
    have enough : 2 * remainder ≤ divisor := by omega
    refine ⟨by nlinarith, by nlinarith, ?_⟩
    rintro (tie | tie)
    · rcases half with below | ⟨-, even⟩
      · nlinarith
      · exact even
    · nlinarith

/-- Of two different numbers only one can be nearest. -/
theorem IsNearest.le (positive : 0 < divisor) (first : IsNearest dividend divisor n)
    (second : IsNearest dividend divisor m) : m ≤ n := by
  by_contra above
  have near : 2 * m * divisor ≤ (2 * n + 2) * divisor := by
    have := second.most
    have := first.least
    linarith
  have next : m = n + 1 := by
    have := Nat.le_of_mul_le_mul_right near positive
    omega
  subst next
  -- the quotient is a tie between the two, and one of them is odd
  have tie : 2 * dividend = (2 * n + 1) * divisor := by
    have := second.most
    have := first.least
    linarith
  have even := first.even (.inl tie)
  have odd := second.even (.inr (by linarith))
  omega

theorem IsNearest.eq_nearest (positive : 0 < divisor) (near : IsNearest dividend divisor n) :
    nearest .toEven dividend divisor = n :=
  le_antisymm (near.le positive (nearest_isNearest positive))
    ((nearest_isNearest positive).le positive near)

theorem IsNearest.scaled {other scale : Nat} (positive : 0 < divisor) (above : 0 < scale)
    (same : dividend * scale = other * divisor) (near : IsNearest dividend divisor n) :
    IsNearest other scale n := by
  have least := Nat.mul_le_mul_right scale near.least
  have most := Nat.mul_le_mul_right scale near.most
  refine ⟨?_, ?_, fun tie => near.even ?_⟩
  · exact Nat.le_of_mul_le_mul_right (by linarith) positive
  · exact Nat.le_of_mul_le_mul_right (by linarith) positive
  · refine tie.imp (fun tie => ?_) fun tie => ?_
    all_goals
      have both := congrArg (· * divisor) tie
      refine Nat.eq_of_mul_eq_mul_right above ?_
      linarith

/-- The nearest number depends on the quotient alone. -/
theorem nearest_congr {other scale : Nat} (positive : 0 < divisor) (above : 0 < scale)
    (same : dividend * scale = other * divisor) :
    nearest .toEven dividend divisor = nearest .toEven other scale :=
  (((nearest_isNearest positive).scaled positive above same).eq_nearest above).symm

end CalendarSeries.Number
