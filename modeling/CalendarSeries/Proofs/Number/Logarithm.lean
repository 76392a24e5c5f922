import CalendarSeries.Number.Rounding
import Mathlib.Data.Nat.Log
import Mathlib.Tactic.Positivity
/-!
The number of digits of a whole number. What is found by trying powers of ten downwards is the
logarithm in base ten.
-/
namespace CalendarSeries.Number

theorem logTenBelow_eq {steps n : Nat} (below : n < 10 ^ 2 ^ steps) :
    logTenBelow steps n = Nat.log 10 n := by
  induction steps generalizing n with
  | zero => exact (Nat.log_of_lt below).symm
  | succ steps ih =>
    rw [logTenBelow, tenTo, Nat.pow_eq, Nat.pow_eq]
    split
    · rename_i reached
      have rest : n / 10 ^ 2 ^ steps < 10 ^ 2 ^ steps := by
        rw [Nat.div_lt_iff_lt_mul (by positivity), ← Nat.pow_two, ← Nat.pow_mul, ← Nat.pow_succ]
        exact below
      have most : 2 ^ steps ≤ Nat.log 10 n := Nat.le_log_of_pow_le (by decide) reached
      rw [ih rest, Nat.log_div_base_pow]
      omega
    · rename_i missed
      exact ih (Nat.lt_of_not_le missed)

/-- The trials start high enough for every number. -/
theorem logTen_eq (n : Nat) : logTen n = Nat.log 10 n := by
  apply logTenBelow_eq
  calc n < 2 ^ (n.log2 + 1) := Nat.lt_log2_self
    _ ≤ 2 ^ 2 ^ (n.log2.log2 + 1) := Nat.pow_le_pow_right (by decide) Nat.lt_log2_self
    _ ≤ 10 ^ 2 ^ (n.log2.log2 + 1) := Nat.pow_le_pow_left (by decide) _

theorem logTen_mul_tenTo {n : Nat} (positive : n ≠ 0) (places : Nat) :
    logTen (n * tenTo places) = logTen n + places := by
  rw [logTen_eq, logTen_eq, tenTo, Nat.pow_eq]
  induction places with
  | zero => simp
  | succ places ih =>
    have nonzero : n * 10 ^ places ≠ 0 := by positivity
    rw [Nat.pow_succ, ← Nat.mul_assoc, Nat.log_mul_base (by decide) nonzero, ih, Nat.add_assoc]

/-- A number of few digits has a small logarithm. -/
theorem logTen_le {n places : Nat} (below : n ≤ tenTo places) : logTen n ≤ places := by
  rw [logTen_eq]
  exact (Nat.log_mono_right below).trans_eq (Nat.log_pow (by decide) places)

end CalendarSeries.Number
