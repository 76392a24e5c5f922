import CalendarSeries.Decimal.Basic
import CalendarSeries.Proofs.Number.Logarithm
import Mathlib.Algebra.Order.Field.Power
import Mathlib.Algebra.Order.Ring.Unbundled.Rat
import Mathlib.Data.Rat.Cast.Order
import Mathlib.Order.Compare
import Mathlib.Tactic.Linarith
import Mathlib.Tactic.Ring
/-!
Finite decimals as the rational numbers that they denote. Comparing two decimals by the places of
their first digits, and then digit by digit, is comparing these numbers.
-/
namespace CalendarSeries.Decimal

open CalendarSeries.Number

/-- A coefficient with an exponent of ten. -/
def magnitude (coefficient : Nat) (exponent : Int) : ℚ :=
  coefficient * 10 ^ exponent

/-- The number that the parts of a finite decimal denote. -/
def rational (negative : Bool) (coefficient : Nat) (exponent : Int) : ℚ :=
  if negative then -magnitude coefficient exponent else magnitude coefficient exponent

/-- The same number, or else the same infinity or value that is not a number. -/
def SameNumber : Decimal → Decimal → Prop
  | .finite m a i, .finite n b j => rational m a i = rational n b j
  | x, y => x = y

theorem SameNumber.refl (x : Decimal) : SameNumber x x := by
  cases x <;> exact rfl

theorem magnitude_zero (exponent : Int) : magnitude 0 exponent = 0 := by
  simp [magnitude]

theorem magnitude_pos {coefficient : Nat} (positive : coefficient ≠ 0) (exponent : Int) :
    0 < magnitude coefficient exponent := by
  unfold magnitude
  positivity

theorem magnitude_mul_tenTo (coefficient places : Nat) (exponent : Int) :
    magnitude (coefficient * tenTo places) exponent =
      magnitude coefficient (exponent + places) := by
  rw [magnitude, magnitude, zpow_add₀ (by norm_num), zpow_natCast, tenTo, Nat.pow_eq]
  push_cast
  ring

/-- A number begins at the place of its first digit. -/
theorem magnitude_bounds {coefficient : Nat} (positive : coefficient ≠ 0) (exponent : Int) :
    (10 : ℚ) ^ leadingExponent coefficient exponent ≤ magnitude coefficient exponent ∧
      magnitude coefficient exponent < 10 ^ (leadingExponent coefficient exponent + 1) := by
  have least : (10 : ℚ) ^ logTen coefficient ≤ coefficient := by
    rw [logTen_eq]
    exact_mod_cast Nat.pow_log_le_self 10 positive
  have most : (coefficient : ℚ) < 10 ^ (logTen coefficient + 1) := by
    rw [logTen_eq]
    exact_mod_cast Nat.lt_pow_succ_log_self (by decide) coefficient
  have scale : (0 : ℚ) < 10 ^ exponent := by positivity
  have shift (n : Nat) : (10 : ℚ) ^ (exponent + n) = 10 ^ n * 10 ^ exponent := by
    rw [zpow_add₀ (by norm_num), zpow_natCast, mul_comm]
  have next : leadingExponent coefficient exponent + 1 =
      exponent + (logTen coefficient + 1 : Nat) := by
    rw [leadingExponent]
    omega
  rw [next, leadingExponent, shift, shift, magnitude]
  exact ⟨mul_le_mul_of_nonneg_right least scale.le, mul_lt_mul_of_pos_right most scale⟩

theorem magnitude_lt_of_leading {a b : Nat} {i j : Int} (first : a ≠ 0) (second : b ≠ 0)
    (before : leadingExponent a i < leadingExponent b j) : magnitude a i < magnitude b j :=
  calc magnitude a i < 10 ^ (leadingExponent a i + 1) := (magnitude_bounds first i).2
    _ ≤ 10 ^ leadingExponent b j := zpow_le_zpow_right₀ (by norm_num) before
    _ ≤ magnitude b j := (magnitude_bounds second j).1

/-- Both numbers written with the smaller exponent. -/
theorem compare_magnitude (a : Nat) (i : Int) (b : Nat) (j : Int) :
    compare (magnitude a i) (magnitude b j) =
      compare (a * tenTo (i - j).toNat) (b * tenTo (j - i).toNat) := by
  have scale : StrictMono fun n : Nat => magnitude n (min i j) := fun m n below =>
    mul_lt_mul_of_pos_right (by exact_mod_cast below) (by positivity)
  have first : magnitude a i = magnitude (a * tenTo (i - j).toNat) (min i j) := by
    rw [magnitude_mul_tenTo]
    congr 1
    omega
  have second : magnitude b j = magnitude (b * tenTo (j - i).toNat) (min i j) := by
    rw [magnitude_mul_tenTo]
    congr 1
    omega
  rw [first, second, ← cmp_eq_compare, ← cmp_eq_compare]
  exact scale.cmp_map_eq _ _

theorem comparePositive_eq {a b : Nat} (first : a ≠ 0) (second : b ≠ 0) (i j : Int) :
    comparePositive a i b j = compare (magnitude a i) (magnitude b j) := by
  rw [comparePositive]
  cases places : compare (leadingExponent a i) (leadingExponent b j) with
  | lt =>
    exact (compare_lt_iff_lt.2 (magnitude_lt_of_leading first second
      (compare_lt_iff_lt.1 places))).symm
  | eq => exact (compare_magnitude a i b j).symm
  | gt =>
    exact (compare_gt_iff_gt.2 (magnitude_lt_of_leading second first
      (compare_gt_iff_gt.1 places))).symm

theorem rational_zero (negative : Bool) (exponent : Int) : rational negative 0 exponent = 0 := by
  cases negative <;> simp [rational, magnitude_zero]

theorem rational_pos {coefficient : Nat} (positive : coefficient ≠ 0) (exponent : Int) :
    0 < rational false coefficient exponent :=
  magnitude_pos positive exponent

theorem rational_neg {coefficient : Nat} (positive : coefficient ≠ 0) (exponent : Int) :
    rational true coefficient exponent < 0 :=
  neg_lt_zero.2 (magnitude_pos positive exponent)

/-- The order of two finite decimals is that of the numbers that they denote. -/
theorem compareFinite_eq (m : Bool) (a : Nat) (i : Int) (n : Bool) (b : Nat) (j : Int) :
    compareFinite m a i n b j = compare (rational m a i) (rational n b j) := by
  unfold compareFinite
  by_cases first : a = 0
  · subst first
    rw [if_pos rfl, rational_zero]
    by_cases second : b = 0
    · rw [if_pos second, second, rational_zero]
      exact (compare_eq_iff_eq.2 rfl).symm
    rw [if_neg second]
    cases n
    · exact (compare_lt_iff_lt.2 (rational_pos second j)).symm
    · exact (compare_gt_iff_gt.2 (rational_neg second j)).symm
  rw [if_neg first]
  by_cases second : b = 0
  · rw [if_pos second, second, rational_zero]
    cases m
    · exact (compare_gt_iff_gt.2 (rational_pos first i)).symm
    · exact (compare_lt_iff_lt.2 (rational_neg first i)).symm
  rw [if_neg second]
  cases m <;> cases n
  · exact comparePositive_eq first second i j
  · exact (compare_gt_iff_gt.2 ((rational_neg second j).trans (rational_pos first i))).symm
  · exact (compare_lt_iff_lt.2 ((rational_neg first i).trans (rational_pos second j))).symm
  · have turned : StrictAnti fun x : ℚ => -x := fun _ _ below => neg_lt_neg below
    refine (comparePositive_eq second first j i).trans ?_
    rw [← cmp_eq_compare, ← cmp_eq_compare]
    exact (turned.cmp_map_eq _ _).symm

/-- Two finite decimals are equal if they denote the same number. -/
theorem equal_finite (m : Bool) (a : Nat) (i : Int) (n : Bool) (b : Nat) (j : Int) :
    (finite m a i).equal (finite n b j) = .ok (decide (rational m a i = rational n b j)) := by
  rw [equal, if_neg (by simp [isSignaling]), order?, compareFinite_eq]
  congr 1
  rw [Bool.eq_iff_iff, beq_iff_eq, Option.some_inj, compare_eq_iff_eq, decide_eq_true_iff]

end CalendarSeries.Decimal
