import CalendarSeries.Decimal.Arithmetic
import CalendarSeries.Proofs.Decimal.Rational
import CalendarSeries.Proofs.Number.Dropping
import Mathlib.Algebra.Order.Group.Abs
/-!
Rounding keeps to its side of every number that the working digits can hold: what is rounded from at
least such a number is at least that number, and likewise from below. Sums and quotients are rounded
from what may differ a little from the exact result, but no number that can be held lies between.
-/
namespace CalendarSeries.Decimal

open CalendarSeries.Number

/-- Whether a number has few enough digits, and none below the least exponent. -/
def IsHeld (g : ℚ) : Prop :=
  ∃ c e : Int, c.natAbs ≤ tenTo working.precision ∧ working.tiny ≤ e ∧ g = c * 10 ^ e

/-- Whether a result is on the side of the exact result, of every number that can be held. -/
def Faithful (exact result : ℚ) : Prop :=
  ∀ g, IsHeld g → (g ≤ exact → g ≤ result) ∧ (exact ≤ g → result ≤ g)

variable {g q q' z : ℚ} {e f : Int}

theorem multiple_of_le (c : Int) (fine : f ≤ e) :
    ∃ k : Int, (c : ℚ) * 10 ^ e = k * 10 ^ f := by
  refine ⟨c * 10 ^ (e - f).toNat, ?_⟩
  have split : (10 : ℚ) ^ e = 10 ^ (e - f).toNat * 10 ^ f := by
    rw [← zpow_natCast, ← zpow_add₀ (by norm_num)]
    congr 1
    omega
  rw [split]
  push_cast
  ring

theorem abs_le_of_natAbs_le {c : Int} {places : Nat} (few : c.natAbs ≤ tenTo places) (e : Int) :
    |(c : ℚ) * 10 ^ e| ≤ 10 ^ (places + e) := by
  have most : |(c : ℚ)| ≤ 10 ^ places := by
    rw [← Int.cast_abs, Int.abs_eq_natAbs]
    exact_mod_cast few
  have scale : (0 : ℚ) < 10 ^ e := by positivity
  rw [abs_mul, abs_of_pos scale, zpow_add₀ (by norm_num), zpow_natCast]
  exact mul_le_mul_of_nonneg_right most scale.le

namespace IsHeld

theorem neg (held : IsHeld g) : IsHeld (-g) := by
  obtain ⟨c, e, few, least, rfl⟩ := held
  exact ⟨-c, e, by rwa [Int.natAbs_neg], least, by push_cast; ring⟩

/-- A number that can be held has no digits far below its first. -/
theorem multiple (held : IsHeld g)
    (large : f ≤ working.tiny ∨ (10 : ℚ) ^ (f + 27) < |g|) : ∃ k : Int, g = k * 10 ^ f := by
  obtain ⟨c, e, few, least, rfl⟩ := held
  refine multiple_of_le c ?_
  rcases large with low | large
  · exact low.trans least
  by_contra below
  have precision : working.precision = 28 := rfl
  have size : |(c : ℚ) * 10 ^ e| ≤ 10 ^ (f + 27) :=
    (abs_le_of_natAbs_le few e).trans (zpow_le_zpow_right₀ (by norm_num) (by omega))
  exact absurd large (not_lt.2 size)

end IsHeld

namespace Faithful

theorem refl (q : ℚ) : Faithful q q :=
  fun _ _ => ⟨id, id⟩

theorem trans (first : Faithful q q') (second : Faithful q' z) : Faithful q z :=
  fun g held => ⟨(second g held).1 ∘ (first g held).1, (second g held).2 ∘ (first g held).2⟩

theorem neg (faithful : Faithful q z) : Faithful (-q) (-z) :=
  fun g held => ⟨fun below => le_neg.2 ((faithful (-g) held.neg).2 (le_neg.1 below)),
    fun above => neg_le.2 ((faithful (-g) held.neg).1 (neg_le.1 above))⟩

/-- Between neighbouring multiples of a power of ten that have all digits no number can be held. -/
theorem of_cell {n : Nat} (many : tenTo 27 ≤ n) (above : n * 10 ^ f < q)
    (below : q < (n + 1) * 10 ^ f) (least : n * 10 ^ f ≤ q') (most : q' ≤ (n + 1) * 10 ^ f) :
    Faithful q q' := by
  have scale : (0 : ℚ) < 10 ^ f := by positivity
  have outside {g : ℚ} (held : IsHeld g) (lower : n * 10 ^ f < g) : (n + 1) * 10 ^ f ≤ g := by
    have size : (10 : ℚ) ^ (f + 27) ≤ n * 10 ^ f := by
      rw [zpow_add₀ (by norm_num), mul_comm]
      exact mul_le_mul_of_nonneg_right (by exact_mod_cast many) scale.le
    obtain ⟨k, rfl⟩ := held.multiple (.inr ((size.trans_lt lower).trans_le (le_abs_self g)))
    have next : (n : ℚ) < k := lt_of_mul_lt_mul_right lower scale.le
    have next : (n : ℚ) + 1 ≤ k := by exact_mod_cast next
    exact mul_le_mul_of_nonneg_right next scale.le
  intro g held
  refine ⟨fun lower => ?_, fun upper => ?_⟩
  · by_contra crossed
    have := outside held (least.trans_lt (not_le.1 crossed))
    linarith
  · exact most.trans (outside held (above.trans_le upper))

/-- What is added to a multiple that has all digits, or taken from it, does not matter as long as it
is less than one unit. -/
theorem beside {n : Nat} {s t : ℚ} (many : tenTo 28 ≤ n) (positive : 0 < s) (small : s < 10 ^ f)
    (positive' : 0 < t) (small' : t < 10 ^ f) :
    Faithful (s + n * 10 ^ f) (t + n * 10 ^ f) ∧ Faithful (-s + n * 10 ^ f) (-t + n * 10 ^ f) := by
  have fewer : tenTo 27 < tenTo 28 := by decide
  constructor
  · exact .of_cell (n := n) (fewer.le.trans many) (by linarith) (by linarith) (by linarith)
      (by linarith)
  · obtain ⟨before, rfl⟩ := Nat.exists_eq_add_one_of_ne_zero (show n ≠ 0 by omega)
    push_cast
    exact .of_cell (n := before) (by omega) (by linarith) (by linarith) (by linarith) (by linarith)

/-- What is rounded to the multiples of a power of ten is faithful if the number has enough digits
down to that power. -/
theorem of_grid
    (grid : ∀ k : Int, (k * 10 ^ f ≤ q → k * 10 ^ f ≤ z) ∧ (q ≤ k * 10 ^ f → z ≤ k * 10 ^ f))
    (large : f ≤ working.tiny ∨ (10 : ℚ) ^ (f + 27) ≤ q) : Faithful q z := by
  intro g held
  by_cases fine : f ≤ working.tiny ∨ (10 : ℚ) ^ (f + 27) < |g|
  · obtain ⟨k, rfl⟩ := held.multiple fine
    exact grid k
  · -- a finer number is not above the power of ten at which `q` begins, which is on the grid
    obtain ⟨coarse, small⟩ := not_or.1 fine
    have enough := large.resolve_left coarse
    have bound : g ≤ 10 ^ (f + 27) := (le_abs_self g).trans (not_lt.1 small)
    obtain ⟨k, power⟩ := multiple_of_le 1 (show f ≤ f + 27 by omega)
    rw [Int.cast_one, one_mul] at power
    rw [power] at enough bound
    refine ⟨fun _ => bound.trans ((grid k).1 enough), fun above => ?_⟩
    obtain rfl : g = k * 10 ^ f := le_antisymm bound (enough.trans above)
    exact (grid k).2 above

end Faithful

/-- Whether an operation gives a finite number that is faithful to the exact result. -/
def Yields (outcome : Except Signal Decimal) (exact : ℚ) : Prop :=
  ∃ m a i, outcome = .ok (.finite m a i) ∧ Faithful exact (rational m a i)

/-- Dropping digits does not pass a multiple of the power of ten that is left. -/
theorem magnitude_dropDigits {a : Nat} {i : Int} (left : i ≤ f) (k : Int) :
    (k * 10 ^ f ≤ magnitude a i → k * 10 ^ f ≤ magnitude (dropDigits .toEven a (f - i).toNat) f) ∧
      (magnitude a i ≤ k * 10 ^ f →
        magnitude (dropDigits .toEven a (f - i).toNat) f ≤ k * 10 ^ f) := by
  have scale : (0 : ℚ) < 10 ^ f := by positivity
  have unit : (0 : ℚ) < 10 ^ i := by positivity
  have positive := tenTo_pos (f - i).toNat
  have split : (10 : ℚ) ^ f = tenTo (f - i).toNat * 10 ^ i := by
    rw [tenTo, Nat.pow_eq, Nat.cast_pow, Nat.cast_ofNat, ← zpow_natCast,
      ← zpow_add₀ (by norm_num)]
    congr 1
    omega
  rw [dropDigits_eq_nearest, magnitude, magnitude]
  refine ⟨fun below => mul_le_mul_of_nonneg_right ?_ scale.le,
    fun above => mul_le_mul_of_nonneg_right ?_ scale.le⟩
  · rw [split, ← mul_assoc] at below
    have below : k * tenTo (f - i).toNat ≤ a := by
      exact_mod_cast le_of_mul_le_mul_right below unit
    rcases le_total k 0 with negative | whole
    · exact (Int.cast_nonpos.2 negative).trans (Nat.cast_nonneg _)
    · lift k to ℕ using whole
      exact_mod_cast le_nearest positive (by exact_mod_cast below)
  · rw [split, ← mul_assoc] at above
    have above : (a : Int) ≤ k * tenTo (f - i).toNat := by
      exact_mod_cast le_of_mul_le_mul_right above unit
    have whole : 0 ≤ k := nonneg_of_mul_nonneg_left ((Int.natCast_nonneg a).trans above)
      (by exact_mod_cast positive)
    lift k to ℕ using whole
    exact_mod_cast nearest_le positive (by exact_mod_cast above)

theorem leadingExponent_eq (a : Nat) (i : Int) : leadingExponent a i = i + digitCount a - 1 := by
  rw [leadingExponent, digitCount]
  omega

/-- A number up to the greatest power of ten does not overflow. -/
theorem leading_le_top {a : Nat} {i : Int} (nonzero : a ≠ 0)
    (small : magnitude a i ≤ 10 ^ working.top) : i + digitCount a - 1 ≤ working.top := by
  have first := (magnitude_bounds nonzero i).1.trans small
  rw [leadingExponent_eq] at first
  exact (zpow_le_zpow_iff_right₀ (by norm_num)).1 first

theorem isHeld_top : IsHeld (10 ^ working.top) :=
  ⟨1, working.top, by decide, by decide, by rw [Int.cast_one, one_mul]⟩

/-- The number that is left after rounding is the same, if it gained a digit or not. -/
theorem magnitude_carry (c : Nat) (i : Int) :
    magnitude (if c = tenTo working.precision then (c / 10, i + 1) else (c, i)).1
        (if c = tenTo working.precision then (c / 10, i + 1) else (c, i)).2 = magnitude c i := by
  split
  · rename_i full
    have whole : c = c / 10 * tenTo 1 := by
      rw [full]
      decide
    conv_rhs => rw [whole, magnitude_mul_tenTo]
    rfl
  · rfl

theorem fit_yields (negative : Bool) {a : Nat} {i : Int}
    (small : magnitude a i ≤ 10 ^ working.top) :
    Yields (fit working negative a i) (rational negative a i) := by
  have signed {b : Nat} {j : Int} (faithful : Faithful (magnitude a i) (magnitude b j)) :
      Faithful (rational negative a i) (rational negative b j) := by
    cases negative with
    | false => exact faithful
    | true => exact faithful.neg
  have precision : working.precision = 28 := rfl
  by_cases zero : a = 0
  · refine ⟨negative, 0, _, if_pos zero, ?_⟩
    rw [zero, rational_zero, rational_zero]
    exact .refl 0
  have lead := leading_le_top zero small
  have first := (magnitude_bounds zero i).1
  rw [leadingExponent_eq] at first
  rw [fit, if_neg zero]
  dsimp only
  rw [if_neg (not_lt.2 lead)]
  generalize least_eq : max working.tiny (i + digitCount a - working.precision) = least
  split
  · exact ⟨negative, a, i, rfl, .refl _⟩
  rename_i left
  have grid := magnitude_dropDigits (Int.le_of_not_le left) (a := a)
  generalize dropDigits .toEven a (least - i).toNat = rounded at grid ⊢
  have faithful : Faithful (magnitude a i) (magnitude rounded least) := by
    refine .of_grid grid ?_
    by_cases low : least ≤ working.tiny
    · exact .inl low
    · have place : least + 27 = i + digitCount a - 1 := by omega
      exact .inr (place ▸ first)
  have bounded := (faithful _ isHeld_top).2 small
  rw [← magnitude_carry rounded least] at faithful bounded
  have top : working.top = 999999 := rfl
  have tiny : working.tiny = -1000026 := rfl
  have lowest : (if rounded = tenTo working.precision then (rounded / 10, least + 1)
      else (rounded, least)).2 ≤ working.top := by
    split <;> dsimp only <;> omega
  generalize (if rounded = tenTo working.precision then (rounded / 10, least + 1)
      else (rounded, least)) = carried at faithful bounded lowest ⊢
  obtain ⟨c, l⟩ := carried
  have room : l + digitCount c - 1 ≤ working.top := by
    by_cases none : c = 0
    · have one : digitCount 0 = 1 := by decide
      rw [none, one]
      omega
    · exact leading_le_top none bounded
  dsimp only
  rw [if_neg (not_lt.2 room)]
  exact ⟨negative, c, l, rfl, signed faithful⟩

end CalendarSeries.Decimal
