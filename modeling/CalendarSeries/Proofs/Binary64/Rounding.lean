import CalendarSeries.Binary64.Basic
import CalendarSeries.Proofs.Number.Nearest
import Mathlib.Algebra.Order.Field.Power
import Mathlib.Algebra.Order.Floor.Semifield
import Mathlib.Algebra.Order.Ring.Unbundled.Rat
import Mathlib.Data.Rat.Cast.Order
import Mathlib.Data.Rat.Floor
import Mathlib.Tactic.FieldSimp
import Mathlib.Tactic.Positivity
/-!
Quotients as binary numbers. A quotient whose first binary digit has a place within the format is
rounded to fifty-three binary digits, that is to the nearest multiple of a power of two. No result
has more digits or a greater exponent than the format.
-/
namespace CalendarSeries.Binary64

open CalendarSeries.Number

theorem scaleUp_cast (e : Int) : (scaleUp e : ℚ) = 2 ^ e * scaleUp (-e) := by
  rw [scaleUp, scaleUp, Nat.pow_eq, Nat.pow_eq]
  push_cast
  rw [← zpow_natCast, ← zpow_natCast, ← zpow_add₀ (by norm_num)]
  congr 1
  omega

theorem scaleUp_pos (e : Int) : 0 < scaleUp e :=
  Nat.pow_pos (by decide)

section Quotient

variable {dividend divisor : Nat} (positive : 0 < divisor)
include positive

theorem le_quotient_iff (e : Int) :
    divisor * scaleUp e ≤ dividend * scaleUp (-e) ↔ (2 : ℚ) ^ e ≤ dividend / divisor := by
  have above : (0 : ℚ) < divisor := by exact_mod_cast positive
  have unit : (0 : ℚ) < scaleUp (-e) := by exact_mod_cast scaleUp_pos (-e)
  rw [le_div_iff₀ above, ← Nat.cast_le (α := ℚ)]
  push_cast
  rw [scaleUp_cast e, ← mul_assoc, mul_le_mul_iff_of_pos_right unit, mul_comm]

/-- The quotient against the powers of two by the places of the first digits. -/
theorem quotient_near (nonzero : dividend ≠ 0) :
    (2 : ℚ) ^ ((dividend.log2 : Int) - divisor.log2 - 1) ≤ dividend / divisor ∧
      (dividend : ℚ) / divisor < 2 ^ ((dividend.log2 : Int) - divisor.log2 + 1) := by
  have above : (0 : ℚ) < divisor := by exact_mod_cast positive
  have least : (2 : ℚ) ^ dividend.log2 ≤ dividend := by exact_mod_cast Nat.log2_self_le nonzero
  have most : (dividend : ℚ) < 2 ^ (dividend.log2 + 1) := by exact_mod_cast Nat.lt_log2_self
  have first : (2 : ℚ) ^ divisor.log2 ≤ divisor := by
    exact_mod_cast Nat.log2_self_le positive.ne'
  have last : (divisor : ℚ) < 2 ^ (divisor.log2 + 1) := by exact_mod_cast Nat.lt_log2_self
  constructor
  · rw [le_div_iff₀ above]
    calc (2 : ℚ) ^ ((dividend.log2 : Int) - divisor.log2 - 1) * divisor
        ≤ 2 ^ ((dividend.log2 : Int) - divisor.log2 - 1) * 2 ^ (divisor.log2 + 1) :=
          mul_le_mul_of_nonneg_left last.le (by positivity)
      _ = 2 ^ dividend.log2 := by
          rw [← zpow_natCast, ← zpow_natCast, ← zpow_add₀ (by norm_num)]
          congr 1
          omega
      _ ≤ dividend := least
  · rw [div_lt_iff₀ above]
    calc (dividend : ℚ) < 2 ^ (dividend.log2 + 1) := most
      _ = 2 ^ ((dividend.log2 : Int) - divisor.log2 + 1) * 2 ^ divisor.log2 := by
          rw [← zpow_natCast, ← zpow_natCast, ← zpow_add₀ (by norm_num)]
          congr 1
          omega
      _ ≤ 2 ^ ((dividend.log2 : Int) - divisor.log2 + 1) * divisor :=
          mul_le_mul_of_nonneg_left first (by positivity)

theorem logTwo_bounds (nonzero : dividend ≠ 0) :
    (2 : ℚ) ^ logTwo dividend divisor ≤ dividend / divisor ∧
      (dividend : ℚ) / divisor < 2 ^ (logTwo dividend divisor + 1) := by
  obtain ⟨least, most⟩ := quotient_near positive nonzero
  unfold logTwo
  dsimp only
  split
  · rename_i below
    refine ⟨least, ?_⟩
    rw [Int.sub_add_cancel, ← not_le, ← le_quotient_iff positive, not_le]
    exact below
  · rename_i above
    exact ⟨(le_quotient_iff positive _).1 (Nat.le_of_not_lt above), most⟩

theorem logTwo_eq {e : Int} (least : (2 : ℚ) ^ e ≤ dividend / divisor)
    (most : (dividend : ℚ) / divisor < 2 ^ (e + 1)) : logTwo dividend divisor = e := by
  have nonzero : dividend ≠ 0 := by
    rintro rfl
    have := zpow_pos (show (0 : ℚ) < 2 by norm_num) e
    simp at least
    linarith
  obtain ⟨first, last⟩ := logTwo_bounds positive nonzero
  have below := (zpow_lt_zpow_iff_right₀ (show (1 : ℚ) < 2 by norm_num)).1 (least.trans_lt last)
  have above := (zpow_lt_zpow_iff_right₀ (show (1 : ℚ) < 2 by norm_num)).1 (first.trans_lt most)
  omega

/-- A quotient that has fifty-three binary digits before its point if `2 ^ e` is the unit, where it
is `n / d`, is rounded to a multiple of `2 ^ e`. -/
theorem exists_ofRatio (negative : Bool) {e : Int} {n d : Nat} (unit : 0 < d)
    (least : 2 ^ 52 * d ≤ n) (most : n < 2 ^ 53 * d) (low : leastExponent ≤ e)
    (high : e < greatestExponent) (same : (dividend : ℚ) / divisor = n / d * 2 ^ e) :
    ∃ significand exponent, ofRatio negative dividend divisor =
        .finite negative significand exponent ∧
      (significand : ℚ) * 2 ^ exponent = nearest .toEven n d * 2 ^ e := by
  have part : (0 : ℚ) < d := by exact_mod_cast unit
  have scale : (0 : ℚ) < 2 ^ e := by positivity
  have first : (2 : ℚ) ^ (e + 52) ≤ dividend / divisor := by
    rw [same, zpow_add₀ (by norm_num), mul_comm]
    refine mul_le_mul_of_nonneg_right ?_ scale.le
    rw [le_div_iff₀ part]
    exact_mod_cast least
  have last : (dividend : ℚ) / divisor < 2 ^ (e + 52 + 1) := by
    rw [same, Int.add_assoc, zpow_add₀ (by norm_num), mul_comm ((2 : ℚ) ^ e)]
    refine mul_lt_mul_of_pos_right ?_ scale
    rw [div_lt_iff₀ part]
    exact_mod_cast most
  have nonzero : dividend ≠ 0 := by
    rintro rfl
    have := zpow_pos (show (0 : ℚ) < 2 by norm_num) (e + 52)
    simp at first
    linarith
  have leading : logTwo dividend divisor = e + 52 := logTwo_eq positive first last
  have place : max leastExponent (e + 52 - 52) = e := by omega
  have rounded : nearest .toEven (dividend * scaleUp (-e)) (divisor * scaleUp e) =
      nearest .toEven n d := by
    apply nearest_congr (Nat.mul_pos positive (scaleUp_pos e)) unit
    have above : (divisor : ℚ) ≠ 0 := by exact_mod_cast positive.ne'
    rw [div_eq_iff above] at same
    have cast : ((dividend * scaleUp (-e) * d : Nat) : ℚ) = (n * (divisor * scaleUp e) : Nat) := by
      push_cast
      rw [scaleUp_cast e, same]
      field_simp
    exact_mod_cast cast
  have full : 2 * leastNormal = 2 ^ 53 := rfl
  rw [ofRatio, if_neg nonzero, leading, place]
  simp only [rounded, full]
  by_cases carried : nearest .toEven n d = 2 ^ 53
  · rw [if_pos carried, carried, if_neg (by omega)]
    refine ⟨_, _, rfl, ?_⟩
    rw [zpow_add_one₀ (by norm_num)]
    push_cast [leastNormal, Nat.pow_eq]
    ring
  · rw [if_neg carried, if_neg (by omega)]
    exact ⟨_, _, rfl, rfl⟩

/-- A quotient in units of its last binary digit has fifty-three digits at most. -/
theorem nearest_le (nonzero : dividend ≠ 0) {e : Int} (fine : logTwo dividend divisor ≤ e + 52) :
    nearest .toEven (dividend * scaleUp (-e)) (divisor * scaleUp e) ≤ 2 ^ 53 := by
  have unit := Nat.mul_pos positive (scaleUp_pos e)
  have below : dividend * scaleUp (-e) < 2 ^ 53 * (divisor * scaleUp e) := by
    have above : (0 : ℚ) < divisor := by exact_mod_cast positive
    have scale : (0 : ℚ) < scaleUp (-e) := by exact_mod_cast scaleUp_pos (-e)
    have last : (dividend : ℚ) / divisor < 2 ^ (e + 53) :=
      (logTwo_bounds positive nonzero).2.trans_le (zpow_le_zpow_right₀ (by norm_num) (by omega))
    rw [div_lt_iff₀ above] at last
    have scaled := mul_lt_mul_of_pos_right last scale
    rw [zpow_add₀ (by norm_num)] at scaled
    have cast : ((dividend * scaleUp (-e) : Nat) : ℚ) < (2 ^ 53 * (divisor * scaleUp e) : Nat) := by
      push_cast
      rw [scaleUp_cast e]
      calc (dividend : ℚ) * scaleUp (-e) < 2 ^ e * 2 ^ (53 : Int) * divisor * scaleUp (-e) := scaled
        _ = 2 ^ 53 * (divisor * (2 ^ e * scaleUp (-e))) := by
          norm_cast
          ring
    exact_mod_cast cast
  have near : IsNearest (dividend * scaleUp (-e)) (divisor * scaleUp e) _ :=
    nearest_isNearest unit
  have most := near.most
  generalize nearest .toEven (dividend * scaleUp (-e)) (divisor * scaleUp e) = n at most ⊢
  by_contra beyond
  nlinarith

/-- A finite quotient has fifty-three binary digits and a bounded exponent. -/
theorem ofRatio_bounds {negative sign : Bool} {significand : Nat} {exponent : Int}
    (finite : ofRatio negative dividend divisor = .finite sign significand exponent) :
    significand ≤ 2 ^ 53 ∧ exponent ≤ greatestExponent := by
  unfold ofRatio at finite
  split at finite
  · cases finite
    exact ⟨Nat.zero_le _, by decide⟩
  · rename_i nonzero
    have bound := nearest_le positive nonzero
      (e := max leastExponent (logTwo dividend divisor - 52)) (by omega)
    dsimp only at finite
    split at finite
    · split at finite
      · cases finite
      · cases finite
        exact ⟨show leastNormal ≤ 2 ^ 53 by decide, by omega⟩
    · split at finite
      · cases finite
      · cases finite
        exact ⟨bound, by omega⟩

end Quotient

/-- Cutting the fraction off. -/
theorem truncate_eq {significand n k : Nat} {exponent : Int}
    (same : (significand : ℚ) * 2 ^ exponent = n / 2 ^ k) :
    truncate false significand exponent = ((n / 2 ^ k : Nat) : Int) := by
  have unit : (scaleUp (-exponent) : ℚ) ≠ 0 := by exact_mod_cast (scaleUp_pos (-exponent)).ne'
  have value : ((significand * scaleUp exponent : Nat) : ℚ) / scaleUp (-exponent) =
      n / (2 ^ k : Nat) := by
    push_cast
    rw [← same, scaleUp_cast exponent]
    field_simp
  have floors := congrArg Nat.floor value
  rw [Nat.floor_div_eq_div, Nat.floor_div_eq_div] at floors
  exact congrArg Int.ofNat floors

theorem natAbs_truncate (negative : Bool) (significand : Nat) (exponent : Int) :
    (truncate negative significand exponent).natAbs =
      significand * scaleUp exponent / scaleUp (-exponent) := by
  cases negative with
  | false => exact Int.natAbs_natCast _
  | true => exact (Int.natAbs_neg _).trans (Int.natAbs_natCast _)

theorem natAbs_truncate_le (negative : Bool) {significand most : Nat} {exponent greatest : Int}
    (digits : significand ≤ most) (low : exponent ≤ greatest) :
    (truncate negative significand exponent).natAbs ≤ most * 2 ^ greatest.toNat := by
  have scale : scaleUp exponent ≤ 2 ^ greatest.toNat := by
    rw [scaleUp, Nat.pow_eq]
    exact Nat.pow_le_pow_right (by decide) (Int.toNat_le_toNat low)
  rw [natAbs_truncate]
  exact (Nat.div_le_self _ _).trans (Nat.mul_le_mul digits scale)

end CalendarSeries.Binary64
