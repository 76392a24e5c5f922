import CalendarSeries.Decimal.Arithmetic
import CalendarSeries.Proofs.Decimal.Order
import CalendarSeries.Proofs.Number.Dropping
/-!
Rounding of decimals to the multiples of a power of ten. A number is rounded to the nearest
multiple, and to the one of larger magnitude if two are equally near. That decides the result, keeps
the order of numbers, and leaves multiples as they are.
-/
namespace CalendarSeries.Decimal

open CalendarSeries.Number

/-- Whether `y` is the multiple of `10 ^ unit` nearest to `x`, of two the larger in magnitude. -/
structure IsHalfUp (unit : Int) (x y : ℚ) : Prop where
  multiple : ∃ n : Int, y = n * 10 ^ unit
  nearest : ∀ n : Int, |x - y| ≤ |x - n * 10 ^ unit|
  away : ∀ n : Int, |x - y| = |x - n * 10 ^ unit| → |(n : ℚ) * 10 ^ unit| ≤ |y|

variable {unit : Int} {x y x' y' : ℚ}

namespace IsHalfUp

theorem neg (rounded : IsHalfUp unit x y) : IsHalfUp unit (-x) (-y) := by
  have flipped (z : ℚ) : |-x - -z| = |x - z| := by
    rw [← abs_neg (x - z)]
    congr 1
    ring
  have turned (n : Int) : (n : ℚ) * 10 ^ unit = -((-n : Int) * 10 ^ unit) := by
    push_cast
    ring
  obtain ⟨n, multiple⟩ := rounded.multiple
  refine ⟨⟨-n, by rw [multiple, turned (-n), neg_neg]⟩, fun k => ?_, fun k => ?_⟩
  · rw [turned, flipped, flipped]
    exact rounded.nearest (-k)
  · rw [turned, flipped, flipped, abs_neg, abs_neg]
    exact rounded.away (-k)

/-- A number not below zero is rounded to a multiple that is at most half a unit above it and less
than half a unit below it. -/
theorem of_near {n : Nat} (nonneg : 0 ≤ x) (least : 2 * (n * 10 ^ unit) ≤ 2 * x + 10 ^ unit)
    (most : 2 * x < (2 * n + 1) * 10 ^ unit) : IsHalfUp unit x (n * 10 ^ unit) := by
  have scale : (0 : ℚ) < 10 ^ unit := by positivity
  have near : |x - n * 10 ^ unit| ≤ 10 ^ unit / 2 := abs_le.2 ⟨by linarith, by linarith⟩
  have below {k : Int} (less : k < n) : x - n * 10 ^ unit + 10 ^ unit ≤ x - k * 10 ^ unit := by
    have next : (k : ℚ) + 1 ≤ n := by exact_mod_cast less
    linarith [mul_le_mul_of_nonneg_right next scale.le]
  have above {k : Int} (more : (n : Int) < k) : 10 ^ unit / 2 < |x - k * 10 ^ unit| := by
    have next : (n : ℚ) + 1 ≤ k := by exact_mod_cast more
    have beyond := mul_le_mul_of_nonneg_right next scale.le
    exact lt_abs.2 (.inr (by linarith))
  refine ⟨⟨n, by push_cast; rfl⟩, fun k => ?_, fun k tie => ?_⟩
  · rcases lt_trichotomy k n with less | rfl | more
    · exact near.trans (le_abs.2 (.inl (by linarith [below less])))
    · push_cast
      rfl
    · exact near.trans (above more).le
  · rcases lt_trichotomy k n with less | rfl | more
    · -- the number lies just halfway between two multiples, and neither of them is below zero
      have half : |x - k * 10 ^ unit| ≤ 10 ^ unit / 2 := tie ▸ near
      have whole : 0 ≤ k := by
        by_contra negative
        have next : (k : ℚ) + 1 ≤ 0 := by exact_mod_cast not_le.1 negative
        linarith [(abs_le.1 half).2, mul_nonpos_of_nonpos_of_nonneg next scale.le]
      have wholly : (0 : ℚ) ≤ k := by exact_mod_cast whole
      have order : (k : ℚ) ≤ n := by exact_mod_cast less.le
      rw [abs_of_nonneg (mul_nonneg wholly scale.le),
        abs_of_nonneg (mul_nonneg n.cast_nonneg scale.le)]
      exact mul_le_mul_of_nonneg_right order scale.le
    · push_cast
      rfl
    · exact absurd (tie ▸ near) (not_le.2 (above more))

/-- Rounding keeps the order of numbers. -/
theorem monotone (rounded : IsHalfUp unit x y) (other : IsHalfUp unit x' y') (ordered : x ≤ x') :
    y ≤ y' := by
  by_contra crossed
  have below := not_le.1 crossed
  obtain ⟨n, rfl⟩ := rounded.multiple
  obtain ⟨k, rfl⟩ := other.multiple
  have first := rounded.nearest k
  have second := other.nearest n
  -- both numbers are halfway between the two multiples, which have the same magnitude then
  have upper : n * 10 ^ unit + k * 10 ^ unit ≤ 2 * x := by
    rcases abs_cases (x - n * 10 ^ unit) <;> rcases abs_cases (x - k * 10 ^ unit) <;> linarith
  have lower : 2 * x' ≤ n * 10 ^ unit + k * 10 ^ unit := by
    rcases abs_cases (x' - n * 10 ^ unit) <;> rcases abs_cases (x' - k * 10 ^ unit) <;> linarith
  obtain rfl : x = x' := by linarith
  have tie : |x - n * 10 ^ unit| = |x - k * 10 ^ unit| := le_antisymm first second
  have opposite : |(n : ℚ) * 10 ^ unit| = |(k : ℚ) * 10 ^ unit| :=
    le_antisymm (other.away n tie.symm) (rounded.away k tie)
  rcases abs_eq_abs.1 opposite with same | turned
  · linarith
  · -- so zero is between them, and nearer
    have zero := rounded.nearest 0
    have centre : x = 0 := by linarith
    rw [centre] at zero
    push_cast at zero
    rw [zero_mul, zero_sub, sub_zero, abs_neg, abs_zero] at zero
    have := abs_nonpos_iff.1 zero
    linarith

theorem unique (rounded : IsHalfUp unit x y) (other : IsHalfUp unit x y') : y = y' :=
  le_antisymm (rounded.monotone other le_rfl) (other.monotone rounded le_rfl)

/-- Multiples stay as they are. -/
theorem of_multiple (n : Int) : IsHalfUp unit (n * 10 ^ unit) (n * 10 ^ unit) := by
  refine ⟨⟨n, rfl⟩, fun k => ?_, fun k tie => ?_⟩
  · rw [sub_self, abs_zero]
    exact abs_nonneg _
  · rw [sub_self, abs_zero] at tie
    rw [sub_eq_zero.1 (abs_eq_zero.1 tie.symm)]

end IsHalfUp

/-- What a coefficient with an exponent of ten becomes in multiples of `10 ^ unit`. -/
def halfUp (coefficient : Nat) (exponent unit : Int) : Nat :=
  nearest .away (coefficient * tenTo (exponent - unit).toNat) (tenTo (unit - exponent).toNat)

theorem isHalfUp_magnitude (coefficient : Nat) (exponent unit : Int) :
    IsHalfUp unit (magnitude coefficient exponent)
      (magnitude (halfUp coefficient exponent unit) unit) := by
  have scale : (0 : ℚ) < 10 ^ unit := by positivity
  have positive := tenTo_pos (unit - exponent).toNat
  have divisor : (0 : ℚ) < tenTo (unit - exponent).toNat := by exact_mod_cast positive
  have same : magnitude coefficient exponent * tenTo (unit - exponent).toNat =
      (coefficient * tenTo (exponent - unit).toNat : Nat) * 10 ^ unit := by
    have widened : magnitude coefficient exponent * tenTo (unit - exponent).toNat =
        magnitude (coefficient * tenTo (unit - exponent).toNat) exponent := by
      rw [magnitude, magnitude]
      push_cast
      ring
    rw [widened, magnitude_mul_tenTo, ← magnitude, magnitude_mul_tenTo]
    congr 1
    omega
  obtain ⟨least, -, most⟩ :=
    nearest_bounds .away (coefficient * tenTo (exponent - unit).toNat) positive
  rw [← halfUp] at least most
  refine IsHalfUp.of_near (by unfold magnitude; positivity) ?_ ?_
  · refine le_of_mul_le_mul_right ?_ divisor
    have least := mul_le_mul_of_nonneg_right (Nat.cast_le (α := ℚ).2 least) scale.le
    push_cast at least same
    linarith
  · refine lt_of_mul_lt_mul_right ?_ divisor.le
    have most := mul_lt_mul_of_pos_right (Nat.cast_lt (α := ℚ).2 (most rfl)) scale
    push_cast at most same
    linarith

theorem isHalfUp_rational (negative : Bool) (coefficient : Nat) (exponent unit : Int) :
    IsHalfUp unit (rational negative coefficient exponent)
      (rational negative (halfUp coefficient exponent unit) unit) := by
  have rounded := isHalfUp_magnitude coefficient exponent unit
  cases negative with
  | false => exact rounded
  | true => exact rounded.neg

theorem halfUp_zero (exponent unit : Int) : halfUp 0 exponent unit = 0 := by
  have positive := tenTo_pos (unit - exponent).toNat
  exact Nat.le_zero.1 (nearest_le positive (by rw [Nat.zero_mul, Nat.zero_mul]))

/-- A number that begins too far to the left of the last place has too many digits. -/
theorem tenTo_le_halfUp {coefficient : Nat} (nonzero : coefficient ≠ 0) {exponent unit : Int}
    {places : Nat} (many : (places : Int) < digitCount coefficient + (exponent - unit)) :
    tenTo places ≤ halfUp coefficient exponent unit := by
  refine le_nearest (tenTo_pos _) ?_
  calc tenTo places * tenTo (unit - exponent).toNat
      = tenTo (places + (unit - exponent).toNat) := (Nat.pow_add 10 _ _).symm
    _ ≤ coefficient * tenTo (exponent - unit).toNat := tenTo_le_mul_tenTo nonzero (by omega)

theorem halfUp_eq (coefficient : Nat) (exponent unit : Int) :
    halfUp coefficient exponent unit =
      if unit ≤ exponent then coefficient * tenTo (exponent - unit).toNat
      else dropDigits .away coefficient (unit - exponent).toNat := by
  rw [halfUp, dropDigits_eq_nearest]
  split
  · rename_i right
    rw [Int.toNat_of_nonpos (Int.sub_nonpos_of_le right)]
    exact nearest_one _
  · rename_i left
    rw [Int.toNat_of_nonpos (Int.sub_nonpos_of_le (Int.le_of_not_le left))]
    exact congrArg (nearest .away · _) (Nat.mul_one _)

/-- A finite number is rounded unless its rounding has too many digits. -/
theorem quantize_finite {unit : Int} (within : unit.natAbs ≤ 900000) (negative : Bool)
    (coefficient : Nat) (exponent : Int) :
    (finite negative coefficient exponent).quantize unit =
      if digitCount (halfUp coefficient exponent unit) ≤ working.precision then
        .ok (finite negative (halfUp coefficient exponent unit) unit)
      else .error .invalidOperation := by
  have top : working.top = 999999 := rfl
  have tiny : working.tiny = -1000026 := rfl
  have precision : working.precision = 28 := rfl
  have inside : (decide (working.top < unit) || decide (unit < working.tiny)) = false := by
    rw [Bool.or_eq_false_iff, decide_eq_false_iff_not, decide_eq_false_iff_not]
    omega
  rw [quantize, inside, if_neg Bool.false_ne_true]
  by_cases zero : coefficient = 0
  · rw [if_pos zero, zero, halfUp_zero]
    rfl
  rw [if_neg zero]
  by_cases many : (working.precision : Int) < digitCount coefficient + (exponent - unit)
  · have long := not_lt.2 (tenTo_le_halfUp zero many)
    rw [if_pos many, if_neg (mt (digitCount_le_iff (by decide)).1 long)]
  rw [if_neg many, ← halfUp_eq]
  generalize halfUp coefficient exponent unit = rounded
  have one : digitCount 0 = 1 := by decide
  by_cases short : digitCount rounded ≤ working.precision
  · rw [if_pos short, if_neg (by omega)]
  · have nonzero : rounded ≠ 0 := by
      rintro rfl
      omega
    rw [if_neg short, if_pos ⟨nonzero, .inl (not_le.1 short)⟩]

/-- What becomes of a decimal that is rounded to the multiples of `10 ^ unit`: the rounded number is
written with the exponent `unit`, and what is not a number stays as it is. -/
inductive RoundsTo (unit : Int) : Decimal → Decimal → Prop
  | finite {negative : Bool} {coefficient rounded : Nat} {exponent : Int}
      (halfUp : IsHalfUp unit (rational negative coefficient exponent)
        (rational negative rounded unit))
      (short : digitCount rounded ≤ working.precision) :
      RoundsTo unit (.finite negative coefficient exponent) (.finite negative rounded unit)
  | nan (negative signaling : Bool) (payload : Nat) :
      RoundsTo unit (.nan negative signaling payload) (.nan negative signaling payload)

/-- Whether a decimal cannot be rounded to the multiples of `10 ^ unit`: there is no such multiple
that is nearest, or it has too many digits. -/
inductive IsUnroundable (unit : Int) : Decimal → Prop
  | infinite (negative : Bool) : IsUnroundable unit (.infinite negative)
  | long {negative : Bool} {coefficient rounded : Nat} {exponent : Int}
      (halfUp : IsHalfUp unit (rational negative coefficient exponent)
        (rational negative rounded unit))
      (many : working.precision < digitCount rounded) :
      IsUnroundable unit (.finite negative coefficient exponent)

theorem rational_injective (negative : Bool) (unit : Int) :
    Function.Injective (rational negative · unit) := by
  have scale : (10 : ℚ) ^ unit ≠ 0 := by positivity
  intro n k same
  cases negative <;> simpa [rational, magnitude, scale] using same

theorem halfUp_unique {negative : Bool} {coefficient rounded : Nat} {exponent unit : Int}
    (near : IsHalfUp unit (rational negative coefficient exponent)
      (rational negative rounded unit)) : rounded = halfUp coefficient exponent unit :=
  rational_injective negative unit (near.unique (isHalfUp_rational ..))

theorem quantize_near {unit : Int} (within : unit.natAbs ≤ 900000) {negative : Bool}
    {coefficient rounded : Nat} {exponent : Int}
    (near : IsHalfUp unit (rational negative coefficient exponent)
      (rational negative rounded unit)) :
    (finite negative coefficient exponent).quantize unit =
      if digitCount rounded ≤ working.precision then .ok (finite negative rounded unit)
      else .error .invalidOperation := by
  rw [halfUp_unique near]
  exact quantize_finite within negative coefficient exponent

theorem isUnroundable_finite {negative : Bool} {coefficient : Nat} {exponent unit : Int} :
    (finite negative coefficient exponent).IsUnroundable unit ↔
      working.precision < digitCount (halfUp coefficient exponent unit) := by
  constructor
  · rintro (_ | ⟨near, many⟩)
    rwa [← halfUp_unique near]
  · exact .long (isHalfUp_rational ..)

theorem exists_roundsTo {unit : Int} {x : Decimal} (roundable : ¬x.IsUnroundable unit) :
    ∃ y, x.RoundsTo unit y := by
  cases x with
  | finite negative coefficient exponent =>
    have short := not_lt.1 (mt isUnroundable_finite.2 roundable)
    exact ⟨_, .finite (isHalfUp_rational ..) short⟩
  | infinite negative => exact absurd (.infinite negative) roundable
  | nan negative signaling payload => exact ⟨_, .nan ..⟩

/-- Rounding twice is rounding once. -/
theorem RoundsTo.again {unit : Int} {x y : Decimal} (rounds : RoundsTo unit x y) :
    RoundsTo unit y y := by
  cases rounds with
  | @finite negative _ rounded _ near short =>
    obtain ⟨n, multiple⟩ := near.multiple
    exact .finite (multiple ▸ IsHalfUp.of_multiple n) short
  | nan => exact .nan ..

/-- Rounding keeps the order of numbers. -/
theorem RoundsTo.monotone {unit : Int} {x y x' y' : Decimal} (rounds : RoundsTo unit x y)
    (other : RoundsTo unit x' y') (ordered : x.number ≤ x'.number) : y.number ≤ y'.number := by
  cases rounds with
  | nan => exact bot_le
  | finite near _ =>
    cases other with
    | finite also _ => exact number_le_iff.2 (near.monotone also (number_le_iff.1 ordered))
    | nan => exact absurd ordered (WithBot.not_coe_le_bot _)

end CalendarSeries.Decimal
