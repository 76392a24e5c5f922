import CalendarSeries.Proofs.Decimal.Faithful
/-!
Sums and quotients of finite decimals. As long as the exact result is not above the greatest power
of ten, there is a result, and it is faithful to the exact one: a summand that is replaced because
it is too small to show, and a quotient that is moved off a tie, pass no number that can be held.
-/
namespace CalendarSeries.Decimal

open CalendarSeries.Number

variable {m n : Bool} {a b : Nat} {i j : Int} {q q' : ℚ} {outcome : Except Signal Decimal}

theorem Yields.of_faithful (faithful : Faithful q q') (yields : Yields outcome q') :
    Yields outcome q := by
  obtain ⟨m, a, i, found, rounded⟩ := yields
  exact ⟨m, a, i, found, faithful.trans rounded⟩

theorem Faithful.abs_le_top (faithful : Faithful q q') (small : |q| ≤ 10 ^ working.top) :
    |q'| ≤ 10 ^ working.top := by
  obtain ⟨lower, upper⟩ := abs_le.1 small
  exact abs_le.2 ⟨(faithful _ isHeld_top.neg).1 lower, (faithful _ isHeld_top).2 upper⟩

theorem abs_rational (m : Bool) (a : Nat) (i : Int) : |rational m a i| = magnitude a i := by
  have nonneg : 0 ≤ magnitude a i := by
    unfold magnitude
    positivity
  cases m with
  | false => exact abs_of_nonneg nonneg
  | true => exact (abs_neg _).trans (abs_of_nonneg nonneg)

theorem rational_not (m : Bool) (a : Nat) (i : Int) : rational (!m) a i = -rational m a i := by
  cases m <;> simp [rational]

theorem rational_shift (n : Bool) (b : Nat) (left : i ≤ j) :
    rational n (b * tenTo (j - i).toNat) i = rational n b j := by
  have same : i + ((j - i).toNat : Int) = j := by omega
  rw [rational, rational, magnitude_mul_tenTo, same]

theorem rational_add (m : Bool) (a b : Nat) (i : Int) :
    rational m (a + b) i = rational m a i + rational m b i := by
  have sum : magnitude (a + b) i = magnitude a i + magnitude b i := by
    rw [magnitude, magnitude, magnitude, Nat.cast_add, add_mul]
  rw [rational, rational, rational, sum]
  split <;> ring

theorem rational_sub (m : Bool) (less : b ≤ a) (i : Int) :
    rational m (a - b) i = rational m a i - rational m b i := by
  rw [eq_sub_iff_add_eq, ← rational_add, Nat.sub_add_cancel less]

/-- The sum of two numbers with one exponent. -/
theorem combine_yields {k : Int} (small : |rational m a i + rational n b i| ≤ 10 ^ working.top) :
    Yields (if m = n then fit working m (a + b) i
      else if a = b then fit working false 0 k
      else if b < a then fit working m (a - b) i
      else fit working n (b - a) i) (rational m a i + rational n b i) := by
  have exact_sum {l : Bool} {c : Nat} (same : rational l c i = rational m a i + rational n b i) :
      Yields (fit working l c i) (rational m a i + rational n b i) := by
    rw [← same] at small ⊢
    exact fit_yields l (abs_rational l c i ▸ small)
  by_cases alike : m = n
  · subst alike
    rw [if_pos rfl]
    exact exact_sum (rational_add m a b i)
  obtain rfl : n = !m := Bool.eq_not.2 (Ne.symm alike)
  rw [if_neg alike]
  split
  · rename_i same
    subst same
    have zero : rational m a i + rational (!m) a i = rational false 0 k := by
      rw [rational_not, rational_zero, add_neg_cancel]
    rw [zero]
    exact fit_yields false (by rw [magnitude_zero]; positivity)
  split
  · rename_i less
    exact exact_sum (by rw [rational_sub m less.le, rational_not, sub_eq_add_neg])
  · rename_i more
    refine exact_sum ?_
    rw [rational_sub _ (not_lt.1 more), rational_not, rational_not, sub_neg_eq_add, add_comm]

/-- A summand that is too small to show may be replaced by one unit in a place where it still cannot
show. -/
theorem sticky_faithful (m n : Bool) {floor : Int} (nonzero : a ≠ 0) (other : b ≠ 0)
    (place : floor < j) (digits : floor ≤ j + digitCount b - 30)
    (small : i + digitCount a - 1 < floor) :
    Faithful (rational m a i + rational n b j) (rational m 1 floor + rational n b j) := by
  have positive := magnitude_pos nonzero i
  have bound : magnitude a i < 10 ^ floor := by
    refine (magnitude_bounds nonzero i).2.trans_le (zpow_le_zpow_right₀ (by norm_num) ?_)
    rw [leadingExponent_eq]
    omega
  have unit : (10 : ℚ) ^ floor < 10 ^ (floor + 1) := zpow_lt_zpow_right₀ (by norm_num) (by omega)
  have one : magnitude 1 floor < 10 ^ (floor + 1) := by
    rwa [magnitude, Nat.cast_one, one_mul]
  have main (m : Bool) : Faithful (rational m a i + rational false b j)
      (rational m 1 floor + rational false b j) := by
    have many : tenTo 28 ≤ b * tenTo (j - (floor + 1)).toNat :=
      tenTo_le_mul_tenTo other (by omega)
    obtain ⟨added, taken⟩ :=
      Faithful.beside many positive (bound.trans unit) (magnitude_pos Nat.one_ne_zero floor) one
    rw [← rational_shift false b (show floor + 1 ≤ j by omega)]
    cases m with
    | false => exact added
    | true => exact taken
  cases n with
  | false => exact main m
  | true =>
    have turned := (main (!m)).neg
    have flipped : rational true b j = -rational false b j := rational_not false b j
    rw [rational_not, rational_not, neg_add, neg_add, neg_neg, neg_neg, ← flipped] at turned
    exact turned

/-- What is summed after writing both numbers with one exponent is faithful to the sum. -/
theorem align_faithful (m n : Bool) (nonzero : a ≠ 0) (other : b ≠ 0) {c d : Nat} {k : Int}
    (aligned : align working.precision a i b j = (c, d, k)) :
    Faithful (rational m a i + rational n b j) (rational m c k + rational n d k) := by
  have precision : working.precision = 28 := rfl
  unfold align at aligned
  split at aligned
  · rename_i before
    dsimp only at aligned
    split at aligned <;> dsimp only at aligned <;> cases aligned
    · rename_i small
      rw [rational_shift n b (by omega)]
      exact sticky_faithful m n nonzero other (by omega) (by omega) small
    · rw [rational_shift n b before.le]
      exact .refl _
  · rename_i after
    dsimp only at aligned
    split at aligned <;> dsimp only at aligned <;> cases aligned
    · rename_i small
      rw [rational_shift m a (by omega), add_comm, add_comm (rational m a i)]
      exact sticky_faithful n m other nonzero (by omega) (by omega) small
    · rw [rational_shift m a (not_lt.1 after)]
      exact .refl _

theorem addToZero_yields (n : Bool) (small : |rational n b j| ≤ 10 ^ working.top) :
    Yields (addToZero working i n b j) (rational n b j) := by
  have left : max (min i j) (j - working.precision - 1) ≤ j := by
    have precision : working.precision = 28 := rfl
    omega
  rw [addToZero, ← rational_shift n b left]
  rw [← rational_shift n b left, abs_rational] at small
  exact fit_yields n small

/-- Finite decimals have a sum, unless it is too large. -/
theorem add_yields (small : |rational m a i + rational n b j| ≤ 10 ^ working.top) :
    Yields ((finite m a i).add (finite n b j)) (rational m a i + rational n b j) := by
  change Yields (addFinite working m a i n b j) _
  unfold addFinite
  split
  · rename_i zeros
    obtain ⟨rfl, rfl⟩ := zeros
    have zero : rational m 0 i + rational n 0 j = rational (m && n) 0 (min i j) := by
      rw [rational_zero, rational_zero, rational_zero, add_zero]
    rw [zero]
    exact fit_yields _ (by rw [magnitude_zero]; positivity)
  split
  · rename_i zero
    subst zero
    rw [rational_zero, zero_add] at small ⊢
    exact addToZero_yields n small
  split
  · rename_i zero
    subst zero
    rw [rational_zero, add_zero] at small ⊢
    exact addToZero_yields m small
  · rename_i _ first second
    generalize aligned : align working.precision a i b j = parts
    obtain ⟨c, d, k⟩ := parts
    have faithful := align_faithful m n first second aligned
    exact .of_faithful faithful (combine_yields (faithful.abs_le_top small))

/-- A quotient as one of whole numbers, of which one is written with further digits. -/
theorem quotient_scaled (a : Nat) (other : b ≠ 0) (i j shift : Int) :
    magnitude a i / magnitude b j = (a * tenTo shift.toNat : Nat) /
      (b * tenTo (-shift).toNat : Nat) * 10 ^ (i - j - shift) := by
  have power : (10 : ℚ) ^ i * (10 : ℚ) ^ (-shift).toNat =
      (10 : ℚ) ^ shift.toNat * 10 ^ (i - j - shift) * 10 ^ j := by
    rw [← zpow_natCast, ← zpow_natCast, ← zpow_add₀ (by norm_num), ← zpow_add₀ (by norm_num),
      ← zpow_add₀ (by norm_num)]
    congr 1
    omega
  have divisor : ((b * tenTo (-shift).toNat : Nat) : ℚ) ≠ 0 := by
    exact_mod_cast Nat.mul_ne_zero other (tenTo_pos _).ne'
  rw [div_mul_eq_mul_div, div_eq_div_iff (magnitude_pos other j).ne' divisor, magnitude, magnitude]
  simp only [tenTo, Nat.pow_eq]
  push_cast
  calc (a : ℚ) * 10 ^ i * (b * 10 ^ (-shift).toNat)
      = a * b * (10 ^ i * 10 ^ (-shift).toNat) := by ring
    _ = a * 10 ^ shift.toNat * 10 ^ (i - j - shift) * (b * 10 ^ j) := by
        rw [power]
        ring

/-- As many digits are added as make the quotient long enough. -/
theorem tenTo_le_quotient (nonzero : a ≠ 0) (other : b ≠ 0) {shift : Int} {places : Nat}
    (enough : digitCount b + places < digitCount a + shift) :
    tenTo places ≤ a * tenTo shift.toNat / (b * tenTo (-shift).toNat) := by
  rw [Nat.le_div_iff_mul_le (Nat.mul_pos (Nat.pos_of_ne_zero other) (tenTo_pos _))]
  calc tenTo places * (b * tenTo (-shift).toNat)
      ≤ tenTo places * (tenTo (digitCount b) * tenTo (-shift).toNat) :=
        Nat.mul_le_mul_left _ (Nat.mul_le_mul_right _ (lt_tenTo_digitCount b).le)
    _ = tenTo (places + (digitCount b + (-shift).toNat)) := by
        simp only [tenTo, Nat.pow_eq, Nat.pow_add]
    _ ≤ a * tenTo shift.toNat := tenTo_le_mul_tenTo nonzero (by omega)

/-- What is rounded to a quotient is faithful to it: the exact quotient, or a neighbouring whole
number of units of which there are enough. -/
theorem divPositive_faithful (negative : Bool) (nonzero : a ≠ 0) (other : b ≠ 0) (i j : Int) :
    ∃ c k, divPositive working negative a i b j = fit working negative c k ∧
      Faithful (magnitude a i / magnitude b j) (magnitude c k) := by
  have precision : working.precision = 28 := rfl
  unfold divPositive
  rw [precision]
  generalize shift_eq : ((digitCount b : Int) - digitCount a + (28 : Nat) + 1) = shift
  dsimp only
  have positive : 0 < b * tenTo (-shift).toNat :=
    Nat.mul_pos (Nat.pos_of_ne_zero other) (tenTo_pos _)
  have many : tenTo 28 ≤ a * tenTo shift.toNat / (b * tenTo (-shift).toNat) :=
    tenTo_le_quotient nonzero other (by omega)
  rw [quotient_scaled a other i j shift]
  generalize a * tenTo shift.toNat = dividend at many ⊢
  generalize b * tenTo (-shift).toNat = divisor at positive many ⊢
  generalize i - j - shift = unit
  have whole := Nat.div_add_mod dividend divisor
  have rest := Nat.mod_lt dividend positive
  have scale : (0 : ℚ) < 10 ^ unit := by positivity
  have divides : (0 : ℚ) < divisor := by exact_mod_cast positive
  generalize dividend / divisor = quotient at many whole ⊢
  split
  · rename_i exactly
    refine ⟨_, _, rfl, ?_⟩
    have same : (dividend : ℚ) / divisor = quotient := by
      rw [div_eq_iff divides.ne', ← whole, exactly]
      push_cast
      ring
    rw [← magnitude_mul_tenTo, dropZeros_mul_tenTo, same]
    exact .refl _
  · rename_i inexact
    refine ⟨_, _, rfl, ?_⟩
    have below : tenTo 27 < tenTo 28 := by decide
    have lower : (quotient : ℚ) < dividend / divisor := by
      rw [lt_div_iff₀ divides]
      exact_mod_cast show quotient * divisor < dividend by
        rw [Nat.mul_comm]
        omega
    have upper : (dividend : ℚ) / divisor < quotient + 1 := by
      rw [div_lt_iff₀ divides]
      exact_mod_cast show dividend < (quotient + 1) * divisor by
        rw [Nat.add_mul, Nat.one_mul, Nat.mul_comm]
        omega
    refine .of_cell (n := quotient) (below.le.trans many) (mul_lt_mul_of_pos_right lower scale)
      (mul_lt_mul_of_pos_right upper scale) ?_ ?_
    all_goals
      refine mul_le_mul_of_nonneg_right ?_ scale.le
      split <;> push_cast <;> linarith

/-- Finite decimals have a quotient by a number that is not zero, unless it is too large. -/
theorem div_yields (other : b ≠ 0) (small : |rational m a i / rational n b j| ≤ 10 ^ working.top) :
    Yields ((finite m a i).div (finite n b j)) (rational m a i / rational n b j) := by
  have signed : rational m a i / rational n b j =
      if xor m n then -(magnitude a i / magnitude b j) else magnitude a i / magnitude b j := by
    cases m <;> cases n <;> simp [rational, neg_div, div_neg]
  change Yields (if b = 0 then _ else _) _
  rw [if_neg other]
  by_cases zero : a = 0
  · subst zero
    rw [if_pos rfl, rational_zero, zero_div, ← rational_zero (xor m n) (i - j)]
    exact fit_yields _ (by rw [magnitude_zero]; positivity)
  obtain ⟨c, k, found, near⟩ := divPositive_faithful (xor m n) zero other i j
  have faithful : Faithful (rational m a i / rational n b j) (rational (xor m n) c k) := by
    rw [signed, rational]
    cases xor m n with
    | false => exact near
    | true => exact near.neg
  have bound := faithful.abs_le_top small
  rw [abs_rational] at bound
  rw [if_neg zero, found]
  exact .of_faithful faithful (fit_yields _ bound)

end CalendarSeries.Decimal
