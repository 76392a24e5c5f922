import CalendarSeries.Proofs.Number.Logarithm
import Mathlib.Tactic.Linarith
/-!
What is left of a whole number when its last digits are dropped: the nearest whole number to the
quotient by a power of ten, also where the number has fewer digits than are dropped. However a tie
is decided, it lies at most half a unit off, and on the same side of every other whole number.
-/
namespace CalendarSeries.Number

variable {tie : Tie} {dividend divisor n places : Nat}

theorem tenTo_pos (places : Nat) : 0 < tenTo places :=
  Nat.pow_pos (by decide)

theorem lt_tenTo_digitCount (n : Nat) : n < tenTo (digitCount n) := by
  rw [digitCount, logTen_eq, tenTo, Nat.pow_eq]
  exact Nat.lt_pow_succ_log_self (by decide) n

theorem tenTo_le_of_digitCount (nonzero : n ≠ 0) : tenTo (digitCount n - 1) ≤ n := by
  rw [digitCount, Nat.add_sub_cancel, logTen_eq, tenTo, Nat.pow_eq]
  exact Nat.pow_log_le_self 10 nonzero

theorem tenTo_le_mul_tenTo (nonzero : n ≠ 0) {all : Nat}
    (enough : all < digitCount n + places) : tenTo all ≤ n * tenTo places :=
  calc tenTo all ≤ tenTo (digitCount n - 1 + places) :=
        Nat.pow_le_pow_right (by decide) (by omega)
    _ = tenTo (digitCount n - 1) * tenTo places := Nat.pow_add 10 _ _
    _ ≤ n * tenTo places := Nat.mul_le_mul_right _ (tenTo_le_of_digitCount nonzero)

theorem digitCount_le_iff (positive : places ≠ 0) : digitCount n ≤ places ↔ n < tenTo places := by
  rw [digitCount, Nat.succ_le_iff, logTen_eq, tenTo, Nat.pow_eq]
  exact ⟨Nat.lt_pow_of_log_lt (by decide), Nat.log_lt_of_lt_pow' positive⟩

theorem nearest_one (n : Nat) : nearest tie n 1 = n := by
  simp [nearest, roundsUp, Nat.mod_one]

theorem nearest_of_lt_half (below : 2 * dividend < divisor) : nearest tie dividend divisor = 0 := by
  have less : dividend < divisor := by omega
  have down : roundsUp tie 0 dividend divisor = false := by
    simp [roundsUp]
    omega
  rw [nearest, Nat.div_eq_of_lt less, Nat.mod_eq_of_lt less]
  rw [down, if_neg Bool.false_ne_true]

/-- The digits of a number that has too few of them are dropped as well. -/
theorem dropDigits_eq_nearest (n places : Nat) :
    dropDigits tie n places = nearest tie n (tenTo places) := by
  rw [dropDigits]
  split
  · rename_i few
    refine (nearest_of_lt_half ?_).symm
    calc 2 * n < 2 * tenTo (digitCount n) := by
          have := lt_tenTo_digitCount n
          omega
      _ ≤ tenTo (digitCount n + 1) := by
          rw [tenTo, tenTo, Nat.pow_eq, Nat.pow_eq, Nat.pow_succ]
          omega
      _ ≤ tenTo places := Nat.pow_le_pow_right (by decide) few
  · rfl

/-- A quotient lies at most half a unit above what it is rounded to, and at most half a unit below;
just half a unit above only if a tie may be decided downwards. -/
theorem nearest_bounds (tie : Tie) (dividend : Nat) (positive : 0 < divisor) :
    2 * nearest tie dividend divisor * divisor ≤ 2 * dividend + divisor ∧
      2 * dividend ≤ (2 * nearest tie dividend divisor + 1) * divisor ∧
      (tie = .away → 2 * dividend < (2 * nearest tie dividend divisor + 1) * divisor) := by
  have whole := Nat.div_add_mod dividend divisor
  have rest := Nat.mod_lt dividend positive
  rw [nearest]
  generalize dividend / divisor = quotient at whole ⊢
  generalize dividend % divisor = remainder at whole rest ⊢
  subst whole
  split
  · rename_i up
    have enough : divisor ≤ 2 * remainder := by
      simp [roundsUp] at up
      omega
    exact ⟨by linarith, by linarith, fun _ => by linarith⟩
  · rename_i down
    have little : 2 * remainder ≤ divisor ∧ (tie = .away → 2 * remainder < divisor) := by
      simp [roundsUp] at down
      refine ⟨by omega, ?_⟩
      rintro rfl
      simp at down
      omega
    exact ⟨by linarith, by linarith [little.1], fun away => by linarith [little.2 away]⟩

/-- Rounding does not pass a whole number. -/
theorem le_nearest (positive : 0 < divisor) (above : n * divisor ≤ dividend) :
    n ≤ nearest tie dividend divisor := by
  have bound := (nearest_bounds tie dividend positive).2.1
  have near : 2 * n * divisor ≤ (2 * nearest tie dividend divisor + 1) * divisor := by linarith
  have := Nat.le_of_mul_le_mul_right near positive
  omega

theorem nearest_le (positive : 0 < divisor) (below : dividend ≤ n * divisor) :
    nearest tie dividend divisor ≤ n := by
  have bound := (nearest_bounds tie dividend positive).1
  have near : 2 * nearest tie dividend divisor * divisor ≤ (2 * n + 1) * divisor := by linarith
  have := Nat.le_of_mul_le_mul_right near positive
  omega

/-- The zeros that are removed are those of a power of ten. -/
theorem dropZeros_mul_tenTo (most n : Nat) :
    (dropZeros most n).1 * tenTo (dropZeros most n).2 = n := by
  induction most generalizing n with
  | zero => exact Nat.mul_one n
  | succ most ih =>
    rw [dropZeros]
    split
    · rename_i ends
      have next (places : Nat) : tenTo (places + 1) = tenTo places * 10 := Nat.pow_succ 10 places
      dsimp only
      rw [next, ← Nat.mul_assoc, ih, Nat.div_mul_cancel (Nat.dvd_of_mod_eq_zero ends.1)]
    · exact Nat.mul_one n

end CalendarSeries.Number
