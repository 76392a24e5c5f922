import CalendarSeries.Text.Blank
import CalendarSeries.Text.Digit
import Mathlib.Tactic.IntervalCases
/-!
Texts of digits. A whole number is written in the digits `0` to `9`, which are read as what they
stand for, and a text of so many of them stays below that power of ten. Without zeros in front the
digits of a number are the only ones that are read as it.
-/
namespace CalendarSeries.Text

/-- The last digit comes off the end. -/
theorem padded_succ {width : Nat} (positive : 0 < width) (n : Nat) :
    padded (width + 1) n = padded width (n / 10) ++ [(n % 10).digitChar] := by
  unfold padded
  dsimp only
  rcases Nat.lt_or_ge n 10 with short | long
  · rw [Nat.toDigits_of_lt_base short, Nat.div_eq_of_lt short, Nat.mod_eq_of_lt short,
      Nat.toDigits_zero]
    obtain ⟨width, rfl⟩ := Nat.exists_eq_succ_of_ne_zero (Nat.ne_of_gt positive)
    simp [List.replicate_succ']
  · rw [Nat.toDigits_of_base_le (by decide) long]
    simp

theorem padded_one {n : Nat} (short : n < 10) : padded 1 n = [n.digitChar] := by
  rw [padded, Nat.toDigits_of_lt_base short]
  rfl

theorem padded_two {n : Nat} (short : n < 100) :
    padded 2 n = [(n / 10).digitChar, (n % 10).digitChar] := by
  rw [padded_succ (by decide), padded_one (by omega)]
  rfl

theorem padded_four {n : Nat} (short : n < 10000) :
    padded 4 n = [(n / 10 / 10 / 10).digitChar, (n / 10 / 10 % 10).digitChar,
      (n / 10 % 10).digitChar, (n % 10).digitChar] := by
  rw [padded_succ (by decide), padded_succ (by decide), padded_two (by omega)]
  rfl

/-- A number of no more digits than the width takes all of it. -/
theorem length_padded {width n : Nat} (wide : 0 < width) (short : n < 10 ^ width) :
    (padded width n).length = width := by
  induction width, wide using Nat.le_induction generalizing n with
  | base => rw [padded_one short, List.length_singleton]
  | succ width wide ih =>
    rw [padded_succ wide, List.length_append, ih (by omega), List.length_singleton]

theorem isDigit_of_mem_padded {width n : Nat} {c : Char} (member : c ∈ padded width n) :
    c.isDigit = true := by
  rcases List.mem_append.1 member with zero | digit
  · rw [List.eq_of_mem_replicate zero]
    rfl
  · exact Nat.isDigit_of_mem_toDigits (by decide) (Nat.le_refl _) digit

theorem toNat_of_isDigit {c : Char} (digit : c.isDigit = true) : 48 ≤ c.toNat ∧ c.toNat ≤ 57 := by
  simp only [Char.isDigit, Bool.and_eq_true, decide_eq_true_eq, ge_iff_le, UInt32.le_iff_toNat_le]
    at digit
  exact digit

theorem isBlank_of_isDigit {c : Char} (digit : c.isDigit = true) : isBlank c = false := by
  have range := toNat_of_isDigit digit
  simp [isBlank, isNumberBlank, isSeparator]
  omega

theorem decimalValue_of_isDigit {c : Char} (digit : c.isDigit = true) :
    decimalValue c = some (c.toNat - 48) := by
  obtain ⟨least, most⟩ := toNat_of_isDigit digit
  rw [decimalValue, decimalZeros, List.find?_cons_of_pos (by simp; omega)]
  rfl

theorem asciiValue_of_isDigit {c : Char} (digit : c.isDigit = true) :
    asciiValue c = some (c.toNat - 48) := by
  rw [asciiValue, if_pos (by simpa using toNat_of_isDigit digit)]

/-- A text of at least one character, all of them `0` to `9`. -/
structure IsDigits (cs : List Char) : Prop where
  nonempty : cs ≠ []
  digits : ∀ c ∈ cs, c.isDigit = true

theorem isDigits_toDigits (n : Nat) : IsDigits (Nat.toDigits 10 n) where
  nonempty := Nat.toDigits_ne_nil
  digits _ member := Nat.isDigit_of_mem_toDigits (by decide) (Nat.le_refl _) member

theorem isDigits_padded (width n : Nat) : IsDigits (padded width n) where
  nonempty := List.append_ne_nil_of_right_ne_nil _ Nat.toDigits_ne_nil
  digits _ member := isDigit_of_mem_padded member

/-- What the digits of a text stand for one by one. -/
def placeValues (cs : List Char) : List Nat :=
  cs.map (·.toNat - 48)

theorem mapM_decimalValue {cs : List Char} (digits : ∀ c ∈ cs, c.isDigit = true) :
    cs.mapM decimalValue = some (placeValues cs) := by
  induction cs with
  | nil => rfl
  | cons c cs ih =>
    obtain ⟨first, later⟩ := List.forall_mem_cons.1 digits
    rw [List.mapM_cons, decimalValue_of_isDigit first, ih later]
    rfl

theorem mapM_asciiValue {cs : List Char} (digits : ∀ c ∈ cs, c.isDigit = true) :
    cs.mapM asciiValue = some (placeValues cs) := by
  induction cs with
  | nil => rfl
  | cons c cs ih =>
    obtain ⟨first, later⟩ := List.forall_mem_cons.1 digits
    rw [List.mapM_cons, asciiValue_of_isDigit first, ih later]
    rfl

theorem digitsValue_placeValues (cs : List Char) :
    digitsValue (placeValues cs) = Nat.ofDigitChars 10 cs 0 := by
  rw [digitsValue, placeValues, List.foldl_map, Nat.ofDigitChars_eq_foldl]
  simp only [Nat.mul_comm]
  rfl

/-- Zeros in front do not count. -/
theorem ofDigitChars_zeros_append (zeros : Nat) (cs : List Char) :
    Nat.ofDigitChars 10 (List.replicate zeros '0' ++ cs) 0 = Nat.ofDigitChars 10 cs 0 := by
  rw [Nat.ofDigitChars_append, Nat.ofDigitChars_replicate_zero, Nat.mul_zero]

theorem ofDigitChars_padded (width n : Nat) : Nat.ofDigitChars 10 (padded width n) 0 = n := by
  rw [padded, ofDigitChars_zeros_append, Nat.ofDigitChars_ten_toDigits]

theorem ofDigitChars_lt {cs : List Char} (digits : ∀ c ∈ cs, c.isDigit = true) :
    Nat.ofDigitChars 10 cs 0 < 10 ^ cs.length := by
  induction cs with
  | nil => decide
  | cons c cs ih =>
    obtain ⟨first, later⟩ := List.forall_mem_cons.1 digits
    have most := (toNat_of_isDigit first).2
    have bound : (c.toNat - 48) * 10 ^ cs.length ≤ 9 * 10 ^ cs.length :=
      Nat.mul_le_mul_right _ (by omega)
    have rest := ih later
    rw [Nat.ofDigitChars_cons, Nat.ofDigitChars_eq_ofDigitChars_zero, List.length_cons,
      Nat.pow_succ]
    change 10 ^ cs.length * (10 * 0 + (c.toNat - 48)) + _ < _
    rw [Nat.mul_zero, Nat.zero_add, Nat.mul_comm]
    omega

theorem digitChar_toNat {c : Char} (digit : c.isDigit = true) : (c.toNat - 48).digitChar = c := by
  have range := toNat_of_isDigit digit
  rw [← Char.toNat_inj, Nat.toNat_digitChar_of_lt_ten (by omega)]
  omega

/-- Digits after a number that is not zero are its further digits. -/
theorem toDigits_ofDigitChars {cs : List Char} (digits : ∀ c ∈ cs, c.isDigit = true) {n : Nat}
    (nonzero : 0 < n) : Nat.toDigits 10 (Nat.ofDigitChars 10 cs n) = Nat.toDigits 10 n ++ cs := by
  induction cs generalizing n with
  | nil => rw [Nat.ofDigitChars_nil, List.append_nil]
  | cons c cs ih =>
    obtain ⟨first, later⟩ := List.forall_mem_cons.1 digits
    obtain ⟨least, most⟩ := toNat_of_isDigit first
    have small : c.toNat - 48 < 10 := by omega
    rw [Nat.ofDigitChars_cons, ih later (by omega)]
    change Nat.toDigits 10 (10 * n + (c.toNat - 48)) ++ cs = _
    rw [← Nat.toDigits_append_toDigits (by decide) nonzero small,
      Nat.toDigits_of_lt_base small, digitChar_toNat first, List.append_assoc,
      List.singleton_append]

/-- No number but zero is written with a zero in front. -/
theorem head?_toDigits {n : Nat} (nonzero : 0 < n) : (Nat.toDigits 10 n).head? ≠ some '0' := by
  induction n using Nat.strongRecOn with
  | ind n ih =>
    rcases Nat.lt_or_ge n 10 with short | long
    · rw [Nat.toDigits_of_lt_base short]
      interval_cases n <;> decide
    · have leading := ih (n / 10) (by omega) (by omega)
      rw [Nat.toDigits_of_base_le (by decide) long]
      cases front : Nat.toDigits 10 (n / 10) with
      | nil => exact absurd front Nat.toDigits_ne_nil
      | cons c cs =>
        rw [front] at leading
        exact leading

/-- Digits without a zero in front are the digits of the number that they are read as. -/
theorem toDigits_of_isDigits {cs : List Char} (digits : IsDigits cs) (first : cs.head? ≠ some '0') :
    Nat.toDigits 10 (Nat.ofDigitChars 10 cs 0) = cs := by
  obtain ⟨nonempty, digits⟩ := digits
  cases cs with
  | nil => exact absurd rfl nonempty
  | cons c cs =>
    obtain ⟨digit, later⟩ := List.forall_mem_cons.1 digits
    obtain ⟨least, most⟩ := toNat_of_isDigit digit
    have small : c.toNat - 48 < 10 := by omega
    have positive : 0 < c.toNat - 48 := by
      refine Nat.pos_of_ne_zero fun zero => first ?_
      rw [List.head?_cons, ← digitChar_toNat digit, zero]
      rfl
    rw [Nat.ofDigitChars_cons]
    change Nat.toDigits 10 (Nat.ofDigitChars 10 cs (10 * 0 + (c.toNat - 48))) = _
    rw [Nat.mul_zero, Nat.zero_add, toDigits_ofDigitChars later positive,
      Nat.toDigits_of_lt_base small, digitChar_toNat digit, List.singleton_append]

/-- A character that a text does not have splits it nowhere. -/
theorem splitFirst_eq_none {sep : Char} {cs : List Char} (absent : ∀ c ∈ cs, c ≠ sep) :
    splitFirst sep cs = none := by
  induction cs with
  | nil => rfl
  | cons c cs ih =>
    obtain ⟨first, later⟩ := List.forall_mem_cons.1 absent
    rw [splitFirst, if_neg first, ih later]
    rfl

theorem splitFirst_append {sep : Char} {before : List Char} (absent : ∀ c ∈ before, c ≠ sep)
    (after : List Char) : splitFirst sep (before ++ sep :: after) = some (before, after) := by
  induction before with
  | nil => simp [splitFirst]
  | cons c before ih =>
    obtain ⟨first, later⟩ := List.forall_mem_cons.1 absent
    rw [List.cons_append, splitFirst, if_neg first, ih later]
    rfl

end CalendarSeries.Text
