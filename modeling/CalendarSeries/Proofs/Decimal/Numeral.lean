import CalendarSeries.Decimal.Text
import CalendarSeries.Proofs.Number.Logarithm
import CalendarSeries.Proofs.Text.Digits
import CalendarSeries.Proofs.Text.Words
/-!
Numerals: a sign, digits with at most a point among them, and perhaps an exponent. A numeral of
digits `0` to `9` is read as the coefficient that all its digits make together, with the exponent
that the digits after the point take away from the one that is written.
-/
namespace CalendarSeries.Decimal

open CalendarSeries.Number CalendarSeries.Text

/-- Digits, with a point and the rest of them after it if there is a rest. -/
def numeral (whole fraction : List Char) : List Char :=
  if fraction = [] then whole else whole ++ '.' :: fraction

/-- The characters of numerals. -/
def IsNumeralChar (c : Char) : Prop :=
  c.isDigit = true ∨ c = '.' ∨ c = 'e' ∨ c = '-' ∨ c = '+'

/-- A text that begins with a digit and has the characters of numerals only. -/
structure IsNumeral (cs : List Char) : Prop where
  starts : ∃ first rest, cs = first :: rest ∧ first.isDigit = true
  signs : ∀ c ∈ cs, IsNumeralChar c

/-- A decimal, if it can be held without losing a digit. -/
def held? (negative : Bool) (coefficient : Nat) (exponent : Int) : Option Decimal :=
  if holdsExactly coefficient exponent then some (.finite negative coefficient exponent) else none

theorem holdsExactly_iff {coefficient : Nat} {exponent : Int} :
    holdsExactly coefficient exponent = true ↔
      widest.tiny ≤ exponent ∧ exponent + logTen coefficient ≤ widest.top := by
  simp only [holdsExactly, Bool.and_eq_true, decide_eq_true_eq]
  rfl

section Characters

variable {c : Char}

theorem ne_of_isDigit {other : Char} (digit : c.isDigit = true) (bare : other.isDigit = false) :
    c ≠ other := by
  rintro rfl
  cases digit.symm.trans bare

theorem IsNumeralChar.isBlank (isNumeral : IsNumeralChar c) : isBlank c = false := by
  rcases isNumeral with digit | rfl | rfl | rfl | rfl
  · exact isBlank_of_isDigit digit
  all_goals rfl

theorem IsNumeralChar.ne_underscore (isNumeral : IsNumeralChar c) : c ≠ '_' := by
  rcases isNumeral with digit | rfl | rfl | rfl | rfl
  · exact ne_of_isDigit digit rfl
  all_goals decide

theorem IsNumeralChar.toLower (isNumeral : IsNumeralChar c) : c.toLower = c := by
  rcases isNumeral with digit | rfl | rfl | rfl | rfl
  · have most : c.val.toNat ≤ 57 := (toNat_of_isDigit digit).2
    refine dif_neg fun upper => ?_
    have least : 65 ≤ c.val.toNat := UInt32.le_iff_toNat_le.1 upper.1
    omega
  all_goals rfl

end Characters

section Reading

variable {whole fraction : List Char}

theorem IsNumeral.of_isDigits (digits : IsDigits whole) (after : ∀ c ∈ fraction, c.isDigit = true) :
    IsNumeral (numeral whole fraction) := by
  obtain ⟨first, rest, rfl⟩ := List.exists_cons_of_ne_nil digits.nonempty
  have begins := digits.digits first List.mem_cons_self
  rw [numeral]
  split
  · exact ⟨⟨first, rest, rfl, begins⟩, fun c member => .inl (digits.digits c member)⟩
  · refine ⟨⟨first, rest ++ '.' :: fraction, rfl, begins⟩, fun c member => ?_⟩
    rcases List.mem_append.1 member with inside | later
    · exact .inl (digits.digits c inside)
    · rcases List.mem_cons.1 later with point | inside
      · exact .inr (.inl point)
      · exact .inl (after c inside)

/-- No digits and no point take part in splitting off an exponent. -/
theorem ne_mark_of_mem_numeral (digits : IsDigits whole)
    (after : ∀ c ∈ fraction, c.isDigit = true) : ∀ c ∈ numeral whole fraction, c ≠ 'e' := by
  intro c member
  rw [numeral] at member
  split at member
  · exact ne_of_isDigit (digits.digits c member) rfl
  · rcases List.mem_append.1 member with inside | later
    · exact ne_of_isDigit (digits.digits c inside) rfl
    · rcases List.mem_cons.1 later with rfl | inside
      · decide
      · exact ne_of_isDigit (after c inside) rfl

theorem readCoefficient_numeral (digits : IsDigits whole)
    (after : ∀ c ∈ fraction, c.isDigit = true) :
    readCoefficient (numeral whole fraction) =
      some (placeValues (whole ++ fraction), fraction.length) := by
  have bare : ∀ c ∈ whole, c ≠ '.' := fun c member => ne_of_isDigit (digits.digits c member) rfl
  have some_digit : (placeValues whole).isEmpty = false := by
    simp [placeValues, digits.nonempty]
  rw [readCoefficient, numeral]
  by_cases none : fraction = []
  · subst none
    simp only [if_pos, splitFirst_eq_none bare, mapM_decimalValue digits.digits, bind, Option.bind,
      some_digit, List.append_nil]
    rfl
  · simp only [if_neg none, splitFirst_append bare, mapM_decimalValue digits.digits,
      mapM_decimalValue after, bind, Option.bind, some_digit, Bool.false_and]
    simp [placeValues]

variable (negative : Bool)

theorem readFinite_numeral (digits : IsDigits whole) (after : ∀ c ∈ fraction, c.isDigit = true) :
    readFinite negative (numeral whole fraction) =
      held? negative (Nat.ofDigitChars 10 (whole ++ fraction) 0) (-fraction.length) := by
  rw [readFinite, splitFirst_eq_none (ne_mark_of_mem_numeral digits after)]
  simp only [readCoefficient_numeral digits after, bind, Option.bind, digitsValue_placeValues,
    Int.zero_sub]
  rfl

/-- The exponent that is written, a sign before its digits. -/
theorem readExponent_signed {exponent : List Char} (below : Bool) (digits : IsDigits exponent) :
    readExponent ((if below then '-' else '+') :: exponent) =
      some (Whole.signed below (Nat.ofDigitChars 10 exponent 0)) := by
  have some_digit : (placeValues exponent).isEmpty = false := by
    simp [placeValues, digits.nonempty]
  have sign : Whole.splitSign ((if below then '-' else '+') :: exponent) = (below, exponent) := by
    cases below <;> rfl
  rw [readExponent, sign]
  simp only [mapM_decimalValue digits.digits, bind, Option.bind, some_digit,
    digitsValue_placeValues]
  rfl

theorem readFinite_scientific {exponent : List Char} (below : Bool) (digits : IsDigits whole)
    (after : ∀ c ∈ fraction, c.isDigit = true) (power : IsDigits exponent) :
    readFinite negative
        (numeral whole fraction ++ 'e' :: (if below then '-' else '+') :: exponent) =
      held? negative (Nat.ofDigitChars 10 (whole ++ fraction) 0)
        (Whole.signed below (Nat.ofDigitChars 10 exponent 0) - fraction.length) := by
  rw [readFinite, splitFirst_append (ne_mark_of_mem_numeral digits after)]
  simp only [readCoefficient_numeral digits after, readExponent_signed below power, bind,
    Option.bind, digitsValue_placeValues]
  rfl

/-- A text without blanks and underscores is read as it stands. -/
theorem read_of_solid {cs : List Char} (solid : ∀ c ∈ cs, isBlank c = false ∧ c ≠ '_') :
    read cs = readUnsigned (Whole.splitSign cs).1 ((Whole.splitSign cs).2.map Char.toLower) := by
  have kept : cs.filter (· != '_') = cs :=
    List.filter_eq_self.2 fun c member => by simpa using (solid c member).2
  rw [read, strip_eq fun c member => (solid c member).1, kept]

/-- Blanks, underscores, letter case and names do not concern numerals. -/
theorem read_signed {cs : List Char} (isNumeral : IsNumeral cs) :
    read (signText negative ++ cs) = readFinite negative cs := by
  obtain ⟨first, rest, rfl, begins⟩ := isNumeral.starts
  have all : ∀ c ∈ signText negative ++ first :: rest, IsNumeralChar c := by
    intro c member
    rcases List.mem_append.1 member with sign | inside
    · cases negative
      · cases sign
      · exact .inr (.inr (.inr (.inl (List.mem_singleton.1 sign))))
    · exact isNumeral.signs c inside
  have split :
      Whole.splitSign (signText negative ++ first :: rest) = (negative, first :: rest) := by
    cases negative
    · change Whole.splitSign (first :: rest) = _
      unfold Whole.splitSign
      split
      · rename_i same
        cases same
        cases begins
      · rename_i same
        cases same
        cases begins
      · rfl
    · rfl
  have lower : (first :: rest).map Char.toLower = first :: rest :=
    (List.map_congr_left fun c member => (isNumeral.signs c member).toLower).trans (List.map_id' _)
  have unnamed : first ≠ 'i' := ne_of_isDigit begins rfl
  rw [read_of_solid fun c member => ⟨(all c member).isBlank, (all c member).ne_underscore⟩, split,
    lower]
  unfold readUnsigned
  split
  · rename_i same
    cases same
    cases begins
  · rename_i same
    cases same
    cases begins
  · rw [if_neg]
    simp [unnamed]

end Reading

end CalendarSeries.Decimal
