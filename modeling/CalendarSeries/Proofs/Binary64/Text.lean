import CalendarSeries.Binary64.Text
import CalendarSeries.Proofs.Decimal.Numeral
/-!
The texts of binary numbers are numerals. Their digits and exponents stay small, so every one of
them is read as a decimal.
-/
namespace CalendarSeries.Binary64

open CalendarSeries.Number CalendarSeries.Text CalendarSeries.Decimal

/-- The significands and exponents of 64 bits. -/
def InRange : Binary64 → Prop
  | .finite _ significand exponent =>
    significand < 2 ^ 53 ∧ leastExponent ≤ exponent ∧ exponent ≤ greatestExponent
  | _ => True

section Reading

variable (negative : Bool)

/-- The limits of what can be held are far away. -/
theorem exists_held {coefficient digits : Nat} {exponent : Int}
    (below : coefficient ≤ tenTo digits) (few : digits ≤ 10000)
    (near : exponent.natAbs ≤ 10000) :
    ∃ x, held? negative coefficient exponent = some x := by
  have size := logTen_le below
  have low : widest.tiny ≤ -10000 := by decide
  have high : (20000 : Int) ≤ widest.top := by decide
  exact ⟨_, if_pos (holdsExactly_iff.2 (by omega))⟩

theorem exists_placePoint {digits : List Char} (all : IsDigits digits) (count : Int) :
    ∃ whole fraction, placePoint digits count = (whole, fraction) ∧ IsDigits whole ∧
      (∀ c ∈ fraction, c.isDigit = true) ∧
      whole.length + fraction.length ≤ digits.length + count.natAbs + 1 := by
  have zeros (n : Nat) : ∀ c ∈ List.replicate n '0', c.isDigit = true := fun c member => by
    rw [List.eq_of_mem_replicate member]
    rfl
  have some_digit := List.length_pos_iff.2 all.nonempty
  unfold placePoint
  split
  · refine ⟨_, _, rfl, isDigits_toDigits 0, fun c member => ?_, ?_⟩
    · exact (List.mem_append.1 member).elim (zeros _ c) (all.digits c)
    · simp
      omega
  · refine ⟨_, _, rfl, ⟨?_, fun c member => ?_⟩, fun c member => ?_, ?_⟩
    · refine List.append_ne_nil_of_left_ne_nil (List.ne_nil_of_length_pos ?_) _
      rw [List.length_take]
      omega
    · rcases List.mem_append.1 member with inside | zero
      · exact all.digits c (List.mem_of_mem_take inside)
      · exact zeros _ c zero
    · exact all.digits c (List.mem_of_mem_drop member)
    · simp
      omega

theorem exponentText_eq (exponent : Int) :
    exponentText exponent =
      'e' :: (if decide (exponent < 0) = true then '-' else '+') :: padded 2 exponent.natAbs := by
  simp [exponentText]

theorem signText_eq : Binary64.signText negative = Decimal.signText negative :=
  rfl

/-- A text of so many digits is read, with a point or with an exponent mark. -/
theorem exists_read_positional {digits : List Char} (all : IsDigits digits) {leading : Int}
    (few : digits.length ≤ 4000) (near : leading.natAbs ≤ 4000) :
    ∃ x, Decimal.read (Binary64.signText negative ++ positional digits leading) = some x := by
  unfold positional
  split
  · obtain ⟨whole, fraction, placed, before, after, size⟩ := exists_placePoint all (leading + 1)
    rw [placed]
    dsimp only
    obtain ⟨shown, filled, nonempty, each, short⟩ : ∃ shown,
        (if fraction.isEmpty then ['0'] else fraction) = shown ∧ shown ≠ [] ∧
          (∀ c ∈ shown, c.isDigit = true) ∧ shown.length ≤ fraction.length + 1 := by
      refine ⟨_, rfl, ?_⟩
      split
      · simp
      · rename_i some_left
        exact ⟨by simpa using some_left, after, by omega⟩
    have text : whole ++ '.' :: shown = numeral whole shown := (if_neg nonempty).symm
    have digit : ∀ c ∈ whole ++ shown, c.isDigit = true := fun c member =>
      (List.mem_append.1 member).elim (before.digits c) (each c)
    rw [filled, text, signText_eq, read_signed negative (.of_isDigits before each),
      readFinite_numeral negative before each]
    refine exists_held negative (ofDigitChars_lt digit).le ?_ ?_
    · rw [List.length_append]
      omega
    · omega
  · obtain ⟨first, rest, rfl⟩ := List.exists_cons_of_ne_nil all.nonempty
    have before : IsDigits [first] :=
      ⟨by simp, fun c member => all.digits c (by simpa using .inl (by simpa using member))⟩
    have after : ∀ c ∈ rest, c.isDigit = true := fun c member =>
      all.digits c (List.mem_cons_of_mem _ member)
    have text : scientific (first :: rest) leading =
        numeral [first] rest ++ exponentText leading := by
      cases rest <;> rfl
    have isNumeral : IsNumeral (numeral [first] rest ++ exponentText leading) := by
      have mantissa := IsNumeral.of_isDigits before after
      obtain ⟨c, cs, same, digit⟩ := mantissa.starts
      refine ⟨⟨c, cs ++ exponentText leading, by rw [same]; rfl, digit⟩, fun c member => ?_⟩
      rcases List.mem_append.1 member with inside | mark
      · exact mantissa.signs c inside
      · rw [exponentText_eq] at mark
        rcases List.mem_cons.1 mark with rfl | mark
        · exact .inr (.inr (.inl rfl))
        rcases List.mem_cons.1 mark with rfl | inside
        · split
          · exact .inr (.inr (.inr (.inl rfl)))
          · exact .inr (.inr (.inr (.inr rfl)))
        · exact .inl (isDigit_of_mem_padded inside)
    rw [text, signText_eq, read_signed negative isNumeral, exponentText_eq,
      readFinite_scientific negative _ before after (isDigits_padded _ _), ofDigitChars_padded]
    refine exists_held negative (ofDigitChars_lt all.digits).le (few.trans (by decide)) ?_
    rw [List.length_cons] at few
    unfold Whole.signed
    split <;> omega

end Reading

section Shortest

theorem tenTo_le {m n : Nat} (below : m ≤ n) : tenTo m ≤ tenTo n :=
  Nat.pow_le_pow_right (by decide) below

theorem tenTo_lt {m n : Nat} (below : m < n) : tenTo m < tenTo n :=
  Nat.pow_lt_pow_right (by decide) below

theorem length_toDigits_le {n places : Nat} (below : n ≤ tenTo places) :
    (Nat.toDigits 10 n).length ≤ places + 1 :=
  (Nat.length_toDigits_le_iff (by decide) places.succ_pos).2
    (below.trans_lt (tenTo_lt places.lt_succ_self))

theorem logTenRatio_bounds (dividend divisor : Nat) :
    -(logTen divisor : Int) - 1 ≤ logTenRatio dividend divisor ∧
      logTenRatio dividend divisor ≤ logTen dividend := by
  unfold logTenRatio
  dsimp only
  split <;> omega

theorem pickNear_le {inside : Nat → Bool} {value low step found : Nat}
    (picked : pickNear inside value low step = some found) : found ≤ low + 1 := by
  have nearer : nearerPoint value low step ≤ low + 1 := by
    unfold nearerPoint
    split
    · omega
    · omega
    · split <;> omega
  unfold pickNear at picked
  dsimp only at picked
  split at picked <;> cases picked
  · exact nearer
  · omega
  · omega

/-- A grid of so many digits does not reach far beyond the number's own places. -/
theorem shortestFrom_bounds (significand : Nat) (exponent leading : Int) (fuel digits : Nat) :
    (shortestFrom significand exponent leading fuel digits).1 ≤
        4 * significand * (scaleUp (exponent - 2) * tenTo (leading.natAbs + digits + fuel)) + 1 ∧
      (shortestFrom significand exponent leading fuel digits).2.natAbs ≤
        leading.natAbs + digits + fuel := by
  induction fuel generalizing digits with
  | zero => simp [shortestFrom]
  | succ fuel ih =>
    rw [shortestFrom]
    split
    rename_i least value most same
    have whole : value = 4 * significand := by
      cases same
      rfl
    subst whole
    dsimp only
    split
    · rename_i found picked
      have near := pickNear_le picked
      have quotient := Nat.div_le_self
        (4 * significand *
          (scaleUp (exponent - 2) * tenTo (-(leading - (digits : Int) + 1)).toNat))
        (scaleUp (2 - exponent) * tenTo (leading - (digits : Int) + 1).toNat)
      have places : tenTo (-(leading - (digits : Int) + 1)).toNat ≤
          tenTo (leading.natAbs + digits + (fuel + 1)) := tenTo_le (by omega)
      have wide := Nat.mul_le_mul_left (4 * significand)
        (Nat.mul_le_mul_left (scaleUp (exponent - 2)) places)
      exact ⟨by omega, by omega⟩
    · have later := ih (digits + 1)
      rw [show leading.natAbs + (digits + 1) + fuel = leading.natAbs + digits + (fuel + 1) by
        omega] at later
      exact later

theorem dropZeros_bounds (most n : Nat) :
    (dropZeros most n).1 ≤ n ∧ (dropZeros most n).2 ≤ most := by
  induction most generalizing n with
  | zero => exact ⟨Nat.le_refl n, Nat.le_refl 0⟩
  | succ most ih =>
    rw [dropZeros]
    split
    · have rest := ih (n / 10)
      have part := Nat.div_le_self n 10
      exact ⟨by dsimp only; omega, by dsimp only; omega⟩
    · exact ⟨Nat.le_refl n, Nat.zero_le _⟩

theorem scaleUp_le {exponent : Int} {places : Nat} (below : exponent.toNat ≤ places) :
    scaleUp exponent ≤ tenTo places :=
  (Nat.pow_le_pow_right (by decide) below).trans (Nat.pow_le_pow_left (by decide) _)

theorem mul_le_tenTo {a b m n : Nat} (first : a ≤ tenTo m) (second : b ≤ tenTo n) :
    a * b ≤ tenTo (m + n) :=
  (Nat.mul_le_mul first second).trans_eq (Nat.pow_add 10 m n).symm

/-- The digits of a number in range are not many, nor do they stand far from the point. -/
theorem shortest_bounds {significand : Nat} {exponent : Int}
    (inRange : InRange (.finite false significand exponent)) :
    (shortest significand exponent).1 ≤ tenTo 2300 ∧
      (shortest significand exponent).2.natAbs ≤ 1200 := by
  obtain ⟨short, least, most⟩ := inRange
  unfold leastExponent at least
  unfold greatestExponent at most
  have small : 4 * significand ≤ tenTo 54 := le_trans (by omega) (show 2 ^ 55 ≤ tenTo 54 by decide)
  have up (n : Int) (below : n ≤ 1074) : scaleUp n ≤ tenTo 1074 := scaleUp_le (by omega)
  have dividend := logTen_le
    (mul_le_tenTo (show significand ≤ tenTo 54 by omega) (up exponent (by omega)))
  have divisor := logTen_le (up (-exponent) (by omega))
  have leading := logTenRatio_bounds (significand * scaleUp exponent) (scaleUp (-exponent))
  have bounds := shortestFrom_bounds significand exponent
    (logTenRatio (significand * scaleUp exponent) (scaleUp (-exponent))) 17 1
  change (shortest significand exponent).1 ≤ _ ∧ (shortest significand exponent).2.natAbs ≤ _
    at bounds
  generalize logTenRatio (significand * scaleUp exponent) (scaleUp (-exponent)) = first at *
  have grid := mul_le_tenTo small
    (mul_le_tenTo (up (exponent - 2) (by omega)) (tenTo_le (show first.natAbs + 1 + 17 ≤ 1170 by
      omega)))
  have next := tenTo_lt (show 54 + (1074 + 1170) < 2300 by decide)
  exact ⟨by omega, by omega⟩

/-- The text of every number in range is read as a decimal. -/
theorem exists_read_renderChars {x : Binary64} (inRange : x.InRange) :
    ∃ read, Decimal.read x.renderChars = some read := by
  rcases x with ⟨negative, significand, exponent⟩ | negative | _
  · rcases significand with _ | significand
    · cases negative
      · exact ⟨_, rfl⟩
      · exact ⟨_, rfl⟩
    obtain ⟨size, far⟩ := shortest_bounds inRange
    rw [renderChars]
    · generalize shortest (significand + 1) exponent = found at size far
      obtain ⟨found, place⟩ := found
      obtain ⟨less, dropped⟩ := dropZeros_bounds 17 found
      dsimp only at size far ⊢
      generalize dropZeros 17 found = kept at less dropped
      obtain ⟨kept, gone⟩ := kept
      dsimp only at less dropped ⊢
      have few := length_toDigits_le (less.trans size)
      have some_digit := Nat.length_toDigits_pos (b := 10) (n := kept)
      exact exists_read_positional negative (isDigits_toDigits kept) (by omega) (by omega)
    · simp
  · cases negative
    · exact ⟨_, rfl⟩
    · exact ⟨_, rfl⟩
  · exact ⟨_, rfl⟩

end Shortest

end CalendarSeries.Binary64
