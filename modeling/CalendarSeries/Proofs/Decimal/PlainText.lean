import CalendarSeries.Proofs.Decimal.Numeral
import CalendarSeries.Proofs.Decimal.Rational
import CalendarSeries.Proofs.Text.Utf8
import CalendarSeries.Value.Conversion
import CalendarSeries.Wire
/-!
Decimals as they are sent. A finite one is written with digits and at most a point, and what is read
back from its text, or from the bytes of it, is the same number: with the same exponent if that is
not above zero, and with exponent zero else.
-/
namespace CalendarSeries.Decimal

open CalendarSeries.Number CalendarSeries.Text

/-- An optional minus sign, digits, and perhaps a point with digits after it. -/
inductive IsPlain : List Char → Prop
  | digits (negative : Bool) {whole : List Char} (before : IsDigits whole) :
      IsPlain (signText negative ++ whole)
  | point (negative : Bool) {whole fraction : List Char} (before : IsDigits whole)
      (after : IsDigits fraction) : IsPlain (signText negative ++ whole ++ '.' :: fraction)

theorem isPlain_numeral (negative : Bool) {whole fraction : List Char} (before : IsDigits whole)
    (after : ∀ c ∈ fraction, c.isDigit = true) :
    IsPlain (signText negative ++ numeral whole fraction) := by
  rw [numeral]
  split
  · exact .digits negative before
  · rename_i nonempty
    rw [← List.append_assoc]
    exact .point negative before ⟨nonempty, after⟩

/-- A point goes before the last digits, after zeros have filled up the others. -/
theorem exists_withPoint {digits : List Char} (all : IsDigits digits) (places : Nat) :
    ∃ whole fraction, withPoint digits places = numeral whole fraction ∧ IsDigits whole ∧
      (∀ c ∈ fraction, c.isDigit = true) ∧ fraction.length = places ∧
      Nat.ofDigitChars 10 (whole ++ fraction) 0 = Nat.ofDigitChars 10 digits 0 := by
  unfold withPoint
  split
  · rename_i none
    exact ⟨digits, [], rfl, all, by simp, none.symm, by rw [List.append_nil]⟩
  · rename_i some
    let filled := List.replicate (places + 1 - digits.length) '0' ++ digits
    have long : places < filled.length := by
      rw [List.length_append, List.length_replicate]
      omega
    have each : ∀ c ∈ filled, c.isDigit = true := by
      intro c member
      rcases List.mem_append.1 member with zero | digit
      · rw [List.eq_of_mem_replicate zero]
        rfl
      · exact all.digits c digit
    have rest : (filled.drop (filled.length - places)).length = places := by
      rw [List.length_drop]
      omega
    refine ⟨filled.take (filled.length - places), filled.drop (filled.length - places), ?_,
      ⟨?_, fun c member => each c (List.mem_of_mem_take member)⟩,
      fun c member => each c (List.mem_of_mem_drop member), rest, ?_⟩
    · rw [numeral, if_neg]
      exact List.ne_nil_of_length_pos (by omega)
    · exact List.ne_nil_of_length_pos (by rw [List.length_take]; omega)
    · rw [List.take_append_drop, ofDigitChars_zeros_append]

/-- The digits of a finite decimal as it is sent make up its coefficient, with the zeros that a
positive exponent stands for. -/
theorem exists_plainChars (negative : Bool) (coefficient : Nat) (exponent : Int) :
    ∃ whole fraction, plainChars (.finite negative coefficient exponent) =
        signText negative ++ numeral whole fraction ∧ IsDigits whole ∧
      (∀ c ∈ fraction, c.isDigit = true) ∧ (fraction.length : Int) = -min exponent 0 ∧
      Nat.ofDigitChars 10 (whole ++ fraction) 0 = coefficient * tenTo exponent.toNat := by
  have digits := isDigits_toDigits coefficient
  rw [plainChars]
  by_cases below : exponent ≤ 0
  · obtain ⟨whole, fraction, text, before, after, places, value⟩ :=
      exists_withPoint digits exponent.natAbs
    refine ⟨whole, fraction, by rw [if_pos below, text], before, after, by omega, ?_⟩
    rw [value, Nat.ofDigitChars_ten_toDigits, Int.toNat_of_nonpos below]
    exact (Nat.mul_one _).symm
  rw [if_neg below]
  by_cases zero : coefficient = 0
  · subst zero
    refine ⟨['0'], [], rfl, isDigits_toDigits 0, by simp, by simp; omega, ?_⟩
    rw [Nat.zero_mul]
    rfl
  · have zeros : ∀ c ∈ List.replicate exponent.natAbs '0', c.isDigit = true := by
      intro c member
      rw [List.eq_of_mem_replicate member]
      rfl
    refine ⟨Nat.toDigits 10 coefficient ++ List.replicate exponent.natAbs '0', [], ?_,
      ⟨List.append_ne_nil_of_left_ne_nil digits.nonempty _, fun c member => ?_⟩, by simp,
      by simp; omega, ?_⟩
    · rw [if_neg zero]
      rfl
    · exact (List.mem_append.1 member).elim (digits.digits c) (zeros c)
    · rw [List.append_nil, Nat.ofDigitChars_append, Nat.ofDigitChars_replicate_zero,
        Nat.ofDigitChars_ten_toDigits, Nat.mul_comm]
      rw [tenTo, Nat.pow_eq, show exponent.natAbs = exponent.toNat by omega]

/-- What is held as a decimal is held with its positive exponent written out. -/
theorem holdsExactly_sent {coefficient : Nat} {exponent : Int}
    (held : holdsExactly coefficient exponent = true) :
    holdsExactly (coefficient * tenTo exponent.toNat) (min exponent 0) = true := by
  have low : widest.tiny ≤ 0 := by decide
  have high : (0 : Int) ≤ widest.top := by decide
  rw [holdsExactly_iff] at held ⊢
  by_cases zero : coefficient = 0
  · have none : logTen (0 * tenTo exponent.toNat) = 0 := by
      rw [Nat.zero_mul, logTen_eq, Nat.log_zero_right]
    rw [zero] at held ⊢
    omega
  · rw [logTen_mul_tenTo zero]
    omega

theorem read_plainChars (negative : Bool) {coefficient : Nat} {exponent : Int}
    (held : holdsExactly coefficient exponent = true) :
    read (plainChars (.finite negative coefficient exponent)) =
      some (.finite negative (coefficient * tenTo exponent.toNat) (min exponent 0)) := by
  obtain ⟨whole, fraction, text, before, after, places, value⟩ :=
    exists_plainChars negative coefficient exponent
  rw [text, read_signed negative (.of_isDigits before after),
    readFinite_numeral negative before after, value, places, neg_neg, held?,
    if_pos (holdsExactly_sent held)]

theorem rational_sent (negative : Bool) (coefficient : Nat) (exponent : Int) :
    rational negative (coefficient * tenTo exponent.toNat) (min exponent 0) =
      rational negative coefficient exponent := by
  have same : min exponent 0 + (exponent.toNat : Int) = exponent := by omega
  rw [rational, rational, magnitude_mul_tenTo, same]

end CalendarSeries.Decimal

namespace CalendarSeries

open Decimal

/-- A text and its bytes are read as the same decimal. -/
theorem Value.toDecimal_ofList {cs : List Char} {x : Decimal} (found : Decimal.read cs = some x) :
    Value.toDecimal (.text (String.ofList cs)) = .ok x ∧
      Value.toDecimal (.bytes (Text.utf8 (String.ofList cs))) = .ok x := by
  have reads (shown : Value) : decimalOfText shown cs = .ok x := by
    rw [decimalOfText, found]
  constructor
  · simp only [toDecimal, text?, String.toList_ofList]
    exact reads _
  · rw [toDecimal, Text.decodeUtf8_utf8]
    exact reads _

/-- Every finite decimal that can be held is sent as one text without an exponent. What is read back
from the text or from its bytes is equal to it, and it is the decimal itself unless a positive
exponent was written out. -/
theorem Decimal.plain_readBack (negative : Bool) (coefficient : Nat) (exponent : Int)
    (held : holdsExactly coefficient exponent = true) :
    ∃ text back, Wire.arguments [.decimal (.finite negative coefficient exponent)] = [text] ∧
      IsPlain text.toList ∧ Value.toDecimal (.text text) = .ok back ∧
      Value.toDecimal (.bytes (Text.utf8 text)) = .ok back ∧
      back.SameNumber (.finite negative coefficient exponent) ∧
      back.equal (.finite negative coefficient exponent) = .ok true ∧
      (exponent ≤ 0 → back = .finite negative coefficient exponent) := by
  obtain ⟨asText, asBytes⟩ := Value.toDecimal_ofList (read_plainChars negative held)
  refine ⟨plain _, _, rfl, ?_, asText, asBytes, rational_sent negative coefficient exponent, ?_, ?_⟩
  · obtain ⟨whole, fraction, text, before, after, -⟩ :=
      exists_plainChars negative coefficient exponent
    rw [plain, String.toList_ofList, text]
    exact isPlain_numeral negative before after
  · rw [equal_finite, rational_sent, decide_eq_true rfl]
  · intro below
    rw [min_eq_left below, Int.toNat_of_nonpos below, Number.tenTo, Nat.pow_eq, Nat.pow_zero,
      Nat.mul_one]

/-- A negative zero keeps its sign and its thirty places; in the other number the seven zeros of the
exponent are written out. -/
theorem Decimal.plain_readBack_zeros :
    (∃ text back, Wire.arguments [.decimal (.finite true 0 (-30))] = [text] ∧
      Value.toDecimal (.text text) = .ok back ∧ back = .finite true 0 (-30)) ∧
    ∃ text back, Wire.arguments [.decimal (.finite false 12 7)] = [text] ∧
      Value.toDecimal (.bytes (Text.utf8 text)) = .ok back ∧
      back.equal (.finite false 12 7) = .ok true := by
  obtain ⟨text, back, sent, -, read, -, -, -, same⟩ :=
    Decimal.plain_readBack true 0 (-30) (by decide)
  obtain ⟨long, large, whole, -, -, bytes, -, equal, -⟩ :=
    Decimal.plain_readBack false 12 7 (by decide)
  exact ⟨⟨text, back, sent, read, same (by decide)⟩, long, large, whole, bytes, equal⟩

end CalendarSeries
