import CalendarSeries.Decimal.Text
import CalendarSeries.Proofs.Text.Digits
import CalendarSeries.Proofs.Text.Words
import Mathlib.Data.List.TakeWhile
/-!
Texts of digit characters as whole numbers. They have no blank, no underscore and no sign, so such a
text is read if all its characters have a place value and there are not too many.
-/
namespace CalendarSeries

namespace Text

/-- A text of at least one digit character, of any script and with a place value or without. -/
structure IsRun (cs : List Char) : Prop where
  nonempty : cs ≠ []
  digits : ∀ c ∈ cs, isDigit c = true

theorem isRun_iff {cs : List Char} : IsRun cs ↔ cs.all isDigit = true ∧ cs ≠ [] := by
  rw [List.all_eq_true]
  exact ⟨fun run => ⟨run.digits, run.nonempty⟩, fun ⟨digits, nonempty⟩ => ⟨nonempty, digits⟩⟩

/-- The codes of the blanks around numbers. -/
def numberBlanks : List Nat :=
  [9, 10, 11, 12, 13, 0x20, 0x85, 0xA0, 0x1680, 0x2000, 0x2001, 0x2002, 0x2003, 0x2004, 0x2005,
   0x2006, 0x2007, 0x2008, 0x2009, 0x200A, 0x2028, 0x2029, 0x202F, 0x205F, 0x3000]

theorem isNumberBlank_of_isDigit {c : Char} (digit : isDigit c = true) :
    isNumberBlank c = false := by
  refine Bool.eq_false_iff.2 fun blank => ?_
  have listed : c.toNat ∈ numberBlanks := by
    simp [isNumberBlank] at blank
    simp only [numberBlanks, List.mem_cons, List.not_mem_nil, or_false]
    omega
  have none : ∀ n ∈ numberBlanks, isDigit (Char.ofNat n) = false := by decide
  rw [← c.ofNat_toNat, none _ listed] at digit
  cases digit

/-- What decimal digits stand for, one by one. -/
def decimals (cs : List Char) : List Nat :=
  cs.map fun c => (decimalValue c).getD 0

theorem mapM_decimals {cs : List Char} (valued : ∀ c ∈ cs, (decimalValue c).isSome = true) :
    cs.mapM decimalValue = some (decimals cs) := by
  induction cs with
  | nil => rfl
  | cons c cs ih =>
    obtain ⟨first, later⟩ := List.forall_mem_cons.1 valued
    obtain ⟨value, found⟩ := Option.isSome_iff_exists.1 first
    rw [List.mapM_cons, found, ih later, decimals, decimals, List.map_cons, found]
    rfl

theorem decimals_eq_placeValues {cs : List Char} (digits : ∀ c ∈ cs, c.isDigit = true) :
    decimals cs = placeValues cs :=
  List.map_congr_left fun c member => by rw [decimalValue_of_isDigit (digits c member)]; rfl

theorem IsRun.ne {cs : List Char} (run : IsRun cs) {sign : Char} (other : isDigit sign = false) :
    ∀ c ∈ cs, c ≠ sign := by
  rintro c member rfl
  rw [run.digits c member] at other
  cases other

end Text

namespace Whole

open Text
open Decimal (signText)

variable {cs : List Char}

/-- Without an underscore digits are read one by one. -/
theorem groupedDigits_eq {value : Char → Option Nat} (nonempty : cs ≠ [])
    (plain : ∀ c ∈ cs, c ≠ '_') : groupedDigits value cs = cs.mapM value := by
  induction cs with
  | nil => exact absurd rfl nonempty
  | cons c cs ih =>
    cases cs with
    | nil => cases found : value c <;> simp [groupedDigits, found]
    | cons d cs =>
      have later := (List.forall_mem_cons.1 plain).2
      rw [List.mapM_cons, ← ih (by simp) later, groupedDigits]
      · simp
      · intro rest same
        exact later d List.mem_cons_self (List.cons.inj same).1

theorem splitSign_of_isRun (run : IsRun cs) : splitSign cs = (false, cs) := by
  unfold splitSign
  split
  · exact absurd rfl (run.ne (by decide) '-' List.mem_cons_self)
  · exact absurd rfl (run.ne (by decide) '+' List.mem_cons_self)
  · rfl

theorem splitSign_signText (negative : Bool) (run : IsRun cs) :
    splitSign (signText negative ++ cs) = (negative, cs) := by
  cases negative with
  | false => exact splitSign_of_isRun run
  | true => rfl

theorem trimBoth_signText (negative : Bool) (run : IsRun cs) :
    trimBoth isNumberBlank (signText negative ++ cs) = signText negative ++ cs := by
  apply trimBoth_eq
  intro c member
  rcases List.mem_append.1 member with sign | digit
  · cases negative with
    | false => cases sign
    | true =>
      cases List.mem_singleton.1 sign
      decide
  · exact isNumberBlank_of_isDigit (run.digits c digit)

/-- Digit characters that are not read as a number: one of them has no place value, or there are too
many of them. -/
def IsUnread (cs : List Char) : Prop :=
  (∃ c ∈ cs, decimalValue c = none) ∨ digitLimit < cs.length

theorem read_of_decimals (negative : Bool) (run : IsRun cs)
    (valued : ∀ c ∈ cs, (decimalValue c).isSome = true) :
    Whole.read (signText negative ++ cs) =
      if digitLimit < cs.length then .error (.tooLong cs.length)
      else .ok (signed negative (digitsValue (decimals cs))) := by
  have whole : cs.takeWhile (fun c => (decimalValue c).isSome || c == '_') = cs :=
    List.takeWhile_eq_self_iff.2 fun c member => by rw [valued c member, Bool.true_or]
  have length : (decimals cs).length = cs.length := List.length_map _
  simp only [Whole.read, readWith, trimBoth_signText negative run, splitSign_signText negative run,
    whole, groupedDigits_eq run.nonempty (run.ne (by decide)), mapM_decimals valued, length,
    Nat.lt_irrefl, if_false]

theorem read_of_bare (negative : Bool) (run : IsRun cs)
    (bare : ∃ c ∈ cs, decimalValue c = none) :
    ∃ fault, Whole.read (signText negative ++ cs) = .error fault := by
  obtain ⟨c, member, none⟩ := bare
  have shorter :
      (cs.takeWhile fun c => (decimalValue c).isSome || c == '_').length < cs.length := by
    refine Nat.lt_of_le_of_ne (List.takeWhile_prefix _).length_le fun same => ?_
    have whole := (List.takeWhile_prefix _).eq_of_length same
    have digit := List.takeWhile_eq_self_iff.1 whole c member
    rw [none, Option.isSome_none, Bool.false_or, beq_iff_eq] at digit
    exact run.ne (by decide) c member digit
  simp only [Whole.read, readWith, trimBoth_signText negative run, splitSign_signText negative run]
  split
  · exact ⟨_, rfl⟩
  · rw [if_pos shorter]
    split <;> exact ⟨_, rfl⟩

/-- Digits are read as the number that they stand for, if they are read. -/
theorem read_of_isRun (negative : Bool) (run : IsRun cs) :
    (IsUnread cs ∧ ∃ fault, Whole.read (signText negative ++ cs) = .error fault) ∨
      ¬IsUnread cs ∧ Whole.read (signText negative ++ cs) =
        .ok (signed negative (digitsValue (decimals cs))) := by
  by_cases bare : ∃ c ∈ cs, decimalValue c = none
  · exact .inl ⟨.inl bare, read_of_bare negative run bare⟩
  · have read := read_of_decimals negative run (by simpa [Option.isSome_iff_ne_none] using bare)
    by_cases long : digitLimit < cs.length
    · rw [if_pos long] at read
      exact .inl ⟨.inr long, _, read⟩
    · rw [if_neg long] at read
      exact .inr ⟨fun unread => unread.elim bare long, read⟩

/-- How whole numbers are written: in the digits `0` to `9`, without a zero in front or a sign of
zero. -/
structure IsCanonical (negative : Bool) (cs : List Char) : Prop where
  digits : ∀ c ∈ cs, c.isDigit = true
  leading : cs.head? = some '0' → cs = ['0'] ∧ negative = false

theorem isCanonical_toDigits {n : Nat} (nonzero : 0 < n) (negative : Bool) :
    IsCanonical negative (Nat.toDigits 10 n) where
  digits := (isDigits_toDigits n).digits
  leading zero := absurd zero (head?_toDigits nonzero)

theorem IsCanonical.toDigits_eq {negative : Bool} (nonempty : cs ≠ [])
    (canonical : IsCanonical negative cs) : Nat.toDigits 10 (digitsValue (decimals cs)) = cs := by
  obtain ⟨digits, leading⟩ := canonical
  rw [decimals_eq_placeValues digits, digitsValue_placeValues]
  by_cases zero : cs.head? = some '0'
  · rw [(leading zero).1]
    rfl
  · exact toDigits_of_isDigits ⟨nonempty, digits⟩ zero

theorem ofInt_signed {n : Nat} (negative : Bool) (nonzero : n ≠ 0 ∨ negative = false) :
    ofInt (signed negative n) = signText negative ++ Nat.toDigits 10 n := by
  cases negative with
  | false =>
    rw [signed, if_neg Bool.false_ne_true, ofInt, if_neg (by omega), Int.natAbs_natCast]
    rfl
  | true =>
    have positive : n ≠ 0 := nonzero.resolve_right (by decide)
    rw [signed, if_pos rfl, ofInt, if_pos (by omega), Int.natAbs_neg, Int.natAbs_natCast]
    rfl

/-- What is read of digits is written as they stand exactly if they are written as numbers are. -/
theorem ofInt_signed_iff (negative : Bool) (nonempty : cs ≠ []) :
    ofInt (signed negative (digitsValue (decimals cs))) = signText negative ++ cs ↔
      IsCanonical negative cs := by
  by_cases zero : digitsValue (decimals cs) = 0
  · have zeroIff : IsCanonical negative cs ↔ cs = ['0'] ∧ negative = false := by
      constructor
      · intro canonical
        have same := canonical.toDigits_eq nonempty
        rw [zero] at same
        exact canonical.leading (same ▸ rfl)
      · rintro ⟨rfl, rfl⟩
        exact ⟨List.forall_mem_singleton.2 rfl, fun _ => ⟨rfl, rfl⟩⟩
    rw [zero, zeroIff]
    cases negative with
    | false =>
      change ['0'] = cs ↔ _
      rw [eq_comm, eq_self, and_true]
    | true =>
      refine iff_of_false (fun same => ?_) fun ⟨_, same⟩ => Bool.noConfusion same
      cases same
  · rw [ofInt_signed negative (.inl zero), List.append_cancel_left_eq]
    constructor
    · intro same
      rw [← same]
      exact isCanonical_toDigits (Nat.pos_of_ne_zero zero) negative
    · exact fun canonical => canonical.toDigits_eq nonempty

end Whole

end CalendarSeries
