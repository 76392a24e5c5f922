import CalendarSeries.Proofs.Binary64.Text
import CalendarSeries.Proofs.Decimal.PlainText
import CalendarSeries.Proofs.Sending
/-!
Numbers as they are sent. What is read from the text of a number is this number, whatever its kind.
Bytes are sent in their quoted form, which is no number even where the bytes are one.
-/
namespace CalendarSeries

open CalendarSeries.Text

namespace Text

/-- Between two characters that are not blank nothing is dropped. -/
theorem strip_between {first last : Char} (starts : isBlank first = false)
    (ends : isBlank last = false) (middle : List Char) :
    strip (first :: (middle ++ [last])) = first :: (middle ++ [last]) := by
  rw [strip, trimBoth, List.dropWhile_cons_of_neg (by simp [starts]), ← List.cons_append,
    List.reverse_append, List.reverse_singleton, List.singleton_append,
    List.dropWhile_cons_of_neg (by simp [ends]), List.reverse_cons, List.reverse_reverse]

end Text

namespace Decimal

/-- A text that begins with a letter is no finite number. -/
theorem readFinite_eq_none {first : Char} (bare : decimalValue first = none)
    (point : first ≠ '.') (mark : first ≠ 'e') (negative : Bool) (rest : List Char) :
    readFinite negative (first :: rest) = none := by
  have digits (cs : List Char) : (first :: cs).mapM decimalValue = none := by
    rw [List.mapM_cons, bare]
    rfl
  have coefficient (cs : List Char) : readCoefficient (first :: cs) = none := by
    rw [readCoefficient, splitFirst, if_neg point]
    cases splitFirst '.' cs with
    | none => simp [digits]
    | some parts => simp [digits]
  rw [readFinite, splitFirst, if_neg mark]
  cases splitFirst 'e' rest with
  | none => simp [coefficient]
  | some parts => simp [coefficient]

theorem read_quotedBytes (bytes : List Nat) : read (quotedBytes bytes).toList = none := by
  have quote : ∃ quote, isBlank quote = false ∧
      quote = chooseQuote (bytes.contains 39) (bytes.contains 34) := by
    refine ⟨_, ?_, rfl⟩
    unfold chooseQuote
    split <;> rfl
  obtain ⟨quote, solid, chosen⟩ := quote
  rw [quotedBytes, String.toList_ofList, ← chosen, read, List.cons_append,
    strip_between rfl solid, List.filter_cons_of_pos (by decide)]
  exact readFinite_eq_none (show decimalValue 'b' = none by decide) (by decide) (by decide) false _

/-- A value that is not a number is read with its payload. -/
theorem read_nan (negative signaling : Bool) (payload : Nat) :
    read (plainChars (.nan negative signaling payload)) =
      some (.nan negative signaling payload) := by
  obtain ⟨shown, text, each, value⟩ : ∃ shown, nanText signaling payload =
      (if signaling then ['s'] else []) ++ 'N' :: 'a' :: 'N' :: shown ∧
        (∀ c ∈ shown, c.isDigit = true) ∧ Nat.ofDigitChars 10 shown 0 = payload := by
    refine ⟨if payload = 0 then [] else Nat.toDigits 10 payload, ?_, ?_, ?_⟩
    · cases signaling <;> rfl
    · split
      · simp
      · exact (isDigits_toDigits payload).digits
    · split
      · rename_i zero
        exact zero.symm
      · exact Nat.ofDigitChars_ten_toDigits
  have whole : readPayload (shown.map Char.toLower) = some payload := by
    rw [List.map_congr_left fun c member => (IsNumeralChar.toLower (.inl (each c member))),
      List.map_id', readPayload, mapM_decimalValue each, Option.map_some, digitsValue_placeValues,
      value]
  have solid : ∀ c ∈ plainChars (.nan negative signaling payload),
      isBlank c = false ∧ c ≠ '_' := by
    have digit (c : Char) (member : c ∈ shown) : isBlank c = false ∧ c ≠ '_' :=
      have isNumeral : IsNumeralChar c := .inl (each c member)
      ⟨isNumeral.isBlank, isNumeral.ne_underscore⟩
    rw [plainChars, renderChars, text]
    · cases negative <;> cases signaling <;>
        simpa [signText, List.forall_mem_cons, show isBlank '-' = false by decide,
          show isBlank 's' = false by decide, show isBlank 'N' = false by decide,
          show isBlank 'a' = false by decide] using digit
    · simp
  rw [read_of_solid solid, plainChars, renderChars, text]
  · cases negative <;> cases signaling <;> exact congrArg (Option.map _) whole
  · simp

theorem read_ofInt {n : Int} (held : holdsExactly n.natAbs 0 = true) :
    read (Text.ofInt n) = some (Decimal.ofInt n) := by
  have digits := isDigits_toDigits n.natAbs
  have text : Text.ofInt n =
      signText (decide (n < 0)) ++ numeral (Nat.toDigits 10 n.natAbs) [] := by
    unfold Text.ofInt
    by_cases below : n < 0
    · rw [if_pos below, decide_eq_true below]
      rfl
    · rw [if_neg below, decide_eq_false below]
      rfl
  rw [text, read_signed _ (.of_isDigits digits (by simp)),
    readFinite_numeral _ digits (by simp), List.append_nil, Nat.ofDigitChars_ten_toDigits]
  exact if_pos held

/-- What is sent of a decimal is read as the same number. -/
theorem exists_read_plainChars {x : Decimal}
    (held : ∀ negative coefficient exponent, x = .finite negative coefficient exponent →
      holdsExactly coefficient exponent = true) :
    ∃ y, read x.plainChars = some y ∧ x.SameNumber y := by
  rcases x with ⟨negative, coefficient, exponent⟩ | negative | ⟨negative, signaling, payload⟩
  · exact ⟨_, read_plainChars negative (held _ _ _ rfl),
      (rational_sent negative coefficient exponent).symm⟩
  · cases negative
    · exact ⟨_, rfl, rfl⟩
    · exact ⟨_, rfl, rfl⟩
  · exact ⟨_, read_nan negative signaling payload, rfl⟩

end Decimal

namespace Value

/-- Numbers are held without losing a digit, or with the digits of 64 bits. -/
def IsHeld : Value → Prop
  | int n => Decimal.holdsExactly n.natAbs 0 = true
  | decimal (.finite _ coefficient exponent) => Decimal.holdsExactly coefficient exponent = true
  | double x => x.InRange
  | _ => True

/-- Numbers, of which truth values are none, and texts of numbers. -/
def IsNumeric : Value → Prop
  | int _ => True
  | decimal _ => True
  | double _ => True
  | text content => (Decimal.read content.toList).isSome
  | _ => False

/-- A value is sent as one text, from which the same number is read. -/
def Denotes (value : Value) (x : Decimal) : Prop :=
  ∃ sent y, Wire.argument value = [sent] ∧ toDecimal (.text sent) = .ok y ∧ x.SameNumber y

variable {value : Value}

theorem toDecimal_text_iff {content : String} {x : Decimal} :
    toDecimal (.text content) = .ok x ↔ Decimal.read content.toList = some x := by
  simp only [toDecimal, text?, decimalOfText]
  cases Decimal.read content.toList <;> simp

theorem word_int (n : Int) : Wire.word (.int n) = String.ofList (Text.ofInt n) :=
  rfl

theorem word_decimal (x : Decimal) : Wire.word (.decimal x) = String.ofList x.plainChars :=
  rfl

theorem word_double (x : Binary64) : Wire.word (.double x) = String.ofList x.renderChars :=
  rfl

/-- Just the numbers and the texts of numbers are sent as a text that denotes the number taken from
them. -/
theorem exists_denotes_iff (held : value.IsHeld) :
    (∃ x, value.toDecimal = .ok x ∧ value.Denotes x) ↔ value.IsNumeric := by
  constructor
  · rintro ⟨x, taken, sent, y, words, read, -⟩
    cases value with
    | int | decimal | double => trivial
    | text content =>
      rw [IsNumeric, toDecimal_text_iff.1 taken]
      rfl
    | bytes content =>
      cases words
      rw [toDecimal_text_iff] at read
      cases (Decimal.read_quotedBytes _).symm.trans read
    | unit member => cases member <;> cases taken
    | mergePolicy member => cases member <;> cases taken
    | _ => cases taken
  · intro numeric
    cases value with
    | int n =>
      refine ⟨_, rfl, _, _, rfl, toDecimal_text_iff.2 ?_, .refl _⟩
      rw [word_int, String.toList_ofList]
      exact Decimal.read_ofInt held
    | decimal x =>
      obtain ⟨y, read, same⟩ : ∃ y, Decimal.read x.plainChars = some y ∧ x.SameNumber y := by
        refine Decimal.exists_read_plainChars fun negative coefficient exponent finite => ?_
        subst finite
        exact held
      refine ⟨x, rfl, _, y, rfl, toDecimal_text_iff.2 ?_, same⟩
      rw [word_decimal, String.toList_ofList]
      exact read
    | double x =>
      obtain ⟨y, read⟩ := Binary64.exists_read_renderChars held
      refine ⟨y, ?_, _, y, rfl, toDecimal_text_iff.2 ?_, .refl y⟩
      · rw [toDecimal, decimalOfText, read]
      · rw [word_double, String.toList_ofList]
        exact read
    | text content =>
      obtain ⟨x, read⟩ := Option.isSome_iff_exists.1 numeric
      exact ⟨x, toDecimal_text_iff.2 read, content, x, rfl, toDecimal_text_iff.2 read, .refl x⟩
    | _ => cases numeric

end Value

end CalendarSeries
