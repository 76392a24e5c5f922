import CalendarSeries.Calendar.Pattern
import CalendarSeries.Instant
import CalendarSeries.Proofs.Calendar.Years
import CalendarSeries.Proofs.Text.Digits
import CalendarSeries.Proofs.Text.Words
import Mathlib.Tactic.IntervalCases
/-!
Dates read back from their text. Every reader of dates takes the text of a date that the calendar
has to that date.
-/
namespace CalendarSeries

open Text

theorem Instant.spellZulu_eq {cs : List Char} (plain : ∀ c ∈ cs, c ≠ 'Z') :
    Instant.spellZulu cs = cs := by
  induction cs with
  | nil => rfl
  | cons c cs ih =>
    obtain ⟨first, others⟩ := List.forall_mem_cons.1 plain
    rw [Instant.spellZulu, List.flatMap_cons, if_neg first]
    exact congrArg (c :: ·) (ih others)

theorem Iso.digits_append {cs : List Char} (all : ∀ c ∈ cs, c.isDigit = true) (rest : List Char) :
    Iso.digits cs.length (cs ++ rest) = some (Nat.ofDigitChars 10 cs 0, rest) := by
  rw [Iso.digits, if_neg (by simp), List.take_left' rfl, List.drop_left' rfl, mapM_asciiValue all]
  simp [digitsValue_placeValues]

/-- A number that fills its width is read as what it is. -/
theorem Iso.digits_padded (width : Nat) {n : Nat} (wide : 0 < width) (short : n < 10 ^ width)
    (rest : List Char) : Iso.digits width (padded width n ++ rest) = some (n, rest) := by
  have read := Iso.digits_append (isDigits_padded width n).digits rest
  rwa [length_padded wide short, ofDigitChars_padded] at read

namespace Date

variable {date : Date}

/-- The month of a date as a text. -/
def monthText (date : Date) : List Char :=
  padded 4 date.year.toNat ++ '-' :: padded 2 date.month

/-- The parts of a date that the calendar has are short. -/
theorem short_of_isValid (valid : date.isValid = true) :
    date.year.toNat < 10000 ∧ (date.year.toNat : Int) = date.year ∧ date.month < 100 ∧
      date.day < 100 := by
  obtain ⟨year, month, day⟩ := isValid_iff.1 valid
  have days := (daysInMonth_bounds date.year date.month).2
  unfold leastYear greatestYear at year
  omega

/-- The text of a date has digits and hyphens only. -/
theorem signs_dateText (date : Date) :
    ∀ c ∈ Iso.dateText date, c = '-' ∨ c.isDigit = true := by
  intro c member
  rw [Iso.dateText] at member
  simp only [List.append_assoc, List.cons_append, List.mem_append, List.mem_cons] at member
  rcases member with year | rfl | month | rfl | day
  · exact .inr (isDigit_of_mem_padded year)
  · exact .inl rfl
  · exact .inr (isDigit_of_mem_padded month)
  · exact .inl rfl
  · exact .inr (isDigit_of_mem_padded day)

theorem strip_dateText (date : Date) : strip (Iso.dateText date) = Iso.dateText date := by
  apply strip_eq
  intro c member
  rcases date.signs_dateText c member with rfl | digit
  · rfl
  · exact isBlank_of_isDigit digit

theorem spellZulu_dateText (date : Date) :
    Instant.spellZulu (Iso.dateText date) = Iso.dateText date := by
  apply Instant.spellZulu_eq
  rintro c member rfl
  rcases date.signs_dateText _ member with hyphen | digit
  · cases hyphen
  · cases digit

theorem readYear_padded {n : Nat} (short : n < 10 ^ 4) (rest : List Char) :
    Pattern.readYear (padded 4 n ++ rest) = some (n, rest) := by
  have length := length_padded (by decide) short
  rw [Pattern.readYear, if_neg (by simp [length]), List.take_left' length,
    List.drop_left' length, mapM_decimalValue (isDigits_padded 4 n).digits]
  simp [digitsValue_placeValues, ofDigitChars_padded]

theorem readMonth_padded {month : Nat} (low : 1 ≤ month) (high : month ≤ 12) (rest : List Char) :
    Pattern.readMonth (padded 2 month ++ rest) = some (month, rest) := by
  interval_cases month <;> rfl

theorem readDay_padded {day : Nat} (low : 1 ≤ day) (high : day ≤ 31) (rest : List Char) :
    Pattern.readDay (padded 2 day ++ rest) = some (day, rest) := by
  interval_cases day <;> rfl

theorem digitChar_ne_week {digit : Nat} (short : digit < 10) : digit.digitChar ≠ 'W' := by
  interval_cases digit <;> decide

variable (valid : date.isValid = true)

include valid

theorem readDate_dateText : Iso.readDate (Iso.dateText date) = some date.toDays := by
  obtain ⟨year, same, month, day⟩ := short_of_isValid valid
  have whole : Date.mk (date.year.toNat : Int) date.month date.day = date := by rw [same]
  simp only [Iso.readDate, Iso.dateText, List.append_assoc, List.cons_append,
    Iso.digits_padded 4 (by decide) year, Option.bind_eq_bind, Option.bind_some, List.head?_cons,
    beq_self_eq_true, if_true, List.drop_succ_cons, List.drop_zero]
  split
  · rename_i week
    rw [padded_two month] at week
    exact absurd (List.cons.inj week).1 (digitChar_ne_week (by omega))
  · have last := Iso.digits_padded 2 (by decide) day []
    rw [List.append_nil] at last
    simp [Iso.digits_padded 2 (by decide) month, Iso.expect, last, whole, valid, -Int.ofNat_toNat]

theorem length_dateText : (Iso.dateText date).length = 10 := by
  obtain ⟨year, -, month, day⟩ := short_of_isValid valid
  simp [Iso.dateText, padded_four year, padded_two month, padded_two day]

theorem dateLength_dateText (rest : List Char) :
    Iso.dateLength (Iso.dateText date ++ rest) = 10 := by
  obtain ⟨year, -, month, -⟩ := short_of_isValid valid
  have length := length_dateText valid
  rw [Iso.dateLength, List.length_append, length, if_neg (by omega)]
  simp [Iso.dateText, padded_four year, padded_two month,
    digitChar_ne_week (show date.month / 10 < 10 by omega)]

theorem midnight_inRange : Wall.inRange (Wall.midnight date) = true := by
  obtain ⟨low, high⟩ := toDays_bounds valid
  have day : Micros.perDay = 86400000000 := by decide
  rw [Wall.inRange, Bool.and_eq_true, decide_eq_true_eq, decide_eq_true_eq]
  change leastDay * Micros.perDay ≤ date.toDays * Micros.perDay ∧
    date.toDays * Micros.perDay ≤ (greatestDay + 1) * Micros.perDay - 1
  rw [day]
  omega

/-- The text of a date reads as its midnight. -/
theorem read_dateText :
    Iso.read (Iso.dateText date) = some ⟨Wall.midnight date, none⟩ := by
  have length := length_dateText valid
  have wall : Wall.of date.toDays TimeOfDay.midnight = Wall.midnight date := by
    simp [Wall.of, TimeOfDay.midnight, TimeOfDay.micros, Wall.midnight]
  have whole := dateLength_dateText valid []
  rw [List.append_nil] at whole
  simp [Iso.read, whole, length, List.take_of_length_le,
    List.drop_of_length_le, readDate_dateText valid, wall, midnight_inRange valid]

theorem day_dateText : Pattern.day (Iso.dateText date) = .ok date := by
  obtain ⟨year, same, -, -⟩ := short_of_isValid valid
  obtain ⟨inRange, ⟨low, high⟩, first, last⟩ := isValid_iff.1 valid
  have whole : Date.mk (date.year.toNat : Int) date.month date.day = date := by rw [same]
  have days := (daysInMonth_bounds date.year date.month).2
  have ending := readDay_padded first (Nat.le_trans last days) []
  rw [List.append_nil] at ending
  simp [Pattern.day, Iso.dateText, readYear_padded year, Pattern.hyphen, readMonth_padded low high,
    ending, whole, Pattern.checked, valid, yearInRange, inRange, -Int.ofNat_toNat]

theorem month_monthText : Pattern.month (monthText date) = .ok { date with day := 1 } := by
  obtain ⟨year, same, -, -⟩ := short_of_isValid valid
  obtain ⟨inRange, ⟨low, high⟩, first, last⟩ := isValid_iff.1 valid
  have whole : Date.mk (date.year.toNat : Int) date.month 1 = { date with day := 1 } := by
    rw [same]
  have firstValid : isValid { date with day := 1 } = true := by
    rw [isValid_iff]
    exact ⟨inRange, ⟨low, high⟩, Nat.le_refl 1, Nat.le_trans first last⟩
  have ending := readMonth_padded low high []
  rw [List.append_nil] at ending
  simp [Pattern.month, monthText, readYear_padded year, Pattern.hyphen, ending, whole,
    Pattern.checked, firstValid, yearInRange, inRange, -Int.ofNat_toNat]

end Date

end CalendarSeries
