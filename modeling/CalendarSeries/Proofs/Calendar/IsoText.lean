import CalendarSeries.Proofs.Calendar.DateText
import CalendarSeries.Proofs.Calendar.Wall
/-!
Readings of clocks read back from their text. A time of day is read from the text that it is written
as, with or without seconds and with a fraction or none, and so is an offset of a second or more. A
date, a time and an offset in one text are read as the reading that they were written for.
-/
namespace CalendarSeries.Iso

open Text
open Timetable (perDay_eq perSecond_eq)

variable {hour minute second : Nat} {time : TimeOfDay}

/-- A component that a colon leads up to does not end the text. -/
theorem afterComponent_colon {cs : List Char} (more : cs ≠ []) (next : List Char → Option Clock) :
    afterComponent hour minute second (':' :: cs) next = next (':' :: cs) := by
  cases cs with
  | nil => exact absurd rfl more
  | cons => rfl

theorem afterComponent_point {cs : List Char} (more : cs ≠ []) (next : List Char → Option Clock) :
    afterComponent hour minute second ('.' :: cs) next = readFraction hour minute second cs := by
  cases cs with
  | nil => exact absurd rfl more
  | cons => rfl

theorem readFraction_padded {micro : Nat} (short : micro < 1000000) :
    readFraction hour minute second (padded 6 micro) =
      some ⟨⟨hour, minute, second, micro⟩, false⟩ := by
  have length : (padded 6 micro).length = 6 := length_padded (by decide) short
  have values : (placeValues (padded 6 micro)).length = 6 := by
    rw [placeValues, List.length_map, length]
  rw [readFraction, List.take_of_length_le (Nat.le_of_eq length),
    List.drop_of_length_le (Nat.le_of_eq length), mapM_asciiValue (isDigits_padded 6 micro).digits]
  simp [values, digitsValue_placeValues, ofDigitChars_padded, Number.tenTo]

/-- The fraction of a second in the text of a time. -/
def fractionText (time : TimeOfDay) : List Char :=
  if time.micro = 0 then [] else '.' :: padded 6 time.micro

/-- The seconds in the text of a time, with their fraction. -/
def secondsText (hideSeconds : Bool) (time : TimeOfDay) : List Char :=
  if hideSeconds && time.second == 0 && time.micro == 0 then []
  else ':' :: (padded 2 time.second ++ fractionText time)

theorem clockText_eq (hideSeconds : Bool) (time : TimeOfDay) :
    clockText hideSeconds time = padded 2 time.hour ++ ':' :: (padded 2 time.minute ++
      secondsText hideSeconds time) := by
  rw [clockText, secondsText, fractionText]
  split
  · rename_i hidden
    have none : time.micro = 0 := by simpa using (Bool.and_eq_true_iff.1 hidden).2
    simp [none]
  · simp

theorem afterComponent_fraction (valid : time.micro < 1000000) (next : List Char → Option Clock) :
    afterComponent hour minute second (fractionText time) next =
      some ⟨⟨hour, minute, second, time.micro⟩, false⟩ := by
  unfold fractionText
  split
  · rename_i none
    rw [none]
    rfl
  · rw [afterComponent_point (isDigits_padded _ _).nonempty, readFraction_padded valid]

/-- A time of day is read from its text, whether zero seconds are left out or not. -/
theorem readClock_clockText (hideSeconds : Bool) (valid : time.isValid = true) :
    readClock (clockText hideSeconds time) = some ⟨time, false⟩ := by
  obtain ⟨hours, minutes, seconds, micros⟩ := TimeOfDay.isValid_iff.1 valid
  have filled (n : Nat) (rest : List Char) : padded 2 n ++ rest ≠ [] :=
    List.append_ne_nil_of_left_ne_nil (isDigits_padded 2 n).nonempty rest
  simp only [clockText_eq, readClock, Option.bind_eq_bind, Option.bind_some, List.head?_cons,
    if_true, expect, digits_padded 2 (by decide) (show time.hour < 10 ^ 2 by omega),
    digits_padded 2 (by decide) (show time.minute < 10 ^ 2 by omega),
    afterComponent_colon (filled _ _)]
  unfold secondsText
  split
  · rename_i hidden
    simp only [Bool.and_eq_true, beq_iff_eq] at hidden
    obtain ⟨⟨-, second⟩, micro⟩ := hidden
    exact congrArg (fun time => some (Clock.mk time false))
      (congrArg₂ (TimeOfDay.mk time.hour time.minute) second.symm micro.symm)
  · simp only [afterComponent_colon (filled _ _), Option.bind_some, if_true,
      digits_padded 2 (by decide) (show time.second < 10 ^ 2 by omega),
      afterComponent_fraction micros]

/-- The text of a time has digits and two signs only. -/
theorem signs_clockText (hideSeconds : Bool) (time : TimeOfDay) :
    ∀ c ∈ clockText hideSeconds time, c = ':' ∨ c = '.' ∨ c.isDigit = true := by
  intro c member
  simp only [clockText, List.mem_append, List.mem_cons, List.mem_ite_nil_left] at member
  rcases member with (((hour | rfl | minute) | ⟨-, rfl | second⟩) | ⟨-, rfl | micro⟩)
  · exact .inr (.inr (isDigit_of_mem_padded hour))
  · exact .inl rfl
  · exact .inr (.inr (isDigit_of_mem_padded minute))
  · exact .inl rfl
  · exact .inr (.inr (isDigit_of_mem_padded second))
  · exact .inr (.inl rfl)
  · exact .inr (.inr (isDigit_of_mem_padded micro))

theorem not_isOffsetSign {hideSeconds : Bool} {c : Char}
    (member : c ∈ clockText hideSeconds time) : isOffsetSign c = false := by
  rcases signs_clockText _ _ c member with rfl | rfl | digit
  · rfl
  · rfl
  · have range := toNat_of_isDigit digit
    simp only [isOffsetSign, Bool.or_eq_false_iff, beq_eq_false_iff_ne, ne_eq]
    constructor
    · rintro rfl
      exact absurd range.1 (by decide)
    · rintro rfl
      exact absurd range.1 (by decide)

/-- An offset that its text tells: below a day, and a second at least unless there is none. -/
structure IsTold (offset : Int) : Prop where
  short : -Micros.perDay < offset ∧ offset < Micros.perDay
  whole : offset = 0 ∨ Micros.perSecond ≤ offset ∨ offset ≤ -Micros.perSecond

theorem readOffset_of_readClock {cs : List Char} (negative : Bool)
    (read : readClock cs = some ⟨time, false⟩) (below : ¬Micros.perDay ≤ time.micros) :
    readOffset negative cs =
      if time.micros < Micros.perSecond then some 0
      else some (if negative then -time.micros else time.micros) := by
  -- the length of a day stays folded here: a comparison with its numeral would be counted out
  have above : ¬(false || decide (Micros.perDay ≤ time.micros)) = true := by
    rw [decide_eq_false below]
    decide
  rw [readOffset, read, Option.bind_eq_bind, Option.bind_some]
  exact if_neg above

/-- The size of an offset of less than a day is that of the time of day that tells it. -/
theorem micros_timeOfDay_natAbs {offset : Int}
    (short : -Micros.perDay < offset ∧ offset < Micros.perDay) :
    @Eq Int (Wall.timeOfDay offset.natAbs).micros offset.natAbs := by
  rw [Wall.micros_timeOfDay]
  exact Int.emod_eq_of_lt (Int.natCast_nonneg _) (show (offset.natAbs : Int) < _ by omega)

theorem readOffset_clockText {offset : Int} (told : IsTold offset) :
    readOffset (decide (offset < 0)) (clockText true (Wall.timeOfDay offset.natAbs)) =
      some offset := by
  obtain ⟨short, whole⟩ := told
  have size := micros_timeOfDay_natAbs short
  rw [readOffset_of_readClock _ (readClock_clockText true (Wall.timeOfDay_isValid _))
    (by rw [size]; omega), size]
  by_cases small : (offset.natAbs : Int) < Micros.perSecond
  · have none : offset = 0 := by omega
    rw [if_pos small, none]
  · rw [if_neg small]
    by_cases negative : offset < 0
    · rw [decide_eq_true negative, if_pos rfl]
      exact congrArg some (show -(offset.natAbs : Int) = offset by omega)
    · rw [decide_eq_false negative, if_neg Bool.false_ne_true]
      exact congrArg some (show (offset.natAbs : Int) = offset by omega)

/-- A time of day with an offset is read from their texts. -/
theorem readTime_clockText {offset : Int} (valid : time.isValid = true) (told : IsTold offset) :
    readTime (clockText false time ++ offsetText offset) = some (time, some offset) := by
  have plain : ∀ c ∈ clockText false time, (!isOffsetSign c) = true := by
    intro c member
    rw [not_isOffsetSign member]
    rfl
  have sign : (!isOffsetSign (if offset < 0 then '-' else '+')) = false := by split <;> rfl
  have negative : ((if offset < 0 then '-' else '+') == '-') = decide (offset < 0) := by
    split <;> simp_all
  rw [readTime, offsetText, List.takeWhile_append_of_pos plain, List.dropWhile_append_of_pos plain,
    List.takeWhile_cons_of_neg (by simp [sign]), List.dropWhile_cons_of_neg (by simp [sign]),
    List.append_nil, readClock_clockText false valid]
  simp only [Option.bind_eq_bind, Option.bind_some, valid, Bool.not_true, Bool.false_eq_true,
    if_false, negative, readOffset_clockText told]

theorem toList_render (wall offset : Int) :
    (render ⟨wall, some offset⟩).toList = dateText (Wall.date wall) ++
      'T' :: (clockText false (Wall.timeOfDay wall) ++ offsetText offset) := by
  simp [render]

/-- A reading that can be written is read back from its text, with its offset. -/
theorem read_render {wall offset : Int} (inRange : Wall.inRange wall = true)
    (told : IsTold offset) :
    read (render ⟨wall, some offset⟩).toList = some ⟨wall, some offset⟩ := by
  have valid := Wall.date_isValid inRange
  have length := Date.length_dateText valid
  rw [toList_render]
  simp only [read, Date.dateLength_dateText valid, List.take_left' length, List.drop_left' length,
    Date.readDate_dateText valid, readTime_clockText (Wall.timeOfDay_isValid wall) told,
    Option.bind_eq_bind, Option.bind_some, Wall.of_date_timeOfDay, inRange, if_true]
  rw [if_neg (by rw [List.length_append, length]; omega)]

/-- The text of a reading has digits and five signs only. -/
theorem signs_render (wall offset : Int) :
    ∀ c ∈ (render ⟨wall, some offset⟩).toList,
      c ∈ ['-', ':', '.', 'T', '+'] ∨ c.isDigit = true := by
  intro c member
  have clock {hideSeconds : Bool} {time : TimeOfDay} (inside : c ∈ clockText hideSeconds time) :
      c ∈ ['-', ':', '.', 'T', '+'] ∨ c.isDigit = true := by
    rcases signs_clockText _ _ c inside with rfl | rfl | digit
    · exact .inl (by decide)
    · exact .inl (by decide)
    · exact .inr digit
  rw [toList_render, List.mem_append, List.mem_cons, List.mem_append, offsetText, List.mem_cons]
    at member
  rcases member with date | rfl | time | rfl | offset
  · rcases Date.signs_dateText _ c date with rfl | digit
    · exact .inl (by decide)
    · exact .inr digit
  · exact .inl (by decide)
  · exact clock time
  · split <;> exact .inl (by decide)
  · exact clock offset

theorem strip_render (wall offset : Int) :
    strip (render ⟨wall, some offset⟩).toList = (render ⟨wall, some offset⟩).toList := by
  apply strip_eq
  intro c member
  rcases signs_render wall offset c member with sign | digit
  · have solid : ∀ c ∈ ['-', ':', '.', 'T', '+'], isBlank c = false := by
      simp [isBlank, isNumberBlank, isSeparator]
    exact solid c sign
  · exact isBlank_of_isDigit digit

theorem spellZulu_render (wall offset : Int) :
    Instant.spellZulu (render ⟨wall, some offset⟩).toList =
      (render ⟨wall, some offset⟩).toList := by
  apply Instant.spellZulu_eq
  rintro c member rfl
  rcases signs_render wall offset _ member with sign | digit
  · exact absurd sign (by decide)
  · cases digit

end CalendarSeries.Iso
