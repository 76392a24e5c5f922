import CalendarSeries.Aggregation.Reading
import CalendarSeries.Proofs.Binary64.Rounding
import CalendarSeries.Proofs.Number.Logarithm
import CalendarSeries.Proofs.Number.Whole
/-!
How the making of an aggregation ends, whatever it is made of: with a statistic of the table and a
length that buckets can have, or with the failure of aggregations. It breaks in two ways. Digit
characters pass for a number that they are not read as, and a complaint has to show what cannot be
put in words.
-/
namespace CalendarSeries

/-- Lengths that buckets can have. -/
def BucketLength.IsUsable : BucketLength → Prop
  | .fixed milliseconds => 1 ≤ milliseconds
  | .calendar _ => True

namespace Aggregation

open Text

/-- How a computation ends that should give a `good` result or the failure of aggregations. -/
inductive Ends {α : Type} (good : α → Prop) (breaks : Prop) : Except Error α → Prop
  | made {result : α} (whole : ¬breaks) (isGood : good result) : Ends good breaks (.ok result)
  | failed {error : Error} (whole : ¬breaks) (kind : error.kind = .aggregation) :
      Ends good breaks (.error error)
  | broken {error : Error} (broke : breaks) (kind : error.kind = .value) :
      Ends good breaks (.error error)

namespace Ends

variable {α β : Type} {good : α → Prop} {breaks : Prop} {outcome : Except Error α}

theorem congr {other : Prop} (ends : Ends good breaks outcome) (same : breaks ↔ other) :
    Ends good other outcome :=
  propext same ▸ ends

theorem map {fine : β → Prop} {f : α → β} (ends : Ends good breaks outcome)
    (keeps : ∀ result, good result → fine (f result)) : Ends fine breaks (outcome.map f) := by
  cases ends with
  | made whole isGood => exact .made whole (keeps _ isGood)
  | failed whole kind => exact .failed whole kind
  | broken broke kind => exact .broken broke kind

/-- A complaint about a value breaks if the value cannot be put in words. -/
theorem of_refused (value : Value) (complaint : Error) (kind : complaint.kind = .aggregation) :
    Ends good (value.isWritable = false) (.error (refused value complaint)) := by
  unfold refused
  split
  · rename_i writable
    exact .failed (by simp [writable]) kind
  · rename_i unwritable
    exact .broken (by simpa using unwritable) rfl

/-- What the ending comes to: no break, or one. -/
theorem iff (ends : Ends good breaks outcome) :
    (¬breaks ↔ (∃ result, outcome = .ok result ∧ good result) ∨
      ∃ error, outcome = .error error ∧ error.kind = .aggregation) ∧
    (breaks ↔ ∃ error, outcome = .error error ∧ error.kind = .value) := by
  cases ends with
  | made whole isGood => simp [whole, isGood]
  | failed whole kind => simp [whole, kind]
  | broken broke kind => simp [broke, kind]

end Ends

/-- Digit characters that pass for a number and are not read as one. They name no unit. -/
structure Misleads (content : String) : Prop where
  unnamed : CalendarUnit.ofWord? (lower content) = none
  run : IsRun content.toList
  unread : Whole.IsUnread content.toList

/-- Durations that break the making of an aggregation. -/
inductive BreaksLength (length : Value) : Prop
  | digits {content : String} (words : length.text? = some content) (misleads : Misleads content)
  | unwritable (long : length.isWritable = false) (refused : ∀ n, length = .int n → n ≤ 0)

/-- Arguments that break the making of an aggregation; the statistic comes first. -/
inductive Breaks (statistic length : Value) : Prop
  | unwritable (long : statistic.isWritable = false)
  | length {known : Statistic} (named : known.word = lower statistic.render)
      (breaks : BreaksLength length)

/-- Values that break the reading of an aggregation. -/
inductive BreaksReading (value : Value) : Prop
  | pair {statistic length : Value} (items : value.items? = some [statistic, length])
      (breaks : Breaks statistic length)
  | unwritable (long : value.isWritable = false) (unmade : ∀ known, value ≠ .aggregation known)
      (unpaired : ∀ statistic length, value.items? ≠ some [statistic, length])

theorem positive_ends (milliseconds : Int) :
    Ends BucketLength.IsUsable (Value.isWritableInt milliseconds = false ∧ milliseconds ≤ 0)
      (positive milliseconds) := by
  unfold positive
  split
  · rename_i above
    exact .made (fun ⟨_, low⟩ => absurd above (Int.not_lt.2 low)) above
  · rename_i low
    exact (Ends.of_refused (.int milliseconds) (.durationNotPositive milliseconds) rfl).congr
      (iff_self_and.2 fun _ => Int.not_lt.1 low)

/-- No span of time has so many milliseconds that they cannot be put in words. -/
theorem millisecondsOfSpan_isWritable (span : Micros) :
    Value.isWritableInt (millisecondsOfSpan span) = true := by
  have bound : (millisecondsOfSpan span).natAbs ≤
      2 ^ 53 * 2 ^ Binary64.greatestExponent.toNat := by
    unfold millisecondsOfSpan
    split
    · rename_i negative significand exponent finite
      cases seconds : Binary64.ofQuotient span 1000000 with
      | nan | infinite =>
        rw [seconds] at finite
        cases finite
      | finite =>
        rw [seconds] at finite
        obtain ⟨digits, low⟩ := Binary64.ofRatio_bounds (Binary64.scaleUp_pos _) finite
        exact Binary64.natAbs_truncate_le negative digits low
    · exact Nat.zero_le _
  have few {a b c : Nat} (short : a + b ≤ c) : 2 ^ a * 2 ^ b ≤ Number.tenTo c := by
    rw [Number.tenTo, Nat.pow_eq, ← Nat.pow_add]
    exact (Nat.pow_le_pow_left (by decide) _).trans (Nat.pow_le_pow_right (by decide) short)
  exact decide_eq_true (Nat.succ_le_succ (Number.logTen_le (bound.trans (few (by decide)))))

/-- A number that is not below zero, or can be put in words, does not break the complaint. -/
theorem positive_of_isWritable {milliseconds : Int} {breaks : Prop} (whole : ¬breaks)
    (shown : milliseconds ≤ 0 → Value.isWritableInt milliseconds = true) :
    Ends BucketLength.IsUsable breaks (positive milliseconds) := by
  refine (positive_ends milliseconds).congr ⟨fun ⟨long, low⟩ => ?_, fun broke => (whole broke).elim⟩
  rw [shown low] at long
  cases long

theorem kind_of_integerOf (value : Value) (fault : Whole.Fault) :
    ∃ error, Value.integerOf value (.error fault) = .error error ∧ error.kind = .value := by
  cases fault <;> exact ⟨_, rfl, rfl⟩

theorem digits_iff {content : String} :
    (content.toList.all isDigit && content != "") = true ↔ IsRun content.toList := by
  simp [isRun_iff, String.toList_eq_nil_iff]

theorem lengthOfText_ends (value : Value) (content : String) :
    Ends BucketLength.IsUsable (Misleads content) (lengthOfText value content) := by
  unfold lengthOfText
  split
  · rename_i unit named
    refine .made (fun misleads => ?_) trivial
    rw [misleads.unnamed] at named
    cases named
  · rename_i unnamed
    split
    · rename_i digits
      have run := digits_iff.1 digits
      change Ends _ _ (Value.integerOf (.text content) (Whole.read content.toList) >>= positive)
      rcases Whole.read_of_isRun false run with ⟨unread, fault, failed⟩ | ⟨whole, read⟩
      · obtain ⟨error, found, kind⟩ := kind_of_integerOf (.text content) fault
        rw [show Whole.read content.toList = _ from failed, found]
        exact .broken ⟨unnamed, run, unread⟩ kind
      · rw [show Whole.read content.toList = _ from read]
        refine positive_of_isWritable (fun misleads => whole misleads.unread) fun low => ?_
        rw [show Whole.signed false _ = 0 from Int.le_antisymm low (Int.natCast_nonneg _)]
        rfl
    · rename_i other
      exact .failed (fun misleads => other (digits_iff.2 misleads.run)) rfl

theorem isWritable_of_text? {value : Value} {content : String}
    (words : value.text? = some content) : value.isWritable = true := by
  cases value with
  | text | unit | mergePolicy => rfl
  | _ => cases words

theorem breaksLength_of_text {length : Value} {content : String}
    (words : length.text? = some content) : BreaksLength length ↔ Misleads content := by
  constructor
  · rintro (⟨same, misleads⟩ | ⟨long, -⟩)
    · cases words.symm.trans same
      exact misleads
    · cases long.symm.trans (isWritable_of_text? words)
  · exact .digits words

theorem breaksLength_of_other {length : Value} (wordless : length.text? = none) :
    BreaksLength length ↔ length.isWritable = false ∧ ∀ n, length = .int n → n ≤ 0 := by
  constructor
  · rintro (⟨words, -⟩ | ⟨long, refused⟩)
    · cases wordless.symm.trans words
    · exact ⟨long, refused⟩
  · exact fun ⟨long, refused⟩ => .unwritable long refused

theorem lengthOf_ends (length : Value) :
    Ends BucketLength.IsUsable (BreaksLength length) (lengthOf length) := by
  unfold lengthOf
  split
  · rename_i unit
    refine .made (fun broke => ?_) trivial
    have named := ((breaksLength_of_text rfl).1 broke).unnamed
    cases unit <;> exact absurd named (by decide)
  · rename_i span
    refine positive_of_isWritable (fun broke => ?_) fun _ => millisecondsOfSpan_isWritable span
    cases ((breaksLength_of_other rfl).1 broke).1
  · rename_i n
    refine (positive_ends n).congr ((breaksLength_of_other rfl).trans ?_).symm
    simp [Value.isWritable]
  · rename_i notInt
    split
    · rename_i content words
      exact (lengthOfText_ends length content).congr (breaksLength_of_text words).symm
    · rename_i wordless
      refine (Ends.of_refused length _ rfl).congr ((breaksLength_of_other wordless).trans ?_).symm
      exact and_iff_left fun n same => (notInt n same).elim

theorem statisticOf_ends (statistic : Value) :
    Ends (fun known => known.word = lower statistic.render) (statistic.isWritable = false)
      (statisticOf statistic) := by
  unfold statisticOf
  dsimp only
  split
  · rename_i long
    exact .broken (by simpa using long) rfl
  · rename_i short
    have whole : ¬statistic.isWritable = false := by simpa using short
    split
    · rename_i known found
      exact .made whole (Statistic.word_of_ofWord? found)
    · exact .failed whole rfl

theorem statisticOf_eq {statistic : Value} {known : Statistic}
    (short : ¬statistic.isWritable = false) (named : known.word = lower statistic.render) :
    statisticOf statistic = .ok known := by
  have writable : statistic.isWritable = true := by simpa using short
  simp only [statisticOf, writable, ← named, Statistic.ofWord?_word, Bool.not_true,
    Bool.false_eq_true, if_false]

theorem make_ends (statistic length : Value) :
    Ends (fun aggregation => aggregation.statistic.word = lower statistic.render ∧
      aggregation.length.IsUsable) (Breaks statistic length) (make statistic length) := by
  have first := statisticOf_ends statistic
  unfold make
  cases found : statisticOf statistic with
  | error error =>
    rw [found] at first
    cases first with
    | broken long kind => exact .broken (.unwritable long) kind
    | failed short kind =>
      refine .failed ?_ kind
      rintro (long | ⟨named, -⟩)
      · exact short long
      · cases found.symm.trans (statisticOf_eq short named)
  | ok known =>
    rw [found] at first
    obtain ⟨short, named⟩ :
        (¬statistic.isWritable = false) ∧ known.word = lower statistic.render := by
      cases first with
      | made short named => exact ⟨short, named⟩
    have same : BreaksLength length ↔ Breaks statistic length := by
      refine ⟨.length named, ?_⟩
      rintro (long | ⟨-, breaks⟩)
      · exact absurd long short
      · exact breaks
    have second : Ends (fun aggregation : Aggregation =>
        aggregation.statistic.word = lower statistic.render ∧ aggregation.length.IsUsable) _
        ((lengthOf length).map (⟨known, ·⟩)) :=
      ((lengthOf_ends length).congr same).map fun _ usable => ⟨named, usable⟩
    cases made : lengthOf length with
    | error | ok =>
      rw [made] at second
      exact second

theorem ofValue_ends (value : Value) :
    Ends (fun result => (result = none ↔ value = .none) ∧ ∀ aggregation, result = some aggregation →
      value = .aggregation aggregation ∨ aggregation.length.IsUsable) (BreaksReading value)
      (ofValue value) := by
  unfold ofValue
  split
  · refine .made ?_ (by simp)
    rintro (⟨items, -⟩ | ⟨long, -, -⟩)
    · cases items
    · cases long
  · rename_i aggregation
    refine .made ?_ (by simp)
    rintro (⟨items, -⟩ | ⟨-, unmade, -⟩)
    · cases items
    · exact unmade _ rfl
  · rename_i given unmade
    split
    · rename_i statistic length items
      have same : Breaks statistic length ↔ BreaksReading value := by
        refine ⟨.pair items, ?_⟩
        rintro (⟨others, breaks⟩ | ⟨-, -, unpaired⟩)
        · cases items.symm.trans others
          exact breaks
        · exact absurd items (unpaired _ _)
      refine ((make_ends statistic length).congr same).map fun aggregation ⟨_, usable⟩ => ?_
      refine ⟨iff_of_false (by simp) given, fun other found => .inr ?_⟩
      cases found
      exact usable
    · rename_i unpaired
      refine (Ends.of_refused value _ rfl).congr ⟨fun long => .unwritable long unmade unpaired, ?_⟩
      rintro (⟨items, -⟩ | ⟨long, -, -⟩)
      · exact absurd items (unpaired _ _)
      · exact long

/-- A value that is not read as an aggregation is different from one, unless the reading breaks. -/
theorem equals_ends (aggregation : Aggregation) (value : Value) :
    (¬BreaksReading value ↔ ∃ same, equals aggregation value = .ok same) ∧
      (BreaksReading value ↔
        ∃ error, equals aggregation value = .error error ∧ error.kind = .value) := by
  have ends := ofValue_ends value
  unfold equals
  cases found : ofValue value with
  | ok result =>
    rw [found] at ends
    cases ends with
    | made whole => simp [whole]
  | error error =>
    rw [found] at ends
    cases ends with
    | failed whole kind => simp [whole, kind]
    | broken broke kind => simp [broke, kind]

/-- Whatever it is given, the making of an aggregation gives one with the statistic that is named
and a length that buckets can have, or the failure of aggregations, unless it breaks: digit
characters that are no number, or something to complain about that cannot be put in words, fail as
values do. The same goes for reading an aggregation, and comparing one with any value fails in no
other case. -/
theorem ends_unless_breaks (statistic length value : Value) (aggregation : Aggregation) :
    (¬Breaks statistic length ↔
      (∃ result, make statistic length = .ok result ∧
        result.statistic.word = lower statistic.render ∧ result.length.IsUsable) ∨
      ∃ error, make statistic length = .error error ∧ error.kind = .aggregation) ∧
    (Breaks statistic length ↔
      ∃ error, make statistic length = .error error ∧ error.kind = .value) ∧
    (¬BreaksReading value ↔
      (∃ result, ofValue value = .ok result ∧ (result = none ↔ value = .none) ∧
        ∀ made, result = some made → value = .aggregation made ∨ made.length.IsUsable) ∨
      ∃ error, ofValue value = .error error ∧ error.kind = .aggregation) ∧
    (BreaksReading value ↔ ∃ error, ofValue value = .error error ∧ error.kind = .value) ∧
    (¬BreaksReading value ↔ ∃ same, equals aggregation value = .ok same) ∧
    (BreaksReading value ↔
      ∃ error, equals aggregation value = .error error ∧ error.kind = .value) := by
  obtain ⟨makes, broken⟩ := (make_ends statistic length).iff
  obtain ⟨reads, unread⟩ := (ofValue_ends value).iff
  exact ⟨makes, broken, reads, unread, equals_ends aggregation value⟩

/-- A superscript two is a digit character without a place value. -/
theorem superscript_breaks :
    make (.text "avg") (.text "²") = .error (.unreadableInteger (.text "²")) ∧
      ofValue (.tuple [.text "avg", .text "²"]) = .error (.unreadableInteger (.text "²")) ∧
      equals ⟨.average, .fixed 1⟩ (.tuple [.text "avg", .text "²"]) =
        .error (.unreadableInteger (.text "²")) ∧
      (Error.unreadableInteger (.text "²")).kind = .value :=
  ⟨rfl, rfl, rfl, rfl⟩

end Aggregation

end CalendarSeries
