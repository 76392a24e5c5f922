import CalendarSeries.LabelFilter.Reading
import CalendarSeries.Proofs.Outcome
import CalendarSeries.Proofs.Text.Words
/-!
The written form of label filters. `Spells` says which word spells which condition; reading a word
finds the condition that it spells, and printing the condition gives the word back.
-/
namespace CalendarSeries.LabelFilter

open Text

/-- A label has a character and neither of the two that a sign is made of. -/
structure IsLabel (label : List Char) : Prop where
  nonempty : label ≠ []
  unnegated : '!' ∉ label
  unequalled : '=' ∉ label

/-- What stands between a label and what it is compared with. -/
def sign (negated : Bool) : List Char :=
  if negated then ['!', '='] else ['=']

/-- What may stand after a sign. -/
def IsOperand (cs : List Char) : Prop :=
  cs = [] ∨ (∃ body, body ≠ [] ∧ cs = '(' :: (body ++ [')'])) ∨ (cs ≠ [] ∧ '(' ∉ cs)

def IsExpression (word : List Char) : Prop :=
  ∃ label negated operand, IsLabel label ∧ IsOperand operand ∧
    word = label ++ (sign negated ++ operand)

/-- `values` are the texts that `body` lists, with a comma between neighbours. -/
structure Lists (body : List Char) (values : List String) : Prop where
  nonempty : values ≠ []
  apart : ∀ value ∈ values, ',' ∉ value.toList
  joined : (",".intercalate values).toList = body

/-- The six forms of a condition. -/
inductive Spells : List Char → LabelFilter → Prop
  | absent {label : List Char} : IsLabel label →
    Spells (label ++ ['=']) (absent (String.ofList label))
  | present {label : List Char} : IsLabel label →
    Spells (label ++ ['!', '=']) (present (String.ofList label))
  | anyOf {label body : List Char} {values : List String} : IsLabel label → body ≠ [] →
    Lists body values →
    Spells (label ++ '=' :: '(' :: (body ++ [')'])) (anyOf (String.ofList label) values)
  | noneOf {label body : List Char} {values : List String} : IsLabel label → body ≠ [] →
    Lists body values →
    Spells (label ++ '!' :: '=' :: '(' :: (body ++ [')'])) (noneOf (String.ofList label) values)
  | equal {label value : List Char} : IsLabel label → value ≠ [] → '(' ∉ value →
    Spells (label ++ '=' :: value) (equal (String.ofList label) (String.ofList value))
  | notEqual {label value : List Char} : IsLabel label → value ≠ [] → '(' ∉ value →
    Spells (label ++ '!' :: '=' :: value) (notEqual (String.ofList label) (String.ofList value))

theorem isLabelChar_iff {c : Char} : isLabelChar c = true ↔ c ≠ '!' ∧ c ≠ '=' := by
  simp [isLabelChar]

theorem IsLabel.isLabelChar {label : List Char} (isLabel : IsLabel label) :
    ∀ c ∈ label, isLabelChar c = true := by
  intro c inside
  refine isLabelChar_iff.2 ⟨?_, ?_⟩
  · rintro rfl
    exact isLabel.unnegated inside
  · rintro rfl
    exact isLabel.unequalled inside

theorem IsLabel.of_isLabelChar {label : List Char} (nonempty : label ≠ [])
    (each : ∀ c ∈ label, LabelFilter.isLabelChar c = true) : IsLabel label where
  nonempty := nonempty
  unnegated inside := (isLabelChar_iff.1 (each _ inside)).1 rfl
  unequalled inside := (isLabelChar_iff.1 (each _ inside)).2 rfl

theorem lists_iff {body : List Char} {values : List String} :
    Lists body values ↔ values = (splitWhen (· == ',') body).map String.ofList := by
  constructor
  · rintro ⟨nonempty, apart, rfl⟩
    have pieces : ∀ piece ∈ values.map String.toList, ',' ∉ piece :=
      List.forall_mem_map.2 apart
    rw [splitWhen_eq_splitOn, String.toList_intercalate]
    change _ = (([','].intercalate _).splitOn ',').map _
    rw [List.splitOn_intercalate ',' pieces (by simpa using nonempty), List.map_map]
    simp [Function.comp_def]
  · rintro rfl
    refine ⟨?_, ?_, ?_⟩
    · simpa using splitWhen_ne_nil _ body
    · intro value member inside
      obtain ⟨piece, cut, rfl⟩ := List.mem_map.1 member
      rw [String.toList_ofList] at inside
      simpa using not_of_mem_splitWhen cut inside
    · rw [splitWhen_eq_splitOn, toList_intercalate_ofList]
      exact List.intercalate_splitOn ','

/-- What follows a sign, by its form. -/
inductive Operand.Spelled : List Char → Operand → Prop
  | nothing : Spelled [] .nothing
  | values {body : List Char} {values : List String} : body ≠ [] → Lists body values →
    Spelled ('(' :: (body ++ [')'])) (.values values)
  | value {text : List Char} : text ≠ [] → '(' ∉ text →
    Spelled text (.value (String.ofList text))

theorem isOperand_iff {cs : List Char} : IsOperand cs ↔ ∃ operand, Operand.Spelled cs operand := by
  constructor
  · rintro (rfl | ⟨body, nonempty, rfl⟩ | ⟨nonempty, plain⟩)
    · exact ⟨_, .nothing⟩
    · exact ⟨_, .values nonempty (lists_iff.2 rfl)⟩
    · exact ⟨_, .value nonempty plain⟩
  · rintro ⟨operand, spelled⟩
    cases spelled with
    | nothing => exact .inl rfl
    | values nonempty => exact .inr (.inl ⟨_, nonempty, rfl⟩)
    | value nonempty plain => exact .inr (.inr ⟨nonempty, plain⟩)

theorem bracketed?_eq_some_iff {cs body : List Char} :
    bracketed? cs = some body ↔ body ≠ [] ∧ cs = '(' :: (body ++ [')']) := by
  constructor
  · intro found
    unfold bracketed? at found
    split at found
    · rename_i ends
      obtain ⟨first, last, long⟩ := ends
      cases cs with
      | nil => cases first
      | cons c cs =>
        cases first
        rw [List.length_cons] at long
        have more : cs ≠ [] := List.length_pos_iff.1 (by omega)
        obtain ⟨inner, closing, rfl⟩ := (List.eq_nil_or_concat' cs).resolve_left more
        rw [List.length_append, List.length_singleton] at long
        rw [← List.cons_append, List.getLast?_concat] at last
        cases last
        have kept : (List.drop 1 ('(' :: (inner ++ [')']))).take
            (('(' :: (inner ++ [')'])).length - 2) = inner := by
          simp
        cases found
        rw [kept]
        exact ⟨List.length_pos_iff.1 (by omega), rfl⟩
    · cases found
  · rintro ⟨nonempty, rfl⟩
    have long : 0 < body.length := List.length_pos_iff.2 nonempty
    have last : ('(' :: (body ++ [')'])).getLast? = some ')' := by
      rw [← List.cons_append, List.getLast?_concat]
    simp [bracketed?, long, last]

theorem readOperand_eq_some_iff {cs : List Char} {operand : Operand}
    (solid : ∀ c ∈ cs, isBlank c = false) :
    readOperand cs = some operand ↔ Operand.Spelled cs operand := by
  have stripped {body : List Char} (inside : body ⊆ cs) :
      (splitWhen (· == ',') body).map (fun value => String.ofList (strip value)) =
        (splitWhen (· == ',') body).map String.ofList := by
    apply List.map_congr_left
    intro piece cut
    rw [strip_eq fun c member => solid c (inside (mem_of_mem_splitWhen cut member))]
  constructor
  · intro read
    unfold readOperand at read
    split at read
    · rename_i body bracketed
      obtain ⟨nonempty, rfl⟩ := bracketed?_eq_some_iff.1 bracketed
      cases read
      exact .values nonempty (lists_iff.2 (stripped (by simp)))
    · split at read
      · rename_i empty
        cases List.isEmpty_iff.1 empty
        cases read
        exact .nothing
      · rename_i nonempty
        split at read
        · cases read
        · rename_i plain
          cases read
          exact .value (by simpa using nonempty) (by simpa using plain)
  · intro spelled
    cases spelled with
    | nothing => rfl
    | @values body _ nonempty lists =>
      rw [readOperand, bracketed?_eq_some_iff.2 ⟨nonempty, rfl⟩]
      dsimp only
      rw [stripped (by simp), lists_iff.1 lists]
    | value nonempty plain =>
      have unbracketed : bracketed? cs = none := by
        cases found : bracketed? cs with
        | none => rfl
        | some =>
          rw [(bracketed?_eq_some_iff.1 found).2] at plain
          exact absurd List.mem_cons_self plain
      simp [readOperand, unbracketed, nonempty, plain]

/-- A label ends where a sign starts. -/
theorem label_ends {label : List Char} (isLabel : IsLabel label) (negated : Bool)
    (operand : List Char) :
    (label ++ (sign negated ++ operand)).takeWhile LabelFilter.isLabelChar = label ∧
      (label ++ (sign negated ++ operand)).dropWhile LabelFilter.isLabelChar =
        sign negated ++ operand := by
  rw [List.takeWhile_append_of_pos isLabel.isLabelChar,
    List.dropWhile_append_of_pos isLabel.isLabelChar]
  cases negated <;> simp [sign, LabelFilter.isLabelChar]

/-- A word is a label, a sign and an operand in one way at most. -/
theorem label_sign_inj {label other operand rest : List Char} {negated denied : Bool}
    (isLabel : IsLabel label) (isOther : IsLabel other)
    (same : label ++ (sign negated ++ operand) = other ++ (sign denied ++ rest)) :
    label = other ∧ negated = denied ∧ operand = rest := by
  obtain ⟨before, after⟩ := label_ends isLabel negated operand
  obtain ⟨before', after'⟩ := label_ends isOther denied rest
  rw [same, before'] at before
  rw [same, after'] at after
  refine ⟨before.symm, ?_⟩
  cases negated <;> cases denied <;> simp_all [sign]

theorem ofWord?_label {label : List Char} (isLabel : IsLabel label) (negated : Bool)
    (operand : List Char) :
    ofWord? (label ++ (sign negated ++ operand)) =
      (readOperand operand).map (ofOperand negated (String.ofList label)) := by
  obtain ⟨before, after⟩ := label_ends isLabel negated operand
  have nonempty : label.isEmpty = false := by
    simpa using isLabel.nonempty
  rw [ofWord?, before, after]
  cases negated <;> simp [sign, nonempty]

theorem ofWord?_eq_some_iff_operand {word : List Char} {filter : LabelFilter} :
    ofWord? word = some filter ↔ ∃ label negated cs operand, IsLabel label ∧
      word = label ++ (sign negated ++ cs) ∧ readOperand cs = some operand ∧
      filter = ofOperand negated (String.ofList label) operand := by
  constructor
  · intro read
    have whole := List.takeWhile_append_dropWhile (p := isLabelChar) (l := word)
    unfold ofWord? at read
    dsimp only at read
    split at read
    · cases read
    · rename_i nonempty
      have isLabel : IsLabel (word.takeWhile isLabelChar) :=
        .of_isLabelChar (by simpa using nonempty) (List.all_eq_true.1 List.all_takeWhile)
      split at read
      · rename_i cs after
        obtain ⟨operand, found, rfl⟩ := Option.map_eq_some_iff.1 read
        rw [after] at whole
        exact ⟨_, true, cs, operand, isLabel, whole.symm, found, rfl⟩
      · rename_i cs after
        obtain ⟨operand, found, rfl⟩ := Option.map_eq_some_iff.1 read
        rw [after] at whole
        exact ⟨_, false, cs, operand, isLabel, whole.symm, found, rfl⟩
      · cases read
  · rintro ⟨label, negated, cs, operand, isLabel, rfl, read, rfl⟩
    rw [ofWord?_label isLabel, read]
    rfl

theorem spells_iff {word : List Char} {filter : LabelFilter} :
    Spells word filter ↔ ∃ label negated cs operand, IsLabel label ∧
      word = label ++ (sign negated ++ cs) ∧ Operand.Spelled cs operand ∧
      filter = ofOperand negated (String.ofList label) operand := by
  constructor
  · intro spells
    cases spells with
    | absent isLabel => exact ⟨_, false, _, _, isLabel, rfl, .nothing, rfl⟩
    | present isLabel => exact ⟨_, true, _, _, isLabel, rfl, .nothing, rfl⟩
    | anyOf isLabel some lists => exact ⟨_, false, _, _, isLabel, rfl, .values some lists, rfl⟩
    | noneOf isLabel some lists => exact ⟨_, true, _, _, isLabel, rfl, .values some lists, rfl⟩
    | equal isLabel some plain => exact ⟨_, false, _, _, isLabel, rfl, .value some plain, rfl⟩
    | notEqual isLabel some plain => exact ⟨_, true, _, _, isLabel, rfl, .value some plain, rfl⟩
  · rintro ⟨label, negated, cs, operand, isLabel, rfl, spelled, rfl⟩
    cases spelled <;> cases negated
    case nothing.false => exact .absent isLabel
    case nothing.true => exact .present isLabel
    case values.false some lists => exact .anyOf isLabel some lists
    case values.true some lists => exact .noneOf isLabel some lists
    case value.false some plain => exact .equal isLabel some plain
    case value.true some plain => exact .notEqual isLabel some plain

/-- Reading a word finds the one condition that the word spells. -/
theorem ofWord?_eq_some_iff {word : List Char} {filter : LabelFilter}
    (solid : ∀ c ∈ word, isBlank c = false) :
    ofWord? word = some filter ↔ Spells word filter := by
  rw [ofWord?_eq_some_iff_operand, spells_iff]
  have inner {label cs : List Char} {negated : Bool}
      (split : word = label ++ (sign negated ++ cs)) : ∀ c ∈ cs, isBlank c = false := by
    intro c inside
    exact solid c (by simp [split, inside])
  constructor
  · rintro ⟨label, negated, cs, operand, isLabel, split, read, rfl⟩
    exact ⟨label, negated, cs, operand, isLabel, split,
      (readOperand_eq_some_iff (inner split)).1 read, rfl⟩
  · rintro ⟨label, negated, cs, operand, isLabel, split, spelled, rfl⟩
    exact ⟨label, negated, cs, operand, isLabel, split,
      (readOperand_eq_some_iff (inner split)).2 spelled, rfl⟩

theorem isExpression_iff {word : List Char} :
    IsExpression word ↔ ∃ filter, Spells word filter := by
  constructor
  · rintro ⟨label, negated, cs, isLabel, isOperand, rfl⟩
    obtain ⟨operand, spelled⟩ := isOperand_iff.1 isOperand
    exact ⟨_, spells_iff.2 ⟨label, negated, cs, operand, isLabel, rfl, spelled, rfl⟩⟩
  · rintro ⟨filter, spells⟩
    obtain ⟨label, negated, cs, operand, isLabel, rfl, spelled, -⟩ := spells_iff.1 spells
    exact ⟨label, negated, cs, isLabel, isOperand_iff.2 ⟨operand, spelled⟩, rfl⟩

/-- Values that a text lists are printed as they were listed. -/
theorem Lists.toList_listText {body : List Char} {values : List String}
    (lists : Lists body values) :
    (listText values).toList = '(' :: (body ++ [')']) := by
  simp [listText, ← lists.joined]

/-- A condition is printed as it was spelled. -/
theorem Spells.toList_render {word : List Char} {filter : LabelFilter}
    (spells : Spells word filter) : filter.render.toList = word := by
  cases spells with
  | absent => simp [render]
  | present => simp [render]
  | anyOf _ _ lists => simp [render, lists.toList_listText]
  | noneOf _ _ lists => simp [render, lists.toList_listText]
  | equal => simp [render]
  | notEqual => simp [render]

theorem ofWord_ok_iff {word : List Char} {filter : LabelFilter} (isWord : IsWord word) :
    ofWord word = .ok filter ↔ Spells word filter := by
  rw [← ofWord?_eq_some_iff isWord.solid, ofWord]
  cases ofWord? word <;> simp

theorem ofWord_error_iff {word : List Char} {error : Error} (isWord : IsWord word) :
    ofWord word = .error error ↔
      ¬ IsExpression word ∧ error = .unreadableFilter (String.ofList word) := by
  have spelled {filter : LabelFilter} : ofWord? word = some filter ↔ Spells word filter :=
    ofWord?_eq_some_iff isWord.solid
  simp only [isExpression_iff, ← spelled, ofWord]
  cases ofWord? word <;> simp [eq_comm]

theorem ofText_ok_iff {content : String} {filters : List LabelFilter} :
    ofText content = .ok filters ↔ List.Forall₂ Spells (words content.toList) filters := by
  have guarded (reads : List Char → LabelFilter → Prop) :
      List.Forall₂ reads (words content.toList) filters ↔
        List.Forall₂ (fun word filter => IsWord word ∧ reads word filter)
          (words content.toList) filters := by
    rw [List.forall₂_and_left, and_iff_right fun word found => isWord_of_mem_words found]
  have same : (fun word filter => IsWord word ∧ ofWord word = .ok filter) =
      fun word filter => IsWord word ∧ Spells word filter := by
    funext word filter
    exact propext (and_congr_right ofWord_ok_iff)
  rw [ofText, mapM_ok_iff, guarded, same, ← guarded]

/-- Conditions are printed with one blank between the words that spell them. -/
theorem toList_renderAll {pieces : List (List Char)} {filters : List LabelFilter}
    (spells : List.Forall₂ Spells pieces filters) :
    (renderAll filters).toList = [' '].intercalate pieces := by
  have printed : filters.map (fun filter => filter.render.toList) = pieces := by
    induction spells with
    | nil => rfl
    | cons first _ ih => rw [List.map_cons, first.toList_render, ih]
  rw [renderAll, String.toList_intercalate, List.map_map, ← printed]
  rfl

theorem words_renderAll {content : String} {filters : List LabelFilter}
    (read : ofText content = .ok filters) :
    words (renderAll filters).toList = words content.toList := by
  rw [toList_renderAll (ofText_ok_iff.1 read),
    words_intercalate fun word found => isWord_of_mem_words found]

/-- A text is read where each of its words is a condition, and otherwise the first that is none is
named. The conditions that are read are those the words spell; printed they are these words with one
blank between neighbours, and from that text they are read again. -/
theorem ofValue_text {value : Value} {content : String} (isText : value.text? = some content) :
    ((∃ filters, ofValue value = .ok filters) ↔
      ∀ word ∈ words content.toList, IsExpression word) ∧
    (∀ error, ofValue value = .error error ↔
      ∃ before word after, words content.toList = before ++ word :: after ∧
        (∀ earlier ∈ before, IsExpression earlier) ∧ ¬ IsExpression word ∧
        error = .unreadableFilter (String.ofList word) ∧ error.kind = .filter ∧
        error.message = "Unable to parse '" ++ String.ofList word ++ "'") ∧
    ∀ filters, ofValue value = .ok filters →
      List.Forall₂ Spells (words content.toList) filters ∧
      renderAll filters = " ".intercalate ((words content.toList).map String.ofList) ∧
      ofValue (.text (renderAll filters)) = .ok filters := by
  have reading : ofValue value = ofText content := by
    cases value <;> simp_all [ofValue, Value.text?]
  have isWord : ∀ word ∈ words content.toList, IsWord word :=
    fun word found => isWord_of_mem_words found
  have read {word : List Char} (found : word ∈ words content.toList) :
      (∃ filter, ofWord word = .ok filter) ↔ IsExpression word := by
    rw [isExpression_iff]
    exact exists_congr fun filter => ofWord_ok_iff (isWord word found)
  rw [reading]
  refine ⟨⟨?_, ?_⟩, ?_, ?_⟩
  · rintro ⟨filters, mapped⟩ word found
    exact (read found).1 (exists_ok_of_mapM mapped found)
  · intro each
    exact exists_mapM_ok fun word found => (read found).2 (each word found)
  · intro error
    rw [ofText, mapM_error_iff]
    refine exists_congr fun before => exists_congr fun word => exists_congr fun after =>
      and_congr_right fun split => ?_
    rw [split] at read isWord
    have earlier : (∀ other ∈ before, ∃ filter, ofWord other = .ok filter) ↔
        ∀ other ∈ before, IsExpression other :=
      forall₂_congr fun other member => read (List.mem_append_left _ member)
    have told : error = .unreadableFilter (String.ofList word) →
        error.kind = .filter ∧
          error.message = "Unable to parse '" ++ String.ofList word ++ "'" := by
      rintro rfl
      exact ⟨rfl, rfl⟩
    rw [earlier, ofWord_error_iff (isWord word (by simp)), and_iff_left_of_imp told]
  · intro filters mapped
    have spells := ofText_ok_iff.1 mapped
    refine ⟨spells, ?_, ?_⟩
    · rw [← String.toList_inj, toList_renderAll spells, toList_intercalate_ofList]
      rfl
    · change ofText (renderAll filters) = _
      rw [ofText, words_renderAll mapped]
      exact mapped

/-- A second sign belongs to the value, and a bracket inside brackets to what they list. -/
theorem ofValue_text_odd :
    (Value.text " a==b a!==b\ta=(b)c,d) ").text? = some " a==b a!==b\ta=(b)c,d) " ∧
      renderAll [equal "a" "=b", notEqual "a" "=b", anyOf "a" ["b)c", "d"]] =
        "a==b a!==b a=(b)c,d)" ∧
      ofValue (.text "a==b a!==b a=(b)c,d)") =
        .ok [equal "a" "=b", notEqual "a" "=b", anyOf "a" ["b)c", "d"]] := by
  have read : ofValue (.text " a==b a!==b\ta=(b)c,d) ") =
      .ok [equal "a" "=b", notEqual "a" "=b", anyOf "a" ["b)c", "d"]] := rfl
  obtain ⟨-, printed, again⟩ := (ofValue_text rfl).2.2 _ read
  exact ⟨rfl, printed, again⟩

end CalendarSeries.LabelFilter
