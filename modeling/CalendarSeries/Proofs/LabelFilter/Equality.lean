import CalendarSeries.Proofs.LabelFilter.Grammar
/-!
What validation of label filters vouches for. It asks that one condition is an equality, while a
server sees the printed conditions: an equality whose value is no value when it is read again is
lost on the way.
-/
namespace CalendarSeries.LabelFilter

open Text

/-- Read by itself, a text says that a label has one value. -/
def ReadsAsEquality (text : String) : Prop :=
  ∃ label value, value ≠ "" ∧ ofText text = .ok [equal label value]

/-- A label that ends where it did when it is printed and read again. -/
structure StaysLabel (label : String) : Prop where
  isLabel : IsLabel label.toList
  solid : ∀ c ∈ label.toList, isBlank c = false

/-- A value that is printed as one: a word that opens no bracket. Blanks after it are dropped. -/
def StaysValue (cs : List Char) : Prop :=
  ∃ word blanks, cs = word ++ blanks ∧ IsWord word ∧ '(' ∉ word ∧ ∀ c ∈ blanks, isBlank c = true

/-- Whether a map states one value for a label, rather than several, or the label's presence. -/
def isScalar : Value → Bool
  | .bool _ => false
  | .map _ => false
  | value => value.items?.isNone

theorem readsAsEquality_iff {text : String} :
    ReadsAsEquality text ↔ ∃ label value, IsLabel label ∧ value ≠ [] ∧ '(' ∉ value ∧
      words text.toList = [label ++ (sign false ++ value)] := by
  constructor
  · rintro ⟨label, value, -, read⟩
    obtain ⟨word, others, spells, none, pieces⟩ :=
      List.forall₂_cons_right_iff.1 (ofText_ok_iff.1 read)
    rw [List.forall₂_nil_right_iff.1 none] at pieces
    cases spells with
    | equal isLabel nonempty plain => exact ⟨_, _, isLabel, nonempty, plain, pieces⟩
  · rintro ⟨label, value, isLabel, nonempty, plain, single⟩
    refine ⟨String.ofList label, String.ofList value, by simpa using nonempty, ?_⟩
    rw [ofText_ok_iff, single]
    exact .cons (.equal isLabel nonempty plain) .nil

/-- What is printed after a label that stays one says whether an equality is read. -/
theorem readsAsEquality_sign {label : String} (stays : StaysLabel label) (negated : Bool)
    (cs : List Char) :
    ReadsAsEquality (label ++ String.ofList (sign negated ++ cs)) ↔
      negated = false ∧ StaysValue cs := by
  have isWord : IsWord (label.toList ++ sign negated) := by
    refine IsWord.append ⟨stays.isLabel.nonempty, stays.solid⟩ ?_
    cases negated <;> simp [sign, isBlank, isNumberBlank, isSeparator]
  rw [readsAsEquality_iff, String.toList_append, String.toList_ofList, ← List.append_assoc]
  constructor
  · rintro ⟨other, value, isLabel, nonempty, plain, single⟩
    obtain ⟨more, blanks, rfl, solid, blank, same⟩ :=
      (words_append_eq_singleton_iff isWord).1 single
    rw [List.append_assoc] at same
    obtain ⟨-, rfl, rfl⟩ := label_sign_inj isLabel stays.isLabel same
    exact ⟨rfl, value, blanks, rfl, ⟨nonempty, solid⟩, plain, blank⟩
  · rintro ⟨rfl, word, blanks, rfl, ⟨nonempty, solid⟩, plain, blank⟩
    refine ⟨label.toList, word, stays.isLabel, nonempty, plain, ?_⟩
    exact (words_append_eq_singleton_iff isWord).2
      ⟨word, blanks, rfl, solid, blank, (List.append_assoc ..).symm⟩

def isNegated : LabelFilter → Bool
  | equal .. | absent _ | anyOf .. => false
  | notEqual .. | present _ | noneOf .. => true

/-- What is printed after the sign of a condition. -/
def operandText : LabelFilter → List Char
  | equal _ value | notEqual _ value => value.toList
  | absent _ | present _ => []
  | anyOf _ values | noneOf _ values => (listText values).toList

theorem render_eq (filter : LabelFilter) :
    filter.render =
      filter.label ++ String.ofList (sign filter.isNegated ++ filter.operandText) := by
  rw [← String.toList_inj]
  cases filter <;> simp [render, label, sign, isNegated, operandText]

theorem not_staysValue_listText (values : List String) :
    ¬ StaysValue (listText values).toList := by
  rintro ⟨word, blanks, split, isWord, plain, -⟩
  cases word with
  | nil => exact isWord.nonempty rfl
  | cons c word =>
    have opening : c = '(' := by
      simp [listText] at split
      exact split.1.symm
    exact plain (opening ▸ List.mem_cons_self)

/-- A condition of a label that stays one is read as an equality if it is one, of a value that
stays one. -/
theorem readsAsEquality_render {filter : LabelFilter} (stays : StaysLabel filter.label) :
    ReadsAsEquality filter.render ↔
      ∃ value, filter = equal filter.label value ∧ StaysValue value.toList := by
  have nothing : ¬ StaysValue [] := by
    rintro ⟨word, blanks, split, isWord, -⟩
    exact isWord.nonempty (List.append_eq_nil_iff.1 split.symm).1
  rw [render_eq, readsAsEquality_sign stays]
  cases filter with
  | equal => simp [isNegated, operandText, label]
  | notEqual => simp [isNegated]
  | absent => simp [operandText, nothing]
  | present => simp [isNegated]
  | anyOf => simp [operandText, not_staysValue_listText]
  | noneOf => simp [isNegated]

/-- The condition of an entry is about its key; it is an equality where the entry has one value. -/
theorem ofEntry_ok {key value : Value} {filter : LabelFilter}
    (read : ofEntry key value = .ok filter) :
    filter.label = key.render ∧ filter.isEqual = isScalar value ∧
      (isScalar value = true → filter = equal key.render value.render) := by
  unfold ofEntry at read
  dsimp only at read
  split at read
  · cases read
    exact ⟨rfl, rfl, nofun⟩
  · cases read
    exact ⟨rfl, rfl, nofun⟩
  · rename_i excluded
    cases read
    unfold excluding
    split <;> exact ⟨rfl, rfl, nofun⟩
  · cases read
  · rename_i notTrue notFalse _ notMap
    have scalar : isScalar value = value.items?.isNone := by
      cases value with
      | bool truth => cases truth <;> contradiction
      | map entries => exact absurd rfl (notMap entries)
      | _ => rfl
    rw [scalar]
    cases items : value.items? with
    | some =>
      rw [items] at read
      cases read
      exact ⟨rfl, rfl, nofun⟩
    | none =>
      rw [items] at read
      cases read
      exact ⟨rfl, rfl, fun _ => rfl⟩

theorem readsAsEquality_entry {key value : Value} {filter : LabelFilter}
    (made : ofEntry key value = .ok filter) (stays : StaysLabel key.render) :
    ReadsAsEquality filter.render ↔
      isScalar value = true ∧ StaysValue value.render.toList := by
  obtain ⟨label, kind, shape⟩ := ofEntry_ok made
  rw [readsAsEquality_render (label ▸ stays), label]
  constructor
  · rintro ⟨text, rfl, plain⟩
    have scalar : isScalar value = true := kind.symm
    cases shape scalar
    exact ⟨scalar, plain⟩
  · rintro ⟨scalar, plain⟩
    exact ⟨value.render, shape scalar, plain⟩

theorem validate_ok_iff {filters : List LabelFilter} :
    validate filters = .ok filters ↔ ∃ filter ∈ filters, filter.isEqual = true := by
  rw [validate, ← List.any_eq_true, ← isValid]
  split <;> simp_all

/-- A condition that a word spells is printed as what it is. -/
theorem readsAsEquality_of_spells {word : List Char} {filter : LabelFilter} (isWord : IsWord word)
    (spells : Spells word filter) : ReadsAsEquality filter.render ↔ filter.isEqual = true := by
  have again : ofText filter.render = .ok [filter] := by
    rw [ofText_ok_iff, spells.toList_render, words_of_isWord isWord]
    exact .cons spells .nil
  unfold ReadsAsEquality
  rw [again]
  cases spells with
  | equal isLabel nonempty plain => simp [isEqual, nonempty]
  | _ => simp [isEqual]

/-- The printed conditions of an argument that is a text are read as they stand, so validation
passes those of which one is read as an equality. Of a map it passes those with one value for some
label. If the label and the value stay what they are, it is read as an equality; if no label is
altered, nothing else is. -/
theorem validate_reads {value : Value} {filters : List LabelFilter}
    (accepted : ofValue value = .ok filters) :
    (∀ content, value.text? = some content →
      (validate filters = .ok filters ↔ ∃ text ∈ filters.map render, ReadsAsEquality text)) ∧
    ∀ entries, value = .map entries →
      (validate filters = .ok filters ↔ ∃ entry ∈ entries, isScalar entry.2 = true) ∧
      (∀ entry ∈ entries, isScalar entry.2 = true → StaysLabel entry.1.render →
        StaysValue entry.2.render.toList → ∃ text ∈ filters.map render, ReadsAsEquality text) ∧
      ((∀ entry ∈ entries, StaysLabel entry.1.render) →
        ((∃ text ∈ filters.map render, ReadsAsEquality text) ↔
          ∃ entry ∈ entries, isScalar entry.2 = true ∧ StaysValue entry.2.render.toList)) := by
  have printed {holds : String → Prop} :
      (∃ text ∈ filters.map render, holds text) ↔ ∃ filter ∈ filters, holds filter.render := by
    simp
  simp only [printed]
  refine ⟨?_, ?_⟩
  · intro content isText
    have read : ofText content = .ok filters := by
      rw [← accepted]
      cases value <;> simp_all [ofValue, Value.text?]
    rw [validate_ok_iff]
    refine exists_congr fun filter => and_congr_right fun member => ?_
    obtain ⟨word, found, spelled⟩ := exists_of_mem_mapM read member
    have isWord := isWord_of_mem_words found
    exact (readsAsEquality_of_spells isWord ((ofWord_ok_iff isWord).1 spelled)).symm
  · rintro entries rfl
    change entries.mapM (fun entry => ofEntry entry.1 entry.2) = .ok filters at accepted
    refine ⟨?_, ?_, ?_⟩
    · rw [validate_ok_iff]
      constructor
      · rintro ⟨filter, member, isEqual⟩
        obtain ⟨entry, inside, made⟩ := exists_of_mem_mapM accepted member
        exact ⟨entry, inside, (ofEntry_ok made).2.1 ▸ isEqual⟩
      · rintro ⟨entry, inside, scalar⟩
        obtain ⟨filter, member, made⟩ := exists_mem_of_mapM accepted inside
        exact ⟨filter, member, (ofEntry_ok made).2.1 ▸ scalar⟩
    · intro entry inside scalar label stays
      obtain ⟨filter, member, made⟩ := exists_mem_of_mapM accepted inside
      exact ⟨filter, member, (readsAsEquality_entry made label).2 ⟨scalar, stays⟩⟩
    · intro labels
      constructor
      · rintro ⟨filter, member, reads⟩
        obtain ⟨entry, inside, made⟩ := exists_of_mem_mapM accepted member
        exact ⟨entry, inside, (readsAsEquality_entry made (labels entry inside)).1 reads⟩
      · rintro ⟨entry, inside, stays⟩
        obtain ⟨filter, member, made⟩ := exists_mem_of_mapM accepted inside
        exact ⟨filter, member, (readsAsEquality_entry made (labels entry inside)).2 stays⟩

/-- The label and the value of this map stay what they are, so its condition is an equality. -/
theorem validate_reads_room :
    ofValue (.map [(.text "room", .text "attic ")]) = .ok [equal "room" "attic "] ∧
      validate [equal "room" "attic "] = .ok [equal "room" "attic "] ∧
      ReadsAsEquality "room=attic " := by
  have accepted : ofValue (.map [(.text "room", .text "attic ")]) = .ok [equal "room" "attic "] :=
    rfl
  obtain ⟨passes, reads, -⟩ := (validate_reads accepted).2 _ rfl
  have label : StaysLabel "room" := by
    refine ⟨⟨by decide, by decide, by decide⟩, ?_⟩
    simp [isBlank, isNumberBlank, isSeparator]
  have value : StaysValue "attic ".toList := by
    refine ⟨"attic".toList, [' '], rfl, ⟨by decide, ?_⟩, by decide, ?_⟩
    all_goals simp [isBlank, isNumberBlank, isSeparator]
  have entry : (Value.text "room", Value.text "attic ") ∈
      [(Value.text "room", Value.text "attic ")] :=
    List.mem_singleton_self _
  refine ⟨accepted, passes.2 ⟨_, entry, rfl⟩, ?_⟩
  simpa [render] using reads _ entry rfl label value

/-- An empty value and a bracketed one pass, though what is printed asks for the absence of one
label and for one of several values of the other. -/
theorem validate_misreads :
    ofValue (.map [(.text "room", .text ""), (.text "floor", .text "(attic)")]) =
        .ok [equal "room" "", equal "floor" "(attic)"] ∧
      validate [equal "room" "", equal "floor" "(attic)"] =
        .ok [equal "room" "", equal "floor" "(attic)"] ∧
      ofText "room=" = .ok [absent "room"] ∧
      ofText "floor=(attic)" = .ok [anyOf "floor" ["attic"]] ∧
      ¬ ∃ text ∈ [equal "room" "", equal "floor" "(attic)"].map render, ReadsAsEquality text := by
  have room : ofText "room=" = .ok [absent "room"] := rfl
  have floor : ofText "floor=(attic)" = .ok [anyOf "floor" ["attic"]] := rfl
  refine ⟨rfl, rfl, room, floor, ?_⟩
  rintro ⟨text, member, label, value, -, read⟩
  rcases List.mem_pair.1 member with rfl | rfl
  · cases room.symm.trans read
  · cases floor.symm.trans read

end CalendarSeries.LabelFilter
