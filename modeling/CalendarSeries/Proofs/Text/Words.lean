import CalendarSeries.Text.Blank
/-!
Texts cut into pieces and joined again. Pieces that lose only their cuts give the text back, and
words joined by blanks are read as these words.
-/
namespace CalendarSeries.Text

theorem splitWhen_eq_splitOnP (p : Char → Bool) (cs : List Char) :
    splitWhen p cs = cs.splitOnP p := by
  induction cs with
  | nil => rfl
  | cons c cs ih =>
    rw [List.splitOnP_cons_eq_if_modifyHead, ← ih, splitWhen]
    split
    · rfl
    · cases pieces : splitWhen p cs with
      | nil => exact absurd pieces (splitWhen_ne_nil p cs)
      | cons => rfl

theorem splitWhen_eq_splitOn (cut : Char) (cs : List Char) :
    splitWhen (· == cut) cs = cs.splitOn cut :=
  (splitWhen_eq_splitOnP _ cs).trans List.splitOn_eq_splitOnP.symm

/-- A piece has no characters but those of the text that is cut. -/
theorem mem_of_mem_splitWhen {p : Char → Bool} {cs piece : List Char} {c : Char}
    (cut : piece ∈ splitWhen p cs) (inside : c ∈ piece) : c ∈ cs := by
  induction cs generalizing piece with
  | nil =>
    cases List.mem_singleton.1 cut
    exact inside
  | cons d cs ih =>
    rw [splitWhen] at cut
    split at cut
    · rcases List.mem_cons.1 cut with rfl | cut
      · cases inside
      · exact List.mem_cons_of_mem _ (ih cut inside)
    · split at cut
      · cases List.mem_singleton.1 cut
        exact List.mem_cons.2 ((List.mem_cons.1 inside).imp_right fun none => by cases none)
      · rename_i first rest pieces
        rw [pieces] at ih
        rcases List.mem_cons.1 cut with rfl | cut
        · rcases List.mem_cons.1 inside with rfl | inside
          · exact List.mem_cons_self
          · exact List.mem_cons_of_mem _ (ih List.mem_cons_self inside)
        · exact List.mem_cons_of_mem _ (ih (List.mem_cons_of_mem _ cut) inside)

theorem trimBoth_eq {p : Char → Bool} {cs : List Char} (solid : ∀ c ∈ cs, p c = false) :
    trimBoth p cs = cs := by
  have kept {cs : List Char} (solid : ∀ c ∈ cs, p c = false) : cs.dropWhile p = cs := by
    cases cs with
    | nil => rfl
    | cons c cs => rw [List.dropWhile_cons_of_neg (by simp [solid c List.mem_cons_self])]
  rw [trimBoth, kept solid, kept (by simpa using solid), List.reverse_reverse]

/-- A text without blanks has none to drop. -/
theorem strip_eq {cs : List Char} (solid : ∀ c ∈ cs, isBlank c = false) : strip cs = cs :=
  trimBoth_eq solid

theorem toList_intercalate_ofList (sep : String) (pieces : List (List Char)) :
    (sep.intercalate (pieces.map String.ofList)).toList = sep.toList.intercalate pieces := by
  rw [String.toList_intercalate, List.map_map]
  simp [Function.comp_def]

/-- A word has a character and no blank. -/
structure IsWord (word : List Char) : Prop where
  nonempty : word ≠ []
  solid : ∀ c ∈ word, isBlank c = false

theorem isWord_of_mem_words {cs word : List Char} (found : word ∈ words cs) : IsWord word where
  nonempty := by simpa using (List.mem_filter.1 found).2
  solid _ inside := isBlank_of_mem_words found inside

theorem words_of_isWord {word : List Char} (isWord : IsWord word) : words word = [word] := by
  rw [words, splitWhen_eq_splitOnP, List.splitOnP_eq_singleton isWord.solid]
  simp [isWord.nonempty]

theorem words_append_cons {word : List Char} {blank : Char} (isWord : IsWord word)
    (cut : isBlank blank = true) (rest : List Char) :
    words (word ++ blank :: rest) = word :: words rest := by
  rw [words, splitWhen_eq_splitOnP,
    List.splitOnP_append_cons_of_forall_mem isWord.solid blank cut rest, words,
    splitWhen_eq_splitOnP]
  simp [isWord.nonempty]

/-- Words with a blank between neighbours are the words of their text. -/
theorem words_intercalate {pieces : List (List Char)} (each : ∀ piece ∈ pieces, IsWord piece) :
    words ([' '].intercalate pieces) = pieces := by
  induction pieces with
  | nil => rfl
  | cons word others ih =>
    obtain ⟨isWord, later⟩ := List.forall_mem_cons.1 each
    cases others with
    | nil => rw [List.intercalate_singleton, words_of_isWord isWord]
    | cons next others =>
      rw [List.intercalate_cons_cons, List.append_assoc, List.singleton_append,
        words_append_cons isWord rfl, ih later]

theorem words_cons_of_isBlank {c : Char} (blank : isBlank c = true) (cs : List Char) :
    words (c :: cs) = words cs := by
  simp [words, splitWhen, blank]

theorem words_eq_nil_iff {cs : List Char} : words cs = [] ↔ ∀ c ∈ cs, isBlank c = true := by
  induction cs with
  | nil => simp [words, splitWhen]
  | cons c cs ih =>
    cases blank : isBlank c with
    | true => rw [words_cons_of_isBlank blank, ih, List.forall_mem_cons, and_iff_right blank]
    | false =>
      cases pieces : splitWhen isBlank cs with
      | nil => exact absurd pieces (splitWhen_ne_nil _ cs)
      | cons => simp [words, splitWhen, blank, pieces]

/-- Blanks after a word do not count. -/
theorem words_append_blanks {word blanks : List Char} (isWord : IsWord word)
    (blank : ∀ c ∈ blanks, isBlank c = true) : words (word ++ blanks) = [word] := by
  cases blanks with
  | nil => rw [List.append_nil, words_of_isWord isWord]
  | cons c blanks =>
    obtain ⟨first, later⟩ := List.forall_mem_cons.1 blank
    rw [words_append_cons isWord first, words_eq_nil_iff.2 later]

theorem IsWord.append {first more : List Char} (isWord : IsWord first)
    (solid : ∀ c ∈ more, isBlank c = false) : IsWord (first ++ more) where
  nonempty := by simp [isWord.nonempty]
  solid c member := (List.mem_append.1 member).elim (isWord.solid c) (solid c)

/-- A text that starts with a word is one word if it ends in blanks only. -/
theorem words_append_eq_singleton_iff {first rest word : List Char} (isWord : IsWord first) :
    words (first ++ rest) = [word] ↔
      ∃ more blanks, rest = more ++ blanks ∧ (∀ c ∈ more, isBlank c = false) ∧
        (∀ c ∈ blanks, isBlank c = true) ∧ word = first ++ more := by
  constructor
  · intro single
    induction rest generalizing first with
    | nil =>
      rw [List.append_nil, words_of_isWord isWord] at single
      cases single
      exact ⟨[], [], rfl, by simp, by simp, (List.append_nil _).symm⟩
    | cons c rest ih =>
      cases blank : isBlank c with
      | true =>
        rw [words_append_cons isWord blank] at single
        obtain ⟨rfl, none⟩ := List.cons_eq_cons.1 single
        exact ⟨[], c :: rest, rfl, by simp,
          List.forall_mem_cons.2 ⟨blank, words_eq_nil_iff.1 none⟩, (List.append_nil _).symm⟩
      | false =>
        have longer : IsWord (first ++ [c]) := isWord.append (by simpa using blank)
        rw [List.append_cons] at single
        obtain ⟨more, blanks, rfl, solid, after, rfl⟩ := ih longer single
        exact ⟨c :: more, blanks, rfl, List.forall_mem_cons.2 ⟨blank, solid⟩, after, by simp⟩
  · rintro ⟨more, blanks, rfl, solid, blank, rfl⟩
    rw [← List.append_assoc, words_append_blanks (isWord.append solid) blank]

end CalendarSeries.Text
