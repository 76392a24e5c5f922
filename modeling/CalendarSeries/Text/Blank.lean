/-!
White space of Unicode text: which characters are blank, cutting blanks from both ends, and the
maximal runs without a blank. `isBlank_of_mem_words` says that no word holds a blank.
-/
namespace CalendarSeries.Text

/-- The information separators U+001C to U+001F end a word but do not surround a number. -/
def isSeparator (c : Char) : Bool :=
  28 ≤ c.toNat && c.toNat ≤ 31

/-- White space around a number: all of Unicode's white space but the information separators. -/
def isNumberBlank (c : Char) : Bool :=
  let n := c.toNat
  (9 ≤ n && n ≤ 13) || n == 0x20 || n == 0x85 || n == 0xA0 || n == 0x1680 ||
    (0x2000 ≤ n && n ≤ 0x200A) || n == 0x2028 || n == 0x2029 || n == 0x202F ||
    n == 0x205F || n == 0x3000

/-- White space between words. -/
def isBlank (c : Char) : Bool :=
  isNumberBlank c || isSeparator c

/-- Drops from both ends the characters that `p` holds of. -/
def trimBoth (p : Char → Bool) (cs : List Char) : List Char :=
  ((cs.dropWhile p).reverse.dropWhile p).reverse

def strip (cs : List Char) : List Char :=
  trimBoth isBlank cs

/-- Cuts at every character that `p` holds of; between two cuts there may be nothing. -/
def splitWhen (p : Char → Bool) : List Char → List (List Char)
  | [] => [[]]
  | c :: cs =>
    if p c then [] :: splitWhen p cs
    else match splitWhen p cs with
      | [] => [[c]]
      | piece :: pieces => (c :: piece) :: pieces

/-- The maximal runs of characters that are not blank. -/
def words (cs : List Char) : List (List Char) :=
  (splitWhen isBlank cs).filter (fun piece => !piece.isEmpty)

/-- Splits at the first `sep`; nothing if there is none. -/
def splitFirst (sep : Char) : List Char → Option (List Char × List Char)
  | [] => none
  | c :: cs =>
    if c = sep then some ([], cs)
    else (splitFirst sep cs).map fun (before, after) => (c :: before, after)

/-- The text of `pieces` with `sep` between neighbours. -/
def joinWith (sep : List Char) : List (List Char) → List Char
  | [] => []
  | [piece] => piece
  | piece :: pieces => piece ++ sep ++ joinWith sep pieces

theorem splitWhen_ne_nil (p : Char → Bool) (cs : List Char) : splitWhen p cs ≠ [] := by
  cases cs with
  | nil => simp [splitWhen]
  | cons c cs =>
    unfold splitWhen
    split
    · simp
    · split <;> simp

/-- A piece between two cuts holds no character at which the text is cut. -/
theorem not_of_mem_splitWhen {p : Char → Bool} {cs piece : List Char} {c : Char}
    (cut : piece ∈ splitWhen p cs) (inside : c ∈ piece) : p c = false := by
  induction cs generalizing piece with
  | nil => simp [splitWhen] at cut; simp [cut] at inside
  | cons d cs ih =>
    unfold splitWhen at cut
    split at cut
    · rcases List.mem_cons.1 cut with rfl | cut
      · simp at inside
      · exact ih cut inside
    · rename_i keeps
      split at cut
      · rename_i none
        exact absurd none (splitWhen_ne_nil p cs)
      · rename_i first rest pieces
        rcases List.mem_cons.1 cut with rfl | cut
        · rcases List.mem_cons.1 inside with rfl | inside
          · simpa using keeps
          · exact ih (pieces ▸ List.mem_cons_self) inside
        · exact ih (pieces ▸ List.mem_cons_of_mem _ cut) inside

theorem isBlank_of_mem_words {cs word : List Char} {c : Char}
    (found : word ∈ words cs) (inside : c ∈ word) : isBlank c = false :=
  not_of_mem_splitWhen (List.mem_filter.1 found).1 inside

end CalendarSeries.Text
