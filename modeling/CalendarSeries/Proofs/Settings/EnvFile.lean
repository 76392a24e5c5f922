import CalendarSeries.Proofs.Settings.Environment
import CalendarSeries.Proofs.Text.Digits
import CalendarSeries.Proofs.Value.Sent
import CalendarSeries.Settings.Session
import Mathlib.Data.List.TakeWhile
/-!
Files of settings that are read back. A line with a name, an equals sign and a value in quotes sets
the name to that value, whatever quotes, equals signs, number signs and blanks the value has; blank
lines and comments set nothing.
-/
namespace CalendarSeries

namespace Text

theorem strip_of_blanks {cs : List Char} (blanks : ∀ c ∈ cs, isBlank c = true) :
    strip cs = [] := by
  rw [strip, trimBoth, List.dropWhile_eq_nil_iff.2 blanks]
  rfl

/-- Blanks are dropped up to the first character that is none. -/
theorem strip_blanks_append {blanks : List Char} (all : ∀ c ∈ blanks, isBlank c = true)
    {first : Char} (solid : isBlank first = false) (rest : List Char) :
    ∃ left, strip (blanks ++ first :: rest) = first :: left := by
  have dropped : (blanks ++ first :: rest).dropWhile isBlank = first :: rest := by
    rw [List.dropWhile_append, List.dropWhile_eq_nil_iff.2 all,
      List.dropWhile_cons_of_neg (by simp [solid])]
    rfl
  rw [strip, trimBoth, dropped, List.reverse_cons, List.dropWhile_append]
  split
  · rw [List.dropWhile_cons_of_neg (by simp [solid])]
    exact ⟨[], rfl⟩
  · exact ⟨_, List.reverse_append⟩

/-- A text from which no blanks can be dropped does not begin with one. -/
theorem isBlank_of_strip {first : Char} {rest : List Char}
    (kept : strip (first :: rest) = first :: rest) : isBlank first = false := by
  rw [Bool.eq_false_iff]
  intro blank
  have shorter : (strip (first :: rest)).length ≤ rest.length := by
    rw [strip, trimBoth, List.length_reverse, List.dropWhile_cons_of_pos blank]
    refine (List.dropWhile_sublist _).length_le.trans ?_
    rw [List.length_reverse]
    exact (List.dropWhile_sublist _).length_le
  rw [kept] at shorter
  exact Nat.not_succ_le_self _ shorter

end Text

namespace EnvFile

open Text

/-- Whether a character ends a line. -/
def IsBreak (c : Char) : Prop :=
  c = '\n' ∨ c = '\r'

instance : DecidablePred IsBreak :=
  fun _ => inferInstanceAs (Decidable (_ ∨ _))

/-- How a line ends. -/
inductive Ending where
  | lineFeed
  | carriageReturn
  | both

def Ending.chars : Ending → List Char
  | lineFeed => ['\n']
  | carriageReturn => ['\r']
  | both => ['\r', '\n']

/-- A line of a file: a variable with its value in quotes, blanks, or a comment. -/
inductive Line where
  | setting (name value : String)
  | blank (blanks : String)
  | comment (indent text : String)

namespace Line

def chars : Line → List Char
  | .setting name value => name.toList ++ '=' :: '"' :: (value.toList ++ ['"'])
  | blank blanks => blanks.toList
  | comment indent text => indent.toList ++ '#' :: text.toList

/-- The variable of a line with its value. -/
def entry? : Line → Option (String × String)
  | .setting name value => some (name, value)
  | _ => none

/-- A name is not empty and has no blanks at its ends, no equals sign, line break or NUL, and no
number sign in front; a value has no line break or NUL. -/
inductive IsWritten : Line → Prop
  | setting {name value : String} (named : name ≠ "") (stripped : strip name.toList = name.toList)
      (noComment : name.toList.head? ≠ some '#')
      (noMark : ∀ c ∈ name.toList, c ≠ '=' ∧ c ≠ '\x00' ∧ ¬IsBreak c)
      (oneLine : ∀ c ∈ value.toList, c ≠ '\x00' ∧ ¬IsBreak c) : IsWritten (.setting name value)
  | blank {blanks : String} (all : ∀ c ∈ blanks.toList, isBlank c = true ∧ ¬IsBreak c) :
      IsWritten (.blank blanks)
  | comment {indent text : String} (all : ∀ c ∈ indent.toList, isBlank c = true ∧ ¬IsBreak c)
      (oneLine : ∀ c ∈ text.toList, ¬IsBreak c) : IsWritten (.comment indent text)

variable {line : Line}

theorem IsWritten.not_isBreak (written : line.IsWritten) : ∀ c ∈ line.chars, ¬IsBreak c := by
  have solid (c : Char) (plain : c = '=' ∨ c = '"' ∨ c = '#') : ¬IsBreak c := by
    rcases plain with rfl | rfl | rfl <;> exact of_decide_eq_false rfl
  intro c member
  cases written with
  | setting _ _ _ noMark oneLine =>
    simp only [chars, List.mem_append, List.mem_cons, List.not_mem_nil, or_false] at member
    rcases member with inside | rfl | rfl | inside | rfl
    · exact (noMark c inside).2.2
    · exact solid _ (.inl rfl)
    · exact solid _ (.inr (.inl rfl))
    · exact (oneLine c inside).2
    · exact solid _ (.inr (.inl rfl))
  | blank all => exact (all c member).2
  | comment all oneLine =>
    simp only [chars, List.mem_append, List.mem_cons] at member
    rcases member with inside | rfl | inside
    · exact (all c inside).2
    · exact solid _ (.inr (.inr rfl))
    · exact oneLine c inside

theorem unquote_quoted (value : List Char) : unquote ('"' :: (value ++ ['"'])) = value := by
  have quoted : isQuoted '"' ('"' :: (value ++ ['"'])) = true := by
    rw [isQuoted, ← List.cons_append, List.getLast?_concat]
    rfl
  rw [unquote, quoted, Bool.true_or, if_pos rfl, List.drop_succ_cons, List.drop_zero,
    List.dropLast_concat]

/-- A line sets its variable, or nothing. -/
theorem IsWritten.ofLine?_chars (written : line.IsWritten) : ofLine? line.chars = line.entry? := by
  cases written with
  | @setting name value named stripped noComment noMark oneLine =>
    obtain ⟨first, rest, split⟩ : ∃ first rest, name.toList = first :: rest := by
      exact List.exists_cons_of_ne_nil fun empty => named (String.toList_eq_nil_iff.1 empty)
    have solid : isBlank first = false := by
      rw [split] at stripped
      exact isBlank_of_strip stripped
    have quote : isBlank '"' = false := rfl
    have whole : strip (chars (.setting name value)) = chars (.setting name value) := by
      have ends := strip_between solid quote (rest ++ '=' :: '"' :: value.toList)
      simpa only [chars, split, List.cons_append, List.append_assoc] using ends
    have notComment : (chars (.setting name value)).head? ≠ some '#' := by
      rw [split] at noComment
      simpa only [chars, split, List.cons_append, List.head?_cons] using noComment
    have cut : splitFirst '=' (chars (.setting name value)) =
        some (name.toList, '"' :: (value.toList ++ ['"'])) :=
      splitFirst_append (fun c member => (noMark c member).1) _
    rw [ofLine?, whole, if_neg notComment, cut]
    simp only [Option.bind_eq_bind, Option.bind_some, stripped, strip_between quote quote,
      unquote_quoted, String.ofList_toList, entry?]
  | blank all =>
    rw [ofLine?, chars, strip_of_blanks fun c member => (all c member).1]
    rfl
  | comment all oneLine =>
    obtain ⟨left, stripped⟩ :=
      strip_blanks_append (fun c member => (all c member).1) (show isBlank '#' = false from rfl) _
    rw [ofLine?, chars, stripped]
    rfl

end Line

section Lines

variable {before : List Char} {ended : List (Line × Ending)} {last : Line}

theorem lines_append (solid : ∀ c ∈ before, ¬IsBreak c) {cs line : List Char}
    {more : List (List Char)} (rest : lines cs = line :: more) :
    lines (before ++ cs) = (before ++ line) :: more := by
  induction before with
  | nil => exact rest
  | cons c before ih =>
    obtain ⟨first, later⟩ := List.forall_mem_cons.1 solid
    have plain : ¬(c = '\n' ∨ c = '\r') := first
    rw [List.cons_append, lines, if_neg plain, ih later, List.cons_append]
    rintro _ rfl
    exact absurd (.inr rfl) plain

/-- What follows the end of a line is read by itself. A line feed after a carriage return belongs to
it, which makes one blank line less. -/
theorem lines_ending (ending : Ending) (rest : List Char) :
    ∃ more, lines (ending.chars ++ rest) = [] :: more ∧
      more.filterMap ofLine? = (lines rest).filterMap ofLine? := by
  cases ending with
  | lineFeed => exact ⟨lines rest, rfl, rfl⟩
  | both => exact ⟨lines rest, rfl, rfl⟩
  | carriageReturn =>
    match rest with
    | '\n' :: rest => exact ⟨lines rest, rfl, rfl⟩
    | [] => exact ⟨_, rfl, rfl⟩
    | c :: rest =>
      by_cases feed : c = '\n'
      · subst feed
        exact ⟨lines rest, rfl, rfl⟩
      · refine ⟨lines (c :: rest), ?_, rfl⟩
        rw [Ending.chars, List.singleton_append, lines, if_pos (.inr rfl)]
        rintro _ - same
        exact feed (List.cons.inj same).1

/-- The text of lines with their ends and of a last line, which may be blank. -/
def written (ended : List (Line × Ending)) (last : Line) : List Char :=
  ended.flatMap (fun (line, ending) => line.chars ++ ending.chars) ++ last.chars

/-- The variables of lines with their values. -/
def settingsOf (ended : List (Line × Ending)) (last : Line) : List (String × String) :=
  (ended.map Prod.fst ++ [last]).filterMap Line.entry?

theorem entries_written (each : ∀ line ∈ ended, line.1.IsWritten) (ends : last.IsWritten) :
    entries (String.ofList (written ended last)) = settingsOf ended last := by
  rw [entries, String.toList_ofList]
  induction ended with
  | nil =>
    have alone : lines last.chars = [last.chars] := by
      have single := lines_append ends.not_isBreak (show lines [] = [[]] from rfl)
      rwa [List.append_nil] at single
    rw [written, List.flatMap_nil, List.nil_append, alone, List.filterMap_cons,
      ends.ofLine?_chars, settingsOf, List.map_nil, List.nil_append, List.filterMap_cons]
    rfl
  | cons head rest ih =>
    obtain ⟨line, ending⟩ := head
    obtain ⟨first, later⟩ := List.forall_mem_cons.1 each
    obtain ⟨more, split, same⟩ := lines_ending ending (written rest last)
    have cut := lines_append first.not_isBreak split
    have text : written ((line, ending) :: rest) last =
        line.chars ++ (ending.chars ++ written rest last) := by
      simp only [written, List.flatMap_cons, List.append_assoc]
    rw [text, cut, List.append_nil, List.filterMap_cons, first.ofLine?_chars, same, ih later,
      settingsOf, settingsOf, List.map_cons, List.cons_append, List.filterMap_cons]

theorem sets_of_isWritten {line : Line} (formed : line.IsWritten) {entry : String × String}
    (held : line.entry? = some entry) : Environment.Sets entry := by
  cases formed with
  | setting named _ _ noMark oneLine =>
    cases held
    refine Environment.sets_iff.2 ⟨named, ?_, ?_, ?_⟩
    · exact fun mark => (noMark _ mark).1 rfl
    · exact fun nul => (noMark _ nul).2.1 rfl
    · exact fun nul => (oneLine _ nul).1 rfl
  | blank | comment => cases held

end Lines

/-- Loading a file of variables with their values in quotes, blank lines and comments sets these
variables in turn, and does nothing else. Then each has the value that the file gives it last, and
all other variables are as they were. -/
theorem loadFile_written {session : Session} {name : String} {ended : List (Line × Ending)}
    {last : Line} (each : ∀ line ∈ ended, line.1.IsWritten) (ends : last.IsWritten)
    (found : session.readFile (shortPath name) = .ok (String.ofList (written ended last))) :
    let environment := session.environment.putAll (settingsOf ended last)
    Session.loadFile name session = (.ok (), { session with environment }) ∧
      ∀ other, environment.get? other =
        ((settingsOf ended last).reverse.lookup other).or (session.environment.get? other) := by
  intro environment
  have sets : ∀ entry ∈ settingsOf ended last, Environment.Sets entry := by
    intro entry member
    obtain ⟨line, inside, held⟩ := List.mem_filterMap.1 member
    rcases List.mem_append.1 inside with before | final
    · obtain ⟨pair, listed, rfl⟩ := List.mem_map.1 before
      exact sets_of_isWritten (each pair listed) held
    · exact sets_of_isWritten (List.mem_singleton.1 final ▸ ends) held
  have loaded : load session.environment (String.ofList (written ended last)) =
      (environment, none) := by
    have all : (settingsOf ended last).takeWhile (fun entry => Environment.Sets entry) =
        settingsOf ended last :=
      List.takeWhile_eq_self_iff.2 fun entry member => decide_eq_true (sets entry member)
    rw [load, entries_written each ends, setAll_eq, all, List.findSome?_eq_none_iff.2 sets]
  refine ⟨?_, Environment.get?_putAll _ _⟩
  rw [Session.loadFile, found]
  dsimp only
  rw [loaded]

/-- Lines with every kind of end, of which two set one variable. -/
def mixedLines : List (Line × Ending) :=
  [(.comment "\t" " quotes = \"", .both), (.setting "LOG DIR" "a", .carriageReturn),
    (.blank "", .lineFeed), (.blank " \x0c", .lineFeed),
    (.setting "LOG DIR" " \"# = ' ", .lineFeed)]

/-- The last of two values is kept as it was written, with its quotes and blanks; an empty value is
one too, and what was set before stays. -/
theorem loadFile_written_mixed :
    let session : Session :=
      { environment := [("HOME", "/root")]
        files := [(".env", String.ofList (written mixedLines (.setting "LEVEL" "")))] }
    ∃ environment, Session.loadFile "./.env" session = (.ok (), { session with environment }) ∧
      environment.get? "LOG DIR" = some " \"# = ' " ∧ environment.get? "LEVEL" = some "" ∧
      environment.get? "HOME" = some "/root" := by
  intro session
  have each : ∀ line ∈ mixedLines, line.1.IsWritten := by
    simp only [mixedLines, List.forall_mem_cons]
    refine ⟨.comment ?_ ?_, .setting (by decide) (by decide) (by decide) ?_ ?_, .blank ?_,
      .blank ?_, .setting (by decide) (by decide) (by decide) ?_ ?_, nofun⟩
    all_goals
      rw [← List.forall_iff_forall_mem]
      decide
  have ends : (Line.setting "LEVEL" "").IsWritten := by
    refine .setting (by decide) (by decide) (by decide) ?_ nofun
    rw [← List.forall_iff_forall_mem]
    decide
  have found : session.readFile (shortPath "./.env") =
      .ok (String.ofList (written mixedLines (.setting "LEVEL" ""))) := rfl
  obtain ⟨loaded, values⟩ := loadFile_written each ends found
  refine ⟨_, loaded, ?_, ?_, ?_⟩
  all_goals
    rw [values]
    rfl

end EnvFile

end CalendarSeries
