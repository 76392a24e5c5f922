import CalendarSeries.Proofs.Settings.Environment
import CalendarSeries.Proofs.Settings.Making
import CalendarSeries.Settings.Session
/-!
How loading of settings ends. The file comes first: a variable of it that cannot be set, as it has
no name or holds a NUL, ends the loading with an error of its own. After that there are sound
settings, or a fault of the configuration.
-/
namespace CalendarSeries

namespace Text

theorem mem_of_mem_strip {cs : List Char} {c : Char} (member : c ∈ strip cs) : c ∈ cs := by
  rw [strip, trimBoth, List.mem_reverse] at member
  have inside := List.mem_reverse.1 ((List.dropWhile_sublist _).mem member)
  exact (List.dropWhile_sublist _).mem inside

/-- What stands before the first mark has none. -/
theorem not_mem_of_splitFirst {sep : Char} {cs before after : List Char}
    (cut : splitFirst sep cs = some (before, after)) : sep ∉ before := by
  induction cs generalizing before with
  | nil => cases cut
  | cons c cs ih =>
    rw [splitFirst] at cut
    split at cut
    · cases cut
      nofun
    · rename_i other
      obtain ⟨⟨rest, left⟩, found, same⟩ := Option.map_eq_some_iff.1 cut
      cases same
      rw [List.mem_cons, not_or]
      exact ⟨Ne.symm other, ih found⟩

end Text

namespace EnvFile

theorem not_mem_of_entries {content : String} {entry : String × String}
    (member : entry ∈ entries content) : '=' ∉ entry.1.toList := by
  obtain ⟨line, -, found⟩ := List.mem_filterMap.1 member
  simp only [ofLine?, Option.bind_eq_bind] at found
  split at found
  · cases found
  obtain ⟨⟨name, value⟩, cut, found⟩ := Option.bind_eq_some_iff.1 found
  cases found
  rw [String.toList_ofList]
  exact fun mark => Text.not_mem_of_splitFirst cut (Text.mem_of_mem_strip mark)

/-- A variable of a file can be set unless it has no name or holds a NUL. -/
theorem not_sets_iff {content : String} {entry : String × String}
    (member : entry ∈ entries content) :
    ¬Environment.Sets entry ↔
      entry.1 = "" ∨ '\x00' ∈ entry.1.toList ∨ '\x00' ∈ entry.2.toList := by
  have unmarked := not_mem_of_entries member
  rw [Environment.sets_iff]
  tauto

theorem not_forall_sets_iff {content : String} :
    (¬∀ entry ∈ entries content, Environment.Sets entry) ↔
      ∃ entry ∈ entries content,
        entry.1 = "" ∨ '\x00' ∈ entry.1.toList ∨ '\x00' ∈ entry.2.toList := by
  simp only [not_forall, exists_prop]
  exact exists_congr fun entry => and_congr_right not_sets_iff

end EnvFile

theorem Environment.kind_of_refusal {name value : String} {error : Error}
    (refused : refusal name value = some error) : error.kind = .os ∨ error.kind = .value := by
  unfold refusal at refused
  split at refused
  · cases refused
    exact .inr rfl
  split at refused
  · cases refused
    exact .inr rfl
  split at refused <;> cases refused
  exact .inl rfl

namespace Session

/-- The variables of the file that is named, or of the default file, if there is one. -/
def fileEntries (session : Session) (name : Option String) :
    Except Error (List (String × String)) :=
  let path := Text.shortPath (name.getD defaultFile)
  if session.hasPath path then (session.readFile path).map EnvFile.entries else .ok []

/-- The variables that loading the file sets: those before the first that cannot be set. -/
def sets (session : Session) (name : Option String) : List (String × String) :=
  match session.fileEntries name with
  | .ok entries => entries.takeWhile fun entry => Environment.Sets entry
  | .error _ => []

/-- Why the file cannot be loaded, if so. -/
def fileFault? (session : Session) (name : Option String) : Option Error :=
  match session.fileEntries name with
  | .ok entries => entries.findSome? fun entry => Environment.refusal entry.1 entry.2
  | .error error => some error

theorem loadFileIfPresent_eq (name : Option String) (session : Session) :
    loadFileIfPresent name session =
      (match session.fileFault? name with | some error => .error error | none => .ok (),
        { session with environment := session.environment.putAll (session.sets name) }) := by
  unfold loadFileIfPresent fileFault? sets fileEntries
  dsimp only
  split
  · unfold loadFile
    cases session.readFile (Text.shortPath (name.getD defaultFile)) with
    | error => rfl
    | ok content =>
      dsimp only [Except.map]
      rewrite [EnvFile.load, EnvFile.setAll_eq]
      rfl
  · rfl

/-- Loading sets the variables of the file; settings are those of the environment after that. -/
theorem fromEnvironment_eq (name : Option String) (session : Session) :
    fromEnvironment name session =
      let environment := session.environment.putAll (session.sets name)
      (match session.fileFault? name with
        | some error => .error error
        | none => (Settings.ofEnvironment environment).mapError .settings,
        { session with environment }) := by
  unfold fromEnvironment
  rw [loadFileIfPresent_eq]
  cases session.fileFault? name <;> rfl

/-- Whether a path may lead to a file. -/
structure IsFilePath (path : String) : Prop where
  notDirectory : isDirectory path = false
  noNul : Environment.hasNul path = false

variable {session : Session} {name : Option String} {error : Error}
variable {entries : List (String × String)}

theorem fileEntries_eq (isFile : IsFilePath (Text.shortPath (name.getD defaultFile))) :
    session.fileEntries name = .ok (EnvFile.entries
      ((session.files.lookup (Text.shortPath (name.getD defaultFile))).getD "")) := by
  simp only [fileEntries, hasPath, readFile, isFile.notDirectory, isFile.noNul, Bool.false_or]
  cases session.files.lookup (Text.shortPath (name.getD defaultFile)) <;> rfl

theorem fileFault?_eq_none_iff (read : session.fileEntries name = .ok entries) :
    session.fileFault? name = none ↔ ∀ entry ∈ entries, Environment.Sets entry := by
  unfold fileFault?
  rw [read]
  exact List.findSome?_eq_none_iff

theorem kind_of_fileFault (read : session.fileEntries name = .ok entries)
    (fault : session.fileFault? name = some error) :
    error.kind = .os ∨ error.kind = .value := by
  unfold fileFault? at fault
  rw [read] at fault
  obtain ⟨entry, -, refused⟩ := List.exists_of_findSome?_eq_some fault
  exact Environment.kind_of_refusal refused

theorem fromEnvironment_of_fault (fault : session.fileFault? name = some error) :
    (fromEnvironment name session).1 = .error error := by
  rw [fromEnvironment_eq, fault]

theorem fromEnvironment_of_loaded (loaded : session.fileFault? name = none) :
    (fromEnvironment name session).1 =
      (Settings.ofEnvironment (fromEnvironment name session).2.environment).mapError .settings := by
  simp only [fromEnvironment_eq, loaded]

theorem kind_of_settings {result : Except SettingsFault Settings}
    (failed : result.mapError .settings = .error error) : error.kind = .configuration := by
  cases result with
  | ok => cases failed
  | error =>
    cases failed
    rfl

/-- Loading settings gives sound ones, which can be made again with another choice of debugging, or
it fails. A failure is a fault of the configuration unless the file has a variable without a name or
with a NUL in it, and there are settings whenever all variables can be set and are usable then. -/
theorem fromEnvironment_ends (isFile : IsFilePath (Text.shortPath (name.getD defaultFile))) :
    let path := Text.shortPath (name.getD defaultFile)
    let entries := EnvFile.entries ((session.files.lookup path).getD "")
    let outcome := (fromEnvironment name session).1
    let after := (fromEnvironment name session).2
    (∀ settings, outcome = .ok settings → settings.IsSound ∧
      ∀ debug, Settings.make { settings.given with debug } = .ok { settings with debug }) ∧
    (∀ error, outcome = .error error →
      error.kind = .configuration ∨ error.kind = .os ∨ error.kind = .value) ∧
    ((∃ error, outcome = .error error ∧ error.kind ≠ .configuration) ↔
      ∃ entry ∈ entries, entry.1 = "" ∨ '\x00' ∈ entry.1.toList ∨ '\x00' ∈ entry.2.toList) ∧
    ((∃ settings, outcome = .ok settings) ↔
      (∀ entry ∈ entries, Environment.Sets entry) ∧ after.environment.IsUsable) := by
  intro path entries outcome after
  have read : session.fileEntries name = .ok entries := fileEntries_eq isFile
  have sticks : (∃ entry ∈ entries,
        entry.1 = "" ∨ '\x00' ∈ entry.1.toList ∨ '\x00' ∈ entry.2.toList) ↔
      ¬∀ entry ∈ entries, Environment.Sets entry :=
    EnvFile.not_forall_sets_iff.symm
  rw [sticks, ← fileFault?_eq_none_iff read]
  cases fault : session.fileFault? name with
  | some error =>
    have outcome_eq : outcome = .error error := fromEnvironment_of_fault fault
    have kinds := kind_of_fileFault read fault
    rw [outcome_eq]
    refine ⟨nofun, fun _ same => ?_, ?_, iff_of_false nofun fun loaded => nomatch loaded.1⟩
    · cases same
      exact .inr kinds
    · refine iff_of_true ⟨error, rfl, fun same => ?_⟩ nofun
      rw [same] at kinds
      rcases kinds with os | value
      · cases os
      · cases value
  | none =>
    have outcome_eq : outcome = (Settings.ofEnvironment after.environment).mapError .settings :=
      fromEnvironment_of_loaded fault
    rw [outcome_eq]
    refine ⟨fun settings succeeded => ?_, fun _ failed => .inl (kind_of_settings failed), ?_, ?_⟩
    · obtain ⟨given, made⟩ := Settings.ofEnvironment_ok (mapError_succeeded succeeded)
      exact ⟨Settings.isSound_of_make made, Settings.make_given made⟩
    · refine iff_of_false ?_ fun stuck => stuck rfl
      rintro ⟨error, failed, other⟩
      exact other (kind_of_settings failed)
    · rw [← Settings.exists_ofEnvironment_iff, and_iff_right rfl]
      refine exists_congr fun settings => ⟨mapError_succeeded, fun made => ?_⟩
      rw [made]
      rfl

/-- A file without any fault gives settings; one with a line that starts with an equals sign ends
the loading before anything is checked. -/
theorem fromEnvironment_ends_noName :
    let session : Session :=
      { files := [(".env", "=x"), ("good.env", "TSRANGE_FILTER_CHUNK_SIZE=32")] }
    (∃ settings, (fromEnvironment (some "good.env") session).1 = .ok settings) ∧
      ∃ error, (fromEnvironment none session).1 = .error error ∧ error.kind ≠ .configuration := by
  intro session
  have good : IsFilePath (Text.shortPath ((some "good.env").getD defaultFile)) :=
    ⟨by decide, by decide⟩
  have default : IsFilePath (Text.shortPath ((none : Option String).getD defaultFile)) :=
    ⟨by decide, by decide⟩
  constructor
  · refine (@fromEnvironment_ends session _ good).2.2.2.2 ⟨by decide, ?_⟩
    have environment : (fromEnvironment (some "good.env") session).2.environment =
        [("TSRANGE_FILTER_CHUNK_SIZE", "32")] := by
      rw [fromEnvironment_eq]
      rfl
    rw [environment]
    exact ⟨by decide, by decide, ⟨32, by rfl, by decide⟩, nofun, .info, by rfl⟩
  · exact (@fromEnvironment_ends session _ default).2.2.1.2
      ⟨("", "x"), by decide, .inl rfl⟩

/-- A name that is empty and a value with a NUL in it are no faults of the configuration. -/
theorem fromEnvironment_escapes :
    (fromEnvironment none { files := [(".env", "=x")] }).1 = .error .invalidVariable ∧
      Error.invalidVariable.kind = .os ∧
      (fromEnvironment none { files := [(".env", "A=\x00")] }).1 = .error .embeddedNul ∧
      Error.embeddedNul.kind = .value :=
  ⟨rfl, rfl, rfl, rfl⟩

end Session

end CalendarSeries
