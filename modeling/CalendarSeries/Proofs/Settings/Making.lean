import CalendarSeries.Proofs.Outcome
import CalendarSeries.Proofs.Text.Path
import CalendarSeries.Settings.Basic
/-!
Which settings are made, and which variables they can be made of. Settings that were made once are
made again of their own fields, and one field may be another then.
-/
namespace CalendarSeries

namespace Level

theorem ofName?_eq_some_iff {name : String} {level : Level} :
    ofName? name = some level ↔ name = level.name := by
  constructor
  · intro found
    have same := List.find?_some found
    exact (beq_iff_eq.1 same).symm
  · rintro rfl
    cases level <;> rfl

theorem upper_name (level : Level) : Text.upper level.name = level.name := by
  cases level <;> rfl

theorem name_mem (level : Level) : level.name ∈ Error.logLevels := by
  cases level <;> decide

end Level

/-- Whether the variables that settings are read from can be read, and hold what settings need. -/
structure Environment.IsUsable (environment : Environment) : Prop where
  address : environment.getOr "TSRANGE_REDIS_URL" "redis://localhost:6379/0" ≠ ""
  zone : environment.getOr "TSRANGE_DEFAULT_TZ" "UTC" ∈ Zone.names
  chunkSize : ∃ n, Whole.read (environment.getOr "TSRANGE_FILTER_CHUNK_SIZE" "128").toList = .ok n ∧
    1 ≤ n
  timeout : ∀ content, environment.get? "TSRANGE_SOCKET_TIMEOUT" = some content → content ≠ "" →
    (Binary64.read content.toList).isSome
  level : ∃ level : Level,
    Text.upper (environment.getOr "TSRANGE_LOG_LEVEL" "INFO") = level.name

namespace Settings

/-- Whether settings have an address, a known zone, a positive chunk size and a listed level. -/
structure IsSound (settings : Settings) : Prop where
  address : settings.address ≠ ""
  zone : settings.zone ∈ Zone.names
  chunkSize : 1 ≤ settings.chunkSize
  level : settings.level.name ∈ Error.logLevels

/-- The fields of settings, to make settings of them again. -/
def given (settings : Settings) : Given where
  address := settings.address
  zone := settings.zone
  chunkSize := settings.chunkSize
  timeout := settings.timeout
  debug := settings.debug
  level := settings.level.name
  directory := settings.directory

variable {given : Given} {settings : Settings} {environment : Environment}

theorem make_ok_iff :
    make given = .ok settings ↔
      given.address ≠ "" ∧ given.zone ∈ Zone.names ∧ 1 ≤ given.chunkSize ∧
        ∃ level : Level, Text.upper given.level = level.name ∧
          settings = ⟨given.address, given.zone, given.chunkSize, given.timeout, given.debug, level,
            given.directory.map shortDirectory⟩ := by
  unfold make
  split
  · simp_all
  split
  · simp_all
  split
  · rename_i small
    constructor
    · nofun
    · rintro ⟨-, -, positive, -⟩
      omega
  rename_i addressed known positive
  dsimp only
  cases found : Level.ofName? (Text.upper given.level) with
  | none =>
    refine iff_of_false nofun ?_
    rintro ⟨-, -, -, level, named, -⟩
    cases found.symm.trans (Level.ofName?_eq_some_iff.2 named)
  | some level =>
    have named := Level.ofName?_eq_some_iff.1 found
    constructor
    · intro made
      cases made
      exact ⟨addressed, not_not.1 known, by omega, level, named, rfl⟩
    · rintro ⟨-, -, -, other, also, rfl⟩
      cases found.symm.trans (Level.ofName?_eq_some_iff.2 also)
      rfl

theorem isSound_of_make (made : make given = .ok settings) : settings.IsSound := by
  obtain ⟨address, zone, chunkSize, level, -, rfl⟩ := make_ok_iff.1 made
  exact ⟨address, zone, chunkSize, level.name_mem⟩

theorem shortDirectory_shortDirectory (directory : String) :
    shortDirectory (shortDirectory directory) = shortDirectory directory := by
  by_cases empty : directory = ""
  · subst empty
    rfl
  · have short : shortDirectory directory = Text.shortPath directory := if_neg empty
    rw [short, shortDirectory, Text.shortPath_shortPath]
    split
    · rename_i none
      exact none.symm
    · rfl

/-- Settings that were made are made again with another choice of debugging, and nothing else about
them changes. -/
theorem make_given (made : make given = .ok settings) (debug : Bool) :
    make { settings.given with debug } = .ok { settings with debug } := by
  obtain ⟨address, zone, chunkSize, level, -, rfl⟩ := make_ok_iff.1 made
  refine make_ok_iff.2 ⟨address, zone, chunkSize, level, level.upper_name, ?_⟩
  have short : (given.directory.map shortDirectory).map shortDirectory =
      given.directory.map shortDirectory := by
    rw [Option.map_map]
    exact Option.map_congr fun directory _ => shortDirectory_shortDirectory directory
  simp only [Settings.given, short]

theorem readNumber_ok_iff {content : String} {n : Int} :
    readNumber content = .ok n ↔ Whole.read content.toList = .ok n := by
  have read : (Value.text content).toInteger =
      Value.integerOf (.text content) (Whole.read content.toList) := rfl
  rw [readNumber, read]
  cases Whole.read content.toList with
  | ok m => simp [Value.integerOf, Except.mapError]
  | error fault => cases fault <;> exact iff_of_false nofun nofun

theorem exists_readTimeout_iff {content : Option String} :
    (∃ timeout, readTimeout content = .ok timeout) ↔
      ∀ text, content = some text → text ≠ "" → (Binary64.read text.toList).isSome := by
  unfold readTimeout
  split
  · exact iff_of_true ⟨_, rfl⟩ nofun
  · exact iff_of_true ⟨_, rfl⟩ fun _ same other => absurd (Option.some.inj same).symm other
  · rename_i text other
    cases found : Binary64.read text.toList with
    | some seconds =>
      refine iff_of_true ⟨_, rfl⟩ fun _ same _ => ?_
      cases same
      rw [found]
      rfl
    | none =>
      refine iff_of_false nofun fun each => ?_
      have some := each text rfl other
      rw [found] at some
      cases some

theorem ofEnvironment_ok (succeeded : ofEnvironment environment = .ok settings) :
    ∃ given, make given = .ok settings := by
  obtain ⟨chunkSize, -, succeeded⟩ := bind_succeeded succeeded
  obtain ⟨timeout, -, succeeded⟩ := bind_succeeded succeeded
  exact ⟨_, succeeded⟩

theorem exists_ofEnvironment_iff :
    (∃ settings, ofEnvironment environment = .ok settings) ↔ environment.IsUsable := by
  constructor
  · rintro ⟨settings, succeeded⟩
    obtain ⟨chunkSize, number, succeeded⟩ := bind_succeeded succeeded
    obtain ⟨timeout, seconds, succeeded⟩ := bind_succeeded succeeded
    obtain ⟨address, zone, positive, level, named, -⟩ := make_ok_iff.1 succeeded
    exact ⟨address, zone, ⟨chunkSize, readNumber_ok_iff.1 number, positive⟩,
      exists_readTimeout_iff.1 ⟨timeout, seconds⟩, level, named⟩
  · rintro ⟨address, zone, ⟨chunkSize, number, positive⟩, timeout, level, named⟩
    obtain ⟨timeout, seconds⟩ := exists_readTimeout_iff.2 timeout
    have number := readNumber_ok_iff.2 number
    simp only [ofEnvironment, number, seconds]
    exact ⟨_, make_ok_iff.2 ⟨address, zone, positive, level, named, rfl⟩⟩

end Settings

end CalendarSeries
