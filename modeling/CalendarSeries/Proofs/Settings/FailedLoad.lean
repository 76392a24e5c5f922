import CalendarSeries.Proofs.Settings.Loading
/-!
What a failed loading of settings leaves behind. The files and the remembered settings are as
before, but the variables that the file has set by then stay set, and later loadings read them. A
later loading goes as if there had been no failure when its own file sets those of the variables of
settings that the failure changed, and so does all that follows it.
-/
namespace CalendarSeries

namespace Environment

/-- Whether all variables that settings are read from are the same, but for some. -/
def AgreesBut (names : List String) (first second : Environment) : Prop :=
  ∀ name ∈ Settings.variableNames, name ∈ names ∨ first.get? name = second.get? name

variable {names : List String} {first second : Environment}

/-- Setting the variables that differ makes environments agree. -/
theorem AgreesBut.putAll {assignments : List (String × String)}
    (agrees : first.AgreesBut (assignments.map Prod.fst) second) :
    (first.putAll assignments).AgreesBut [] (second.putAll assignments) := by
  intro name read
  right
  by_cases set : name ∈ assignments.map Prod.fst
  · exact get?_putAll_of_mem set first second
  · rw [get?_putAll_of_not_mem set, get?_putAll_of_not_mem set]
    exact (agrees name read).resolve_left set

theorem AgreesBut.ofEnvironment (agrees : first.AgreesBut [] second) :
    Settings.ofEnvironment first = Settings.ofEnvironment second := by
  have same (name : String) (read : name ∈ Settings.variableNames) :
      first.get? name = second.get? name :=
    (agrees name read).resolve_left nofun
  simp only [Settings.variableNames, List.forall_mem_cons] at same
  obtain ⟨address, zone, chunkSize, timeout, debug, level, directory, -⟩ := same
  simp only [Settings.ofEnvironment, getOr, address, zone, chunkSize, timeout, debug, level,
    directory]

end Environment

namespace Session

/-- Whether files and remembered settings are the same, and all variables that settings are read
from but for some. -/
structure AgreesBut (names : List String) (first second : Session) : Prop where
  files : first.files = second.files
  remembered : first.remembered = second.remembered
  environment : first.environment.AgreesBut names second.environment

variable {session first second : Session} {names : List String} {name : Option String}
variable {error : Error}

theorem AgreesBut.weaken (agrees : first.AgreesBut [] second) : first.AgreesBut names second :=
  ⟨agrees.files, agrees.remembered, fun name read =>
    .inr ((agrees.environment name read).resolve_left nofun)⟩

theorem fileEntries_congr (files : first.files = second.files) (name : Option String) :
    first.fileEntries name = second.fileEntries name := by
  rcases first with ⟨_, held, _⟩
  rcases second with ⟨_, _, _⟩
  cases files
  rfl

theorem sets_congr (files : first.files = second.files) (name : Option String) :
    first.sets name = second.sets name := by
  unfold sets
  rw [fileEntries_congr files]

theorem fileFault?_congr (files : first.files = second.files) (name : Option String) :
    first.fileFault? name = second.fileFault? name := by
  unfold fileFault?
  rw [fileEntries_congr files]

/-- A file that sets what is different gives the same settings, and makes the sessions agree. -/
theorem fromEnvironment_agrees
    (agrees : first.AgreesBut ((first.sets name).map Prod.fst) second) :
    (fromEnvironment name first).1 = (fromEnvironment name second).1 ∧
      (fromEnvironment name first).2.AgreesBut [] (fromEnvironment name second).2 := by
  have environment := agrees.environment.putAll
  rw [fromEnvironment_eq, fromEnvironment_eq, ← sets_congr agrees.files,
    ← fileFault?_congr agrees.files]
  dsimp only
  rw [environment.ofEnvironment]
  exact ⟨rfl, agrees.files, agrees.remembered, environment⟩

/-- Settings that were loaded are remembered; otherwise those from before are. -/
theorem load_eq (name : Option String) (session : Session) :
    load name session =
      ((fromEnvironment name session).1,
        { (fromEnvironment name session).2 with
          remembered := (fromEnvironment name session).1.toOption.or session.remembered }) := by
  have kept : (fromEnvironment name session).2.remembered = session.remembered := by
    rw [fromEnvironment_eq]
  unfold load
  revert kept
  rcases fromEnvironment name session with ⟨outcome, after⟩
  rintro kept
  cases outcome with
  | ok => rfl
  | error =>
    rw [← kept]
    rfl

theorem load_agrees (agrees : first.AgreesBut ((first.sets name).map Prod.fst) second) :
    (load name first).1 = (load name second).1 ∧
      (load name first).2.AgreesBut [] (load name second).2 := by
  obtain ⟨same, after⟩ := fromEnvironment_agrees agrees
  rw [load_eq, load_eq, same, agrees.remembered]
  refine ⟨rfl, ?_, rfl, ?_⟩
  · simpa only using after.files
  · simpa only using after.environment

/-- What can be asked for: settings of a file and the environment, or those that are remembered. -/
inductive Call
  | load (name : Option String)
  | get

namespace Call

def apply : Call → Step Settings
  | .load name => Session.load name
  | .get => Session.get

/-- The variables that a call sets. -/
def sets (session : Session) : Call → List (String × String)
  | .load name => session.sets name
  | .get => if session.remembered.isSome then [] else session.sets none

end Call

/-- What calls come to, one after the other. -/
def results (session : Session) : List Call → List (Except Error Settings)
  | [] => []
  | call :: later => (call.apply session).1 :: results (call.apply session).2 later

theorem apply_agrees (call : Call)
    (agrees : first.AgreesBut ((call.sets first).map Prod.fst) second) :
    (call.apply first).1 = (call.apply second).1 ∧
      (call.apply first).2.AgreesBut [] (call.apply second).2 := by
  cases call with
  | load name =>
    dsimp only [Call.sets, Call.apply] at agrees ⊢
    exact load_agrees agrees
  | get =>
    have remembered := agrees.remembered
    simp only [Call.apply, Session.get, ← remembered]
    cases held : first.remembered with
    | some settings =>
      simp only [Call.sets, held] at agrees
      exact ⟨rfl, agrees⟩
    | none =>
      simp only [Call.sets, held] at agrees
      exact load_agrees agrees

/-- Sessions that agree give the same, whatever is called. -/
theorem results_agree (agrees : first.AgreesBut [] second) (calls : List Call) :
    first.results calls = second.results calls := by
  induction calls generalizing first second with
  | nil => rfl
  | cons call later ih =>
    obtain ⟨same, after⟩ := apply_agrees call agrees.weaken
    rw [Session.results, Session.results, same, ih after]

/-- All that a failed loading changes are the variables of its file. -/
theorem load_failed (failed : (load name session).1 = .error error) :
    (load name session).2 =
      { session with environment := session.environment.putAll (session.sets name) } := by
  rw [load_eq] at failed ⊢
  dsimp only at failed ⊢
  rw [failed, fromEnvironment_eq]
  rfl

theorem load_of_fileFault (fault : session.fileFault? name = some error) :
    (load name session).1 = .error error := by
  simp only [load_eq, fromEnvironment_of_fault fault]

/-- A failed loading leaves the files and the remembered settings, and changes no variables but
those that its file sets before the first that cannot be set. What is remembered is given as before,
and a file that cannot be loaded fails as before. A call whose file sets the variables of settings
that are not as before gives the same as without the failure, and so do all calls after it; all
calls do if there are no such variables. -/
theorem failedLoad_leaves (failed : (load name session).1 = .error error) :
    let after := (load name session).2
    after = { session with environment := session.environment.putAll (session.sets name) } ∧
    (∀ settings, session.remembered = some settings →
      get session = (.ok settings, session) ∧ get after = (.ok settings, after)) ∧
    (∀ other fault, session.fileFault? other = some fault →
      (load other session).1 = .error fault ∧ (load other after).1 = .error fault) ∧
    (∀ call : Call,
      after.environment.AgreesBut ((call.sets session).map Prod.fst) session.environment →
      ∀ later, after.results (call :: later) = session.results (call :: later)) ∧
    (after.environment.AgreesBut [] session.environment →
      ∀ later, after.results later = session.results later) := by
  intro after
  have left : after =
      { session with environment := session.environment.putAll (session.sets name) } :=
    load_failed failed
  have files : session.files = after.files := by rw [left]
  have remembered : session.remembered = after.remembered := by rw [left]
  refine ⟨left, fun settings held => ⟨?_, ?_⟩, fun other fault stuck => ⟨?_, ?_⟩,
    fun call agrees later => ?_, fun agrees later => ?_⟩
  · rw [get, held]
  · rw [get, ← remembered, held]
  · exact load_of_fileFault stuck
  · exact load_of_fileFault ((fileFault?_congr files other).symm.trans stuck)
  · have sets : call.sets after = call.sets session := by
      cases call <;> simp only [Call.sets, ← remembered, sets_congr files.symm]
    obtain ⟨same, next⟩ :=
      apply_agrees call ⟨files.symm, remembered.symm, sets.symm ▸ agrees⟩
    rw [results, results, same, results_agree next]
  · exact results_agree ⟨files.symm, remembered.symm, agrees⟩ later

/-- A session with a file that has an unknown zone, and two that can be loaded. -/
def strayZone : Session where
  files := [("bad.env", "TSRANGE_DEFAULT_TZ=Mars/Olympus"),
    ("good.env", "TSRANGE_FILTER_CHUNK_SIZE=32"),
    ("mended.env", "TSRANGE_DEFAULT_TZ=Europe/Brussels")]

/-- A file that sets the zone again is loaded as if the one with an unknown zone had never been. -/
theorem failedLoad_leaves_mended :
    (load (some "bad.env") strayZone).1 = .error (.settings (.unknownZone "Mars/Olympus")) ∧
      ∀ later, (load (some "bad.env") strayZone).2.results (.load (some "mended.env") :: later) =
        strayZone.results (.load (some "mended.env") :: later) := by
  have failed :
      (load (some "bad.env") strayZone).1 = .error (.settings (.unknownZone "Mars/Olympus")) := by
    rfl
  obtain ⟨left, -, -, call, -⟩ := failedLoad_leaves failed
  refine ⟨failed, call (.load (some "mended.env")) ?_⟩
  rw [left]
  unfold Environment.AgreesBut
  decide

/-- A file that does not set the zone cannot be loaded after one with an unknown zone, and nor can
settings be had without a file, though both could be before. -/
theorem failedLoad_remains :
    let after := (load (some "bad.env") strayZone).2
    let fault : Error := .settings (.unknownZone "Mars/Olympus")
    (load (some "bad.env") strayZone).1 = .error fault ∧
      (load (some "good.env") strayZone).1 = .ok { chunkSize := 32 } ∧
      (load (some "good.env") after).1 = .error fault ∧
      (get strayZone).1 = .ok {} ∧ (get after).1 = .error fault :=
  ⟨by rfl, by rfl, by rfl, by rfl, by rfl⟩

end Session

end CalendarSeries
