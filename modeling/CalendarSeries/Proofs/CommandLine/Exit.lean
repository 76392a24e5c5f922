import CalendarSeries.CommandLine.Report
import CalendarSeries.Proofs.Instant.Milliseconds
import CalendarSeries.Proofs.Query.Execution
import CalendarSeries.Proofs.Zone.Concord
/-!
How a command line ends. Everything that goes wrong before samples are shown is given an exit code.
In showing them, a time that cannot be written ends the program without one: an instant or a reading
of a clock outside the writable years, or any time in a zone whose name was accepted in another case
than its own.
-/
namespace CalendarSeries

namespace Instant

/-- Whether the clock of a zone, found by exactly this name, can be written at an instant. -/
def IsWritable (name : String) (stamp : Int) : Prop :=
  ∃ zone, Zone.find name = .ok zone ∧ Wall.inRange (stamp * 1000) = true ∧
    Wall.inRange (zone.reading (stamp * 1000)) = true

/-- Why the clock of a zone has no reading that can be written. -/
inductive Unwritable (name : String) : Error → Prop
  | outOfRange (cause : OutOfRange) : Unwritable name (.outOfRange cause)
  | unknownZone {cause : Zone.Unknown} (missing : Zone.find name = .error cause) :
      Unwritable name (.unknownZone cause)

variable {name : String} {stamp : Int}

theorem readingIn_ok (writable : IsWritable name stamp) :
    ∃ reading, readingIn (.named name) stamp = .ok reading := by
  obtain ⟨zone, found, inRange, shown⟩ := writable
  exact ⟨_, (Assumed.HasOffset.named found).readingIn_eq inRange shown⟩

theorem isWritable_of_readingIn {reading : Iso.Reading}
    (read : readingIn (.named name) stamp = .ok reading) : IsWritable name stamp := by
  obtain ⟨instant, within, read⟩ := bind_succeeded read
  obtain ⟨inRange, rfl⟩ := Bucket.ofMilliseconds_ok within
  obtain ⟨place, placed, read⟩ := bind_succeeded read
  obtain ⟨zone, found, rfl⟩ := map_succeeded placed
  obtain ⟨wall, checked, -⟩ := map_succeeded read
  exact ⟨zone, mapError_succeeded found, inRange, (Bucket.checked_ok_iff.1 checked).1⟩

theorem checked_failed {value : Micros} {error : Error} (failed : checked value = .error error) :
    Unwritable name error := by
  unfold checked at failed
  split at failed <;> cases failed
  exact .outOfRange _

theorem ofMilliseconds_failed {error : Error} (failed : ofMilliseconds stamp = .error error) :
    Unwritable name error := by
  rcases bind_failed failed with wide | ⟨span, -, failed⟩
  · simp only [spanOfMilliseconds] at wide
    split at wide
    · cases wide
      exact .outOfRange _
    · split at wide <;> cases wide
      exact .outOfRange _
  · exact checked_failed failed

theorem readingIn_failed {error : Error} (failed : readingIn (.named name) stamp = .error error) :
    Unwritable name error := by
  rcases bind_failed failed with early | ⟨instant, -, failed⟩
  · exact ofMilliseconds_failed early
  rcases bind_failed failed with unplaced | ⟨place, placed, failed⟩
  · have missing := map_failed unplaced
    unfold exactZone at missing
    cases found : Zone.find name with
    | error cause =>
      rw [found] at missing
      cases missing
      exact .unknownZone found
    | ok =>
      rw [found] at missing
      cases missing
  · obtain ⟨zone, -, rfl⟩ := map_succeeded placed
    exact checked_failed (map_failed failed)

/-- In a zone that is known by exactly its name all times but those of the outermost writable days
can be written: no clock is a day ahead or behind. -/
theorem isWritable_of_inner {zone : Zone} (found : Zone.find name = .ok zone)
    (late : Wall.inRange (stamp * 1000 - Micros.perDay) = true)
    (early : Wall.inRange (stamp * 1000 + Micros.perDay) = true) : IsWritable name stamp := by
  have orderly := Zone.known_isOrderly zone (Zone.exactZone_known (exactZone_ok found)).1
  have short := orderly.regimeAt_isShort (stamp * 1000 / Micros.perSecond)
  refine ⟨zone, found, ?_⟩
  simp only [Timetable.inRange_iff, Zone.reading, Zone.offsetAt, Regime.IsShort,
    Timetable.perSecond_eq, Timetable.perDay_eq] at *
  omega

end Instant

namespace CommandLine

namespace Row

variable {zone : String} {readings : List (Int × Value)}

/-- The rows of readings, if the time of each can be written. -/
def ofReadings (zone : String) (readings : List (Int × Value)) : Except Error (List Row) :=
  readings.mapM fun (stamp, value) => ofReading zone stamp value

/-- Rows are made of the readings among the elements, whatever the terminal shows meanwhile. -/
theorem ofElements_eq (zone : String) (elements : List Element) (terminal : Terminal) :
    (ofElements zone elements terminal).1 =
      ofReadings zone (elements.filterMap Element.reading?) := by
  unfold ofReadings
  induction elements generalizing terminal with
  | nil => rfl
  | cons element rest ih =>
    have shown {stamp : Int} {value : Value} (read : element.reading? = some (stamp, value))
        (whole : element.failure? = none) :
        (ofElements zone (element :: rest) terminal).1 =
          ((element :: rest).filterMap Element.reading?).mapM fun (stamp, value) =>
            ofReading zone stamp value := by
      rw [List.filterMap_cons_some read, List.mapM_cons, ← ih terminal, ofElements, whole, read]
      dsimp only
      cases ofReading zone stamp value with
      | error => rfl
      | ok =>
        dsimp only
        cases (ofElements zone rest terminal).1 <;> rfl
    cases element with
    | sample | merged => exact shown rfl rfl
    | failure error => exact ih (terminal.complain ("error: " ++ error.message))

theorem ofReadings_ok_iff :
    (∃ rows, ofReadings zone readings = .ok rows) ↔
      ∀ reading ∈ readings, Instant.IsWritable zone reading.1 := by
  constructor
  · rintro ⟨rows, made⟩ reading member
    obtain ⟨row, found⟩ := exists_ok_of_mapM made member
    obtain ⟨shown, read, -⟩ := map_succeeded found
    exact Instant.isWritable_of_readingIn read
  · intro writable
    refine exists_mapM_ok fun (stamp, value) member => ?_
    obtain ⟨shown, read⟩ := Instant.readingIn_ok (writable (stamp, value) member)
    exact ⟨⟨stamp, Iso.render shown, value.render⟩, by simp only [ofReading, read, Except.map]⟩

theorem ofReadings_failed {error : Error} (failed : ofReadings zone readings = .error error) :
    Instant.Unwritable zone error := by
  obtain ⟨reading, -, failed⟩ := mapM_failed failed
  exact Instant.readingIn_failed (map_failed failed)

end Row

/-- A zone that a selection is shown in is one whose name was accepted. -/
theorem Selection.zoneIn_ok {context : Context} {selection : Selection} {zone : String}
    (accepted : selection.zoneIn context = .ok zone) :
    ∃ table, Bucket.timetable zone = .ok table := by
  simp only [zoneIn] at accepted
  split at accepted
  · rename_i table found
    cases accepted
    exact ⟨table, found⟩
  · cases accepted

theorem Invocation.fetch_accepted {context : Context} {invocation : Invocation} {link : Link}
    {zone : String} {fetched : Fetched}
    (done : (Link.perform (invocation.fetch context) link).1 = .ok (zone, fetched)) :
    ∃ table, Bucket.timetable zone = .ok table := by
  obtain ⟨accepted, first, zoned, done⟩ := Link.perform_bind_ok link done
  obtain ⟨bounds, second, -, done⟩ := Link.perform_bind_ok first done
  have same : accepted = zone := by
    cases named : invocation.command <;> rw [named] at done <;>
      obtain ⟨_, after, -, done⟩ := Link.perform_bind_ok second done <;> cases done <;> rfl
  subst same
  rw [Link.perform_ofExcept] at zoned
  exact Selection.zoneIn_ok (congrArg Prod.fst zoned)

namespace Report

variable (args : List String) (context : Context) (answers : List Answer)

/-- The samples that a command line comes to show, with the zone for their times. -/
def shown? : Option (String × Samples) :=
  match Invocation.read leadsToDirectory args with
  | .invoked invocation =>
    match (Link.perform (invocation.fetch context) { answers }).1 with
    | .ok (zone, .samples samples) => some (zone, samples)
    | _ => none
  | _ => none

/-- How a query ends: with a code, unless a time that is to be shown cannot be written. -/
theorem ofQuery_exit (invocation : Invocation) (settings : Settings) (terminal : Terminal) :
    (ofQuery invocation settings answers terminal).exit =
      match (Link.perform (invocation.fetch settings.context) { answers }).1 with
      | .error error => .ok (.ofError error)
      | .ok (zone, .samples samples) =>
        (Row.ofReadings zone samples.readings).map fun _ => exitFor samples
      | .ok (_, .failures _) => .ok .remote
      | .ok (_, .halfAggregation) => .ok .usage := by
  unfold ofQuery
  rcases Link.perform (invocation.fetch settings.context) { answers } with
    ⟨error | ⟨zone, samples | failed | _⟩, link⟩
  · rfl
  · dsimp only [ofFetched, ofSamples, Samples.readings]
    rw [← Row.ofElements_eq zone samples.elements (terminal.noteAll link.notes)]
    rcases Row.ofElements zone samples.elements _ with ⟨error | rows, _⟩ <;> rfl
  · rfl
  · rfl

/-- With nothing to show there is a code; else there is one where rows can be made. -/
theorem ofContext_ends :
    match shown? args context answers with
    | none => ∃ code, (ofContext args context answers).exit = .ok code
    | some (zone, samples) => (ofContext args context answers).exit =
        (Row.ofReadings zone samples.readings).map fun _ => exitFor samples := by
  unfold shown? ofContext
  rcases Invocation.read leadsToDirectory args with _ | _ | invocation
  · exact ⟨.success, rfl⟩
  · exact ⟨.usage, rfl⟩
  · dsimp only
    rw [ofQuery_exit]
    dsimp only [Settings.context]
    rcases (Link.perform (invocation.fetch context) { answers }).1 with
      error | ⟨zone, samples | failed | _⟩
    · exact ⟨.ofError error, rfl⟩
    · rfl
    · exact ⟨.remote, rfl⟩
    · exact ⟨.usage, rfl⟩

/-- Settings that cannot be loaded give a code; with those that can, a command line ends as it does
on their context. -/
theorem ofWords_exit (session : Session) :
    (∃ code, (ofWords args session answers).exit = .ok code) ∨
      ∃ context, (ofWords args session answers).exit = (ofContext args context answers).exit := by
  unfold ofWords ofContext
  rcases Invocation.read leadsToDirectory args with _ | _ | invocation
  · exact .inl ⟨.success, rfl⟩
  · exact .inl ⟨.usage, rfl⟩
  · dsimp only [ofInvocation]
    rcases session.load invocation.envFile with ⟨error | settings, after⟩
    · exact .inl ⟨.ofError error, rfl⟩
    · dsimp only
      rcases Logbook.setUp _ _ with ⟨error | made, book⟩
      · exact .inl ⟨.ofError error, rfl⟩
      · refine .inr ⟨⟨settings.debug || invocation.debug, settings.chunkSize, settings.zone⟩, ?_⟩
        dsimp only
        rw [ofQuery_exit, ofQuery_exit]
        rfl

theorem number_mem (code : ExitCode) : code.number ∈ [0, 2, 6, 7, 8] := by
  cases code <;> decide

/-- The zone of samples that are shown has a name that was accepted. -/
theorem shown?_accepted {zone : String} {samples : Samples}
    (shown : shown? args context answers = some (zone, samples)) :
    ∃ table, Bucket.timetable zone = .ok table := by
  unfold shown? at shown
  split at shown
  · split at shown
    · rename_i fetched
      cases shown
      exact Invocation.fetch_accepted fetched
    · cases shown
  · cases shown

/-- A command line ends with a code exactly if the times of all samples that it comes to show can be
written, whatever the server answers. The zone of these samples is always one that was accepted; if
it is found by exactly its name, all times but those of the outermost days can be written. -/
theorem ofContext_exits :
    ((∃ code, (ofContext args context answers).exit = .ok code ∧ code.number ∈ [0, 2, 6, 7, 8]) ↔
        ∀ zone samples, shown? args context answers = some (zone, samples) →
          ∀ reading ∈ samples.readings, Instant.IsWritable zone reading.1) ∧
      ∀ zone samples, shown? args context answers = some (zone, samples) →
        (∃ table, Bucket.timetable zone = .ok table) ∧
          (∀ error, (ofContext args context answers).exit = .error error →
            Instant.Unwritable zone error) ∧
          ∀ known, Zone.find zone = .ok known → ∀ stamp,
            Wall.inRange (stamp * 1000 - Micros.perDay) = true →
              Wall.inRange (stamp * 1000 + Micros.perDay) = true →
                Instant.IsWritable zone stamp := by
  have ends := ofContext_ends args context answers
  cases found : shown? args context answers with
  | none =>
    rw [found] at ends
    obtain ⟨code, ended⟩ := ends
    exact ⟨⟨nofun, fun _ => ⟨code, ended, number_mem code⟩⟩, nofun⟩
  | some shown =>
    obtain ⟨zone, samples⟩ := shown
    rw [found] at ends
    refine ⟨⟨?_, fun writable => ?_⟩, ?_⟩
    · rintro ⟨code, coded, -⟩ _ _ ⟨⟩
      obtain ⟨rows, made, -⟩ := map_succeeded (ends.symm.trans coded)
      exact Row.ofReadings_ok_iff.1 ⟨rows, made⟩
    · obtain ⟨rows, made⟩ := Row.ofReadings_ok_iff.2 (writable zone samples rfl)
      refine ⟨exitFor samples, ?_, number_mem _⟩
      rw [ends, made]
      rfl
    · rintro _ _ ⟨⟩
      refine ⟨shown?_accepted args context answers found, fun error failed => ?_, ?_⟩
      · exact Row.ofReadings_failed (map_failed (ends.symm.trans failed))
      · exact fun known exactly stamp late early => Instant.isWritable_of_inner exactly late early

/-- A timestamp after the writable years, and a zone that is accepted in small letters, end the
program without an exit code. -/
theorem ofContext_escapes :
    (ofContext ["range", "energy"] {} [.reply (.list [.list [.list
        [.int 253402300800000, .text "1"]]])]).exit = .error (.outOfRange .date) ∧
      (ofContext ["range", "energy", "--tz", "europe/brussels"] {} [.reply (.list [.list [.list
        [.int 1704067200000, .text "1"]]])]).exit =
        .error (.unknownZone (.missing "europe/brussels")) := by
  constructor
  · rfl
  · rfl

end Report

end CommandLine

end CalendarSeries
