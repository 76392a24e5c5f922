import CalendarSeries.Proofs.Bucket.Tiling
import CalendarSeries.Proofs.Outcome
import CalendarSeries.Proofs.Zone.Shown
import Mathlib.Data.List.Forall2
/-!
Day buckets and local days. A step carries the reading at the start of a bucket over to the next
day, while the bounds of a local day are found from its midnight. The two agree as long as the
clocks show midnight at the start of each day that others follow: once a midnight was skipped, the
later reading is carried on.
-/
namespace CalendarSeries.Bucket

open Timetable

/-- The bounds of the local day with a date, and what its two midnights denote. -/
structure LocalDay (table : Timetable) (date : Date) (bound : Bucket) : Prop where
  opens : table.localize (date.toDays * Micros.perDay) = some (bound.start * 1000)
  closes : table.localize (date.toDays * Micros.perDay + Micros.perDay) = some (bound.stop * 1000)
  begun : table.Denotes (date.toDays * Micros.perDay) (bound.start * 1000)
  ended : table.Denotes (date.toDays * Micros.perDay + Micros.perDay) (bound.stop * 1000)
  writable : Wall.inRange (date.toDays * Micros.perDay + Micros.perDay) = true

theorem localized_ok {table : Timetable} {wall start : Int}
    (found : localized table wall = .ok start) :
    ∃ instant : Int, table.localize wall = some instant ∧ instant / 1000 = start := by
  cases localize : table.localize wall with
  | none =>
    rw [localized, localize] at found
    cases found
  | some instant =>
    rw [localized, localize] at found
    cases found
    exact ⟨instant, rfl, (Instant.milliseconds_eq instant).symm⟩

/-- Midnights denote whole milliseconds. -/
theorem localized_midnight {table : Timetable} (orderly : table.Orderly) {day start : Int}
    (found : localized table (day * Micros.perDay) = .ok start) :
    table.localize (day * Micros.perDay) = some (start * 1000) ∧
      table.Denotes (day * Micros.perDay) (start * 1000) := by
  obtain ⟨instant, localize, milliseconds⟩ := localized_ok found
  have denotes := orderly.denotes_of_localize localize
  have seconds := denotes.whole_seconds
  have whole : instant = start * 1000 := by
    rw [perSecond_eq, perDay_eq] at seconds
    omega
  rw [← whole]
  exact ⟨localize, denotes⟩

theorem nextDay_eq (day : Int) :
    day * Micros.perDay + Micros.perDay = (day + 1) * Micros.perDay := by
  rw [perDay_eq]
  omega

theorem dayBoundsIn_localDay {table : Timetable} (orderly : table.Orderly) {date : Date}
    {bound : Bucket} (found : dayBoundsIn table date = .ok bound) :
    LocalDay table date bound := by
  simp only [dayBoundsIn, bind, Except.bind] at found
  split at found
  · cases found
  · rename_i start opened
    split at found
    · cases found
    · rename_i next checked
      obtain ⟨writable, rfl⟩ := checked_ok_iff.1 checked
      split at found
      · cases found
      · rename_i stop closed
        cases found
        obtain ⟨opens, begun⟩ := localized_midnight orderly opened
        change localized table (date.toDays * Micros.perDay + Micros.perDay) = _ at closed
        rw [nextDay_eq] at closed
        obtain ⟨closes, ended⟩ := localized_midnight orderly closed
        rw [← nextDay_eq] at closes ended
        exact ⟨opens, closes, begun, ended, writable⟩

namespace LocalDay

variable {table : Timetable} {date next : Date} {bound following : Bucket}

/-- A local day ends where the next begins. -/
theorem stop_eq (day : LocalDay table date bound) (after : LocalDay table next following)
    (consecutive : next.toDays = date.toDays + 1) : bound.stop = following.start := by
  have opens := after.opens
  rw [consecutive, ← nextDay_eq, day.closes, Option.some.injEq] at opens
  exact Int.eq_of_mul_eq_mul_right (by decide) opens

/-- The clocks show midnight at the start of a local day, or a change skipped it. -/
theorem shown_or_skipped (day : LocalDay table date bound) :
    bound.start * 1000 + table.shiftAt (bound.start * 1000) = date.toDays * Micros.perDay ∨
      ∃ (moment : Int) (before after : Regime), table.ChangeAt moment before after ∧
        moment + before.shift ≤ date.toDays * Micros.perDay ∧
        date.toDays * Micros.perDay < moment + after.shift ∧
        bound.start * 1000 = date.toDays * Micros.perDay - before.shift :=
  day.begun.shown_or_skipped

/-- What the clocks show at the end of a day can be read where the next day can be written. -/
theorem exists_wallAt_next (day : LocalDay table date bound)
    (after : LocalDay table next following) (consecutive : next.toDays = date.toDays + 1)
    (order : bound.start ≤ bound.stop) (readable : ∃ wall, wallAt table bound.start = .ok wall) :
    ∃ wall, wallAt table following.start = .ok wall := by
  obtain ⟨wall, shown⟩ := readable
  obtain ⟨startInRange, -, -⟩ := wallAt_ok_iff.1 shown
  have joined := day.stop_eq after consecutive
  have near := after.begun.bounds
  have writable := (inRange_iff _).1 after.writable
  have low := (inRange_iff _).1 startInRange
  refine ⟨_, wallAt_ok_iff.2 ⟨?_, after.begun.shown_inRange ?_, rfl⟩⟩
  · rw [inRange_iff]
    omega
  · rw [consecutive, ← nextDay_eq]
    exact day.writable

/-- A step from midnight leads to the end of the local day. -/
theorem step_of_midnight (orderly : table.Orderly) {name : String} (finds : FindsZone .day name)
    (day : LocalDay table date bound)
    (shown : wallAt table bound.start = .ok (Wall.midnight date)) :
    unitStep .day name table bound.start = .ok bound.stop := by
  have next : HasNext table .day (Wall.midnight date) :=
    hasNext_of_localize day.writable day.closes
  obtain ⟨instant, localize, -, step, -⟩ := unitStep_eq orderly finds shown next
  cases localize.symm.trans day.closes
  rwa [Int.mul_ediv_cancel _ (by decide)] at step

/-- A step from the start of a day whose midnight was skipped leads beyond the end of the day,
unless the change skipped the next midnight too and that day ends before it starts. -/
theorem step_of_skipped (orderly : table.Orderly) {name : String} (finds : FindsZone .day name)
    (day : LocalDay table date bound) {wall : Int}
    (shown : wallAt table bound.start = .ok wall) (skipped : wall ≠ Wall.midnight date) :
    ∃ boundary, unitStep .day name table bound.start = .ok boundary ∧ bound.stop ≤ boundary ∧
      (bound.stop = boundary → ∀ next following, LocalDay table next following →
        next.toDays = date.toDays + 1 → following.stop < following.start) := by
  obtain ⟨-, -, reading⟩ := wallAt_ok_iff.1 shown
  rcases day.shown_or_skipped with midnight | ⟨moment, before, after, change, passed, within, start⟩
  · exact absurd (reading.symm.trans midnight) skipped
  · have shortBefore := change.shortBefore.shift_bounds
    have shortAfter := change.shortAfter.shift_bounds
    have shift := change.shiftAt_after (show moment ≤ bound.start * 1000 by omega) (by omega)
    have carried : wall + Micros.perDay = bound.start * 1000 + Micros.perDay + after.shift := by
      omega
    have next : HasNext table .day wall :=
      ⟨change.inRange (by omega) (by omega), fun _ => change.inRange (by omega) (by omega)⟩
    obtain ⟨instant, -, denotes, step, -, aligned⟩ := unitStep_eq orderly finds shown next
    rw [follower, carried] at denotes
    have later := change.le_denoted orderly (by omega) (by omega) (by omega) denotes
    refine ⟨instant / 1000, step, ?_⟩
    rcases Int.lt_or_le (date.toDays * Micros.perDay + Micros.perDay) (moment + after.shift) with
      overNext | reached
    · have stop := change.denotes_skipped (by omega) overNext day.ended
      refine ⟨by omega, fun _ next following nextDay consecutive => ?_⟩
      have midnight : next.toDays * Micros.perDay =
          date.toDays * Micros.perDay + Micros.perDay := by
        rw [consecutive, nextDay_eq]
      have begun := nextDay.begun
      have ended := nextDay.ended
      rw [midnight] at begun ended
      have nextStart := change.denotes_skipped (by omega) overNext begun
      have nextStop := change.denotes_shown orderly (by omega)
        (show moment ≤ date.toDays * Micros.perDay + Micros.perDay + Micros.perDay -
          after.shift by omega)
        (by omega) (by rw [Int.sub_add_cancel]; exact ended)
      omega
    · have stop := change.denotes_shown orderly (by omega)
        (show moment ≤ date.toDays * Micros.perDay + Micros.perDay - after.shift by omega)
        (by omega) (by rw [Int.sub_add_cancel]; exact day.ended)
      constructor
      · omega
      · omega

/-- A step from where a day starts leads to its end or beyond. -/
theorem step_reaches_stop (orderly : table.Orderly) {name : String} (finds : FindsZone .day name)
    (day : LocalDay table date bound) (readable : ∃ wall, wallAt table bound.start = .ok wall) :
    ∃ boundary, unitStep .day name table bound.start = .ok boundary ∧ bound.stop ≤ boundary := by
  obtain ⟨wall, shown⟩ := readable
  rcases eq_or_ne wall (Wall.midnight date) with midnight | skipped
  · rw [midnight] at shown
    exact ⟨bound.stop, day.step_of_midnight orderly finds shown, Int.le_refl _⟩
  · obtain ⟨boundary, step, reached, -⟩ := day.step_of_skipped orderly finds shown skipped
    exact ⟨boundary, step, reached⟩

/-- Before a day that ends after it starts, a step leads to the end of the day exactly from
midnight. -/
theorem step_eq_stop_iff (orderly : table.Orderly) {name : String} (finds : FindsZone .day name)
    (day : LocalDay table date bound) (readable : ∃ wall, wallAt table bound.start = .ok wall)
    (after : LocalDay table next following) (consecutive : next.toDays = date.toDays + 1)
    (ordered : following.start ≤ following.stop) :
    unitStep .day name table bound.start = .ok bound.stop ↔
      wallAt table bound.start = .ok (Wall.midnight date) := by
  obtain ⟨wall, shown⟩ := readable
  constructor
  · intro step
    rcases eq_or_ne wall (Wall.midnight date) with midnight | skipped
    · rw [shown, midnight]
    · obtain ⟨boundary, stepped, -, strict⟩ := day.step_of_skipped orderly finds shown skipped
      have same := Except.ok.inj (step.symm.trans stepped)
      have backwards := strict same next following after consecutive
      omega
  · exact day.step_of_midnight orderly finds

end LocalDay

/-- Consecutive local days. -/
inductive DayRun (table : Timetable) : List Date → List Bucket → Prop
  | single {date : Date} {bound : Bucket} (day : LocalDay table date bound) :
      DayRun table [date] [bound]
  | cons {date next : Date} {dates : List Date} {bound following : Bucket} {bounds : List Bucket}
      (day : LocalDay table date bound) (after : LocalDay table next following)
      (consecutive : next.toDays = date.toDays + 1)
      (run : DayRun table (next :: dates) (following :: bounds)) :
      DayRun table (date :: next :: dates) (bound :: following :: bounds)

theorem dayRun_of_bounds {table : Timetable} (orderly : table.Orderly) {date : Date}
    {dates : List Date} {bounds : List Bucket}
    (consecutive : (date :: dates).IsChain fun date next => next.toDays = date.toDays + 1)
    (found : (date :: dates).mapM (dayBoundsIn table) = .ok bounds) :
    DayRun table (date :: dates) bounds := by
  induction dates generalizing date bounds with
  | nil =>
    obtain ⟨bound, others, day, none, rfl⟩ := mapM_cons_ok found
    cases none
    exact .single (dayBoundsIn_localDay orderly day)
  | cons next dates ih =>
    obtain ⟨bound, others, day, rest, rfl⟩ := mapM_cons_ok found
    obtain ⟨following, others, nextDay, -, rfl⟩ := mapM_cons_ok rest
    obtain ⟨joined, chain⟩ := List.isChain_cons_cons.1 consecutive
    exact .cons (dayBoundsIn_localDay orderly day) (dayBoundsIn_localDay orderly nextDay) joined
      (ih chain rest)

/-- The clocks show midnight at the start of each day that ends before `stop`, unless the day has
no length. -/
def KeepsMidnight (table : Timetable) (stop : Int) (dates : List Date) (bounds : List Bucket) :
    Prop :=
  ∀ date bound, (date, bound) ∈ dates.zip bounds → bound.start < bound.stop → bound.stop < stop →
    wallAt table bound.start = .ok (Wall.midnight date)

theorem keepsMidnight_cons {table : Timetable} {stop : Int} {date : Date} {dates : List Date}
    {bound : Bucket} {bounds : List Bucket} :
    KeepsMidnight table stop (date :: dates) (bound :: bounds) ↔
      (bound.start < bound.stop → bound.stop < stop →
        wallAt table bound.start = .ok (Wall.midnight date)) ∧
      KeepsMidnight table stop dates bounds := by
  simp [KeepsMidnight, or_imp, forall_and]

theorem keepsMidnight_nil {table : Timetable} {stop : Int} : KeepsMidnight table stop [] [] := by
  simp [KeepsMidnight]

namespace DayRun

variable {table : Timetable} {dates : List Date} {bounds : List Bucket} {first last : Bucket}

theorem stop_le_last (run : DayRun table dates bounds) (ends : bounds.getLast? = some last)
    (ordered : ∀ bound ∈ bounds, bound.start ≤ bound.stop) :
    ∀ bound ∈ bounds, bound.stop ≤ last.stop := by
  induction run with
  | single => simp_all
  | @cons _ _ _ bound following bounds day after consecutive _ ih =>
    rw [List.getLast?_cons_cons] at ends
    have later := ih ends fun other member => ordered other (List.mem_cons_of_mem _ member)
    have joined := day.stop_eq after consecutive
    have order := ordered following (by simp)
    have next := later following (by simp)
    intro other member
    rcases List.mem_cons.1 member with rfl | member
    · omega
    · exact later other member

theorem first_le_start (run : DayRun table dates bounds) (begins : bounds.head? = some first)
    (ordered : ∀ bound ∈ bounds, bound.start ≤ bound.stop) :
    ∀ bound ∈ bounds, first.start ≤ bound.start := by
  induction run generalizing first with
  | single => simp_all
  | @cons _ _ _ bound following bounds day after consecutive _ ih =>
    have later := ih rfl fun other member => ordered other (List.mem_cons_of_mem _ member)
    have joined := day.stop_eq after consecutive
    have order := ordered bound (by simp)
    cases begins
    intro other member
    rcases List.mem_cons.1 member with rfl | member
    · exact Int.le_refl _
    · have := later other member
      omega

/-- Days from the end of a run on have no length. -/
theorem empty_of_late (run : DayRun table dates bounds) (begins : bounds.head? = some first)
    (ends : bounds.getLast? = some last) (ordered : ∀ bound ∈ bounds, bound.start ≤ bound.stop)
    (late : last.stop ≤ first.start) : ∀ bound ∈ bounds, bound.start = bound.stop := by
  intro bound member
  have after := run.first_le_start begins ordered bound member
  have before := run.stop_le_last ends ordered bound member
  have order := ordered bound member
  omega

/-- The run from the start of the first of consecutive days to the end of the last one has the days
that have a length, exactly if the clocks show midnight at the start of each but the last. -/
theorem run_iff (orderly : table.Orderly) {name : String} (finds : FindsZone .day name)
    (days : DayRun table dates bounds) (begins : bounds.head? = some first)
    (ends : bounds.getLast? = some last)
    (ordered : ∀ bound ∈ bounds, bound.start ≤ bound.stop)
    (readable : ∃ wall, wallAt table first.start = .ok wall) (early : first.start < last.stop) :
    Run (unitStep .day name table) last.stop first.start
        (bounds.filter fun bound => bound.start ≠ bound.stop) ↔
      KeepsMidnight table last.stop dates bounds := by
  induction days generalizing first with
  | single day =>
    cases begins
    rw [List.getLast?_singleton, Option.some.injEq] at ends
    subst ends
    obtain ⟨boundary, stepped, reached⟩ := day.step_reaches_stop orderly finds readable
    rw [List.filter_cons_of_pos (by simpa using Int.ne_of_lt early), List.filter_nil]
    exact ⟨fun _ => by simp [KeepsMidnight],
      fun _ => .last stepped (lt_of_step orderly stepped) reached⟩
  | @cons date next dates bound following bounds day after consecutive rest ih =>
    cases begins
    rw [List.getLast?_cons_cons] at ends
    have joined := day.stop_eq after consecutive
    have order := ordered bound (by simp)
    have laterOrdered (other : Bucket) (member : other ∈ following :: bounds) :
        other.start ≤ other.stop := ordered other (List.mem_cons_of_mem _ member)
    have nextOrdered := laterOrdered following (by simp)
    have nextReadable := day.exists_wallAt_next after consecutive order readable
    have restIff := ih rfl ends laterOrdered nextReadable
    rw [keepsMidnight_cons]
    by_cases empty : bound.start = bound.stop
    · -- a day without length is left out, and the next one starts where it does
      rw [List.filter_cons_of_neg (by simp [empty]), empty, joined, restIff (by omega)]
      exact ⟨fun kept => ⟨by omega, kept⟩, fun kept => kept.2⟩
    · have proper : bound.start < bound.stop := by omega
      obtain ⟨boundary, stepped, reached⟩ := day.step_reaches_stop orderly finds readable
      rw [List.filter_cons_of_pos (by simp [empty])]
      rcases Int.lt_or_le bound.stop last.stop with inner | final
      · rw [Run.cons_iff inner,
          day.step_eq_stop_iff orderly finds readable after consecutive nextOrdered, joined,
          restIff (by omega), ← joined]
        exact ⟨fun ⟨shows, _, kept⟩ => ⟨fun _ _ => shows, kept⟩,
          fun ⟨shows, kept⟩ => ⟨shows proper inner, proper, kept⟩⟩
      · have none := rest.empty_of_late rfl ends laterOrdered (by omega)
        have within := rest.stop_le_last ends laterOrdered following (by simp)
        have last_eq : last.stop = bound.stop := by omega
        rw [last_eq, List.filter_eq_nil_iff.2]
        · refine ⟨fun _ => ⟨by omega, fun date other member length => ?_⟩, fun _ =>
            .last stepped (lt_of_step orderly stepped) reached⟩
          have := none other (List.of_mem_zip member).2
          omega
        · intro other member
          simp [none other member]

end DayRun

/-- When the day buckets of a run of local days are those days: the zone and what the clocks show at
the start are found, the run has a length, the bounds of its days are in order, and each day that
others follow starts at midnight. -/
structure KeepsDays (name : String) (table : Timetable) (dates : List Date) (bounds : List Bucket)
    (start stop : Int) : Prop where
  finds : FindsZone .day name
  readable : ∃ wall, wallAt table start = .ok wall
  early : start < stop
  ordered : ∀ bound ∈ bounds, bound.start ≤ bound.stop
  midnights : KeepsMidnight table stop dates bounds

theorem DayRun.keepsDays_iff {table : Timetable} (orderly : table.Orderly) {name : String}
    {dates : List Date} {bounds : List Bucket} {first last : Bucket}
    (days : DayRun table dates bounds) (begins : bounds.head? = some first)
    (ends : bounds.getLast? = some last) :
    (first.start ≤ last.stop ∧ Run (unitStep .day name table) last.stop first.start
        (bounds.filter fun bound => bound.start ≠ bound.stop)) ↔
      KeepsDays name table dates bounds first.start last.stop := by
  constructor
  · rintro ⟨order, run⟩
    have tiling := run.tiling
    obtain ⟨boundary, stepped⟩ := run.exists_stepped
    obtain ⟨wall, shown, -, finds⟩ := hasNext_of_step stepped
    have early : first.start < last.stop := by
      rcases Int.lt_or_eq_of_le order with early | same
      · exact early
      · -- an empty range is one bucket without length
        have member : (⟨first.start, last.stop⟩ : Bucket) ∈
            bounds.filter fun bound => bound.start ≠ bound.stop := by
          rw [tiling.empty same]
          exact List.mem_singleton.2 rfl
        simp [same] at member
    have ordered (bound : Bucket) (member : bound ∈ bounds) : bound.start ≤ bound.stop := by
      by_cases empty : bound.start = bound.stop
      · omega
      · exact Int.le_of_lt (tiling.proper early bound
          (List.mem_filter.2 ⟨member, by simpa using empty⟩))
    exact ⟨finds, ⟨wall, shown⟩, early, ordered,
      (days.run_iff orderly finds begins ends ordered ⟨wall, shown⟩ early).1 run⟩
  · rintro ⟨finds, readable, early, ordered, kept⟩
    exact ⟨Int.le_of_lt early,
      (days.run_iff orderly finds begins ends ordered readable early).2 kept⟩

/-- Day buckets from the start of one local day to the end of another are the local days from the
one to the other, without those of no length, exactly if each that others follow starts with the
clocks showing midnight. -/
theorem calendar_localDays_iff (name : String) (dates : List Date) (bounds : List Bucket)
    (first last : Bucket)
    (consecutive : dates.IsChain fun date next => next.toDays = date.toDays + 1)
    (begins : bounds.head? = some first) (ends : bounds.getLast? = some last) :
    (∀ table, timetable name = .ok table → dates.mapM (dayBounds name) = .ok bounds →
      (calendar .day name first.start last.stop =
          .ok (bounds.filter fun bound => bound.start ≠ bound.stop) ↔
        KeepsDays name table dates bounds first.start last.stop)) ∧
    ∀ table, table.Orderly → dates.mapM (dayBoundsIn table) = .ok bounds →
      (first.start ≤ last.stop ∧ cut (unitStep .day name table) first.start last.stop =
          .ok (bounds.filter fun bound => bound.start ≠ bound.stop) ↔
        KeepsDays name table dates bounds first.start last.stop) := by
  have general (table : Timetable) (orderly : table.Orderly)
      (found : dates.mapM (dayBoundsIn table) = .ok bounds) : DayRun table dates bounds := by
    cases dates with
    | nil =>
      cases found
      cases begins
    | cons => exact dayRun_of_bounds orderly consecutive found
  constructor
  · intro table zone found
    have orderly := Timetable.orderly_of_name zone
    rw [dayBounds_eq zone] at found
    rw [← (general table orderly found).keepsDays_iff orderly begins ends]
    exact calendar_ok_iff zone
  · intro table orderly found
    rw [← (general table orderly found).keepsDays_iff orderly begins ends]
    exact and_congr_right (cut_unitStep_iff orderly)

/-- New York's days around the spring of 2025, and days along a timetable that skips one of them. -/
theorem calendar_localDays_springForward :
    calendar .day "America/New_York" 1741410000000 1741665600000 =
      .ok [⟨1741410000000, 1741496400000⟩, ⟨1741496400000, 1741579200000⟩,
        ⟨1741579200000, 1741665600000⟩] ∧
    cut (unitStep .day "UTC" ⟨⟨-36000, 0⟩, [(36000, ⟨50400, 0⟩)]⟩) (-50400000) 122400000 =
      .ok [⟨-50400000, 36000000⟩, ⟨36000000, 122400000⟩] := by
  constructor
  · apply ((calendar_localDays_iff "America/New_York"
      [⟨2025, 3, 8⟩, ⟨2025, 3, 9⟩, ⟨2025, 3, 10⟩] [⟨1741410000000, 1741496400000⟩,
        ⟨1741496400000, 1741579200000⟩, ⟨1741579200000, 1741665600000⟩] _ _
      (by decide) rfl rfl).1 (ofZone Zone.newYork) rfl
      (ok_of_toOption (by decide +kernel))).2
    refine ⟨fun _ => ⟨Zone.newYork, rfl⟩, ⟨1741392000000000, ok_of_toOption (by decide +kernel)⟩,
      by decide, by decide, ?_⟩
    simp only [keepsMidnight_cons, keepsMidnight_nil, and_true]
    refine ⟨fun _ _ => ?_, fun _ _ => ?_, fun _ final => absurd final (by decide)⟩
    all_goals exact ok_of_toOption (by decide +kernel)
  · refine (((calendar_localDays_iff "UTC"
      [⟨1969, 12, 31⟩, ⟨1970, 1, 1⟩, ⟨1970, 1, 2⟩] [⟨-50400000, 36000000⟩,
        ⟨36000000, 36000000⟩, ⟨36000000, 122400000⟩] _ _
      (by decide) rfl rfl).2 _ (by decide +kernel)
      (ok_of_toOption (by decide +kernel))).2 ?_).2
    refine ⟨fun _ => ⟨Zone.universal, rfl⟩, ⟨-86400000000, ok_of_toOption (by decide +kernel)⟩,
      by decide, by decide, ?_⟩
    simp only [keepsMidnight_cons, keepsMidnight_nil, and_true]
    exact ⟨fun _ _ => ok_of_toOption (by decide +kernel),
      fun length => absurd length (by decide), fun _ final => absurd final (by decide)⟩

/-- São Paulo skipped the midnight of 4 November 2018, and the days that follow are cut an hour
late. Apia skipped 30 December 2011, and cutting that day alone gives a bucket of no length. -/
theorem calendar_leaves_midnight :
    [⟨2018, 11, 3⟩, ⟨2018, 11, 4⟩, ⟨2018, 11, 5⟩].mapM (dayBounds "America/Sao_Paulo") =
        .ok [⟨1541214000000, 1541300400000⟩, ⟨1541300400000, 1541383200000⟩,
          ⟨1541383200000, 1541469600000⟩] ∧
      calendar .day "America/Sao_Paulo" 1541214000000 1541469600000 =
        .ok [⟨1541214000000, 1541300400000⟩, ⟨1541300400000, 1541386800000⟩,
          ⟨1541386800000, 1541469600000⟩] ∧
    dayBounds "Pacific/Apia" ⟨2011, 12, 30⟩ = .ok ⟨1325239200000, 1325239200000⟩ ∧
      calendar .day "Pacific/Apia" 1325239200000 1325239200000 =
        .ok [⟨1325239200000, 1325239200000⟩] := by
  refine ⟨ok_of_toOption ?_, ok_of_toOption ?_, ok_of_toOption ?_, ok_of_toOption ?_⟩
  all_goals decide +kernel

end CalendarSeries.Bucket
