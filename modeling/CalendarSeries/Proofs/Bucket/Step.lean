import CalendarSeries.Proofs.Calendar.Days
import CalendarSeries.Proofs.Zone.Localize
/-!
One step of cutting a range. Where the clocks' reading at the start of a bucket and the reading that
follows it can be written, the step succeeds and leads to a later instant.
-/
namespace CalendarSeries.Bucket

open Timetable

theorem ok_of_toOption {ε α : Type} {result : Except ε α} {value : α}
    (found : result.toOption = some value) : result = .ok value := by
  cases result with
  | error => cases found
  | ok =>
    cases found
    rfl

theorem checked_ok_iff {value result : Int} :
    Instant.checked value = .ok result ↔ Wall.inRange value = true ∧ value = result := by
  unfold Instant.checked
  split <;> simp_all

theorem ofMilliseconds_eq {n : Int} (inRange : Wall.inRange (n * 1000) = true) :
    Instant.ofMilliseconds n = .ok (n * 1000) := by
  have bounds := (inRange_iff _).1 inRange
  have wide : ¬(n * 1000 / Micros.perDay < -2147483648 ∨
      2147483647 < n * 1000 / Micros.perDay) := by
    rw [perDay_eq]
    omega
  have long : ¬999999999 < (n * 1000 / Micros.perDay).natAbs := by
    rw [perDay_eq]
    omega
  simp only [Instant.ofMilliseconds, Instant.spanOfMilliseconds]
  rw [if_neg wide, if_neg long]
  exact checked_ok_iff.2 ⟨inRange, rfl⟩

theorem ofMilliseconds_ok {n instant : Int} (found : Instant.ofMilliseconds n = .ok instant) :
    Wall.inRange (n * 1000) = true ∧ n * 1000 = instant := by
  simp only [Instant.ofMilliseconds, Instant.spanOfMilliseconds] at found
  split at found
  · cases found
  · split at found
    · cases found
    · exact checked_ok_iff.1 found

theorem wallAt_eq {table : Timetable} {start : Int}
    (inRange : Wall.inRange (start * 1000) = true) :
    wallAt table start = Bucket.inRange (table.reading (start * 1000)) := by
  simp only [wallAt, ofMilliseconds_eq inRange, bind, Except.bind]

/-- The clocks have a reading at an instant exactly if both can be written. -/
theorem wallAt_ok_iff {table : Timetable} {start wall : Int} :
    wallAt table start = .ok wall ↔
      Wall.inRange (start * 1000) = true ∧ Wall.inRange wall = true ∧
        start * 1000 + table.shiftAt (start * 1000) = wall := by
  constructor
  · intro shown
    cases found : Instant.ofMilliseconds start with
    | error error => simp [wallAt, found, bind, Except.bind] at shown
    | ok instant =>
      obtain ⟨inRange, -⟩ := ofMilliseconds_ok found
      rw [wallAt_eq inRange, reading_eq] at shown
      by_cases shownInRange : Wall.inRange (start * 1000 + table.shiftAt (start * 1000)) = true
      · rw [if_pos shownInRange] at shown
        cases shown
        exact ⟨inRange, shownInRange, rfl⟩
      · rw [if_neg shownInRange] at shown
        cases shown
  · rintro ⟨inRange, shownInRange, rfl⟩
    rw [wallAt_eq inRange, reading_eq, if_pos shownInRange]
    rfl

/-- Whether the reading that follows in a unit, and what it takes to find its instant, can be
written: the first of the next month, or the next day and, where the clocks ever changed, the day
after it. -/
def HasNext (table : Timetable) (unit : CalendarUnit) (wall : Int) : Prop :=
  match unit with
  | .month => (Wall.date wall).nextMonth.year ≤ Date.greatestYear
  | .day => Wall.inRange (wall + Micros.perDay) = true ∧
      (table.isFixed = false → Wall.inRange (wall + 2 * Micros.perDay) = true)

/-- The reading that a bucket leads up to in a unit, from the reading at its start. -/
def follower (unit : CalendarUnit) (wall : Int) : Int :=
  match unit with
  | .month => (Wall.date wall).nextMonth.toDays * Micros.perDay
  | .day => wall + Micros.perDay

theorem day_bounds (wall : Int) :
    Wall.day wall * Micros.perDay ≤ wall ∧ wall < (Wall.day wall + 1) * Micros.perDay := by
  simp only [Wall.day, perDay_eq]
  omega

theorem follower_month_bounds (wall : Int) :
    wall < follower .month wall ∧ follower .month wall ≤ wall + 31 * Micros.perDay := by
  have next := Date.nextMonth_after (Wall.day wall)
  have day := day_bounds wall
  simp only [follower, Wall.date, perDay_eq] at *
  omega

theorem lastDecember_eq : Date.toDays ⟨Date.greatestYear, 12, 1⟩ = 2932866 := by decide

/-- The next month lies in a writable year exactly up to the last month of those years. -/
theorem nextMonth_year_iff (wall : Int) :
    (Wall.date wall).nextMonth.year ≤ Date.greatestYear ↔ wall < 253399622400000000 := by
  rw [Wall.date, Date.nextMonth_year_le_iff, lastDecember_eq]
  have day := day_bounds wall
  simp only [perDay_eq] at day
  omega

theorem leastYear_le_nextMonth {wall : Int} (inRange : Wall.inRange wall = true) :
    Date.leastYear ≤ (Wall.date wall).nextMonth.year := by
  have december : Date.toDays ⟨0, 12, 1⟩ = -719193 := by decide
  have started := mt (Date.nextMonth_year_le_iff (Wall.day wall) 0).1
  have bounds := (inRange_iff wall).1 inRange
  have day := day_bounds wall
  rw [december] at started
  simp only [perDay_eq] at day
  change 1 ≤ (Date.ofDays (Wall.day wall)).nextMonth.year
  have := started (by omega)
  omega

/-- What follows a reading can be found where it can be written. -/
theorem HasNext.reads {table : Timetable} {unit : CalendarUnit} {wall : Int}
    (inRange : Wall.inRange wall = true) (next : HasNext table unit wall) :
    Wall.inRange (follower unit wall) = true ∧ table.Reads (follower unit wall) := by
  have bounds := (inRange_iff wall).1 inRange
  cases unit with
  | month =>
    have before := (nextMonth_year_iff wall).1 next
    obtain ⟨later, -⟩ := follower_month_bounds wall
    have atMost := Date.nextMonth_toDays_le (Wall.day wall) next
    have after := (Date.nextMonth_after (Wall.day wall)).1
    have day := day_bounds wall
    rw [lastDecember_eq] at atMost
    simp only [follower, Wall.date, Reads, inRange_iff, perDay_eq] at *
    omega
  | day =>
    obtain ⟨following, second⟩ := next
    refine ⟨following, ?_⟩
    by_cases fixed : table.isFixed
    · exact .inl fixed
    · have := (inRange_iff _).1 (second (by simpa using fixed))
      right
      simp only [follower]
      omega

/-- Whether a unit's step finds the zone: days need it under exactly its name. -/
def FindsZone (unit : CalendarUnit) (name : String) : Prop :=
  unit = .day → ∃ zone, Instant.exactZone name = .ok zone

theorem normalize_milliseconds {table : Timetable} {wall instant : Int}
    (found : table.normalize wall = some instant) :
    (Bucket.inRange (table.normalize wall)).map Instant.milliseconds = .ok (instant / 1000) := by
  rw [found]
  exact congrArg Except.ok (Instant.milliseconds_eq instant)

/-- A step leads to the instant of the reading that follows, which comes later. -/
theorem unitStep_eq {table : Timetable} (orderly : table.Orderly) {unit : CalendarUnit}
    {name : String} {start wall : Int} (finds : FindsZone unit name)
    (shown : wallAt table start = .ok wall) (next : HasNext table unit wall) :
    ∃ instant : Int, table.localize (follower unit wall) = some instant ∧
      table.Denotes (follower unit wall) instant ∧
      unitStep unit name table start = .ok (instant / 1000) ∧ start < instant / 1000 ∧
      instant % 1000 = 0 := by
  obtain ⟨-, inRange, reading⟩ := wallAt_ok_iff.1 shown
  obtain ⟨following, reads⟩ := next.reads inRange
  obtain ⟨instant, normalized, localized, denotes⟩ :=
    orderly.normalize_denotes following reads
  have short := orderly.shiftAt_short (start * 1000)
  have seconds := denotes.whole_seconds
  have whole : table.shiftAt (start * 1000) % 1000 = 0 := by
    unfold shiftAt Regime.shift
    rw [perSecond_eq]
    omega
  have aligned : instant % 1000 = 0 := by
    cases unit <;> simp only [follower, perSecond_eq, perDay_eq] at seconds <;> omega
  refine ⟨instant, localized, denotes, ?_⟩
  cases unit with
  | month =>
    have later : start * 1000 < instant :=
      denotes.lt_of_midnight short (by rw [reading]; exact (follower_month_bounds wall).1)
    refine ⟨?_, by omega, aligned⟩
    have year : Date.yearInRange (Wall.date wall).nextMonth.year = true := by
      have low := leastYear_le_nextMonth inRange
      have high : (Wall.date wall).nextMonth.year ≤ Date.greatestYear := next
      simp [Date.yearInRange, low, high]
    have month : nextMonthStart table wall =
        Bucket.inRange (table.normalize (follower .month wall)) := by
      simp only [nextMonthStart, midnight, year, if_true, bind, Except.bind]
      rfl
    simp only [unitStep, monthStep, shown, bind, Except.bind, month]
    exact normalize_milliseconds normalized
  | day =>
    have later : start * 1000 < instant := by
      rw [follower, ← reading] at denotes
      exact denotes.lt_of_nextDay short
    refine ⟨?_, by omega, aligned⟩
    obtain ⟨zone, known⟩ := finds rfl
    have checked : Instant.checked (wall + Micros.perDay) = .ok (follower .day wall) :=
      checked_ok_iff.2 ⟨following, rfl⟩
    simp only [unitStep, dayStep, shown, bind, Except.bind, checked, known,
      normalize_milliseconds normalized]

theorem hasNext_of_localize {table : Timetable} {wall instant : Int}
    (writable : Wall.inRange (wall + Micros.perDay) = true)
    (found : table.localize (wall + Micros.perDay) = some instant) : HasNext table .day wall := by
  refine ⟨writable, fun changing => ?_⟩
  rcases reads_of_localize found with fixed | ⟨-, high⟩
  · rw [changing] at fixed
    cases fixed
  · have low := (inRange_iff _).1 writable
    rw [inRange_iff]
    rw [perDay_eq] at *
    omega

/-- What a step has found when it succeeds. -/
theorem hasNext_of_step {table : Timetable} {unit : CalendarUnit} {name : String}
    {start boundary : Int} (stepped : unitStep unit name table start = .ok boundary) :
    ∃ wall, wallAt table start = .ok wall ∧ HasNext table unit wall ∧ FindsZone unit name := by
  cases shown : wallAt table start with
  | error => cases unit <;> simp [unitStep, monthStep, dayStep, shown, bind, Except.bind] at stepped
  | ok wall =>
    refine ⟨wall, rfl, ?_⟩
    cases unit with
    | month =>
      refine ⟨?_, fun day => by cases day⟩
      by_cases year : Date.yearInRange (Wall.date wall).nextMonth.year = true
      · simp only [Date.yearInRange, Bool.and_eq_true, decide_eq_true_eq] at year
        exact year.2
      · simp [unitStep, monthStep, shown, nextMonthStart, midnight, year, bind, Except.bind,
          Except.map] at stepped
    | day =>
      cases checked : Instant.checked (wall + Micros.perDay) with
      | error => simp [unitStep, dayStep, shown, checked, bind, Except.bind] at stepped
      | ok next =>
        obtain ⟨writable, rfl⟩ := checked_ok_iff.1 checked
        cases localize : table.localize (wall + Micros.perDay) with
        | none =>
          simp [unitStep, dayStep, shown, checked, Timetable.normalize, localize, bind,
            Except.bind, Bucket.inRange, Except.map] at stepped
        | some instant =>
          refine ⟨hasNext_of_localize writable localize, fun _ => ?_⟩
          cases known : Instant.exactZone name with
          | ok zone => exact ⟨zone, rfl⟩
          | error =>
            simp only [unitStep, dayStep, shown, checked, known, bind, Except.bind] at stepped
            split at stepped <;> cases stepped

/-- A step that succeeds leads on. -/
theorem lt_of_step {table : Timetable} (orderly : table.Orderly) {unit : CalendarUnit}
    {name : String} {start boundary : Int}
    (stepped : unitStep unit name table start = .ok boundary) : start < boundary := by
  obtain ⟨wall, shown, next, finds⟩ := hasNext_of_step stepped
  obtain ⟨_, -, -, step, later, -⟩ := unitStep_eq orderly finds shown next
  cases step.symm.trans stepped
  exact later

/-- Between two instants the clocks show nothing later than at the second one, or something that
they showed before their last change. -/
theorem shown_le {table : Timetable} (orderly : table.Orderly) {between stop : Int}
    (before : between ≤ stop) :
    between + table.shiftAt between ≤ stop + table.shiftAt stop ∨
      between + table.shiftAt between < closing * Micros.perSecond + Micros.perDay := by
  have short := orderly.shiftAt_short between
  rcases orderly.steady_or_change between stop with
    steady | ⟨moment, after, from_between, -, change⟩
  · left
    have same : table.shiftAt stop = table.shiftAt between := by
      rw [shiftAt, steady stop before (Int.le_refl stop)]
      rfl
    omega
  · right
    have listed := change.listed.2
    omega

/-- Between two instants the clocks show nothing earlier than at the first one, or something that
they showed after their first change. -/
theorem le_shown {table : Timetable} (orderly : table.Orderly) {start between : Int}
    (after : start ≤ between) :
    start + table.shiftAt start ≤ between + table.shiftAt between ∨
      opening * Micros.perSecond - Micros.perDay < between + table.shiftAt between := by
  have short := orderly.shiftAt_short between
  rcases orderly.steady_or_change start between with
    steady | ⟨moment, after, -, to_between, change⟩
  · left
    have same : table.shiftAt between = table.shiftAt start := by
      rw [shiftAt, steady between after (Int.le_refl between)]
      rfl
    omega
  · right
    have listed := change.listed.1
    omega

/-- Readings between two others can be written too, and so can what follows them. -/
theorem writable_between {table : Timetable} (orderly : table.Orderly) {unit : CalendarUnit}
    {start stop between first last : Int} (starts : wallAt table start = .ok first)
    (stops : wallAt table stop = .ok last) (next : HasNext table unit last)
    (after : start ≤ between) (before : between ≤ stop) :
    ∃ wall, wallAt table between = .ok wall ∧ HasNext table unit wall := by
  obtain ⟨startInRange, firstInRange, firstShown⟩ := wallAt_ok_iff.1 starts
  obtain ⟨stopInRange, lastInRange, lastShown⟩ := wallAt_ok_iff.1 stops
  have low := le_shown orderly (show start * 1000 ≤ between * 1000 by omega)
  have high := shown_le orderly (show between * 1000 ≤ stop * 1000 by omega)
  rw [firstShown] at low
  rw [lastShown] at high
  rw [inRange_iff] at startInRange firstInRange stopInRange lastInRange
  simp only [opening, closing, perSecond_eq, perDay_eq] at low high
  refine ⟨_, wallAt_ok_iff.2 ⟨?_, ?_, rfl⟩, ?_⟩
  · rw [inRange_iff]
    omega
  · rw [inRange_iff]
    omega
  · cases unit with
    | month =>
      have := (nextMonth_year_iff last).1 next
      apply (nextMonth_year_iff _).2
      omega
    | day =>
      obtain ⟨following, second⟩ := next
      simp only [HasNext, inRange_iff, perDay_eq] at following second ⊢
      refine ⟨by omega, fun fixed => ?_⟩
      have := second fixed
      omega

end CalendarSeries.Bucket
