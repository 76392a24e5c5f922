import CalendarSeries.Proofs.Bucket.Bounds
/-!
Day buckets by the clock on the wall. A bucket that others follow ends where the clocks show its
first reading a day later, so its length is a day less what the clocks were set ahead meanwhile. If
the clocks skip that reading, the bucket lasts twenty-four hours.
-/
namespace CalendarSeries.Bucket

open Timetable

/-- One day on the clock: to the reading of the start a day later where the clocks show it, and
twenty-four hours where they do not. -/
structure IsWallDay (table : Timetable) (start stop : Int) : Prop where
  shown : (∃ instant, table.shownAt instant = table.shownAt start + Micros.perDay) →
    table.shownAt stop = table.shownAt start + Micros.perDay ∧
      (stop - start) * 1000 =
        Micros.perDay - (table.shiftAt (stop * 1000) - table.shiftAt (start * 1000))
  skipped : (¬∃ instant, table.shownAt instant = table.shownAt start + Micros.perDay) →
    (stop - start) * 1000 = Micros.perDay

/-- From a reading whose next day the clocks skip, the offset before the change holds. -/
theorem shift_of_skipped {table : Timetable} (orderly : table.Orderly) {moment start : Int}
    {before after : Regime} (change : table.ChangeAt moment before after)
    (passed : moment + before.shift ≤ table.shownAt start + Micros.perDay)
    (within : table.shownAt start + Micros.perDay < moment + after.shift) :
    table.shiftAt (start * 1000) = before.shift := by
  have short := orderly.shiftAt_short (start * 1000)
  have shortBefore := change.shortBefore.shift_bounds
  have shortAfter := change.shortAfter.shift_bounds
  have day := perDay_eq
  unfold shownAt at passed within
  have shift := change.shiftAt_near (start * 1000) (by omega) (by omega)
  rw [shift]
  split at shift
  · rename_i early
    exact if_pos early
  · -- after the change the clocks show no more than a day before what they skipped
    omega

/-- A step of days leads one day on by the clock. -/
theorem isWallDay_of_step {table : Timetable} (orderly : table.Orderly) {name : String}
    {start boundary : Int} (stepped : unitStep .day name table start = .ok boundary) :
    IsWallDay table start boundary := by
  obtain ⟨wall, shown, next, finds⟩ := hasNext_of_step stepped
  obtain ⟨instant, -, denotes, step, -, aligned⟩ := unitStep_eq orderly finds shown next
  cases step.symm.trans stepped
  obtain ⟨-, -, reading⟩ := wallAt_ok_iff.1 shown
  have whole : instant / 1000 * 1000 = instant := by omega
  have leads : table.shownAt start + Micros.perDay = follower .day wall :=
    congrArg (· + Micros.perDay) reading
  have there : table.shownAt (instant / 1000) = instant + table.shiftAt instant := by
    rw [shownAt, whole]
  rw [← leads] at denotes
  constructor
  · rintro ⟨other, same⟩
    have here := denotes.shown (orderly.shiftAt_short (other * 1000)) same
    refine ⟨there.trans here, ?_⟩
    rw [whole]
    unfold shownAt at here
    omega
  · intro never
    rcases denotes.shown_or_skipped with here | ⟨moment, before, after, change, passed, within, rfl⟩
    · exact absurd ⟨instant / 1000, there.trans here⟩ never
    · have shift := shift_of_skipped orderly change passed within
      unfold shownAt at whole ⊢
      omega

/-- Each bucket but the last is one day on the clock, and the last is no longer than that. -/
structure KeepsWallDays (table : Timetable) (buckets : List Bucket) : Prop where
  inner : ∀ bucket ∈ buckets.dropLast, IsWallDay table bucket.start bucket.stop
  last : ∀ bucket ∈ buckets.getLast?, ∃ boundary,
    bucket.stop ≤ boundary ∧ IsWallDay table bucket.start boundary

theorem Run.keepsWallDays {table : Timetable} (orderly : table.Orderly) {name : String}
    {start stop : Int} {buckets : List Bucket}
    (run : Run (unitStep .day name table) stop start buckets) : KeepsWallDays table buckets where
  inner bucket member := isWallDay_of_step orderly (run.stepped_of_mem_dropLast bucket member)
  last bucket member := by
    obtain ⟨ends, boundary, stepped, reached⟩ := run.stepped_of_last bucket member
    exact ⟨boundary, by omega, isWallDay_of_step orderly stepped⟩

/-- Day buckets keep to the clock on the wall, in every known zone and along every orderly
timetable. -/
theorem calendar_keepsWallDays (name : String) (start stop : Int) (buckets : List Bucket)
    (table : Timetable) :
    (timetable name = .ok table → calendar .day name start stop = .ok buckets →
      KeepsWallDays table buckets) ∧
    (table.Orderly → start ≤ stop → cut (unitStep .day name table) start stop = .ok buckets →
      KeepsWallDays table buckets) := by
  constructor
  · intro zone result
    exact ((calendar_ok_iff zone).1 result).2.keepsWallDays (Timetable.orderly_of_name zone)
  · intro orderly order result
    exact ((cut_unitStep_iff orderly order).1 result).keepsWallDays orderly

/-- In New York the second of these days lacks an hour; along the timetable the clocks skip the day
between the two, and the first lasts twenty-four hours all the same. -/
theorem calendar_keepsWallDays_springForward :
    KeepsWallDays (ofZone Zone.newYork)
      [⟨1741410000000, 1741496400000⟩, ⟨1741496400000, 1741579200000⟩,
        ⟨1741579200000, 1741665600000⟩] ∧
    KeepsWallDays ⟨⟨-36000, 0⟩, [(36000, ⟨50400, 0⟩)]⟩
      [⟨-50400000, 36000000⟩, ⟨36000000, 122400000⟩] := by
  constructor
  · exact (calendar_keepsWallDays "America/New_York" 1741410000000 1741665600000 _
      (ofZone Zone.newYork)).1 rfl (ok_of_toOption (by decide +kernel))
  · exact (calendar_keepsWallDays "UTC" (-50400000) 122400000 _
      ⟨⟨-36000, 0⟩, [(36000, ⟨50400, 0⟩)]⟩).2 (by decide +kernel) (by decide)
      (ok_of_toOption (by decide +kernel))

end CalendarSeries.Bucket
