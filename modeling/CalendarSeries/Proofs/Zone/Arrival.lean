import CalendarSeries.Proofs.Zone.Shown
/-!
When the clocks come to a reading. The instant that a reading denotes is the first at which they
have reached it, unless they come late to it: they were set ahead over it before it was due, or set
back to it or over it after they had shown it. Then they have reached it before that instant.
-/
namespace CalendarSeries.Timetable

variable {table : Timetable} {wall instant moment : Int} {before after : Regime}

/-- A change that leaps over a reading, from before it to after it. -/
def LeapsOver (moment : Int) (before after : Regime) (wall : Int) : Prop :=
  moment + before.shift < wall ∧ wall < moment + after.shift

/-- A change that has the clocks show a reading again, which counts from the second time on: it does
unless the first time alone was standard time. -/
def FallsBackTo (moment : Int) (before after : Regime) (wall : Int) : Prop :=
  (moment + after.shift ≤ wall ∧ wall < moment + before.shift) ∧
    ¬(before.isStandard ∧ ¬after.isStandard)

theorem ne_of_late (kind : LeapsOver moment before after wall ∨ FallsBackTo moment before after wall) :
    before ≠ after := by
  rintro rfl
  rcases kind with ⟨passed, within⟩ | ⟨⟨reached, ahead⟩, -⟩ <;> omega

/-- The clocks leap over a reading before it is due, or fall back to it. -/
def ComesLate (table : Timetable) (wall : Int) : Prop :=
  ∃ (moment : Int) (before after : Regime), table.ChangeAt moment before after ∧
    (LeapsOver moment before after wall ∨ FallsBackTo moment before after wall)

/-- Unless the clocks come late to a reading, they have not reached it before the instant that it
denotes. -/
theorem Orderly.le_of_reached (orderly : table.Orderly) (denotes : table.Denotes wall instant)
    (prompt : ¬table.ComesLate wall) {other : Int} (reached : wall ≤ other + table.shiftAt other) :
    instant ≤ other := by
  apply Int.not_lt.1
  intro early
  have day := perDay_eq
  have short := orderly.shiftAt_short other
  have near := denotes.bounds
  cases denotes with
  | steady _ constant =>
    have shift := constant other (by omega) (by omega)
    omega
  | @changing moment before after change soon late =>
    have shift := change.shiftAt_near other (by omega) (by omega)
    apply prompt
    refine ⟨moment, before, after, change, ?_⟩
    unfold LeapsOver FallsBackTo
    unfold choice at early
    split at early
    · -- the reading is taken under the later offset, and had been reached under the earlier one
      rename_i second
      have first : wall < moment + before.shift := by
        split at shift <;> omega
      exact .inr ⟨⟨second.1, first⟩, second.2.resolve_left (by omega)⟩
    · rename_i second
      have passed : moment + before.shift < wall := by
        split at shift <;> omega
      exact .inl ⟨passed, Int.not_le.1 fun reached =>
        second ⟨reached, .inl (Int.le_of_lt passed)⟩⟩

namespace ChangeAt

theorem not_isFixed (change : table.ChangeAt moment before after) (differ : before ≠ after) :
    table.isFixed = false := by
  cases fixed : table.isFixed with
  | false => rfl
  | true =>
    have earlier := change.ahead (moment - 1) (by rw [perDay_eq]; omega) (by omega)
    have later := change.behind moment (Int.le_refl _) (by rw [perDay_eq]; omega)
    rw [regimeAt_of_isFixed fixed] at earlier later
    exact absurd (earlier.symm.trans later) differ

/-- Past a reading that a change skipped the clocks show nothing earlier than right after it. -/
theorem le_shown_of_skipped (change : table.ChangeAt moment before after) (orderly : table.Orderly)
    (passed : moment + before.shift ≤ wall) (within : wall < moment + after.shift) {other : Int}
    (reached : wall ≤ other + table.shiftAt other) :
    moment + after.shift ≤ other + table.shiftAt other := by
  have day := perDay_eq
  have short := orderly.shiftAt_short other
  have shortBefore := change.shortBefore.shift_bounds
  have shortAfter := change.shortAfter.shift_bounds
  rcases Int.lt_or_le other (moment + 3 * Micros.perDay) with soon | late
  · have shift := change.shiftAt_near other (by omega) soon
    split at shift <;> omega
  · omega

end ChangeAt

/-- Clocks that never change come late to nothing. -/
theorem not_comesLate_of_isFixed (fixed : table.isFixed = true) : ¬table.ComesLate wall := by
  rintro ⟨moment, before, after, change, kind⟩
  rw [change.not_isFixed (ne_of_late kind)] at fixed
  cases fixed

/-- If the clocks come late to a reading, they have reached it before the instant that it denotes,
and shown nothing earlier since. -/
theorem ComesLate.exists_reached (late : table.ComesLate wall) (orderly : table.Orderly)
    (whole : wall % Micros.perSecond = 0) (found : table.localize wall = some instant) :
    ∃ other < instant, other % Micros.perSecond = 0 ∧ wall ≤ other + table.shiftAt other ∧
      ∀ third, wall ≤ third + table.shiftAt third →
        other + table.shiftAt other ≤ third + table.shiftAt third := by
  obtain ⟨moment, before, after, change, kind⟩ := late
  have shortBefore := change.shortBefore.shift_bounds
  have shortAfter := change.shortAfter.shift_bounds
  have differ := ne_of_late kind
  have near : wall - Micros.perDay < moment ∧ moment ≤ wall + Micros.perDay := by
    rcases kind with ⟨passed, within⟩ | ⟨⟨reached, ahead⟩, -⟩ <;> omega
  have localize := change.localize_eq (change.not_isFixed differ) near.1 near.2
  cases found.symm.trans localize
  have seconds := change.whole_seconds differ
  rcases kind with ⟨passed, within⟩ | ⟨⟨reached, ahead⟩, counts⟩
  · have at_moment := change.shiftAt_after (Int.le_refl moment) (by rw [perDay_eq]; omega)
    refine ⟨moment, ?_, seconds, by omega, fun third shown => ?_⟩
    · rw [choice, if_neg (by omega)]
      omega
    · rw [at_moment]
      exact change.le_shown_of_skipped orderly (Int.le_of_lt passed) within shown
  · have first := change.shiftAt_before (show moment - 3 * Micros.perDay ≤ wall - before.shift by
      rw [perDay_eq] at *; omega) (by omega)
    refine ⟨wall - before.shift, ?_, ?_, by omega, fun third shown => by omega⟩
    · rw [choice, if_pos ⟨reached, .inr counts⟩]
      omega
    · unfold Regime.shift
      rw [perSecond_eq] at whole ⊢
      omega

/-- Where the clocks do not come late to a reading, what they show at the instant that it denotes is
no later than anything that they show once they have reached it. -/
theorem Orderly.shown_le_of_reached (orderly : table.Orderly)
    (denotes : table.Denotes wall instant) (prompt : ¬table.ComesLate wall) {other : Int}
    (reached : wall ≤ other + table.shiftAt other) :
    instant + table.shiftAt instant ≤ other + table.shiftAt other := by
  rcases denotes.shown_or_skipped with
    shown | ⟨moment, before, after, change, passed, within, rfl⟩
  · rwa [shown]
  · have due : moment + before.shift = wall := by
      apply Int.le_antisymm passed
      apply Int.not_lt.1
      intro early
      exact prompt ⟨moment, before, after, change, .inl ⟨early, within⟩⟩
    have here : wall - before.shift = moment := by omega
    rw [here, change.shiftAt_after (Int.le_refl moment) (by rw [perDay_eq]; omega)]
    exact change.le_shown_of_skipped orderly passed within reached

end CalendarSeries.Timetable
