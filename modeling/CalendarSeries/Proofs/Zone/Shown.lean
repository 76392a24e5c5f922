import CalendarSeries.Proofs.Zone.Localize
/-!
Whether the clocks show a reading at the instant that it denotes. They do if they show it at all.
Otherwise a change skipped it, and the reading denotes what it would under the offset before the
change, when the clocks have already been set ahead.
-/
namespace CalendarSeries.Timetable

variable {table : Timetable} {wall instant : Int}

/-- Two instants at which the clocks show the same lie a day apart at most. -/
theorem Orderly.shown_twice (orderly : table.Orderly) {first second : Int}
    (order : first ≤ second)
    (same : first + table.shiftAt first = second + table.shiftAt second) :
    second ≤ first + Micros.perDay := by
  have day := perDay_eq
  have shortFirst := orderly.shiftAt_short first
  have shortSecond := orderly.shiftAt_short second
  rcases orderly.steady_or_change first second with
    steady | ⟨moment, after, from_first, to_second, change⟩
  · have shift : table.shiftAt second = table.shiftAt first := by
      rw [shiftAt, steady second order (Int.le_refl second)]
      rfl
    omega
  · have setback := change.setback
    have shift := change.shiftAt_after to_second (by omega)
    change table.shiftAt first - _ ≤ _ at setback
    omega

/-- A reading that the clocks show at some instant is shown at the one that it denotes. -/
theorem Denotes.shown (denotes : table.Denotes wall instant) {other : Int}
    (short : -Micros.perDay < table.shiftAt other ∧ table.shiftAt other < Micros.perDay)
    (shown : other + table.shiftAt other = wall) : instant + table.shiftAt instant = wall := by
  have near := denotes.bounds
  cases denotes with
  | steady _ constant =>
    rw [constant _ (by omega) (by omega)]
    omega
  | @changing moment before after change soon late =>
    have shift := change.shiftAt_near other (by omega) (by omega)
    rw [change.shiftAt_near (choice moment before after wall) (by omega) (by omega)]
    unfold choice
    split
    · rw [if_neg (by omega)]
      omega
    · rename_i early
      have settled : wall - before.shift < moment := by
        apply Int.not_le.1
        intro passed
        split at shift
        · omega
        · exact early ⟨by omega, .inl (by omega)⟩
      rw [if_pos settled]
      omega

/-- The clocks show a reading at the instant that it denotes, or a change skipped it. -/
theorem Denotes.shown_or_skipped (denotes : table.Denotes wall instant) :
    instant + table.shiftAt instant = wall ∨
      ∃ (moment : Int) (before after : Regime), table.ChangeAt moment before after ∧
        moment + before.shift ≤ wall ∧ wall < moment + after.shift ∧
        instant = wall - before.shift := by
  have near := denotes.bounds
  cases denotes with
  | steady short constant =>
    left
    rw [constant _ (by omega) (by omega)]
    omega
  | @changing moment before after change soon late =>
    rw [change.shiftAt_near (choice moment before after wall) (by omega) (by omega)]
    unfold choice
    split
    · left
      rw [if_neg (by omega)]
      omega
    · rename_i early
      rcases Int.lt_or_le (wall - before.shift) moment with settled | passed
      · left
        rw [if_pos settled]
        omega
      · refine .inr ⟨moment, before, after, change, by omega, ?_, rfl⟩
        apply Int.not_le.1
        intro reached
        exact early ⟨reached, .inl (by omega)⟩

/-- At the instant that a reading denotes, the clocks have reached it. -/
theorem Denotes.le_shown (denotes : table.Denotes wall instant) :
    wall ≤ instant + table.shiftAt instant := by
  rcases denotes.shown_or_skipped with
    shown | ⟨moment, before, after, change, passed, within, rfl⟩
  · omega
  · have shortBefore := change.shortBefore.shift_bounds
    have shortAfter := change.shortAfter.shift_bounds
    rw [change.shiftAt_after (by omega) (by omega)]
    omega

namespace ChangeAt

variable {moment : Int} {before after : Regime}

/-- A skipped reading denotes what it would have under the offset before the change. -/
theorem denotes_skipped (change : table.ChangeAt moment before after)
    (passed : moment + before.shift ≤ wall) (within : wall < moment + after.shift)
    (denotes : table.Denotes wall instant) : instant = wall - before.shift := by
  have shortBefore := change.shortBefore.shift_bounds
  have shortAfter := change.shortAfter.shift_bounds
  have ahead := change.shiftAt_before (show moment - 3 * Micros.perDay ≤ moment - 1 by
    rw [perDay_eq]; omega) (by omega)
  have behind := change.shiftAt_after (Int.le_refl moment) (by rw [perDay_eq]; omega)
  cases denotes with
  | steady _ constant =>
    have shift := constant (moment - 1) (by omega) (by omega)
    have same := constant moment (by omega) (by omega)
    omega
  | @changing other earlier later near soon late =>
    have beforeOther := near.shiftAt_before
      (show other - 3 * Micros.perDay ≤ other - 1 by rw [perDay_eq]; omega) (by omega)
    have fromOther := near.shiftAt_after (Int.le_refl other) (by rw [perDay_eq]; omega)
    rcases Int.lt_trichotomy other moment with first | rfl | second
    · -- the clocks change at `moment` only
      have from_other := change.shiftAt_before (show _ ≤ other by omega) first
      have before_other := change.shiftAt_before (show _ ≤ other - 1 by omega) (by omega)
      unfold choice
      split <;> omega
    · unfold choice
      rw [if_neg (by omega)]
      omega
    · have at_moment := near.shiftAt_before (show _ ≤ moment by omega) second
      have before_moment := near.shiftAt_before (show _ ≤ moment - 1 by omega) (by omega)
      omega

/-- Once the clocks were set ahead, what they show denotes no earlier instant. -/
theorem le_denoted (orderly : table.Orderly) (change : table.ChangeAt moment before after)
    (forward : before.shift ≤ after.shift) {shown : Int} (late : moment ≤ shown)
    (soon : shown < moment + 3 * Micros.perDay)
    (denotes : table.Denotes (shown + after.shift) instant) : shown ≤ instant := by
  have there := change.shiftAt_after late soon
  have here := denotes.shown (orderly.shiftAt_short shown) (by rw [there])
  apply Int.not_lt.1
  intro backwards
  have twice := orderly.shown_twice (Int.le_of_lt backwards) (by rw [here, there])
  have shift := change.shiftAt_near instant (by omega) (by omega)
  split at shift <;> omega

/-- Soon after the clocks were set ahead, what they show denotes the instant itself. -/
theorem denotes_shown (orderly : table.Orderly) (change : table.ChangeAt moment before after)
    (forward : before.shift ≤ after.shift) {shown : Int} (late : moment ≤ shown)
    (soon : shown < moment + 2 * Micros.perDay)
    (denotes : table.Denotes (shown + after.shift) instant) : instant = shown := by
  have day := perDay_eq
  have least := le_denoted orderly change forward late (by omega) denotes
  have there := change.shiftAt_after late (by omega)
  have here := denotes.shown (orderly.shiftAt_short shown) (by rw [there])
  have twice := orderly.shown_twice least (by rw [here, there])
  have shift := change.shiftAt_after (show moment ≤ instant by omega) (by omega)
  omega

end ChangeAt

end CalendarSeries.Timetable
