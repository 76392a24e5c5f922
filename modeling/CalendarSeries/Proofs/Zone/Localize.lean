import CalendarSeries.Proofs.Zone.Orderly
/-!
Which instant a reading of the wall clock denotes. Away from changes there is one instant. Around a
change, a reading that both offsets lead to denotes the later instant unless only the earlier one is
standard time, and a reading that the clocks skipped denotes what it would under the offset before
the change.
-/
namespace CalendarSeries.Timetable

theorem perDay_eq : Micros.perDay = 86400000000 := by decide

theorem perSecond_eq : Micros.perSecond = 1000000 := rfl

theorem windBack_eq : @Eq Int windBack 21600000000 := by decide

theorem least_eq : @Eq Int Wall.least (-62135596800000000) := by decide

theorem greatest_eq : @Eq Int Wall.greatest 253402300799999999 := by decide

theorem inRange_iff (value : Int) :
    Wall.inRange value = true ↔
      -62135596800000000 ≤ value ∧ value ≤ 253402300799999999 := by
  simp [Wall.inRange, least_eq, greatest_eq]

/-- The offset at an instant. -/
def shiftAt (table : Timetable) (instant : Int) : Int :=
  (table.regimeAt instant).shift

theorem Orderly.shiftAt_short {table : Timetable} (orderly : table.Orderly) (instant : Int) :
    -Micros.perDay < table.shiftAt instant ∧ table.shiftAt instant < Micros.perDay :=
  (orderly.regimeAt_short instant).shift_bounds

theorem offsetAt_eq (table : Timetable) (instant : Int) :
    table.offsetAt instant = table.shiftAt instant := rfl

theorem reading_eq (table : Timetable) (instant : Int) :
    table.reading instant =
      if Wall.inRange (instant + table.shiftAt instant) = true then
        some (instant + table.shiftAt instant)
      else none := rfl

/-- A try under the offset at `probe`, where nothing leaves the writable years. -/
theorem tryOffset_eq (table : Timetable) {wall probe : Int} (instant : Int)
    (probeInRange : Wall.inRange probe = true)
    (candidate : wall - table.shiftAt probe = instant)
    (instantInRange : Wall.inRange instant = true)
    (shownInRange : Wall.inRange (instant + table.shiftAt instant) = true) :
    table.tryOffset wall probe =
      some (if instant + table.shiftAt instant = wall then some instant else none) := by
  simp only [tryOffset, reading, offsetAt_eq, candidate, checked, probeInRange, instantInRange,
    shownInRange, if_true, Option.bind_eq_bind, Option.bind_some]

/-- Whether nothing leaves the writable years in finding the instant of a reading. -/
def Reads (table : Timetable) (wall : Int) : Prop :=
  table.isFixed = true ∨
    (-62135596800000000 ≤ wall - Micros.perDay ∧ wall + Micros.perDay ≤ 253402300799999999)

/-- The instant of a reading near a change. -/
def choice (moment : Int) (before after : Regime) (wall : Int) : Int :=
  if moment + after.shift ≤ wall ∧
      (moment + before.shift ≤ wall ∨ ¬(before.isStandard ∧ ¬after.isStandard)) then
    wall - after.shift
  else wall - before.shift

namespace ChangeAt

variable {table : Timetable} {moment : Int} {before after : Regime}

theorem shiftAt_before (change : table.ChangeAt moment before after) {instant : Int}
    (near : moment - 3 * Micros.perDay ≤ instant) (early : instant < moment) :
    table.shiftAt instant = before.shift := by
  rw [shiftAt, change.ahead instant near early]

theorem shiftAt_after (change : table.ChangeAt moment before after) {instant : Int}
    (late : moment ≤ instant) (near : instant < moment + 3 * Micros.perDay) :
    table.shiftAt instant = after.shift := by
  rw [shiftAt, change.behind instant late near]

/-- Within a week of a change nothing leaves the writable years. -/
theorem inRange (change : table.ChangeAt moment before after) {value : Int}
    (near : moment - 7 * Micros.perDay ≤ value) (soon : value ≤ moment + 7 * Micros.perDay) :
    Wall.inRange value = true := by
  obtain ⟨listed, inside⟩ := change.listed
  rw [inRange_iff]
  simp only [perDay_eq, perSecond_eq, opening, closing] at *
  omega

theorem shiftAt_near (change : table.ChangeAt moment before after) (instant : Int)
    (near : moment - 3 * Micros.perDay ≤ instant) (soon : instant < moment + 3 * Micros.perDay) :
    table.shiftAt instant = if instant < moment then before.shift else after.shift := by
  split
  · rename_i early
    exact change.shiftAt_before near early
  · rename_i late
    exact change.shiftAt_after (Int.not_lt.1 late) soon

/-- The clocks change at whole seconds. -/
theorem whole_seconds (change : table.ChangeAt moment before after) (differ : before ≠ after) :
    moment % Micros.perSecond = 0 := by
  have earlier := change.ahead (moment - 1) (by rw [perDay_eq]; omega) (by omega)
  have later := change.behind moment (Int.le_refl _) (by rw [perDay_eq]; omega)
  apply Decidable.byContradiction
  intro fraction
  have same : (moment - 1) / Micros.perSecond = moment / Micros.perSecond := by
    rw [perSecond_eq] at fraction ⊢
    omega
  rw [regimeAt, same] at earlier
  exact differ (earlier.symm.trans later)

/-- A try near a change succeeds if the clocks show the reading at the instant that it finds. -/
theorem tryOffset_near (change : table.ChangeAt moment before after) (wall probe : Int)
    {shift : Int} (probeShift : table.shiftAt probe = shift)
    (probeNear : moment - 3 * Micros.perDay ≤ probe)
    (probeSoon : probe < moment + 3 * Micros.perDay)
    (near : moment - 2 * Micros.perDay ≤ wall) (soon : wall ≤ moment + 2 * Micros.perDay) :
    table.tryOffset wall probe =
      some (if wall - shift + table.shiftAt (wall - shift) = wall then some (wall - shift)
        else none) := by
  have shortBefore := change.shortBefore.shift_bounds
  have shortAfter := change.shortAfter.shift_bounds
  have short : -Micros.perDay < shift ∧ shift < Micros.perDay := by
    rw [← probeShift, change.shiftAt_near probe probeNear probeSoon]
    split
    · exact shortBefore
    · exact shortAfter
  have shown := change.shiftAt_near (wall - shift) (by omega) (by omega)
  apply table.tryOffset_eq _ (change.inRange (by omega) (by omega)) (by rw [probeShift])
    (change.inRange (by omega) (by omega))
  rw [shown]
  split
  · exact change.inRange (by omega) (by omega)
  · exact change.inRange (by omega) (by omega)

/-- Of the two instants of a reading shown twice, the earlier counts only if it alone is standard
time. -/
theorem preferred_eq (change : table.ChangeAt moment before after) (first second : Int)
    (near : moment - 3 * Micros.perDay ≤ first) (early : first < moment)
    (late : moment ≤ second) (soon : second < moment + 3 * Micros.perDay) :
    table.preferred first second =
      if before.isStandard ∧ ¬after.isStandard then first else second := by
  have order : (max first second : Int) = second := by omega
  simp only [preferred, change.ahead first near early, change.behind second late soon]
  change (if before.isStandard && !after.isStandard then first
    else if after.isStandard && !before.isStandard then second else (max first second : Int)) = _
  rw [order]
  cases before.isStandard <;> cases after.isStandard <;> simp

/-- What a reading that was not skipped finds at the first attempt. -/
theorem localOffset_shown (change : table.ChangeAt moment before after) {wall : Int}
    (near : moment - 2 * Micros.perDay ≤ wall) (soon : wall - Micros.perDay < moment)
    (shown : wall < moment + before.shift ∨ moment + after.shift ≤ wall) (steps : Nat) :
    table.localOffset (steps + 1) wall = some (wall - choice moment before after wall) := by
  have shortBefore := change.shortBefore.shift_bounds
  have shortAfter := change.shortAfter.shift_bounds
  have earlier := change.tryOffset_near wall (wall - Micros.perDay)
    (change.shiftAt_before (by omega) soon) (by omega) (by omega) near (by omega)
  have shownBefore := change.shiftAt_near (wall - before.shift) (by omega) (by omega)
  have shownAfter := change.shiftAt_near (wall - after.shift) (by omega) (by omega)
  rw [localOffset, earlier]
  rcases Int.lt_or_le (wall + Micros.perDay) moment with probeEarly | probeLate
  · -- both tries see the clocks before the change
    have later := change.tryOffset_near wall (wall + Micros.perDay)
      (change.shiftAt_before (by omega) probeEarly) (by omega) (by omega) near (by omega)
    have settled : wall - before.shift < moment := by omega
    have unreached : ¬moment + after.shift ≤ wall := by omega
    rw [later, shownBefore, if_pos settled]
    simp [choice, unreached]
  · have later := change.tryOffset_near wall (wall + Micros.perDay)
      (change.shiftAt_after probeLate (by omega)) (by omega) (by omega) near (by omega)
    rw [later, shownBefore, shownAfter]
    rcases Int.lt_or_le wall (moment + before.shift) with first | passed
    · rcases Int.lt_or_le wall (moment + after.shift) with unreached | second
      · have settled : wall - before.shift < moment := by omega
        have missed : wall - after.shift < moment := by omega
        have only : ¬moment + after.shift ≤ wall := by omega
        by_cases same : before.shift = after.shift
        · simp [missed, choice, only, same]
        · have different : wall - after.shift + before.shift ≠ wall := by omega
          simp [settled, missed, choice, only, different]
      · have settled : wall - before.shift < moment := by omega
        have reached : ¬wall - after.shift < moment := by omega
        have twice := change.preferred_eq (wall - before.shift) (wall - after.shift) (by omega)
          settled (by omega) (by omega)
        have apart : wall - before.shift ≠ wall - after.shift := by omega
        have early : ¬moment + before.shift ≤ wall := by omega
        simp only [settled, reached, choice, second, early, twice, apart, if_true, if_false,
          Int.sub_add_cancel, true_and, false_or, Option.bind_eq_bind, Option.bind_some]
        cases before.isStandard <;> cases after.isStandard <;> simp
    · have second : moment + after.shift ≤ wall := by omega
      have missed : ¬wall - before.shift < moment := by omega
      have reached : ¬wall - after.shift < moment := by omega
      by_cases same : before.shift = after.shift
      · simp [reached, choice, second, same]
      · have different : wall - before.shift + after.shift ≠ wall := by omega
        simp [missed, reached, choice, second, passed, different]

/-- Neither offset around a change leads to a reading that it skipped. -/
theorem localOffset_wound (change : table.ChangeAt moment before after) {wall : Int}
    (passed : moment + before.shift ≤ wall) (within : wall < moment + after.shift) (steps : Nat) :
    table.localOffset (steps + 1) wall = table.localOffset steps (wall - windBack) := by
  have shortBefore := change.shortBefore.shift_bounds
  have shortAfter := change.shortAfter.shift_bounds
  have shownBefore : wall - before.shift + table.shiftAt (wall - before.shift) ≠ wall := by
    rw [change.shiftAt_after (by omega) (by omega)]
    omega
  have shownAfter : wall - after.shift + table.shiftAt (wall - after.shift) ≠ wall := by
    rw [change.shiftAt_before (by omega) (by omega)]
    omega
  have earlier := change.tryOffset_near wall (wall - Micros.perDay)
    (change.shiftAt_before (by omega) (by omega)) (by omega) (by omega) (by omega) (by omega)
  have later := change.tryOffset_near wall (wall + Micros.perDay)
    (change.shiftAt_after (by omega) (by omega)) (by omega) (by omega) (by omega) (by omega)
  rw [if_neg shownBefore] at earlier
  rw [if_neg shownAfter] at later
  rw [localOffset, earlier, later]
  rfl

/-- A skipped reading is wound back until it comes before the change. -/
theorem localOffset_skipped (change : table.ChangeAt moment before after) (steps : Nat)
    {wall : Int} (begun : moment + before.shift - windBack ≤ wall)
    (within : wall < moment + after.shift)
    (enough : wall - (moment + before.shift) < steps * windBack) :
    table.localOffset (steps + 1) wall = some before.shift := by
  have shortBefore := change.shortBefore.shift_bounds
  have shortAfter := change.shortAfter.shift_bounds
  have quarter := windBack_eq
  induction steps generalizing wall with
  | zero =>
    have unreached : ¬moment + after.shift ≤ wall := by omega
    rw [change.localOffset_shown (by rw [perDay_eq] at *; omega) (by omega) (.inl (by omega)),
      choice, if_neg (fun both => unreached both.1)]
    congr 1
    omega
  | succ steps ih =>
    rcases Int.lt_or_le wall (moment + before.shift) with first | passed
    · have unreached : ¬moment + after.shift ≤ wall := by omega
      rw [change.localOffset_shown (by rw [perDay_eq] at *; omega) (by omega) (.inl first),
        choice, if_neg (fun both => unreached both.1)]
      congr 1
      omega
    · rw [change.localOffset_wound passed within]
      apply ih
      · omega
      · omega
      · rw [quarter] at *
        omega

/-- Around a change a reading denotes the instant of `choice`. -/
theorem localize_eq (change : table.ChangeAt moment before after) {wall : Int}
    (changing : table.isFixed = false)
    (near : wall - Micros.perDay < moment) (soon : moment ≤ wall + Micros.perDay) :
    table.localize wall = some (choice moment before after wall) := by
  have shortBefore := change.shortBefore.shift_bounds
  have shortAfter := change.shortAfter.shift_bounds
  rw [localize, if_neg (by simp [changing]), windings]
  by_cases skipped : moment + before.shift ≤ wall ∧ wall < moment + after.shift
  · obtain ⟨passed, within⟩ := skipped
    have unreached : ¬moment + after.shift ≤ wall := by omega
    have listed := change.listed.1
    rw [change.localOffset_skipped, choice, if_neg (fun both => unreached both.1)]
    · rfl
    · rw [windBack_eq]
      omega
    · exact within
    · simp only [windBack_eq, least_eq, opening, perSecond_eq, perDay_eq] at *
      omega
  · rw [change.localOffset_shown (by omega) (by omega) (by omega)]
    exact congrArg some (Int.sub_sub_self wall _)

end ChangeAt

theorem regimeAt_of_isFixed {table : Timetable} (fixed : table.isFixed = true) (instant : Int) :
    table.regimeAt instant = table.first := by
  have none : table.changes = [] := List.isEmpty_iff.1 fixed
  rw [regimeAt, none]
  rfl

theorem shiftAt_of_isFixed {table : Timetable} (fixed : table.isFixed = true) (instant : Int) :
    table.shiftAt instant = table.first.shift := by
  rw [shiftAt, regimeAt_of_isFixed fixed]

/-- A reading that no change comes near denotes the instant under the offset in force. -/
theorem localize_steady {table : Timetable} {wall shift : Int} (reads : table.Reads wall)
    (short : -Micros.perDay < shift ∧ shift < Micros.perDay)
    (steady : ∀ instant : Int, wall - Micros.perDay ≤ instant → instant ≤ wall + Micros.perDay →
      table.shiftAt instant = shift) :
    table.localize wall = some (wall - shift) := by
  rcases reads with fixed | ⟨low, high⟩
  · rw [localize, if_pos fixed, ← steady wall (by omega) (by omega), shiftAt_of_isFixed fixed]
    rfl
  · have shown : wall - shift + table.shiftAt (wall - shift) = wall := by
      rw [steady _ (by omega) (by omega)]
      omega
    have tried (probe : Int) (after : wall - Micros.perDay ≤ probe)
        (before : probe ≤ wall + Micros.perDay) :
        table.tryOffset wall probe = some (some (wall - shift)) := by
      rw [table.tryOffset_eq (wall - shift) (by rw [inRange_iff]; omega)
        (by rw [steady _ after before]) (by rw [inRange_iff]; omega)
        (by rw [shown, inRange_iff]; omega), if_pos shown]
    by_cases fixed : table.isFixed
    · rw [localize, if_pos fixed, ← steady wall (by omega) (by omega), shiftAt_of_isFixed fixed]
      rfl
    · rw [localize, if_neg fixed, windings, localOffset,
        tried (wall - Micros.perDay) (by omega) (by omega),
        tried (wall + Micros.perDay) (by omega) (by omega)]
      simp only [Option.bind_eq_bind, Option.bind_some, if_true, Option.map_some]
      exact congrArg some (Int.sub_sub_self wall _)

/-- How the clocks go around a reading, with the instant that it denotes. -/
inductive Denotes (table : Timetable) (wall : Int) : Int → Prop
  | steady {shift : Int} (short : -Micros.perDay < shift ∧ shift < Micros.perDay)
      (constant : ∀ instant : Int, wall - Micros.perDay ≤ instant →
        instant ≤ wall + Micros.perDay → table.shiftAt instant = shift) :
      Denotes table wall (wall - shift)
  | changing {moment : Int} {before after : Regime} (change : table.ChangeAt moment before after)
      (near : wall - Micros.perDay < moment) (soon : moment ≤ wall + Micros.perDay) :
      Denotes table wall (choice moment before after wall)

/-- Every reading whose neighbours can be written denotes an instant. -/
theorem Orderly.localize_denotes {table : Timetable} (orderly : table.Orderly) {wall : Int}
    (reads : table.Reads wall) :
    ∃ instant : Int, table.localize wall = some instant ∧ table.Denotes wall instant := by
  rcases orderly.steady_or_change (wall - Micros.perDay) (wall + Micros.perDay) with
    steady | ⟨moment, after, near, soon, change⟩
  · have short := orderly.shiftAt_short (wall - Micros.perDay)
    have constant (instant : Int) (after : wall - Micros.perDay ≤ instant)
        (before : instant ≤ wall + Micros.perDay) :
        table.shiftAt instant = table.shiftAt (wall - Micros.perDay) := by
      rw [shiftAt, steady instant after before]
      rfl
    exact ⟨_, localize_steady reads short constant, .steady short constant⟩
  · by_cases fixed : table.isFixed
    · have constant (instant : Int) (_ : wall - Micros.perDay ≤ instant)
          (_ : instant ≤ wall + Micros.perDay) : table.shiftAt instant = table.first.shift :=
        shiftAt_of_isFixed fixed instant
      exact ⟨_, localize_steady reads orderly.short.shift_bounds constant,
        .steady orderly.short.shift_bounds constant⟩
    · exact ⟨_, change.localize_eq (by simpa using fixed) near soon,
        .changing change near soon⟩

/-- A reading denotes an instant only if its neighbours can be written. -/
theorem reads_of_localize {table : Timetable} {wall instant : Int}
    (found : table.localize wall = some instant) : table.Reads wall := by
  unfold localize at found
  split at found
  · rename_i fixed
    exact .inl fixed
  · right
    rw [windings, localOffset] at found
    simp only [tryOffset, checked, Option.bind_eq_bind] at found
    split at found
    · rename_i low
      split at found
      · rename_i high
        rw [inRange_iff] at low high
        omega
      · simp at found
    · simp at found

theorem Orderly.denotes_of_localize {table : Timetable} (orderly : table.Orderly)
    {wall instant : Int} (found : table.localize wall = some instant) :
    table.Denotes wall instant := by
  obtain ⟨other, same, denotes⟩ := orderly.localize_denotes (reads_of_localize found)
  cases found.symm.trans same
  exact denotes

namespace Denotes

variable {table : Timetable} {wall instant : Int}

/-- An instant is less than a day from its reading. -/
theorem bounds (denotes : table.Denotes wall instant) :
    wall - Micros.perDay < instant ∧ instant < wall + Micros.perDay := by
  cases denotes with
  | steady short _ => omega
  | changing change _ _ =>
    have shortBefore := change.shortBefore.shift_bounds
    have shortAfter := change.shortAfter.shift_bounds
    unfold choice
    split <;> omega

/-- A reading and its instant differ by whole seconds. -/
theorem whole_seconds (denotes : table.Denotes wall instant) :
    (wall - instant) % Micros.perSecond = 0 := by
  cases denotes with
  | steady short constant =>
    have shift := constant wall (by omega) (by omega)
    unfold shiftAt Regime.shift at shift
    rw [perSecond_eq] at *
    omega
  | changing =>
    unfold choice Regime.shift
    rw [perSecond_eq]
    split <;> omega

/-- What the clocks show at the instant of a reading can be written if the reading is not at the
edge of the writable years. -/
theorem shown_inRange (denotes : table.Denotes wall instant) (low : Wall.inRange wall = true) :
    Wall.inRange (instant + table.shiftAt instant) = true := by
  have near := denotes.bounds
  cases denotes with
  | steady short constant =>
    rw [constant _ (by omega) (by omega)]
    simpa using low
  | changing change before soon =>
    rw [change.shiftAt_near _ (by omega) (by omega)]
    have shortBefore := change.shortBefore.shift_bounds
    have shortAfter := change.shortAfter.shift_bounds
    apply change.inRange
    · split <;> omega
    · split <;> omega

/-- The same reading a day later comes later. -/
theorem lt_of_nextDay {earlier : Int}
    (short : -Micros.perDay < table.shiftAt earlier ∧ table.shiftAt earlier < Micros.perDay)
    (denotes : table.Denotes (earlier + table.shiftAt earlier + Micros.perDay) instant) :
    earlier < instant := by
  apply Int.not_le.1
  intro backwards
  have day := perDay_eq
  have near := denotes.bounds
  cases denotes with
  | steady _ constant =>
    have shift := constant earlier (by omega) (by omega)
    omega
  | changing change before soon =>
    have setback := change.setback
    have shift := change.shiftAt_near earlier (by omega) (by omega)
    unfold choice at backwards near
    split at shift
    · split at backwards <;> omega
    · rw [if_pos (by omega)] at backwards
      omega

/-- A midnight that is still to come on the wall comes later. -/
theorem lt_of_midnight {earlier day : Int}
    (short : -Micros.perDay < table.shiftAt earlier ∧ table.shiftAt earlier < Micros.perDay)
    (ahead : earlier + table.shiftAt earlier < day * Micros.perDay)
    (denotes : table.Denotes (day * Micros.perDay) instant) : earlier < instant := by
  apply Int.not_le.1
  intro backwards
  have near := denotes.bounds
  cases denotes with
  | steady _ constant =>
    have shift := constant earlier (by omega) (by omega)
    omega
  | @changing moment before after change close soon =>
    have shift := change.shiftAt_near earlier (by omega) (by omega)
    unfold choice at backwards near
    split at shift
    · split at backwards <;> omega
    · split at backwards
      · omega
      · rename_i early
        -- the midnight would be shown twice, and the first time alone in standard time
        have passed : moment + after.shift < day * Micros.perDay := by omega
        apply early
        refine ⟨Int.le_of_lt passed, ?_⟩
        by_cases alone : before.isStandard ∧ ¬after.isStandard
        · exact .inl (change.midnightOnce alone.1 alone.2 day passed)
        · exact .inr alone

end Denotes

/-- Where a reading and its neighbours can be written, nothing more is refused. -/
theorem Orderly.normalize_denotes {table : Timetable} (orderly : table.Orderly) {wall : Int}
    (inRange : Wall.inRange wall = true) (reads : table.Reads wall) :
    ∃ instant : Int, table.normalize wall = some instant ∧ table.localize wall = some instant ∧
      table.Denotes wall instant := by
  obtain ⟨instant, found, denotes⟩ := orderly.localize_denotes reads
  refine ⟨instant, ?_, found, denotes⟩
  by_cases fixed : table.isFixed
  · simp only [normalize, found, fixed, if_true, Option.bind_eq_bind, Option.bind_some]
  · have near := denotes.bounds
    have shown := denotes.shown_inRange inRange
    rcases reads with fixed' | ⟨low, high⟩
    · exact absurd fixed' fixed
    · have instantInRange : Wall.inRange instant = true := by
        rw [inRange_iff]
        omega
      simp only [normalize, found, fixed, Option.bind_eq_bind, Option.bind_some, checked,
        instantInRange, if_true, reading, offsetAt_eq, shown]
      rfl

end CalendarSeries.Timetable
