import CalendarSeries.Proofs.Zone.Concord
/-!
Days on which daylight saving changes. Such a day has instants before the change and instants after
it. What the clocks show at midnight is compared with what they show at eleven in the evening, so a
change that skips midnight tells of a day that has none of it, and one in the last hour of a day is
overlooked.
-/
namespace CalendarSeries

open Date (newYear)
open Timetable (perDay_eq perSecond_eq spacing)

namespace Zone

/-- The daylight saving at an instant, in seconds. -/
def savingAt (zone : Zone) (instant : Micros) : Int :=
  (zone.regimeAt (instant / Micros.perSecond)).saving

/-- The day that the clocks show at an instant. -/
def dayAt (zone : Zone) (instant : Micros) : Int :=
  Wall.day (zone.reading instant)

/-- Whether two instants of a local day differ in their daylight saving. -/
def VariesOn (zone : Zone) (day : Int) : Prop :=
  ∃ first second : Int, zone.dayAt first = day ∧ zone.dayAt second = day ∧
    zone.savingAt first ≠ zone.savingAt second

/-- A change of daylight saving at a moment when the clocks are about to show one reading, and show
another. -/
structure Turns (zone : Zone) (moment due shown : Int) : Prop where
  saving : zone.savingAt (moment - 1) ≠ zone.savingAt moment
  due : due = moment + zone.offsetAt (moment - 1)
  shown : shown = zone.reading moment

/-- Whether a change of daylight saving skips the midnight at the start of a day, on which it leaves
the clocks before eleven in the evening. -/
def SkipsMidnight (zone : Zone) (day : Int) : Prop :=
  ∃ moment due shown : Int, zone.Turns moment due shown ∧ due ≤ day * Micros.perDay ∧
    day * Micros.perDay < shown ∧ shown ≤ day * Micros.perDay + 23 * Micros.perHour

/-- Whether daylight saving changes within a day, and before or after the change the clocks are past
eleven in the evening. -/
def TurnsLate (zone : Zone) (day : Int) : Prop :=
  ∃ moment due shown : Int, zone.Turns moment due shown ∧ day * Micros.perDay < due ∧
    shown < (day + 1) * Micros.perDay ∧ day * Micros.perDay + 23 * Micros.perHour < max due shown

variable {changes : List (Int × Regime)} {first : Regime}

/-- Changes that lie days apart change the regime once at most within that time. -/
theorem Spaced.exists_turn (spaced : Spaced changes) (short : first.IsShort) (start : Int) :
    ∃ (turn : Int) (before after : Regime), before.IsShort ∧ after.IsShort ∧
      ∀ moment, start ≤ moment → moment ≤ start + spacing →
        lastUpTo first moment changes = if moment < turn then before else after := by
  have held : (lastUpTo first start changes).IsShort :=
    lastUpTo_of_forall Regime.IsShort short spaced.short
  have later := spaced.filter (start < ·.1)
  cases listed : changes.filter (start < ·.1) with
  | nil =>
    refine ⟨start, _, _, held, held, fun moment late soon => ?_⟩
    rw [spaced.lastUpTo_filter late, listed, ite_self]
    rfl
  | cons change rest =>
    obtain ⟨turn, after⟩ := change
    rw [listed] at later
    obtain ⟨apart, shortAfter, -⟩ := cons_iff.1 later
    have ahead : start < turn := by
      have member : (turn, after) ∈ changes.filter (start < ·.1) := listed ▸ List.mem_cons_self
      simpa using (List.mem_filter.1 member).2
    refine ⟨turn, _, after, held, shortAfter, fun moment late soon => ?_⟩
    rw [spaced.lastUpTo_filter late, listed, lastUpTo]
    by_cases passed : turn ≤ moment
    · rw [if_pos passed, if_neg (by omega), lastUpTo_ahead]
      intro other member
      have further := apart other member
      dsimp only at further
      omega
    · rw [if_neg passed, if_pos (by omega)]

/-- What the clocks do from a day before a day to a day after it: one regime up to a moment, and
one from then on, which may be the same. -/
structure Around (zone : Zone) (day moment : Int) (before after : Regime) : Prop where
  whole : moment % Micros.perSecond = 0
  shortBefore : before.IsShort
  shortAfter : after.IsShort
  regime : ∀ instant : Int, (day - 1) * Micros.perDay ≤ instant →
    instant < (day + 2) * Micros.perDay →
    zone.regimeAt (instant / Micros.perSecond) = if instant < moment then before else after

theorem IsOrderly.exists_around {zone : Zone} (orderly : zone.IsOrderly) (day : Int) :
    ∃ moment before after, zone.Around day moment before after := by
  have running := (Date.ofDays_year_bounds (day + 2)).2
  obtain ⟨turn, before, after, shortBefore, shortAfter, regime⟩ :=
    (orderly.spaced_changesTo (Date.ofDays (day + 2)).year).exists_turn orderly.short
      ((day - 1) * 86400)
  refine ⟨turn * Micros.perSecond, before, after, ?_, shortBefore, shortAfter, ?_⟩
  · rw [perSecond_eq]
    omega
  · intro instant late early
    rw [perDay_eq] at late early
    rw [perSecond_eq]
    have week : spacing = 259200 := rfl
    have listed : instant / 1000000 / 86400 <
        newYear ((Date.ofDays (day + 2)).year + 1) := by omega
    rw [orderly.regimeAt_eq listed, regime _ (by omega) (by omega)]
    congr 1
    rw [eq_iff_iff]
    omega

namespace Around

variable {zone : Zone} {day moment : Int} {before after : Regime}

/-- Around a day the clocks show no more than a day more or less than universal time. -/
theorem shift_bounds (around : zone.Around day moment before after) :
    (-Micros.perDay < before.shift ∧ before.shift < Micros.perDay) ∧
      -Micros.perDay < after.shift ∧ after.shift < Micros.perDay :=
  ⟨around.shortBefore.shift_bounds, around.shortAfter.shift_bounds⟩

theorem shiftAt (around : zone.Around day moment before after) {instant : Int}
    (late : (day - 1) * Micros.perDay ≤ instant) (early : instant < (day + 2) * Micros.perDay) :
    zone.shiftAt instant = if instant < moment then before.shift else after.shift := by
  rw [Zone.shiftAt, around.regime instant late early]
  split <;> rfl

theorem savingAt (around : zone.Around day moment before after) {instant : Int}
    (late : (day - 1) * Micros.perDay ≤ instant) (early : instant < (day + 2) * Micros.perDay) :
    zone.savingAt instant = if instant < moment then before.saving else after.saving := by
  rw [Zone.savingAt, around.regime instant late early]
  split <;> rfl

/-- The saving behind a reading of the day in whole seconds. -/
theorem savingOfReading (around : zone.Around day moment before after) (orderly : zone.IsOrderly)
    {wall : Int} (whole : wall % Micros.perSecond = 0) (late : day * Micros.perDay ≤ wall)
    (early : wall < (day + 1) * Micros.perDay) :
    zone.savingOfReading wall =
      if wall < moment + max before.shift after.shift then before.saving else after.saving := by
  obtain ⟨shortBefore, shortAfter⟩ := around.shift_bounds
  have regime := around.regime
  rw [perDay_eq] at *
  rw [perSecond_eq] at whole regime
  have regimeAt (seconds : Int) (reached : (day - 1) * 86400 ≤ seconds)
      (soon : seconds < (day + 2) * 86400) :
      zone.regimeAt seconds = if seconds * 1000000 < moment then before else after := by
    have same := regime (seconds * 1000000) (by omega) (by omega)
    rwa [Int.mul_ediv_cancel _ (by decide)] at same
  have offset_eq (held : Regime) : held.offset * 1000000 = held.shift := rfl
  rw [Zone.savingOfReading, perSecond_eq, orderly.regimeOfReading_eq,
    regimeAt (wall / 1000000 - 86400) (by omega) (by omega),
    regimeAt (wall / 1000000 + 86400) (by omega) (by omega)]
  have shift_before := offset_eq before
  have shift_after := offset_eq after
  by_cases early : wall < moment + max before.shift after.shift
  · rw [if_pos early]
    split_ifs <;> rw [regimeAt _ (by omega) (by omega), if_pos (by omega)]
  · rw [if_neg early]
    split_ifs <;> rw [regimeAt _ (by omega) (by omega), if_neg (by omega)]

/-- What the clocks show at an instant of the day, and when that may be. -/
theorem dayAt_iff (around : zone.Around day moment before after) (orderly : zone.IsOrderly)
    {instant : Int} :
    zone.dayAt instant = day ↔
      (instant < moment ∧ day * Micros.perDay ≤ instant + before.shift ∧
        instant + before.shift < (day + 1) * Micros.perDay) ∨
      (moment ≤ instant ∧ day * Micros.perDay ≤ instant + after.shift ∧
        instant + after.shift < (day + 1) * Micros.perDay) := by
  obtain ⟨shortBefore, shortAfter⟩ := around.shift_bounds
  have shifted := @shiftAt _ _ _ _ _ around instant
  have short := orderly.shiftAt_short instant
  have reading : zone.reading instant = instant + zone.shiftAt instant := rfl
  rw [dayAt, Wall.day, reading]
  rw [perDay_eq] at *
  constructor
  · intro here
    have shift := shifted (by omega) (by omega)
    split at shift <;> omega
  · intro here
    have shift := shifted (by omega) (by omega)
    split at shift <;> omega

/-- A change of daylight saving near the day is the one around it. -/
theorem turns_iff (around : zone.Around day moment before after) {turn due shown : Int}
    (late : (day - 1) * Micros.perDay < turn) (early : turn < (day + 2) * Micros.perDay) :
    zone.Turns turn due shown ↔
      turn = moment ∧ before.saving ≠ after.saving ∧ due = moment + before.shift ∧
        shown = moment + after.shift := by
  have saving := around.savingAt (Int.le_of_lt late) early
  have savingBefore := around.savingAt (show (day - 1) * Micros.perDay ≤ turn - 1 by omega)
    (by omega)
  have shift : zone.shiftAt turn = _ := around.shiftAt (Int.le_of_lt late) early
  have shiftBefore : zone.shiftAt (turn - 1) = _ :=
    around.shiftAt (show (day - 1) * Micros.perDay ≤ turn - 1 by omega) (by omega)
  constructor
  · rintro ⟨differ, rfl, rfl⟩
    have same : turn = moment := by
      rw [saving, savingBefore] at differ
      split_ifs at differ <;> omega
    subst same
    rw [if_neg (by omega)] at saving shift
    rw [if_pos (by omega)] at savingBefore shiftBefore
    rw [saving, savingBefore] at differ
    refine ⟨rfl, differ, ?_, ?_⟩
    · exact congrArg (turn + ·) shiftBefore
    · exact congrArg (turn + ·) shift
  · rintro ⟨rfl, differ, rfl, rfl⟩
    rw [if_neg (by omega)] at saving shift
    rw [if_pos (by omega)] at savingBefore shiftBefore
    refine ⟨?_, ?_, ?_⟩
    · rwa [saving, savingBefore]
    · exact congrArg (turn + ·) shiftBefore.symm
    · exact congrArg (turn + ·) shift.symm

theorem variesOn_iff (around : zone.Around day moment before after) (orderly : zone.IsOrderly) :
    zone.VariesOn day ↔ before.saving ≠ after.saving ∧
      day * Micros.perDay < moment + before.shift ∧
      moment + after.shift < (day + 1) * Micros.perDay := by
  obtain ⟨shortBefore, shortAfter⟩ := around.shift_bounds
  have saving := @savingAt _ _ _ _ _ around
  have here := @dayAt_iff _ _ _ _ _ around orderly
  rw [perDay_eq] at *
  constructor
  · rintro ⟨first, second, onFirst, onSecond, differ⟩
    rw [here] at onFirst onSecond
    rw [saving (by omega) (by omega), saving (by omega) (by omega)] at differ
    split_ifs at differ with early late late
    · exact absurd rfl differ
    · exact ⟨differ, by omega, by omega⟩
    · exact ⟨differ.symm, by omega, by omega⟩
    · exact absurd rfl differ
  · rintro ⟨differ, ahead, behind⟩
    refine ⟨day * 86400000000 - before.shift, max moment (day * 86400000000 - after.shift),
      here.2 (.inl (by omega)), here.2 (.inr (by omega)), ?_⟩
    rwa [saving (by omega) (by omega), saving (by omega) (by omega), if_pos (by omega),
      if_neg (by omega)]

theorem changesSaving_iff (around : zone.Around day moment before after)
    (orderly : zone.IsOrderly) :
    Instant.changesSaving zone day = true ↔ before.saving ≠ after.saving ∧
      day * Micros.perDay < moment + max before.shift after.shift ∧
      moment + max before.shift after.shift ≤ day * Micros.perDay + 23 * Micros.perHour := by
  have hours : 23 * Micros.perHour = 82800000000 := by decide
  have start : zone.savingOfReading (day * Micros.perDay) = _ :=
    around.savingOfReading orderly (by rw [perDay_eq, perSecond_eq]; omega) (Int.le_refl _)
      (by rw [perDay_eq]; omega)
  have evening : zone.savingOfReading (day * Micros.perDay + 23 * Micros.perHour) = _ :=
    around.savingOfReading orderly (by rw [perDay_eq, perSecond_eq]; omega) (by omega)
      (by rw [perDay_eq]; omega)
  dsimp only [Instant.changesSaving]
  rw [bne_iff_ne, start, evening]
  split_ifs with midnight late late
  · simpa using fun _ _ => by omega
  · exact ⟨fun differ => ⟨differ, by omega, by omega⟩, fun ⟨differ, _⟩ => differ⟩
  · omega
  · simpa using fun _ _ => by omega

end Around

/-- A change of daylight saving moves the clocks between readings less than a day off. -/
theorem IsOrderly.turns_near {zone : Zone} (orderly : zone.IsOrderly) {turn due shown : Int}
    (turns : zone.Turns turn due shown) :
    turn - Micros.perDay < due ∧ due < turn + Micros.perDay ∧ turn - Micros.perDay < shown ∧
      shown < turn + Micros.perDay := by
  obtain ⟨-, dueAt, shownAt⟩ := turns
  have short := orderly.shiftAt_short turn
  have shortBefore := orderly.shiftAt_short (turn - 1)
  change due = turn + zone.shiftAt (turn - 1) at dueAt
  change shown = turn + zone.shiftAt turn at shownAt
  omega

namespace Around

variable {zone : Zone} {day moment : Int} {before after : Regime}

/-- What is known of the readings at a change near the day is known of the one around it. -/
theorem exists_turns_iff (around : zone.Around day moment before after) (orderly : zone.IsOrderly)
    {relevant : Int → Int → Prop}
    (near : ∀ due shown, relevant due shown →
      day * Micros.perDay < max due shown ∧ min due shown < (day + 1) * Micros.perDay) :
    (∃ turn due shown, zone.Turns turn due shown ∧ relevant due shown) ↔
      before.saving ≠ after.saving ∧ relevant (moment + before.shift) (moment + after.shift) := by
  obtain ⟨shortBefore, shortAfter⟩ := around.shift_bounds
  have turns := @turns_iff _ _ _ _ _ around
  have close := @IsOrderly.turns_near _ orderly
  rw [perDay_eq] at *
  constructor
  · rintro ⟨turn, due, shown, turning, holds⟩
    have bounds := close turning
    have here := near due shown holds
    obtain ⟨rfl, differ, rfl, rfl⟩ := (turns (by omega) (by omega)).1 turning
    exact ⟨differ, holds⟩
  · rintro ⟨differ, holds⟩
    have here := near _ _ holds
    exact ⟨moment, _, _, (turns (by omega) (by omega)).2 ⟨rfl, differ, rfl, rfl⟩, holds⟩

theorem skipsMidnight_iff (around : zone.Around day moment before after)
    (orderly : zone.IsOrderly) :
    zone.SkipsMidnight day ↔ before.saving ≠ after.saving ∧
      moment + before.shift ≤ day * Micros.perDay ∧ day * Micros.perDay < moment + after.shift ∧
      moment + after.shift ≤ day * Micros.perDay + 23 * Micros.perHour := by
  refine around.exists_turns_iff orderly fun due shown skipped => ?_
  rw [perDay_eq] at *
  omega

theorem turnsLate_iff (around : zone.Around day moment before after) (orderly : zone.IsOrderly) :
    zone.TurnsLate day ↔ before.saving ≠ after.saving ∧
      day * Micros.perDay < moment + before.shift ∧
      moment + after.shift < (day + 1) * Micros.perDay ∧
      day * Micros.perDay + 23 * Micros.perHour < max (moment + before.shift)
        (moment + after.shift) := by
  refine around.exists_turns_iff orderly fun due shown late => ?_
  rw [perDay_eq] at *
  omega

end Around

namespace IsOrderly

variable {zone : Zone} (orderly : zone.IsOrderly) (day : Int)
include orderly

/-- Of the days that are told, those that have no change of daylight saving are the ones whose
midnight was skipped. -/
theorem told_only_iff : Instant.changesSaving zone day = true ∧ ¬zone.VariesOn day ↔
    zone.SkipsMidnight day := by
  obtain ⟨moment, before, after, around⟩ := orderly.exists_around day
  obtain ⟨shortBefore, shortAfter⟩ := around.shift_bounds
  rw [around.changesSaving_iff orderly, around.variesOn_iff orderly,
    around.skipsMidnight_iff orderly]
  have hours : 23 * Micros.perHour = 82800000000 := by decide
  rw [perDay_eq] at *
  omega

/-- Of the days that are not told, those that have a change of daylight saving are the ones on which
it comes late. -/
theorem varies_only_iff : Instant.changesSaving zone day = false ∧ zone.VariesOn day ↔
    zone.TurnsLate day := by
  obtain ⟨moment, before, after, around⟩ := orderly.exists_around day
  obtain ⟨shortBefore, shortAfter⟩ := around.shift_bounds
  rw [← Bool.not_eq_true, around.changesSaving_iff orderly, around.variesOn_iff orderly,
    around.turnsLate_iff orderly]
  have hours : 23 * Micros.perHour = 82800000000 := by decide
  rw [perDay_eq] at *
  omega

end IsOrderly

end Zone

namespace Instant

theorem changesSavingOn_eq {assumed : Assumed} {zone : Zone} {value : Value} {day : Int}
    (place : assumed.place = .ok (.zone zone)) (dated : dayOf? value = some day) :
    changesSavingOn assumed value = .ok (changesSaving zone day) := by
  simp only [changesSavingOn, place, dated, bind, Except.bind]

/-- Whether daylight saving changes on a day is told right unless the change skips the midnight at
its start, which is told of a day that has no change, or comes late on the day, which is not told. -/
theorem savingDay_told {assumed : Assumed} {zone : Zone} {value : Value} {day : Int}
    (place : assumed.place = .ok (.zone zone)) (orderly : zone.IsOrderly)
    (dated : dayOf? value = some day) :
    ∃ told, changesSavingOn assumed value = .ok told ∧
      ((told = true ↔ zone.VariesOn day) ↔ ¬zone.SkipsMidnight day ∧ ¬zone.TurnsLate day) ∧
      (told = true ∧ ¬zone.VariesOn day ↔ zone.SkipsMidnight day) ∧
      (told = false ∧ zone.VariesOn day ↔ zone.TurnsLate day) := by
  refine ⟨_, changesSavingOn_eq place dated, ?_, orderly.told_only_iff day,
    orderly.varies_only_iff day⟩
  rw [← orderly.told_only_iff day, ← orderly.varies_only_iff day, ← Bool.not_eq_true]
  tauto

/-- In Brussels the clocks change early in the morning, and that is told. In São Paulo they went
back at the end of a day, which makes it a late change that is not told. -/
theorem savingDay_told_eitherWay :
    (changesSavingOn (.named "Europe/Brussels") (.date ⟨2024, 3, 31⟩) = .ok true ∧
      Zone.brussels.VariesOn 19813 ∧ ¬Zone.brussels.SkipsMidnight 19813) ∧
    changesSavingOn (.named "America/Sao_Paulo") (.date ⟨2018, 2, 17⟩) = .ok false ∧
      Zone.saoPaulo.VariesOn 17579 ∧ Zone.saoPaulo.TurnsLate 17579 := by
  have brussels : (Assumed.named "Europe/Brussels").place = .ok (.zone Zone.brussels) := rfl
  have saoPaulo : (Assumed.named "America/Sao_Paulo").place = .ok (.zone Zone.saoPaulo) := rfl
  have march : dayOf? (.date ⟨2024, 3, 31⟩) = some 19813 := rfl
  have february : dayOf? (.date ⟨2018, 2, 17⟩) = some 17579 := rfl
  have morning : Zone.brussels.VariesOn 19813 :=
    ⟨1711841400000000, 1711886400000000, by decide +kernel, by decide +kernel, by decide +kernel⟩
  have midnight : Zone.saoPaulo.VariesOn 17579 :=
    ⟨1518876000000000, 1518921000000000, by decide +kernel, by decide +kernel, by decide +kernel⟩
  obtain ⟨told, tells, -, skips, -⟩ :=
    savingDay_told brussels (Zone.known_isOrderly _ (by decide +kernel)) march
  obtain ⟨silent, silence, -, -, late⟩ :=
    savingDay_told saoPaulo (Zone.known_isOrderly _ (by decide +kernel)) february
  have yes : told = true := by
    cases (changesSavingOn_eq brussels march).symm.trans tells
    decide +kernel
  have no : silent = false := by
    cases (changesSavingOn_eq saoPaulo february).symm.trans silence
    decide +kernel
  subst yes no
  exact ⟨⟨tells, morning, fun skipped => (skips.2 skipped).2 morning⟩, silence, midnight,
    late.1 ⟨rfl, midnight⟩⟩

/-- The clocks of São Paulo went back at midnight from the 17th of February 2018 to the last hour of
the same day, which is not told. They leapt over the midnight of the 4th of November, which is told
though that day had daylight saving all along. -/
theorem savingDay_mistold :
    (changesSavingOn (.named "America/Sao_Paulo") (.date ⟨2018, 2, 17⟩) = .ok false ∧
      Zone.saoPaulo.VariesOn (Date.toDays ⟨2018, 2, 17⟩)) ∧
    changesSavingOn (.named "America/Sao_Paulo") (.date ⟨2018, 11, 4⟩) = .ok true ∧
      ¬Zone.saoPaulo.VariesOn (Date.toDays ⟨2018, 11, 4⟩) := by
  have place : (Assumed.named "America/Sao_Paulo").place = .ok (.zone Zone.saoPaulo) := rfl
  have silent : changesSaving Zone.saoPaulo (Date.toDays ⟨2018, 2, 17⟩) = false := by
    decide +kernel
  have told : changesSaving Zone.saoPaulo (Date.toDays ⟨2018, 11, 4⟩) = true := by decide +kernel
  have orderly := Zone.known_isOrderly Zone.saoPaulo (by decide +kernel)
  refine ⟨⟨?_, 1518876000000000, 1518921000000000, ?_⟩, ?_, ?_⟩
  · rw [changesSavingOn_eq place rfl, silent]
  · decide +kernel
  · rw [changesSavingOn_eq place rfl, told]
  · refine ((orderly.told_only_iff _).2
      ⟨1541300400000000, 1541289600000000, 1541293200000000, ?_, ?_⟩).2
    · exact ⟨by decide +kernel, by decide +kernel, by decide +kernel⟩
    · decide +kernel

end Instant

end CalendarSeries
