import CalendarSeries.Proofs.Outcome
import CalendarSeries.Proofs.Zone.Reading
import CalendarSeries.Proofs.Zone.Shown
/-!
A zone beside its timetable. From the opening of the timetable to the end of its last year the two
have the same offsets, up to whole minutes. Where they have the same offsets for a day before and
after a midnight, they give it the same instant unless the clocks show it twice: then the zone gives
the first instant and the timetable the last.
-/
namespace CalendarSeries

open Date (newYear)
open Timetable

namespace Footer

theorem turnsFrom_eq_flatMap (standard daylight : Regime) (onset finish : Int → Int) (year : Int)
    (count : Nat) :
    turnsFrom standard daylight onset finish year count =
      ((List.range count).map fun (k : Nat) => year + (k : Int)).flatMap fun year =>
        turns standard daylight (onset year) (finish year) := by
  induction count generalizing year with
  | zero => rfl
  | succ count ih =>
    rw [turnsFrom, ih, List.range_succ_eq_map, List.map_cons, List.flatMap_cons, List.map_map]
    congr 1
    · rw [Int.natCast_zero, Int.add_zero]
    · congr 1
      refine List.map_congr_left fun k _ => ?_
      simp only [Function.comp_apply, Nat.succ_eq_add_one, Int.natCast_add, Int.natCast_one]
      omega

theorem ruleChanges_eq (last : Int) (footer : Footer) :
    ruleChanges last footer = footer.changesAfter last lastYear := by
  cases footer with
  | fixed => rfl
  | yearly standard daylight start stop =>
    rw [changesAfter, rule, turnsFrom_eq_flatMap]
    rfl

end Footer

namespace Timetable

variable {first : Regime} {changes : List (Int × Regime)} {moment : Int}

theorem lastUpTo_map (f : Regime → Regime) :
    Zone.lastUpTo (f first) moment (changes.map fun (instant, regime) => (instant, f regime)) =
      f (Zone.lastUpTo first moment changes) := by
  induction changes generalizing first with
  | nil => rfl
  | cons change rest ih =>
    simp only [List.map_cons, Zone.lastUpTo]
    split
    · exact ih
    · rfl

theorem lastUpTo_closing (spaced : Zone.Spaced changes) (early : moment < closing) :
    Zone.lastUpTo first moment (changes.filter (·.1 < closing)) =
      Zone.lastUpTo first moment changes := by
  conv_rhs => rw [← spaced.split closing]
  rw [Zone.lastUpTo_append_ahead]
  intro change member
  have late := List.of_mem_filter member
  simp only [decide_eq_true_eq] at late
  omega

/-- Within the range of a timetable nothing is lost of a list of changes. -/
theorem lastUpTo_fromOpening (spaced : Zone.Spaced changes) (late : opening ≤ moment)
    (early : moment < closing) :
    Zone.lastUpTo first moment ((fromOpening first changes).filter (·.1 < closing)) =
      Zone.lastUpTo first moment changes := by
  have past : ∀ change ∈ changes.filter (·.1 < opening), change.1 ≤ moment := by
    intro change member
    have early := List.of_mem_filter member
    simp only [decide_eq_true_eq] at early
    omega
  have opens (regime : Regime) (rest : List (Int × Regime)) :
      ((opening, regime) :: rest).filter (·.1 < closing) =
        (opening, regime) :: rest.filter (·.1 < closing) :=
    List.filter_cons_of_pos (decide_eq_true (by decide : opening < closing))
  have split : Zone.lastUpTo first moment changes =
      Zone.lastUpTo (Zone.final first (changes.filter (·.1 < opening))) moment
        (changes.filter (opening ≤ ·.1)) := by
    conv_lhs => rw [← spaced.split opening]
    exact Zone.lastUpTo_append_past past
  have later := spaced.filter (opening ≤ ·.1)
  rw [split, fromOpening]
  rcases List.eq_nil_or_concat (changes.filter (·.1 < opening)) with
    none | ⟨others, ⟨last, regime⟩, listed⟩
  · rw [none, List.getLast?_nil]
    dsimp only
    split
    · rename_i nothing
      rw [List.isEmpty_iff.1 nothing]
      rfl
    · rw [opens, Zone.lastUpTo_cons_past late]
      exact lastUpTo_closing later early
  · rw [List.concat_eq_append] at listed
    rw [listed, List.getLast?_concat, Zone.final_append]
    dsimp only
    rw [opens, Zone.lastUpTo_cons_past late]
    exact lastUpTo_closing later early

theorem ofZone_eq (zone : Zone) :
    ofZone zone = ⟨wholeMinutes zone.first,
      ((fromOpening zone.first (zone.changesTo lastYear)).filter (·.1 < closing)).map
        fun (instant, regime) => (instant, wholeMinutes regime)⟩ := by
  unfold ofZone Zone.changesTo
  cases Zone.lastInstant zone.changes with
  | none => rfl
  | some last => simp only [Footer.ruleChanges_eq]

/-- From the opening of a zone's timetable to the end of its last year it has the regimes of the
zone, in whole minutes. -/
theorem ofZone_regime {zone : Zone} (orderly : zone.IsOrderly) (late : opening ≤ moment)
    (running : moment / 86400 < newYear (lastYear + 1)) :
    Zone.lastUpTo (ofZone zone).first moment (ofZone zone).changes =
      wholeMinutes (zone.regimeAt moment) := by
  have horizon : newYear (lastYear + 1) = 24837 := by decide
  rw [orderly.regimeAt_eq running, ofZone_eq, lastUpTo_map,
    lastUpTo_fromOpening (orderly.spaced_changesTo lastYear) late (by unfold closing; omega)]

/-- Whether each change that ends standard time shows every midnight once. -/
def MidnightsOnce : Regime → List (Int × Regime) → Prop
  | _, [] => True
  | before, (instant, after) :: rest =>
    (before.isStandard → ¬after.isStandard →
      (instant + before.offset - 1) / 86400 ≤ (instant + after.offset - 1) / 86400) ∧
      MidnightsOnce after rest

instance decidableMidnightsOnce :
    ∀ (before : Regime) (changes : List (Int × Regime)), Decidable (MidnightsOnce before changes)
  | _, [] => isTrue trivial
  | _, (_, after) :: rest =>
    have := decidableMidnightsOnce after rest
    inferInstanceAs (Decidable (_ ∧ _))

theorem ofZone_midnightsOnce :
    ∀ zone ∈ Zone.known, MidnightsOnce (ofZone zone).first (ofZone zone).changes := by
  decide +kernel

theorem midnight_once {earliest : Int} {before after : Regime} {instant : Int}
    (proceeds : Proceeds earliest first changes) (once : MidnightsOnce first changes)
    (ahead : Zone.lastUpTo first (instant - 1) changes = before)
    (behind : Zone.lastUpTo first instant changes = after) (differ : before ≠ after)
    (standard : before.isStandard) (saving : ¬after.isStandard) :
    (instant + before.offset - 1) / 86400 ≤ (instant + after.offset - 1) / 86400 := by
  induction changes generalizing earliest first with
  | nil => exact absurd (ahead.symm.trans behind) differ
  | cons change rest ih =>
    obtain ⟨moment, next⟩ := change
    obtain ⟨-, -, -, others⟩ := proceeds
    rcases Int.lt_trichotomy moment instant with past | rfl | later
    · rw [Zone.lastUpTo_cons_past (by omega)] at ahead behind
      exact ih others once.2 ahead behind
    · have positive : 0 < spacing := by decide
      rw [Zone.lastUpTo, if_neg (by omega)] at ahead
      rw [Zone.lastUpTo_cons_past (Int.le_refl _), lastUpTo_early others (by omega)] at behind
      subst ahead behind
      exact once.1 standard saving
    · rw [Zone.lastUpTo, if_neg (by omega)] at ahead behind
      exact absurd (ahead.symm.trans behind) differ

namespace ChangeAt

variable {table : Timetable} {before after : Regime}

/-- If the clocks show a midnight twice, the second time is not the only one out of standard
time. -/
theorem saving_or_standard (change : table.ChangeAt moment before after) (orderly : table.Orderly)
    (once : MidnightsOnce table.first table.changes) {day : Int}
    (reached : moment + after.shift ≤ day * Micros.perDay)
    (ahead : day * Micros.perDay < moment + before.shift) :
    ¬(before.isStandard ∧ ¬after.isStandard) := by
  rintro ⟨standard, saving⟩
  have earlier := change.ahead (moment - 1) (by rw [perDay_eq]; omega) (by omega)
  have later := change.behind moment (Int.le_refl _) (by rw [perDay_eq]; omega)
  have differ : before ≠ after := by
    rintro rfl
    omega
  have whole := change.whole_seconds differ
  have before_moment : (moment - 1) / Micros.perSecond = moment / Micros.perSecond - 1 := by
    rw [perSecond_eq] at whole ⊢
    omega
  rw [regimeAt, before_moment] at earlier
  have bounds := midnight_once orderly.proceeds once earlier later differ standard saving
  simp only [Regime.shift, perSecond_eq, perDay_eq] at *
  omega

end ChangeAt

end Timetable

namespace Zone

/-- Whether a zone and a timetable have the same offsets from a day before a reading to a day after
it. -/
def AgreesAround (zone : Zone) (table : Timetable) (wall : Micros) : Prop :=
  ∀ instant : Int, wall - Micros.perDay ≤ instant → instant ≤ wall + Micros.perDay →
    zone.offsetAt instant = table.offsetAt instant

/-- Whether the clocks of a zone show a reading twice. -/
def ShowsTwice (zone : Zone) (wall : Micros) : Prop :=
  ∃ first second : Int, first < second ∧ zone.reading first = wall ∧ zone.reading second = wall

/-- The offset at an instant. -/
def shiftAt (zone : Zone) (instant : Int) : Int :=
  (zone.regimeAt (instant / Micros.perSecond)).shift

/-- The offset behind a reading. -/
def shiftOf (zone : Zone) (wall : Int) : Int :=
  (zone.regimeOfReading (wall / Micros.perSecond)).shift

variable {zone : Zone} {wall : Int}

theorem agreesAround_iff {table : Timetable} :
    zone.AgreesAround table wall ↔ ∀ instant : Int, wall - Micros.perDay ≤ instant →
      instant ≤ wall + Micros.perDay → zone.shiftAt instant = table.shiftAt instant :=
  Iff.rfl

theorem showsTwice_iff :
    zone.ShowsTwice wall ↔ ∃ first second : Int, first < second ∧
      first + zone.shiftAt first = wall ∧ second + zone.shiftAt second = wall :=
  Iff.rfl

namespace IsOrderly

theorem shiftAt_short (orderly : zone.IsOrderly) (instant : Int) :
    -Micros.perDay < zone.shiftAt instant ∧ zone.shiftAt instant < Micros.perDay :=
  (orderly.regimeAt_isShort (instant / Micros.perSecond)).shift_bounds

/-- A reading in whole seconds is made under the offset at its instant under the greater of the
offsets a day before and a day after it. -/
theorem shiftOf_eq (orderly : zone.IsOrderly) (whole : wall % Micros.perSecond = 0) :
    zone.shiftOf wall = zone.shiftAt
      (wall - max (zone.shiftAt (wall - Micros.perDay)) (zone.shiftAt (wall + Micros.perDay))) := by
  have earlier : (wall - Micros.perDay) / Micros.perSecond =
      wall / Micros.perSecond - 86400 := by
    rw [perSecond_eq, perDay_eq] at *
    omega
  have later : (wall + Micros.perDay) / Micros.perSecond = wall / Micros.perSecond + 86400 := by
    rw [perSecond_eq, perDay_eq] at *
    omega
  unfold shiftOf shiftAt Regime.shift
  rw [orderly.regimeOfReading_eq, earlier, later]
  congr 3
  rw [perSecond_eq] at *
  omega

/-- Where the clocks stay as they are, a reading has one instant. -/
theorem shiftOf_steady (orderly : zone.IsOrderly) (whole : wall % Micros.perSecond = 0)
    {shift : Int} (short : -Micros.perDay < shift ∧ shift < Micros.perDay)
    (steady : ∀ instant : Int, wall - Micros.perDay ≤ instant → instant ≤ wall + Micros.perDay →
      zone.shiftAt instant = shift) :
    zone.shiftOf wall = shift ∧ ¬zone.ShowsTwice wall := by
  have day := perDay_eq
  constructor
  · rw [orderly.shiftOf_eq whole, steady (wall - Micros.perDay) (by omega) (by omega),
      steady (wall + Micros.perDay) (by omega) (by omega), steady _ (by omega) (by omega)]
  · rw [showsTwice_iff]
    rintro ⟨first, second, order, atFirst, atSecond⟩
    have shortFirst := orderly.shiftAt_short first
    have shortSecond := orderly.shiftAt_short second
    have shiftFirst := steady first (by omega) (by omega)
    have shiftSecond := steady second (by omega) (by omega)
    omega

/-- Around a change a reading counts as made before it as long as one of the two offsets leads to an
earlier instant, and it is shown twice where only the later one does. -/
theorem shiftOf_changing (orderly : zone.IsOrderly) (whole : wall % Micros.perSecond = 0)
    {moment before after : Int} (near : wall - Micros.perDay < moment)
    (soon : moment ≤ wall + Micros.perDay)
    (short : -Micros.perDay < before ∧ before < Micros.perDay)
    (shortAfter : -Micros.perDay < after ∧ after < Micros.perDay)
    (turning : ∀ instant : Int, wall - Micros.perDay ≤ instant → instant ≤ wall + Micros.perDay →
      zone.shiftAt instant = if instant < moment then before else after) :
    (zone.shiftOf wall = if moment + max before after ≤ wall then after else before) ∧
      (zone.ShowsTwice wall ↔ moment + after ≤ wall ∧ wall < moment + before) := by
  have day := perDay_eq
  constructor
  · rw [orderly.shiftOf_eq whole, turning (wall - Micros.perDay) (by omega) (by omega),
      turning (wall + Micros.perDay) (by omega) (by omega), if_pos near, if_neg (by omega),
      turning _ (by omega) (by omega)]
    by_cases passed : moment + max before after ≤ wall
    · rw [if_pos passed, if_neg (by omega)]
    · rw [if_neg passed, if_pos (by omega)]
  · rw [showsTwice_iff]
    constructor
    · rintro ⟨first, second, order, atFirst, atSecond⟩
      have shortFirst := orderly.shiftAt_short first
      have shortSecond := orderly.shiftAt_short second
      have shiftFirst := turning first (by omega) (by omega)
      have shiftSecond := turning second (by omega) (by omega)
      split at shiftFirst <;> split at shiftSecond <;> omega
    · rintro ⟨reached, ahead⟩
      refine ⟨wall - before, wall - after, by omega, ?_, ?_⟩
      · rw [turning _ (by omega) (by omega), if_pos (by omega)]
        omega
      · rw [turning _ (by omega) (by omega), if_neg (by omega)]
        omega

/-- Where a zone and its timetable agree around a midnight, they give it the same instant unless
the clocks show it twice; then the timetable gives the later one. At the instant that the zone
gives, the clocks have reached midnight. -/
theorem instant_le_denoted (orderly : zone.IsOrderly) {table : Timetable}
    (tableOrderly : table.Orderly) (once : MidnightsOnce table.first table.changes)
    {day instant : Int} (agrees : zone.AgreesAround table (day * Micros.perDay))
    (denotes : table.Denotes (day * Micros.perDay) instant) :
    day * Micros.perDay - zone.shiftOf (day * Micros.perDay) ≤ instant ∧
      (day * Micros.perDay - zone.shiftOf (day * Micros.perDay) = instant ↔
        ¬zone.ShowsTwice (day * Micros.perDay)) ∧
      zone.shiftOf (day * Micros.perDay) ≤
        zone.shiftAt (day * Micros.perDay - zone.shiftOf (day * Micros.perDay)) := by
  have whole : day * Micros.perDay % Micros.perSecond = 0 := by
    rw [perDay_eq, perSecond_eq]
    omega
  rw [agreesAround_iff] at agrees
  cases denotes with
  | steady short constant =>
    have steady (instant : Int) (late : day * Micros.perDay - Micros.perDay ≤ instant)
        (early : instant ≤ day * Micros.perDay + Micros.perDay) : zone.shiftAt instant = _ :=
      (agrees instant late early).trans (constant instant late early)
    obtain ⟨same, onceShown⟩ := orderly.shiftOf_steady whole short steady
    rw [same, steady _ (by omega) (by omega)]
    simp [onceShown]
  | @changing moment before after change near soon =>
    have settled : moment + after.shift ≤ day * Micros.perDay →
        day * Micros.perDay < moment + before.shift → ¬(before.isStandard ∧ ¬after.isStandard) :=
      change.saving_or_standard tableOrderly once
    have shortBefore := change.shortBefore.shift_bounds
    have shortAfter := change.shortAfter.shift_bounds
    have turning (instant : Int) (late : day * Micros.perDay - Micros.perDay ≤ instant)
        (early : instant ≤ day * Micros.perDay + Micros.perDay) :
        zone.shiftAt instant = if instant < moment then before.shift else after.shift :=
      (agrees instant late early).trans (change.shiftAt_near instant (by omega) (by omega))
    obtain ⟨same, twice⟩ := orderly.shiftOf_changing whole near soon shortBefore shortAfter turning
    rcases Int.lt_or_le (day * Micros.perDay) (moment + after.shift) with ahead | reached
    · rw [if_neg (by omega)] at same
      rw [same, twice, choice, if_neg fun both => absurd both.1 (by omega),
        turning _ (by omega) (by omega)]
      refine ⟨Int.le_refl _, by omega, ?_⟩
      split <;> omega
    · rcases Int.lt_or_le (day * Micros.perDay) (moment + before.shift) with again | passed
      · rw [if_neg (by omega)] at same
        rw [same, twice, choice, if_pos ⟨reached, .inr (settled reached again)⟩,
          turning _ (by omega) (by omega)]
        refine ⟨by omega, by omega, ?_⟩
        split <;> omega
      · rw [if_pos (by omega)] at same
        rw [same, twice, choice, if_pos ⟨reached, .inl passed⟩, turning _ (by omega) (by omega)]
        refine ⟨Int.le_refl _, by omega, ?_⟩
        split <;> omega

/-- Within the range of its timetable a zone agrees with it wherever its offsets are whole
minutes. -/
theorem agreesAround_of_whole (orderly : zone.IsOrderly)
    (late : opening * Micros.perSecond ≤ wall - Micros.perDay)
    (early : wall + Micros.perDay < newYear (lastYear + 1) * Micros.perDay)
    (whole : ∀ instant : Int, wall - Micros.perDay ≤ instant → instant ≤ wall + Micros.perDay →
      (zone.regimeAt (instant / Micros.perSecond)).offset % 60 = 0) :
    zone.AgreesAround (ofZone zone) wall := by
  rw [agreesAround_iff]
  intro instant after before
  have minutes := whole instant after before
  have same := ofZone_regime orderly
    (show opening ≤ instant / Micros.perSecond by simp only [perSecond_eq, perDay_eq] at *; omega)
    (by simp only [perSecond_eq, perDay_eq] at *; omega)
  rw [Timetable.shiftAt, Timetable.regimeAt, same, shiftAt, Regime.shift, Regime.shift,
    wholeMinutes]
  dsimp only
  congr 1
  omega

end IsOrderly

/-- Whether the offsets of a zone are whole minutes from a moment on. -/
def WholeSince (zone : Zone) (moment : Int) : Prop :=
  (lastUpTo zone.first moment (zone.changesTo lastYear)).offset % 60 = 0 ∧
    ∀ change ∈ zone.changesTo lastYear, moment < change.1 → change.2.offset % 60 = 0

instance (zone : Zone) (moment : Int) : Decidable (zone.WholeSince moment) :=
  inferInstanceAs (Decidable (_ ∧ _))

/-- The first day from which on all offsets are whole minutes. -/
def wholeFrom : Int :=
  Date.toDays ⟨1972, 1, 8⟩

theorem known_wholeSince : ∀ zone ∈ known, zone.WholeSince (wholeFrom * 86400) := by
  decide +kernel

theorem WholeSince.regimeAt_whole {moment instant : Int} (whole : zone.WholeSince moment)
    (orderly : zone.IsOrderly) (late : moment ≤ instant)
    (running : instant / 86400 < newYear (lastYear + 1)) :
    (zone.regimeAt instant).offset % 60 = 0 := by
  rw [orderly.regimeAt_eq running, (orderly.spaced_changesTo lastYear).lastUpTo_filter late]
  refine lastUpTo_of_forall (·.offset % 60 = 0) whole.1 fun change member => ?_
  obtain ⟨listed, after⟩ := List.mem_filter.1 member
  exact whole.2 change listed (of_decide_eq_true after)

theorem agreesAround_recent (member : zone ∈ known) {day : Int}
    (late : Date.toDays ⟨1972, 1, 9⟩ ≤ day) (early : day ≤ Date.toDays ⟨2037, 12, 30⟩) :
    zone.AgreesAround (ofZone zone) (day * Micros.perDay) := by
  have orderly := known_isOrderly zone member
  have first : Date.toDays ⟨1972, 1, 9⟩ = wholeFrom + 1 := by decide
  have last : Date.toDays ⟨2037, 12, 30⟩ = newYear (lastYear + 1) - 2 := by decide
  have range : opening < wholeFrom * 86400 := by decide
  rw [first] at late
  rw [last] at early
  apply orderly.agreesAround_of_whole
  · rw [perSecond_eq, perDay_eq]
    omega
  · rw [perDay_eq]
    omega
  · intro instant after before
    apply (known_wholeSince zone member).regimeAt_whole orderly
    · rw [perDay_eq] at *
      rw [perSecond_eq]
      omega
    · rw [perDay_eq] at *
      rw [perSecond_eq]
      omega

/-- A zone that goes with its timetable: both are in order, and no change of the timetable that ends
standard time shows a midnight twice. -/
structure IsCharted (zone : Zone) : Prop where
  orderly : zone.IsOrderly
  table : (ofZone zone).Orderly
  once : MidnightsOnce (ofZone zone).first (ofZone zone).changes

theorem known_isCharted (member : zone ∈ known) : zone.IsCharted :=
  ⟨known_isOrderly zone member, ofZone_orderly zone member, ofZone_midnightsOnce zone member⟩

/-- Every name that a zone is found under exactly has the timetable of that zone. -/
theorem known_timetable : ∀ zone ∈ known, timetable zone.name = .ok (ofZone zone) := by
  decide +kernel

theorem exactZone_known {name : String} (found : Instant.exactZone name = .ok zone) :
    zone ∈ known ∧ zone.name = name := by
  have named := mapError_succeeded found
  simp only [find] at named
  split at named
  · cases named
  split at named
  · cases named
  split at named
  · cases named
  split at named
  · cases named
  split at named
  · rename_i other same
    cases named
    exact ⟨List.mem_of_find?_eq_some same, by simpa using List.find?_some same⟩
  · cases named

/-- A zone that a name is found to be exactly has its own timetable under that name. -/
theorem timetable_of_exactZone {name : String} (found : Instant.exactZone name = .ok zone) :
    Bucket.timetable name = .ok (ofZone zone) := by
  obtain ⟨member, rfl⟩ := exactZone_known found
  rw [Bucket.timetable, known_timetable zone member]
  rfl

end Zone

end CalendarSeries
