import CalendarSeries.Proofs.Calendar.Years
import CalendarSeries.Proofs.Zone.Changes
/-!
The yearly rule of a zone as a list of changes. Its two changes lie well inside their year and
months apart, so a list of them from any year on, year by year, tells what holds at an instant or
behind a reading as the rule does.
-/
namespace CalendarSeries

open Date (newYear)
open Timetable (spacing)

namespace YearlyMoment

/-- Whether a moment lies well inside its year. -/
structure IsInner (moment : YearlyMoment) : Prop where
  low : 2 ≤ moment.month
  high : moment.month ≤ 11
  week : moment.week ≤ 5
  second : -7 * 86400 ≤ moment.second ∧ moment.second ≤ 7 * 86400

instance (moment : YearlyMoment) : Decidable moment.IsInner :=
  decidable_of_iff (2 ≤ moment.month ∧ moment.month ≤ 11 ∧ moment.week ≤ 5 ∧
    -7 * 86400 ≤ moment.second ∧ moment.second ≤ 7 * 86400)
    ⟨fun ⟨low, high, week, second⟩ => ⟨low, high, week, second⟩,
      fun ⟨low, high, week, second⟩ => ⟨low, high, week, second⟩⟩

/-- The instant of a moment on a clock with the given regime. -/
def instantIn (moment : YearlyMoment) (regime : Regime) (year : Int) : Int :=
  moment.inYear year - regime.offset

theorem inYear_bounds {moment : YearlyMoment} (inner : moment.IsInner) (year : Int) :
    (Date.toDays ⟨year, moment.month, 1⟩ - 7) * 86400 ≤ moment.inYear year ∧
      moment.inYear year < (Date.toDays ⟨year, moment.month, 1⟩ + 42) * 86400 := by
  obtain ⟨-, -, week, second⟩ := inner
  have days := (Date.daysInMonth_bounds year moment.month).1
  unfold inYear
  dsimp only
  generalize Date.toDays ⟨year, moment.month, 1⟩ = first
  have lead : (moment.weekday + 13 - Date.weekday first) % 7 < 7 := Nat.mod_lt _ (by omega)
  split <;> omega

variable {moment later : YearlyMoment} {regime other : Regime}

theorem instantIn_bounds (inner : moment.IsInner) (short : regime.IsShort) (year : Int) :
    (newYear year + 15) * 86400 < moment.instantIn regime year ∧
      moment.instantIn regime year < (newYear (year + 1) - 15) * 86400 := by
  have inYear := inYear_bounds inner year
  have inside := Date.inner_month_bounds year inner.low inner.high
  unfold Regime.IsShort at short
  unfold instantIn
  omega

/-- Of two moments whose months lie apart, the one of the earlier month comes first. -/
theorem instantIn_apart (inner : moment.IsInner) (short : regime.IsShort)
    (innerLater : later.IsInner) (shortLater : other.IsShort)
    (apart : moment.month + 2 ≤ later.month) (year : Int) :
    moment.instantIn regime year + spacing ≤ later.instantIn other year := by
  have first := inYear_bounds inner year
  have second := inYear_bounds innerLater year
  have low := inner.low
  have high := innerLater.high
  have month := Date.month_order year (show 1 ≤ moment.month by omega) (Nat.le_refl _) (by omega)
  have next := Date.month_order year (show 1 ≤ moment.month + 1 by omega) apart (by omega)
  have days := (Date.daysInMonth_bounds year moment.month).1
  have nextDays := (Date.daysInMonth_bounds year (moment.month + 1)).1
  unfold Regime.IsShort at short shortLater
  unfold instantIn spacing
  omega

end YearlyMoment

namespace Footer

variable {standard daylight : Regime}

/-- The two changes of a year, in order. -/
def turns (standard daylight : Regime) (onset finish : Int) : List (Int × Regime) :=
  if onset < finish then [(onset, daylight), (finish, standard)]
  else [(finish, standard), (onset, daylight)]

/-- The changes of a number of years. -/
def turnsFrom (standard daylight : Regime) (onset finish : Int → Int) :
    Int → Nat → List (Int × Regime)
  | _, 0 => []
  | year, count + 1 =>
    turns standard daylight (onset year) (finish year) ++
      turnsFrom standard daylight onset finish (year + 1) count

theorem regime_of_mem_turnsFrom {onset finish : Int → Int} {year : Int} {count : Nat}
    {change : Int × Regime}
    (member : change ∈ turnsFrom standard daylight onset finish year count) :
    change.2 = standard ∨ change.2 = daylight := by
  induction count generalizing year with
  | zero => cases member
  | succ count ih =>
    rcases List.mem_append.1 member with first | others
    · unfold turns at first
      split at first <;> simp only [List.mem_cons, List.not_mem_nil, or_false] at first <;>
        rcases first with rfl | rfl <;> simp
    · exact ih others

/-- The regime at the turn of the year. -/
def winter (standard daylight : Regime) (isNorthern : Bool) : Regime :=
  if isNorthern then standard else daylight

/-- Two changes a year, well inside it and always in the same order. -/
structure Seasons (onset finish : Int → Int) (isNorthern : Bool) : Prop where
  onset_inside : ∀ year, (newYear year + 10) * 86400 < onset year ∧
    onset year < (newYear (year + 1) - 10) * 86400
  finish_inside : ∀ year, (newYear year + 10) * 86400 < finish year ∧
    finish year < (newYear (year + 1) - 10) * 86400
  northern : isNorthern = true → ∀ year, onset year + spacing ≤ finish year
  southern : isNorthern = false → ∀ year, finish year + spacing ≤ onset year

namespace Seasons

variable {onset finish : Int → Int} {isNorthern : Bool}

theorem turns_eq (seasons : Seasons onset finish isNorthern) (year : Int) :
    turns standard daylight (onset year) (finish year) =
      if isNorthern then [(onset year, daylight), (finish year, standard)]
      else [(finish year, standard), (onset year, daylight)] := by
  have positive : 0 < spacing := by decide
  unfold turns
  cases order : isNorthern with
  | true =>
    have apart := seasons.northern order year
    rw [if_pos (by omega), if_pos rfl]
  | false =>
    have apart := seasons.southern order year
    rw [if_neg (by omega), if_neg (by simp)]

theorem mem_turns (seasons : Seasons onset finish isNorthern) {year : Int} {change : Int × Regime}
    (member : change ∈ turns standard daylight (onset year) (finish year)) :
    (newYear year + 10) * 86400 < change.1 ∧ change.1 < (newYear (year + 1) - 10) * 86400 := by
  have start := seasons.onset_inside year
  have stop := seasons.finish_inside year
  unfold turns at member
  split at member <;> simp only [List.mem_cons, List.not_mem_nil, or_false] at member <;>
    rcases member with rfl | rfl <;> assumption

theorem mem_turnsFrom (seasons : Seasons onset finish isNorthern) {count : Nat} {year : Int}
    {change : Int × Regime}
    (member : change ∈ turnsFrom standard daylight onset finish year count) :
    (newYear year + 10) * 86400 < change.1 := by
  induction count generalizing year with
  | zero => cases member
  | succ count ih =>
    rcases List.mem_append.1 member with first | others
    · exact (seasons.mem_turns first).1
    · have later := ih others
      have next := Date.newYear_succ year
      omega

/-- A year begins and ends with the same regime. -/
theorem final_turns (seasons : Seasons onset finish isNorthern) (before : Regime) (year : Int) :
    Zone.final before (turns standard daylight (onset year) (finish year)) =
      winter standard daylight isNorthern := by
  rw [seasons.turns_eq]
  cases isNorthern <;> rfl

/-- The changes of a year tell what the rule does at every instant of it. -/
theorem lastUpTo_turns (seasons : Seasons onset finish isNorthern) (year moment : Int) :
    Zone.lastUpTo (winter standard daylight isNorthern) moment
        (turns standard daylight (onset year) (finish year)) =
      if isWithin (onset year) (finish year) moment then daylight else standard := by
  have positive : 0 < spacing := by decide
  rw [seasons.turns_eq]
  cases order : isNorthern with
  | true =>
    have apart := seasons.northern order year
    simp only [winter, if_true, Zone.lastUpTo, isWithin, if_pos (show onset year < finish year by
      omega), Bool.and_eq_true, decide_eq_true_eq]
    split_ifs <;> first | rfl | omega
  | false =>
    have apart := seasons.southern order year
    simp only [winter, Zone.lastUpTo, isWithin, if_neg (show ¬onset year < finish year by
      omega), Bool.not_eq_true', Bool.and_eq_false_iff, decide_eq_false_iff_not,
      Bool.false_eq_true, if_false]
    split_ifs <;> first | rfl | omega

/-- The changes from a year on tell what the rule does, up to the last year listed. -/
theorem lastUpTo_turnsFrom (seasons : Seasons onset finish isNorthern) {count : Nat}
    {year moment : Int} (begun : newYear year - 10 ≤ moment / 86400)
    (running : moment / 86400 < newYear (year + count)) :
    Zone.lastUpTo (winter standard daylight isNorthern) moment
        (turnsFrom standard daylight onset finish year count) =
      if isWithin (onset (Date.ofDays (moment / 86400)).year)
          (finish (Date.ofDays (moment / 86400)).year) moment then daylight else standard := by
  rcases Int.lt_or_le (moment / 86400) (newYear year) with before | started
  · -- late in the year before, both of its changes are past
    have last := Date.newYear_succ (year - 1)
    rw [Int.sub_add_cancel] at last
    have same : (Date.ofDays (moment / 86400)).year = year - 1 :=
      Date.ofDays_year_eq (by omega) (by rwa [Int.sub_add_cancel])
    rw [same, ← seasons.lastUpTo_turns, Zone.lastUpTo_ahead, Zone.lastUpTo_past,
      seasons.final_turns]
    · intro change member
      have early := (seasons.mem_turns member).2
      rw [Int.sub_add_cancel] at early
      omega
    · intro change member
      have later := seasons.mem_turnsFrom member
      omega
  · induction count generalizing year with
    | zero =>
      rw [Int.natCast_zero, Int.add_zero] at running
      omega
    | succ count ih =>
      rw [turnsFrom]
      rcases Int.lt_or_le (moment / 86400) (newYear (year + 1)) with within | after
      · rw [Date.ofDays_year_eq started within, ← seasons.lastUpTo_turns,
          Zone.lastUpTo_append_ahead]
        intro change member
        have later := seasons.mem_turnsFrom member
        omega
      · rw [Zone.lastUpTo_append_past, seasons.final_turns]
        · refine ih (by omega) ?_ after
          rwa [Int.add_assoc, Int.add_comm 1, ← Int.natCast_succ]
        · intro change member
          have early := (seasons.mem_turns member).2
          omega

theorem spaced_turnsFrom (seasons : Seasons onset finish isNorthern)
    (shortStandard : standard.IsShort) (shortDaylight : daylight.IsShort) (year : Int)
    (count : Nat) : Zone.Spaced (turnsFrom standard daylight onset finish year count) := by
  induction count generalizing year with
  | zero => exact .nil
  | succ count ih =>
    refine Zone.Spaced.append ?_ (ih (year + 1)) ?_
    · rw [seasons.turns_eq]
      cases order : isNorthern with
      | true =>
        simp [Zone.Spaced.cons_iff, Zone.Spaced.nil, shortStandard, shortDaylight,
          seasons.northern order year]
      | false =>
        simp [Zone.Spaced.cons_iff, Zone.Spaced.nil, shortStandard, shortDaylight,
          seasons.southern order year]
    · intro change member other later
      have early := (seasons.mem_turns member).2
      have late := seasons.mem_turnsFrom later
      unfold spacing
      omega

theorem mem_turnsFrom_year (seasons : Seasons onset finish isNorthern) {count : Nat} {year : Int}
    {change : Int × Regime}
    (member : change ∈ turnsFrom standard daylight onset finish year count) :
    change ∈ turns standard daylight (onset year) (finish year) ∨
      (newYear (year + 1) + 10) * 86400 < change.1 := by
  cases count with
  | zero => cases member
  | succ count => exact (List.mem_append.1 member).imp_right seasons.mem_turnsFrom

/-- On the wall every change comes later by the greater offset. -/
theorem wallChanges_turnsFrom (seasons : Seasons onset finish isNorthern) (year : Int)
    (count : Nat) :
    Zone.wallChanges (winter standard daylight isNorthern)
        (turnsFrom standard daylight onset finish year count) =
      turnsFrom standard daylight (onset · + max standard.offset daylight.offset)
        (finish · + max standard.offset daylight.offset) year count := by
  have positive : 0 < spacing := by decide
  induction count generalizing year with
  | zero => rfl
  | succ count ih =>
    rw [turnsFrom, turnsFrom, Zone.wallChanges_append, seasons.final_turns, ih, seasons.turns_eq]
    congr 1
    cases order : isNorthern with
    | true =>
      have apart := seasons.northern order year
      have later : onset year + max standard.offset daylight.offset <
          finish year + max standard.offset daylight.offset := by omega
      rw [turns, if_pos later]
      simp [winter, Zone.wallChanges, Int.max_comm]
    | false =>
      have apart := seasons.southern order year
      have earlier : ¬onset year + max standard.offset daylight.offset <
          finish year + max standard.offset daylight.offset := by omega
      rw [turns, if_neg earlier]
      simp [winter, Zone.wallChanges, Int.max_comm]

end Seasons

/-- A rule with short offsets whose two changes lie well inside the year and months apart. -/
structure IsRegular (standard daylight : Regime) (start stop : YearlyMoment) : Prop where
  shortStandard : standard.IsShort
  shortDaylight : daylight.IsShort
  innerStart : start.IsInner
  innerStop : stop.IsInner
  apart : start.month + 2 ≤ stop.month ∨ stop.month + 2 ≤ start.month

instance (standard daylight : Regime) (start stop : YearlyMoment) :
    Decidable (IsRegular standard daylight start stop) :=
  decidable_of_iff (standard.IsShort ∧ daylight.IsShort ∧ start.IsInner ∧ stop.IsInner ∧
    (start.month + 2 ≤ stop.month ∨ stop.month + 2 ≤ start.month))
    ⟨fun ⟨standard, daylight, start, stop, apart⟩ => ⟨standard, daylight, start, stop, apart⟩,
      fun ⟨standard, daylight, start, stop, apart⟩ => ⟨standard, daylight, start, stop, apart⟩⟩

/-- The changes of a rule in a number of years. -/
def rule (standard daylight : Regime) (start stop : YearlyMoment) (year : Int) (count : Nat) :
    List (Int × Regime) :=
  turnsFrom standard daylight (start.instantIn standard) (stop.instantIn daylight) year count

namespace IsRegular

variable {start stop : YearlyMoment}

/-- Whether daylight saving begins and ends in the same year. -/
def isNorthern (start stop : YearlyMoment) : Bool :=
  start.month < stop.month

theorem seasons (regular : IsRegular standard daylight start stop) (shift : Int)
    (low : -86400 < shift) (high : shift < 86400) :
    Seasons (start.instantIn standard · + shift) (stop.instantIn daylight · + shift)
      (isNorthern start stop) where
  onset_inside year := by
    have bounds := YearlyMoment.instantIn_bounds regular.innerStart regular.shortStandard year
    omega
  finish_inside year := by
    have bounds := YearlyMoment.instantIn_bounds regular.innerStop regular.shortDaylight year
    omega
  northern order year := by
    have months := regular.apart
    simp only [isNorthern, decide_eq_true_eq] at order
    have apart := YearlyMoment.instantIn_apart regular.innerStart regular.shortStandard
      regular.innerStop regular.shortDaylight (by omega) year
    omega
  southern order year := by
    have months := regular.apart
    simp only [isNorthern, decide_eq_false_iff_not] at order
    have apart := YearlyMoment.instantIn_apart regular.innerStop regular.shortDaylight
      regular.innerStart regular.shortStandard (by omega) year
    omega

theorem seasons_instants (regular : IsRegular standard daylight start stop) :
    Seasons (start.instantIn standard) (stop.instantIn daylight) (isNorthern start stop) := by
  simpa only [Int.add_zero] using regular.seasons 0 (by decide) (by decide)

/-- The listed changes of a rule tell what it does at an instant. -/
theorem atInstant_eq (regular : IsRegular standard daylight start stop) {instant : Int}
    (year : Int) (count : Nat) (begun : newYear year - 10 ≤ instant / 86400)
    (running : instant / 86400 < newYear (year + count)) :
    Zone.lastUpTo (winter standard daylight (isNorthern start stop)) instant
        (rule standard daylight start stop year count) =
      (yearly standard daylight start stop).atInstant instant :=
  regular.seasons_instants.lastUpTo_turnsFrom begun running

/-- The listed changes of a rule tell what it does behind a reading. -/
theorem atReading_eq (regular : IsRegular standard daylight start stop) {reading : Int}
    (year : Int) (count : Nat) (begun : newYear year - 10 ≤ reading / 86400)
    (running : reading / 86400 < newYear (year + count)) :
    Zone.lastUpTo (winter standard daylight (isNorthern start stop)) reading
        (Zone.wallChanges (winter standard daylight (isNorthern start stop))
          (rule standard daylight start stop year count)) =
      (yearly standard daylight start stop).atReading reading := by
  obtain ⟨standardLow, standardHigh⟩ := regular.shortStandard
  obtain ⟨daylightLow, daylightHigh⟩ := regular.shortDaylight
  rw [rule, regular.seasons_instants.wallChanges_turnsFrom,
    (regular.seasons _ (by omega) (by omega)).lastUpTo_turnsFrom begun running, atReading]
  congr 3
  · unfold YearlyMoment.instantIn lead
    omega
  · unfold YearlyMoment.instantIn lead
    omega

theorem spaced_rule (regular : IsRegular standard daylight start stop) (year : Int)
    (count : Nat) : Zone.Spaced (rule standard daylight start stop year count) :=
  regular.seasons_instants.spaced_turnsFrom regular.shortStandard regular.shortDaylight year count

end IsRegular

/-- The changes of a rule after the last listed change, up to the end of a year. -/
def changesAfter (last lastYear : Int) : Footer → List (Int × Regime)
  | .fixed _ => []
  | .yearly standard daylight start stop =>
    (rule standard daylight start stop (Date.ofDays (last / 86400)).year
      (lastYear - (Date.ofDays (last / 86400)).year + 1).toNat).filter (last < ·.1)

/-- Whether a footer takes up what a list of changes ended with, its last change being at `last`
and in effect on the wall from `shown` on. -/
def Follows (last shown : Int) (regime : Regime) : Footer → Prop
  | .fixed other => other = regime
  | .yearly standard daylight start stop =>
    IsRegular standard daylight start stop ∧
      (yearly standard daylight start stop).atInstant last = regime ∧
      ∀ change ∈ rule standard daylight start stop (Date.ofDays (last / 86400)).year 1,
        (change.1 ≤ last → change.1 + max standard.offset daylight.offset ≤ shown) ∧
          (last < change.1 → last + spacing ≤ change.1)

instance decidableFollows (last shown : Int) (regime : Regime) :
    ∀ footer : Footer, Decidable (footer.Follows last shown regime)
  | .fixed other => inferInstanceAs (Decidable (other = regime))
  | .yearly standard daylight start stop =>
    inferInstanceAs (Decidable (IsRegular standard daylight start stop ∧ _ ∧ _))

namespace Follows

variable {last shown : Int} {regime : Regime} {footer : Footer}

theorem changesAfter_late (follows : footer.Follows last shown regime) {lastYear : Int}
    {change : Int × Regime} (member : change ∈ footer.changesAfter last lastYear) :
    last + spacing ≤ change.1 := by
  cases footer with
  | fixed => cases member
  | yearly standard daylight start stop =>
    obtain ⟨regular, -, apart⟩ := follows
    obtain ⟨listed, late⟩ := List.mem_filter.1 member
    simp only [decide_eq_true_eq] at late
    rcases regular.seasons_instants.mem_turnsFrom_year listed with same | next
    · exact (apart change (List.mem_append_left _ same)).2 late
    · have within := (Date.ofDays_year_bounds (last / 86400)).2
      unfold spacing
      omega

theorem spaced_changesAfter (follows : footer.Follows last shown regime) (lastYear : Int) :
    Zone.Spaced (footer.changesAfter last lastYear) := by
  cases footer with
  | fixed => exact .nil
  | yearly standard daylight start stop => exact (follows.1.spaced_rule _ _).filter _

/-- The changes of the rule tell what the footer does after the last listed change. -/
theorem atInstant_eq (follows : footer.Follows last shown regime) {lastYear instant : Int}
    (late : last ≤ instant) (running : instant / 86400 < newYear (lastYear + 1)) :
    Zone.lastUpTo regime instant (footer.changesAfter last lastYear) =
      footer.atInstant instant := by
  cases footer with
  | fixed other => exact follows.symm
  | yearly standard daylight start stop =>
    obtain ⟨regular, same, -⟩ := follows
    have within := Date.ofDays_year_bounds (last / 86400)
    have order : last / 86400 ≤ instant / 86400 := by omega
    generalize year_eq : (Date.ofDays (last / 86400)).year = year at within
    have listed : year ≤ lastYear := by
      by_contra beyond
      have := Date.newYear_le (show lastYear + 1 ≤ year by omega)
      omega
    have horizon : year + ((lastYear - year + 1).toNat : Int) = lastYear + 1 := by omega
    rw [← regular.atInstant_eq year (lastYear - year + 1).toNat (by omega)
      (by rw [horizon]; omega)] at same ⊢
    rw [(regular.spaced_rule _ _).lastUpTo_filter late, same, changesAfter, year_eq]

/-- The changes of the rule tell what the footer does once the last listed change is in effect on
the wall. -/
theorem atReading_eq (follows : footer.Follows last shown regime) {lastYear reading : Int}
    (near : last - 86400 ≤ shown) (late : shown ≤ reading)
    (listed : (Date.ofDays (last / 86400)).year ≤ lastYear)
    (running : reading / 86400 < newYear (lastYear + 1)) :
    Zone.lastUpTo regime reading
        (Zone.wallChanges regime (footer.changesAfter last lastYear)) =
      footer.atReading reading := by
  cases footer with
  | fixed other => exact follows.symm
  | yearly standard daylight start stop =>
    obtain ⟨regular, same, turning⟩ := follows
    have within := Date.ofDays_year_bounds (last / 86400)
    generalize year_eq : (Date.ofDays (last / 86400)).year = year at within listed turning
    have horizon : year + ((lastYear - year + 1).toNat : Int) = lastYear + 1 := by omega
    have spaced := regular.spaced_rule year (lastYear - year + 1).toNat
    have mono := Date.newYear_le (show year + 1 ≤ lastYear + 1 by omega)
    rw [← regular.atInstant_eq year (lastYear - year + 1).toNat (by omega)
      (by rw [horizon]; omega)] at same
    rw [← regular.atReading_eq year (lastYear - year + 1).toNat (by omega)
      (by rw [horizon]; omega)]
    conv_rhs => rw [← spaced.split (last + 1), Zone.wallChanges_append]
    rw [Zone.lastUpTo_append_past, Zone.final_wallChanges, spaced.final_filter, same,
      changesAfter, year_eq]
    · rfl
    · -- what the rule changed up to `last` was in effect on the wall by then
      intro change member
      have greatest : (winter standard daylight (IsRegular.isNorthern start stop)).offset ≤
          max standard.offset daylight.offset := by
        unfold winter
        split <;> omega
      obtain ⟨turn, early, -, bound⟩ := Zone.exists_of_mem_wallChanges greatest
        (fun turn inside => by
          rcases regime_of_mem_turnsFrom (List.mem_of_mem_filter inside) with same | same <;>
            rw [same] <;> omega) member
      obtain ⟨inRule, past⟩ := List.mem_filter.1 early
      simp only [decide_eq_true_eq] at past
      rcases regular.seasons_instants.mem_turnsFrom_year inRule with first | later
      · have effective := (turning turn (List.mem_append_left _ first)).1 (by omega)
        omega
      · omega

end Follows

end Footer

end CalendarSeries
