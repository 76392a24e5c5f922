import CalendarSeries.Proofs.Zone.Footer
/-!
The regime behind a reading of a zone's wall clock. Where the footer takes up what the listed
changes ended with, a zone is as good as one list of changes to the end of any year. So a reading is
made under the offset at its instant under the greater of the offsets a day before and after it.
-/
namespace CalendarSeries.Zone

open Date (newYear)
open Timetable (spacing)

/-- The listed changes with those of the yearly rule, up to the end of a year. -/
def changesTo (zone : Zone) (lastYear : Int) : List (Int × Regime) :=
  zone.changes ++
    match lastInstant zone.changes with
    | some last => zone.footer.changesAfter last lastYear
    | none => []

/-- Whether the footer takes up what holds after the last listed change, if there is one. -/
def TakesUp (zone : Zone) : Option (Int × Regime) → Prop
  | none => zone.footer = .fixed zone.first
  | some (last, regime) =>
    zone.footer.Follows last
      (last + max (final zone.first zone.changes.dropLast).offset regime.offset) regime

instance decidableTakesUp (zone : Zone) : ∀ change, Decidable (zone.TakesUp change)
  | none => inferInstanceAs (Decidable (zone.footer = .fixed zone.first))
  | some (_, _) => Footer.decidableFollows _ _ _ _

/-- A zone as those of all regions are. -/
structure IsOrderly (zone : Zone) : Prop where
  short : zone.first.IsShort
  spaced : Spaced zone.changes
  takesUp : zone.TakesUp zone.changes.getLast?

instance (zone : Zone) : Decidable zone.IsOrderly :=
  decidable_of_iff (zone.first.IsShort ∧ Spaced zone.changes ∧ zone.TakesUp zone.changes.getLast?)
    ⟨fun ⟨short, spaced, takesUp⟩ => ⟨short, spaced, takesUp⟩,
      fun ⟨short, spaced, takesUp⟩ => ⟨short, spaced, takesUp⟩⟩

theorem known_isOrderly : ∀ zone ∈ known, zone.IsOrderly := by
  decide +kernel

theorem select_concat (first regime after : Regime) (changes : List (Int × Regime))
    (last moment : Int) :
    select first (changes ++ [(last, regime)]) moment after =
      if last < moment then after
      else lastUpTo first moment (changes ++ [(last, regime)]) := by
  simp [select, lastInstant]

namespace IsOrderly

variable {zone : Zone}

/-- The clocks of a zone never changed, or its footer follows the last listed change. -/
theorem fixed_or_follows (orderly : zone.IsOrderly) :
    (zone.changes = [] ∧ zone.footer = .fixed zone.first) ∨
    ∃ changes last regime, zone.changes = changes ++ [(last, regime)] ∧
      (∀ change ∈ zone.changes, change.1 ≤ last) ∧ final zone.first zone.changes = regime ∧
      zone.footer.Follows last (last + max (final zone.first changes).offset regime.offset)
        regime := by
  have takesUp := orderly.takesUp
  have spaced := orderly.spaced
  rcases List.eq_nil_or_concat zone.changes with none | ⟨changes, ⟨last, regime⟩, listed⟩
  · rw [none] at takesUp
    exact .inl ⟨none, takesUp⟩
  · rw [List.concat_eq_append] at listed
    rw [listed, List.getLast?_concat] at takesUp
    simp only [TakesUp, listed, List.dropLast_concat] at takesUp
    refine .inr ⟨changes, last, regime, listed, ?_, ?_, takesUp⟩
    · rw [listed] at spaced ⊢
      have positive : 0 < spacing := by decide
      intro change member
      rcases List.mem_append.1 member with earlier | same
      · have apart := (List.pairwise_append.1 spaced.apart).2.2 change earlier _
          List.mem_cons_self
        dsimp only at apart
        omega
      · rw [List.mem_singleton.1 same]
    · rw [listed, final_append]
      rfl

theorem changesTo_nil (none : zone.changes = []) (lastYear : Int) :
    zone.changesTo lastYear = [] := by
  rw [changesTo, none]
  rfl

theorem changesTo_concat {changes : List (Int × Regime)} {last : Int} {regime : Regime}
    (listed : zone.changes = changes ++ [(last, regime)]) (lastYear : Int) :
    zone.changesTo lastYear = zone.changes ++ zone.footer.changesAfter last lastYear := by
  simp [changesTo, lastInstant, listed]

theorem spaced_changesTo (orderly : zone.IsOrderly) (lastYear : Int) :
    Spaced (zone.changesTo lastYear) := by
  rcases orderly.fixed_or_follows with ⟨none, -⟩ | ⟨changes, last, regime, listed, past, -, follows⟩
  · rw [changesTo_nil none]
    exact .nil
  · rw [changesTo_concat listed]
    refine orderly.spaced.append (follows.spaced_changesAfter lastYear) ?_
    intro change member other later
    have early := past change member
    have late := follows.changesAfter_late later
    omega

/-- The changes to the end of a year tell the regime at every instant up to then. -/
theorem regimeAt_eq (orderly : zone.IsOrderly) {lastYear instant : Int}
    (running : instant / 86400 < newYear (lastYear + 1)) :
    zone.regimeAt instant = lastUpTo zone.first instant (zone.changesTo lastYear) := by
  rcases orderly.fixed_or_follows with
    ⟨none, fixed⟩ | ⟨changes, last, regime, listed, past, ended, follows⟩
  · rw [changesTo_nil none, regimeAt, none, fixed]
    rfl
  · rw [changesTo_concat listed, regimeAt, listed, select_concat, ← listed]
    split
    · rename_i late
      rw [lastUpTo_append_past, ended, follows.atInstant_eq (by omega) running]
      intro change member
      have early := past change member
      omega
    · rename_i early
      rw [lastUpTo_append_ahead]
      intro change member
      have late := follows.changesAfter_late member
      unfold spacing at late
      omega

/-- No listed change takes effect on the wall later than the last one. -/
theorem shown_le_last (orderly : zone.IsOrderly) {changes : List (Int × Regime)} {last : Int}
    {regime : Regime} (listed : zone.changes = changes ++ [(last, regime)])
    {shown : Int × Regime} (member : shown ∈ wallChanges zone.first zone.changes) :
    shown.1 ≤ last + max (final zone.first changes).offset regime.offset := by
  have spaced := orderly.spaced
  rw [listed] at spaced
  rw [listed, wallChanges_append] at member
  rcases List.mem_append.1 member with earlier | same
  · obtain ⟨change, inside, -, bound⟩ := exists_of_mem_wallChanges
      (Int.le_of_lt orderly.short.2) (fun change inside =>
        Int.le_of_lt (spaced.short change (List.mem_append_left _ inside)).2) earlier
    have apart := (List.pairwise_append.1 spaced.apart).2.2 change inside _ List.mem_cons_self
    have low := (spaced.short (last, regime) (List.mem_append_right _ List.mem_cons_self)).1
    unfold spacing at apart
    dsimp only at apart low
    omega
  · rw [wallChanges, wallChanges, List.mem_singleton] at same
    rw [same]

/-- A change of the yearly rule takes effect on the wall more than a day after the last listed
one. -/
theorem last_lt_shown {last shownLast lastYear : Int} {regime : Regime} {footer : Footer}
    (follows : footer.Follows last shownLast regime) (short : regime.IsShort)
    {shown : Int × Regime}
    (member : shown ∈ wallChanges regime (footer.changesAfter last lastYear)) :
    last + 86400 < shown.1 := by
  have spaced := follows.spaced_changesAfter lastYear
  obtain ⟨change, inside, bound, -⟩ := exists_of_mem_wallChanges (Int.le_of_lt short.2)
    (fun change inside => Int.le_of_lt (spaced.short change inside).2) member
  have late := follows.changesAfter_late inside
  have low := (spaced.short change inside).1
  unfold spacing at late
  omega

/-- The changes to the end of a year tell the regime behind every reading up to then. -/
theorem regimeOfReading_eq_lastUpTo (orderly : zone.IsOrderly) {lastYear reading : Int}
    (listedYear : ∀ last, lastInstant zone.changes = some last →
      (Date.ofDays (last / 86400)).year ≤ lastYear)
    (running : reading / 86400 < newYear (lastYear + 1)) :
    zone.regimeOfReading reading =
      lastUpTo zone.first reading (wallChanges zone.first (zone.changesTo lastYear)) := by
  rcases orderly.fixed_or_follows with
    ⟨none, fixed⟩ | ⟨changes, last, regime, listed, past, ended, follows⟩
  · rw [changesTo_nil none, regimeOfReading, none, fixed]
    rfl
  · have short : regime.IsShort := by
      rw [← ended]
      exact final_of_forall orderly.short orderly.spaced.short
    have onWall : wallChanges zone.first zone.changes = wallChanges zone.first changes ++
        [(last + max (final zone.first changes).offset regime.offset, regime)] := by
      rw [listed, wallChanges_append]
      rfl
    rw [changesTo_concat listed, regimeOfReading, onWall, select_concat, ← onWall,
      wallChanges_append, ended]
    split
    · rename_i late
      have lastYear := listedYear last (by simp [lastInstant, listed])
      have low := short.1
      rw [lastUpTo_append_past, final_wallChanges, ended,
        follows.atReading_eq (by omega) (Int.le_of_lt late) lastYear running]
      exact fun shown member =>
        Int.le_of_lt (Int.lt_of_le_of_lt (orderly.shown_le_last listed member) late)
    · rename_i early
      have shortBefore : (final zone.first changes).IsShort := by
        refine final_of_forall orderly.short fun change member => orderly.spaced.short change ?_
        rw [listed]
        exact List.mem_append_left _ member
      have highBefore := shortBefore.2
      have high := short.2
      rw [lastUpTo_append_ahead]
      intro shown member
      have late := last_lt_shown follows short member
      omega

theorem regimeAt_isShort (orderly : zone.IsOrderly) (instant : Int) :
    (zone.regimeAt instant).IsShort := by
  have running := (Date.ofDays_year_bounds (instant / 86400)).2
  rw [orderly.regimeAt_eq running]
  exact lastUpTo_of_forall Regime.IsShort orderly.short (orderly.spaced_changesTo _).short

/-- A reading is made under the offset at its instant under the greater of the offsets a day before
and a day after it. -/
theorem regimeOfReading_eq (orderly : zone.IsOrderly) (reading : Int) :
    zone.regimeOfReading reading =
      zone.regimeAt (reading - max (zone.regimeAt (reading - 86400)).offset
        (zone.regimeAt (reading + 86400)).offset) := by
  obtain ⟨lastYear, running, listedYear⟩ : ∃ lastYear,
      (reading + 86400) / 86400 < newYear (lastYear + 1) ∧
      ∀ last, lastInstant zone.changes = some last →
        (Date.ofDays (last / 86400)).year ≤ lastYear := by
    have running := (Date.ofDays_year_bounds ((reading + 86400) / 86400)).2
    cases lastInstant zone.changes with
    | none => exact ⟨_, running, by simp⟩
    | some last =>
      refine ⟨max (Date.ofDays ((reading + 86400) / 86400)).year
        (Date.ofDays (last / 86400)).year, ?_, ?_⟩
      · refine Int.lt_of_lt_of_le running (Date.newYear_le ?_)
        omega
      · intro other same
        cases same
        omega
  have lowBefore := (orderly.regimeAt_isShort (reading - 86400)).1
  have lowAfter := (orderly.regimeAt_isShort (reading + 86400)).1
  rw [orderly.regimeOfReading_eq_lastUpTo listedYear (by omega),
    lastUpTo_wallChanges orderly.short (orderly.spaced_changesTo lastYear),
    orderly.regimeAt_eq (by omega : (reading - max _ _) / 86400 < newYear (lastYear + 1))]
  rw [orderly.regimeAt_eq (by omega : (reading - 86400) / 86400 < newYear (lastYear + 1)),
    orderly.regimeAt_eq running]

end IsOrderly

end CalendarSeries.Zone
