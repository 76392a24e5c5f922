import CalendarSeries.Bucket.Calendar
/-!
Orderly timetables: every offset is shorter than a day, changes lie days apart, and a change sets
the clocks back by a day at most. Between two instants an orderly timetable either stays as it is or
has a first change, and around a change there is no other. The timetable of every known zone is
orderly.
-/
namespace CalendarSeries

namespace Regime

/-- Whether the offset is shorter than a day. -/
def IsShort (regime : Regime) : Prop :=
  -86400 < regime.offset ∧ regime.offset < 86400

instance (regime : Regime) : Decidable regime.IsShort :=
  inferInstanceAs (Decidable (_ ∧ _))

/-- The offset in microseconds. -/
def shift (regime : Regime) : Int :=
  regime.offset * Micros.perSecond

def isStandard (regime : Regime) : Bool :=
  regime.saving == 0

theorem IsShort.shift_bounds {regime : Regime} (short : regime.IsShort) :
    -Micros.perDay < regime.shift ∧ regime.shift < Micros.perDay := by
  unfold IsShort at short
  unfold shift Micros.perDay Micros.perHour Micros.perMinute Micros.perSecond
  omega

end Regime

namespace Timetable

/-- Changes of the clocks lie at least this many seconds apart. -/
def spacing : Int := 3 * 86400

/-- A change that sets the clocks back by a day at most, and shows no midnight twice if it ends
standard time. -/
def Gentle (instant : Int) (before after : Regime) : Prop :=
  before.offset - after.offset ≤ 86400 ∧
    (before.isStandard → ¬after.isStandard →
      (instant + before.offset - 1) / 86400 ≤ (instant + after.offset) / 86400)

instance (instant : Int) (before after : Regime) : Decidable (Gentle instant before after) :=
  inferInstanceAs (Decidable (_ ∧ _))

/-- Changes from `earliest` on that follow one another as they should. -/
def Proceeds : Int → Regime → List (Int × Regime) → Prop
  | _, _, [] => True
  | earliest, before, (instant, after) :: rest =>
    (earliest ≤ instant ∧ instant < closing) ∧ Gentle instant before after ∧ after.IsShort ∧
      Proceeds (instant + spacing) after rest

instance decidableProceeds :
    ∀ (earliest : Int) (before : Regime) (changes : List (Int × Regime)),
      Decidable (Proceeds earliest before changes)
  | _, _, [] => isTrue trivial
  | _, _, (instant, after) :: rest =>
    have := decidableProceeds (instant + spacing) after rest
    inferInstanceAs (Decidable (_ ∧ _ ∧ _ ∧ _))

/-- A timetable as those of all regions are. -/
structure Orderly (table : Timetable) : Prop where
  short : table.first.IsShort
  proceeds : Proceeds opening table.first table.changes

instance (table : Timetable) : Decidable table.Orderly :=
  decidable_of_iff (table.first.IsShort ∧ Proceeds opening table.first table.changes)
    ⟨fun ⟨short, proceeds⟩ => ⟨short, proceeds⟩, fun ⟨short, proceeds⟩ => ⟨short, proceeds⟩⟩

theorem ofZone_orderly : ∀ zone ∈ Zone.known, (ofZone zone).Orderly := by
  decide +kernel

/-- Whatever name a timetable is found under, it is orderly. -/
theorem orderly_of_name {name : String} {table : Timetable}
    (found : Bucket.timetable name = .ok table) : table.Orderly := by
  simp only [Bucket.timetable, Zone.timetable] at found
  split at found
  · cases found
  · split at found
    · rename_i zone member
      cases found
      exact ofZone_orderly zone (List.mem_of_find?_eq_some member)
    · cases found

theorem lastUpTo_short {earliest instant : Int} {before : Regime}
    {changes : List (Int × Regime)} (short : before.IsShort)
    (proceeds : Proceeds earliest before changes) :
    (Zone.lastUpTo before instant changes).IsShort := by
  induction changes generalizing earliest before with
  | nil => exact short
  | cons change rest ih =>
    obtain ⟨-, -, next, rest_proceeds⟩ := proceeds
    simp only [Zone.lastUpTo]
    split
    · exact ih next rest_proceeds
    · exact short

/-- A list of changes seen from the first change of a span on: the regime before it, the regime
after it, and nothing else nearby. -/
structure FirstChange (first : Regime) (changes : List (Int × Regime)) (start instant : Int)
    (after : Regime) : Prop where
  gentle : Gentle instant (Zone.lastUpTo first start changes) after
  short : after.IsShort
  ahead : ∀ moment, instant - spacing ≤ moment → moment < instant →
    Zone.lastUpTo first moment changes = Zone.lastUpTo first start changes
  behind : ∀ moment, instant ≤ moment → moment < instant + spacing →
    Zone.lastUpTo first moment changes = after

/-- Without changes before `earliest`, the regime up to there is the first one. -/
theorem lastUpTo_early {earliest instant : Int} {before : Regime}
    {changes : List (Int × Regime)} (proceeds : Proceeds earliest before changes)
    (early : instant < earliest) : Zone.lastUpTo before instant changes = before := by
  cases changes with
  | nil => rfl
  | cons change rest =>
    obtain ⟨⟨_, -⟩, -, -, -⟩ := proceeds
    have later : ¬change.1 ≤ instant := by omega
    simp only [Zone.lastUpTo, if_neg later]

theorem steady_or_firstChange {earliest : Int} {first : Regime}
    {changes : List (Int × Regime)} (start stop : Int)
    (proceeds : Proceeds earliest first changes) :
    (∀ moment, start ≤ moment → moment ≤ stop →
      Zone.lastUpTo first moment changes = Zone.lastUpTo first start changes) ∨
    ∃ instant after, start < instant ∧ instant ≤ stop ∧ earliest ≤ instant ∧ instant < closing ∧
      FirstChange first changes start instant after := by
  induction changes generalizing earliest first with
  | nil => exact .inl fun _ _ _ => rfl
  | cons change rest ih =>
    obtain ⟨instant, after⟩ := change
    obtain ⟨⟨begun, listed⟩, gentle, short, rest_proceeds⟩ := proceeds
    have past (moment : Int) (reached : instant ≤ moment) :
        Zone.lastUpTo first moment ((instant, after) :: rest) =
          Zone.lastUpTo after moment rest := by
      simp only [Zone.lastUpTo, if_pos reached]
    have ahead (moment : Int) (before : moment < instant) :
        Zone.lastUpTo first moment ((instant, after) :: rest) = first := by
      simp only [Zone.lastUpTo, if_neg (Int.not_le.2 before)]
    rcases Int.lt_or_le start instant with before | reached
    · rcases Int.lt_or_le stop instant with never | within
      · left
        intro moment from_start to_stop
        rw [ahead moment (by omega), ahead start before]
      · refine .inr ⟨instant, after, before, within, begun, listed, ?_, short, ?_, ?_⟩
        · rwa [ahead start before]
        · intro moment _ early
          rw [ahead moment early, ahead start before]
        · intro moment late soon
          rw [past moment late, lastUpTo_early rest_proceeds soon]
    · -- the head of the list is over, and all that follows lies a spacing later
      rw [past start reached]
      rcases ih rest_proceeds with steady | ⟨next, following, after_start, to_stop, apart, inside,
          nextGentle, nextShort, nextAhead, nextBehind⟩
      · left
        intro moment from_start to_stop
        rw [past moment (by omega), steady moment from_start to_stop]
      · have positive : 0 < spacing := by decide
        refine .inr ⟨next, following, after_start, to_stop, by omega, inside, ?_, nextShort,
          ?_, ?_⟩
        · rwa [past start reached]
        · intro moment late early
          rw [past moment (by omega), past start reached, nextAhead moment late early]
        · intro moment late early
          rw [past moment (by omega), nextBehind moment late early]

/-- A change of the clocks, with no other within three days before and after it. -/
structure ChangeAt (table : Timetable) (moment : Int) (before after : Regime) : Prop where
  listed : opening * Micros.perSecond ≤ moment ∧ moment < closing * Micros.perSecond
  shortBefore : before.IsShort
  shortAfter : after.IsShort
  ahead : ∀ instant : Int, moment - 3 * Micros.perDay ≤ instant → instant < moment →
    table.regimeAt instant = before
  behind : ∀ instant : Int, moment ≤ instant → instant < moment + 3 * Micros.perDay →
    table.regimeAt instant = after
  setback : before.shift - after.shift ≤ Micros.perDay
  midnightOnce : before.isStandard → ¬after.isStandard → ∀ day : Int,
    moment + after.shift < day * Micros.perDay → moment + before.shift ≤ day * Micros.perDay

namespace Orderly

variable {table : Timetable}

theorem regimeAt_short (orderly : table.Orderly) (instant : Int) :
    (table.regimeAt instant).IsShort :=
  lastUpTo_short orderly.short orderly.proceeds

/-- Between two instants the clocks stay as they are, or there is a first change. -/
theorem steady_or_change (orderly : table.Orderly) (start stop : Int) :
    (∀ instant : Int, start ≤ instant → instant ≤ stop →
      table.regimeAt instant = table.regimeAt start) ∨
    ∃ (moment : Int) (after : Regime), start < moment ∧ moment ≤ stop ∧
      table.ChangeAt moment (table.regimeAt start) after := by
  rcases steady_or_firstChange (start / 1000000) (stop / 1000000) orderly.proceeds with
    steady | ⟨instant, after, after_start, to_stop, begun, inside, gentle, short, ahead, behind⟩
  · left
    intro instant from_start to_stop
    exact steady _ (by simp only [Micros.perSecond]; omega)
      (by simp only [Micros.perSecond]; omega)
  · refine .inr ⟨instant * 1000000, after, by omega, by omega, ?_⟩
    obtain ⟨setback, midnight⟩ := gentle
    constructor
    · simp only [Micros.perSecond]
      omega
    · exact orderly.regimeAt_short start
    · exact short
    · intro moment late early
      simp only [Micros.perDay, Micros.perHour, Micros.perMinute, Micros.perSecond] at late
      exact ahead _ (by simp only [Micros.perSecond, spacing]; omega)
        (by simp only [Micros.perSecond]; omega)
    · intro moment late early
      simp only [Micros.perDay, Micros.perHour, Micros.perMinute, Micros.perSecond] at early
      exact behind _ (by simp only [Micros.perSecond]; omega)
        (by simp only [Micros.perSecond, spacing]; omega)
    · change _ - after.offset ≤ 86400 at setback
      simp only [Regime.shift, regimeAt, Micros.perDay, Micros.perHour, Micros.perMinute,
        Micros.perSecond] at setback ⊢
      omega
    · intro standard saving day between
      have days := midnight standard saving
      simp only [Regime.shift, regimeAt, Micros.perDay, Micros.perHour, Micros.perMinute,
        Micros.perSecond] at between days ⊢
      omega

end Orderly

end Timetable

end CalendarSeries
