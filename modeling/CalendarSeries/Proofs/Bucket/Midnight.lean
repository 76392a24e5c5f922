import CalendarSeries.Proofs.Bucket.Bounds
import CalendarSeries.Proofs.Zone.Concord
/-!
Where a date begins: as the bound of a range, which a zone tells, and as the start of a local day or
month, which its timetable tells. The two are the same unless the clocks show the midnight twice.
-/
namespace CalendarSeries

open Timetable (perDay_eq perSecond_eq)

/-- The text of a date. -/
def Date.text (date : Date) : String :=
  String.ofList (Iso.dateText date)

/-- The milliseconds at which a date begins, as a zone tells them. -/
def Zone.begins (zone : Zone) (date : Date) : Int :=
  Instant.milliseconds (zone.instant (Wall.midnight date))

/-- The text of a date denotes the instant at which it begins by the assumed zone. -/
theorem Instant.ofValue_date {assumed : Assumed} {zone : Zone} {date : Date}
    (place : assumed.place = .ok (.zone zone)) (valid : date.isValid = true) :
    ofValue assumed (.text date.text) = .ok (zone.begins date) := by
  have reading : Iso.read (spellZulu (Text.strip date.text.toList)) =
      some ⟨Wall.midnight date, none⟩ := by
    rw [Date.text, String.toList_ofList, date.strip_dateText, date.spellZulu_dateText,
      Date.read_dateText valid]
  simp only [ofValue, Value.text?, readShown, reading, place]
  rfl

/-- A date that a zone and its timetable can both place: its midnight can be read, and around it the
two have the same offsets. -/
structure Zone.Settles (zone : Zone) (date : Date) : Prop where
  valid : date.isValid = true
  reads : (Timetable.ofZone zone).Reads (Wall.midnight date)
  agrees : zone.AgreesAround (.ofZone zone) (Wall.midnight date)

namespace Zone

variable {zone : Zone} {date : Date}

/-- Within the range of its timetable, a zone settles every date around whose midnight the two
agree. -/
theorem settles_of_agrees (valid : date.isValid = true)
    (late : Date.toDays ⟨1901, 12, 15⟩ ≤ date.toDays)
    (early : date.toDays ≤ Date.toDays ⟨2037, 12, 30⟩)
    (agrees : zone.AgreesAround (.ofZone zone) (Wall.midnight date)) : zone.Settles date where
  valid := valid
  reads := by
    have first : Date.toDays ⟨1901, 12, 15⟩ = -24854 := by decide
    have last : Date.toDays ⟨2037, 12, 30⟩ = 24835 := by decide
    change _ ∨ (_ ≤ date.toDays * Micros.perDay - _ ∧ date.toDays * Micros.perDay + _ ≤ _)
    rw [perDay_eq]
    omega
  agrees := agrees

theorem settles_recent (member : zone ∈ known) (valid : date.isValid = true)
    (late : Date.toDays ⟨1972, 1, 9⟩ ≤ date.toDays)
    (early : date.toDays ≤ Date.toDays ⟨2037, 12, 30⟩) : zone.Settles date :=
  settles_of_agrees valid (Int.le_trans (by decide) late) early
    (agreesAround_recent member late early)

/-- Within the range of its timetable, a zone settles every date around whose midnight its offsets
are whole minutes. -/
theorem settles_whole (charted : zone.IsCharted) (valid : date.isValid = true)
    (late : Date.toDays ⟨1901, 12, 15⟩ ≤ date.toDays)
    (early : date.toDays ≤ Date.toDays ⟨2037, 12, 30⟩)
    (whole : ∀ instant : Int, Wall.midnight date - Micros.perDay ≤ instant →
      instant ≤ Wall.midnight date + Micros.perDay →
      zone.offsetAt instant % Micros.perMinute = 0) : zone.Settles date := by
  have first : Date.toDays ⟨1901, 12, 15⟩ = -24854 := by decide
  have last : Date.toDays ⟨2037, 12, 30⟩ = Date.newYear (Timetable.lastYear + 1) - 2 := by decide
  have minute : Micros.perMinute = 60000000 := by decide
  refine settles_of_agrees valid late early
    (charted.orderly.agreesAround_of_whole ?_ ?_ ?_)
  · change _ ≤ date.toDays * Micros.perDay - Micros.perDay
    rw [perSecond_eq, perDay_eq, Timetable.opening]
    omega
  · change date.toDays * Micros.perDay + Micros.perDay < _
    rw [last] at early
    rw [perDay_eq]
    omega
  · intro instant after before
    have minutes : (zone.regimeAt (instant / Micros.perSecond)).offset * Micros.perSecond %
        Micros.perMinute = 0 := whole instant after before
    rw [minute, perSecond_eq] at minutes
    rw [perSecond_eq]
    omega

namespace Settles

/-- What a zone and its timetable make of the midnight of a date. -/
theorem midnight (settles : zone.Settles date) (charted : zone.IsCharted) :
    (Timetable.ofZone zone).localize (date.toDays * Micros.perDay) =
        some ((Timetable.ofZone zone).begins date * 1000) ∧
      (Timetable.ofZone zone).Denotes (date.toDays * Micros.perDay)
        ((Timetable.ofZone zone).begins date * 1000) ∧
      date.toDays * Micros.perDay - zone.shiftOf (date.toDays * Micros.perDay) =
        zone.begins date * 1000 := by
  obtain ⟨found, denotes⟩ := charted.table.localize_begins settles.reads
  refine ⟨found, denotes, ?_⟩
  change _ = Instant.milliseconds
    (date.toDays * Micros.perDay - zone.shiftOf (date.toDays * Micros.perDay)) * 1000
  rw [Instant.milliseconds_eq]
  unfold shiftOf Regime.shift
  rw [perSecond_eq, perDay_eq]
  omega

/-- A date begins no later by its zone than by the timetable, and at the same time unless the clocks
show its midnight twice. -/
theorem begins_le (settles : zone.Settles date) (charted : zone.IsCharted) :
    zone.begins date ≤ (Timetable.ofZone zone).begins date ∧
      (zone.begins date = (Timetable.ofZone zone).begins date ↔
        ¬zone.ShowsTwice (Wall.midnight date)) := by
  obtain ⟨-, denotes, given⟩ := settles.midnight charted
  obtain ⟨order, same, -⟩ :=
    charted.orderly.instant_le_denoted charted.table charted.once settles.agrees denotes
  rw [given] at order same
  refine ⟨by omega, Iff.trans ?_ same⟩
  omega

/-- Either way a date begins less than a day from its midnight, and the clocks have reached it. -/
theorem near (settles : zone.Settles date) (charted : zone.IsCharted) {start : Int}
    (begins : start = zone.begins date ∨ start = (Timetable.ofZone zone).begins date) :
    date.toDays * Micros.perDay - Micros.perDay < start * 1000 ∧
      start * 1000 < date.toDays * Micros.perDay + Micros.perDay ∧
      date.toDays * Micros.perDay ≤
        start * 1000 + (Timetable.ofZone zone).shiftAt (start * 1000) := by
  obtain ⟨-, denotes, given⟩ := settles.midnight charted
  rcases begins with rfl | rfl
  · obtain ⟨-, -, reached⟩ :=
      charted.orderly.instant_le_denoted charted.table charted.once settles.agrees denotes
    have short : -Micros.perDay < zone.shiftOf (date.toDays * Micros.perDay) ∧
        zone.shiftOf (date.toDays * Micros.perDay) < Micros.perDay := by
      rw [charted.orderly.shiftOf_eq (by rw [perDay_eq, perSecond_eq]; omega)]
      exact charted.orderly.shiftAt_short _
    rw [given] at reached
    rw [← agreesAround_iff.1 settles.agrees (zone.begins date * 1000)]
    · omega
    · change date.toDays * Micros.perDay - Micros.perDay ≤ _
      omega
    · change _ ≤ date.toDays * Micros.perDay + Micros.perDay
      omega
  · obtain ⟨after, before⟩ := denotes.bounds
    exact ⟨after, before, denotes.le_shown⟩

end Settles

end Zone

namespace Bucket

variable {zone : Zone} {name : String} {date next : Date}

/-- A local day goes from where its date begins to where the next one does. -/
theorem dayBoundsIn_eq (charted : zone.IsCharted) (settles : zone.Settles date)
    (following : zone.Settles next) (consecutive : next.toDays = date.toDays + 1) :
    dayBoundsIn (.ofZone zone) date =
      .ok ⟨(Timetable.ofZone zone).begins date, (Timetable.ofZone zone).begins next⟩ :=
  dayBoundsIn_begins charted.table settles.reads following.reads
    (Date.midnight_inRange following.valid) consecutive

/-- A local month goes from where its first day begins to where that of the next one does. -/
theorem monthBoundsIn_eq (charted : zone.IsCharted) (settles : zone.Settles { date with day := 1 })
    (following : zone.Settles date.nextMonth) :
    monthBoundsIn (.ofZone zone) date =
      .ok ⟨(Timetable.ofZone zone).begins { date with day := 1 },
        (Timetable.ofZone zone).begins date.nextMonth⟩ := by
  obtain ⟨⟨-, year⟩, -⟩ := Date.isValid_iff.1 following.valid
  exact monthBoundsIn_begins charted.table settles.valid settles.reads year

theorem dayBounds_along (found : Instant.exactZone name = .ok zone) (date : Date) :
    dayBounds name date = dayBoundsIn (.ofZone zone) date :=
  congrFun (dayBounds_eq (Zone.timetable_of_exactZone found)) date

theorem monthBounds_along (found : Instant.exactZone name = .ok zone) (date : Date) :
    monthBounds name date = monthBoundsIn (.ofZone zone) date :=
  congrFun (monthBounds_eq (Zone.timetable_of_exactZone found)) date

end Bucket

end CalendarSeries
