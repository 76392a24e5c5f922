import CalendarSeries.Proofs.Calendar.Years
import CalendarSeries.Proofs.Zone.Localize
/-!
A clock's reading taken apart into a date and a time of day, which make it up again.
-/
namespace CalendarSeries

open Timetable (perDay_eq)

/-- The date of a reading that can be written is one that the calendar has. -/
theorem Wall.date_isValid {wall : Int} (inRange : Wall.inRange wall = true) :
    (Wall.date wall).isValid = true := by
  have bounds := (Timetable.inRange_iff wall).1 inRange
  obtain ⟨low, high, first, last⟩ := Date.ofDays_proper (Wall.day wall)
  obtain ⟨begun, running⟩ := Date.ofDays_year_bounds (Wall.day wall)
  have opening : Date.newYear 1 = -719162 := by decide
  have closing : Date.newYear 10000 = 2932897 := by decide
  rw [Date.isValid_iff]
  refine ⟨⟨Int.not_lt.1 fun early => ?_, Int.not_lt.1 fun late => ?_⟩, ⟨low, high⟩, first, last⟩
  · have before := Date.newYear_le (show (Wall.date wall).year + 1 ≤ 1 from early)
    rw [Wall.day, perDay_eq] at running
    change _ < Date.newYear ((Wall.date wall).year + 1) at running
    omega
  · have after := Date.newYear_le (show 10000 ≤ (Wall.date wall).year from late)
    rw [Wall.day, perDay_eq] at begun
    change Date.newYear (Wall.date wall).year ≤ _ at begun
    omega

/-- What being a time of day comes to. -/
theorem TimeOfDay.isValid_iff {time : TimeOfDay} :
    time.isValid = true ↔
      time.hour < 24 ∧ time.minute < 60 ∧ time.second < 60 ∧ time.micro < 1000000 := by
  simp [isValid, and_assoc]

theorem TimeOfDay.micros_eq (time : TimeOfDay) :
    @Eq Int time.micros (time.hour * 3600000000 + time.minute * 60000000 +
      time.second * 1000000 + time.micro) := rfl

namespace Wall

theorem timeOfDay_isValid (wall : Int) : (timeOfDay wall).isValid = true := by
  rw [TimeOfDay.isValid_iff, timeOfDay, perDay_eq]
  dsimp only
  omega

/-- The time of day is what a reading has beyond whole days. -/
theorem micros_timeOfDay (wall : Int) :
    @Eq Int (timeOfDay wall).micros (wall % Micros.perDay) := by
  rw [TimeOfDay.micros_eq, timeOfDay, perDay_eq]
  dsimp only
  omega

/-- A date and a time of day make up the reading that they are taken from. -/
theorem of_date_timeOfDay (wall : Int) :
    @Eq Int (of (date wall).toDays (timeOfDay wall)) wall := by
  rw [of, micros_timeOfDay, date, Date.toDays_ofDays, day]
  exact Int.ediv_mul_add_emod wall Micros.perDay

end Wall

end CalendarSeries
