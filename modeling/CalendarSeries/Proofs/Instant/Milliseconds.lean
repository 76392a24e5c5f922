import CalendarSeries.Proofs.Bucket.Step
import CalendarSeries.Proofs.Calendar.Counting
import CalendarSeries.Proofs.Calendar.Wall
import CalendarSeries.Proofs.Outcome
import Mathlib.Data.Rat.Floor
import Mathlib.Tactic.NormNum
/-!
Readings of clocks as whole milliseconds. A reading at a known offset lies at an exact distance
from the epoch, its days counted date by date, and its milliseconds are the floor of that distance,
before the epoch too. So they come in the order of the instants, and those of a reading that was
made of a number of milliseconds are that number.
-/
namespace CalendarSeries.Instant

open Timetable (perDay_eq)

/-- What a clock shows, where it is known how far the clock is ahead of universal time. -/
structure Moment where
  date : Date
  time : TimeOfDay
  place : Place
  offset : Micros
  onCalendar : date.isValid = true
  onClock : time.isValid = true
  known : Value.placeOffset? (Wall.of date.toDays time) place = some offset

theorem placeOffset?_placeOfOffset (wall offset : Micros) :
    Value.placeOffset? wall (placeOfOffset offset) = some offset := by
  unfold placeOfOffset
  split
  · rename_i zero
    rw [zero]
    rfl
  · rfl

namespace Moment

def wall (moment : Moment) : Micros :=
  Wall.of moment.date.toDays moment.time

def value (moment : Moment) : Value :=
  .moment moment.wall moment.place

/-- A moment lies so many milliseconds after the epoch, or before it if they are negative. -/
def IsAt (moment : Moment) (milliseconds : ℚ) : Prop :=
  ∃ days : Int, moment.date.IsDay days ∧
    milliseconds = days * 86400000 + moment.time.hour * 3600000 + moment.time.minute * 60000 +
      moment.time.second * 1000 + moment.time.micro / 1000 - moment.offset / 1000

/-- The moment of a reading that can be written, at a fixed offset. -/
def ofWall (wall offset : Micros) (inRange : Wall.inRange wall = true) : Moment where
  date := Wall.date wall
  time := Wall.timeOfDay wall
  place := placeOfOffset offset
  offset := offset
  onCalendar := Wall.date_isValid inRange
  onClock := Wall.timeOfDay_isValid wall
  known := placeOffset?_placeOfOffset _ offset

theorem wall_ofWall {wall offset : Micros} (inRange : Wall.inRange wall = true) :
    (ofWall wall offset inRange).wall = wall :=
  Wall.of_date_timeOfDay wall

variable (moment : Moment)

theorem ofReading_eq : ofReading moment.wall moment.place = moment.wall - moment.offset := by
  rw [ofReading, wall, moment.known]
  rfl

theorem isAt_iff (exact : ℚ) :
    moment.IsAt exact ↔ exact = ((moment.wall - moment.offset : Int) : ℚ) / ((1000 : Nat) : ℚ) := by
  have proper := Date.isProper_of_isValid moment.onCalendar
  simp only [IsAt, proper.isDay_iff, exists_eq_left, wall, Wall.of, TimeOfDay.micros_eq, perDay_eq]
  push_cast
  ring_nf

/-- A reading comes to the whole milliseconds up to its instant. -/
theorem ofValue_value (assumed : Assumed) :
    ofValue assumed moment.value = .ok ((moment.wall - moment.offset : Int) / 1000) := by
  have known := moment.known
  have placed : located assumed moment.place = .ok moment.place := by
    cases place : moment.place with
    | unknown =>
      rw [place] at known
      cases known
    | universal | offset | zone => rfl
  change (located assumed moment.place).map _ = _
  rw [placed, Except.map, ofReading_eq, milliseconds_eq]

theorem ofValue_floor (assumed : Assumed) {exact : ℚ} (lies : moment.IsAt exact) :
    ofValue assumed moment.value = .ok ⌊exact⌋ := by
  rw [ofValue_value, (moment.isAt_iff exact).1 lies, Rat.floor_intCast_div_natCast]
  rfl

end Moment

/-- What a number of milliseconds is made into shows its instant at a fixed offset. -/
theorem readingIn_shows {assumed : Assumed} {n : Int} {reading : Iso.Reading}
    (found : readingIn assumed n = .ok reading) :
    ∃ offset : Int, Wall.inRange reading.wall = true ∧
      reading = ⟨n * 1000 + offset, some offset⟩ := by
  obtain ⟨instant, within, found⟩ := bind_succeeded found
  obtain ⟨inRange, rfl⟩ := Bucket.ofMilliseconds_ok within
  obtain ⟨place, -, found⟩ := bind_succeeded found
  cases place with
  | unknown | universal =>
    cases found
    refine ⟨0, inRange, ?_⟩
    rw [Int.add_zero]
  | offset offset =>
    obtain ⟨wall, checked, rfl⟩ := map_succeeded found
    obtain ⟨shown, rfl⟩ := Bucket.checked_ok_iff.1 checked
    exact ⟨offset, shown, rfl⟩
  | zone zone =>
    obtain ⟨wall, checked, rfl⟩ := map_succeeded found
    obtain ⟨shown, rfl⟩ := Bucket.checked_ok_iff.1 checked
    exact ⟨_, shown, rfl⟩

theorem readingIn_universal_iff {n : Int} {reading : Iso.Reading} :
    readingIn .universal n = .ok reading ↔
      Wall.inRange (n * 1000) = true ∧ reading = ⟨n * 1000, some 0⟩ := by
  constructor
  · intro found
    obtain ⟨instant, within, found⟩ := bind_succeeded found
    obtain ⟨inRange, rfl⟩ := Bucket.ofMilliseconds_ok within
    cases found
    exact ⟨inRange, rfl⟩
  · rintro ⟨inRange, rfl⟩
    rw [readingIn, Bucket.ofMilliseconds_eq inRange]
    rfl

theorem exactZone_ok {name : String} {zone : Zone} (found : Zone.find name = .ok zone) :
    exactZone name = .ok zone := by
  rw [exactZone, found]
  rfl

/-- What a zone's clocks are ahead of universal time at an instant. A zone that is found by its name
is never a day ahead or behind. -/
inductive Assumed.HasOffset (instant : Micros) : Assumed → Micros → Prop
  | universal : HasOffset instant .universal 0
  | named {name : String} {zone : Zone} (found : Zone.find name = .ok zone) :
      HasOffset instant (.named name) (zone.offsetAt instant)
  | zone {zone : Zone} (short : (zone.regimeAt (instant / Micros.perSecond)).IsShort) :
      HasOffset instant (.zone zone) (zone.offsetAt instant)

theorem Assumed.HasOffset.readingIn_eq {assumed : Assumed} {n offset : Int}
    (ahead : assumed.HasOffset (n * 1000) offset)
    (inRange : Wall.inRange (n * 1000) = true)
    (shown : Wall.inRange (n * 1000 + offset) = true) :
    readingIn assumed n = .ok ⟨n * 1000 + offset, some offset⟩ := by
  cases ahead with
  | universal =>
    rw [readingIn_universal_iff]
    exact ⟨inRange, by rw [Int.add_zero]⟩
  | named found =>
    have checked := Bucket.checked_ok_iff.2 ⟨shown, rfl⟩
    simp only [readingIn, Bucket.ofMilliseconds_eq inRange, Assumed.place, exactZone_ok found,
      Except.map, bind, Except.bind, readingAt, Zone.reading, checked]
  | zone =>
    have checked := Bucket.checked_ok_iff.2 ⟨shown, rfl⟩
    simp only [readingIn, Bucket.ofMilliseconds_eq inRange, Assumed.place, Except.map, bind,
      Except.bind, readingAt, Zone.reading, checked]

/-- The milliseconds of a reading at a known offset are the floor of its one exact distance from the
epoch, so they keep the order of instants. A number of milliseconds is made into a reading if that
can be written, and the reading's milliseconds are the number. -/
theorem milliseconds_floor :
    (∀ moment : Moment, ∃ exact : ℚ, (∀ other, moment.IsAt other ↔ other = exact) ∧
      ∀ assumed, ofValue assumed moment.value = .ok ⌊exact⌋) ∧
    (∀ (moment later : Moment) (exact next : ℚ), moment.IsAt exact → later.IsAt next →
      exact ≤ next → ∀ assumed, ∃ first second : Int, ofValue assumed moment.value = .ok first ∧
        ofValue assumed later.value = .ok second ∧ first ≤ second) ∧
    (∀ n : Int, (∃ reading, readingIn .universal n = .ok reading) ↔
      Wall.inRange (n * 1000) = true) ∧
    (∀ (zone : Assumed) (n : Int) (reading : Iso.Reading), readingIn zone n = .ok reading →
      ∃ moment : Moment, reading = ⟨moment.wall, some moment.offset⟩ ∧
        moment.place = placeOfOffset moment.offset ∧ moment.IsAt n ∧
        ∀ assumed, ofValue assumed moment.value = .ok n) := by
  refine ⟨fun moment => ?_, fun moment later exact next lies follows order assumed => ?_,
    fun n => ?_, fun zone n reading found => ?_⟩
  · refine ⟨_, moment.isAt_iff, fun assumed => ?_⟩
    exact moment.ofValue_floor assumed ((moment.isAt_iff _).2 rfl)
  · exact ⟨_, _, moment.ofValue_floor assumed lies, later.ofValue_floor assumed follows,
      Int.floor_mono order⟩
  · simp only [readingIn_universal_iff, exists_and_left, exists_eq, and_true]
  · obtain ⟨offset, inRange, rfl⟩ := readingIn_shows found
    have wall : (Moment.ofWall (n * 1000 + offset) offset inRange).wall = n * 1000 + offset :=
      Moment.wall_ofWall inRange
    have lies : (Moment.ofWall _ offset inRange).IsAt n := by
      rw [Moment.isAt_iff, wall]
      change (n : ℚ) = ((n * 1000 + offset - offset : Int) : ℚ) / ((1000 : Nat) : ℚ)
      push_cast
      ring
    refine ⟨Moment.ofWall _ offset inRange, ?_, rfl, lies, fun assumed => ?_⟩
    · rw [wall]
      rfl
    · rw [Moment.ofValue_floor _ assumed lies, Int.floor_intCast]

/-- The last microsecond before the epoch, on a clock five and a half hours ahead. -/
def lastMicrosecond : Moment where
  date := ⟨1970, 1, 1⟩
  time := ⟨5, 29, 59, 999999⟩
  place := .offset 19800000000
  offset := 19800000000
  onCalendar := by decide
  onClock := by decide
  known := rfl

/-- Before the epoch too, a part of a millisecond counts as a whole one further back. -/
theorem milliseconds_floor_beforeEpoch :
    (∃ exact : ℚ, (∀ other, lastMicrosecond.IsAt other ↔ other = exact) ∧
      ofValue .universal lastMicrosecond.value = .ok ⌊exact⌋) ∧
    (lastMicrosecond.IsAt (-1 / 1000) ∧ (Moment.ofWall (-1) 0 (by decide)).IsAt (-1 / 1000) ∧
      ∃ first second : Int, ofValue .universal lastMicrosecond.value = .ok first ∧
        ofValue .universal (Moment.ofWall (-1) 0 (by decide)).value = .ok second ∧
        first ≤ second) ∧
    Wall.inRange (-1 * 1000) = true ∧ readingIn .universal (-1) = .ok ⟨-1000, some 0⟩ ∧
    ∃ moment : Moment, (⟨-1000, some 0⟩ : Iso.Reading) = ⟨moment.wall, some moment.offset⟩ ∧
      moment.place = placeOfOffset moment.offset ∧ moment.IsAt ((-1 : Int) : ℚ) ∧
      ofValue .universal moment.value = .ok (-1) := by
  obtain ⟨floors, ordered, made, back⟩ := milliseconds_floor
  have lies : lastMicrosecond.IsAt (-1 / 1000) := by
    rw [Moment.isAt_iff, show (lastMicrosecond.wall - lastMicrosecond.offset : Int) = -1 by decide]
    norm_num
  have also : (Moment.ofWall (-1) 0 (by decide)).IsAt (-1 / 1000) := by
    rw [Moment.isAt_iff, Moment.wall_ofWall]
    change (-1 / 1000 : ℚ) = ((-1 - 0 : Int) : ℚ) / ((1000 : Nat) : ℚ)
    norm_num
  have found : readingIn .universal (-1) = .ok ⟨-1000, some 0⟩ :=
    readingIn_universal_iff.2 ⟨by decide, rfl⟩
  obtain ⟨exact, only, comes⟩ := floors lastMicrosecond
  obtain ⟨moment, shows, placed, at_it, gives⟩ := back .universal (-1) _ found
  exact ⟨⟨exact, only, comes .universal⟩,
    ⟨lies, also, ordered _ _ _ _ lies also (le_refl _) .universal⟩,
    (made (-1)).1 ⟨_, found⟩, found, moment, shows, placed, at_it, gives .universal⟩

end CalendarSeries.Instant
