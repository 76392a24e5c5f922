import CalendarSeries.Proofs.Bucket.Run
import CalendarSeries.Proofs.Outcome
import Mathlib.Data.List.Chain
/-!
Cutting a range into buckets ends, and the buckets tile the range: they begin where it begins, end
where it ends, and each ends where the next begins. This holds of every orderly timetable, hence of
every known zone, as long as the readings on the way can be written.
-/
namespace CalendarSeries.Bucket

open Timetable

/-- Buckets without gaps and overlaps from `start` to `stop`. None is empty, except for the one
bucket of an empty range. -/
structure Tiling (start stop : Int) (buckets : List Bucket) : Prop where
  first : buckets.head?.map Bucket.start = some start
  last : buckets.getLast?.map Bucket.stop = some stop
  joined : buckets.IsChain fun bucket next => bucket.stop = next.start
  proper : start < stop → ∀ bucket ∈ buckets, bucket.start < bucket.stop
  empty : start = stop → buckets = [⟨start, stop⟩]

namespace Tiling

theorem whole {start stop : Int} : Tiling start stop [⟨start, stop⟩] where
  first := rfl
  last := rfl
  joined := .singleton _
  proper order bucket member := by
    rw [List.mem_singleton.1 member]
    exact order
  empty _ := rfl

theorem cons {start boundary stop : Int} {rest : List Bucket} (early : start < boundary)
    (late : boundary < stop) (tiling : Tiling boundary stop rest) :
    Tiling start stop (⟨start, boundary⟩ :: rest) := by
  cases rest with
  | nil => cases tiling.first
  | cons next rest =>
    have first := tiling.first
    simp only [List.head?_cons, Option.map_some, Option.some.injEq] at first
    constructor
    · rfl
    · simpa only [List.getLast?_cons_cons] using tiling.last
    · exact List.isChain_cons_cons.2 ⟨first.symm, tiling.joined⟩
    · intro _ bucket member
      rcases List.mem_cons.1 member with rfl | member
      · exact early
      · exact tiling.proper late bucket member
    · omega

/-- The buckets of a tiling lie apart, one after another. -/
theorem apart {start stop : Int} {buckets : List Bucket} (order : start ≤ stop)
    (tiling : Tiling start stop buckets) :
    buckets.Pairwise fun bucket next => bucket.last < next.start := by
  rcases Int.lt_or_eq_of_le order with long | same
  · -- an end before the next start is transitive only as long as the next bucket is not empty
    let before (bucket next : Bucket) : Prop := bucket.stop ≤ next.start ∧ next.start < next.stop
    have transitive : IsTrans Bucket before := ⟨fun _ _ _ first second =>
      ⟨Int.le_trans first.1 (Int.le_trans (Int.le_of_lt first.2) second.1), second.2⟩⟩
    have chain : buckets.IsChain before := tiling.joined.imp_of_mem_imp
      fun _ next _ member joined => ⟨Int.le_of_eq joined, tiling.proper long next member⟩
    refine (List.isChain_iff_pairwise.1 chain).imp_of_mem fun {bucket next} member _ after => ?_
    have proper := tiling.proper long bucket member
    have := after.1
    unfold Bucket.last
    omega
  · rw [tiling.empty same]
    exact List.pairwise_singleton _ _

/-- The buckets of a tiling start one after another. -/
theorem starts_increase {start stop : Int} {buckets : List Bucket} (order : start ≤ stop)
    (tiling : Tiling start stop buckets) :
    buckets.Pairwise fun bucket next => bucket.start < next.start :=
  (tiling.apart order).imp fun apart => Int.lt_of_le_of_lt (Int.le_max_left _ _) apart

theorem ordered {start stop : Int} {buckets : List Bucket} (order : start ≤ stop)
    (tiling : Tiling start stop buckets) : ∀ bucket ∈ buckets, bucket.start ≤ bucket.stop := by
  intro bucket member
  rcases Int.lt_or_eq_of_le order with long | same
  · exact Int.le_of_lt (tiling.proper long bucket member)
  · rw [tiling.empty same] at member
    rw [List.mem_singleton.1 member]
    exact order

end Tiling

/-- The buckets of a run tile its range. -/
theorem Run.tiling {step : Int → Except Error Int} {start stop : Int} {buckets : List Bucket}
    (run : Run step stop start buckets) : Tiling start stop buckets := by
  induction run with
  | last => exact .whole
  | next stepped onwards inner run ih => exact .cons onwards inner ih

theorem cut_tiling {table : Timetable} (orderly : table.Orderly) {unit : CalendarUnit}
    {name : String} {start stop first last : Int} (finds : FindsZone unit name)
    (order : start ≤ stop) (starts : wallAt table start = .ok first)
    (stops : wallAt table stop = .ok last) (next : HasNext table unit last) :
    ∃ buckets, cut (unitStep unit name table) start stop = .ok buckets ∧
      Tiling start stop buckets := by
  have progress (between : Int) (after : start ≤ between) (before : between ≤ stop) :
      ∃ boundary, unitStep unit name table between = .ok boundary ∧ between < boundary := by
    obtain ⟨wall, shown, follows⟩ := writable_between orderly starts stops next after before
    obtain ⟨instant, -, -, stepped, later, -⟩ := unitStep_eq orderly finds shown follows
    exact ⟨instant / 1000, stepped, later⟩
  obtain ⟨buckets, run⟩ := exists_run ((stop - start).toNat + 1) order (by omega) progress
  exact ⟨buckets, (cut_unitStep_iff orderly order).2 run, run.tiling⟩

theorem calendar_eq_cut {unit : CalendarUnit} {name : String} {start stop : Int}
    {table : Timetable} (zone : timetable name = .ok table) (order : start ≤ stop) :
    calendar unit name start stop = cut (unitStep unit name table) start stop := by
  have forwards : ¬stop < start := Int.not_lt.2 order
  simp only [calendar, checkRange, if_neg forwards, zone, bind, Except.bind]

theorem dayBounds_eq {name : String} {table : Timetable} (zone : timetable name = .ok table) :
    dayBounds name = dayBoundsIn table := by
  funext date
  simp only [dayBounds, zone, bind, Except.bind]

theorem monthBounds_eq {name : String} {table : Timetable} (zone : timetable name = .ok table) :
    monthBounds name = monthBoundsIn table := by
  funext date
  simp only [monthBounds, zone, bind, Except.bind]

/-- The buckets of a range are a run along the timetable that the name is found under. -/
theorem calendar_ok_iff {unit : CalendarUnit} {name : String} {start stop : Int}
    {buckets : List Bucket} {table : Timetable} (zone : timetable name = .ok table) :
    calendar unit name start stop = .ok buckets ↔
      start ≤ stop ∧ Run (unitStep unit name table) stop start buckets := by
  by_cases order : start ≤ stop
  · rw [calendar_eq_cut zone order, cut_unitStep_iff (Timetable.orderly_of_name zone) order]
    exact (and_iff_right order).symm
  · simp [calendar, checkRange, order, Int.not_le.1 order, bind, Except.bind]

theorem timetable_of_calendar {unit : CalendarUnit} {name : String} {start stop : Int}
    {buckets : List Bucket} (result : calendar unit name start stop = .ok buckets) :
    ∃ table, timetable name = .ok table := by
  simp only [calendar] at result
  obtain ⟨-, -, result⟩ := bind_succeeded result
  obtain ⟨table, zone, -⟩ := bind_succeeded result
  exact ⟨table, zone⟩

/-- Buckets come of a range in order in a zone that is found, and tile it. -/
theorem tiling_of_calendar {unit : CalendarUnit} {name : String} {start stop : Int}
    {buckets : List Bucket} (result : calendar unit name start stop = .ok buckets) :
    start ≤ stop ∧ Tiling start stop buckets := by
  obtain ⟨table, zone⟩ := timetable_of_calendar result
  obtain ⟨order, run⟩ := (calendar_ok_iff zone).1 result
  exact ⟨order, run.tiling⟩

/-- A range whose readings can be written has buckets. -/
theorem exists_calendar {unit : CalendarUnit} {name : String} {start stop first last : Int}
    {table : Timetable} (zone : timetable name = .ok table) (finds : FindsZone unit name)
    (order : start ≤ stop) (starts : wallAt table start = .ok first)
    (stops : wallAt table stop = .ok last) (next : HasNext table unit last) :
    ∃ buckets, calendar unit name start stop = .ok buckets ∧ Tiling start stop buckets := by
  rw [calendar_eq_cut zone order]
  exact cut_tiling (Timetable.orderly_of_name zone) finds order starts stops next

/-- The buckets of a calendar unit tile the range, in every known zone and along every orderly
timetable. -/
theorem calendar_tiles (unit : CalendarUnit) (name : String) (start stop : Int)
    (finds : FindsZone unit name) (order : start ≤ stop) :
    (∀ (table : Timetable) (first last : Int), timetable name = .ok table →
      wallAt table start = .ok first → wallAt table stop = .ok last → HasNext table unit last →
      ∃ buckets, calendar unit name start stop = .ok buckets ∧ Tiling start stop buckets) ∧
    ∀ (table : Timetable) (first last : Int), table.Orderly →
      wallAt table start = .ok first → wallAt table stop = .ok last → HasNext table unit last →
      ∃ buckets, cut (unitStep unit name table) start stop = .ok buckets ∧
        Tiling start stop buckets := by
  constructor
  · intro table first last zone starts stops next
    exact exists_calendar zone finds order starts stops next
  · intro table first last orderly starts stops next
    exact cut_tiling orderly finds order starts stops next

/-- Two days in New York, the first of which lacks an hour, and a month along a timetable that
skips a whole day. -/
theorem calendar_tiles_springForward :
    (∃ buckets, calendar .day "America/New_York" 1741496400000 1741665600000 = .ok buckets ∧
      Tiling 1741496400000 1741665600000 buckets) ∧
    ∃ buckets, cut (unitStep .month "UTC" ⟨⟨-43200, 0⟩, [(0, ⟨43200, 0⟩)]⟩) (-5000000000)
        5000000000 = .ok buckets ∧ Tiling (-5000000000) 5000000000 buckets := by
  constructor
  · have shown (instant wall : Int) (inRange : Wall.inRange (instant * 1000) = true)
        (shownInRange : Wall.inRange wall = true)
        (reading : instant * 1000 + (ofZone Zone.newYork).shiftAt (instant * 1000) = wall) :=
      wallAt_ok_iff.2 ⟨inRange, shownInRange, reading⟩
    exact (calendar_tiles .day "America/New_York" 1741496400000 1741665600000
      (fun _ => ⟨Zone.newYork, rfl⟩) (by decide)).1 (ofZone Zone.newYork)
      1741478400000000 1741651200000000 rfl
      (shown _ _ (by decide) (by decide) (by decide +kernel))
      (shown _ _ (by decide) (by decide) (by decide +kernel))
      ⟨by decide, fun _ => by decide⟩
  · exact (calendar_tiles .month "UTC" (-5000000000) 5000000000 (fun day => by cases day)
      (by decide)).2 _ (-5043200000000) 5043200000000 (by decide +kernel)
      (wallAt_ok_iff.2 ⟨by decide, by decide, by decide⟩)
      (wallAt_ok_iff.2 ⟨by decide, by decide, by decide⟩)
      ((nextMonth_year_iff _).2 (by decide))

/-- At the edges of the writable years a range with writable local dates may be refused: New York's
noon of the last day but one, for want of the day after the last; Tokyo's first morning, as it is
still the year zero in universal time. A zone whose name is spelled otherwise has no days. -/
theorem calendar_refuses_edges :
    (wallAt (ofZone Zone.newYork) 253402189200000 =
        .ok (Wall.of (Date.toDays ⟨9999, 12, 30⟩) ⟨12, 0, 0, 0⟩) ∧
      Wall.inRange (Wall.of (Date.toDays ⟨9999, 12, 31⟩) ⟨12, 0, 0, 0⟩) = true ∧
      (calendar .day "America/New_York" 253402189200000 253402189200000).toOption = none) ∧
    (Wall.date (-62135596800001000 +
        (ofZone Zone.tokyo).shiftAt (-62135596800001000)) = ⟨1, 1, 1⟩ ∧
      (calendar .month "Asia/Tokyo" (-62135596800001) (-62135596800001)).toOption = none) ∧
    timetable "europe/brussels" = .ok (ofZone Zone.brussels) ∧
      (calendar .day "europe/brussels" 0 0).toOption = none := by
  refine ⟨⟨wallAt_ok_iff.2 ⟨?_, ?_, ?_⟩, ?_, ?_⟩, ⟨?_, ?_⟩, rfl, ?_⟩
  all_goals decide +kernel

end CalendarSeries.Bucket
