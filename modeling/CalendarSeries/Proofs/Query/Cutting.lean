import CalendarSeries.Proofs.Bucket.Tiling
import CalendarSeries.Proofs.Query.Windows
/-!
Which calendar requests are planned. A request is refused for an empty filter of timestamps, or as
its range cannot be cut into buckets; else it is planned by the windows of the buckets, which tile
the range.
-/
namespace CalendarSeries.QueryPlan

variable {request : RangeRequest} {statistic : Statistic} {unit : CalendarUnit}
  {size start stop : Int} {zone : String} {plan : QueryPlan}

/-- A calendar query is refused only where its range has no buckets, which it has wherever the
readings at both ends, and what follows them, can be written. -/
structure PlannedWhereCut (size : Int) (zone : String) (request : RangeRequest)
    (unit : CalendarUnit) (start stop : Int) : Prop where
  refused : ∀ error, Bucket.calendar unit (RangeRequest.zoneOr zone request.timezone) start stop =
    .error error → make size zone request = .error error
  cut : ∀ (table : Timetable) (first last : Int),
    Bucket.timetable (RangeRequest.zoneOr zone request.timezone) = .ok table →
    Bucket.FindsZone unit (RangeRequest.zoneOr zone request.timezone) →
    Bucket.wallAt table start = .ok first → Bucket.wallAt table stop = .ok last →
    Bucket.HasNext table unit last →
    ∃ buckets, Bucket.calendar unit (RangeRequest.zoneOr zone request.timezone) start stop =
      .ok buckets

theorem plannedWhereCut (starts : request.start.instant? = some start)
    (stops : request.stop.instant? = some stop)
    (aggregated : request.aggregation = some ⟨statistic, .calendar unit⟩)
    (listed : request.timestamps ≠ some []) (order : start ≤ stop) :
    PlannedWhereCut size zone request unit start stop where
  refused error refused := by
    rw [make_calendar starts stops aggregated listed order, refused]
    rfl
  cut table first last found finds begins ends next := by
    obtain ⟨buckets, cut, -⟩ := Bucket.exists_calendar found finds order begins ends next
    exact ⟨buckets, cut⟩

/-- The range of a calendar request has two instants in order. -/
theorem calendarRange_ok (ranged : calendarRange request unit = .ok (start, stop)) :
    request.start.instant? = some start ∧ request.stop.instant? = some stop ∧ start ≤ stop := by
  unfold calendarRange at ranged
  split at ranged
  · rename_i first last starts stops
    split at ranged
    · cases ranged
    · rename_i order
      cases ranged
      exact ⟨starts, stops, Int.not_lt.1 order⟩
  · cases ranged

/-- Whatever plan is made has the windows of buckets that tile the range. -/
theorem windowPlan_of_make (aggregated : request.aggregation = some ⟨statistic, .calendar unit⟩)
    (dealt : request.timestamps = none ∨ 1 ≤ size) (made : make size zone request = .ok plan) :
    ∃ start stop, request.start.instant? = some start ∧ request.stop.instant? = some stop ∧
      start ≤ stop ∧ Bucket.Tiling start stop plan.buckets ∧
      plan = windowPlan size request ⟨statistic, .calendar unit⟩ plan.buckets := by
  have listed : request.timestamps ≠ some [] := by
    intro empty
    simp [make, empty] at made
  have planned := made
  rw [make_of_unit request size zone aggregated rfl listed] at planned
  obtain ⟨⟨start, stop⟩, ranged, planned⟩ := bind_succeeded planned
  obtain ⟨buckets, cut, planned⟩ := bind_succeeded planned
  obtain ⟨parts, -, planned⟩ := bind_succeeded planned
  obtain ⟨starts, stops, order⟩ := calendarRange_ok ranged
  obtain ⟨-, tiling⟩ := Bucket.tiling_of_calendar cut
  rw [make_windows size starts stops aggregated listed dealt order cut tiling.first] at made
  cases made
  exact ⟨start, stop, starts, stops, order, tiling, rfl⟩

/-- A calendar request is refused for an empty filter of timestamps, and planned wherever its range
is in order and has buckets. All plans that are made of it have a property. -/
structure PlannedWith (size : Int) (zone : String) (request : RangeRequest) (unit : CalendarUnit)
    (property : QueryPlan → Prop) : Prop where
  unlisted : request.timestamps = some [] → make size zone request = .error .noTimestamps
  planned : request.timestamps ≠ some [] → ∀ start stop, request.start.instant? = some start →
    request.stop.instant? = some stop → start ≤ stop →
    PlannedWhereCut size zone request unit start stop ∧
    ∀ buckets, Bucket.calendar unit (RangeRequest.zoneOr zone request.timezone) start stop =
      .ok buckets → ∃ plan, make size zone request = .ok plan ∧ plan.buckets = buckets
  holds : ∀ plan, make size zone request = .ok plan → property plan

/-- It is enough that the windows of buckets that tile the range have the property. -/
theorem plannedWith (aggregated : request.aggregation = some ⟨statistic, .calendar unit⟩)
    (dealt : 1 ≤ size) {property : QueryPlan → Prop}
    (tiled : ∀ start stop buckets, request.start.instant? = some start →
      request.stop.instant? = some stop → start ≤ stop → Bucket.Tiling start stop buckets →
      property (windowPlan size request ⟨statistic, .calendar unit⟩ buckets)) :
    PlannedWith size zone request unit property where
  unlisted empty := by simp [make, empty]
  planned listed start stop starts stops order := by
    refine ⟨plannedWhereCut starts stops aggregated listed order, fun buckets cut => ?_⟩
    obtain ⟨-, tiling⟩ := Bucket.tiling_of_calendar cut
    exact ⟨_, make_windows size starts stops aggregated listed (.inr dealt) order cut tiling.first,
      rfl⟩
  holds plan made := by
    obtain ⟨start, stop, starts, stops, order, tiling, same⟩ :=
      windowPlan_of_make aggregated (.inr dealt) made
    rw [same]
    exact tiled start stop plan.buckets starts stops order tiling

end CalendarSeries.QueryPlan
