import CalendarSeries.Proofs.Bucket.Membership
import CalendarSeries.Proofs.Query.Cutting
/-!
Each command of a calendar plan is one bucket to the server. The server counts buckets of the fixed
duration from the alignment, which is the start of the calendar bucket; whatever the command lets
through lies in the first of them, and in the calendar bucket. So its reply is of one row, at the
start of the calendar bucket.
-/
namespace CalendarSeries.QueryPlan

/-- A command from `first` to `last` that the server answers from the slot of one duration at the
start of a bucket. Its words can be written; they end with the fixed duration, so they neither ask
for a calendar unit nor for empty buckets. -/
structure AsksOneSlot (request : RangeRequest) (bucket : Bucket) (statistic : Statistic)
    (duration first last : Int) : Prop where
  starts : request.start.instant? = some first
  stops : request.stop.instant? = some last
  aligned : request.align.integer? = some bucket.start
  aggregated : request.aggregation = some ⟨statistic, .fixed duration⟩
  positive : 0 < duration
  inside : ∀ instant, first ≤ instant → instant ≤ last →
    bucket.has instant = true ∧ 0 ≤ instant - bucket.start ∧ instant - bucket.start < duration
  closed : request.includeEmpty = false
  forward : request.reverse = false
  worded : request.arguments = .ok ([request.key, request.start.value, request.stop.value] ++
    (if request.latest then [.text "LATEST"] else []) ++ request.timestampArguments ++
    request.valueArguments ++ request.countArguments ++ [.text "ALIGN", request.align,
      .text "AGGREGATION", .text statistic.word, .int duration])

variable {request : RangeRequest} {statistic : Statistic} {unit : CalendarUnit} {bucket : Bucket}
  {index : Nat} {window : Window} {size : Int} {aggregation : Aggregation}

theorem integer?_value {bound : Bound} {instant : Int} (read : bound.instant? = some instant) :
    bound.value.integer? = some instant := by
  cases bound with
  | oldest | newest => cases read
  | instant => exact read
  | other => exact read

/-- What a window lets through lies in its bucket, and in one duration from the start of it. -/
theorem windows_inside_slot (ordered : bucket.start ≤ bucket.stop)
    (member : window ∈ windows size request bucket) {instant : Int}
    (after : window.start ≤ instant) (before : instant ≤ window.stop) :
    bucket.has instant = true ∧ 0 ≤ instant - bucket.start ∧
      instant - bucket.start < max bucket.duration 1 := by
  have covered := windows_inside_duration member after before
  exact ⟨(Bucket.has_iff ordered).2 (windows_inside member after before), by omega, by omega⟩

theorem windowQuery_asksOneSlot (ordered : bucket.start ≤ bucket.stop)
    (starts : (startOf request index bucket).instant? = some bucket.start)
    (member : window ∈ windows size request bucket) :
    AsksOneSlot (windowQuery request ⟨statistic, .calendar unit⟩ index bucket window).request bucket
      statistic (max bucket.duration 1) window.start window.stop := by
  obtain ⟨first, last⟩ := windowQuery_bounds starts (mem_windows.1 member).1
  obtain ⟨_, _, same⟩ := exists_windowQuery
  rw [same] at first last ⊢
  exact {
    starts := first
    stops := last
    aligned := integer?_value starts
    aggregated := rfl
    positive := by omega
    inside := fun _ after before => windows_inside_slot ordered member after before
    closed := rfl
    forward := rfl
    worded := rfl }

/-- The commands go bucket by bucket. -/
theorem windowPlan_ascends (buckets : List Bucket) :
    ((windowPlan size request aggregation buckets).subqueries.map SubQuery.bucket).Pairwise
      (· ≤ ·) := by
  have numbered : buckets.zipIdx.Pairwise fun first second => first.2 < second.2 := by
    rw [← List.pairwise_map (f := Prod.snd), List.zipIdx_map_snd]
    exact List.pairwise_lt_range'
  simp only [windowPlan, allWindows, List.map_flatMap, List.map_map, List.pairwise_flatMap]
  constructor
  · rintro ⟨bucket, index⟩ -
    exact List.pairwise_map.2 (List.pairwise_of_forall fun _ _ => by simp)
  · refine numbered.imp fun before first firstMember second secondMember => ?_
    obtain ⟨_, -, rfl⟩ := List.mem_map.1 firstMember
    obtain ⟨_, -, rfl⟩ := List.mem_map.1 secondMember
    simpa using Nat.le_of_lt before

end CalendarSeries.QueryPlan
