import CalendarSeries.Proofs.Query.Cutting
import CalendarSeries.Proofs.Query.Replies
/-!
What a calendar query results in. Without filters each bucket gives the aggregate of the samples in
it, at its start. With filters each window in which samples are selected gives one sample at the
start of its bucket, so a bucket has one sample exactly if at most one of its windows selects any.
-/
namespace CalendarSeries

variable {α : Type} (server : Server α) (series : List (Int × α))

/-- The aggregate of the samples in a bucket, at its start; a bucket without samples gives one that
is not a number, or nothing. -/
def Server.aggregate (statistic : Statistic) (includeEmpty : Bool) (bucket : Bucket) :
    List Element :=
  match (series.filter fun sample =>
      bucket.start ≤ sample.1 && sample.1 < bucket.stop).map (·.2) with
  | [] => if includeEmpty then [.sample bucket.start (.decimal Decimal.notANumber)] else []
  | values => [.sample bucket.start (.decimal (server.number statistic values))]

namespace QueryPlan

variable {request : RangeRequest} {statistic : Statistic} {unit : CalendarUnit}
  {size start stop : Int} {zone : String} {bucket : Bucket} {buckets : List Bucket}

/-- Without filters a bucket is one window. -/
theorem windows_unfiltered (unstamped : request.timestamps = none)
    (whole : request.ranges = none ∨ request.ranges = some []) :
    windows size request bucket = [⟨bucket.start, bucket.last, none⟩] := by
  rcases whole with ranges | ranges <;> simp [windows, spans, stampChunks, unstamped, ranges]

/-- Without filters a calendar plan has one command for each bucket. -/
theorem subqueries_whole (size : Int) (statistic : Statistic) (buckets : List Bucket)
    (unstamped : request.timestamps = none)
    (whole : request.ranges = none ∨ request.ranges = some []) :
    (calendarPlan size request statistic buckets).subqueries = buckets.zipIdx.map
      fun (bucket, index) => ⟨index, windowRequest request statistic bucket
        ⟨bucket.start, bucket.last, none⟩⟩ := by
  simp only [calendarPlan, allWindows, windows_unfiltered unstamped whole, List.map_cons,
    List.map_nil, List.map_flatMap]
  rw [List.map_eq_flatMap]

/-- The window of a bucket with a length holds what the half-open bucket holds. -/
theorem valuesOf_unfiltered (statistic : Statistic) (proper : bucket.start < bucket.stop)
    (unvalued : request.values = none) :
    server.valuesOf series (windowCall request statistic bucket ⟨bucket.start, bucket.last, none⟩) =
      (series.filter fun sample =>
        bucket.start ≤ sample.1 && sample.1 < bucket.stop).map (·.2) := by
  unfold Server.valuesOf Server.selection
  congr 1
  apply List.filter_congr
  intro sample _
  have last : sample.1 ≤ bucket.last ↔ sample.1 < bucket.stop := by
    unfold Bucket.last
    omega
  simp [Server.selects, windowCall, unvalued, last]

theorem bucketPoints_unfiltered (proper : bucket.start < bucket.stop)
    (unstamped : request.timestamps = none)
    (whole : request.ranges = none ∨ request.ranges = some [])
    (unvalued : request.values = none) :
    bucketPoints server series size request statistic bucket =
      server.aggregate series statistic request.includeEmpty bucket := by
  have values := valuesOf_unfiltered server series statistic proper unvalued
  simp only [bucketPoints, bucketNumbers, windows_unfiltered unstamped whole, Server.numbers,
    values, List.flatMap_cons, List.flatMap_nil, List.append_nil, Server.aggregate]
  cases (series.filter _).map _ with
  | nil => cases request.includeEmpty <;> rfl
  | cons => rfl

/-- A calendar query over a range that has buckets results in the samples of these. -/
theorem exists_result (starts : request.start = .instant start)
    (stops : request.stop = .instant stop)
    (aggregated : request.aggregation = some ⟨statistic, .calendar unit⟩)
    (listed : request.timestamps ≠ some []) (dealt : request.timestamps = none ∨ 1 ≤ size)
    (cut : Bucket.calendar unit (RangeRequest.zoneOr zone request.timezone) start stop =
      .ok buckets) :
    ∃ plan replies, make size zone request = .ok plan ∧
      plan.subqueries.mapM (server.answer? series) = some replies ∧
      plan.reconcile replies =
        let elements := buckets.flatMap (bucketPoints server series size request statistic)
        .ok ⟨if request.reverse then elements.reverse else elements,
          [(.text "key", request.key)]⟩ := by
  obtain ⟨order, tiling⟩ := Bucket.tiling_of_calendar cut
  have some : buckets ≠ [] := by
    rintro rfl
    cases tiling.first
  exact ⟨_, _, make_eq size starts stops aggregated listed dealt order cut tiling.first,
    answer?_all server series buckets, reconcile_eq server series buckets some⟩

/-- How many windows of a bucket select any samples. -/
def hits (size : Int) (request : RangeRequest) (statistic : Statistic) (bucket : Bucket) : Nat :=
  ((windows size request bucket).filter fun window =>
    !(server.valuesOf series (windowCall request statistic bucket window)).isEmpty).length

theorem hits_le_windows :
    hits server series size request statistic bucket ≤ (windows size request bucket).length :=
  List.length_filter_le _ _

theorem numbers_length (call : Call) :
    (server.numbers series call).length =
      if (server.valuesOf series call).isEmpty then 0 else 1 := by
  unfold Server.numbers
  cases server.valuesOf series call <;> rfl

/-- A bucket has a number for each window that selects any samples, and one if there is none. -/
theorem bucketNumbers_length (filled : request.includeEmpty = true) :
    (bucketNumbers server series size request statistic bucket).length =
      max 1 (hits server series size request statistic bucket) := by
  have hit : ((windows size request bucket).flatMap fun window =>
      server.numbers series (windowCall request statistic bucket window)).length =
      hits server series size request statistic bucket := by
    unfold hits
    induction windows size request bucket with
    | nil => rfl
    | cons window rest ih =>
      rw [List.flatMap_cons, List.length_append, ih, numbers_length, List.filter_cons]
      split <;> simp_all [Nat.add_comm]
  unfold bucketNumbers
  split
  · rename_i none
    rw [none] at hit
    simp [filled, ← hit]
  · rename_i some
    have : List.length _ ≠ 0 := mt List.length_eq_zero_iff.1 some
    omega

/-- Each start as often as its bucket counts, at least once: the starts increase exactly if none
counts twice. -/
theorem repeated_pairwise_iff (count : Bucket → Nat)
    (increase : buckets.Pairwise fun bucket next => bucket.start < next.start) :
    (buckets.flatMap fun bucket => List.replicate (max 1 (count bucket)) bucket.start).Pairwise
        (· < ·) ↔ ∀ bucket ∈ buckets, count bucket ≤ 1 := by
  rw [List.pairwise_flatMap]
  constructor
  · rintro ⟨single, -⟩ bucket member
    rcases List.pairwise_replicate.1 (single bucket member) with once | itself
    · omega
    · omega
  · intro single
    refine ⟨fun bucket member => List.pairwise_replicate.2 (.inl ?_), increase.imp ?_⟩
    · have := single bucket member
      omega
    · intro bucket next before first firstMember second secondMember
      rw [List.eq_of_mem_replicate firstMember, List.eq_of_mem_replicate secondMember]
      exact before

theorem repeated_pairwise_le (count : Bucket → Nat)
    (increase : buckets.Pairwise fun bucket next => bucket.start < next.start) :
    (buckets.flatMap fun bucket => List.replicate (max 1 (count bucket)) bucket.start).Pairwise
        (· ≤ ·) := by
  rw [List.pairwise_flatMap]
  refine ⟨fun bucket _ => List.pairwise_replicate.2 (.inr (Int.le_refl _)), increase.imp ?_⟩
  intro bucket next before first firstMember second secondMember
  rw [List.eq_of_mem_replicate firstMember, List.eq_of_mem_replicate secondMember]
  exact Int.le_of_lt before

theorem repeated_eq_iff (count : Bucket → Nat)
    (increase : buckets.Pairwise fun bucket next => bucket.start < next.start) :
    (buckets.flatMap fun bucket => List.replicate (max 1 (count bucket)) bucket.start) =
        buckets.map Bucket.start ↔ ∀ bucket ∈ buckets, count bucket ≤ 1 := by
  constructor
  · intro same
    rw [← repeated_pairwise_iff count increase, same, List.pairwise_map]
    exact increase
  · intro single
    rw [List.map_eq_flatMap]
    simp only [List.flatMap]
    congr 1
    apply List.map_congr_left
    intro bucket member
    have once : max 1 (count bucket) = 1 := by
      have := single bucket member
      omega
    rw [once]
    rfl

/-- The timestamps of a result as they stood before it was reversed. -/
def stampsInOrder (request : RangeRequest) (samples : Samples) : List Int :=
  let stamps := samples.readings.map (·.1)
  if request.reverse then stamps.reverse else stamps

theorem readings_bucketPoints :
    ((bucketPoints server series size request statistic bucket).filterMap Element.reading?).map
        (·.1) =
      List.replicate (bucketNumbers server series size request statistic bucket).length
        bucket.start := by
  unfold bucketPoints
  induction bucketNumbers server series size request statistic bucket with
  | nil => rfl
  | cons number numbers ih => simpa [Element.reading?, List.replicate_succ] using ih

theorem stampsInOrder_eq (filled : request.includeEmpty = true) (metadata : List (Value × Value)) :
    stampsInOrder request ⟨if request.reverse
        then (buckets.flatMap (bucketPoints server series size request statistic)).reverse
        else buckets.flatMap (bucketPoints server series size request statistic), metadata⟩ =
      buckets.flatMap fun bucket =>
        List.replicate (max 1 (hits server series size request statistic bucket)) bucket.start := by
  have stamps : ((buckets.flatMap (bucketPoints server series size request statistic)).filterMap
      Element.reading?).map (·.1) = buckets.flatMap fun bucket =>
        List.replicate (max 1 (hits server series size request statistic bucket)) bucket.start := by
    rw [List.filterMap_flatMap, List.map_flatMap]
    simp only [readings_bucketPoints, bucketNumbers_length server series filled]
  unfold stampsInOrder Samples.readings
  cases request.reverse
  · exact stamps
  · simpa [List.filterMap_reverse] using stamps

theorem failures_eq (metadata : List (Value × Value)) :
    Samples.failures ⟨if request.reverse
        then (buckets.flatMap (bucketPoints server series size request statistic)).reverse
        else buckets.flatMap (bucketPoints server series size request statistic), metadata⟩ =
      [] := by
  have none : (buckets.flatMap (bucketPoints server series size request statistic)).filterMap
      Element.failure? = [] := by
    rw [List.filterMap_eq_nil_iff]
    intro element member
    obtain ⟨bucket, -, inside⟩ := List.mem_flatMap.1 member
    obtain ⟨number, -, rfl⟩ := List.mem_map.1 inside
    rfl
  unfold Samples.failures
  cases request.reverse
  · exact none
  · simpa [List.filterMap_reverse] using none

end QueryPlan

end CalendarSeries
