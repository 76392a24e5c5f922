import CalendarSeries.Proofs.Bucket.Membership
import CalendarSeries.Proofs.Gathering
import CalendarSeries.Proofs.Query.Cutting
import Mathlib.Data.List.Sort
/-!
Which sub-ranges of a filter are asked for. A calendar plan asks for those that lie in a single
bucket, bucket by bucket, and passes over those that lie across a boundary or leave the range.
-/
namespace CalendarSeries

/-- What a command asks for: the number of its bucket, its bounds and its timestamps. -/
def SubQuery.asked (query : SubQuery) : Nat × Bound × Bound × Option (List Int) :=
  (query.bucket, query.request.start, query.request.stop, query.request.timestamps)

namespace QueryPlan

/-- The sub-ranges that buckets hold, each with the number of the bucket: bucket by bucket, in the
order in which they are listed. -/
def heldRanges (buckets : List Bucket) (ranges : List TimeRange) : List (Nat × TimeRange) :=
  buckets.zipIdx.flatMap fun (bucket, index) =>
    (ranges.filter fun range => bucket.Holds range).map (index, ·)

/-- The timestamps that lie in a sub-range. -/
def stampsIn (range : TimeRange) (stamps : List Int) : List Int :=
  stamps.filter fun stamp => range.start ≤ stamp && stamp ≤ range.stop

/-- What is asked for a sub-range: all of it, or the timestamps in it in ascending chunks. -/
def rangeCalls (size : Nat) (timestamps : Option (List Int)) (held : Nat × TimeRange) :
    List (Nat × Bound × Bound × Option (List Int)) :=
  let call := fun stamps => (held.1, .instant held.2.start, .instant held.2.stop, stamps)
  match timestamps with
  | none => [call none]
  | some stamps =>
    (chunksOf size (stampsIn held.2 stamps).mergeSort).map fun chunk => call (some chunk)

/-- A plan asks for the sub-ranges that lie in one of its buckets, each as often as it is listed. -/
structure AsksForHeld (size : Nat) (timestamps : Option (List Int)) (ranges : List TimeRange)
    (plan : QueryPlan) : Prop where
  calls : plan.subqueries.map SubQuery.asked = (heldRanges plan.buckets ranges).flatMap
    (rangeCalls size timestamps)
  /-- No sub-range lies in two buckets. -/
  single : plan.buckets.Pairwise fun bucket next =>
    ∀ range ∈ ranges, bucket.Holds range → ¬next.Holds range
  once : ((heldRanges plan.buckets ranges).map Prod.snd).Perm
    (ranges.filter fun range => ∃ bucket ∈ plan.buckets, bucket.Holds range)
  /-- Nothing is asked for a sub-range without any of the timestamps. -/
  silent : ∀ stamps ∈ timestamps, ∀ held,
    rangeCalls size timestamps held = [] ↔ stampsIn held.2 stamps = []

variable {request : RangeRequest} {statistic : Statistic} {unit : CalendarUnit} {size : Int}
  {aggregation : Aggregation} {bucket : Bucket} {buckets : List Bucket} {ranges : List TimeRange}

/-- With sub-ranges a command has the bounds of its window in so many words. -/
theorem asked_windowQuery (ranged : request.ranges = some ranges) (some : ranges ≠ [])
    (index : Nat) (window : Window) :
    (windowQuery request aggregation index bucket window).asked =
      (index, .instant window.start, .instant window.stop, window.stamps) := by
  unfold windowQuery
  rw [ranged]
  cases ranges with
  | nil => exact absurd rfl some
  | cons => rfl

/-- The spans of a bucket are the sub-ranges that it holds. -/
theorem spans_held (ordered : bucket.start ≤ bucket.stop) (some : ranges ≠ [])
    (proper : ∀ range ∈ ranges, range.start ≤ range.stop) :
    spans (.some ranges) bucket = (ranges.filter fun range => bucket.Holds range).map
      fun range => (range.start, range.stop) := by
  have held : (ranges.filter fun range => bucket.contains range.start range.stop) =
      ranges.filter fun range => bucket.Holds range :=
    List.filter_congr fun range member => by
      rw [Bool.eq_iff_iff, Bucket.contains_iff_holds ordered (proper range member),
        decide_eq_true_iff]
  rw [← held]
  cases ranges with
  | nil => exact absurd rfl some
  | cons => rfl

/-- The commands of a bucket ask for the sub-ranges that it holds. -/
theorem asked_windows (ordered : bucket.start ≤ bucket.stop)
    (ranged : request.ranges = some ranges) (some : ranges ≠ [])
    (proper : ∀ range ∈ ranges, range.start ≤ range.stop) (index : Nat) :
    ((windows size request bucket).map fun window =>
        (windowQuery request aggregation index bucket window).asked) =
      ((ranges.filter fun range => bucket.Holds range).map (index, ·)).flatMap
        (rangeCalls size.toNat request.timestamps) := by
  simp only [asked_windowQuery ranged some, windows, ranged, spans_held ordered some proper,
    List.flatMap_map, List.map_flatMap, List.map_map]
  congr 1
  funext range
  unfold rangeCalls stampChunks
  cases request.timestamps with
  | none => rfl
  | some stamps =>
    simp only [List.map_map]
    rfl

theorem rangeCalls_eq_nil (positive : 1 ≤ size) (stamps : List Int) (held : Nat × TimeRange) :
    rangeCalls size.toNat (some stamps) held = [] ↔ stampsIn held.2 stamps = [] := by
  rw [rangeCalls, List.map_eq_nil_iff, chunksOf_eq_nil_iff (by omega), ← List.length_eq_zero_iff,
    List.length_mergeSort, List.length_eq_zero_iff]

/-- The windows of buckets that tile a range ask for the sub-ranges in a single one of them. -/
theorem windowPlan_asksForHeld {start stop : Int} (positive : 1 ≤ size) (order : start ≤ stop)
    (tiling : Bucket.Tiling start stop buckets) (ranged : request.ranges = some ranges)
    (some : ranges ≠ []) (proper : ∀ range ∈ ranges, range.start ≤ range.stop) :
    AsksForHeld size.toNat request.timestamps ranges
      (windowPlan size request aggregation buckets) := by
  have single : buckets.Pairwise fun bucket next =>
      ∀ range ∈ ranges, bucket.Holds range → ¬next.Holds range := by
    refine (tiling.has_before order).imp fun before range member first second => ?_
    have start := proper range member
    exact Int.lt_irrefl _ (before range.start range.start (first _ (Int.le_refl _) start)
      (second _ (Int.le_refl _) start))
  constructor
  · simp only [windowPlan, allWindows, heldRanges, List.map_flatMap, List.map_map,
      List.flatMap_assoc]
    exact List.flatMap_congr fun item member =>
      asked_windows (tiling.ordered order item.1 (List.fst_mem_of_mem_zipIdx member)) ranged some
        proper item.2
  · exact single
  · have owned : (heldRanges buckets ranges).map Prod.snd =
        buckets.flatMap fun bucket => ranges.filter fun range => bucket.Holds range := by
      simp only [heldRanges, List.map_flatMap, List.map_map, Function.comp_def, List.map_id']
      exact flatMap_zipIdx (fun bucket => ranges.filter fun range => bucket.Holds range) buckets
    have listed : (buckets.flatMap fun bucket => ranges.filter fun range => bucket.Holds range).Perm
        (ranges.filter fun range => buckets.any fun bucket => bucket.Holds range) :=
      flatMap_filter_perm (single.imp fun apart range member holds =>
        decide_eq_false (apart range member (of_decide_eq_true holds)))
    have same : (ranges.filter fun range => buckets.any fun bucket => bucket.Holds range) =
        ranges.filter fun range => ∃ bucket ∈ buckets, bucket.Holds range :=
      List.filter_congr fun range _ => by
        rw [Bool.eq_iff_iff, List.any_eq_true, decide_eq_true_iff]
        simp only [decide_eq_true_iff]
    rw [same, ← owned] at listed
    exact listed
  · intro stamps stamped held
    rw [Option.mem_def.1 stamped]
    exact rangeCalls_eq_nil positive stamps held

end QueryPlan

end CalendarSeries
