import CalendarSeries.Proofs.Bucket.Membership
import CalendarSeries.Proofs.Gathering
import CalendarSeries.Proofs.Query.Cutting
import CalendarSeries.Proofs.Query.Execution
import Mathlib.Data.List.Sort
/-!
How the timestamps of a filter are dealt out. A calendar plan asks for each timestamp in range once,
in a command of its bucket: each bucket takes its timestamps in ascending order to as few commands
as there can be, and the buckets follow each other in time.
-/
namespace CalendarSeries

/-- The timestamps that a command asks for. -/
def SubQuery.stamps (query : SubQuery) : List Int :=
  query.request.timestamps.getD []

namespace QueryPlan

/-- Every command asks for at least one timestamp, and for no more than a chunk. -/
def Bounded (size : Nat) (plan : QueryPlan) : Prop :=
  ∀ query ∈ plan.subqueries, ∃ chunk, query.request.timestamps = some chunk ∧
    1 ≤ chunk.length ∧ chunk.length ≤ size

/-- The commands of one bucket. -/
def ofBucket (plan : QueryPlan) (index : Nat) : List SubQuery :=
  plan.subqueries.filter (·.bucket == index)

/-- A plan asks for the timestamps that lie in its buckets, each as often as it is listed. -/
structure DealsOut (size : Nat) (request : RangeRequest) (stamps : List Int) (plan : QueryPlan) :
    Prop where
  sorted : plan.subqueries.flatMap SubQuery.stamps =
    (stamps.filter fun stamp => plan.buckets.any (·.has stamp)).mergeSort
  /-- Nothing out of range is asked for. -/
  ranged : ∀ start stop, request.start.instant? = some start →
    request.stop.instant? = some stop →
    ∀ query ∈ plan.subqueries, ∀ stamp ∈ query.stamps, start ≤ stamp ∧ stamp ≤ stop
  placed : ∀ query ∈ plan.subqueries, ∃ bucket, plan.buckets[query.bucket]? = some bucket ∧
    ∀ stamp ∈ query.stamps, bucket.has stamp = true
  bounded : plan.Bounded size
  filled : ∀ index bucket, plan.buckets[index]? = some bucket →
    (plan.ofBucket index).length = stamps.countP bucket.has ⌈/⌉ size ∧
      ∀ query ∈ (plan.ofBucket index).dropLast, query.stamps.length = size

variable {request : RangeRequest} {statistic : Statistic} {unit : CalendarUnit} {size : Int}
  {aggregation : Aggregation} {bucket : Bucket} {buckets : List Bucket} {stamps : List Int}

/-- The timestamps of a bucket in ascending chunks. -/
def bucketChunks (size : Int) (stamps : List Int) (bucket : Bucket) : List (List Int) :=
  chunksOf size.toNat (stamps.filter bucket.has).mergeSort

theorem chunked_bucketChunks (positive : 1 ≤ size) (stamps : List Int) (bucket : Bucket) :
    Chunked size.toNat (stamps.filter bucket.has).mergeSort (bucketChunks size stamps bucket) :=
  chunked_chunksOf (by omega) _

/-- A bucket that is asked for as a whole has a window for each chunk. -/
theorem windows_stamped (ordered : bucket.start ≤ bucket.stop)
    (stamped : request.timestamps = some stamps)
    (whole : request.ranges = none ∨ request.ranges = some []) :
    windows size request bucket = (bucketChunks size stamps bucket).map fun chunk =>
      ⟨bucket.start, bucket.last, some chunk⟩ := by
  have spanned : spans request.ranges bucket = [(bucket.start, bucket.last)] := by
    rcases whole with ranges | ranges <;> rw [ranges, spans]
  have inside : (fun stamp => decide (bucket.start ≤ stamp) && decide (stamp ≤ bucket.last)) =
      bucket.has := by
    funext stamp
    rw [Bool.eq_iff_iff, Bucket.has_iff ordered]
    simp
  simp only [windows, spanned, List.flatMap_singleton, stamped, stampChunks, inside,
    bucketChunks, List.map_map]
  rfl

/-- Ascending timestamps of buckets that follow each other ascend. -/
theorem flatMap_mergeSort (stamps : List Int)
    (before : buckets.Pairwise fun bucket next => ∀ first second,
      bucket.has first = true → next.has second = true → first < second) :
    (buckets.flatMap fun bucket => (stamps.filter bucket.has).mergeSort) =
      (stamps.filter fun stamp => buckets.any (·.has stamp)).mergeSort := by
  have has {bucket : Bucket} {stamp : Int}
      (member : stamp ∈ (stamps.filter bucket.has).mergeSort) : bucket.has stamp = true :=
    (List.mem_filter.1 (List.mem_mergeSort.1 member)).2
  have ascends : (buckets.flatMap fun bucket => (stamps.filter bucket.has).mergeSort).Pairwise
      (· ≤ ·) := by
    rw [List.pairwise_flatMap]
    refine ⟨fun bucket _ => List.pairwise_mergeSort' _ _, before.imp ?_⟩
    intro bucket next before first inFirst second inSecond
    exact Int.le_of_lt (before first second (has inFirst) (has inSecond))
  have apart : buckets.Pairwise fun bucket next => ∀ stamp ∈ stamps,
      bucket.has stamp = true → next.has stamp = false :=
    before.imp fun before stamp _ owned =>
      Bool.eq_false_iff.2 fun other => Int.lt_irrefl stamp (before stamp stamp owned other)
  have same : (buckets.flatMap fun bucket => (stamps.filter bucket.has).mergeSort).Perm
      (stamps.filter fun stamp => buckets.any (·.has stamp)).mergeSort :=
    (List.Perm.flatMap_left buckets fun _ _ => List.mergeSort_perm _ _).trans
      ((flatMap_filter_perm apart).trans (List.mergeSort_perm _ _).symm)
  exact same.eq_of_pairwise' ascends (List.pairwise_mergeSort' _ _)

/-- The commands of a bucket are those of its windows. -/
theorem ofBucket_windowPlan {index : Nat} (there : buckets[index]? = some bucket) :
    (windowPlan size request aggregation buckets).ofBucket index =
      (windows size request bucket).map (windowQuery request aggregation index bucket) := by
  let queryOf (item : Nat × Bucket × Window) : SubQuery :=
    windowQuery request aggregation item.1 item.2.1 item.2.2
  let own := (allWindows size request buckets).filter (·.1 == index)
  have gathered : own.map (·.2) = (windows size request bucket).map (bucket, ·) := by
    have found := gathered_eq (fun bucket => (windows size request bucket).map (bucket, ·)) 0 index
      there
    rw [Nat.zero_add] at found
    rw [← found]
    simp only [own, allWindows, List.map_map]
    rfl
  have numbered : ∀ item ∈ own, queryOf item = queryOf (index, item.2) := fun item member => by
    rw [← beq_iff_eq.1 (List.mem_filter.1 member).2]
  calc (windowPlan size request aggregation buckets).ofBucket index
    _ = own.map queryOf := by
      simp only [ofBucket, windowPlan, List.filter_map, Function.comp_def, windowQuery_bucket]
      rfl
    _ = (own.map (·.2)).map fun item => queryOf (index, item) := by
      rw [List.map_congr_left numbered, List.map_map]
      rfl
    _ = (windows size request bucket).map (windowQuery request aggregation index bucket) := by
      rw [gathered, List.map_map]
      rfl

/-- The commands of a bucket have its chunks. -/
theorem stamps_ofBucket {index : Nat} (there : buckets[index]? = some bucket)
    (ordered : bucket.start ≤ bucket.stop) (stamped : request.timestamps = some stamps)
    (whole : request.ranges = none ∨ request.ranges = some []) :
    ((windowPlan size request aggregation buckets).ofBucket index).map SubQuery.stamps =
      bucketChunks size stamps bucket := by
  rw [ofBucket_windowPlan there, windows_stamped ordered stamped whole, List.map_map, List.map_map]
  refine (List.map_congr_left fun chunk _ => ?_).trans (List.map_id _)
  simp [SubQuery.stamps]

/-- A command asks for a chunk of the timestamps of its bucket. -/
theorem exists_chunk (ordered : ∀ bucket ∈ buckets, bucket.start ≤ bucket.stop)
    (stamped : request.timestamps = some stamps)
    (whole : request.ranges = none ∨ request.ranges = some []) {query : SubQuery}
    (member : query ∈ (windowPlan size request aggregation buckets).subqueries) :
    ∃ bucket, buckets[query.bucket]? = some bucket ∧
      ∃ chunk ∈ bucketChunks size stamps bucket, query.request.timestamps = some chunk := by
  obtain ⟨bucket, window, there, inside, same⟩ := mem_windowPlan member
  rw [windows_stamped (ordered bucket (List.mem_of_getElem? there)) stamped whole] at inside
  obtain ⟨chunk, part, rfl⟩ := List.mem_map.1 inside
  refine ⟨bucket, there, chunk, part, ?_⟩
  rw [same, windowQuery_timestamps]

/-- The timestamps of all commands, in their order. -/
theorem flatMap_stamps (positive : 1 ≤ size)
    (ordered : ∀ bucket ∈ buckets, bucket.start ≤ bucket.stop)
    (stamped : request.timestamps = some stamps)
    (whole : request.ranges = none ∨ request.ranges = some []) :
    (windowPlan size request aggregation buckets).subqueries.flatMap SubQuery.stamps =
      buckets.flatMap fun bucket => (stamps.filter bucket.has).mergeSort := by
  have single (bucket : Bucket) (member : bucket ∈ buckets) :
      ((windows size request bucket).flatMap fun window => window.stamps.getD []) =
        (stamps.filter bucket.has).mergeSort := by
    rw [windows_stamped (ordered bucket member) stamped whole, List.flatMap_map,
      ← (chunked_bucketChunks positive stamps bucket).whole]
    exact List.flatMap_id
  refine Eq.trans ?_ (flatMap_zipIdx (fun bucket => (stamps.filter bucket.has).mergeSort) buckets)
  simp only [windowPlan, allWindows, List.flatMap_map, List.flatMap_assoc, SubQuery.stamps,
    windowQuery_timestamps]
  exact List.flatMap_congr fun item member => single item.1 (List.fst_mem_of_mem_zipIdx member)

/-- The windows of buckets that tile a range deal out the timestamps of a filter. -/
theorem windowPlan_dealsOut {start stop : Int} (positive : 1 ≤ size)
    (starts : request.start.instant? = some start) (stops : request.stop.instant? = some stop)
    (order : start ≤ stop) (tiling : Bucket.Tiling start stop buckets)
    (stamped : request.timestamps = some stamps)
    (whole : request.ranges = none ∨ request.ranges = some []) :
    DealsOut size.toNat request stamps (windowPlan size request aggregation buckets) := by
  have ordered := tiling.ordered order
  have chunked := chunked_bucketChunks positive stamps
  have placed : ∀ query ∈ (windowPlan size request aggregation buckets).subqueries,
      ∃ bucket, buckets[query.bucket]? = some bucket ∧
        ∀ stamp ∈ query.stamps, bucket.has stamp = true := by
    intro query member
    obtain ⟨bucket, there, chunk, part, asked⟩ := exists_chunk ordered stamped whole member
    refine ⟨bucket, there, fun stamp listed => ?_⟩
    rw [SubQuery.stamps, asked, Option.getD_some] at listed
    have inside := List.mem_flatten_of_mem part listed
    rw [(chunked bucket).whole, List.mem_mergeSort, List.mem_filter] at inside
    exact inside.2
  constructor
  · exact (flatMap_stamps positive ordered stamped whole).trans
      (flatMap_mergeSort stamps (tiling.has_before order))
  · intro first last first? last? query member stamp listed
    cases starts.symm.trans first?
    cases stops.symm.trans last?
    obtain ⟨bucket, there, has⟩ := placed query member
    have covered := tiling.any_has order stamp
    rw [List.any_eq_true.2 ⟨bucket, List.mem_of_getElem? there, has stamp listed⟩] at covered
    obtain ⟨after, before⟩ := (Bucket.has_iff order).1 covered.symm
    refine ⟨after, Int.le_trans before ?_⟩
    unfold Bucket.last
    dsimp only
    omega
  · exact placed
  · intro query member
    obtain ⟨bucket, there, chunk, part, asked⟩ := exists_chunk ordered stamped whole member
    exact ⟨chunk, asked, (chunked bucket).bounded chunk part⟩
  · intro index bucket there
    have chunks : ((windowPlan size request aggregation buckets).ofBucket index).map
        SubQuery.stamps = bucketChunks size stamps bucket :=
      stamps_ofBucket there (ordered bucket (List.mem_of_getElem? there)) stamped whole
    constructor
    · rw [← List.length_map SubQuery.stamps, chunks, (chunked bucket).length (by omega),
        List.length_mergeSort, List.countP_eq_length_filter]
    · intro query member
      refine (chunked bucket).full query.stamps ?_
      rw [← chunks, ← List.map_dropLast]
      exact List.mem_map_of_mem member

/-- A window's commands have the chunks of the timestamps in it. -/
theorem exists_withChunks (positive : 1 ≤ size) (stamps : List Int) (window : RangeRequest) :
    ∃ inside parts, Chunked size.toNat inside parts ∧ withChunks size (some stamps) window =
      .ok (parts.map fun part => { window with timestamps := some part }) := by
  let inside := (stamps.filter (Bound.within window.start window.stop)).mergeSort
  refine ⟨inside, chunksOf size.toNat inside, chunked_chunksOf (by omega) inside, ?_⟩
  simp only [withChunks, chunks, if_pos positive, Except.map]
  rfl

/-- A request without a calendar unit is planned as commands of a chunk at most. -/
theorem exists_bounded (zone : String) (positive : 1 ≤ size)
    (stamped : request.timestamps = some stamps) (listed : stamps ≠ [])
    (plain : request.unit? = none) :
    ∃ plan, make size zone request = .ok plan ∧ plan.Bounded size.toNat := by
  have given : request.timestamps ≠ some [] := by simpa [stamped] using listed
  have each (window : RangeRequest) : ∃ requests, withChunks size (some stamps) window =
      .ok requests := by
    obtain ⟨_, _, -, dealt⟩ := exists_withChunks positive stamps window
    exact ⟨_, dealt⟩
  obtain ⟨parts, cut⟩ :=
    exists_mapM_ok fun window (_ : window ∈ fixedWindows request) => each window
  refine ⟨_, by rw [make_of_plain request size zone plain given, fixedRequests, stamped, cut]; rfl,
    fun query member => ?_⟩
  obtain ⟨single, among, rfl⟩ := List.mem_map.1 member
  have asked : single ∈ parts.flatten := by
    split at among
    · exact List.mem_reverse.1 among
    · exact among
  obtain ⟨requests, part, inside⟩ := List.mem_flatten.1 asked
  obtain ⟨window, -, found⟩ := exists_of_mem_mapM cut part
  obtain ⟨_, chunks, chunked, dealt⟩ := exists_withChunks positive stamps window
  cases found.symm.trans dealt
  obtain ⟨chunk, chunkMember, rfl⟩ := List.mem_map.1 inside
  exact ⟨chunk, rfl, chunked.bounded chunk chunkMember⟩

end QueryPlan

end CalendarSeries
