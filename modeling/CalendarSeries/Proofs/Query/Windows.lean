import CalendarSeries.Proofs.Outcome
import CalendarSeries.Proofs.Query.Chunks
import CalendarSeries.Proofs.Query.Server
/-!
The windows of a calendar plan. Each bucket is served by one command for each sub-range that it
holds and each chunk of the timestamps in it. The windows lie within the bucket, so every command
gets one row at most, at the bucket's start.
-/
namespace CalendarSeries

/-- The part of a bucket that one command asks for. -/
structure Window where
  start : Int
  stop : Int
  /-- The timestamps to which the samples are restricted. -/
  stamps : Option (List Int)

namespace QueryPlan

/-- The sub-ranges that a bucket holds, or all of it if none are asked for. -/
def spans (ranges : Option (List TimeRange)) (bucket : Bucket) : List (Int × Int) :=
  match ranges with
  | none => [(bucket.start, bucket.last)]
  | some [] => [(bucket.start, bucket.last)]
  | some ranges => (ranges.filter fun range => bucket.contains range.start range.stop).map
      fun range => (range.start, range.stop)

/-- The chunks of the timestamps in a sub-range. -/
def stampChunks (size : Int) (timestamps : Option (List Int)) (span : Int × Int) :
    List (Option (List Int)) :=
  match timestamps with
  | none => [none]
  | some stamps =>
    (chunksOf size.toNat ((stamps.filter fun stamp =>
      span.1 ≤ stamp && stamp ≤ span.2).mergeSort)).map some

def windows (size : Int) (request : RangeRequest) (bucket : Bucket) : List Window :=
  (spans request.ranges bucket).flatMap fun span =>
    (stampChunks size request.timestamps span).map fun stamps => ⟨span.1, span.2, stamps⟩

/-- The windows of all buckets, each with its bucket and the bucket's number. -/
def allWindows (size : Int) (request : RangeRequest) (buckets : List Bucket) :
    List (Nat × Bucket × Window) :=
  buckets.zipIdx.flatMap fun (bucket, index) =>
    (windows size request bucket).map fun window => (index, bucket, window)

/-- The request of one window. -/
def windowRequest (request : RangeRequest) (statistic : Statistic) (bucket : Bucket)
    (window : Window) : RangeRequest :=
  { request with
    start := .instant window.start
    stop := .instant window.stop
    aggregation := some ⟨statistic, .fixed (max bucket.duration 1)⟩
    align := .int bucket.start
    includeEmpty := false
    reverse := false
    timestamps := window.stamps
    ranges := none }

/-- The plan of a calendar request over its buckets. -/
def calendarPlan (size : Int) (request : RangeRequest) (statistic : Statistic)
    (buckets : List Bucket) : QueryPlan where
  request
  buckets
  subqueries := (allWindows size request buckets).map fun (index, bucket, window) =>
    ⟨index, windowRequest request statistic bucket window⟩
  reverseResult := request.reverse

/-- What the server reads of it. -/
def windowCall (request : RangeRequest) (statistic : Statistic) (bucket : Bucket)
    (window : Window) : Call :=
  ⟨window.start, window.stop, window.stamps, request.values, bucket.start, statistic,
    max bucket.duration 1⟩

/-- The command of one window. The start of the range stands in the words of the request. -/
def windowQuery (request : RangeRequest) (aggregation : Aggregation) (index : Nat)
    (bucket : Bucket) (window : Window) : SubQuery :=
  let whole := bucketRequest request aggregation index bucket
  match request.ranges with
  | none => ⟨index, { whole with timestamps := window.stamps }⟩
  | some [] => ⟨index, { whole with timestamps := window.stamps }⟩
  | some _ => ⟨index, { whole with
      start := .instant window.start
      stop := .instant window.stop
      timestamps := window.stamps }⟩

/-- The plan of a calendar request over its buckets, whatever the words of its bounds are. -/
def windowPlan (size : Int) (request : RangeRequest) (aggregation : Aggregation)
    (buckets : List Bucket) : QueryPlan where
  request
  buckets
  subqueries := (allWindows size request buckets).map fun (index, bucket, window) =>
    windowQuery request aggregation index bucket window
  reverseResult := request.reverse

variable {request : RangeRequest} {statistic : Statistic} {unit : CalendarUnit} {bucket : Bucket}
  {aggregation : Aggregation} {index : Nat} {window : Window}

theorem bucketWindows_eq :
    bucketWindows request.ranges bucket (bucketRequest request aggregation index bucket) =
      (spans request.ranges bucket).map fun span =>
        (windowQuery request aggregation index bucket ⟨span.1, span.2, none⟩).request := by
  unfold windowQuery
  match ranges : request.ranges with
  | none => rfl
  | some [] => rfl
  | some (range :: ranges) =>
    simp only [bucketWindows, spans, List.map_map]
    rfl

/-- The bounds of a whole bucket, where it starts as the request has it. -/
theorem bucketRequest_bounds (aggregation : Aggregation)
    (starts : (startOf request index bucket).instant? = some bucket.start) :
    (bucketRequest request aggregation index bucket).start.instant? = some bucket.start ∧
      (bucketRequest request aggregation index bucket).stop.instant? = some bucket.last := by
  refine ⟨starts, ?_⟩
  unfold bucketRequest Bucket.last
  dsimp only
  split
  · rw [Int.max_eq_left (by omega)]
    exact starts
  · rw [Int.max_eq_right (by omega)]
    rfl

/-- A command asks for its bucket as a whole does, but for its bounds and timestamps. -/
theorem exists_windowQuery : ∃ start stop, windowQuery request aggregation index bucket window =
    ⟨index, { bucketRequest request aggregation index bucket with
      start, stop, timestamps := window.stamps }⟩ := by
  unfold windowQuery
  match request.ranges with
  | none | some [] => exact ⟨_, _, rfl⟩
  | some (_ :: _) => exact ⟨_, _, rfl⟩

@[simp] theorem windowQuery_bucket :
    (windowQuery request aggregation index bucket window).bucket = index := by
  obtain ⟨_, _, same⟩ := exists_windowQuery
  rw [same]

@[simp] theorem windowQuery_timestamps :
    (windowQuery request aggregation index bucket window).request.timestamps =
      window.stamps := by
  obtain ⟨_, _, same⟩ := exists_windowQuery
  rw [same]

/-- A command has the bounds of its window. -/
theorem windowQuery_bounds (starts : (startOf request index bucket).instant? = some bucket.start)
    (member : (window.start, window.stop) ∈ spans request.ranges bucket) :
    let query := windowQuery request aggregation index bucket window
    query.request.start.instant? = some window.start ∧
      query.request.stop.instant? = some window.stop := by
  have whole := bucketRequest_bounds aggregation starts
  unfold windowQuery
  match ranges : request.ranges with
  | none | some [] =>
    rw [ranges, spans, List.mem_singleton, Prod.mk.injEq] at member
    rw [member.1, member.2]
    exact whole
  | some (_ :: _) => exact ⟨rfl, rfl⟩

theorem windowQuery_stamped (stamps others : Option (List Int)) (first last : Int) :
    { (windowQuery request aggregation index bucket ⟨first, last, others⟩).request with
      timestamps := stamps } =
      (windowQuery request aggregation index bucket ⟨first, last, stamps⟩).request := by
  unfold windowQuery
  match request.ranges with
  | none => rfl
  | some [] => rfl
  | some (_ :: _) => rfl

theorem withChunks_eq {size : Int} {timestamps : Option (List Int)}
    (dealt : timestamps = none ∨ 1 ≤ size)
    (starts : (startOf request index bucket).instant? = some bucket.start)
    {span : Int × Int} (member : span ∈ spans request.ranges bucket) :
    withChunks size timestamps
        (windowQuery request aggregation index bucket ⟨span.1, span.2, none⟩).request =
      .ok ((stampChunks size timestamps span).map fun stamps =>
        (windowQuery request aggregation index bucket ⟨span.1, span.2, stamps⟩).request) := by
  match timestamps with
  | none => rfl
  | some stamps =>
    have positive : 1 ≤ size := dealt.resolve_left (by simp)
    let window : Window := ⟨span.1, span.2, none⟩
    obtain ⟨first, last⟩ := windowQuery_bounds starts
      (show (window.start, window.stop) ∈ spans request.ranges bucket from member)
    have within (stamp : Int) : Bound.within
        (windowQuery request aggregation index bucket ⟨span.1, span.2, none⟩).request.start
        (windowQuery request aggregation index bucket ⟨span.1, span.2, none⟩).request.stop stamp =
        (span.1 ≤ stamp && stamp ≤ span.2) := by
      rw [Bound.within, first, last]
      rfl
    simp only [withChunks, chunks, if_pos positive, stampChunks, List.map_map, Except.map,
      windowQuery_stamped, funext within]
    rfl

/-- The commands of a bucket are those of its windows. -/
theorem bucketQueries_eq {size : Int} (dealt : request.timestamps = none ∨ 1 ≤ size)
    (starts : (startOf request index bucket).instant? = some bucket.start) :
    bucketQueries size request aggregation bucket index =
      .ok ((windows size request bucket).map
        (windowQuery request aggregation index bucket)) := by
  have parts : (bucketWindows request.ranges bucket
      (bucketRequest request aggregation index bucket)).mapM
        (withChunks size request.timestamps) =
      .ok ((spans request.ranges bucket).map fun span =>
        (stampChunks size request.timestamps span).map fun stamps =>
          (windowQuery request aggregation index bucket ⟨span.1, span.2, stamps⟩).request) := by
    rw [bucketWindows_eq, List.mapM_map]
    exact mapM_of_forall fun span member => withChunks_eq dealt starts member
  have numbered (window : Window) :
      (⟨index, (windowQuery request aggregation index bucket window).request⟩ : SubQuery) =
        windowQuery request aggregation index bucket window := by
    unfold windowQuery
    match request.ranges with
    | none => rfl
    | some [] => rfl
    | some (_ :: _) => rfl
  simp only [bucketQueries, parts, bind, Except.bind]
  simp only [windows, List.flatMap, List.map_flatten, List.map_map, Function.comp_def, numbered]

/-- Only a filter of no timestamps at all is refused. -/
theorem any_isEmpty (listed : request.timestamps ≠ some []) :
    request.timestamps.any List.isEmpty = false := by
  match stamps : request.timestamps with
  | none => rfl
  | some [] => exact absurd stamps listed
  | some (_ :: _) => rfl

theorem make_of_unit (request : RangeRequest) (size : Int) (zone : String)
    {aggregation : Aggregation}
    (aggregated : request.aggregation = some aggregation) (united : aggregation.unit? = some unit)
    (listed : request.timestamps ≠ some []) :
    make size zone request =
      calendar size (RangeRequest.zoneOr zone request.timezone) request aggregation unit := by
  have calendar? : calendarAggregation? request = some (aggregation, unit) := by
    rw [calendarAggregation?, aggregated, Option.bind_eq_bind, Option.bind_some, united]
    rfl
  simp only [make, any_isEmpty listed, calendar?]
  rfl

/-- A calendar request over a range in order is planned bucket by bucket. -/
theorem make_calendar {size start stop : Int} {zone : String}
    (starts : request.start.instant? = some start) (stops : request.stop.instant? = some stop)
    (aggregated : request.aggregation = some ⟨statistic, .calendar unit⟩)
    (listed : request.timestamps ≠ some []) (order : start ≤ stop) :
    make size zone request = (do
      let buckets ← Bucket.calendar unit (RangeRequest.zoneOr zone request.timezone) start stop
      let parts ← buckets.zipIdx.mapM fun (bucket, index) =>
        bucketQueries size request ⟨statistic, .calendar unit⟩ bucket index
      .ok ⟨request, buckets, parts.flatten, request.reverse⟩) := by
  have range : calendarRange request unit = .ok (start, stop) := by
    simp only [calendarRange, starts, stops, if_neg (Int.not_lt.2 order)]
  rw [make_of_unit request size zone aggregated rfl listed, calendar, range]
  rfl

/-- The first bucket starts where the request does, in its words. -/
theorem startOf_instant? {start : Int} {buckets : List Bucket}
    (starts : request.start.instant? = some start)
    (begins : buckets.head?.map Bucket.start = some start)
    (there : buckets[index]? = some bucket) :
    (startOf request index bucket).instant? = some bucket.start := by
  unfold startOf
  split
  · rename_i zero
    rw [zero, ← List.head?_eq_getElem?] at there
    rw [there, Option.map_some, Option.some.injEq] at begins
    rw [starts, begins]
  · rfl

/-- A calendar request whose range begins where its first bucket does is planned by windows. -/
theorem make_windows (size : Int) {start stop : Int} {zone : String} {buckets : List Bucket}
    (starts : request.start.instant? = some start) (stops : request.stop.instant? = some stop)
    (aggregated : request.aggregation = some ⟨statistic, .calendar unit⟩)
    (listed : request.timestamps ≠ some []) (dealt : request.timestamps = none ∨ 1 ≤ size)
    (order : start ≤ stop)
    (cut : Bucket.calendar unit (RangeRequest.zoneOr zone request.timezone) start stop =
      .ok buckets)
    (begins : buckets.head?.map Bucket.start = some start) :
    make size zone request =
      .ok (windowPlan size request ⟨statistic, .calendar unit⟩ buckets) := by
  have parts : (buckets.zipIdx.mapM fun (bucket, index) =>
      bucketQueries size request ⟨statistic, .calendar unit⟩ bucket index) =
      .ok (buckets.zipIdx.map fun (bucket, index) => (windows size request bucket).map
        (windowQuery request ⟨statistic, .calendar unit⟩ index bucket)) :=
    mapM_of_forall fun (bucket, index) member => bucketQueries_eq dealt
      (startOf_instant? starts begins (List.mk_mem_zipIdx_iff_getElem?.1 member))
  rw [make_calendar starts stops aggregated listed order, cut]
  simp only [parts, bind, Except.bind]
  simp only [windowPlan, allWindows, List.flatMap, List.map_flatten, List.map_map,
    Function.comp_def]

/-- A window is a chunk of the timestamps in a span. -/
theorem mem_windows {size : Int} : window ∈ windows size request bucket ↔
    (window.start, window.stop) ∈ spans request.ranges bucket ∧
      window.stamps ∈ stampChunks size request.timestamps (window.start, window.stop) := by
  simp only [windows, List.mem_flatMap, List.mem_map]
  constructor
  · rintro ⟨span, inside, stamps, dealt, rfl⟩
    exact ⟨inside, dealt⟩
  · rintro ⟨inside, dealt⟩
    exact ⟨_, inside, _, dealt, rfl⟩

/-- What a window of all belongs to. -/
theorem mem_allWindows {size : Int} {buckets : List Bucket}
    (member : (index, bucket, window) ∈ allWindows size request buckets) :
    buckets[index]? = some bucket ∧ window ∈ windows size request bucket := by
  simp only [allWindows, List.mem_flatMap, List.mem_map, Prod.mk.injEq] at member
  obtain ⟨_, numbered, _, inside, rfl, rfl, rfl⟩ := member
  exact ⟨List.mk_mem_zipIdx_iff_getElem?.1 numbered, inside⟩

/-- A command of a plan is that of a window of its bucket. -/
theorem mem_windowPlan {size : Int} {buckets : List Bucket} {query : SubQuery}
    (member : query ∈ (windowPlan size request aggregation buckets).subqueries) :
    ∃ bucket window, buckets[query.bucket]? = some bucket ∧
      window ∈ windows size request bucket ∧
      query = windowQuery request aggregation query.bucket bucket window := by
  obtain ⟨⟨index, bucket, window⟩, listed, rfl⟩ := List.mem_map.1 member
  obtain ⟨there, inside⟩ := mem_allWindows listed
  exact ⟨bucket, window, by rwa [windowQuery_bucket], inside, by rw [windowQuery_bucket]⟩

/-- Where the range starts at an instant, the words are the instants. -/
theorem windowQuery_instant {size : Int}
    (starts : startOf request index bucket = .instant bucket.start)
    (member : window ∈ windows size request bucket) :
    windowQuery request ⟨statistic, .calendar unit⟩ index bucket window =
      ⟨index, windowRequest request statistic bucket window⟩ := by
  have whole : bucketRequest request ⟨statistic, .calendar unit⟩ index bucket =
      windowRequest request statistic bucket ⟨bucket.start, bucket.last, none⟩ := by
    have stop : (if bucket.stop - 1 ≤ bucket.start then Bound.instant bucket.start
        else .instant (bucket.stop - 1)) = .instant bucket.last := by
      unfold Bucket.last
      split
      · rw [Int.max_eq_left (by omega)]
      · rw [Int.max_eq_right (by omega)]
    simp only [bucketRequest, starts, stop]
    rfl
  have inside := (mem_windows.1 member).1
  unfold windowQuery
  match ranges : request.ranges with
  | none | some [] =>
    rw [ranges, spans, List.mem_singleton, Prod.mk.injEq] at inside
    rw [whole, windowRequest, windowRequest, inside.1, inside.2]
  | some (_ :: _) =>
    rw [whole]
    rfl

/-- A calendar request between two instants is planned by windows. -/
theorem make_eq (size : Int) {start stop : Int} {zone : String} {buckets : List Bucket}
    (starts : request.start = .instant start) (stops : request.stop = .instant stop)
    (aggregated : request.aggregation = some ⟨statistic, .calendar unit⟩)
    (listed : request.timestamps ≠ some []) (dealt : request.timestamps = none ∨ 1 ≤ size)
    (order : start ≤ stop)
    (cut : Bucket.calendar unit (RangeRequest.zoneOr zone request.timezone) start stop =
      .ok buckets)
    (begins : buckets.head?.map Bucket.start = some start) :
    make size zone request = .ok (calendarPlan size request statistic buckets) := by
  have first := congrArg Bound.instant? starts
  rw [make_windows size first (congrArg Bound.instant? stops) aggregated listed dealt order cut
    begins]
  have queries : (allWindows size request buckets).map (fun (index, bucket, window) =>
        windowQuery request ⟨statistic, .calendar unit⟩ index bucket window) =
      (allWindows size request buckets).map fun (index, bucket, window) =>
        ⟨index, windowRequest request statistic bucket window⟩ := by
    refine List.map_congr_left fun (index, bucket, window) member => ?_
    obtain ⟨there, inside⟩ := mem_allWindows member
    have worded : startOf request index bucket = .instant bucket.start := by
      have read := startOf_instant? first begins there
      unfold startOf at read ⊢
      split
      · rename_i zero
        rw [if_pos zero, starts] at read
        rw [starts, Bound.instant.injEq]
        exact Option.some.inj read
      · rfl
    exact windowQuery_instant worded inside
  simp only [windowPlan, calendarPlan, queries]

/-- What is asked for in a window lies in its bucket. -/
theorem windows_inside {size : Int} {window : Window}
    (member : window ∈ windows size request bucket) {instant : Int}
    (after : window.start ≤ instant) (before : instant ≤ window.stop) :
    bucket.start ≤ instant ∧ instant ≤ bucket.last := by
  obtain ⟨spanned, -⟩ := mem_windows.1 member
  have inside : bucket.start ≤ window.start ∧ window.stop ≤ bucket.last := by
    match ranges : request.ranges with
    | none | some [] =>
      rw [ranges, spans, List.mem_singleton, Prod.mk.injEq] at spanned
      exact ⟨Int.le_of_eq spanned.1.symm, Int.le_of_eq spanned.2⟩
    | some (_ :: _) =>
      rw [ranges, spans, List.mem_map] at spanned
      · obtain ⟨range, held, same⟩ := spanned
        obtain ⟨first, last⟩ := Prod.mk.inj same
        rw [← first, ← last]
        simpa [Bucket.contains] using (List.mem_filter.1 held).2
      · nofun
  omega

/-- One duration from the start of its bucket covers a window. -/
theorem windows_inside_duration {size : Int} (member : window ∈ windows size request bucket)
    {instant : Int} (after : window.start ≤ instant) (before : instant ≤ window.stop) :
    bucket.start ≤ instant ∧ instant < bucket.start + max bucket.duration 1 := by
  obtain ⟨low, high⟩ := windows_inside member after before
  unfold Bucket.last at high
  unfold Bucket.duration
  omega

/-- A window is restricted to no timestamps only if none are asked for. -/
theorem windows_listed {size : Int} {window : Window}
    (member : window ∈ windows size request bucket) : window.stamps ≠ some [] := by
  obtain ⟨-, dealt⟩ := mem_windows.1 member
  unfold stampChunks at dealt
  split at dealt
  · rw [List.mem_singleton.1 dealt]
    simp
  · obtain ⟨chunk, part, same⟩ := List.mem_map.1 dealt
    intro empty
    cases same.trans empty
    exact nil_not_mem_chunksOf part

end QueryPlan

end CalendarSeries
