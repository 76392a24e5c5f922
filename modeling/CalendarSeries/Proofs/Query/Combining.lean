import CalendarSeries.Proofs.Query.CalendarResult
import CalendarSeries.Proofs.Query.RoundTrip
import CalendarSeries.Proofs.Sample.Merge
/-!
Series that are fetched to be combined. If each command of a calendar query is answered by one row
at its alignment, or by none, the query gives one sample for each bucket, at the bucket's start.
Series that are fetched alike then line up, and a merge pairs the values of the same bucket,
whatever its policy is.
-/
namespace CalendarSeries

/-- A reply without rows, or with one row, which has a timestamp and a number. -/
inductive RowAt (stamp : Int) : Value → Option Decimal → Prop
  | none {reply : Value} (sound : Error.ofValue? reply = .none)
      (rows : QueryPlan.replyRows reply = .ok []) : RowAt stamp reply .none
  | one {reply row first second : Value} {number : Decimal} (sound : Error.ofValue? reply = .none)
      (rows : QueryPlan.replyRows reply = .ok [row]) (pair : row.pair = .ok (first, second))
      (stamped : first.toInteger = .ok stamp) (numbered : second.toDecimal = .ok number) :
      RowAt stamp reply (.some number)

theorem RowAt.replyElements_eq {stamp : Int} {reply : Value} {number : Option Decimal}
    (row : RowAt stamp reply number) :
    QueryPlan.replyElements reply =
      .ok (number.toList.map fun number => .sample stamp (.decimal number)) := by
  cases row with
  | none sound rows =>
    simp only [QueryPlan.replyElements, sound, rows]
    rfl
  | one sound rows pair stamped numbered =>
    simp only [QueryPlan.replyElements, sound, rows, bind, Except.bind, List.mapM_cons,
      List.mapM_nil, QueryPlan.rowElement, Element.ofRow, pair, stamped, numbered]
    rfl

/-- Whether a request has no filters by time, and buckets without samples are reported. -/
structure RangeRequest.ReportsAll (request : RangeRequest) : Prop where
  unstamped : request.timestamps = none
  whole : request.ranges = none ∨ request.ranges = some []
  filled : request.includeEmpty = true

/-- A series that is fetched: its query, and what each bucket's command is answered by. -/
structure Fetch where
  builder : Builder
  reply : Bucket → Value
  number : Bucket → Option Decimal
  answered : ∀ bucket, RowAt bucket.start (reply bucket) (number bucket)

namespace Fetch

abbrev request (fetch : Fetch) : RangeRequest :=
  fetch.builder.request

/-- The number that the series has for a bucket. -/
def numberAt (fetch : Fetch) (bucket : Bucket) : Decimal :=
  (fetch.number bucket).getD Decimal.notANumber

/-- The answer to the one batch of the query. -/
def answer (buckets : List Bucket) (fetch : Fetch) : Answer :=
  .reply (.list (buckets.map fetch.reply))

/-- The samples of the query, one for each bucket. -/
def samples (buckets : List Bucket) (fetch : Fetch) : Samples where
  elements := buckets.map fun bucket => .sample bucket.start (.decimal (fetch.numberAt bucket))
  metadata := [(.text "key", fetch.request.key)]

variable {buckets : List Bucket} {fetch : Fetch}

theorem readings_samples :
    (fetch.samples buckets).readings = buckets.map fun bucket =>
      (bucket.start, .decimal (fetch.numberAt bucket)) := by
  simp [Samples.readings, samples, List.filterMap_map, Function.comp_def, Element.reading?]

theorem failures_samples : (fetch.samples buckets).failures = [] := by
  simp [Samples.failures, samples, List.filterMap_map, Function.comp_def, Element.failure?]

end Fetch

namespace QueryPlan

open Link

variable {request : RangeRequest} {statistic : Statistic} {unit : CalendarUnit} {size : Int}
  {buckets : List Bucket} {fetch : Fetch}

/-- The buckets in the order in which a result has them. -/
def inOrder (request : RangeRequest) (buckets : List Bucket) : List Bucket :=
  if request.reverse then buckets.reverse else buckets

theorem inOrder_nodup (distinct : (buckets.map Bucket.start).Nodup) :
    ((inOrder request buckets).map Bucket.start).Nodup := by
  unfold inOrder
  split
  · rwa [List.map_reverse, List.nodup_reverse]
  · exact distinct

theorem subqueries_unfiltered (size : Int) (statistic : Statistic) (buckets : List Bucket)
    (plain : request.ReportsAll) :
    (calendarPlan size request statistic buckets).subqueries = buckets.zipIdx.map
      fun (bucket, index) => ⟨index, windowRequest request statistic bucket
        ⟨bucket.start, bucket.last, none⟩⟩ :=
  subqueries_whole size statistic buckets plain.unstamped plain.whole

/-- The commands of a calendar plan can be put in words. -/
theorem exists_commandsOf (size : Int) (statistic : Statistic) (buckets : List Bucket)
    (plain : request.ReportsAll) :
    ∃ commands, commandsOf (calendarPlan size request statistic buckets).subqueries =
      .ok commands := by
  rw [subqueries_unfiltered size statistic buckets plain, commandsOf, List.mapM_map]
  exact ⟨_, mapM_of_forall fun _ _ => rfl⟩

/-- A plan whose commands are answered bucket by bucket gives each bucket one sample. -/
theorem reconcile_fetched (size : Int) (statistic : Statistic)
    (plain : fetch.request.ReportsAll) (inhabited : buckets ≠ []) :
    (calendarPlan size fetch.request statistic buckets).reconcile (buckets.map fetch.reply) =
      .ok (fetch.samples (inOrder fetch.request buckets)) := by
  let points (bucket : Bucket) : List Element :=
    (fetch.number bucket).toList.map fun number => .sample bucket.start (.decimal number)
  have replies : buckets.map fetch.reply =
      buckets.zipIdx.map fun (bucket, _) => fetch.reply bucket := by
    rw [← List.zipIdx_map_fst 0 buckets, List.map_map, List.zipIdx_map_fst]
    rfl
  have answered : (calendarPlan size fetch.request statistic buckets).answered
      (buckets.map fetch.reply) = .ok (buckets.zipIdx.flatMap fun (bucket, index) =>
        [points bucket].map (index, ·)) := by
    have each : (buckets.zipIdx.mapM fun (bucket, index) =>
        (replyElements (fetch.reply bucket)).map fun elements => (index, elements)) =
        .ok (buckets.zipIdx.map fun (bucket, index) => (index, points bucket)) :=
      mapM_of_forall fun (bucket, index) _ => by
        simp only [(fetch.answered bucket).replyElements_eq]
        rfl
    rw [QueryPlan.answered, subqueries_unfiltered size statistic buckets plain, replies,
      List.zip_map', List.mapM_map]
    refine Eq.trans each ?_
    rw [List.map_eq_flatMap]
    rfl
  have each (bucket : Bucket) : elementsOf fetch.request bucket [points bucket] =
      [.sample bucket.start (.decimal (fetch.numberAt bucket))] := by
    rw [elementsOf, Fetch.numberAt, List.flatten_singleton]
    cases reported : fetch.number bucket with
    | none => simp [points, reported, plain.filled]
    | some number => simp [points, reported]
  have assembled : (calendarPlan size fetch.request statistic buckets).assemble
      (buckets.zipIdx.flatMap fun (bucket, index) => [points bucket].map (index, ·)) =
      (fetch.samples buckets).elements :=
    (assemble_eq inhabited _).trans
      ((congrArg (List.flatMap · buckets) (funext each)).trans List.map_eq_flatMap.symm)
  rw [reconcile, answered, Except.map, assembled]
  cases turned : fetch.request.reverse <;>
    simp [calendarPlan, inOrder, Fetch.samples, turned]

/-- The replies that come back for a batch are those that the server was scripted to give. -/
theorem execute_replied {context : Context} {plan : QueryPlan} {link : Link}
    {commands : List (List String)} {replies : List Value} {rest : List Answer}
    (some : plan.subqueries ≠ []) (worded : commandsOf plan.subqueries = .ok commands)
    (answers : link.answers = .reply (.list replies) :: rest) :
    ∃ after, perform (plan.execute context) link = (plan.settle replies, after) ∧
      after.answers = rest := by
  obtain ⟨came, trace, after, performed, -, sent⟩ := execute_sent context plan link
  rw [answers] at sent
  refine ⟨after, ?_⟩
  generalize after.answers = left at sent
  cases sent with
  | nothing none => exact absurd none some
  | unworded unworded => cases unworded.symm.trans worded
  | batch => exact ⟨performed, rfl⟩

end QueryPlan

namespace Fetch

open Link

variable {context : Context} {request : RangeRequest} {statistic : Statistic}
  {unit : CalendarUnit} {start stop : Int} {buckets : List Bucket}

theorem execute_fetched {fetch : Fetch} {link : Link} {rest : List Answer}
    (planned : QueryPlan.make context.chunkSize context.zone fetch.request =
      .ok (QueryPlan.calendarPlan context.chunkSize fetch.request statistic buckets))
    (plain : fetch.request.ReportsAll) (inhabited : buckets ≠ [])
    (answers : link.answers = fetch.answer buckets :: rest) :
    ∃ after, perform (fetch.builder.execute context) link =
        (.ok (fetch.samples (QueryPlan.inOrder fetch.request buckets)), after) ∧
      after.answers = rest := by
  have subqueries :=
    QueryPlan.subqueries_unfiltered context.chunkSize statistic buckets plain
  obtain ⟨commands, worded⟩ :=
    QueryPlan.exists_commandsOf context.chunkSize statistic buckets plain
  let noted : Link :=
    { link with
      notes := link.notes ++ QueryPlan.notes context.chunkSize context.zone fetch.request }
  have waiting : noted.answers = .reply (.list (buckets.map fetch.reply)) :: rest := answers
  obtain ⟨after, performed, left⟩ :=
    QueryPlan.execute_replied (by simp [subqueries, inhabited]) worded waiting
  have settled : (QueryPlan.calendarPlan context.chunkSize fetch.request statistic
      buckets).settle (buckets.map fetch.reply) =
      .ok (fetch.samples (QueryPlan.inOrder fetch.request buckets)) := by
    rw [QueryPlan.settle, if_neg (by simp [subqueries]),
      QueryPlan.reconcile_fetched context.chunkSize statistic plain inhabited]
  refine ⟨after, ?_, left⟩
  rw [settled] at performed
  unfold Builder.execute QueryPlan.prepare
  simp only [perform_bind, perform_ofExcept, planned]
  exact performed

/-- Series are fetched one after another, each with the next answer. -/
theorem execute_all {fetches : List Fetch} {ordered : List Bucket}
    (each : ∀ fetch ∈ fetches, ∀ (link : Link) (rest : List Answer),
      link.answers = fetch.answer buckets :: rest →
      ∃ after, perform (fetch.builder.execute context) link =
        (.ok (fetch.samples ordered), after) ∧ after.answers = rest)
    {link : Link} (answers : link.answers = fetches.map (answer buckets)) :
    ∃ after, perform (fetches.mapM fun fetch => fetch.builder.execute context) link =
      (.ok (fetches.map (samples ordered)), after) := by
  induction fetches generalizing link with
  | nil => exact ⟨link, rfl⟩
  | cons fetch rest ih =>
    obtain ⟨next, first, left⟩ := each fetch List.mem_cons_self link _ answers
    obtain ⟨after, others⟩ :=
      ih (fun other member => each other (List.mem_cons_of_mem _ member)) left
    refine ⟨after, ?_⟩
    rw [List.mapM_cons, perform_bind, first]
    simp only [perform_bind, others]
    rfl

/-- Sets of samples, one for each series, that line up with buckets: every policy merges them into
the values that the series have for each bucket. -/
structure LineUp (buckets : List Bucket) (fetches : List Fetch) (sets : List Samples) : Prop where
  sound : ∀ samples ∈ sets, samples.failures = []
  stamps : ∀ samples ∈ sets, samples.readings.map (·.1) = buckets.map Bucket.start
  merged : ∀ policy, (Samples.merge policy sets).elements =
    if fetches.isEmpty then []
    else buckets.map fun bucket => .merged bucket.start
      (.pending (fetches.map fun fetch => .decimal (fetch.numberAt bucket)))

theorem lineUp_samples (fetches : List Fetch) (distinct : (buckets.map Bucket.start).Nodup) :
    LineUp buckets fetches (fetches.map (samples buckets)) where
  sound samples member := by
    obtain ⟨fetch, -, rfl⟩ := List.mem_map.1 member
    exact failures_samples
  stamps samples member := by
    obtain ⟨fetch, -, rfl⟩ := List.mem_map.1 member
    simp [readings_samples]
  merged policy := by
    cases fetches with
    | nil => cases policy <;> rfl
    | cons first rest =>
      exact Samples.merge_along policy distinct (List.cons_ne_nil first rest) fun fetch _ =>
        readings_samples

/-- The first two days in universal time, by their sums. -/
def firstDays (key : String) : Builder :=
  ⟨⟨.int 0, .int 172800000, none, none, none⟩,
    { key := .text key, start := .instant 0, stop := .instant 172800000,
      aggregation := some ⟨.sum, .calendar .day⟩ }⟩

/-- A series with a number for each day. -/
def heating : Fetch where
  builder := firstDays "heating"
  reply bucket := .list [.list [.int bucket.start, .text "5"]]
  number _ := some (Decimal.ofInt 5)
  answered _ := .one rfl rfl rfl rfl rfl

/-- A series with a number for the first day only. -/
def cooling : Fetch where
  builder := firstDays "cooling"
  reply bucket :=
    if bucket.start = 0 then .list [.list [.int bucket.start, .text "7"]] else .list []
  number bucket := if bucket.start = 0 then some (Decimal.ofInt 7) else none
  answered bucket := by
    split
    · exact .one rfl rfl rfl rfl rfl
    · exact .none rfl rfl

end Fetch

end CalendarSeries
