import CalendarSeries.Proofs.Bucket.Tiling
import CalendarSeries.Proofs.Gathering
import CalendarSeries.Proofs.Query.Windows
/-!
From the windows of a calendar plan to its samples. Every window in which the server finds values
gives one sample at the start of its bucket, and a bucket without any gives one that is not a
number, or nothing.
-/
namespace CalendarSeries

variable {α : Type} (server : Server α) (series : List (Int × α))

namespace Server

/-- The number that the reply to one command carries, if it selects any values. -/
def numbers (call : Call) : List Decimal :=
  match server.valuesOf series call with
  | [] => []
  | values => [server.number call.statistic values]

/-- A reply of at most one row is read as it is meant. -/
theorem replyElements_eq {call : Call}
    (inside : ∀ sample ∈ server.selection series call,
      call.align ≤ sample.1 ∧ sample.1 < call.align + call.duration) :
    QueryPlan.replyElements (.list (server.rows series call)) =
      .ok ((server.numbers series call).map fun number =>
        .sample call.align (.decimal number)) := by
  rw [server.rows_of_first_slot series inside, numbers]
  cases server.valuesOf series call with
  | nil => rfl
  | cons value values =>
    have readable := server.readable call.statistic (value :: values) (by simp)
    simp [QueryPlan.replyElements, Error.ofValue?, QueryPlan.replyRows, Value.isTrue,
      Value.iterate, bind, Except.bind, rowElement_eq readable, pure, Except.pure]

end Server

namespace QueryPlan

variable {request : RangeRequest} {statistic : Statistic} {bucket : Bucket}

theorem selection_inside {size : Int} {window : Window}
    (member : window ∈ windows size request bucket) :
    ∀ sample ∈ server.selection series (windowCall request statistic bucket window),
      bucket.start ≤ sample.1 ∧ sample.1 < bucket.start + max bucket.duration 1 := by
  intro sample selected
  have passed := (List.mem_filter.1 selected).2
  simp only [Server.selects, windowCall, Bool.and_eq_true] at passed
  obtain ⟨⟨⟨after, before⟩, -⟩, -⟩ := passed
  exact windows_inside_duration member (of_decide_eq_true after) (of_decide_eq_true before)

/-- Each command of a plan is answered. -/
theorem answer?_eq {size : Int} {window : Window} (index : Nat)
    (member : window ∈ windows size request bucket) :
    server.answer? series ⟨index, windowRequest request statistic bucket window⟩ =
      some (.list (server.rows series (windowCall request statistic bucket window))) := by
  obtain ⟨arguments, found, read⟩ := Call.exists_arguments
    (show (windowRequest request statistic bucket window).start = _ from rfl) rfl rfl rfl rfl
    (windows_listed member)
  simp only [Server.answer?, found, Except.toOption, Option.bind_eq_bind, Option.bind_some]
  have forward : (windowRequest request statistic bucket window).command = "TS.RANGE" := rfl
  rw [if_pos forward, read]
  rfl

/-- The numbers of one bucket: that of each window with values, else one that is not a number if
empty buckets are reported. -/
def bucketNumbers (size : Int) (request : RangeRequest) (statistic : Statistic) (bucket : Bucket) :
    List Decimal :=
  match (windows size request bucket).flatMap fun window =>
    server.numbers series (windowCall request statistic bucket window) with
  | [] => if request.includeEmpty then [Decimal.notANumber] else []
  | numbers => numbers

/-- The samples of one bucket, all of them at its start. -/
def bucketPoints (size : Int) (request : RangeRequest) (statistic : Statistic) (bucket : Bucket) :
    List Element :=
  (bucketNumbers server series size request statistic bucket).map fun number =>
    .sample bucket.start (.decimal number)

/-- The samples of one window. -/
def windowPoints (request : RangeRequest) (statistic : Statistic) (bucket : Bucket)
    (window : Window) : List Element :=
  (server.numbers series (windowCall request statistic bucket window)).map fun number =>
    .sample bucket.start (.decimal number)

variable {unit : CalendarUnit} {size start stop : Int} {zone : String} {buckets : List Bucket}

/-- The replies to all commands of a calendar plan. -/
def calendarReplies (size : Int) (request : RangeRequest) (statistic : Statistic)
    (buckets : List Bucket) : List Value :=
  (allWindows size request buckets).map fun (_, bucket, window) =>
    .list (server.rows series (windowCall request statistic bucket window))

theorem answer?_all (buckets : List Bucket) :
    (calendarPlan size request statistic buckets).subqueries.mapM (server.answer? series) =
      some (calendarReplies server series size request statistic buckets) := by
  rw [calendarPlan, List.mapM_map]
  exact mapM_of_forall fun numbered member =>
    answer?_eq server series numbered.1 (mem_allWindows member).2

theorem answered_eq (buckets : List Bucket) :
    (calendarPlan size request statistic buckets).answered
        (calendarReplies server series size request statistic buckets) =
      .ok (buckets.zipIdx.flatMap fun (bucket, index) =>
        ((windows size request bucket).map
          (windowPoints server series request statistic bucket)).map (index, ·)) := by
  have each : ((allWindows size request buckets).mapM fun (index, bucket, window) =>
      (replyElements (.list (server.rows series (windowCall request statistic bucket window)))).map
        fun elements => (index, elements)) =
      .ok ((allWindows size request buckets).map fun (index, bucket, window) =>
        (index, windowPoints server series request statistic bucket window)) := by
    apply mapM_of_forall
    intro (index, bucket, window) member
    simp only [server.replyElements_eq series
      (selection_inside server series (mem_allWindows member).2), Except.map]
    rfl
  simp only [answered, calendarPlan, calendarReplies, List.zip_map', List.mapM_map]
  refine each.trans ?_
  simp only [allWindows, List.flatMap, List.map_flatten, List.map_map, Function.comp_def]

/-- The elements of a bucket, from those of its commands; if there are none, one that is not a
number where empty buckets are reported. -/
def elementsOf (request : RangeRequest) (bucket : Bucket) (parts : List (List Element)) :
    List Element :=
  match parts.flatten with
  | [] => if request.includeEmpty then [.sample bucket.start (.decimal Decimal.notANumber)] else []
  | elements => elements

/-- What the commands of each bucket come to is put together bucket by bucket. -/
theorem assemble_eq (inhabited : buckets ≠ []) (parts : Bucket → List (List Element)) :
    (calendarPlan size request statistic buckets).assemble
        (buckets.zipIdx.flatMap fun (bucket, index) => (parts bucket).map (index, ·)) =
      buckets.flatMap fun bucket => elementsOf request bucket (parts bucket) := by
  have calendar : buckets.isEmpty = false := by simpa using inhabited
  have count : (calendarPlan size request statistic buckets).bucketCount = buckets.length := by
    simp [bucketCount, calendarPlan, calendar]
  rw [assemble, count]
  apply flatMap_range_eq
  intro index bucket there
  have gathered := gathered_eq parts 0 index there
  rw [Nat.zero_add] at gathered
  have placed : (calendarPlan size request statistic buckets).placeholder index =
      if request.includeEmpty then [.sample bucket.start (.decimal Decimal.notANumber)]
      else [] := by
    simp [placeholder, fillsEmpty, isCalendar, calendarPlan, calendar, there]
  rw [bucketElements, gathered, placed]
  unfold elementsOf
  cases (parts bucket).flatten <;> rfl

/-- The samples of a calendar plan are those of its buckets, one bucket after another. -/
theorem reconcile_eq (buckets : List Bucket) (some : buckets ≠ []) :
    (calendarPlan size request statistic buckets).reconcile
        (calendarReplies server series size request statistic buckets) =
      .ok ⟨if request.reverse
          then (buckets.flatMap (bucketPoints server series size request statistic)).reverse
          else buckets.flatMap (bucketPoints server series size request statistic),
        [(.text "key", request.key)]⟩ := by
  have each (bucket : Bucket) :
      elementsOf request bucket ((windows size request bucket).map
        (windowPoints server series request statistic bucket)) =
      bucketPoints server series size request statistic bucket := by
    have points : ((windows size request bucket).map
        (windowPoints server series request statistic bucket)).flatten =
        ((windows size request bucket).flatMap fun window =>
          server.numbers series (windowCall request statistic bucket window)).map fun number =>
            .sample bucket.start (.decimal number) := by
      simp only [List.flatMap, List.map_flatten, List.map_map, Function.comp_def]
      rfl
    rw [elementsOf, points, bucketPoints, bucketNumbers]
    cases List.flatMap _ (windows size request bucket) with
    | nil => cases request.includeEmpty <;> rfl
    | cons => rfl
  have assembled : (calendarPlan size request statistic buckets).assemble
      (buckets.zipIdx.flatMap fun (bucket, index) => ((windows size request bucket).map
        (windowPoints server series request statistic bucket)).map (index, ·)) =
      buckets.flatMap (bucketPoints server series size request statistic) :=
    (assemble_eq some _).trans (congrArg (List.flatMap · buckets) (funext each))
  rw [reconcile, answered_eq, Except.map]
  simp only [assembled]
  rfl

end QueryPlan

end CalendarSeries
