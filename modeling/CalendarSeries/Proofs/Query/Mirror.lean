import CalendarSeries.Proofs.Query.Execution
/-!
A reversed request gives the mirror image of the forward one, where the server answers a reversed
command by the rows of the forward one from last to first. Without a calendar unit the order of the
commands is turned round, and each answers from last to first; with one the commands are the same,
and the result is turned round in the end.
-/
namespace CalendarSeries

namespace RangeReply

/-- The same rows from last to first. -/
def mirrored : RangeReply → RangeReply
  | rows listed => rows listed.reverse
  | failed report error reported => failed report error reported

theorem elements_mirrored (reply : RangeReply) :
    reply.mirrored.elements = reply.elements.reverse := by
  cases reply with
  | failed => rfl
  | rows => exact List.map_reverse

/-- The reply to a command, where `answer` has the replies to the forward ones. -/
def respond (answer : List Value → RangeReply) (command : String) (arguments : List Value) :
    Value :=
  if command = "TS.REVRANGE" then (answer arguments).mirrored.value else (answer arguments).value

end RangeReply

def Samples.mirrored (samples : Samples) : Samples :=
  { samples with elements := samples.elements.reverse }

namespace QueryPlan

variable {answer : List Value → RangeReply} {request : RangeRequest}

/-- The elements of the reply to a request's command. -/
def replied (answer : List Value → RangeReply) (request : RangeRequest) : List Element :=
  let elements := (answer (request.arguments.toOption.getD [])).elements
  if request.reverse then elements.reverse else elements

theorem elementsBy_respond (plain : request.unit? = none) :
    elementsBy (RangeReply.respond answer) request = .ok (replied answer request) := by
  obtain ⟨arguments, worded⟩ := arguments_of_plain plain
  unfold elementsBy replied RangeReply.respond RangeRequest.command
  rw [worded]
  cases request.reverse
  · exact RangeReply.replyElements_value _
  · exact (RangeReply.replyElements_value _).trans
      (congrArg Except.ok (RangeReply.elements_mirrored _))

/-- The same request in the given direction. -/
def turned (reverse : Bool) (request : RangeRequest) : RangeRequest :=
  { request with reverse }

theorem fixedWindows_turned (reverse : Bool) (request : RangeRequest) :
    fixedWindows (turned reverse request) = (fixedWindows request).map (turned reverse) := by
  unfold fixedWindows
  match ranges : request.ranges with
  | none => simp only [turned, ranges, List.map_cons, List.map_nil]
  | some [] => simp only [turned, ranges, List.map_cons, List.map_nil]
  | some (first :: rest) =>
    simp only [turned, ranges, List.map_map]
    rfl

theorem withChunks_turned (size : Int) (timestamps : Option (List Int)) (reverse : Bool)
    (window : RangeRequest) :
    withChunks size timestamps (turned reverse window) =
      (withChunks size timestamps window).map (List.map (turned reverse)) := by
  cases timestamps with
  | none => rfl
  | some stamps =>
    unfold withChunks
    simp only [turned]
    cases chunks size ((stamps.filter (Bound.within window.start window.stop)).mergeSort) with
    | error => rfl
    | ok parts =>
      simp only [Except.map, List.map_map]
      rfl

theorem fixedRequests_turned (size : Int) (reverse : Bool) (request : RangeRequest) :
    fixedRequests size (turned reverse request) =
      (fixedRequests size request).map (List.map (turned reverse)) := by
  unfold fixedRequests
  rw [fixedWindows_turned, mapM_map_comm (withChunks_turned size _ reverse)]
  simp only [turned]
  cases (fixedWindows request).mapM (withChunks size request.timestamps) with
  | error => rfl
  | ok parts => simp only [Except.map, List.map_flatten]

theorem aggregation_of_withChunks {size : Int} {timestamps : Option (List Int)}
    {window : RangeRequest} {parts : List RangeRequest}
    (found : withChunks size timestamps window = .ok parts) {part : RangeRequest}
    (member : part ∈ parts) : part.aggregation = window.aggregation := by
  cases timestamps with
  | none =>
    cases found
    rw [List.mem_singleton.1 member]
  | some stamps =>
    obtain ⟨dealt, -, rfl⟩ := map_succeeded found
    obtain ⟨chunk, -, rfl⟩ := List.mem_map.1 member
    rfl

theorem aggregation_of_fixedWindows {window : RangeRequest}
    (member : window ∈ fixedWindows request) : window.aggregation = request.aggregation := by
  unfold fixedWindows at member
  split at member
  · rw [List.mem_singleton.1 member]
  · rw [List.mem_singleton.1 member]
  · obtain ⟨range, -, rfl⟩ := List.mem_map.1 member
    rfl

theorem aggregation_of_fixedRequests {size : Int} {requests : List RangeRequest}
    (found : fixedRequests size request = .ok requests) {single : RangeRequest}
    (member : single ∈ requests) : single.aggregation = request.aggregation := by
  obtain ⟨parts, dealt, rfl⟩ := map_succeeded found
  obtain ⟨part, inside, member⟩ := List.mem_flatten.1 member
  obtain ⟨window, among, found⟩ := exists_of_mem_mapM dealt inside
  rw [aggregation_of_withChunks found member, aggregation_of_fixedWindows among]

/-- Without a calendar unit each command is turned, and their order too. -/
theorem fixed_mirrored (size : Int) (zone : String) (plain : request.unit? = none)
    (listed : request.timestamps ≠ some []) :
    (make size zone (turned true request)).bind (resultBy (RangeReply.respond answer)) =
      ((make size zone (turned false request)).bind (resultBy (RangeReply.respond answer))).map
        Samples.mirrored := by
  have planned (reverse : Bool) := make_of_plain (turned reverse request) size zone plain listed
  rw [planned, planned, fixedRequests_turned, fixedRequests_turned]
  cases found : fixedRequests size request with
  | error => rfl
  | ok requests =>
    have each (reverse : Bool) (single : RangeRequest)
        (member : single ∈ requests.map (turned reverse)) :
        elementsBy (RangeReply.respond answer) single = .ok (replied answer single) := by
      obtain ⟨original, among, rfl⟩ := List.mem_map.1 member
      apply elementsBy_respond
      rw [← plain]
      unfold RangeRequest.unit?
      exact congrArg (·.bind Aggregation.unit?) (aggregation_of_fixedRequests found among)
    have forward := resultBy_fixedPlan (turned false request) (each false)
    have backward := resultBy_fixedPlan (turned true request) fun single
      (member : single ∈ (requests.map (turned true)).reverse) =>
        each true single (List.mem_reverse.1 member)
    refine backward.trans (.trans ?_ (congrArg (Except.map Samples.mirrored) forward.symm))
    simp only [Except.map, Samples.mirrored, List.flatMap_map, List.reverse_flatMap,
      ← List.map_reverse]
    rfl

theorem resultBy_mirrored {respond : String → List Value → Value} (request : RangeRequest)
    (buckets : List Bucket) (subqueries : List SubQuery) :
    resultBy respond ⟨turned true request, buckets, subqueries, true⟩ =
      (resultBy respond ⟨turned false request, buckets, subqueries, false⟩).map
        Samples.mirrored := by
  unfold resultBy
  cases repliesBy respond subqueries with
  | error => rfl
  | ok replies =>
    have answers (reverse : Bool) :
        answered ⟨turned reverse request, buckets, subqueries, reverse⟩ replies =
          answered ⟨request, buckets, subqueries, false⟩ replies := rfl
    simp only [bind, Except.bind, reconcile, answers]
    cases answered ⟨request, buckets, subqueries, false⟩ replies <;> rfl

/-- With a calendar unit the commands stay, and the result is turned. -/
theorem calendar_mirrored {respond : String → List Value → Value} (size : Int) (zone : String)
    (aggregation : Aggregation) (unit : CalendarUnit) :
    (calendar size zone (turned true request) aggregation unit).bind (resultBy respond) =
      ((calendar size zone (turned false request) aggregation unit).bind (resultBy respond)).map
        Samples.mirrored := by
  have range (reverse : Bool) :
      calendarRange (turned reverse request) unit = calendarRange request unit := rfl
  have queries (reverse : Bool) :
      bucketQueries size (turned reverse request) aggregation =
        bucketQueries size request aggregation := rfl
  simp only [calendar, range, queries, bind, Except.bind]
  rcases calendarRange request unit with _ | ⟨start, stop⟩
  · rfl
  simp only
  rcases Bucket.calendar unit zone start stop with _ | buckets
  · rfl
  simp only
  generalize (buckets.zipIdx.mapM _ : Except Error (List (List SubQuery))) = queried
  cases queried with
  | error => rfl
  | ok parts => exact resultBy_mirrored request buckets parts.flatten

end QueryPlan

/-- Executing a reversed request gives the elements of the forward one from last to first. -/
theorem Builder.executed_mirrored (answer : List Value → RangeReply) (context : Context)
    (link : Link) (given : Given) (request : RangeRequest) :
    executedBy (RangeReply.respond answer) context link
        ⟨given, { request with reverse := true }⟩ =
      (executedBy (RangeReply.respond answer) context link
        ⟨given, { request with reverse := false }⟩).map Samples.mirrored := by
  rw [executedBy_eq, executedBy_eq]
  change (QueryPlan.make _ _ (QueryPlan.turned true request)).bind _ =
    ((QueryPlan.make _ _ (QueryPlan.turned false request)).bind _).map _
  by_cases empty : request.timestamps = some []
  · have refused (reverse : Bool) :
        QueryPlan.make context.chunkSize context.zone (QueryPlan.turned reverse request) =
          .error .noTimestamps := by
      simp only [QueryPlan.make, QueryPlan.turned, empty]
      rfl
    rw [refused, refused]
    rfl
  cases unit : request.unit? with
  | none => exact QueryPlan.fixed_mirrored _ _ unit empty
  | some unit =>
    obtain ⟨aggregation, aggregated, united⟩ := Option.bind_eq_some_iff.1 unit
    have planned (reverse : Bool) := QueryPlan.make_of_unit (QueryPlan.turned reverse request)
      context.chunkSize context.zone aggregated united empty
    rw [planned, planned]
    exact QueryPlan.calendar_mirrored _ _ aggregation _

end CalendarSeries
