import CalendarSeries.Proofs.Bucket.Membership
import CalendarSeries.Proofs.Query.Combining
import CalendarSeries.Proofs.Query.ReadBack
/-!
The instants that a query without filters asks for, read off the words that it sends. The end of a
range belongs to what is asked for where there are no calendar units; calendar buckets ask for
nothing after their last instants, so the end of the range is left out.
-/
namespace CalendarSeries

namespace RangeCall

/-- A range command from its words, in either direction. -/
def ofCommand? : List String → Option RangeCall
  | "TS.RANGE" :: arguments => read? arguments
  | "TS.REVRANGE" :: arguments => read? arguments
  | _ => none

/-- An instant that a command asks for: it lies between the bounds, which both belong to the
range. -/
def Asks (call : RangeCall) (instant : Int) : Prop :=
  Bound.within call.start call.stop instant = true

theorem asks_iff {call : RangeCall} {start stop instant : Int}
    (starts : call.start = .instant start) (stops : call.stop = .instant stop) :
    call.Asks instant ↔ start ≤ instant ∧ instant ≤ stop := by
  simp [Asks, Bound.within, Bound.instant?, starts, stops]

end RangeCall

/-- A request for all between two instants. -/
structure RangeRequest.IsSpan (request : RangeRequest) (start stop : Int) : Prop where
  written : request.IsWritten
  starts : request.start = .instant start
  stops : request.stop = .instant stop
  unstamped : request.timestamps = none
  whole : request.ranges = none ∨ request.ranges = some []

/-- The last instant that such a request asks for. -/
def RangeRequest.lastAsked (request : RangeRequest) (start stop : Int) : Int :=
  if request.isCalendar then (Bucket.mk start stop).last else stop

/-- Commands for one key that together ask for the instants from one to another, and for no
others. -/
structure AsksBetween (key : Value) (first last : Int) (calls : List RangeCall) : Prop where
  nonempty : calls ≠ []
  keyed : ∀ call ∈ calls, call.key = key
  asked_iff : ∀ instant, (∃ call ∈ calls, call.Asks instant) ↔ first ≤ instant ∧ instant ≤ last

/-- One batch of commands that ask for this. -/
def BatchAsks (key : Value) (first last : Int) (trace : List Event) : Prop :=
  ∃ (commands : List (List String)) (calls : List RangeCall),
    trace = .opened :: commands.map .command ++ [.executed] ∧
    commands.map RangeCall.ofCommand? = calls.map some ∧ AsksBetween key first last calls

namespace QueryPlan

variable {request : RangeRequest} {plan : QueryPlan} {size start stop : Int} {zone : String}
  {unit : CalendarUnit}

/-- The words of commands that are sent as they are say what the commands do. -/
theorem exists_commandsOf_said {subqueries : List SubQuery}
    (sendable : ∀ query ∈ subqueries, query.request.IsSendable) :
    ∃ commands, commandsOf subqueries = .ok commands ∧
      commands.map RangeCall.ofCommand? = (subqueries.map (·.request.said)).map some := by
  induction subqueries with
  | nil => exact ⟨[], rfl, rfl⟩
  | cons query rest ih =>
    obtain ⟨⟨written, listed, plain⟩, later⟩ := List.forall_mem_cons.1 sendable
    obtain ⟨commands, worded, said⟩ := ih later
    obtain ⟨arguments, first, read⟩ := RangeCall.read?_arguments written listed plain
    refine ⟨(query.request.command :: Wire.arguments arguments) :: commands, ?_, ?_⟩
    · rw [commandsOf] at worded ⊢
      rw [List.mapM_cons, first, worded]
      rfl
    · rw [List.map_cons, List.map_cons, List.map_cons, said, ← read]
      unfold RangeRequest.command
      cases query.request.reverse <;> rfl

/-- Without a calendar unit one command asks for the whole range. -/
theorem subqueries_plain (span : request.IsSpan start stop) (plain : request.unit? = none)
    (planned : make size zone request = .ok plan) :
    plan.subqueries = [⟨0, { request with timestamps := none, ranges := none }⟩] := by
  have single : fixedRequests size request =
      .ok [{ request with timestamps := none, ranges := none }] := by
    unfold fixedRequests fixedWindows
    rw [span.unstamped]
    rcases span.whole with unset | empty
    · rw [unset]
      rfl
    · rw [empty]
      rfl
  rw [make_of_plain request size zone plain (by simp [span.unstamped]), single] at planned
  cases planned
  cases request.reverse <;> rfl

theorem asksBetween_plain (span : request.IsSpan start stop) (plain : request.unit? = none)
    (planned : make size zone request = .ok plan) :
    AsksBetween request.key start stop (plan.subqueries.map (·.request.said)) := by
  rw [subqueries_plain span plain planned]
  refine ⟨by simp, by simp [RangeRequest.said], fun instant => ?_⟩
  have asks : RangeCall.Asks (RangeRequest.said
      { request with timestamps := none, ranges := none }) instant ↔
      start ≤ instant ∧ instant ≤ stop := RangeCall.asks_iff span.starts span.stops
  constructor
  · rintro ⟨call, member, asked⟩
    rw [List.mem_singleton.1 member] at asked
    exact asks.1 asked
  · intro inside
    exact ⟨_, List.mem_singleton_self _, asks.2 inside⟩

/-- With a calendar unit each bucket of the range is asked for by a command of its own. -/
theorem exists_subqueries_calendar (span : request.IsSpan start stop)
    (united : request.unit? = some unit) (planned : make size zone request = .ok plan) :
    ∃ statistic buckets, start ≤ stop ∧ Bucket.Tiling start stop buckets ∧
      plan.subqueries = buckets.zipIdx.map fun (bucket, index) =>
        ⟨index, windowRequest request statistic bucket ⟨bucket.start, bucket.last, none⟩⟩ := by
  obtain ⟨⟨statistic, length⟩, aggregated, calendar⟩ := Option.bind_eq_some_iff.1 united
  cases length with
  | fixed => cases calendar
  | calendar =>
    cases calendar
    have listed : request.timestamps ≠ some [] := by simp [span.unstamped]
    have made := planned
    rw [make_of_unit request size zone aggregated rfl listed] at made
    obtain ⟨⟨first, last⟩, ranged, made⟩ := bind_succeeded made
    obtain ⟨buckets, cut, -⟩ := bind_succeeded made
    obtain ⟨starts, stops, order⟩ := calendarRange_ok ranged
    rw [span.starts] at starts
    rw [span.stops] at stops
    cases starts
    cases stops
    obtain ⟨-, tiling⟩ := Bucket.tiling_of_calendar cut
    rw [make_eq size span.starts span.stops aggregated listed (.inl span.unstamped) order cut
      tiling.first] at planned
    cases planned
    exact ⟨statistic, buckets, order, tiling,
      subqueries_whole size statistic buckets span.unstamped span.whole⟩

/-- Buckets of the calendar ask for what belongs to them. -/
theorem asksBetween_calendar (span : request.IsSpan start stop) (united : request.unit? = some unit)
    (planned : make size zone request = .ok plan) :
    AsksBetween request.key start (Bucket.mk start stop).last
      (plan.subqueries.map (·.request.said)) := by
  obtain ⟨statistic, buckets, order, tiling, whole⟩ :=
    exists_subqueries_calendar span united planned
  have inhabited : buckets ≠ [] := by
    rintro rfl
    cases tiling.first
  have asks {bucket : Bucket} (inside : bucket ∈ buckets) (instant : Int) :
      RangeCall.Asks (windowRequest request statistic bucket
        ⟨bucket.start, bucket.last, none⟩).said instant ↔ bucket.has instant = true :=
    (RangeCall.asks_iff rfl rfl).trans
      (Bucket.has_iff (tiling.ordered order bucket inside)).symm
  have covered (instant : Int) : (∃ bucket ∈ buckets, bucket.has instant = true) ↔
      start ≤ instant ∧ instant ≤ (Bucket.mk start stop).last := by
    rw [← List.any_eq_true, tiling.any_has order]
    exact Bucket.has_iff order
  rw [whole, List.map_map]
  refine ⟨by simpa using inhabited, ?_, fun instant => ?_⟩
  · intro call member
    obtain ⟨⟨bucket, index⟩, -, rfl⟩ := List.mem_map.1 member
    rfl
  · rw [← covered]
    constructor
    · rintro ⟨call, member, asked⟩
      obtain ⟨⟨bucket, index⟩, numbered, rfl⟩ := List.mem_map.1 member
      have inside := List.mem_of_getElem? (List.mk_mem_zipIdx_iff_getElem?.1 numbered)
      exact ⟨bucket, inside, (asks inside instant).1 asked⟩
    · rintro ⟨bucket, inside, owned⟩
      obtain ⟨index, there⟩ := List.mem_iff_getElem?.1 inside
      have numbered : (bucket, index) ∈ buckets.zipIdx :=
        List.mk_mem_zipIdx_iff_getElem?.2 there
      exact ⟨_, List.mem_map_of_mem numbered, (asks inside instant).2 owned⟩

/-- Whatever plan is made of such a request, its commands are sent in words that ask for the range
up to its last instant. -/
theorem exists_asksBetween (span : request.IsSpan start stop)
    (planned : make size zone request = .ok plan) :
    ∃ commands calls, commandsOf plan.subqueries = .ok commands ∧
      commands.map RangeCall.ofCommand? = calls.map some ∧
      AsksBetween request.key start (request.lastAsked start stop) calls := by
  obtain ⟨commands, worded, said⟩ := exists_commandsOf_said fun query member =>
    isSendable_of_make span.written planned member
  refine ⟨commands, _, worded, said, ?_⟩
  unfold RangeRequest.lastAsked RangeRequest.isCalendar
  cases united : request.unit? with
  | none => exact asksBetween_plain span united planned
  | some unit => exact asksBetween_calendar span united planned

end QueryPlan

/-- Whether a run either sends nothing and ends without an answer, or sends what is given. -/
def Link.SendsAtOnce {α : Type} (link : Link) (sent : List Event → Prop) (answers : α → Prop)
    (run : Run α) : Prop :=
  ∃ trace, (perform run link).2.events = link.events ++ trace ∧
    (trace = [] ∧ (∀ value, (perform run link).1 = .ok value → ¬answers value) ∨ sent trace)

namespace Link.SendsAtOnce

variable {α β : Type} {link : Link} {sent : List Event → Prop} {answers : α → Prop}

theorem of_unanswered {run : Run α} {outcome : Except Error α}
    (performed : perform run link = (outcome, link))
    (unanswered : ∀ value, outcome = .ok value → ¬answers value) :
    link.SendsAtOnce sent answers run := by
  refine ⟨[], ?_, .inl ⟨rfl, ?_⟩⟩
  · rw [performed, List.append_nil]
  · rw [performed]
    exact unanswered

/-- What is computed beforehand sends nothing, and fails if it has no result. -/
theorem ofExcept_bind {result : Except Error β} {next : β → Run α}
    (later : ∀ value, result = .ok value → link.SendsAtOnce sent answers (next value)) :
    link.SendsAtOnce sent answers (Run.ofExcept result >>= next) := by
  cases result with
  | error error =>
    have failed : perform (Run.ofExcept (.error error) >>= next) link = (.error error, link) := by
      rw [perform_bind, perform_ofExcept]
    exact of_unanswered failed nofun
  | ok value => exact later value rfl

theorem map {f : β → α} {run : Run β}
    (sends : link.SendsAtOnce sent (fun value => answers (f value)) run) :
    link.SendsAtOnce sent answers (f <$> run) := by
  obtain ⟨trace, events, outcome⟩ := sends
  unfold SendsAtOnce
  simp only [map_eq_pure_bind, perform_bind]
  rcases performed : perform run link with ⟨error | value, after⟩
  all_goals rw [performed] at events outcome
  · dsimp only
    exact ⟨trace, events, outcome.imp_left fun unsent => ⟨unsent.1, nofun⟩⟩
  · refine ⟨trace, events, outcome.imp_left fun unsent => ⟨unsent.1, ?_⟩⟩
    rintro _ ⟨⟩
    exact unsent.2 value rfl

theorem imp {sent' : List Event → Prop} {answers' : α → Prop} {run : Run α}
    (wider : ∀ trace, sent trace → sent' trace) (fewer : ∀ value, answers' value → answers value)
    (sends : link.SendsAtOnce sent answers run) : link.SendsAtOnce sent' answers' run := by
  obtain ⟨trace, events, outcome⟩ := sends
  refine ⟨trace, events, outcome.imp ?_ (wider trace)⟩
  rintro ⟨unsent, unanswered⟩
  exact ⟨unsent, fun value performed answered => unanswered value performed (fewer value answered)⟩

end Link.SendsAtOnce

/-- Executing such a request fails before anything is sent, or sends one batch. -/
theorem Builder.execute_asks (context : Context) (link : Link) {builder : Builder}
    {start stop : Int} (span : builder.request.IsSpan start stop) :
    link.SendsAtOnce
      (BatchAsks builder.request.key start (builder.request.lastAsked start stop))
      (fun _ => True) (builder.execute context) := by
  obtain ⟨trace, events, round⟩ := Builder.execute_makesRoundTrip link context builder
  refine ⟨trace, events, ?_⟩
  cases planned : QueryPlan.make context.chunkSize context.zone builder.request with
  | error error =>
    obtain ⟨failed, unsent⟩ := round.unplanned error planned
    rw [failed]
    exact .inl ⟨unsent, nofun⟩
  | ok plan =>
    obtain ⟨commands, calls, worded, said, asks⟩ := QueryPlan.exists_asksBetween span planned
    have some : plan.subqueries ≠ [] := by
      intro none
      rw [none] at worded
      cases worded
      exact asks.nonempty (List.map_eq_nil_iff.1 said.symm)
    have sent := round.sent commands ⟨plan, planned, some, worded⟩
    exact .inr ⟨commands, calls, sent, said, asks⟩

end CalendarSeries
