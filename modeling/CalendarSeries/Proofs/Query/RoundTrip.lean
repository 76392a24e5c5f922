import CalendarSeries.Proofs.Query.Execution
import CalendarSeries.Proofs.Query.Reading
import CalendarSeries.Series.Commands
/-!
What a query sends, whatever it asks for and whatever the script of the server is. A query that
cannot be planned sends nothing, nor does one without commands. Any other opens one batch, puts the
commands of its plan into it in their order, and sends it once. A refusal of what was asked for
comes before that, unless it is the failure that the server itself was scripted to give.
-/
namespace CalendarSeries

/-- Whether an error refuses what was asked for: a filter, an aggregation, or bounds out of
order. -/
def Error.IsRefusal (error : Error) : Prop :=
  error.kind = .filter ∨ error.kind = .aggregation ∨ ∃ start stop, error = .reversedRange start stop

theorem Error.not_isRefusal_of_kind {error : Error}
    (kind : error.kind = .type ∨ error.kind = .overflow ∨ error.kind = .pipelineMismatch) :
    ¬error.IsRefusal := by
  rintro (filter | aggregation | ⟨start, stop, rfl⟩)
  · simp [filter] at kind
  · simp [aggregation] at kind
  · simp [Error.kind] at kind

namespace QueryPlan

open Link

variable {plan : QueryPlan} {answers : List Answer}

/-- What goes over the link for a plan, the replies that come of it, and the answers that are left
after it. -/
inductive Sent (plan : QueryPlan) (answers : List Answer) :
    Except Error (List Value) → List Event → List Answer → Prop
  | nothing (none : plan.subqueries = []) : Sent plan answers (.ok []) [] answers
  | unworded {error : Error} {commands : List (List String)}
      (unworded : commandsOf plan.subqueries = .error error) :
      Sent plan answers (.error error) (.opened :: commands.map .command) answers
  | batch {commands : List (List String)} (some : plan.subqueries ≠ [])
      (worded : commandsOf plan.subqueries = .ok commands) :
      Sent plan answers ((returned answers commands).bind Value.iterate)
        (.opened :: commands.map .command ++ [.executed]) answers.tail

/-- What a plan makes of the replies to its batch. -/
def settle (plan : QueryPlan) (replies : List Value) : Except Error Samples :=
  if replies.length ≠ plan.subqueries.length then
    .error (.replyCount replies.length plan.subqueries.length)
  else plan.reconcile replies

theorem replies_sent (context : Context) (plan : QueryPlan) (link : Link) :
    ∃ replies trace after, perform (plan.replies context) link = (replies, after) ∧
      after.events = link.events ++ trace ∧
      Sent plan link.answers replies trace after.answers := by
  unfold replies
  cases subqueries : plan.subqueries with
  | nil => exact ⟨_, [], link, rfl, (List.append_nil _).symm, .nothing subqueries⟩
  | cons first rest =>
    rw [if_neg (by simp), ← subqueries]
    obtain ⟨opened, opening, waiting, fresh, begun⟩ := perform_openBatch link
    obtain ⟨commands, queued, sent, following, complete⟩ := perform_queueAll
      (fun name arguments => name :: Wire.arguments arguments) context plan.subqueries opened
    change perform (queueAll context plan.subqueries) opened =
      ((commandsOf plan.subqueries).map fun _ => (), queued) at sent
    simp only [perform_bind, opening, sent]
    cases worded : commandsOf plan.subqueries with
    | error error =>
      refine ⟨_, .opened :: commands.map .command, queued, rfl, ?_, ?_⟩
      · rw [following.events, begun, List.append_assoc, List.singleton_append]
      · rw [following.answers, waiting]
        exact .unworded worded
    | ok all =>
      obtain ⟨after, exchanged, left, ended⟩ := perform_exchange queued
      rw [following.answers, following.batch, waiting, fresh, complete all worded,
        List.nil_append] at exchanged
      refine ⟨_, .opened :: all.map .command ++ [.executed], after, exchanged, ?_, ?_⟩
      · rw [ended, following.events, begun, complete all worded]
        simp
      · rw [left, following.answers, waiting]
        exact .batch (by simp [subqueries]) worded

/-- Nothing is sent in making the result of the replies. -/
theorem execute_sent (context : Context) (plan : QueryPlan) (link : Link) :
    ∃ replies trace after,
      perform (plan.execute context) link = (replies.bind plan.settle, after) ∧
      after.events = link.events ++ trace ∧
      Sent plan link.answers replies trace after.answers := by
  obtain ⟨replies, trace, after, performed, events, sent⟩ := replies_sent context plan link
  unfold execute
  rw [perform_bind, performed]
  cases replies with
  | error error => exact ⟨.error error, trace, after, rfl, events, sent⟩
  | ok replies =>
    refine ⟨.ok replies, trace, ?_⟩
    simp only [Except.bind, settle]
    by_cases same : replies.length = plan.subqueries.length
    · rw [if_neg (not_not.2 same), if_neg (not_not.2 same)]
      exact ⟨{ after with notes := after.notes ++ plan.reconcileNotes replies },
        by simp only [perform_bind, perform_ofExcept]; rfl, events, sent⟩
    · rw [if_pos same, if_pos same]
      exact ⟨after, rfl, events, sent⟩

theorem settle_failed {replies : List Value} {error : Error}
    (failed : plan.settle replies = .error error) :
    error.kind = .type ∨ error.kind = .overflow ∨ error.kind = .pipelineMismatch := by
  unfold settle at failed
  split at failed
  · cases failed
    exact .inr (.inr rfl)
  · rcases reconcile_failed failed with type | overflow
    · exact .inl type
    · exact .inr (.inl overflow)

theorem settle_mismatch_iff {replies : List Value} :
    (∃ error, plan.settle replies = .error error ∧ error.kind = .pipelineMismatch) ↔
      replies.length ≠ plan.subqueries.length := by
  unfold settle
  split
  · rename_i other
    exact ⟨fun _ => other, fun _ => ⟨_, rfl, rfl⟩⟩
  · rename_i same
    refine ⟨fun ⟨error, failed, kind⟩ => ?_, fun other => absurd other same⟩
    rcases reconcile_failed failed with type | overflow
    · simp [type] at kind
    · simp [overflow] at kind

/-- A batch fails only as the script says. -/
theorem returned_failed {commands : List (List String)} {error : Error}
    (failed : returned answers commands = .error error) :
    ∃ rest, answers = .failure error :: rest := by
  unfold returned at failed
  split at failed <;> cases failed
  exact ⟨_, rfl⟩

/-- The commands that a query sends: its plan has some, and all of them can be put in words. -/
def Sends (planned : Except Error QueryPlan) (commands : List (List String)) : Prop :=
  ∃ plan, planned = .ok plan ∧ plan.subqueries ≠ [] ∧ commandsOf plan.subqueries = .ok commands

/-- One round trip at most: what is sent for a query that is planned, and how its outcome depends
on the answer. -/
structure RoundTrip (planned : Except Error QueryPlan) (answers : List Answer)
    (outcome : Except Error Samples) (trace : List Event) : Prop where
  openedOnce : trace.count .opened ≤ 1
  executedOnce : trace.count .executed ≤ 1
  executed_iff : .executed ∈ trace ↔ ∃ commands, Sends planned commands
  sent : ∀ commands, Sends planned commands →
    trace = .opened :: commands.map .command ++ [.executed]
  propagated : ∀ commands error, Sends planned commands →
    returned answers commands = .error error → outcome = .error error
  mismatched_iff : ∀ commands value, Sends planned commands →
    returned answers commands = .ok value →
    ((∃ error, outcome = .error error ∧ error.kind = .pipelineMismatch) ↔
      ∃ replies, value.iterate = .ok replies ∧ replies.length ≠ commands.length)
  refused : ∀ error, outcome = .error error → error.IsRefusal →
    .executed ∉ trace ∨ ∃ rest, answers = .failure error :: rest
  unplanned : ∀ error, planned = .error error → outcome = .error error ∧ trace = []

theorem count_command {event : Event} (commands : List (List String))
    (other : ∀ words, event ≠ .command words) : (commands.map Event.command).count event = 0 := by
  rw [List.count_eq_zero]
  rintro member
  obtain ⟨words, -, rfl⟩ := List.mem_map.1 member
  exact other words rfl

/-- Where no batch is sent there is nothing to say of its replies. -/
theorem roundTrip_of_unsent {planned : Except Error QueryPlan} {outcome : Except Error Samples}
    {trace : List Event} (nothing : ∀ commands, ¬Sends planned commands)
    (openedOnce : trace.count .opened ≤ 1) (unsent : .executed ∉ trace)
    (unplanned : ∀ error, planned = .error error → outcome = .error error ∧ trace = []) :
    RoundTrip planned answers outcome trace where
  openedOnce := openedOnce
  executedOnce := by simp [List.count_eq_zero.2 unsent]
  executed_iff :=
    ⟨fun inside => absurd inside unsent, fun ⟨commands, sends⟩ => absurd sends (nothing commands)⟩
  sent commands sends := absurd sends (nothing commands)
  propagated commands _ sends := absurd sends (nothing commands)
  mismatched_iff commands _ sends := absurd sends (nothing commands)
  refused _ _ _ := .inl unsent
  unplanned := unplanned

theorem roundTrip_of_unplanned (error : Error) :
    RoundTrip (.error error) answers (.error error) [] := by
  refine roundTrip_of_unsent ?_ (Nat.zero_le 1) List.not_mem_nil fun other same => ?_
  · rintro commands ⟨plan, ⟨⟩, -⟩
  · exact ⟨congrArg Except.error (Except.error.inj same), rfl⟩

/-- What comes of a batch refuses what was asked for only as the script says. -/
theorem refused_by_script {commands : List (List String)} {error : Error}
    (failed : ((returned answers commands).bind Value.iterate).bind plan.settle = .error error)
    (refusal : error.IsRefusal) : ∃ rest, answers = .failure error :: rest := by
  rcases bind_failed failed with failed | ⟨replies, -, failed⟩
  · rcases bind_failed failed with failed | ⟨value, -, failed⟩
    · exact returned_failed failed
    · exact absurd refusal (Error.not_isRefusal_of_kind (.inl (Value.iterate_failed failed)))
  · exact absurd refusal (Error.not_isRefusal_of_kind (settle_failed failed))

theorem mismatch_of_returned {commands : List (List String)} {value : Value}
    (came : returned answers commands = .ok value)
    (count : commands.length = plan.subqueries.length) :
    (∃ error, ((returned answers commands).bind Value.iterate).bind plan.settle = .error error ∧
        error.kind = .pipelineMismatch) ↔
      ∃ replies, value.iterate = .ok replies ∧ replies.length ≠ commands.length := by
  rw [came, count]
  cases listed : value.iterate with
  | error error =>
    refine ⟨fun ⟨other, failed, kind⟩ => ?_, nofun⟩
    simp only [Except.bind, listed] at failed
    cases failed
    simp [Value.iterate_failed listed] at kind
  | ok replies => simp [Except.bind, listed, settle_mismatch_iff]

theorem roundTrip_of_sent {replies : Except Error (List Value)} {trace : List Event}
    {left : List Answer} (sent : Sent plan answers replies trace left) :
    RoundTrip (.ok plan) answers (replies.bind plan.settle) trace := by
  cases sent with
  | nothing none =>
    refine roundTrip_of_unsent ?_ (Nat.zero_le 1) List.not_mem_nil nofun
    rintro commands ⟨_, ⟨⟩, some, -⟩
    exact some none
  | unworded unworded =>
    refine roundTrip_of_unsent ?_ (by simp [count_command]) (by simp) nofun
    rintro commands ⟨_, ⟨⟩, -, worded⟩
    cases unworded.symm.trans worded
  | @batch commands some worded =>
    have only : ∀ others, Sends (.ok plan) others → others = commands := by
      rintro others ⟨_, ⟨⟩, -, also⟩
      exact Except.ok.inj (also.symm.trans worded)
    exact {
      openedOnce := by simp [count_command]
      executedOnce := by simp [count_command]
      executed_iff := ⟨fun _ => ⟨commands, plan, rfl, some, worded⟩, fun _ => by simp⟩
      sent := fun others sends => by rw [only others sends]
      propagated := by
        intro others error sends failed
        rw [only others sends] at failed
        rw [failed]
        rfl
      mismatched_iff := by
        intro others value sends came
        cases only others sends
        exact mismatch_of_returned came (length_of_mapM worded)
      refused := fun error failed refusal => .inr (refused_by_script failed refusal)
      unplanned := nofun }

end QueryPlan

namespace Link

/-- Whether a run makes one round trip at most, for a query that is planned. -/
def MakesRoundTrip (link : Link) (planned : Except Error QueryPlan) (run : Run Samples) : Prop :=
  ∃ trace, (perform run link).2.events = link.events ++ trace ∧
    QueryPlan.RoundTrip planned link.answers (perform run link).1 trace

end Link

theorem Builder.execute_makesRoundTrip (link : Link) (context : Context) (builder : Builder) :
    link.MakesRoundTrip (QueryPlan.make context.chunkSize context.zone builder.request)
      (builder.execute context) := by
  unfold Link.MakesRoundTrip execute QueryPlan.prepare
  simp only [Link.perform_bind, Link.perform_ofExcept]
  cases QueryPlan.make context.chunkSize context.zone builder.request with
  | error error => exact ⟨[], (List.append_nil _).symm, QueryPlan.roundTrip_of_unplanned error⟩
  | ok plan =>
    -- the notes of planning are all that changes before the plan runs
    obtain ⟨replies, trace, after, performed, events, sent⟩ := QueryPlan.execute_sent context plan
      { link with
        notes := link.notes ++ QueryPlan.notes context.chunkSize context.zone builder.request }
    refine ⟨trace, ?_⟩
    change (Link.perform (plan.execute context) _).2.events = _ ∧
      QueryPlan.RoundTrip (.ok plan) link.answers (Link.perform (plan.execute context) _).1 trace
    rw [performed]
    exact ⟨events, QueryPlan.roundTrip_of_sent sent⟩

/-- The plan of a range query. -/
def Series.planned (series : Series) (options : Series.RangeOptions) : Except Error QueryPlan := do
  let builder ← series.rangeBuilder options
  QueryPlan.make series.context.chunkSize series.context.zone builder.request

theorem Series.range_makesRoundTrip (link : Link) (series : Series)
    (options : Series.RangeOptions) :
    link.MakesRoundTrip (series.planned options) (series.range options) := by
  unfold Link.MakesRoundTrip range planned
  simp only [Link.perform_bind, Link.perform_ofExcept]
  cases series.rangeBuilder options with
  | error error => exact ⟨[], (List.append_nil _).symm, QueryPlan.roundTrip_of_unplanned error⟩
  | ok builder => exact Builder.execute_makesRoundTrip link series.context builder

/-- A query makes one round trip at most, whether it is built step by step or by options. -/
theorem query_makesRoundTrip (link : Link) :
    (∀ (context : Context) (builder : Builder), link.MakesRoundTrip
      (QueryPlan.make context.chunkSize context.zone builder.request) (builder.execute context)) ∧
    ∀ (series : Series) (options : Series.RangeOptions),
      link.MakesRoundTrip (series.planned options) (series.range options) :=
  ⟨Builder.execute_makesRoundTrip link, Series.range_makesRoundTrip link⟩

/-- A server that is scripted to fail as a filter does: its failure comes after the batch was
sent. -/
theorem query_refusedByServer :
    ∃ builder error after, Builder.start {} (.text "energy") .none .none none = .ok builder ∧
      Link.perform (builder.execute {}) { answers := [.failure (.reported .filter "x")] } =
        (.error error, after) ∧
      error.kind = .filter ∧ .executed ∈ after.events :=
  ⟨_, _, _, rfl, rfl, rfl, by decide⟩

end CalendarSeries
