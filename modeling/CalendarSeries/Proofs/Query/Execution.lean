import CalendarSeries.Proofs.Query.Windows
import CalendarSeries.Query.Builder
/-!
Executing a request against a server that answers each command by a function of the command. All
commands of the plan go out in one batch, so what comes back is the plan reconciled with the answers
in order. A plan without buckets gives the elements of its replies one after another.
-/
namespace CalendarSeries

/-- A row that is read as a sample, or refused as malformed. -/
structure Row where
  value : Value
  element : Element
  read : QueryPlan.rowElement value = .ok element

/-- A reply to a range command: a report of failure, or rows. -/
inductive RangeReply where
  | failed (report : Value) (error : Error) (reported : Error.ofValue? report = some error)
  | rows (rows : List Row)

namespace RangeReply

def value : RangeReply → Value
  | failed report .. => report
  | rows listed => .list (listed.map Row.value)

def elements : RangeReply → List Element
  | failed _ error _ => [.failure error]
  | rows listed => listed.map Row.element

theorem replyElements_value (reply : RangeReply) :
    QueryPlan.replyElements reply.value = .ok reply.elements := by
  cases reply with
  | failed report error reported =>
    unfold QueryPlan.replyElements value
    rw [reported]
    rfl
  | rows rows =>
    have listed : QueryPlan.replyRows (.list (rows.map Row.value)) =
        .ok (rows.map Row.value) := by
      cases rows <;> rfl
    have read : (rows.map Row.value).mapM QueryPlan.rowElement = .ok (rows.map Row.element) := by
      rw [List.mapM_map]
      exact mapM_of_forall fun row _ => row.read
    unfold QueryPlan.replyElements value
    simp only [Error.ofValue?, listed, bind, Except.bind]
    exact read

end RangeReply

namespace Link

variable {α β : Type} (link : Link)

/-- The link on which the next batch is answered by these replies. -/
def awaiting (replies : List Value) : Link :=
  { link with answers := .reply (.list replies) :: link.answers }

theorem perform_bind (run : Run α) (next : α → Run β) :
    perform (run >>= next) link =
      match perform run link with
      | (.ok value, after) => perform (next value) after
      | (.error error, after) => (.error error, after) := by
  unfold perform
  rw [ExceptT.run_bind, StateT.run_bind]
  rcases run.run.run link with ⟨error | value, after⟩ <;> rfl

theorem perform_bind_ok {run : Run α} {next : α → Run β} {result : β}
    (succeeded : (perform (run >>= next) link).1 = .ok result) :
    ∃ value after, perform run link = (.ok value, after) ∧
      (perform (next value) after).1 = .ok result := by
  rw [perform_bind] at succeeded
  rcases first : perform run link with ⟨error | value, after⟩
  · rw [first] at succeeded
    cases succeeded
  · rw [first] at succeeded
    exact ⟨value, after, rfl, succeeded⟩

theorem perform_tryCatch (run : Run α) (handle : Error → Run α) :
    perform (tryCatch run handle) link =
      match perform run link with
      | (.ok value, after) => (.ok value, after)
      | (.error error, after) => perform (handle error) after := by
  unfold perform
  rw [ExceptT.run_tryCatch, StateT.run_bind]
  rcases run.run.run link with ⟨error | value, after⟩ <;> rfl

theorem perform_ofExcept (result : Except Error α) :
    perform (Run.ofExcept result) link = (result, link) := by
  cases result <;> rfl

theorem perform_openBatch :
    ∃ after, perform openBatch link = (.ok (), after) ∧ after.answers = link.answers ∧
      after.batch = [] ∧ after.events = link.events ++ [.opened] :=
  ⟨_, rfl, rfl, rfl, rfl⟩

/-- Commands have been put into the open batch, and nothing else was done. -/
structure Queued (link after : Link) (commands : List (List String)) : Prop where
  answers : after.answers = link.answers
  batch : after.batch = link.batch ++ commands
  events : after.events = link.events ++ commands.map .command

theorem Queued.none : Queued link link [] :=
  ⟨rfl, by simp, by simp⟩

theorem Queued.append {link next after : Link} {first rest : List (List String)}
    (queued : Queued link next first) (others : Queued next after rest) :
    Queued link after (first ++ rest) where
  answers := others.answers.trans queued.answers
  batch := by rw [others.batch, queued.batch, List.append_assoc]
  events := by rw [others.events, queued.events, List.map_append, List.append_assoc]

theorem perform_queue (context : Context) (name : String) (arguments : List Value) :
    ∃ after, perform (queue context name arguments) link = (.ok (), after) ∧
      Queued link after [name :: Wire.arguments arguments] := by
  unfold queue prepare
  cases context.debug
  all_goals exact ⟨_, rfl, rfl, rfl, rfl⟩

end Link

namespace QueryPlan

open Link

/-- The replies to commands, each by its name and arguments. -/
def repliesBy (respond : String → List Value → Value) (subqueries : List SubQuery) :
    Except Error (List Value) :=
  subqueries.mapM fun subquery =>
    subquery.request.arguments.map (respond subquery.request.command)

/-- What a plan comes to if each command is answered by `respond`. -/
def resultBy (respond : String → List Value → Value) (plan : QueryPlan) : Except Error Samples := do
  plan.reconcile (← repliesBy respond plan.subqueries)

variable (respond : String → List Value → Value)

/-- The commands of a plan as they are sent. -/
def commandsOf (subqueries : List SubQuery) : Except Error (List (List String)) :=
  subqueries.mapM fun subquery => subquery.request.arguments.map fun arguments =>
    subquery.request.command :: Wire.arguments arguments

/-- Queueing fails where a command cannot be put in words, and queues those before it. -/
theorem perform_queueAll {α : Type} (respond : String → List Value → α) (context : Context)
    (subqueries : List SubQuery) (link : Link) :
    ∃ commands after, perform (queueAll context subqueries) link =
        ((subqueries.mapM fun (subquery : SubQuery) =>
          subquery.request.arguments.map (respond subquery.request.command)).map fun _ => (),
          after) ∧
      Queued link after commands ∧
      ∀ all, commandsOf subqueries = .ok all → commands = all := by
  unfold queueAll commandsOf
  rw [List.forM_eq_forM]
  induction subqueries generalizing link with
  | nil => exact ⟨[], link, rfl, .none link, fun all worded => Except.ok.inj worded⟩
  | cons subquery rest ih =>
    rw [List.forM_cons, perform_bind, perform_bind, perform_ofExcept, List.mapM_cons,
      List.mapM_cons]
    cases subquery.request.arguments with
    | error => exact ⟨[], link, rfl, .none link, nofun⟩
    | ok arguments =>
      obtain ⟨next, first, queued⟩ := perform_queue link context subquery.request.command arguments
      obtain ⟨commands, after, others, following, complete⟩ := ih next
      simp only [first, others]
      refine ⟨_, after, ?_, queued.append following, fun all worded => ?_⟩
      · cases rest.mapM fun (subquery : SubQuery) =>
          subquery.request.arguments.map (respond subquery.request.command) <;> rfl
      · obtain ⟨found, listed, worded⟩ := bind_succeeded worded
        obtain ⟨results, restWorded, worded⟩ := bind_succeeded worded
        cases listed
        cases worded
        rw [complete results restWorded]
        rfl

/-- What the next answer of a script gives to a batch of commands. -/
def returned (answers : List Answer) (commands : List (List String)) : Except Error Value :=
  match answers with
  | [] => .ok (.list [])
  | .reply value :: _ => .ok value
  | .failure error :: _ => .error error
  | .each value :: _ => .ok (.list (commands.map fun _ => value))
  | .echo :: _ => .ok (.list (commands.zipIdx.map fun (words, index) => echoRow index words))

theorem perform_exchange (link : Link) :
    ∃ after, perform exchange link =
        ((returned link.answers link.batch).bind Value.iterate, after) ∧
      after.answers = link.answers.tail ∧ after.events = link.events ++ [.executed] := by
  have sent : ∀ noted : Link, ∃ after, perform Link.execute noted =
      (returned noted.answers noted.batch, after) ∧ after.answers = noted.answers.tail ∧
      after.events = noted.events ++ [.executed] := by
    intro ⟨answers, batch, events, notes⟩
    match answers with
    | [] | .reply _ :: _ | .failure _ :: _ | .each _ :: _ | .echo :: _ => exact ⟨_, rfl, rfl, rfl⟩
  obtain ⟨after, executed, left, events⟩ :=
    sent { link with notes := link.notes ++ [⟨.debug, .planner, "START: " ++ batchName⟩] }
  have noted (note : Note) (link : Link) :
      perform (Link.note note) link = (.ok (), { link with notes := link.notes ++ [note] }) := rfl
  unfold exchange
  simp only [perform_bind, perform_tryCatch, noted, executed]
  cases returned link.answers link.batch with
  | error error => exact ⟨_, rfl, left, events⟩
  | ok value =>
    simp only [perform_ofExcept]
    cases listed : value.iterate with
    | error | ok =>
      simp only [Except.bind, listed]
      exact ⟨_, rfl, left, events⟩

/-- The replies come back where the next batch is answered by them. -/
theorem perform_replies (context : Context) (plan : QueryPlan) (link : Link) :
    ∃ after, perform (plan.replies context)
        (link.awaiting ((repliesBy respond plan.subqueries).toOption.getD [])) =
      (repliesBy respond plan.subqueries, after) := by
  unfold replies
  cases subqueries : plan.subqueries with
  | nil => exact ⟨_, rfl⟩
  | cons first rest =>
    rw [if_neg (by simp), ← subqueries]
    obtain ⟨opened, opening, fresh, -⟩ :=
      perform_openBatch (link.awaiting ((repliesBy respond plan.subqueries).toOption.getD []))
    obtain ⟨_, queued, sent, waiting, -⟩ :=
      perform_queueAll respond context plan.subqueries opened
    have same := waiting.answers
    rw [fresh] at same
    change perform (queueAll context plan.subqueries) opened =
      ((repliesBy respond plan.subqueries).map fun _ => (), queued) at sent
    simp only [perform_bind, opening, sent]
    cases found : repliesBy respond plan.subqueries with
    | error => exact ⟨queued, rfl⟩
    | ok replies =>
      rw [found] at same
      obtain ⟨after, exchanged, -⟩ := perform_exchange queued
      rw [same] at exchanged
      exact ⟨after, exchanged⟩

/-- A plan whose batch is answered by `respond` comes to what it says. -/
theorem perform_execute (context : Context) (plan : QueryPlan) (link : Link) :
    (perform (plan.execute context)
        (link.awaiting ((repliesBy respond plan.subqueries).toOption.getD []))).1 =
      plan.resultBy respond := by
  obtain ⟨after, answered⟩ := perform_replies respond context plan link
  unfold execute resultBy
  rw [perform_bind, answered]
  cases found : repliesBy respond plan.subqueries with
  | error => rfl
  | ok replies =>
    have whole : ¬replies.length ≠ plan.subqueries.length := not_not.2 (length_of_mapM found)
    simp only [if_neg whole, perform_bind, perform_ofExcept]
    rfl

/-- The plan of a request without a calendar unit, with the requests of its commands. -/
def fixedPlan (request : RangeRequest) (requests : List RangeRequest) : QueryPlan :=
  ⟨request, [], requests.map (⟨0, ·⟩), false⟩

variable {request : RangeRequest} {respond : String → List Value → Value}

/-- The commands of such a request, in the order in which they go if it is not reversed. -/
def fixedRequests (size : Int) (request : RangeRequest) : Except Error (List RangeRequest) :=
  ((fixedWindows request).mapM (withChunks size request.timestamps)).map List.flatten

theorem make_of_plain (request : RangeRequest) (size : Int) (zone : String)
    (plain : request.unit? = none) (listed : request.timestamps ≠ some []) :
    make size zone request = (fixedRequests size request).map fun requests =>
      fixedPlan request (if request.reverse then requests.reverse else requests) := by
  have uncut : calendarAggregation? request = none := by
    unfold calendarAggregation?
    unfold RangeRequest.unit? at plain
    cases aggregated : request.aggregation with
    | none => rfl
    | some aggregation =>
      have none : aggregation.unit? = none := by rwa [aggregated] at plain
      simp only [none, Option.bind_eq_bind, Option.bind_some, Option.bind_none]
  simp only [make, any_isEmpty listed, uncut, fixed, fixedRequests]
  cases (fixedWindows request).mapM (withChunks size request.timestamps) <;> rfl

/-- A request without a calendar unit can be put in words. -/
theorem arguments_of_plain (plain : request.unit? = none) :
    ∃ arguments, request.arguments = .ok arguments := by
  have clause : ∃ words, request.aggregationArguments = .ok words := by
    unfold RangeRequest.aggregationArguments
    cases aggregated : request.aggregation with
    | none => exact ⟨[], rfl⟩
    | some aggregation =>
      obtain ⟨statistic, length⟩ := aggregation
      cases length with
      | fixed => exact ⟨_, rfl⟩
      | calendar => simp [RangeRequest.unit?, aggregated, Aggregation.unit?] at plain
  obtain ⟨words, clause⟩ := clause
  exact ⟨_, by rw [RangeRequest.arguments, clause, Except.map]⟩

/-- What a request's command comes to if it is answered by `respond`. -/
def elementsBy (respond : String → List Value → Value) (request : RangeRequest) :
    Except Error (List Element) := do
  replyElements (respond request.command (← request.arguments))

/-- Commands that are all answered by what can be read. -/
theorem answered_of_forall (request : RangeRequest) {requests : List RangeRequest}
    {elements : RangeRequest → List Element}
    (each : ∀ single ∈ requests, elementsBy respond single = .ok (elements single)) :
    ∃ replies, repliesBy respond (fixedPlan request requests).subqueries = .ok replies ∧
      (fixedPlan request requests).answered replies =
        .ok (requests.map fun single => (0, elements single)) := by
  unfold repliesBy answered fixedPlan
  induction requests with
  | nil => exact ⟨[], rfl, rfl⟩
  | cons first rest ih =>
    obtain ⟨arguments, worded, read⟩ := bind_succeeded (each first List.mem_cons_self)
    obtain ⟨replies, answers, reads⟩ := ih fun single member =>
      each single (List.mem_cons_of_mem _ member)
    refine ⟨respond first.command arguments :: replies, ?_, ?_⟩
    · rw [List.map_cons, List.mapM_cons, worded, answers]
      rfl
    · rw [List.map_cons, List.zip_cons_cons, List.mapM_cons, reads]
      simp only [read]
      rfl

/-- The elements of such commands follow each other. -/
theorem resultBy_fixedPlan (request : RangeRequest) {requests : List RangeRequest}
    {elements : RangeRequest → List Element}
    (each : ∀ single ∈ requests, elementsBy respond single = .ok (elements single)) :
    (fixedPlan request requests).resultBy respond =
      .ok ⟨requests.flatMap elements, [(.text "key", request.key)]⟩ := by
  obtain ⟨replies, answers, reads⟩ := answered_of_forall request each
  have gathered : (fixedPlan request requests).assemble
      (requests.map fun single => (0, elements single)) = requests.flatMap elements := by
    have all : (requests.map fun single => ((0 : Nat), elements single)).filter (·.1 == 0) =
        requests.map fun single => (0, elements single) := by
      simp
    unfold assemble bucketElements
    simp only [fixedPlan, bucketCount, List.isEmpty_nil, if_true, List.range_one,
      List.flatMap_singleton, all, List.map_map, Function.comp_def]
    rw [← List.flatMap_def]
    cases requests.flatMap elements <;> rfl
  unfold resultBy reconcile
  rw [answers]
  simp only [bind, Except.bind, reads, Except.map, gathered]
  rfl

end QueryPlan

namespace Builder

/-- What a builder's request comes to on a link where each command is answered by `respond`. -/
def executedBy (respond : String → List Value → Value) (context : Context) (link : Link)
    (builder : Builder) : Except Error Samples :=
  let planned := QueryPlan.make context.chunkSize context.zone builder.request
  let replies := (planned.bind fun plan => QueryPlan.repliesBy respond plan.subqueries)
  (Link.perform (builder.execute context) (link.awaiting (replies.toOption.getD []))).1

theorem executedBy_eq (respond : String → List Value → Value) (context : Context) (link : Link)
    (builder : Builder) :
    builder.executedBy respond context link =
      (QueryPlan.make context.chunkSize context.zone builder.request).bind
        (QueryPlan.resultBy respond) := by
  unfold executedBy execute QueryPlan.prepare
  dsimp only
  rw [Link.perform_bind, Link.perform_bind]
  simp only [Link.perform_ofExcept]
  cases QueryPlan.make context.chunkSize context.zone builder.request with
  | error => rfl
  | ok plan =>
    exact QueryPlan.perform_execute respond context plan
      { link with
        notes := link.notes ++ QueryPlan.notes context.chunkSize context.zone builder.request }

end Builder

end CalendarSeries
