import CalendarSeries.Link
import CalendarSeries.Query.Result
/-!
Running a plan: all its commands go out in one batch, and the replies are matched to the buckets by
position. Without commands nothing is sent. Nothing is ever sent a second time.
-/
namespace CalendarSeries.QueryPlan

/-- Makes a plan on the terms of a context. -/
def prepare (context : Context) (request : RangeRequest) : Run QueryPlan := do
  Link.noteAll (notes context.chunkSize context.zone request)
  Run.ofExcept (make context.chunkSize context.zone request)

def batchName : String := "range_pipeline"

/-- Sends the open batch, with notes of its start and its end. What comes back has to be a
sequence of replies. -/
def exchange : Run (List Value) := do
  Link.note ⟨.debug, .planner, "START: " ++ batchName⟩
  let finish := Link.note ⟨.debug, .planner, "END: " ++ batchName⟩
  let replies ← tryCatch (do Run.ofExcept (← Link.execute).iterate)
    fun error => do
      finish
      throw error
  finish
  pure replies

/-- Queues the commands of a plan in their order. -/
def queueAll (context : Context) (subqueries : List SubQuery) : Run Unit :=
  subqueries.forM fun subquery => do
    let arguments ← Run.ofExcept subquery.request.arguments
    Link.queue context subquery.request.command arguments

/-- The replies to all commands of a plan. -/
def replies (context : Context) (plan : QueryPlan) : Run (List Value) :=
  if plan.subqueries.isEmpty then pure []
  else do
    Link.openBatch
    queueAll context plan.subqueries
    exchange

/-- Runs a plan. -/
def execute (context : Context) (plan : QueryPlan) : Run Samples := do
  let replies ← plan.replies context
  if replies.length ≠ plan.subqueries.length then
    throw (.replyCount replies.length plan.subqueries.length)
  Link.noteAll (plan.reconcileNotes replies)
  Run.ofExcept (plan.reconcile replies)

end CalendarSeries.QueryPlan
