import CalendarSeries.Query.Plan
import CalendarSeries.Sample.Basic
/-!
Replies as samples. Each reply belongs to the bucket of its command; its rows become samples or
marks of malformed rows, and a reply of failure becomes a mark. A bucket for which nothing came
may be reported by one sample that is not a number.
-/
namespace CalendarSeries.QueryPlan

/-- A row as a sample, or as the mark of a malformed row. -/
def rowElement (row : Value) : Except Error Element :=
  match Element.ofRow row with
  | .ok element => .ok element
  | .error (.malformedRow row) => .ok (.failure (.malformedRow row))
  | .error error => .error error

/-- The rows of a reply; nothing, or nothing but emptiness, has none. -/
def replyRows (reply : Value) : Except Error (List Value) :=
  if reply.isTrue then reply.iterate else .ok []

/-- The elements that a reply stands for. -/
def replyElements (reply : Value) : Except Error (List Element) :=
  match Error.ofValue? reply with
  | some error => .ok [.failure error]
  | none => do (← replyRows reply).mapM rowElement

/-- The elements of each command's reply, with the command's bucket. -/
def answered (plan : QueryPlan) (replies : List Value) : Except Error (List (Nat × List Element)) :=
  (plan.subqueries.zip replies).mapM fun (subquery, reply) =>
    (replyElements reply).map fun elements => (subquery.bucket, elements)

/-- Whether a bucket without elements is reported. -/
def fillsEmpty (plan : QueryPlan) : Bool :=
  plan.isCalendar && plan.request.includeEmpty

/-- What stands for a bucket without elements. -/
def placeholder (plan : QueryPlan) (index : Nat) : List Element :=
  if plan.fillsEmpty then
    match plan.buckets[index]? with
    | some bucket => [.sample bucket.start (.decimal Decimal.notANumber)]
    | none => []
  else []

/-- The elements of one bucket, in the order of its commands. -/
def bucketElements (plan : QueryPlan) (parts : List (Nat × List Element)) (index : Nat) :
    List Element :=
  match ((parts.filter (·.1 == index)).map (·.2)).flatten with
  | [] => plan.placeholder index
  | elements => elements

/-- The elements of all buckets in order. -/
def assemble (plan : QueryPlan) (parts : List (Nat × List Element)) : List Element :=
  (List.range plan.bucketCount).flatMap (plan.bucketElements parts)

/-- The samples that replies to a plan's commands make up, reply for command. -/
def reconcile (plan : QueryPlan) (replies : List Value) : Except Error Samples :=
  (plan.answered replies).map fun parts =>
    let elements := plan.assemble parts
    ⟨if plan.reverseResult then elements.reverse else elements,
      [(.text "key", plan.request.key)]⟩

/-- What is noted of the rows of one reply, and whether all of them could be read. -/
def rowNotes : List Value → List Note × Bool
  | [] => ([], true)
  | row :: rows =>
    match rowElement row with
    | .error _ => ([], false)
    | .ok (.failure error) =>
      let (notes, whole) := rowNotes rows
      (⟨.warning, .planner, error.message⟩ :: notes, whole)
    | .ok _ => rowNotes rows

/-- The notes of reconciling replies with the commands that they answer. -/
def replyNotes : List (SubQuery × Value) → List Note
  | [] => []
  | (subquery, reply) :: rest =>
    match Error.ofValue? reply with
    | some error =>
      ⟨.warning, .planner, subquery.request.command ++ " " ++ subquery.request.key.render ++
        " failed: " ++ error.message⟩ :: replyNotes rest
    | none =>
      match replyRows reply with
      | .error _ => []
      | .ok rows =>
        let (notes, whole) := rowNotes rows
        notes ++ if whole then replyNotes rest else []

def reconcileNotes (plan : QueryPlan) (replies : List Value) : List Note :=
  replyNotes (plan.subqueries.zip replies)

end CalendarSeries.QueryPlan
