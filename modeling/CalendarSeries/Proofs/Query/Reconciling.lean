import CalendarSeries.Proofs.Gathering
import CalendarSeries.Proofs.Query.Execution
import CalendarSeries.Proofs.Query.Reading
import Mathlib.Algebra.Order.Ring.Nat
import Mathlib.Data.Set.List
/-!
Replies regrouped by the buckets of their commands. Every row and every report of failure comes out
once: bucket after bucket, within a bucket in the order of its commands, within a reply in the order
of its rows. Nothing else comes out but one sample that is no number for a calendar bucket to which
nothing came. Replies of any rows can be regrouped like this, unless one has an infinite timestamp.
-/
namespace CalendarSeries

namespace Row

theorem not_isStampedInfinite (row : Row) : row.value.isStampedInfinite = false := by
  rw [Bool.eq_false_iff]
  intro infinite
  obtain ⟨cause, unread⟩ := QueryPlan.rowElement_of_infinite infinite
  rw [row.read] at unread
  cases unread

theorem exists_value {value : Value} (finite : value.isStampedInfinite = false) :
    ∃ row : Row, row.value = value := by
  rcases QueryPlan.rowElement_of_finite finite with ⟨stamp, x, read⟩ | read
  · exact ⟨⟨value, _, read⟩, rfl⟩
  · exact ⟨⟨value, _, read⟩, rfl⟩

/-- The element of a row is the sample that it denotes, or the mark that it is malformed. -/
theorem element_eq (row : Row) :
    (∃ stamp x, row.element = .sample stamp (.decimal x)) ∨
      row.element = .failure (.malformedRow row.value) := by
  rcases QueryPlan.rowElement_of_finite row.not_isStampedInfinite with ⟨stamp, x, read⟩ | read
  · exact .inl ⟨stamp, x, Except.ok.inj (row.read.symm.trans read)⟩
  · exact .inr (Except.ok.inj (row.read.symm.trans read))

end Row

namespace RangeReply

/-- A reply as it is given; there may be none. -/
def given : Option RangeReply → Value
  | none => .none
  | some reply => reply.value

/-- What a reply brings. -/
def brings : Option RangeReply → List Element
  | none => []
  | some reply => reply.elements

/-- How many rows a reply has; a report of failure counts as one. -/
def size : Option RangeReply → Nat
  | none => 0
  | some (failed ..) => 1
  | some (rows listed) => listed.length

theorem length_brings (reply : Option RangeReply) : (brings reply).length = size reply := by
  match reply with
  | none | some (failed ..) => rfl
  | some (rows _) => exact List.length_map _

theorem replyElements_given (reply : Option RangeReply) :
    QueryPlan.replyElements (given reply) = .ok (brings reply) := by
  cases reply with
  | none => rfl
  | some reply => exact reply.replyElements_value

end RangeReply

variable {α β : Type}

/-- Items gathered key by key are the items whose keys are reached. -/
theorem gathered_perm (key : α → Nat) (items : List α) (count : Nat) :
    ((List.range count).flatMap fun index => items.filter (key · == index)).Perm
      (items.filter (key · < count)) := by
  have apart : (List.range count).Pairwise fun index other => ∀ item ∈ items,
      (key item == index) = true → (key item == other) = false :=
    List.pairwise_lt_range.imp fun before item _ own => by
      rw [beq_iff_eq.1 own, beq_eq_false_iff_ne]
      exact Nat.ne_of_lt before
  have reached : (items.filter fun item => (List.range count).any (key item == ·)) =
      items.filter (key · < count) :=
    List.filter_congr fun item _ => by
      rw [Bool.eq_iff_iff, List.any_eq_true]
      simp
  rw [← reached]
  exact flatMap_filter_perm apart

/-- Where each item gives as much by `f` as by `g`, and those that pass a test one more. -/
theorem length_flatMap_add {f g : α → List β} {test : α → Bool} {items : List α}
    (each : ∀ item ∈ items, (f item).length = (g item).length + if test item then 1 else 0) :
    (items.flatMap f).length = (items.flatMap g).length + items.countP test := by
  induction items with
  | nil => rfl
  | cons item items ih =>
    have rest := ih fun other member => each other (List.mem_cons_of_mem _ member)
    rw [List.flatMap_cons, List.flatMap_cons, List.length_append, List.length_append,
      List.countP_cons, each item List.mem_cons_self, rest]
    omega

namespace QueryPlan

/-- The buckets of a plan in order; one without bounds if no calendar unit is asked for. -/
def slots (plan : QueryPlan) : List (Option Bucket) :=
  if plan.buckets.isEmpty then [none] else plan.buckets.map some

/-- What the commands of one bucket bring, one command after another. -/
def brought (plan : QueryPlan) (replies : List (Option RangeReply)) (index : Nat) : List Element :=
  ((plan.subqueries.zip replies).filter (·.1.bucket == index)).flatMap (RangeReply.brings ·.2)

/-- Whether a bucket to which nothing came is reported all the same. -/
def isVacant (plan : QueryPlan) (replies : List (Option RangeReply)) :
    Option Bucket × Nat → Bool
  | (slot, index) =>
    slot.isSome && plan.request.includeEmpty && (plan.brought replies index).isEmpty

/-- What one bucket contributes: all that its commands bring. Where that is nothing, a bucket of a
calendar is stood for by one sample if empty buckets are asked for. -/
def contribution (plan : QueryPlan) (replies : List (Option RangeReply)) :
    Option Bucket × Nat → List Element
  | (some bucket, index) =>
    match plan.brought replies index with
    | [] =>
      if plan.request.includeEmpty then [.sample bucket.start (.decimal Decimal.notANumber)] else []
    | elements => elements
  | (none, index) => plan.brought replies index

/-- The contributions of all buckets in order, or altogether reversed. -/
def reconciled (plan : QueryPlan) (replies : List (Option RangeReply)) : List Element :=
  let elements := plan.slots.zipIdx.flatMap (plan.contribution replies)
  if plan.reverseResult then elements.reverse else elements

/-- Every command belongs to one of the plan's buckets. -/
def OwnsCommands (plan : QueryPlan) : Prop :=
  ∀ subquery ∈ plan.subqueries, subquery.bucket < plan.bucketCount

variable {plan : QueryPlan} {replies : List (Option RangeReply)}

theorem length_slots (plan : QueryPlan) : plan.slots.length = plan.bucketCount := by
  unfold slots bucketCount
  split <;> simp

theorem range_bucketCount (plan : QueryPlan) :
    List.range plan.bucketCount = plan.slots.zipIdx.map (·.2) := by
  rw [List.zipIdx_map_snd, length_slots, List.range_eq_range']

theorem answered_given (plan : QueryPlan) (replies : List (Option RangeReply)) :
    plan.answered (replies.map RangeReply.given) =
      .ok ((plan.subqueries.zip replies).map fun (subquery, reply) =>
        (subquery.bucket, RangeReply.brings reply)) := by
  rw [answered, List.zip_map_right, List.mapM_map]
  refine mapM_of_forall fun (subquery, reply) _ => ?_
  simp only [Function.comp_apply, Prod.map, id, RangeReply.replyElements_given]
  rfl

/-- A placeholder stands where a calendar bucket has one. -/
theorem placeholder_of_slot {slot : Option Bucket} {index : Nat}
    (numbered : (slot, index) ∈ plan.slots.zipIdx) :
    plan.placeholder index =
      match slot with
      | some bucket =>
        if plan.request.includeEmpty then [.sample bucket.start (.decimal Decimal.notANumber)]
        else []
      | none => [] := by
  have there := List.mem_zipIdx_iff_getElem?.1 numbered
  unfold placeholder fillsEmpty isCalendar
  cases empty : plan.buckets.isEmpty with
  | true =>
    rw [slots, if_pos empty] at there
    obtain ⟨-, rfl⟩ : index = 0 ∧ slot = none := by grind
    rfl
  | false =>
    rw [slots, if_neg (by simp [empty]), List.getElem?_map] at there
    obtain ⟨bucket, found, rfl⟩ := Option.map_eq_some_iff.1 there
    simp [found]

theorem bucketElements_of_slot {slot : Option Bucket} {index : Nat}
    (numbered : (slot, index) ∈ plan.slots.zipIdx) :
    plan.bucketElements ((plan.subqueries.zip replies).map fun (subquery, reply) =>
        (subquery.bucket, RangeReply.brings reply)) index =
      plan.contribution replies (slot, index) := by
  have gathered : ((((plan.subqueries.zip replies).map fun (subquery, reply) =>
      (subquery.bucket, RangeReply.brings reply)).filter (·.1 == index)).map (·.2)).flatten =
      plan.brought replies index := by
    simp only [brought, List.filter_map, List.map_map, List.flatMap_def]
    rfl
  rw [bucketElements, gathered, placeholder_of_slot numbered]
  cases slot with
  | some => rfl
  | none =>
    dsimp only [contribution]
    cases plan.brought replies index <;> rfl

/-- Reconciling puts the contributions of the buckets one after another. -/
theorem reconcile_given (plan : QueryPlan) (replies : List (Option RangeReply)) :
    plan.reconcile (replies.map RangeReply.given) =
      .ok ⟨plan.reconciled replies, [(.text "key", plan.request.key)]⟩ := by
  rw [reconcile, answered_given]
  simp only [Except.map, assemble, range_bucketCount, List.flatMap_map]
  rw [List.flatMap_congr fun _ numbered => bucketElements_of_slot numbered]
  rfl

theorem length_contribution (plan : QueryPlan) (replies : List (Option RangeReply))
    (slot : Option Bucket × Nat) :
    (plan.contribution replies slot).length =
      (plan.brought replies slot.2).length + if plan.isVacant replies slot then 1 else 0 := by
  obtain ⟨_ | bucket, index⟩ := slot
  · rfl
  · cases found : plan.brought replies index with
    | nil => cases asked : plan.request.includeEmpty <;> simp [contribution, isVacant, found, asked]
    | cons => simp [contribution, isVacant, found]

/-- All that commands bring is brought to one of the buckets. -/
theorem brought_perm (owns : plan.OwnsCommands) :
    ((List.range plan.bucketCount).flatMap (plan.brought replies)).Perm
      ((plan.subqueries.zip replies).flatMap (RangeReply.brings ·.2)) := by
  have all : (plan.subqueries.zip replies).filter (·.1.bucket < plan.bucketCount) =
      plan.subqueries.zip replies := by
    rw [List.filter_eq_self]
    intro (subquery, reply) member
    simpa using owns subquery (List.of_mem_zip member).1
  have gathered := gathered_perm (·.1.bucket) (plan.subqueries.zip replies) plan.bucketCount
  rw [all] at gathered
  have spread := gathered.flatMap_right (RangeReply.brings ·.2)
  rwa [List.flatMap_assoc] at spread

theorem length_reconciled (whole : replies.length = plan.subqueries.length)
    (owns : plan.OwnsCommands) :
    (plan.reconciled replies).length =
      (replies.map RangeReply.size).sum + plan.slots.zipIdx.countP (plan.isVacant replies) := by
  have brought : (plan.slots.zipIdx.flatMap fun slot => plan.brought replies slot.2).length =
      (replies.map RangeReply.size).sum := by
    rw [← List.flatMap_map Prod.snd, ← range_bucketCount, (brought_perm owns).length_eq,
      List.length_flatMap]
    simp only [RangeReply.length_brings]
    conv_rhs => rw [← List.map_snd_zip (Nat.le_of_eq whole), List.map_map]
    rfl
  have turned : (plan.reconciled replies).length =
      (plan.slots.zipIdx.flatMap (plan.contribution replies)).length := by
    unfold reconciled
    split
    · exact List.length_reverse
    · rfl
  rw [turned, length_flatMap_add fun slot _ => plan.length_contribution replies slot, brought]

theorem ownsCommands_of_make {size : Int} {zone : String} {request : RangeRequest}
    (planned : make size zone request = .ok plan) : plan.OwnsCommands := by
  intro subquery member
  unfold make at planned
  split at planned
  · cases planned
  split at planned
  · obtain ⟨parts, -, planned⟩ := bind_succeeded planned
    cases planned
    obtain ⟨single, -, rfl⟩ := List.mem_map.1 member
    exact Nat.one_pos
  · obtain ⟨⟨start, stop⟩, -, planned⟩ := bind_succeeded planned
    obtain ⟨buckets, -, planned⟩ := bind_succeeded planned
    obtain ⟨parts, queried, planned⟩ := bind_succeeded planned
    cases planned
    obtain ⟨part, inside, member⟩ := List.mem_flatten.1 member
    obtain ⟨⟨bucket, index⟩, numbered, made⟩ := exists_of_mem_mapM queried inside
    obtain ⟨windows, -, made⟩ := bind_succeeded made
    cases made
    obtain ⟨single, -, rfl⟩ := List.mem_map.1 member
    have before := (List.mem_zipIdx numbered).2.1
    have calendar : buckets.isEmpty = false := by
      cases buckets with
      | nil => cases numbered
      | cons => rfl
    simp only [bucketCount, calendar]
    simpa using before

/-- Reconciling gives, bucket by bucket, one element for each report of failure and each row that
came to the bucket, or its placeholder. Where all commands belong to buckets of the plan, as they do
in every plan that is made of a request, that is one for each of all rows and reports. -/
theorem reconcile_concatenates (whole : replies.length = plan.subqueries.length) :
    plan.reconcile (replies.map RangeReply.given) =
        .ok ⟨plan.reconciled replies, [(.text "key", plan.request.key)]⟩ ∧
      (plan.OwnsCommands → (plan.reconciled replies).length =
        (replies.map RangeReply.size).sum + plan.slots.zipIdx.countP (plan.isVacant replies)) ∧
      ∀ {size : Int} {zone : String} {request : RangeRequest},
        make size zone request = .ok plan → plan.OwnsCommands :=
  ⟨reconcile_given plan replies, length_reconciled whole, ownsCommands_of_make⟩

/-- Three buckets, of which the second has no command, with the last one's command first. -/
def threeBuckets : QueryPlan where
  request := { key := .text "energy" }
  buckets := [⟨0, 60⟩, ⟨60, 120⟩, ⟨120, 180⟩]
  subqueries := [2, 0, 0].map (⟨·, { key := .text "energy" }⟩)
  reverseResult := true

/-- A report of failure stays between the rows of its bucket, and so does a malformed row. -/
theorem reconcile_concatenates_threeBuckets :
    let number := fun (stamp n : Int) =>
      (Element.sample stamp (.decimal (Decimal.ofInt n)))
    let replies : List (Option RangeReply) :=
      [some (.rows [⟨.list [.int 120, .int 5], number 120 5, rfl⟩]),
        some (.failed (.failure .response "ERR") (.reported .response "ERR") rfl),
        some (.rows [⟨.text "x", .failure (.malformedRow (.text "x")), rfl⟩,
          ⟨.list [.int 0, .int 7], number 0 7, rfl⟩])]
    threeBuckets.reconcile (replies.map RangeReply.given) =
        .ok ⟨[number 120 5, .sample 60 (.decimal .notANumber), number 0 7,
          .failure (.malformedRow (.text "x")), .failure (.reported .response "ERR")],
          [(.text "key", .text "energy")]⟩ ∧
      (threeBuckets.reconciled replies).length = 4 + 1 := by
  intro number replies
  have owns : threeBuckets.OwnsCommands := by
    simp [OwnsCommands, threeBuckets, bucketCount]
  obtain ⟨concatenated, counted, -⟩ :=
    reconcile_concatenates (show replies.length = threeBuckets.subqueries.length from rfl)
  exact ⟨concatenated, counted owns⟩

/-- Whether a reply is a report of failure, nothing, or a list of rows. -/
def IsReply (reply : Value) : Prop :=
  reply.isFailure = true ∨ reply = .none ∨ ∃ rows, reply = .list rows

/-- Whether no row of a reply has an infinite timestamp. -/
def IsFinite (reply : Value) : Prop :=
  ∀ rows, reply = .list rows → ∀ row ∈ rows, row.isStampedInfinite = false

theorem exists_reported {reply : Value} (failed : reply.isFailure = true) :
    ∃ error, Error.ofValue? reply = some error := by
  unfold Value.isFailure at failed
  split at failed
  · exact ⟨_, rfl⟩
  · exact ⟨_, rfl⟩
  · cases failed

theorem exists_given {reply : Value} (formed : IsReply reply) (finite : IsFinite reply) :
    ∃ answer, RangeReply.given answer = reply := by
  rcases formed with failed | rfl | ⟨rows, rfl⟩
  · obtain ⟨error, reported⟩ := exists_reported failed
    exact ⟨some (.failed reply error reported), rfl⟩
  · exact ⟨none, rfl⟩
  · have listed : rows ∈ Set.range (List.map Row.value) := by
      rw [Set.range_list_map]
      exact fun row member => Row.exists_value (finite rows rfl row member)
    obtain ⟨listed, rfl⟩ := listed
    exact ⟨some (.rows listed), rfl⟩

theorem replyElements_list (rows : List Value) :
    replyElements (.list rows) = rows.mapM rowElement := by
  cases rows <;> rfl

/-- A reply that can be read has no row with an infinite timestamp. -/
theorem isFinite_of_replyElements {reply : Value} {elements : List Element}
    (read : replyElements reply = .ok elements) : IsFinite reply := by
  rintro rows rfl row member
  rw [Bool.eq_false_iff]
  intro infinite
  obtain ⟨cause, unread⟩ := rowElement_of_infinite infinite
  rw [replyElements_list] at read
  obtain ⟨element, found⟩ := exists_ok_of_mapM read member
  rw [found] at unread
  cases unread

theorem overflow_of_replyElements {reply : Value} {error : Error} (formed : IsReply reply)
    (failed : replyElements reply = .error error) : error.kind = .overflow := by
  rcases formed with reported | rfl | ⟨rows, rfl⟩
  · obtain ⟨report, reported⟩ := exists_reported reported
    rw [replyElements, reported] at failed
    cases failed
  · cases failed
  · rw [replyElements_list] at failed
    obtain ⟨row, -, failed⟩ := mapM_failed failed
    exact rowElement_failed failed

/-- Replies to all commands of a plan are read, each row as a sample or as a mark that it is
malformed, unless one of them has a row with an infinite timestamp. -/
theorem reconcile_reads {replies : List Value} (whole : replies.length = plan.subqueries.length)
    (formed : ∀ reply ∈ replies, IsReply reply) :
    ((∃ samples, plan.reconcile replies = .ok samples) ↔ ∀ reply ∈ replies, IsFinite reply) ∧
      (∀ error, plan.reconcile replies = .error error → error.kind = .overflow) ∧
      (∀ samples, plan.reconcile replies = .ok samples →
        ∃ answers : List (Option RangeReply), answers.map RangeReply.given = replies ∧
          samples = ⟨plan.reconciled answers, [(.text "key", plan.request.key)]⟩) ∧
      ∀ row : Row, (∃ stamp x, row.element = .sample stamp (.decimal x)) ∨
        row.element = .failure (.malformedRow row.value) := by
  have finite_of_ok {samples : Samples} (read : plan.reconcile replies = .ok samples) :
      ∀ reply ∈ replies, IsFinite reply := by
    intro reply member
    obtain ⟨parts, answered, -⟩ := map_succeeded read
    rw [← List.map_snd_zip (Nat.le_of_eq whole)] at member
    obtain ⟨⟨subquery, reply⟩, paired, rfl⟩ := List.mem_map.1 member
    obtain ⟨part, found⟩ := exists_ok_of_mapM answered paired
    obtain ⟨elements, found, -⟩ := map_succeeded found
    exact isFinite_of_replyElements found
  have given_of_finite (finite : ∀ reply ∈ replies, IsFinite reply) :
      replies ∈ Set.range (List.map RangeReply.given) := by
    rw [Set.range_list_map]
    exact fun reply member => exists_given (formed reply member) (finite reply member)
  refine ⟨⟨fun ⟨_, read⟩ => finite_of_ok read, fun finite => ?_⟩, fun error failed => ?_,
    fun samples read => ?_, Row.element_eq⟩
  · obtain ⟨answers, rfl⟩ := given_of_finite finite
    exact ⟨_, reconcile_given plan answers⟩
  · obtain ⟨⟨subquery, reply⟩, paired, failed⟩ := mapM_failed (map_failed failed)
    exact overflow_of_replyElements (formed reply (List.of_mem_zip paired).2) (map_failed failed)
  · obtain ⟨answers, rfl⟩ := given_of_finite (finite_of_ok read)
    rw [reconcile_given] at read
    exact ⟨answers, rfl, (Except.ok.inj read).symm⟩

/-- Rows of no shape, of too few items and without a timestamp are all marked. -/
theorem reconcile_reads_odd :
    ∃ samples, threeBuckets.reconcile [.none, .failure .response "ERR",
      .list [.text "x", .list [.int 0], .list [.double .nan, .int 1]]] = .ok samples := by
  refine (reconcile_reads rfl fun reply member => ?_).1.2 ?_
  · simp only [List.mem_cons, List.not_mem_nil, or_false] at member
    rcases member with rfl | rfl | rfl
    · exact .inr (.inl rfl)
    · exact .inl rfl
    · exact .inr (.inr ⟨_, rfl⟩)
  · rintro reply member rows rfl row inside
    simp only [List.mem_cons, List.not_mem_nil, or_false, reduceCtorEq, false_or] at member
    cases member
    simp only [List.mem_cons, List.not_mem_nil, or_false] at inside
    rcases inside with rfl | rfl | rfl <;> rfl

/-- A row with an infinite timestamp stops all reading, also that of a row before it. -/
theorem reconcile_stops :
    (make defaultChunkSize "UTC" { key := .text "energy" }).bind
        (·.reconcile [.list [.list [.int 0, .int 1], .list [.double (.infinite false), .int 1]]]) =
      .error (.outOfRange .infiniteDouble) :=
  rfl

end QueryPlan

end CalendarSeries
