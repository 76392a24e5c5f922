import CalendarSeries.Query.Result
import Mathlib.Data.List.Dedup
/-!
What a server answers to a range command over a series. It reads the command's words, selects the
samples that the window and the filters let through, groups them by buckets of the given duration
counted from the alignment, and gives one row for each group in ascending order. A limit of rows is
at least one, and is passed over: none of the commands of a calendar plan has more rows.
-/
namespace CalendarSeries

/-- A range command in its parts. -/
structure Call where
  start : Int
  stop : Int
  /-- The timestamps to which the samples are restricted. -/
  stamps : Option (List Int)
  /-- The least and the greatest value of the samples that count. -/
  values : Option (Value × Value)
  align : Int
  statistic : Statistic
  duration : Int

namespace Call

/-- The whole numbers at the head of a list, and what follows them. -/
def takeStamps : List Value → List Int × List Value
  | .int stamp :: rest => (stamp :: (takeStamps rest).1, (takeStamps rest).2)
  | rest => ([], rest)

def skipLatest : List Value → List Value
  | .text "LATEST" :: rest => rest
  | rest => rest

def readStamps : List Value → Option (List Int) × List Value
  | .text "FILTER_BY_TS" :: rest => (some (takeStamps rest).1, (takeStamps rest).2)
  | rest => (none, rest)

def readValues : List Value → Option (Value × Value) × List Value
  | .text "FILTER_BY_VALUE" :: least :: greatest :: rest => (some (least, greatest), rest)
  | rest => (none, rest)

def skipCount : List Value → List Value
  | .text "COUNT" :: _ :: rest => rest
  | rest => rest

/-- A range command from what follows its name. -/
def ofArguments? : List Value → Option Call
  | _ :: .int start :: .int stop :: clauses =>
    let (stamps, clauses) := readStamps (skipLatest clauses)
    let (values, clauses) := readValues clauses
    match skipCount clauses with
    | [.text "ALIGN", .int align, .text "AGGREGATION", .text word, .int duration] =>
      (Statistic.ofWord? word).map fun statistic =>
        ⟨start, stop, stamps, values, align, statistic, duration⟩
    | _ => none
  | _ => none

/-- What is taken ends where something else than a number follows. -/
theorem takeStamps_eq (stamps : List Int) {rest : List Value}
    (ends : ∀ n, rest.head? ≠ some (.int n)) :
    takeStamps (stamps.map .int ++ rest) = (stamps, rest) := by
  induction stamps with
  | nil =>
    rw [List.map_nil, List.nil_append]
    unfold takeStamps
    split
    · exact absurd rfl (ends _)
    · rfl
  | cons stamp stamps ih => simp [takeStamps, ih]

theorem takeStamps_append (stamps : List Int) (word : String) (rest : List Value) :
    takeStamps (stamps.map .int ++ .text word :: rest) = (stamps, .text word :: rest) :=
  takeStamps_eq stamps (by simp)

/-- The clause of timestamps is read as it is written, where no number follows it. -/
theorem readStamps_eq {request : RangeRequest} (listed : request.timestamps ≠ some [])
    {rest : List Value} (ends : ∀ n, rest.head? ≠ some (.int n))
    (other : rest.head? ≠ some (.text "FILTER_BY_TS")) :
    readStamps (request.timestampArguments ++ rest) = (request.timestamps, rest) := by
  unfold RangeRequest.timestampArguments
  match stamps : request.timestamps with
  | none =>
    rw [List.nil_append]
    unfold readStamps
    split
    · exact absurd rfl other
    · rfl
  | some [] => exact absurd stamps listed
  | some (first :: others) =>
    have taken := takeStamps_eq (first :: others) ends
    rw [List.map_cons] at taken
    exact congrArg (fun found => (some found.1, found.2)) taken

theorem readStamps_arguments {request : RangeRequest} (listed : request.timestamps ≠ some [])
    {word : String} (other : word ≠ "FILTER_BY_TS") (rest : List Value) :
    readStamps (request.timestampArguments ++ .text word :: rest) =
      (request.timestamps, .text word :: rest) :=
  readStamps_eq listed (by simp) (by simpa using other)

theorem skipLatest_arguments (request : RangeRequest) {word : String} (other : word ≠ "LATEST")
    (rest : List Value) :
    skipLatest (request.timestampArguments ++ .text word :: rest) =
      request.timestampArguments ++ .text word :: rest := by
  unfold RangeRequest.timestampArguments
  split <;> simp [skipLatest, other]

theorem skipLatest_latest (rest : List Value) : skipLatest (.text "LATEST" :: rest) = rest :=
  rfl

/-- The words of a request that asks for fixed buckets are read as they are meant. -/
theorem exists_arguments {request : RangeRequest} {start stop align duration : Int}
    {statistic : Statistic} (starts : request.start = .instant start)
    (stops : request.stop = .instant stop)
    (aggregated : request.aggregation = some ⟨statistic, .fixed duration⟩)
    (aligned : request.align = .int align) (closed : request.includeEmpty = false)
    (listed : request.timestamps ≠ some []) :
    ∃ arguments, request.arguments = .ok arguments ∧ ofArguments? arguments =
      some ⟨start, stop, request.timestamps, request.values, align, statistic, duration⟩ := by
  have clause : request.aggregationArguments = .ok [.text "ALIGN", .int align,
      .text "AGGREGATION", .text statistic.word, .int duration] := by
    simp [RangeRequest.aggregationArguments, aggregated, Aggregation.clause, Except.map, aligned,
      closed]
  refine ⟨_, by rw [RangeRequest.arguments, clause, Except.map], ?_⟩
  rw [starts, stops]
  -- the clauses that may be missing
  cases request.latest <;> cases values : request.values <;> cases count : request.count <;>
    simp [RangeRequest.valueArguments, RangeRequest.countArguments, values, count, Bound.value,
      ofArguments?, skipLatest_latest, skipLatest_arguments, readStamps_arguments listed,
      readValues, skipCount, Statistic.ofWord?_word]

/-- The number of the bucket that an instant falls into. -/
def slot (call : Call) (instant : Int) : Int :=
  (instant - call.align) / call.duration

end Call

/-- How a server takes a statistic of values, and which values pass a filter. -/
structure Server (α : Type) where
  number : Statistic → List α → Decimal
  /-- The number as it is written in a reply. -/
  reply : Statistic → List α → Value
  readable : ∀ statistic values, values ≠ [] →
    (reply statistic values).toDecimal = .ok (number statistic values)
  passes : Value → Value → α → Bool

namespace Server

variable {α : Type} (server : Server α) (series : List (Int × α))

/-- Whether a sample lies in the window of a command and passes its filters. -/
def selects (call : Call) (sample : Int × α) : Bool :=
  call.start ≤ sample.1 && sample.1 ≤ call.stop && call.stamps.all (·.contains sample.1) &&
    call.values.all fun (least, greatest) => server.passes least greatest sample.2

def selection (call : Call) : List (Int × α) :=
  series.filter (server.selects call)

/-- The numbers of the buckets that hold any sample, in ascending order. -/
def slots (call : Call) : List Int :=
  ((server.selection series call).map fun sample => call.slot sample.1).dedup.mergeSort

/-- The row of one bucket. -/
def row (call : Call) (slot : Int) : Value :=
  .list [.int (call.align + slot * call.duration), server.reply call.statistic
    (((server.selection series call).filter fun sample => call.slot sample.1 = slot).map (·.2))]

def rows (call : Call) : List Value :=
  (server.slots series call).map (server.row series call)

/-- The reply to a command of a plan, if it is a range command. -/
def answer? (query : SubQuery) : Option Value := do
  let arguments ← query.request.arguments.toOption
  if query.request.command = "TS.RANGE" then
    (Call.ofArguments? arguments).map fun call => .list (server.rows series call)
  else none

/-- The values that a command selects. -/
def valuesOf (call : Call) : List α :=
  (server.selection series call).map (·.2)

/-- Samples that all fall into the first bucket make up its row. -/
theorem rows_of_first_slot {call : Call}
    (inside : ∀ sample ∈ server.selection series call,
      call.align ≤ sample.1 ∧ sample.1 < call.align + call.duration) :
    server.rows series call =
      match server.valuesOf series call with
      | [] => []
      | values => [.list [.int call.align, server.reply call.statistic values]] := by
  have zero (sample : Int × α) (member : sample ∈ server.selection series call) :
      call.slot sample.1 = 0 := by
    have := inside sample member
    exact Int.ediv_eq_zero_of_lt (by omega) (by omega)
  have same : (server.selection series call).map (fun sample => call.slot sample.1) =
      List.replicate (server.selection series call).length 0 := by
    rw [List.eq_replicate_iff]
    refine ⟨List.length_map _, fun slot member => ?_⟩
    obtain ⟨sample, selected, rfl⟩ := List.mem_map.1 member
    exact zero sample selected
  have all : (server.selection series call).filter (fun sample => call.slot sample.1 = 0) =
      server.selection series call :=
    List.filter_eq_self.2 fun sample member => by simpa using zero sample member
  unfold rows slots valuesOf
  rw [same]
  cases selection : server.selection series call with
  | nil => simp
  | cons sample rest =>
    rw [List.length_cons, List.replicate_dedup (Nat.succ_ne_zero _), List.mergeSort_singleton]
    simp only [List.map_cons, List.map_nil, row, all, Int.zero_mul, Int.add_zero]
    rw [selection, List.map_cons]

theorem rowElement_eq {stamp : Int} {value : Value} {number : Decimal}
    (readable : value.toDecimal = .ok number) :
    QueryPlan.rowElement (.list [.int stamp, value]) = .ok (.sample stamp (.decimal number)) := by
  simp [QueryPlan.rowElement, Element.ofRow, Value.pair, Value.iterate, Value.toInteger,
    Value.integer?, readable, bind, Except.bind]

/-- A whole number as its digits, where these are read back as the number. -/
def written (n : Int) : Value :=
  let digits := Value.bytes ((Text.ofInt n).map fun digit => digit.toNat.toUInt8)
  if digits.toDecimal.toOption = some (Decimal.ofInt n) then digits else .int n

theorem toDecimal_written (n : Int) : (written n).toDecimal = .ok (Decimal.ofInt n) := by
  unfold written
  dsimp only
  split
  · rename_i readable
    generalize Value.toDecimal _ = result at readable ⊢
    cases result with
    | error => cases readable
    | ok => cases readable; rfl
  · rfl

def total (values : List Int) : Int :=
  values.foldl (· + ·) 0

/-- A server of whole numbers whose only statistic is their sum. -/
def summing : Server Int where
  number _ values := Decimal.ofInt (total values)
  reply _ values := written (total values)
  readable _ values _ := toDecimal_written (total values)
  passes least greatest value := least.integer?.all (· ≤ value) && greatest.integer?.all (value ≤ ·)

end Server

end CalendarSeries
