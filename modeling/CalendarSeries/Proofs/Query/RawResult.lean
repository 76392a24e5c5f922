import CalendarSeries.Proofs.Query.Execution
import Mathlib.Data.List.Sort
/-!
Requests for samples as they are, restricted to timestamps. The timestamps are dealt out to several
commands in ascending chunks, and the server answers each on its own; the result is that of one
command with all timestamps. A limit goes with each command, so the result may be longer than it,
but begins with the rows that the one command would give.
-/
namespace CalendarSeries

/-- A list in the given direction. -/
def directed {α : Type} (reverse : Bool) (items : List α) : List α :=
  if reverse then items.reverse else items

/-- A range command without an aggregation in its parts; an open bound is none. -/
structure RawCall where
  first : Option Int
  last : Option Int
  /-- The timestamps to which the samples are restricted. -/
  stamps : Option (List Int)
  /-- The least and the greatest value of the samples that count. -/
  values : Option (Value × Value)
  /-- The most rows of the reply. -/
  count : Option Nat

namespace RawCall

/-- A bound: an instant, or the mark of an open one. -/
def readBound (mark : String) : Value → Option (Option Int)
  | .int instant => some (some instant)
  | .text word => if word = mark then some none else none
  | _ => none

def readCount : List Value → Option (Option Nat)
  | [] => some none
  | [.text "COUNT", .int count] => some (some count.toNat)
  | _ => none

/-- A range command from what follows its name. -/
def ofArguments? : List Value → Option RawCall
  | _ :: start :: stop :: clauses => do
    let (stamps, clauses) := Call.readStamps (Call.skipLatest clauses)
    let (values, clauses) := Call.readValues clauses
    some ⟨← readBound "-" start, ← readBound "+" stop, stamps, values, ← readCount clauses⟩
  | _ => none

/-- The rows of a reply up to the limit. -/
def limit {β : Type} (call : RawCall) (rows : List β) : List β :=
  match call.count with
  | none => rows
  | some count => rows.take count

end RawCall

/-- How a server writes values, and which of them pass a filter. -/
structure Store (α : Type) where
  number : α → Decimal
  /-- The number as it is written in a reply. -/
  written : α → Value
  readable : ∀ value, (written value).toDecimal = .ok (number value)
  passes : Value → Value → α → Bool

namespace Store

variable {α : Type} (store : Store α) (series : List (Int × α))

/-- Whether a sample lies in the range of a command and passes its filters. -/
def selects (call : RawCall) (sample : Int × α) : Bool :=
  call.first.all (· ≤ sample.1) && call.last.all (sample.1 ≤ ·) &&
    (call.values.all fun (least, greatest) => store.passes least greatest sample.2) &&
    call.stamps.all (·.contains sample.1)

/-- The samples that a command selects, in ascending order. -/
def selection (call : RawCall) : List (Int × α) :=
  (series.mergeSort fun a b => a.1 ≤ b.1).filter (store.selects call)

def row (sample : Int × α) : Value :=
  .list [.int sample.1, store.written sample.2]

/-- A store of whole numbers. -/
def integers : Store Int where
  number := Decimal.ofInt
  written := Server.written
  readable := Server.toDecimal_written
  passes least greatest value := least.integer?.all (· ≤ value) && greatest.integer?.all (value ≤ ·)

def element (sample : Int × α) : Element :=
  .sample sample.1 (.decimal (store.number sample.2))

/-- The reply to a command: the rows of its own arguments. -/
def respond (command : String) (arguments : List Value) : Value :=
  match RawCall.ofArguments? arguments with
  | none => .failure .response "ERR syntax error"
  | some call =>
    if command = "TS.RANGE" then
      .list ((call.limit (store.selection series call)).map store.row)
    else if command = "TS.REVRANGE" then
      .list ((call.limit (store.selection series call).reverse).map store.row)
    else .failure .response "ERR unknown command"

end Store

/-- A request for samples as they are, in a range with both bounds open or at an instant, restricted
to timestamps. -/
structure RangeRequest.IsStamped (request : RangeRequest) (first last : Option Int)
    (stamps : List Int) (count : Option Nat) : Prop where
  raw : request.aggregation = none
  unranged : request.ranges = none ∨ request.ranges = some []
  starts : request.start = first.elim .oldest .instant
  stops : request.stop = last.elim .newest .instant
  stamped : request.timestamps = some stamps
  listed : stamps ≠ []
  limited : request.count = count.map fun count => .int count

variable {request : RangeRequest} {first last : Option Int} {stamps : List Int}
  {count : Option Nat}

/-- What the server reads of it. -/
def RangeRequest.call (request : RangeRequest) (first last : Option Int) (count : Option Nat)
    (stamps : List Int) : RawCall :=
  ⟨first, last, some stamps, request.values, count⟩

namespace RawCall

theorem takeStamps_map (stamps : List Int) : Call.takeStamps (stamps.map .int) = (stamps, []) := by
  simpa using Call.takeStamps_eq stamps (show ∀ n, ([] : List Value).head? ≠ some (.int n) by simp)

/-- The words of such a request are read as they are meant. -/
theorem exists_arguments (asked : request.IsStamped first last stamps count) :
    ∃ arguments, request.arguments = .ok arguments ∧
      ofArguments? arguments = some (request.call first last count stamps) := by
  obtain ⟨raw, -, starts, stops, stamped, listed, limited⟩ := asked
  have clause : request.aggregationArguments = .ok [] := by
    rw [RangeRequest.aggregationArguments, raw]
  refine ⟨_, by rw [RangeRequest.arguments, clause, Except.map], ?_⟩
  obtain ⟨stamp, others, rfl⟩ := List.exists_cons_of_ne_nil listed
  have start : readBound "-" request.start.value = some first := by
    rw [starts]
    cases first <;> simp [Bound.value, readBound]
  have stop : readBound "+" request.stop.value = some last := by
    rw [stops]
    cases last <;> simp [Bound.value, readBound]
  -- the clauses that may be missing
  cases request.latest <;> cases values : request.values <;> cases count <;>
    simp [RangeRequest.timestampArguments, RangeRequest.valueArguments,
      RangeRequest.countArguments, RangeRequest.call, stamped, values, limited,
      ofArguments?, start, stop,
      Call.skipLatest, Call.readStamps, Call.takeStamps, Call.takeStamps_append, takeStamps_map,
      Call.readValues, readCount]

end RawCall

namespace Store

variable {α : Type} (store : Store α) (series : List (Int × α))

/-- A row as it is read. -/
def readRow (sample : Int × α) : Row :=
  ⟨store.row sample, store.element sample, Server.rowElement_eq (store.readable sample.2)⟩

theorem elementsBy_respond (asked : request.IsStamped first last stamps count) :
    let call := request.call first last count stamps
    QueryPlan.elementsBy (store.respond series) request =
      .ok ((call.limit (directed request.reverse (store.selection series call))).map
        store.element) := by
  intro call
  obtain ⟨arguments, worded, read⟩ := RawCall.exists_arguments asked
  have answered (samples : List (Int × α)) :
      QueryPlan.replyElements (.list (samples.map store.row)) =
        .ok (samples.map store.element) := by
    have rows := RangeReply.replyElements_value (.rows (samples.map store.readRow))
    rw [RangeReply.value, RangeReply.elements, List.map_map, List.map_map] at rows
    exact rows
  unfold QueryPlan.elementsBy respond RangeRequest.command
  rw [worded]
  simp only [bind, Except.bind, read]
  cases request.reverse
  · exact answered _
  · exact answered _

/-- Of items in order, those that pass one of two tests are those that pass the first and then those
that pass the second, if the latter come later. -/
theorem filter_or {β : Type} {items : List β} {key : β → Int} (early late : β → Bool)
    (ordered : items.Pairwise fun a b => key a < key b)
    (apart : ∀ a b, early a = true → late b = true → key a < key b) :
    items.filter (fun item => early item || late item) =
      items.filter early ++ items.filter late := by
  induction items with
  | nil => rfl
  | cons item items ih =>
    obtain ⟨before, ordered⟩ := List.pairwise_cons.1 ordered
    have rest := ih ordered
    cases passed : early item with
    | true =>
      have failed : late item = false := by
        by_contra both
        exact Int.lt_irrefl _ (apart item item passed (by simpa using both))
      simp [passed, failed, rest]
    | false =>
      cases passes : late item with
      | false => simp [passed, passes, rest]
      | true =>
        have ended : items.filter early = [] := by
          rw [List.filter_eq_nil_iff]
          intro other member earlier
          have := apart other item earlier passes
          have := before other member
          omega
        simp [passed, passes, rest, ended]

/-- The samples of timestamps in order are those of their parts, one part after another. -/
theorem flatMap_filter_contains {samples : List (Int × α)} (passes : Int × α → Bool)
    (ordered : samples.Pairwise fun a b => a.1 < b.1) {parts : List (List Int)}
    (ascending : parts.flatten.Pairwise (· < ·)) :
    (parts.flatMap fun part => samples.filter fun sample =>
        passes sample && part.contains sample.1) =
      samples.filter fun sample => passes sample && parts.flatten.contains sample.1 := by
  induction parts with
  | nil => simp
  | cons part parts ih =>
    obtain ⟨-, later, apart⟩ := List.pairwise_append.1 (List.flatten_cons ▸ ascending)
    have split := filter_or (fun sample => passes sample && part.contains sample.1)
      (fun sample => passes sample && parts.flatten.contains sample.1) ordered ?_
    · rw [List.flatMap_cons, ih later, ← split]
      apply List.filter_congr
      intro sample _
      rw [List.flatten_cons, List.contains_append, Bool.and_or_distrib_left]
    · intro a b early late
      simp only [Bool.and_eq_true, List.contains_iff_mem] at early late
      exact apart a.1 early.2 b.1 late.2

theorem take_flatMap_take {β γ : Type} (n : Nat) (parts : List β) (f : β → List γ) :
    (parts.flatMap fun part => (f part).take n).take n = (parts.flatMap f).take n := by
  induction parts with
  | nil => rfl
  | cons part parts ih =>
    have others := congrArg (List.take (n - (f part).length)) ih
    rw [List.take_take, List.take_take, Nat.min_eq_left (Nat.sub_le _ _)] at others
    rw [List.flatMap_cons, List.flatMap_cons, List.take_append, List.take_append, List.take_take,
      Nat.min_self, List.length_take]
    rw [show n - min n (f part).length = n - (f part).length by omega, others]

/-- Items that differ in their keys are sorted with their keys strictly increasing. -/
theorem increasing_mergeSort {β : Type} (key : β → Int) {items : List β}
    (distinct : (items.map key).Nodup) :
    (items.mergeSort fun a b => key a ≤ key b).Pairwise fun a b => key a < key b := by
  have sorted : (items.mergeSort fun a b => key a ≤ key b).Pairwise
      fun a b => decide (key a ≤ key b) = true :=
    List.pairwise_mergeSort
      (fun a b c first second => by
        rw [decide_eq_true_iff] at first second ⊢
        exact Int.le_trans first second)
      (fun a b => by simpa using Int.le_total (key a) (key b)) items
  have apart : ((items.mergeSort fun a b => key a ≤ key b).map key).Nodup :=
    ((List.mergeSort_perm items _).map key).nodup_iff.2 distinct
  rw [List.Nodup, List.pairwise_map] at apart
  refine (sorted.and apart).imp fun {a b} both => ?_
  exact Int.lt_iff_le_and_ne.2 ⟨of_decide_eq_true both.1, both.2⟩

end Store

theorem map_directed {α β : Type} (reverse : Bool) (items : List α) (f : α → β) :
    (directed reverse items).map f = directed reverse (items.map f) := by
  cases reverse
  · rfl
  · exact List.map_reverse

theorem flatMap_directed {α β : Type} (reverse : Bool) (parts : List α) (f : α → List β) :
    ((directed reverse parts).flatMap fun part => directed reverse (f part)) =
      directed reverse (parts.flatMap f) := by
  cases reverse
  · rfl
  · exact List.reverse_flatMap.symm

namespace QueryPlan

/-- The timestamps that go with the commands of a request: those in range, in ascending chunks. -/
def stampParts (size : Int) (request : RangeRequest) (stamps : List Int) : List (List Int) :=
  chunksOf size.toNat (stamps.filter (Bound.within request.start request.stop)).mergeSort

/-- The request of one command. -/
def partRequest (request : RangeRequest) (part : List Int) : RangeRequest :=
  { request with timestamps := some part, ranges := none }

variable {size : Int}

theorem fixedRequests_stamped (positive : 1 ≤ size)
    (asked : request.IsStamped first last stamps count) :
    fixedRequests size request =
      .ok ((stampParts size request stamps).map (partRequest request)) := by
  have windows : fixedWindows request = [{ request with timestamps := none, ranges := none }] := by
    unfold fixedWindows
    rcases asked.unranged with ranges | ranges <;> rw [ranges]
  rw [fixedRequests, windows, asked.stamped, List.mapM_cons, List.mapM_nil]
  simp only [withChunks, chunks, if_pos positive, Except.map]
  simp only [bind, Except.bind, pure, Except.pure, List.flatten_cons, List.flatten_nil,
    List.append_nil]
  rfl

theorem isStamped_partRequest (asked : request.IsStamped first last stamps count) {part : List Int}
    (member : part ∈ stampParts size request stamps) :
    (partRequest request part).IsStamped first last part count where
  raw := asked.raw
  unranged := .inl rfl
  starts := asked.starts
  stops := asked.stops
  stamped := rfl
  listed := by
    rintro rfl
    exact nil_not_mem_chunksOf member
  limited := asked.limited

/-- The samples of the commands' replies, before a limit. -/
def partSamples {α : Type} (store : Store α) (series : List (Int × α)) (request : RangeRequest)
    (first last : Option Int) (count : Option Nat) (part : List Int) : List (Int × α) :=
  store.selection series (request.call first last count part)

theorem make_stamped (zone : String) (positive : 1 ≤ size)
    (asked : request.IsStamped first last stamps count) :
    make size zone request = .ok (fixedPlan request
      ((directed request.reverse (stampParts size request stamps)).map (partRequest request))) := by
  have plain : request.unit? = none := by rw [RangeRequest.unit?, asked.raw]; rfl
  have given : request.timestamps ≠ some [] := by
    rw [asked.stamped]
    exact fun empty => asked.listed (Option.some.inj empty)
  rw [make_of_plain request size zone plain given, fixedRequests_stamped positive asked,
    map_directed]
  rfl

/-- The parts' samples make up the samples of all timestamps. -/
theorem exists_selected {α : Type} (store : Store α) {series : List (Int × α)}
    (distinct : (series.map (·.1)).Nodup) (positive : 1 ≤ size)
    (asked : request.IsStamped first last stamps count) (once : stamps.Nodup) :
    let selected := (stampParts size request stamps).flatMap
      (partSamples store series request first last count)
    selected.Pairwise (fun a b => a.1 < b.1) ∧
      ∀ sample, sample ∈ selected ↔ sample ∈ series ∧ sample.1 ∈ stamps ∧
        (∀ bound ∈ first, bound ≤ sample.1) ∧ (∀ bound ∈ last, sample.1 ≤ bound) ∧
        ∀ bounds ∈ request.values, store.passes bounds.1 bounds.2 sample.2 = true := by
  intro selected
  let samples := series.mergeSort fun a b => a.1 ≤ b.1
  let inside := (stamps.filter (Bound.within request.start request.stop)).mergeSort
  let passes : Int × α → Bool := fun sample =>
    first.all (· ≤ sample.1) && last.all (sample.1 ≤ ·) &&
      request.values.all fun (least, greatest) => store.passes least greatest sample.2
  have ordered : samples.Pairwise fun a b => a.1 < b.1 :=
    Store.increasing_mergeSort (fun sample : Int × α => sample.1) distinct
  have ascending : inside.Pairwise (· < ·) :=
    Store.increasing_mergeSort (fun stamp => stamp) (by simpa using once.filter _)
  have whole : (stampParts size request stamps).flatten = inside :=
    (chunked_chunksOf (by omega) _).whole
  have joined : selected =
      samples.filter fun sample => passes sample && inside.contains sample.1 := by
    have parted := Store.flatMap_filter_contains passes ordered (whole ▸ ascending)
    rwa [whole] at parted
  have within (stamp : Int) : Bound.within request.start request.stop stamp =
      (first.all (· ≤ stamp) && last.all (stamp ≤ ·)) := by
    rw [asked.starts, asked.stops]
    cases first <;> cases last <;> rfl
  refine ⟨joined ▸ ordered.filter _, fun sample => ?_⟩
  have present : sample ∈ samples ↔ sample ∈ series := List.mem_mergeSort
  have stamped : sample.1 ∈ inside ↔ sample.1 ∈ stamps ∧
      (first.all (· ≤ sample.1) && last.all (sample.1 ≤ ·)) = true := by
    rw [List.mem_mergeSort, List.mem_filter, within]
  rw [joined, List.mem_filter, present]
  simp only [passes, Bool.and_eq_true, List.contains_iff_mem, stamped, Option.all_eq_true,
    decide_eq_true_eq]
  constructor
  · rintro ⟨member, ⟨⟨low, high⟩, filtered⟩, listed, -⟩
    exact ⟨member, listed, low, high, filtered⟩
  · rintro ⟨member, listed, low, high, filtered⟩
    exact ⟨member, ⟨⟨low, high⟩, filtered⟩, listed, low, high⟩

end QueryPlan

/-- Restricting a request for samples to timestamps gives those samples, however the timestamps are
dealt out; with a limit, a result that begins as they do. -/
theorem Builder.executed_stamped {α : Type} (store : Store α) (series : List (Int × α))
    (context : Context) (link : Link) (given : Given) (request : RangeRequest)
    (first last : Option Int) (stamps : List Int) (count : Option Nat)
    (distinct : (series.map (·.1)).Nodup) (positive : 1 ≤ context.chunkSize)
    (asked : request.IsStamped first last stamps count) (once : stamps.Nodup) :
    ∃ (selected : List (Int × α)) (samples : Samples),
      selected.Pairwise (fun a b => a.1 < b.1) ∧
      (∀ sample, sample ∈ selected ↔ sample ∈ series ∧ sample.1 ∈ stamps ∧
        (∀ bound ∈ first, bound ≤ sample.1) ∧ (∀ bound ∈ last, sample.1 ≤ bound) ∧
        ∀ bounds ∈ request.values, store.passes bounds.1 bounds.2 sample.2 = true) ∧
      executedBy (store.respond series) context link ⟨given, request⟩ = .ok samples ∧
      samples.metadata = [(.text "key", request.key)] ∧
      let elements := (directed request.reverse selected).map store.element
      (count = none → samples.elements = elements) ∧
      ∀ most ∈ count, samples.elements.take most = elements.take most := by
  obtain ⟨increasing, exactly⟩ := QueryPlan.exists_selected store distinct positive asked once
  let parts := QueryPlan.stampParts context.chunkSize request stamps
  let inPart := QueryPlan.partSamples store series request first last count
  let call := request.call first last count
  let elements : RangeRequest → List Element := fun single =>
    let part := single.timestamps.getD []
    ((call part).limit (directed request.reverse (inPart part))).map store.element
  have each (single : RangeRequest)
      (member : single ∈ (directed request.reverse parts).map (QueryPlan.partRequest request)) :
      QueryPlan.elementsBy (store.respond series) single = .ok (elements single) := by
    obtain ⟨part, among, rfl⟩ := List.mem_map.1 member
    have among : part ∈ parts := by
      unfold directed at among
      split at among
      · exact List.mem_reverse.1 among
      · exact among
    exact store.elementsBy_respond series (QueryPlan.isStamped_partRequest asked among)
  have result : executedBy (store.respond series) context link ⟨given, request⟩ =
      .ok ⟨((directed request.reverse parts).map (QueryPlan.partRequest request)).flatMap elements,
        [(.text "key", request.key)]⟩ := by
    rw [executedBy_eq, QueryPlan.make_stamped _ positive asked]
    exact QueryPlan.resultBy_fixedPlan request each
  have whole : (directed request.reverse parts).flatMap
      (fun part => directed request.reverse (inPart part)) =
        directed request.reverse (parts.flatMap inPart) := flatMap_directed ..
  have limited : ((directed request.reverse parts).map
      (QueryPlan.partRequest request)).flatMap elements =
        ((directed request.reverse parts).flatMap fun part =>
          (call part).limit (directed request.reverse (inPart part))).map store.element := by
    rw [List.flatMap_map, List.map_flatMap]
    rfl
  refine ⟨_, _, increasing, exactly, result, rfl, ?_, ?_⟩
  · rintro rfl
    rw [limited, ← whole]
    rfl
  · rintro most rfl
    rw [limited, ← List.map_take, ← List.map_take, ← whole]
    exact congrArg (List.map store.element) (Store.take_flatMap_take most _ _)

/-- Three timestamps, one to a command, of which one is out of range and one has no sample: newest
first, and the first of them if the result is limited to one. -/
theorem Builder.executed_stamped_integers :
    let request : RangeRequest :=
      { key := .text "energy", start := .instant 5, timestamps := some [30, 4, 10, 40],
        ranges := some [], stop := .newest, reverse := true, count := some (.int 1) }
    ∃ samples, executedBy (Store.integers.respond [(30, 3), (4, 4), (10, 1), (20, 2)])
        { chunkSize := 1 } ⟨[], [], [], []⟩ ⟨⟨.int 5, .none, none, none, none⟩, request⟩ =
          .ok samples ∧
      samples.elements.take 1 = [.sample 30 (.decimal (Decimal.ofInt 3))] := by
  intro request
  obtain ⟨selected, samples, increasing, exactly, result, -, -, begins⟩ :=
    executed_stamped Store.integers [(30, 3), (4, 4), (10, 1), (20, 2)] { chunkSize := 1 }
      ⟨[], [], [], []⟩ ⟨.int 5, .none, none, none, none⟩ request (some 5) none [30, 4, 10, 40]
      (some 1) (by decide) (by decide) ⟨rfl, .inr rfl, rfl, rfl, rfl, by decide, rfl⟩ (by decide)
  have found : selected = [(10, 1), (30, 3)] := by
    have strict : Std.Irrefl fun a b : Int × Int => a.1 < b.1 := ⟨fun a => Int.lt_irrefl a.1⟩
    refine increasing.eq_of_mem_iff (by simp) fun sample => (exactly sample).trans ?_
    obtain ⟨stamp, value⟩ := sample
    simp [request]
    omega
  refine ⟨samples, result, (begins 1 rfl).trans ?_⟩
  rw [found]
  rfl

end CalendarSeries
