import CalendarSeries.Proofs.CommandLine.Fetching
import CalendarSeries.Proofs.Query.Asked
import CalendarSeries.Proofs.Query.LastGiven
/-!
What the shortcuts of the command line for a local day or month ask for. Calendar buckets ask for
the half-open day or month; samples as they are, or over fixed buckets, are asked for up to and with
the instant that ends it.
-/
namespace CalendarSeries

namespace Aggregation

theorem unit_of_lengthOf {statistic : Statistic} {length : BucketLength} {content : String}
    (read : lengthOf (.text content) = .ok length) :
    unit? ⟨statistic, length⟩ = CalendarUnit.ofWord? (Text.lower content) := by
  change lengthOfText (.text content) content = .ok length at read
  unfold lengthOfText at read
  split at read
  · rename_i unit found
    cases read
    rw [found]
    rfl
  · rename_i none
    rw [none]
    split at read
    · obtain ⟨n, -, read⟩ := bind_succeeded read
      unfold positive at read
      split at read
      · cases read
        rfl
      · cases read
    · cases read

end Aggregation

namespace Builder

theorem unit_of_readAggregation {statistic bucket : String} {aggregation : Option Aggregation}
    (read : readAggregation (.text statistic) (.text bucket) = .ok aggregation) :
    aggregation.bind Aggregation.unit? = CalendarUnit.ofWord? (Text.lower bucket) := by
  obtain ⟨made, found, rfl⟩ := map_succeeded read
  obtain ⟨_, -, found⟩ := bind_succeeded found
  obtain ⟨length, measured, found⟩ := bind_succeeded found
  cases found
  exact Aggregation.unit_of_lengthOf measured

theorem readCount_int {n : Int} {count : Value} (read : readCount (.int n) = .ok count) :
    count = .int n := by
  obtain ⟨below, -, read⟩ := bind_succeeded read
  split at read
  · cases read
  · cases read
    rfl

end Builder

namespace CommandLine.Selection

variable {context : Context} {selection : Selection} {key zone : String} {span : Bucket}

/-- The local day or month that the shortcut of a selection stands for in a zone. A day goes before
a month. -/
inductive StandsFor (zone : String) (selection : Selection) (span : Bucket) : Prop
  | day {text : String} {date : Date} : given? selection.day = some text →
    Pattern.day text.toList = .ok date → Bucket.dayBounds zone date = .ok span →
    StandsFor zone selection span
  | month {text : String} {date : Date} : given? selection.day = none →
    given? selection.month = some text → Pattern.month text.toList = .ok date →
    Bucket.monthBounds zone date = .ok span → StandsFor zone selection span

/-- The calendar unit of the buckets that are asked for. -/
def unit? (selection : Selection) : Option CalendarUnit :=
  (given? selection.bucket).bind fun bucket => CalendarUnit.ofWord? (Text.lower bucket)

/-- The last instant that is asked for of a local day or month. -/
def lastAsked (selection : Selection) (span : Bucket) : Int :=
  if selection.unit?.isSome then span.last else span.stop

theorem standsFor_of_bounds {bounds : Value × Value}
    (shortcut : given? selection.day ≠ none ∨ given? selection.month ≠ none)
    (bounded : selection.bounds zone = .ok bounds) :
    ∃ span, selection.StandsFor zone span ∧ bounds = boundsOf span := by
  unfold Selection.bounds at bounded
  split at bounded
  · rename_i text day
    obtain ⟨date, read, bounded⟩ := bind_succeeded bounded
    obtain ⟨span, found, rfl⟩ := map_succeeded bounded
    exact ⟨span, .day day (mapError_succeeded read) found, rfl⟩
  · rename_i text none month
    obtain ⟨date, read, bounded⟩ := bind_succeeded bounded
    obtain ⟨span, found, rfl⟩ := map_succeeded bounded
    exact ⟨span, .month none month (mapError_succeeded read) found, rfl⟩
  · rename_i noDay noMonth
    exact (shortcut.elim (· noDay) (· noMonth)).elim

/-- The step for buckets, from the texts of a statistic and a bucket. -/
def bucketSteps (pair : Option (String × String)) : List Builder.Step :=
  (pair.map fun (statistic, bucket) => .aggregation (.text statistic) (.text bucket)).toList

/-- The steps of a range command. -/
def rangeSteps (selection : Selection) (aggregation : List Builder.Step) (reverse : Bool)
    (count : Option Int) : List Builder.Step :=
  .empty selection.includeEmpty :: aggregation ++
    (count.map fun n => .count (.int n)).toList ++ if reverse then [.reverse] else []

/-- The options that these steps leave. -/
def rangeOptions (selection : Selection) (span : Bucket) (pair : Option (String × String))
    (reverse : Bool) (count : Option Int) : Builder.Options where
  start := .int span.start
  stop := .int span.stop
  timezone := selection.zone
  aggregation := pair.map fun (statistic, bucket) => (.text statistic, .text bucket)
  count := count.map .int
  includeEmpty := selection.includeEmpty
  reverse := reverse

theorem foldl_rangeSteps (pair : Option (String × String)) (reverse : Bool) (count : Option Int) :
    (selection.rangeSteps (bucketSteps pair) reverse count).foldl Builder.Options.take
        { start := (boundsOf span).1, stop := (boundsOf span).2, timezone := selection.zone } =
      selection.rangeOptions span pair reverse count := by
  cases pair <;> cases count <;> cases reverse <;> rfl

theorem exists_bucketSteps {aggregation : List Builder.Step}
    (found : selection.aggregationSteps? = some aggregation) :
    ∃ pair : Option (String × String), aggregation = bucketSteps pair ∧
      selection.unit? = pair.bind fun (_, bucket) => CalendarUnit.ofWord? (Text.lower bucket) := by
  unfold aggregationSteps? at found
  unfold unit?
  split at found
  · rename_i unset
    cases found
    exact ⟨none, rfl, by rw [unset]; rfl⟩
  · rename_i statistic bucket _ given
    cases found
    exact ⟨some (statistic, bucket), rfl, by rw [given]; rfl⟩
  · cases found

/-- A builder with these options asks for the whole of its range. -/
theorem isSpan_of_settles {pair : Option (String × String)} {reverse : Bool} {count : Option Int}
    {builder : Builder}
    (settles : (selection.rangeOptions span pair reverse count).Settles context (.text key)
      builder) :
    builder.request.IsSpan span.start span.stop ∧ builder.request.key = .text key ∧
      builder.request.unit? =
        pair.bind fun (_, bucket) => CalendarUnit.ofWord? (Text.lower bucket) := by
  obtain ⟨-, sets, dates⟩ := settles
  have unset := dates.unset
  have starts : builder.request.start = .instant span.start :=
    (Except.ok.inj dates.start).symm
  have stops : builder.request.stop = .instant span.stop :=
    (Except.ok.inj dates.stop).symm
  have counted : builder.request.count = none ∨
      ∃ n : Int, builder.request.count = some (.int n) := by
    have read := sets.count
    cases count with
    | none => exact .inl (Except.ok.inj read).symm
    | some n =>
      obtain ⟨count, read, same⟩ := map_succeeded read
      exact .inr ⟨n, by rw [← same, Builder.readCount_int read]⟩
  -- The command line has no option for filters or an alignment, so these stay unset.
  refine ⟨⟨⟨⟨key, sets.key⟩, ?_, ?_, ?_, .inl sets.values, counted⟩, starts, stops,
    unset.timestamps rfl, .inl (unset.ranges rfl)⟩, sets.key, ?_⟩
  · rw [starts]
    exact .instant _
  · rw [stops]
    exact .instant _
  · exact .inr ⟨"start", by decide, unset.align rfl⟩
  · have read := sets.aggregation
    unfold RangeRequest.unit?
    cases pair with
    | none =>
      rw [← Except.ok.inj read]
      rfl
    | some pair => exact Builder.unit_of_readAggregation read

/-- A range command over a span gives no samples without sending anything, or sends one batch for
the span. -/
theorem fetchRange_asks (context : Context) (link : Link) (selection : Selection) (span : Bucket)
    (key : String) (reverse : Bool) (count : Option Int) :
    link.SendsAtOnce (BatchAsks (.text key) span.start (selection.lastAsked span))
      (fun fetched => ∃ samples, fetched = .samples samples)
      (selection.fetchRange context (boundsOf span) key reverse count) := by
  unfold fetchRange
  cases found : selection.aggregationSteps? with
  | none =>
    refine .ofExcept_bind fun builder _ => .of_unanswered rfl ?_
    rintro _ ⟨⟩
    nofun
  | some aggregation =>
    obtain ⟨pair, rfl, unit⟩ := exists_bucketSteps found
    refine .map (.ofExcept_bind fun begun started => .ofExcept_bind fun builder taken => ?_)
    have settles := (Builder.Options.of_start started).steps taken
    rw [← rangeSteps, foldl_rangeSteps] at settles
    obtain ⟨whole, keyed, united⟩ := isSpan_of_settles settles
    have last : builder.request.lastAsked span.start span.stop = selection.lastAsked span := by
      rw [RangeRequest.lastAsked, RangeRequest.isCalendar, lastAsked, united, unit]
    have asks := Builder.execute_asks context link whole
    rw [keyed, last] at asks
    exact asks.imp (fun _ => id) fun _ _ => trivial

end CommandLine.Selection

namespace CommandLine.Invocation

/-- What a range command for a local day or month asks for. Either it has no samples to show, and
sends nothing; or it sends one batch, of commands that ask for all of the day or month and, unless
its buckets are calendar units, for the instant after it. -/
theorem fetch_asks (context : Context) (link : Link) (invocation : Invocation) {key : String}
    {reverse : Bool} {count : Option Int} (ranged : invocation.command = .range key reverse count)
    (shortcut : given? invocation.selection.day ≠ none ∨
      given? invocation.selection.month ≠ none) :
    ∃ trace, (Link.perform (invocation.fetch context) link).2.events = link.events ++ trace ∧
      (trace = [] ∧ (∀ zone samples, (Link.perform (invocation.fetch context) link).1 ≠
          .ok (zone, .samples samples)) ∨
        ∃ zone span, invocation.selection.zoneIn context = .ok zone ∧
          invocation.selection.StandsFor zone span ∧
          BatchAsks (.text key) span.start (invocation.selection.lastAsked span) trace) := by
  have sends : link.SendsAtOnce
      (fun trace => ∃ zone span, invocation.selection.zoneIn context = .ok zone ∧
        invocation.selection.StandsFor zone span ∧
        BatchAsks (.text key) span.start (invocation.selection.lastAsked span) trace)
      (fun shown : String × Fetched => ∃ samples, shown.2 = .samples samples)
      (invocation.fetch context) := by
    unfold fetch
    -- Which zone and span a batch is for is known only once both are found.
    refine .ofExcept_bind fun zone known => .ofExcept_bind fun bounds bounded => ?_
    obtain ⟨span, stands, rfl⟩ := Selection.standsFor_of_bounds shortcut bounded
    rw [ranged]
    have asks := Selection.fetchRange_asks context link invocation.selection span key reverse count
    refine .map (asks.imp ?_ fun _ => id)
    exact fun trace batch => ⟨zone, span, known, stands, batch⟩
  obtain ⟨trace, events, outcome⟩ := sends
  refine ⟨trace, events, outcome.imp_left ?_⟩
  rintro ⟨unsent, unanswered⟩
  exact ⟨unsent, fun zone samples shown => unanswered _ shown ⟨samples, rfl⟩⟩

/-- The averages of February in 2024, the newest first. -/
def february : Invocation where
  envFile := none
  debug := false
  selection := { month := some "2024-02", statistic := some "avg", bucket := some "Month" }
  command := .range "energy" true (some 5)

theorem fetch_asks_february :
    february.command = .range "energy" true (some 5) ∧
      given? february.selection.month ≠ none ∧
      BatchAsks (.text "energy") 1706745600000 1709251199999
        (Link.perform (february.fetch {}) { answers := [] }).2.events := by
  have month : given? february.selection.month ≠ none := by decide
  have sent : (Link.perform (february.fetch {}) { answers := [] }).2.events =
      [.opened, .command ["TS.RANGE", "energy", "1706745600000", "1709251199999", "COUNT", "5",
        "ALIGN", "1706745600000", "AGGREGATION", "avg", "2505600000"], .executed] := by
    decide +kernel
  have bounds : Bucket.monthBounds "UTC" ⟨2024, 2, 1⟩ = .ok ⟨1706745600000, 1709251200000⟩ :=
    Bucket.ok_of_toOption (by decide +kernel)
  have unit : february.selection.unit? = some .month := by decide
  refine ⟨rfl, month, ?_⟩
  obtain ⟨trace, events, ⟨rfl, -⟩ | ⟨zone, span, known, stands, asks⟩⟩ :=
    fetch_asks {} { answers := [] } february rfl (.inr month)
  · cases sent.symm.trans events
  · rw [List.nil_append] at events
    cases known
    cases stands with
    | day given => cases given
    | month _ given read bounded =>
      cases given
      cases read
      cases bounded.symm.trans bounds
      rw [Selection.lastAsked, unit] at asks
      rw [events]
      exact asks

/-- The samples of the first day of 2024. -/
def newYearsDay : Invocation where
  envFile := none
  debug := false
  selection := { day := some "2024-01-01" }
  command := .range "energy" false none

/-- The samples of a day are asked for with those of the midnight that ends it. -/
theorem fetch_asksMidnight :
    newYearsDay.selection.StandsFor "UTC" ⟨1704067200000, 1704153600000⟩ ∧
      ∃ command call,
        .command command ∈ (Link.perform (newYearsDay.fetch {}) { answers := [] }).2.events ∧
          RangeCall.ofCommand? command = some call ∧ call.Asks 1704153600000 := by
  have sent : (Link.perform (newYearsDay.fetch {}) { answers := [] }).2.events =
      [.opened, .command ["TS.RANGE", "energy", "1704067200000", "1704153600000"], .executed] := by
    decide +kernel
  have bounds : Bucket.dayBounds "UTC" ⟨2024, 1, 1⟩ = .ok ⟨1704067200000, 1704153600000⟩ :=
    Bucket.ok_of_toOption (by decide +kernel)
  have read : ∃ call, RangeCall.ofCommand? ["TS.RANGE", "energy", "1704067200000",
      "1704153600000"] = some call ∧ call.start = .instant 1704067200000 ∧
      call.stop = .instant 1704153600000 :=
    ⟨_, rfl, rfl, rfl⟩
  obtain ⟨call, said, starts, stops⟩ := read
  refine ⟨.day rfl rfl bounds, _, call, ?_, said, ?_⟩
  · rw [sent]
    exact List.mem_cons_of_mem _ List.mem_cons_self
  · exact (RangeCall.asks_iff starts stops).2 (by decide)

end CommandLine.Invocation

end CalendarSeries
