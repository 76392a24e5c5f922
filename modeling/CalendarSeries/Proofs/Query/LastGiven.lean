import CalendarSeries.Proofs.Query.FailedStep
import Mathlib.Data.List.Nodup
/-!
Only the last value of each option counts. A builder keeps the options that it was given last, and
its request is what they come to: every point in time read in the zone of the end, whatever zones
were in force when it was given. So chains of steps that end with the same options end with the same
builder, and a zone may as well be chosen at the start as at any later step.
-/
namespace CalendarSeries.Builder

/-- The last value that each option was given. One that was given none is as it is by default. -/
structure Options where
  start : Value
  stop : Value
  timezone : Option String
  aggregation : Option (Value × Value) := none
  timestamps : Option Value := none
  ranges : Option Value := none
  values : Option (Value × Value) := none
  count : Option Value := none
  align : Option Value := none
  includeEmpty : Bool := true
  latest : Bool := false
  reverse : Bool := false

namespace Options

/-- The options after a step. -/
def take (options : Options) : Step → Options
  | .aggregation aggregation duration =>
    { options with aggregation := some (aggregation, duration) }
  | .timestamps stamps => { options with timestamps := some stamps }
  | .ranges spans => { options with ranges := some spans }
  | .values least greatest => { options with values := some (least, greatest) }
  | .count count => { options with count := some count }
  | .align align => { options with align := some align }
  | .empty includeEmpty => { options with includeEmpty }
  | .latest latest => { options with latest }
  | .reverse => { options with reverse := true }
  | .zone timezone => { options with timezone }

/-- The zone of readings that name none. -/
def assumed (context : Context) (options : Options) : Instant.Assumed :=
  .named (RangeRequest.zoneOr context.zone options.timezone)

/-- What is remembered is what was given last. -/
structure Remembers (options : Options) (given : Given) : Prop where
  start : given.start = options.start
  stop : given.stop = options.stop
  timestamps : readIf options.timestamps none (fun stamps => stamps.iterate.map some) =
    .ok given.timestamps
  ranges : readIf options.ranges none (fun spans => spans.iterate.map some) = .ok given.ranges
  align : given.align = options.align

/-- The parts of a request that hold no point in time are the options that were given last. -/
structure Sets (key : Value) (options : Options) (request : RangeRequest) : Prop where
  key : request.key = key
  timezone : request.timezone = options.timezone
  aggregation : readIf options.aggregation none (fun (aggregation, duration) =>
    readAggregation aggregation duration) = .ok request.aggregation
  values : request.values = options.values
  count : readIf options.count none (fun count => (readCount count).map some) = .ok request.count
  includeEmpty : request.includeEmpty = options.includeEmpty
  latest : request.latest = options.latest
  reverse : request.reverse = options.reverse

/-- The points in time of a request are those that were given last, read in the zone that was. -/
structure Dates (context : Context) (options : Options) (request : RangeRequest) : Prop where
  start : Bound.ofValue (options.assumed context) .oldest options.start = .ok request.start
  stop : Bound.ofValue (options.assumed context) .newest options.stop = .ok request.stop
  timestamps : readIf options.timestamps none (fun stamps =>
      (stamps.iterate.bind (readTimestamps (options.assumed context))).map some) =
    .ok request.timestamps
  ranges : readIf options.ranges none (fun spans =>
      (spans.iterate.bind (List.mapM (TimeRange.ofValue (options.assumed context)))).map some) =
    .ok request.ranges
  align : readIf options.align (.text "start") (readAlign (options.assumed context)) =
    .ok request.align

/-- What is not given has the request as it is by default. -/
structure Unset (options : Options) (request : RangeRequest) : Prop where
  timestamps : options.timestamps = none → request.timestamps = none
  ranges : options.ranges = none → request.ranges = none
  align : options.align = none → request.align = .text "start"

/-- A builder is what options come to. -/
structure Settles (context : Context) (key : Value) (options : Options) (builder : Builder) :
    Prop where
  remembers : options.Remembers builder.given
  sets : options.Sets key builder.request
  dates : options.Dates context builder.request

variable {context : Context} {key : Value} {options : Options} {builder other after : Builder}
  {request : RangeRequest} {given : Given}

theorem readIf_unset {α β : Type} {option : Option α} {unset result : β}
    {read : α → Except Error β} (succeeded : readIf option unset read = .ok result)
    (missing : option = none) : result = unset := by
  rw [missing] at succeeded
  cases succeeded
  rfl

theorem Dates.unset (dates : options.Dates context request) : options.Unset request where
  timestamps := readIf_unset dates.timestamps
  ranges := readIf_unset dates.ranges
  align := readIf_unset dates.align

/-- What is gone through when it is given and read later on may as well be read from the option. -/
theorem items_read {α : Type} {option : Option Value} {items : Option (List Value)}
    {unset result : Option α} {read : List Value → Except Error α}
    (remembered : readIf option none (fun value => value.iterate.map some) = .ok items)
    (missing : option = none → unset = none)
    (found : readIf items unset (fun listed => (read listed).map some) = .ok result) :
    readIf option none (fun value => (value.iterate.bind read).map some) = .ok result := by
  cases there : option with
  | none =>
    rw [readIf_unset remembered there, missing there] at found
    exact found
  | some value =>
    obtain ⟨listed, gone, kept⟩ := map_succeeded (readIf_succeeded remembered value there)
    rw [← kept] at found
    simpa only [readIf, gone, Except.bind] using found

/-- What is remembered, read in the zone in force, makes up the request. -/
theorem of_resolved {changed : RangeRequest} (remembers : options.Remembers given)
    (sets : options.Sets key request) (unset : options.Unset request)
    (resolved : Builder.resolved context ⟨given, request⟩ = .ok changed) :
    options.Settles context key ⟨given, changed⟩ := by
  have zone : Instant.Assumed.named (Builder.zone context ⟨given, request⟩) =
      options.assumed context := by
    rw [assumed, Builder.zone, sets.timezone]
  unfold Builder.resolved at resolved
  rw [zone] at resolved
  obtain ⟨start, starts, resolved⟩ := bind_succeeded resolved
  obtain ⟨stop, stops, resolved⟩ := bind_succeeded resolved
  obtain ⟨timestamps, stamped, resolved⟩ := bind_succeeded resolved
  obtain ⟨ranges, ranged, resolved⟩ := bind_succeeded resolved
  obtain ⟨align, aligned, resolved⟩ := bind_succeeded resolved
  cases resolved
  refine ⟨remembers, { sets with }, ?_, ?_,
    items_read remembers.timestamps unset.timestamps stamped,
    items_read remembers.ranges unset.ranges ranged, ?_⟩
  · rw [← remembers.start]
    exact starts
  · rw [← remembers.stop]
    exact stops
  · rw [← remembers.align]
    cases there : given.align with
    | none =>
      rw [there] at aligned
      rw [← unset.align (remembers.align.symm.trans there)]
      exact aligned
    | some value =>
      rw [there] at aligned
      exact aligned

/-- The builder that a chain of steps begins with. -/
theorem of_start {first last : Value} {timezone : Option String}
    (started : Builder.start context key first last timezone = .ok builder) :
    Options.Settles context key { start := first, stop := last, timezone } builder := by
  obtain ⟨request, resolved, rfl⟩ := map_succeeded started
  exact of_resolved ⟨rfl, rfl, rfl, rfl, rfl⟩ ⟨rfl, rfl, rfl, rfl, rfl, rfl, rfl, rfl⟩
    ⟨fun _ => rfl, fun _ => rfl, fun _ => rfl⟩ resolved

/-- A step that succeeds leaves what the options come to with what it was given. -/
theorem Settles.step {step : Step} (settles : options.Settles context key builder)
    (taken : builder.step context step = (after, none)) :
    (options.take step).Settles context key after := by
  obtain ⟨remembers, sets, dates⟩ := settles
  have unset := dates.unset
  cases step with
  | aggregation aggregation duration =>
    obtain ⟨changed, found, rfl⟩ := replace_ok taken
    obtain ⟨aggregation, read, rfl⟩ := map_succeeded found
    exact ⟨{ remembers with }, { sets with aggregation := read }, { dates with }⟩
  | timestamps stamps =>
    obtain ⟨items, listed, request, resolved, rfl⟩ := rememberItems_ok taken
    have remembers : (options.take (.timestamps stamps)).Remembers
        { builder.given with timestamps := some items } :=
      { remembers with timestamps := by simp [take, readIf, listed, Except.map] }
    exact of_resolved remembers { sets with } { unset with timestamps := nofun } resolved
  | ranges spans =>
    obtain ⟨items, listed, request, resolved, rfl⟩ := rememberItems_ok taken
    have remembers : (options.take (.ranges spans)).Remembers
        { builder.given with ranges := some items } :=
      { remembers with ranges := by simp [take, readIf, listed, Except.map] }
    exact of_resolved remembers { sets with } { unset with ranges := nofun } resolved
  | values least greatest =>
    cases taken
    exact ⟨{ remembers with }, { sets with values := rfl }, { dates with }⟩
  | count count =>
    obtain ⟨changed, found, rfl⟩ := replace_ok taken
    obtain ⟨count, read, rfl⟩ := map_succeeded found
    exact ⟨{ remembers with },
      { sets with count := by simp [take, readIf, read, Except.map] }, { dates with }⟩
  | align align =>
    obtain ⟨request, resolved, rfl⟩ := remember_ok taken
    have remembers : (options.take (.align align)).Remembers
        { builder.given with align := some align } :=
      { remembers with align := rfl }
    exact of_resolved remembers { sets with } { unset with align := nofun } resolved
  | empty includeEmpty =>
    cases taken
    exact ⟨{ remembers with }, { sets with includeEmpty := rfl }, { dates with }⟩
  | latest latest =>
    cases taken
    exact ⟨{ remembers with }, { sets with latest := rfl }, { dates with }⟩
  | reverse =>
    cases taken
    exact ⟨{ remembers with }, { sets with reverse := rfl }, { dates with }⟩
  | zone timezone =>
    obtain ⟨request, resolved, rfl⟩ := resolve_ok taken
    have remembers : (options.take (.zone timezone)).Remembers builder.given := { remembers with }
    have sets : (options.take (.zone timezone)).Sets key { builder.request with timezone } :=
      { sets with timezone := rfl }
    exact of_resolved remembers sets { unset with } resolved

/-- Steps that succeed leave what the options come to in the end. -/
theorem Settles.steps {steps : List Step} (settles : options.Settles context key builder)
    (taken : builder.steps context steps = .ok after) :
    (steps.foldl take options).Settles context key after := by
  induction steps generalizing options builder with
  | nil =>
    cases taken
    exact settles
  | cons first rest ih =>
    rw [Builder.steps] at taken
    split at taken
    · rename_i next stepped
      exact ih (settles.step stepped) taken
    · cases taken

theorem Remembers.unique {others : Given} (remembers : options.Remembers given)
    (also : options.Remembers others) : given = others := by
  obtain ⟨start, stop, timestamps, ranges, align⟩ := given
  obtain ⟨_, _, _, _, _⟩ := others
  obtain ⟨rfl, rfl, stamped, ranged, rfl⟩ := remembers
  obtain ⟨rfl, rfl, stampedToo, rangedToo, rfl⟩ := also
  cases stamped.symm.trans stampedToo
  cases ranged.symm.trans rangedToo
  rfl

/-- Options come to one builder. -/
theorem Settles.unique (settles : options.Settles context key builder)
    (also : options.Settles context key other) : builder = other := by
  obtain ⟨remembers, sets, dates⟩ := settles
  obtain ⟨remembersToo, setsToo, datesToo⟩ := also
  have given := remembers.unique remembersToo
  have request : builder.request = other.request := by
    cases found : builder.request
    cases foundToo : other.request
    rw [found] at sets dates
    rw [foundToo] at setsToo datesToo
    obtain ⟨rfl, rfl, aggregated, rfl, counted, rfl, rfl, rfl⟩ := sets
    obtain ⟨rfl, rfl, aggregatedToo, rfl, countedToo, rfl, rfl, rfl⟩ := setsToo
    obtain ⟨starts, stops, stamped, ranged, aligned⟩ := dates
    obtain ⟨startsToo, stopsToo, stampedToo, rangedToo, alignedToo⟩ := datesToo
    cases aggregated.symm.trans aggregatedToo
    cases counted.symm.trans countedToo
    cases starts.symm.trans startsToo
    cases stops.symm.trans stopsToo
    cases stamped.symm.trans stampedToo
    cases ranged.symm.trans rangedToo
    cases aligned.symm.trans alignedToo
    rfl
  cases builder
  cases other
  cases given
  cases request
  rfl

/-- A zone may as well be given before any step that gives none. -/
theorem take_zone {step : Step} (other : ∀ name, step ≠ .zone name) (timezone : Option String) :
    (options.take (.zone timezone)).take step = (options.take step).take (.zone timezone) := by
  cases step with
  | zone name => exact absurd rfl (other name)
  | _ => rfl

theorem foldl_take_zone {steps : List Step} (other : ∀ step ∈ steps, ∀ name, step ≠ .zone name)
    (timezone : Option String) :
    steps.foldl take (options.take (.zone timezone)) =
      (steps.foldl take options).take (.zone timezone) := by
  induction steps generalizing options with
  | nil => rfl
  | cons first rest ih =>
    rw [List.foldl_cons, List.foldl_cons, take_zone (other first List.mem_cons_self),
      ih fun step member => other step (List.mem_cons_of_mem _ member)]

end Options

/-- A request as it is built: the bounds and the zone to begin with, and the steps in turn. -/
structure Chain where
  start : Value
  stop : Value
  timezone : Option String
  steps : List Step

namespace Chain

def build (context : Context) (key : Value) (chain : Chain) : Except Error Builder := do
  let builder ← Builder.start context key chain.start chain.stop chain.timezone
  builder.steps context chain.steps

/-- The last value that each option is given. -/
def lastGiven (chain : Chain) : Options :=
  chain.steps.foldl Options.take
    { start := chain.start, stop := chain.stop, timezone := chain.timezone }

theorem settles {context : Context} {key : Value} {chain : Chain} {builder : Builder}
    (built : chain.build context key = .ok builder) :
    chain.lastGiven.Settles context key builder := by
  obtain ⟨begun, started, taken⟩ := bind_succeeded built
  exact (Options.of_start started).steps taken

/-- A zone that is chosen in the middle is the last one given, as one chosen to begin with. -/
theorem lastGiven_zone {first last : Value} {timezone zone : Option String}
    {before after : List Step} (other : ∀ step ∈ before ++ after, ∀ name, step ≠ .zone name) :
    lastGiven ⟨first, last, timezone, before ++ .zone zone :: after⟩ =
      lastGiven ⟨first, last, zone, before ++ after⟩ := by
  have earlier : ∀ step ∈ before, ∀ name, step ≠ .zone name := fun step member =>
    other step (List.mem_append_left _ member)
  simp only [lastGiven, List.foldl_append, List.foldl_cons, ← Options.foldl_take_zone earlier]
  rfl

end Chain

section Stamps

variable {context : Context} {builder after : Builder}

theorem distinct_nodup (stamps : List Int) : (distinct stamps).Nodup := by
  unfold distinct
  rw [List.nodup_reverse]
  suffices grown : ∀ kept : List Int, kept.Nodup → (stamps.foldl
      (fun kept stamp => if stamp ∈ kept then kept else stamp :: kept) kept).Nodup from
    grown [] List.nodup_nil
  induction stamps with
  | nil => exact fun _ once => once
  | cons stamp rest ih =>
    intro kept once
    rw [List.foldl_cons]
    apply ih
    split
    · exact once
    · rename_i fresh
      exact List.nodup_cons.2 ⟨fresh, once⟩

/-- Whether no timestamp stands twice in the filter of a request. -/
def StampsOnce (request : RangeRequest) : Prop :=
  ∀ stamps, request.timestamps = some stamps → stamps.Nodup

theorem StampsOnce.resolved {given : Given} {request changed : RangeRequest}
    (once : StampsOnce request) (read : Builder.resolved context ⟨given, request⟩ = .ok changed) :
    StampsOnce changed := by
  unfold Builder.resolved at read
  obtain ⟨start, -, read⟩ := bind_succeeded read
  obtain ⟨stop, -, read⟩ := bind_succeeded read
  obtain ⟨timestamps, stamped, read⟩ := bind_succeeded read
  obtain ⟨ranges, -, read⟩ := bind_succeeded read
  obtain ⟨align, -, read⟩ := bind_succeeded read
  cases read
  intro stamps there
  cases there
  cases listed : given.timestamps with
  | none =>
    rw [listed] at stamped
    exact once stamps (Except.ok.inj stamped)
  | some items =>
    obtain ⟨instants, read, kept⟩ := map_succeeded (readIf_succeeded stamped items listed)
    cases kept
    unfold readTimestamps at read
    split at read
    · cases read
      exact distinct_nodup _
    · cases read

/-- No step has a timestamp stand twice, whether it fails or not. -/
theorem StampsOnce.step (once : StampsOnce builder.request) (step : Step) :
    StampsOnce (builder.step context step).1.request := by
  obtain ⟨-, same | ⟨⟨given, before⟩, -, same, read⟩⟩ := step_filters context builder step
  · exact fun stamps there => once stamps ((congrArg Prod.fst same).symm.trans there)
  · have earlier : StampsOnce before := fun stamps there =>
      once stamps ((congrArg Prod.fst same).symm.trans there)
    exact earlier.resolved read

/-- The builder after steps of which any may fail. -/
def stepsThrough (context : Context) (builder : Builder) (steps : List Step) : Builder :=
  steps.foldl (fun builder step => (builder.step context step).1) builder

/-- What each of the steps keeps, all of them keep. -/
theorem stepsThrough_keeps {motive : Builder → Prop} {steps : List Step}
    (keeps : ∀ step ∈ steps, ∀ builder : Builder, motive builder →
      motive (builder.step context step).1)
    (holds : motive builder) : motive (builder.stepsThrough context steps) := by
  induction steps generalizing builder with
  | nil => exact holds
  | cons first rest ih =>
    exact ih (fun step member => keeps step (List.mem_cons_of_mem _ member))
      (keeps first List.mem_cons_self builder holds)

theorem StampsOnce.stepsThrough (once : StampsOnce builder.request) (steps : List Step) :
    StampsOnce (builder.stepsThrough context steps).request :=
  stepsThrough_keeps (motive := fun builder => StampsOnce builder.request)
    (fun step _ _ once => once.step step) once

end Stamps

/-- A builder depends on the last value of each option alone. So a zone that is given at any step
might have been given to begin with. And no timestamp ever stands twice in the filter, even after
steps that failed. -/
theorem lastGiven_decides (context : Context) (key : Value) :
    (∀ (first second : Chain) (builder other : Builder), first.build context key = .ok builder →
      second.build context key = .ok other → first.lastGiven = second.lastGiven →
      builder = other) ∧
    (∀ (first last : Value) (timezone zone : Option String) (before after : List Step)
      (builder other : Builder), (∀ step ∈ before ++ after, ∀ name, step ≠ .zone name) →
      Chain.build context key ⟨first, last, timezone, before ++ .zone zone :: after⟩ =
        .ok builder →
      Chain.build context key ⟨first, last, zone, before ++ after⟩ = .ok other →
      builder = other) ∧
    ∀ (first last : Value) (timezone : Option String) (builder : Builder),
      Builder.start context key first last timezone = .ok builder → ∀ steps stamps,
      (builder.stepsThrough context steps).request.timestamps = some stamps → stamps.Nodup := by
  refine ⟨?_, ?_, ?_⟩
  · intro first second builder other built builtToo same
    have settles := Chain.settles built
    rw [same] at settles
    exact settles.unique (Chain.settles builtToo)
  · intro first last timezone zone before after builder other unzoned built builtToo
    have settles := Chain.settles built
    rw [Chain.lastGiven_zone unzoned] at settles
    exact settles.unique (Chain.settles builtToo)
  · intro first last timezone builder started steps
    have unstamped := (Options.of_start started).dates.unset.timestamps rfl
    have once : StampsOnce builder.request := fun stamps there => by simp [unstamped] at there
    exact once.stepsThrough steps

/-- The second of January 2024 in universal time, given twice: as a date and as a reading. -/
def secondOfJanuary : Step :=
  .timestamps (.list [.text "2024-01-02", .text "2024-01-02T00:00"])

/-- Rows of a day in universal time: its start is given before the zone, after it, or after another
zone and all else. -/
theorem lastGiven_decides_rezoned :
    let begun : Builder := ⟨⟨.text "2024-01-01", .none, none, none, none⟩,
      { key := .text "energy", start := .instant 1704085200000, timezone := some "Etc/GMT+5" }⟩
    (∃ builder,
      Chain.build {} (.text "energy") ⟨.text "2024-01-01", .none, some "Etc/GMT+5",
        [secondOfJanuary] ++ .zone (some "UTC") :: [.reverse]⟩ = .ok builder ∧
      Chain.build {} (.text "energy") ⟨.text "2024-01-01", .none, some "UTC",
        [secondOfJanuary] ++ [.reverse]⟩ = .ok builder ∧
      Chain.build {} (.text "energy") ⟨.text "2024-01-01", .none, some "Etc/GMT+5",
        [.reverse, .timestamps (.list []), .zone (some "UTC"), secondOfJanuary]⟩ = .ok builder) ∧
    Builder.start {} (.text "energy") (.text "2024-01-01") .none (some "Etc/GMT+5") = .ok begun ∧
    (begun.stepsThrough {} [secondOfJanuary, .zone (some "UTC")]).request.timestamps =
      some [1704153600000] ∧
    List.Nodup [(1704153600000 : Int)] := by
  intro begun
  obtain ⟨sameLast, sameZone, once⟩ := lastGiven_decides {} (.text "energy")
  obtain ⟨builder, built⟩ : ∃ builder, Chain.build {} (.text "energy") ⟨.text "2024-01-01", .none,
      some "Etc/GMT+5", [secondOfJanuary] ++ .zone (some "UTC") :: [.reverse]⟩ = .ok builder :=
    ⟨_, rfl⟩
  obtain ⟨early, builtEarly⟩ : ∃ builder, Chain.build {} (.text "energy")
      ⟨.text "2024-01-01", .none, some "UTC", [secondOfJanuary] ++ [.reverse]⟩ = .ok builder :=
    ⟨_, rfl⟩
  obtain ⟨late, builtLate⟩ : ∃ builder, Chain.build {} (.text "energy") ⟨.text "2024-01-01", .none,
      some "Etc/GMT+5", [.reverse, .timestamps (.list []), .zone (some "UTC"), secondOfJanuary]⟩ =
      .ok builder :=
    ⟨_, rfl⟩
  have started : Builder.start {} (.text "energy") (.text "2024-01-01") .none (some "Etc/GMT+5") =
      .ok begun := rfl
  have stamped : (begun.stepsThrough {} [secondOfJanuary, .zone (some "UTC")]).request.timestamps =
      some [1704153600000] := by
    decide +kernel
  refine ⟨⟨builder, built, ?_, ?_⟩, started, stamped, once _ _ _ _ started _ _ stamped⟩
  · rw [sameZone _ _ _ _ [secondOfJanuary] [.reverse] _ _ (by simp [secondOfJanuary]) built
      builtEarly]
    exact builtEarly
  · rw [sameLast _ _ _ _ built builtLate rfl]
    exact builtLate

end CalendarSeries.Builder
