import CalendarSeries.Proofs.Query.Reading
import CalendarSeries.Query.Builder
/-!
What a failing step of building leaves behind. A step to another zone keeps the zone's name even if
nothing can be read in it. Every other step leaves the request as it was, and what is remembered
too unless it fails with another error than a filter's. In a zone that is known the errors of
filters are all that can come up, so there these steps leave the builder as it was.
-/
namespace CalendarSeries.Builder

/-- Whether everything that was given can be read where the zone is the assumed one. -/
structure ReadsIn (assumed : Instant.Assumed) (given : Given) : Prop where
  start : ∃ bound, Bound.ofValue assumed .oldest given.start = .ok bound
  stop : ∃ bound, Bound.ofValue assumed .newest given.stop = .ok bound
  timestamps : ∀ stamps, given.timestamps = some stamps →
    ∃ instants, readTimestamps assumed stamps = .ok instants
  ranges : ∀ spans, given.ranges = some spans →
    ∃ ranges, spans.mapM (TimeRange.ofValue assumed) = .ok ranges
  align : ∀ value, given.align = some value → ∃ align, readAlign assumed value = .ok align

/-- Whether everything that is remembered can be read in the zone in force. -/
def Readable (context : Context) (builder : Builder) : Prop :=
  ReadsIn (.named (builder.zone context)) builder.given

/-- Whether the zone in force is known by its exact name. -/
def KnowsZone (context : Context) (builder : Builder) : Prop :=
  ∃ zone, Instant.exactZone (builder.zone context) = .ok zone

/-- The filters of a request that hold points in time. -/
def filters (builder : Builder) : Option (List Int) × Option (List TimeRange) :=
  (builder.request.timestamps, builder.request.ranges)

/-- What a step has the builder remember, if it can be gone through at all. -/
def Step.remembered? (given : Given) : Step → Option Given
  | .timestamps stamps =>
    stamps.iterate.toOption.map (fun items => { given with timestamps := some items })
  | .ranges spans =>
    spans.iterate.toOption.map (fun items => { given with ranges := some items })
  | .align alignment => some { given with align := some alignment }
  | _ => none

/-- A step has a builder remember other timestamps, other sub-ranges or another alignment. -/
theorem Step.remembered_cases {step : Step} {given changed : Given}
    (remembered : step.remembered? given = some changed) :
    (∃ items, changed = { given with timestamps := some items }) ∨
      (∃ spans items, step = .ranges spans ∧ changed = { given with ranges := some items }) ∨
      ∃ alignment, changed = { given with align := some alignment } := by
  cases step <;> simp only [remembered?, Option.map_eq_some_iff, Option.some.injEq,
    reduceCtorEq] at remembered
  · obtain ⟨items, -, rfl⟩ := remembered
    exact .inl ⟨items, rfl⟩
  · obtain ⟨items, -, rfl⟩ := remembered
    exact .inr (.inl ⟨_, items, rfl, rfl⟩)
  · exact .inr (.inr ⟨_, remembered.symm⟩)

/-- No step has a builder remember other bounds. -/
theorem Step.remembered_bounds {step : Step} {given changed : Given}
    (remembered : step.remembered? given = some changed) :
    changed.start = given.start ∧ changed.stop = given.stop := by
  rcases remembered_cases remembered with ⟨items, rfl⟩ | ⟨spans, items, -, rfl⟩ |
    ⟨alignment, rfl⟩ <;> exact ⟨rfl, rfl⟩

variable {context : Context} {builder after : Builder} {error : Error}

theorem resolve_failed (failed : builder.resolve context = (after, some error)) :
    after = builder ∧ builder.resolved context = .error error := by
  unfold resolve at failed
  split at failed
  · cases failed
  · rename_i reason
    cases failed
    exact ⟨rfl, reason⟩

theorem remember_failed {given : Given}
    (failed : builder.remember context given = (after, some error)) :
    resolved context { builder with given } = .error error ∧
      after = if error.kind = .filter then builder else { builder with given } := by
  unfold remember at failed
  split at failed
  · cases failed
  · rename_i changed reason resolved
    obtain ⟨rfl, unread⟩ := resolve_failed resolved
    split at failed
    · rename_i filter
      cases failed
      exact ⟨unread, (if_pos filter).symm⟩
    · rename_i other
      cases failed
      exact ⟨unread, (if_neg other).symm⟩

theorem replace_failed {request : Except Error RangeRequest}
    (failed : builder.replace request = (after, some error)) : after = builder := by
  unfold replace at failed
  split at failed
  · cases failed
  · cases failed
    rfl

theorem rememberItems_failed {items : Value} {remembered : List Value → Given}
    (failed : builder.rememberItems context items remembered = (after, some error)) :
    after = builder ∨ ∃ given, items.iterate.toOption.map remembered = some given ∧
      builder.remember context given = (after, some error) := by
  unfold rememberItems at failed
  split at failed
  · rename_i listed found
    exact .inr ⟨remembered listed, by rw [found]; rfl, failed⟩
  · cases failed
    exact .inl rfl

theorem resolve_ok (taken : builder.resolve context = (after, none)) :
    ∃ request, builder.resolved context = .ok request ∧ { builder with request } = after := by
  unfold resolve at taken
  split at taken
  · rename_i request resolved
    cases taken
    exact ⟨request, resolved, rfl⟩
  · cases taken

theorem remember_ok {given : Given}
    (taken : builder.remember context given = (after, none)) :
    ∃ request, resolved context { builder with given } = .ok request ∧
      ⟨given, request⟩ = after := by
  unfold remember at taken
  split at taken
  · rename_i changed resolved
    cases taken
    exact resolve_ok resolved
  · split at taken <;> cases taken

theorem rememberItems_ok {items : Value} {remembered : List Value → Given}
    (taken : builder.rememberItems context items remembered = (after, none)) :
    ∃ listed, items.iterate = .ok listed ∧ ∃ request,
      resolved context { builder with given := remembered listed } = .ok request ∧
        ⟨remembered listed, request⟩ = after := by
  unfold rememberItems at taken
  split at taken
  · rename_i listed gone
    exact ⟨listed, gone, remember_ok taken⟩
  · cases taken

theorem replace_ok {request : Except Error RangeRequest}
    (taken : builder.replace request = (after, none)) :
    ∃ changed, request = .ok changed ∧ { builder with request := changed } = after := by
  unfold replace at taken
  split at taken
  · cases taken
    exact ⟨_, rfl, rfl⟩
  · cases taken

/-- What is left of a step that fails: nothing, the name of a zone, or what it had the builder
remember. -/
theorem step_failed {step : Step} (failed : builder.step context step = (after, some error)) :
    after = builder ∨
      (∃ timezone, step = .zone timezone ∧
        after = { builder with request := { builder.request with timezone } }) ∨
      ∃ given, step.remembered? builder.given = some given ∧
        builder.remember context given = (after, some error) := by
  cases step with
  | aggregation => exact .inl (replace_failed failed)
  | timestamps =>
    rcases rememberItems_failed failed with same | remembered
    · exact .inl same
    · exact .inr (.inr remembered)
  | ranges =>
    rcases rememberItems_failed failed with same | remembered
    · exact .inl same
    · exact .inr (.inr remembered)
  | values => cases failed
  | count => exact .inl (replace_failed failed)
  | align => exact .inr (.inr ⟨_, rfl, failed⟩)
  | empty => cases failed
  | latest => cases failed
  | reverse => cases failed
  | zone timezone => exact .inr (.inl ⟨timezone, rfl, (resolve_failed failed).1⟩)

/-- What a step that succeeds comes to: nothing is read, or all that is remembered after it. -/
theorem step_ok {step : Step} (taken : builder.step context step = (after, none)) :
    (after.given = builder.given ∧ after.filters = builder.filters ∧
      after.zone context = builder.zone context) ∨
    ∃ before : Builder, before.given = after.given ∧ before.filters = builder.filters ∧
      before.resolved context = .ok after.request ∧
      (after.given = builder.given ∨ step.remembered? builder.given = some after.given) := by
  cases step with
  | aggregation =>
    obtain ⟨changed, found, rfl⟩ := replace_ok taken
    obtain ⟨aggregation, -, rfl⟩ := map_succeeded found
    exact .inl ⟨rfl, rfl, rfl⟩
  | count =>
    obtain ⟨changed, found, rfl⟩ := replace_ok taken
    obtain ⟨count, -, rfl⟩ := map_succeeded found
    exact .inl ⟨rfl, rfl, rfl⟩
  | timestamps | ranges =>
    obtain ⟨items, listed, request, read, rfl⟩ := rememberItems_ok taken
    exact .inr ⟨⟨_, builder.request⟩, rfl, rfl, read,
      .inr (by rw [Step.remembered?, listed]; rfl)⟩
  | align =>
    obtain ⟨request, read, rfl⟩ := remember_ok taken
    exact .inr ⟨⟨_, builder.request⟩, rfl, rfl, read, .inr rfl⟩
  | zone timezone =>
    obtain ⟨request, read, rfl⟩ := resolve_ok taken
    exact .inr ⟨⟨_, { builder.request with timezone }⟩, rfl, rfl, read, .inl rfl⟩
  | values | empty | latest | reverse =>
    cases taken
    exact .inl ⟨rfl, rfl, rfl⟩

/-- What a step may change of the filters of a request, whether it fails or not: they stay as they
are, or all that is remembered after the step was read again. -/
theorem step_filters (context : Context) (builder : Builder) (step : Step) :
    let after := (builder.step context step).1
    (after.given = builder.given ∨ step.remembered? builder.given = some after.given) ∧
      (after.filters = builder.filters ∨ ∃ before : Builder, before.given = after.given ∧
        before.filters = builder.filters ∧ before.resolved context = .ok after.request) := by
  rcases taken : builder.step context step with ⟨after, _ | error⟩
  case some =>
    rcases step_failed taken with rfl | ⟨timezone, -, rfl⟩ | ⟨given, remembered, failed⟩
    · exact ⟨.inl rfl, .inl rfl⟩
    · exact ⟨.inl rfl, .inl rfl⟩
    · rw [(remember_failed failed).2]
      split
      · exact ⟨.inl rfl, .inl rfl⟩
      · exact ⟨.inr remembered, .inl rfl⟩
  case none =>
    rcases step_ok taken with ⟨given, filters, -⟩ | ⟨before, given, filters, read, remembers⟩
    · exact ⟨.inl given, .inl filters⟩
    · exact ⟨remembers, .inr ⟨before, given, filters, read⟩⟩

section Reading

variable {assumed : Instant.Assumed} {place : Place} {value : Value}

/-- Where the assumed place is known, a value that is no point in time is the only fault. -/
theorem ofValue_failed (known : assumed.place = .ok place)
    (failed : Instant.ofValue assumed value = .error error) : error.isTypeOrValue = true := by
  unfold Instant.ofValue at failed
  split at failed
  · cases failed
  · rename_i at_
    cases at_ <;> simp [Instant.located, known, Except.map] at failed
  · split at failed
    · simp only [Instant.readShown] at failed
      split at failed
      · cases failed
        rfl
      · cases failed
      · rw [known] at failed
        cases failed
    · cases failed
      rfl

theorem readTimestamps_failed (known : assumed.place = .ok place) {stamps : List Value}
    (failed : readTimestamps assumed stamps = .error error) : error.kind = .filter := by
  unfold readTimestamps at failed
  split at failed
  · cases failed
  · rename_i unread
    obtain ⟨stamp, -, reason⟩ := mapM_failed unread
    rw [ofValue_failed known reason, if_pos rfl] at failed
    cases failed
    rfl

theorem ofPair_failed (known : assumed.place = .ok place)
    (failed : TimeRange.ofPair assumed value = .error error) : error.isTypeOrValue = true := by
  rcases bind_failed failed with unpaired | ⟨⟨start, stop⟩, -, failed⟩
  · exact Value.pair_failed unpaired
  rcases bind_failed failed with unread | ⟨first, -, failed⟩
  · exact ofValue_failed known unread
  rcases bind_failed failed with unread | ⟨last, -, failed⟩
  · exact ofValue_failed known unread
  · cases failed

theorem timeRange_failed (known : assumed.place = .ok place)
    (failed : TimeRange.ofValue assumed value = .error error) : error.kind = .filter := by
  unfold TimeRange.ofValue at failed
  split at failed
  · cases failed
  · cases failed
  · split at failed
    · split at failed
      · cases failed
        rfl
      · cases failed
    · rename_i unread
      rw [ofPair_failed known unread, if_pos rfl] at failed
      cases failed
      rfl

theorem readAlign_ok (known : assumed.place = .ok place) (value : Value) :
    ∃ align, readAlign assumed value = .ok align := by
  unfold readAlign
  split
  · rename_i wall at_
    cases at_ with
    | unknown =>
      simp only [Instant.ofValue, Instant.located, known]
      exact ⟨_, rfl⟩
    | _ => exact ⟨_, rfl⟩
  · exact ⟨_, rfl⟩

end Reading

theorem readIf_failed {α β : Type} {given : Option α} {unset : β} {read : α → Except Error β}
    (failed : readIf given unset read = .error error) :
    ∃ value, given = some value ∧ read value = .error error := by
  cases given with
  | none => cases failed
  | some value => exact ⟨value, rfl, failed⟩

theorem readIf_succeeded {α β : Type} {given : Option α} {unset result : β}
    {read : α → Except Error β} (succeeded : readIf given unset read = .ok result) (value : α)
    (there : given = some value) : read value = .ok result := by
  rw [there] at succeeded
  exact succeeded

theorem resolved_failed (failed : builder.resolved context = .error error) :
    let assumed := Instant.Assumed.named (builder.zone context)
    Bound.ofValue assumed .oldest builder.given.start = .error error ∨
      Bound.ofValue assumed .newest builder.given.stop = .error error ∨
      (∃ stamps, builder.given.timestamps = some stamps ∧
        readTimestamps assumed stamps = .error error) ∨
      (∃ spans, builder.given.ranges = some spans ∧
        spans.mapM (TimeRange.ofValue assumed) = .error error) ∨
      ∃ value, builder.given.align = some value ∧ readAlign assumed value = .error error := by
  intro assumed
  unfold resolved at failed
  rcases bind_failed failed with unread | ⟨start, -, failed⟩
  · exact .inl unread
  rcases bind_failed failed with unread | ⟨stop, -, failed⟩
  · exact .inr (.inl unread)
  rcases bind_failed failed with unread | ⟨timestamps, -, failed⟩
  · obtain ⟨stamps, there, unread⟩ := readIf_failed unread
    exact .inr (.inr (.inl ⟨stamps, there, map_failed unread⟩))
  rcases bind_failed failed with unread | ⟨ranges, -, failed⟩
  · obtain ⟨spans, there, unread⟩ := readIf_failed unread
    exact .inr (.inr (.inr (.inl ⟨spans, there, map_failed unread⟩)))
  rcases bind_failed failed with unread | ⟨align, -, failed⟩
  · exact .inr (.inr (.inr (.inr (readIf_failed unread))))
  · cases failed

theorem readable_of_resolved {request : RangeRequest}
    (succeeded : builder.resolved context = .ok request) :
    Readable context { builder with request } := by
  unfold resolved at succeeded
  obtain ⟨start, starts, succeeded⟩ := bind_succeeded succeeded
  obtain ⟨stop, stops, succeeded⟩ := bind_succeeded succeeded
  obtain ⟨timestamps, stamped, succeeded⟩ := bind_succeeded succeeded
  obtain ⟨ranges, ranged, succeeded⟩ := bind_succeeded succeeded
  obtain ⟨align, aligned, succeeded⟩ := bind_succeeded succeeded
  cases succeeded
  refine ⟨⟨start, starts⟩, ⟨stop, stops⟩, ?_, ?_, ?_⟩
  · intro stamps there
    obtain ⟨instants, read, -⟩ := map_succeeded (readIf_succeeded stamped stamps there)
    exact ⟨instants, read⟩
  · intro spans there
    obtain ⟨ranges, read, -⟩ := map_succeeded (readIf_succeeded ranged spans there)
    exact ⟨ranges, read⟩
  · exact fun value there => ⟨align, readIf_succeeded aligned value there⟩

theorem KnowsZone.place (knows : builder.KnowsZone context) :
    ∃ place, (Instant.Assumed.named (builder.zone context)).place = .ok place := by
  obtain ⟨zone, found⟩ := knows
  exact ⟨.zone zone, by rw [Instant.Assumed.place, found]; rfl⟩

/-- Where the zone is known and both bounds can be read, all that can fail is a filter. -/
theorem resolved_failed_filter {given : Given} (knows : builder.KnowsZone context)
    (starts : ∃ bound,
      Bound.ofValue (.named (builder.zone context)) .oldest given.start = .ok bound)
    (stops : ∃ bound,
      Bound.ofValue (.named (builder.zone context)) .newest given.stop = .ok bound)
    (failed : resolved context { builder with given } = .error error) : error.kind = .filter := by
  obtain ⟨place, known⟩ := knows.place
  rcases resolved_failed failed with unread | unread | ⟨stamps, -, unread⟩ | ⟨spans, -, unread⟩ |
    ⟨value, -, unread⟩
  · obtain ⟨start, read⟩ := starts
    cases read.symm.trans unread
  · obtain ⟨stop, read⟩ := stops
    cases read.symm.trans unread
  · exact readTimestamps_failed known unread
  · obtain ⟨span, -, reason⟩ := mapM_failed unread
    exact timeRange_failed known reason
  · obtain ⟨align, read⟩ := readAlign_ok known value
    cases read.symm.trans unread

/-- Where everything else can be read and the zone is known, what a step has the builder remember
fails as a filter only. -/
theorem remembered_failed {step : Step} {given : Given} (readable : builder.Readable context)
    (knows : builder.KnowsZone context) (remembered : step.remembered? builder.given = some given)
    (failed : resolved context { builder with given } = .error error) : error.kind = .filter := by
  obtain ⟨starts, stops⟩ := Step.remembered_bounds remembered
  refine resolved_failed_filter knows ?_ ?_ failed
  · rw [starts]
    exact readable.start
  · rw [stops]
    exact readable.stop

/-- In a known zone, a step other than to a zone leaves no trace if it fails. -/
theorem undone_of_known {step : Step} (readable : builder.Readable context)
    (knows : builder.KnowsZone context) (other : ∀ timezone, step ≠ .zone timezone)
    (failed : builder.step context step = (after, some error)) : after = builder := by
  rcases step_failed failed with same | ⟨timezone, zone, -⟩ | ⟨given, remembered, failed⟩
  · exact same
  · exact absurd zone (other timezone)
  · obtain ⟨unread, left⟩ := remember_failed failed
    rw [left, if_pos (remembered_failed readable knows remembered unread)]

/-- Steps that succeed keep what is remembered readable. -/
theorem step_readable {step : Step} (readable : builder.Readable context)
    (succeeded : builder.step context step = (after, none)) : after.Readable context := by
  rcases step_ok succeeded with ⟨given, -, zone⟩ | ⟨before, given, -, resolved, -⟩
  · unfold Readable
    rw [given, zone]
    exact readable
  · have read : Readable context ⟨before.given, after.request⟩ := readable_of_resolved resolved
    rw [given] at read
    exact read

/-- The builders that are reached by steps of which any may fail, but none to a zone, and none while
the zone in force is unknown. -/
inductive Reached (context : Context) : Builder → Prop
  | begun {key first last : Value} {timezone : Option String} {builder : Builder}
      (started : Builder.start context key first last timezone = .ok builder) :
      Reached context builder
  | succeeded {builder after : Builder} {step : Step} (reached : Reached context builder)
      (taken : builder.step context step = (after, none)) : Reached context after
  | failed {builder after : Builder} {step : Step} {error : Error}
      (reached : Reached context builder) (knows : builder.KnowsZone context)
      (other : ∀ timezone, step ≠ .zone timezone)
      (taken : builder.step context step = (after, some error)) : Reached context after

theorem Reached.readable (reached : Reached context builder) : builder.Readable context := by
  induction reached with
  | begun started =>
    obtain ⟨request, resolved, rfl⟩ := map_succeeded started
    exact readable_of_resolved resolved
  | succeeded reached taken ih => exact step_readable ih taken
  | failed reached knows other taken ih => exact undone_of_known ih knows other taken ▸ ih

/-- What a step that fails leaves behind. A step to a zone leaves the zone's name. Any other step
leaves the request as it was, and leaves what it had the builder remember only if it fails with
another error than a filter's; so far as zones are known it leaves nothing. -/
theorem failedStep_leaves {step : Step}
    (failed : builder.step context step = (after, some error)) :
    (∀ timezone, step = .zone timezone →
      after = { builder with request := { builder.request with timezone } }) ∧
    ((∀ timezone, step ≠ .zone timezone) →
      after.request = builder.request ∧
      (after = builder ∨ error.kind ≠ .filter ∧
        step.remembered? builder.given = some after.given) ∧
      (Reached context builder → builder.KnowsZone context → after = builder)) := by
  constructor
  · rintro timezone rfl
    exact (resolve_failed failed).1
  · intro other
    refine ⟨?_, ?_, fun reached knows => undone_of_known reached.readable knows other failed⟩
    all_goals rcases step_failed failed with same | ⟨timezone, zone, -⟩ | ⟨given, named, failed⟩
    · rw [same]
    · exact absurd zone (other timezone)
    · rw [(remember_failed failed).2]
      split <;> rfl
    · exact .inl same
    · exact absurd zone (other timezone)
    · obtain ⟨-, left⟩ := remember_failed failed
      by_cases filter : error.kind = .filter
      · exact .inl (left.trans (if_pos filter))
      · rw [left, if_neg filter]
        exact .inr ⟨filter, named⟩

/-- A builder for the samples up to the start of 2024, with the zone of its request. -/
def upTo2024 (timezone : Option String) : Builder :=
  ⟨⟨.text "-", .text "2024-01-01", none, none, none⟩,
    { key := .text "energy", stop := .instant 1704067200000, timezone }⟩

theorem start_upTo2024 : start {} (.text "energy") (.text "-") (.text "2024-01-01") none =
    .ok (upTo2024 none) := rfl

/-- A timestamp that cannot be read, in universal time. -/
theorem failedStep_leaves_upTo2024 :
    ∃ error, (upTo2024 none).step {} (.timestamps (.list [.text "x"])) =
      (upTo2024 none, some error) := by
  obtain ⟨after, error, failed⟩ : ∃ after error,
      (upTo2024 none).step {} (.timestamps (.list [.text "x"])) = (after, some error) :=
    ⟨_, _, rfl⟩
  have same := ((failedStep_leaves failed).2 nofun).2.2 (.begun start_upTo2024)
    ⟨Zone.universal, rfl⟩
  exact ⟨error, same ▸ failed⟩

/-- The name of an unknown zone stays in the request, and the next step fails for it. A timestamp
that was to be read in an unknown zone is still remembered, and comes back with the next zone. -/
theorem failedStep_remains :
    (∃ error, (upTo2024 none).step {} (.zone (some "Mars/Olympus")) =
      (upTo2024 (some "Mars/Olympus"), some error)) ∧
    (∃ after, (upTo2024 none).step {} (.timestamps (.list [.text "2024-01-02"])) =
      (after, none)) ∧
    (∃ after error, (upTo2024 (some "Mars/Olympus")).step {}
      (.timestamps (.list [.text "2024-01-02"])) = (after, some error)) ∧
    ∃ builder after error later,
      start {} (.text "energy") .none .none (some "Mars/Olympus") = .ok builder ∧
      builder.step {} (.timestamps (.list [.text "2024-01-02"])) = (after, some error) ∧
      after.step {} (.zone (some "UTC")) = (later, none) ∧
      later.request.timestamps = some [1704153600000] ∧
      (builder.step {} (.zone (some "UTC"))).1.request.timestamps = none :=
  ⟨⟨_, rfl⟩, ⟨_, rfl⟩, ⟨_, _, rfl⟩, _, _, _, _, rfl, rfl, rfl, rfl, rfl⟩

end CalendarSeries.Builder
