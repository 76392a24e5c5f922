import CalendarSeries.Proofs.Query.LastGiven
/-!
Which of the sub-ranges that a builder takes end before they start. A pair of points in time never
does: its ends are compared whenever it is read, in whatever zone. A sub-range that is one already
and a range of numbers are taken as they stand, and nothing looks at their order. So a request has a
sub-range that ends before it starts just if it was given one of these two kinds that does, and no
later step, to another zone or not, failing or not, changes that.
-/
namespace CalendarSeries

variable {assumed other : Instant.Assumed} {place : Place} {value : Value}

/-- Whether a value is taken for a sub-range that ends before it starts. -/
def Value.isInvertedRange : Value → Bool
  | timeRange ⟨start, stop⟩ => stop < start
  | range start stop _ => stop ≤ start
  | _ => false

/-- Of what is read as a sub-range, only what is given as such ends before it starts. -/
theorem TimeRange.inverted_iff {range : TimeRange} (read : ofValue assumed value = .ok range) :
    range.stop < range.start ↔ value.isInvertedRange = true := by
  unfold ofValue at read
  split at read
  · cases read
    simp [Value.isInvertedRange]
  · cases read
    simp only [Value.isInvertedRange, decide_eq_true_iff]
    omega
  -- a pair is neither, and it was compared
  · rename_i unlikeRange unlikeNumbers
    have taken : value.isInvertedRange = false := by
      unfold Value.isInvertedRange
      split
      · exact absurd rfl (unlikeRange _)
      · exact absurd rfl (unlikeNumbers _ _ _)
      · rfl
    split at read
    · split at read
      · cases read
      · rename_i ordered
        cases read
        simp [taken, ordered]
    · cases read

/-- Sub-ranges as they were read from values: each from its own, all in one zone. -/
structure TimeRange.ReadFrom (values : List Value) (ranges : List TimeRange) : Prop where
  read : ∃ assumed, values.mapM (ofValue assumed) = .ok ranges
  inverted : List.Forall₂ (fun value range => range.stop < range.start ↔
    value.isInvertedRange = true) values ranges
  proper_iff : (∀ range ∈ ranges, range.start ≤ range.stop) ↔
    ∀ value ∈ values, value.isInvertedRange = false

theorem TimeRange.ReadFrom.of_mapM {values : List Value} {ranges : List TimeRange}
    (read : values.mapM (ofValue assumed) = .ok ranges) : ReadFrom values ranges := by
  have inverted := (mapM_ok_iff.1 read).imp fun _ _ => inverted_iff
  refine ⟨⟨assumed, read⟩, inverted, ?_⟩
  clear read
  induction inverted with
  | nil => exact iff_of_true nofun nofun
  | cons same _ rest =>
    rw [List.forall_mem_cons, List.forall_mem_cons, rest, ← Int.not_lt, same, Bool.not_eq_true]

/-- A value that is a point in time where one zone is assumed is one in every zone that is known. -/
theorem Instant.exists_ofValue {n : Int} (known : other.place = .ok place)
    (read : ofValue assumed value = .ok n) : ∃ m, ofValue other value = .ok m := by
  unfold ofValue at read ⊢
  split at read
  · exact ⟨_, rfl⟩
  · rename_i wall at_
    cases at_ with
    | unknown =>
      simp only [located, known]
      exact ⟨_, rfl⟩
    | _ => exact ⟨_, rfl⟩
  · split at read
    · rename_i content spelled
      simp only [readShown] at read ⊢
      split at read
      · cases read
      · exact ⟨_, rfl⟩
      · rw [known]
        exact ⟨_, rfl⟩
    · cases read

theorem Bound.exists_ofValue {default bound : Bound} (known : other.place = .ok place)
    (read : ofValue assumed default value = .ok bound) :
    ∃ also, ofValue other default value = .ok also := by
  unfold ofValue at read ⊢
  split at read
  · exact ⟨_, rfl⟩
  · exact ⟨_, rfl⟩
  · exact ⟨_, rfl⟩
  · obtain ⟨n, instant, -⟩ := map_succeeded read
    obtain ⟨m, also⟩ := Instant.exists_ofValue known instant
    exact ⟨_, by rw [also]; rfl⟩

namespace Builder

variable {context : Context} {builder after : Builder} {values : List Value} {error : Error}

/-- Whether the bounds that were given can be read in every zone that is known. -/
def HasBounds (builder : Builder) : Prop :=
  ∀ assumed place, Instant.Assumed.place assumed = .ok place →
    (∃ bound, Bound.ofValue assumed .oldest builder.given.start = .ok bound) ∧
      ∃ bound, Bound.ofValue assumed .newest builder.given.stop = .ok bound

theorem HasBounds.of_start {key first last : Value} {timezone : Option String}
    (started : start context key first last timezone = .ok builder) : builder.HasBounds := by
  intro assumed place known
  obtain ⟨request, resolved, rfl⟩ := map_succeeded started
  obtain ⟨⟨start, starts⟩, ⟨stop, stops⟩, -⟩ := readable_of_resolved resolved
  exact ⟨Bound.exists_ofValue known starts, Bound.exists_ofValue known stops⟩

/-- No step gives other bounds, whether it fails or not. -/
theorem HasBounds.step (bounds : builder.HasBounds) (step : Step) :
    (builder.step context step).1.HasBounds := by
  unfold HasBounds
  obtain ⟨same | remembered, -⟩ := step_filters context builder step
  · rw [same]
    exact bounds
  · obtain ⟨starts, stops⟩ := Step.remembered_bounds remembered
    rw [starts, stops]
    exact bounds

/-- Whether a request has the sub-ranges that were read from values. -/
def HasRead (values : List Value) (request : RangeRequest) : Prop :=
  ∃ ranges, request.ranges = some ranges ∧ TimeRange.ReadFrom values ranges

/-- What is remembered of sub-ranges makes up those of a request. -/
theorem hasRead_of_resolved {request : RangeRequest} (given : builder.given.ranges = some values)
    (resolved : builder.resolved context = .ok request) : HasRead values request := by
  unfold Builder.resolved at resolved
  obtain ⟨start, -, resolved⟩ := bind_succeeded resolved
  obtain ⟨stop, -, resolved⟩ := bind_succeeded resolved
  obtain ⟨timestamps, -, resolved⟩ := bind_succeeded resolved
  obtain ⟨found, ranged, resolved⟩ := bind_succeeded resolved
  obtain ⟨align, -, resolved⟩ := bind_succeeded resolved
  cases resolved
  obtain ⟨ranges, read, rfl⟩ := map_succeeded (readIf_succeeded ranged values given)
  exact ⟨ranges, rfl, .of_mapM read⟩

/-- No other step has a builder remember other sub-ranges. -/
theorem Step.remembered_ranges {step : Step} {given changed : Given}
    (other : ∀ spans, step ≠ .ranges spans) (remembered : step.remembered? given = some changed) :
    changed.ranges = given.ranges := by
  rcases remembered_cases remembered with ⟨items, rfl⟩ | ⟨spans, items, given, -⟩ |
    ⟨alignment, rfl⟩
  · rfl
  · exact absurd given (other spans)
  · rfl

/-- Whether a builder remembers values as sub-ranges, and its request has these or is as it was. -/
structure Keeps (values : List Value) (before : Option (List TimeRange)) (builder : Builder) :
    Prop where
  given : builder.given.ranges = some values
  ranges : builder.request.ranges = before ∨ HasRead values builder.request

/-- A step that gives no sub-ranges leaves those of the request, or reads them again. -/
theorem Keeps.step {before : Option (List TimeRange)} (keeps : builder.Keeps values before)
    {step : Step} (other : ∀ spans, step ≠ .ranges spans) :
    (builder.step context step).1.Keeps values before := by
  obtain ⟨remembers, filters⟩ := step_filters context builder step
  have given : (builder.step context step).1.given.ranges = some values := by
    rcases remembers with same | remembered
    · rw [same, keeps.given]
    · rw [Step.remembered_ranges other remembered, keeps.given]
  refine ⟨given, ?_⟩
  rcases filters with same | ⟨earlier, same, -, read⟩
  · have ranges : (builder.step context step).1.request.ranges = builder.request.ranges :=
      congrArg Prod.snd same
    unfold HasRead
    rw [ranges]
    exact keeps.ranges
  · rw [← same] at given
    exact .inr (hasRead_of_resolved given read)

/-- Sub-ranges that are taken are read, and remembered. -/
theorem keeps_of_taken (taken : builder.step context (.ranges (.list values)) = (after, none)) :
    HasRead values after.request ∧ after.Keeps values after.request.ranges := by
  obtain ⟨request, resolved, rfl⟩ := remember_ok taken
  have read : HasRead values request := hasRead_of_resolved rfl resolved
  exact ⟨read, rfl, .inl rfl⟩

/-- Sub-ranges that are not taken are forgotten where the zone in force is known. -/
theorem refused_or_keeps (bounds : builder.HasBounds)
    (failed : builder.step context (.ranges (.list values)) = (after, some error)) :
    (after = builder ∧ error.kind = .filter ∧ (builder.Readable context →
      ∃ value ∈ values,
        TimeRange.ofValue (.named (builder.zone context)) value = .error error)) ∨
    (¬builder.KnowsZone context ∧ after.request = builder.request ∧
      after.Keeps values builder.request.ranges) := by
  obtain ⟨unread, left⟩ := remember_failed failed
  by_cases filter : error.kind = .filter
  · rw [if_pos filter] at left
    refine .inl ⟨left, filter, fun readable => ?_⟩
    rcases resolved_failed unread with unread | unread | ⟨stamps, there, unread⟩ |
      ⟨spans, there, unread⟩ | ⟨alignment, there, unread⟩
    · obtain ⟨start, read⟩ := readable.start
      cases read.symm.trans unread
    · obtain ⟨stop, read⟩ := readable.stop
      cases read.symm.trans unread
    · obtain ⟨instants, read⟩ := readable.timestamps stamps there
      cases read.symm.trans unread
    · cases there
      exact mapM_failed unread
    · obtain ⟨align, read⟩ := readable.align alignment there
      cases read.symm.trans unread
  -- in a known zone the bounds and the alignment can be read, and all else fails as a filter
  · rw [if_neg filter] at left
    subst left
    refine .inr ⟨fun knows => filter ?_, rfl, rfl, .inl rfl⟩
    obtain ⟨place, known⟩ := knows.place
    refine resolved_failed_filter knows ?_ ?_ unread
    · exact (bounds _ _ known).1
    · exact (bounds _ _ known).2

/-- Sub-ranges that are given at any time, after steps that may have failed, are refused with the
error of a filter, which leaves no trace and which one of them has if all else can be read; or they
are taken. Then the sub-ranges of the request are in order just if none was given as one that ends
before it starts, and so they are after all later steps, which may read them again in other zones
and may fail. Where the zone in force is unknown they may also be refused with another error: the
request stays, but later steps may read them. -/
theorem givenRanges_proper_iff {key first last : Value} {timezone : Option String}
    {begun : Builder} (started : start context key first last timezone = .ok begun)
    (earlier : List Step) (values : List Value) (later : List Step)
    (others : ∀ step ∈ later, ∀ spans, step ≠ .ranges spans) :
    let builder := begun.stepsThrough context earlier
    let outcome := builder.step context (.ranges (.list values))
    let final := (outcome.1.stepsThrough context later).request
    (∃ error, outcome = (builder, some error) ∧ error.kind = .filter ∧
      (builder.Readable context → ∃ value ∈ values,
        TimeRange.ofValue (.named (builder.zone context)) value = .error error)) ∨
    (outcome.2 = none ∧ HasRead values outcome.1.request ∧ HasRead values final) ∨
    (¬builder.KnowsZone context ∧ (∃ error, outcome.2 = some error) ∧
      outcome.1.request = builder.request ∧
      (final.ranges = builder.request.ranges ∨ HasRead values final)) := by
  intro builder outcome final
  have bounds : builder.HasBounds :=
    stepsThrough_keeps (motive := HasBounds) (fun step _ _ bounds => bounds.step step)
      (.of_start started)
  have kept : ∀ before, outcome.1.Keeps values before →
      final.ranges = before ∨ HasRead values final := fun before keeps =>
    (stepsThrough_keeps (motive := Keeps values before)
      (fun step member _ keeps => keeps.step (others step member)) keeps).ranges
  rcases came : outcome with ⟨after, _ | error⟩
  case none =>
    obtain ⟨read, keeps⟩ := keeps_of_taken came
    rw [came] at kept
    refine .inr (.inl ⟨rfl, read, ?_⟩)
    rcases kept _ keeps with same | reread
    · obtain ⟨ranges, there, from_⟩ := read
      exact ⟨ranges, same.trans there, from_⟩
    · exact reread
  case some =>
    rw [came] at kept
    rcases refused_or_keeps bounds came with ⟨rfl, filter, reason⟩ | ⟨unknown, same, keeps⟩
    · exact .inl ⟨error, rfl, filter, reason⟩
    · exact .inr (.inr ⟨unknown, ⟨error, rfl⟩, same, kept _ keeps⟩)

/-- A builder for all samples of a series, with what was given and read as sub-ranges. -/
def allSamples (given : Option (List Value)) (ranges : Option (List TimeRange)) : Builder :=
  ⟨⟨.none, .none, none, given, none⟩, { key := .text "energy", ranges }⟩

theorem start_allSamples :
    start {} (.text "energy") .none .none none = .ok (allSamples none none) := rfl

/-- Two readings around the hour that the clocks of Brussels skip, the first of which they never
show. -/
def acrossTheGap : Value :=
  .tuple [.text "2024-03-31T02:30", .text "2024-03-31T03:10"]

/-- The readings are in order in universal time and not in Brussels. So they are taken, and the step
to Brussels fails and leaves the sub-range as it was read before. -/
theorem givenRanges_proper_springForward :
    let brussels : Step := .zone (some "Europe/Brussels")
    let taken := allSamples (some [acrossTheGap]) (some [⟨1711852200000, 1711854600000⟩])
    start {} (.text "energy") .none .none none = .ok (allSamples none none) ∧
      (allSamples none none).step {} (.ranges (.list [acrossTheGap])) = (taken, none) ∧
      (∃ error, (taken.step {} brussels).2 = some error ∧ error.kind = .filter) ∧
      ∃ ranges, (taken.stepsThrough {} [brussels]).request.ranges = some ranges ∧
        ∀ range ∈ ranges, range.start ≤ range.stop := by
  have accepted : (allSamples none none).step {} (.ranges (.list [acrossTheGap])) =
      (allSamples (some [acrossTheGap]) (some [⟨1711852200000, 1711854600000⟩]), none) := rfl
  refine ⟨start_allSamples, accepted, ⟨.invertedTimeRange acrossTheGap, rfl, rfl⟩, ?_⟩
  rcases givenRanges_proper_iff start_allSamples [] [acrossTheGap]
      [.zone (some "Europe/Brussels")] (by simp) with
    ⟨error, refused, -⟩ | ⟨-, -, ranges, there, read⟩ | ⟨-, ⟨error, refused⟩, -⟩
  · cases accepted.symm.trans refused
  · refine ⟨ranges, there, read.proper_iff.2 ?_⟩
    simp [acrossTheGap, Value.isInvertedRange]
  · cases refused

/-- An empty range of numbers, one that goes down, and a sub-range that is one already: each is
taken, ends before it starts, and does so still in the next zone. -/
theorem givenRanges_inverted :
    let values : List Value := [.range 10 10 1, .range 10 0 (-1), .timeRange ⟨5, 1⟩]
    let inverted : List TimeRange := [⟨10, 9⟩, ⟨10, -1⟩, ⟨5, 1⟩]
    let taken := allSamples (some values) (some inverted)
    start {} (.text "energy") .none .none none = .ok (allSamples none none) ∧
      (allSamples none none).step {} (.ranges (.list values)) = (taken, none) ∧
      (∃ after, taken.step {} (.zone (some "Europe/Brussels")) = (after, none) ∧
        after.request.ranges = some inverted) ∧
      ∀ range ∈ inverted, ¬range.start ≤ range.stop :=
  ⟨start_allSamples, rfl, ⟨_, rfl, rfl⟩, by decide⟩

end Builder

end CalendarSeries
