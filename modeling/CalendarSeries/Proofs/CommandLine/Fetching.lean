import CalendarSeries.CommandLine.Fetching
import CalendarSeries.Proofs.Outcome
/-!
What a command fetches depends on its bounds only through the request that they make. The steps that
a command takes read no point in time, so builders that start with one request end with one.
-/
namespace CalendarSeries

variable {context : Context}

namespace Builder

/-- Whether a step reads no point in time. -/
def Step.IsTimeless : Step → Prop
  | .aggregation .. | .values .. | .count _ | .empty _ | .latest _ | .reverse => True
  | .timestamps _ | .ranges _ | .align _ | .zone _ => False

variable {first second : Builder}

theorem replace_request (same : first.request = second.request)
    (request : Except Error RangeRequest) :
    (first.replace request).1.request = (second.replace request).1.request ∧
      (first.replace request).2 = (second.replace request).2 := by
  cases request with
  | error => exact ⟨same, rfl⟩
  | ok => exact ⟨rfl, rfl⟩

/-- What such a step does depends on the request alone. -/
theorem step_request {step : Step} (timeless : step.IsTimeless)
    (same : first.request = second.request) :
    (first.step context step).1.request = (second.step context step).1.request ∧
      (first.step context step).2 = (second.step context step).2 := by
  cases step with
  | aggregation | count =>
    simp only [step, same]
    exact replace_request same _
  | timestamps | ranges | align | zone => exact timeless.elim
  | values | empty | latest | reverse =>
    simp only [step, same, and_self]

theorem steps_request {steps : List Step} (timeless : ∀ step ∈ steps, step.IsTimeless)
    (same : first.request = second.request) :
    (first.steps context steps).map Builder.request =
      (second.steps context steps).map Builder.request := by
  induction steps generalizing first second with
  | nil => exact congrArg Except.ok same
  | cons step rest ih =>
    have outcome : (first.step context step).1.request = (second.step context step).1.request ∧
        (first.step context step).2 = (second.step context step).2 :=
      step_request (timeless step List.mem_cons_self) same
    rw [Builder.steps, Builder.steps]
    generalize first.step context step = result at outcome ⊢
    generalize second.step context step = otherResult at outcome ⊢
    obtain ⟨builder, error⟩ := result
    obtain ⟨other, _⟩ := otherResult
    obtain ⟨request, rfl⟩ := outcome
    cases error with
    | none => exact ih (fun step member => timeless step (List.mem_cons_of_mem _ member)) request
    | some => rfl

theorem execute_request (same : first.request = second.request) :
    first.execute context = second.execute context := by
  rw [execute, execute, same]

end Builder

namespace CommandLine

theorem ofExcept_ok_bind {α β : Type} {result : Except Error α} {value : α}
    (found : result = .ok value) (next : α → Run β) :
    Run.ofExcept result >>= next = next value := by
  rw [found]
  exact pure_bind value next

/-- What depends on a builder's request alone is the same for all builders of that request. -/
theorem ofExcept_bind_congr {β : Type} {result other : Except Error Builder}
    (same : result.map Builder.request = other.map Builder.request) {next : Builder → Run β}
    (depends : ∀ first second : Builder, first.request = second.request →
      next first = next second) :
    Run.ofExcept result >>= next = Run.ofExcept other >>= next := by
  cases result with
  | error =>
    cases other with
    | error =>
      cases same
      rfl
    | ok => cases same
  | ok builder =>
    cases other with
    | error => cases same
    | ok otherBuilder =>
      rw [ofExcept_ok_bind rfl, ofExcept_ok_bind rfl]
      exact depends builder otherBuilder (Except.ok.inj same)

namespace Selection

/-- The request that a command makes of a key before it is told more than the range. -/
def requested (context : Context) (selection : Selection) (key : String) :
    Except Error RangeRequest := do
  let zone ← selection.zoneIn context
  let bounds ← selection.bounds zone
  let builder ← Builder.start context (.text key) bounds.1 bounds.2 selection.zone
  .ok builder.request

/-- A selection without its bounds. -/
def unbounded (selection : Selection) : Selection :=
  { selection with start := none, stop := none, day := none, month := none }

variable {first second : Selection} {bounds others : Value × Value}

theorem zone_eq (alike : first.unbounded = second.unbounded) : first.zone = second.zone := by
  obtain ⟨-, -, -, -, zone, -⟩ := Selection.mk.inj alike
  exact zone

/-- Whether two pairs of bounds make the same request of a key. -/
def SameRequest (context : Context) (timezone : Option String) (bounds others : Value × Value)
    (key : String) : Prop :=
  ∃ builder other, Builder.start context (.text key) bounds.1 bounds.2 timezone = .ok builder ∧
    Builder.start context (.text key) others.1 others.2 timezone = .ok other ∧
    builder.request = other.request

theorem requested_succeeded {request : RangeRequest} {key : String}
    (succeeded : first.requested context key = .ok request) :
    ∃ zone bounds, first.zoneIn context = .ok zone ∧ first.bounds zone = .ok bounds := by
  obtain ⟨zone, known, succeeded⟩ := bind_succeeded succeeded
  obtain ⟨bounds, bounded, -⟩ := bind_succeeded succeeded
  exact ⟨zone, bounds, known, bounded⟩

theorem requested_along {zone : String} (known : first.zoneIn context = .ok zone)
    (bounded : first.bounds zone = .ok bounds) (key : String) :
    first.requested context key =
      (Builder.start context (.text key) bounds.1 bounds.2 first.zone).map Builder.request := by
  simp only [requested, known, bounded, bind, Except.bind]
  rfl

theorem fetch_congr {key : String} {steps : List Builder.Step} (zone : first.zone = second.zone)
    (same : SameRequest context second.zone bounds others key)
    (timeless : ∀ step ∈ steps, step.IsTimeless) :
    first.fetch context bounds key steps = second.fetch context others key steps := by
  obtain ⟨builder, other, started, otherStarted, request⟩ := same
  unfold fetch
  rw [zone, ofExcept_ok_bind started, ofExcept_ok_bind otherStarted]
  exact ofExcept_bind_congr (Builder.steps_request timeless request) fun _ _ =>
    Builder.execute_request

/-- The step for an aggregation reads no point in time. -/
theorem aggregationSteps_timeless {selection : Selection} {steps : List Builder.Step}
    (found : selection.aggregationSteps? = some steps) : ∀ step ∈ steps, step.IsTimeless := by
  unfold aggregationSteps? at found
  split at found
  · cases found
    simp
  · cases found
    simp [Builder.Step.IsTimeless]
  · cases found

theorem fetchRange_congr (alike : first.unbounded = second.unbounded) {key : String}
    (same : SameRequest context second.zone bounds others key) (reverse : Bool)
    (count : Option Int) :
    first.fetchRange context bounds key reverse count =
      second.fetchRange context others key reverse count := by
  obtain ⟨-, -, -, -, zone, includeEmpty, -, statistic, bucket⟩ := Selection.mk.inj alike
  have aggregation : first.aggregationSteps? = second.aggregationSteps? := by
    rw [aggregationSteps?, aggregationSteps?, statistic, bucket]
  unfold fetchRange
  rw [aggregation, includeEmpty]
  cases found : second.aggregationSteps? with
  | some steps =>
    refine congrArg (Fetched.samples <$> ·) (fetch_congr zone same ?_)
    have timeless := aggregationSteps_timeless found
    intro step member
    simp only [List.cons_append, List.mem_cons, List.mem_append] at member
    rcases member with rfl | (inside | counted) | turned
    · trivial
    · exact timeless step inside
    · obtain ⟨number, -, rfl⟩ : ∃ number, count = some number ∧ .count (.int number) = step := by
        simpa using counted
      trivial
    · obtain ⟨-, rfl⟩ : reverse = true ∧ step = .reverse := by
        cases reverse <;> simp_all
      trivial
  | none =>
    obtain ⟨builder, other, started, otherStarted, -⟩ := same
    dsimp only
    rw [zone, ofExcept_ok_bind started, ofExcept_ok_bind otherStarted]

theorem fetchCombined_congr (alike : first.unbounded = second.unbounded)
    (same : ∀ key, SameRequest context second.zone bounds others key) (keys : List String)
    (policy : MergePolicy) (reduction : Reduction) (places : Option Int) :
    first.fetchCombined context bounds keys policy reduction places =
      second.fetchCombined context others keys policy reduction places := by
  obtain ⟨-, -, -, -, zone, includeEmpty, -, statistic, bucket⟩ := Selection.mk.inj alike
  have each (key : String) (steps : List Builder.Step)
      (timeless : ∀ step ∈ steps, step.IsTimeless) :
      first.fetch context bounds key steps = second.fetch context others key steps :=
    fetch_congr zone (same key) timeless
  have steps : ∀ step ∈ [Builder.Step.aggregation (.text (second.statistic.getD ""))
      (.text (second.bucket.getD "")), .empty second.includeEmpty], step.IsTimeless := by
    simp [Builder.Step.IsTimeless]
  simp only [fetchCombined, statistic, bucket, includeEmpty, each _ _ steps]

end Selection

/-- Commands that differ in their bounds only and make the same requests fetch the same. -/
theorem Invocation.fetch_of_requested (invocation : Invocation) {first second : Selection}
    (alike : first.unbounded = second.unbounded)
    (same : ∀ key, ∃ request, first.requested context key = .ok request ∧
      second.requested context key = .ok request) :
    Invocation.fetch context { invocation with selection := first } =
      Invocation.fetch context { invocation with selection := second } := by
  have sameZone := Selection.zone_eq alike
  have zoneIn : first.zoneIn context = second.zoneIn context := by
    rw [Selection.zoneIn, Selection.zoneIn, sameZone]
  obtain ⟨request, requested, otherRequested⟩ := same ""
  obtain ⟨zone, bounds, known, bounded⟩ := Selection.requested_succeeded requested
  obtain ⟨otherZone, others, otherKnown, otherBounded⟩ :=
    Selection.requested_succeeded otherRequested
  rw [zoneIn] at known
  cases known.symm.trans otherKnown
  have started (key : String) :
      Selection.SameRequest context second.zone bounds others key := by
    obtain ⟨request, requested, otherRequested⟩ := same key
    rw [Selection.requested_along (zoneIn.trans known) bounded, sameZone] at requested
    rw [Selection.requested_along known otherBounded] at otherRequested
    obtain ⟨builder, started, made⟩ := map_succeeded requested
    obtain ⟨other, otherStarted, otherMade⟩ := map_succeeded otherRequested
    exact ⟨builder, other, started, otherStarted, made.trans otherMade.symm⟩
  unfold fetch
  dsimp only
  rw [zoneIn, ofExcept_ok_bind known, ofExcept_ok_bind bounded, ofExcept_ok_bind otherKnown,
    ofExcept_ok_bind otherBounded]
  cases invocation.command with
  | range key reverse count =>
    dsimp only
    rw [Selection.fetchRange_congr alike (started key)]
  | combine keys policy reduction places =>
    dsimp only
    rw [Selection.fetchCombined_congr alike started]

/-- Whether two selections ask for the same exactly under a condition: only then do they request the
same, and then every command fetches the same. -/
def Selection.AskAlikeIff (context : Context) (first second : Selection) (condition : Prop) :
    Prop :=
  (∀ key, ∃ request other, first.requested context key = .ok request ∧
    second.requested context key = .ok other ∧ (request = other ↔ condition)) ∧
  (condition → ∀ invocation : Invocation,
    Invocation.fetch context { invocation with selection := first } =
      Invocation.fetch context { invocation with selection := second })

theorem Selection.askAlikeIff {first second : Selection} {condition : Prop}
    (alike : first.unbounded = second.unbounded)
    (requests : ∀ key, ∃ request other, first.requested context key = .ok request ∧
      second.requested context key = .ok other ∧ (request = other ↔ condition)) :
    AskAlikeIff context first second condition := by
  refine ⟨requests, fun holds invocation => Invocation.fetch_of_requested invocation alike ?_⟩
  intro key
  obtain ⟨request, other, requested, otherRequested, same⟩ := requests key
  cases same.2 holds
  exact ⟨request, requested, otherRequested⟩

end CommandLine

end CalendarSeries
