import CalendarSeries.Proofs.Sample.Reduction
/-!
What a calculation that fails leaves behind. An argument that cannot be used is refused before
anything is changed, and so is a reduction of elements that are not merged. Past that, elements are
changed one after the other, and those before one that cannot be changed stay changed. Among
decimals only a signal comes that late, and the extremes, the replacement of what is no number and
the dropping of negative numbers never signal.
-/
namespace CalendarSeries

theorem changeEach_error {change : Element → Except Error Element} (element : Element)
    (rest : List Element) :
    (changeEach change (element :: rest)).2 =
      match change element with
      | .error error => some error
      | .ok _ => (changeEach change rest).2 := by
  rw [changeEach]
  cases change element <;> rfl

/-- Elements before the first that cannot be changed are changed, the others are left. -/
theorem changeEach_failed {change : Element → Except Error Element} {elements : List Element}
    {error : Error} (failed : (changeEach change elements).2 = some error) :
    ∃ done stuck rest changed, elements = done ++ stuck :: rest ∧
      done.mapM change = .ok changed ∧ change stuck = .error error ∧
      (changeEach change elements).1 = changed ++ stuck :: rest := by
  induction elements with
  | nil => cases failed
  | cons element rest ih =>
    rw [changeEach_error] at failed
    rw [changeEach_cons]
    cases step : change element with
    | error =>
      rw [step] at failed
      cases failed
      exact ⟨[], element, rest, [], rfl, rfl, step, rfl⟩
    | ok first =>
      rw [step] at failed
      obtain ⟨done, stuck, later, changed, rfl, mapped, reason, left⟩ := ih failed
      refine ⟨element :: done, stuck, later, first :: changed, rfl, ?_, reason, ?_⟩
      · rw [List.mapM_cons, step, mapped]
        rfl
      · dsimp only
        rw [left, List.cons_append]

/-- Changes that succeed at every element. -/
theorem changeEach_ok {change : Element → Except Error Element} {elements changed : List Element}
    (each : List.Forall₂ (fun element result => change element = .ok result) elements changed) :
    changeEach change elements = (changed, none) := by
  induction each with
  | nil => rfl
  | cons found _ ih => rw [changeEach, found, ih]

theorem exists_ok_of_changeEach {change : Element → Except Error Element}
    {elements : List Element} (finished : (changeEach change elements).2 = none)
    {element : Element} (member : element ∈ elements) :
    ∃ changed, change element = .ok changed := by
  induction elements with
  | nil => cases member
  | cons first rest ih =>
    rw [changeEach_error] at finished
    cases step : change first with
    | error =>
      rw [step] at finished
      cases finished
    | ok changed =>
      rw [step] at finished
      rcases List.mem_cons.1 member with rfl | later
      · exact ⟨changed, step⟩
      · exact ih finished later

namespace Value

/-- Whether a value is a decimal. -/
def IsDecimal (value : Value) : Prop :=
  ∃ x, value = .decimal x

variable {value other result : Value} {error : Error}

theorem decimalResult_ok {outcome : Except Decimal.Signal Decimal}
    (succeeded : decimalResult outcome = .ok result) : result.IsDecimal := by
  cases outcome with
  | error => cases succeeded
  | ok x =>
    cases succeeded
    exact ⟨x, rfl⟩

theorem decimalResult_failed {outcome : Except Decimal.Signal Decimal}
    (failed : decimalResult outcome = .error error) : ∃ signal, error = .signal signal := by
  cases outcome with
  | error signal =>
    cases failed
    exact ⟨signal, rfl⟩
  | ok => cases failed

theorem sumFrom_failed {values : List Value} (decimals : ∀ value ∈ values, value.IsDecimal)
    {total : Decimal} (failed : values.foldlM addTo total = .error error) :
    ∃ signal, error = .signal signal := by
  induction values generalizing total with
  | nil => cases failed
  | cons value rest ih =>
    obtain ⟨x, rfl⟩ := decimals value List.mem_cons_self
    rw [List.foldlM_cons] at failed
    rcases bind_failed failed with reason | ⟨sum, -, failed⟩
    · have added : addTo total (.decimal x) = (total.add x).mapError .signal := rfl
      rw [added] at reason
      cases sum : total.add x with
      | error signal =>
        rw [sum] at reason
        cases reason
        exact ⟨signal, rfl⟩
      | ok =>
        rw [sum] at reason
        cases reason
    · exact ih (fun other member => decimals other (List.mem_cons_of_mem _ member)) failed

theorem differences_failed {values : List Value} (decimals : ∀ value ∈ values, value.IsDecimal)
    {total : Value} (decimal : total.IsDecimal)
    (failed : values.foldlM minus total = .error error) : ∃ signal, error = .signal signal := by
  induction values generalizing total with
  | nil => cases failed
  | cons value rest ih =>
    obtain ⟨x, rfl⟩ := decimals value List.mem_cons_self
    obtain ⟨whole, rfl⟩ := decimal
    have subtracted : minus (.decimal whole) (.decimal x) = decimalResult (whole.sub x) := rfl
    rw [List.foldlM_cons, subtracted] at failed
    rcases bind_failed failed with reason | ⟨difference, found, failed⟩
    · exact decimalResult_failed reason
    · exact ih (fun other member => decimals other (List.mem_cons_of_mem _ member))
        (decimalResult_ok found) failed

/-- Any two decimals that are numbers have an order. -/
theorem decimals_ordered {x y : Decimal} (number : x.isNaN = false) (other : y.isNaN = false) :
    ∃ before, less (.decimal x) (.decimal y) = .ok before := by
  have compared : less (.decimal x) (.decimal y) = (x.less y).mapError .signal := by
    rw [less]
    · rfl
    all_goals nofun
  rw [compared]
  cases x <;> cases y
  case nan.finite | nan.infinite | nan.nan => cases number
  case finite.nan | infinite.nan => cases other
  all_goals exact ⟨_, rfl⟩

/-- Values of which any two have an order have an extreme. -/
theorem exists_extreme {before : Value → Value → Except Error Bool} {first : Value}
    {rest : List Value}
    (ordered : ∀ x ∈ first :: rest, ∀ y ∈ first :: rest, ∃ lower, before x y = .ok lower) :
    ∃ found, extreme before first rest = .ok found := by
  induction rest generalizing first with
  | nil => exact ⟨first, rfl⟩
  | cons value values ih =>
    obtain ⟨lower, compared⟩ := ordered value (by simp) first (by simp)
    have kept (kept : Value) (among : kept = first ∨ kept = value) :
        ∃ found, extreme before kept values = .ok found :=
      ih fun x inside y also => ordered x (by grind) y (by grind)
    rw [extreme, compared]
    cases lower with
    | true => exact kept value (.inr rfl)
    | false => exact kept first (.inl rfl)

end Value

namespace Reduction

variable {reduction : Reduction} {first : Value} {rest : List Value} {error : Error}

theorem apply_failed (decimals : ∀ value ∈ first :: rest, value.IsDecimal)
    (failed : reduction.apply first rest = .error error)
    (numbers : reduction.skipsNaN = true → ∀ value ∈ first :: rest, value.isNaN = false) :
    reduction.skipsNaN = false ∧ ∃ signal, error = .signal signal := by
  have ordered (skips : reduction.skipsNaN = true) : ∀ x ∈ first :: rest, ∀ y ∈ first :: rest,
      ∃ lower, Value.less x y = .ok lower := by
    intro x inside y also
    have number := numbers skips x inside
    have other := numbers skips y also
    obtain ⟨x, rfl⟩ := decimals x inside
    obtain ⟨y, rfl⟩ := decimals y also
    exact Value.decimals_ordered number other
  cases reduction with
  | sum =>
    refine ⟨rfl, ?_⟩
    rcases bind_failed failed with reason | ⟨total, -, failed⟩
    · refine Value.sumFrom_failed ?_ reason
      intro value member
      obtain ⟨original, inside, rfl⟩ := List.mem_map.1 member
      split
      · exact ⟨_, rfl⟩
      · exact decimals original inside
    · cases failed
  | average =>
    refine ⟨rfl, ?_⟩
    rcases bind_failed failed with reason | ⟨total, -, failed⟩
    · exact Value.sumFrom_failed decimals reason
    · exact Value.decimalResult_failed failed
  | subtract =>
    refine ⟨rfl, ?_⟩
    obtain ⟨x, rfl⟩ := decimals first List.mem_cons_self
    rcases bind_failed failed with reason | ⟨doubled, found, failed⟩
    · exact Value.decimalResult_failed reason
    · exact Value.differences_failed
        (fun value member => decimals value (List.mem_cons_of_mem _ member))
        (Value.decimalResult_ok found) failed
  | minimum =>
    obtain ⟨found, extreme⟩ := Value.exists_extreme (ordered rfl)
    cases extreme.symm.trans failed
  | maximum =>
    obtain ⟨found, extreme⟩ := Value.exists_extreme fun x inside y also =>
      ordered rfl y also x inside
    cases extreme.symm.trans failed

end Reduction

namespace Transform

/-- Whether a transform gives a result for every decimal. -/
def IsTotal : Transform → Prop
  | replaceNaN _ | dropNegative => True
  | _ => False

theorem apply_failed {transform : Transform} {value : Value} {error : Error}
    (decimal : value.IsDecimal) (failed : transform.apply value = .error error) :
    ¬transform.IsTotal ∧ ∃ signal, error = .signal signal := by
  obtain ⟨x, rfl⟩ := decimal
  unfold apply at failed
  split at failed
  · rename_i concerned
    cases transform with
    | multiply | divide | round | flipSign => exact ⟨id, Value.decimalResult_failed failed⟩
    | replaceNaN => cases failed
    | dropNegative =>
      -- only what is no number cannot be compared with zero, and that is passed over
      obtain ⟨positive, compared⟩ := Value.decimals_ordered (x := .zero) rfl concerned
      have positive_eq : Value.isPositive (.decimal x) = .ok positive := compared
      simp only [change, positive_eq] at failed
      cases positive <;> cases failed
  · cases failed

end Transform

namespace Element

/-- Whether all values of an element are decimals. -/
def HoldsDecimals : Element → Prop
  | sample _ value | merged _ (.reduced value) => value.IsDecimal
  | merged _ (.pending values) => ∀ value ∈ values, value.IsDecimal
  | failure _ => True

variable {element : Element} {error : Error}

theorem reduce_failed {reduction : Reduction} (pending : element.isPending = true)
    (decimals : element.HoldsDecimals) (failed : element.reduce reduction = .error error) :
    reduction.skipsNaN = false ∧ ∃ signal, error = .signal signal := by
  unfold reduce at failed
  split at failed
  · rename_i stamp values
    split at failed
    · cases failed
    · rename_i first rest counted
      have inside : ∀ value ∈ first :: rest, value ∈ values := by
        rw [← counted]
        split
        · exact fun value member => (List.mem_filter.1 member).1
        · exact fun value member => member
      refine Reduction.apply_failed (fun value member => decimals value (inside value member))
        (map_failed failed) fun skips value member => ?_
      rw [← counted, if_pos skips] at member
      simpa using (List.mem_filter.1 member).2
  · rename_i other
    match element with
    | merged stamp (.pending values) => exact (other stamp values rfl).elim

theorem transform_failed {transform : Transform} (decimals : element.HoldsDecimals)
    (failed : element.transform transform = .error error) :
    ¬transform.IsTotal ∧ ∃ signal, error = .signal signal := by
  unfold Element.transform at failed
  split at failed
  · cases failed
  · exact Transform.apply_failed decimals (map_failed failed)
  · exact Transform.apply_failed decimals (map_failed failed)
  · obtain ⟨value, member, failed⟩ := mapM_failed (map_failed failed)
    exact Transform.apply_failed (decimals value member) failed

end Element

/-- What a calculation does to each element, unless its argument cannot be used. -/
def Calculation.change : Calculation → Except Error (Element → Except Error Element)
  | .reduction how => .ok (Element.reduce how)
  | .adjustment asked => asked.transform.map Element.transform

/-- Whether a calculation gives a result for all decimals. -/
def Calculation.IsTotal : Calculation → Prop
  | .reduction how => how.skipsNaN = true
  | .adjustment (.replaceNaN _) | .adjustment .dropNegative => True
  | .adjustment _ => False

/-- A calculation that gives a result for all decimals has a transform that does. -/
theorem Adjustment.isTotal_transform {adjustment : Adjustment} {transform : Transform}
    (found : adjustment.transform = .ok transform)
    (total : Calculation.IsTotal (.adjustment adjustment)) : transform.IsTotal := by
  cases adjustment with
  | replaceNaN replacement =>
    obtain ⟨x, -, rfl⟩ := map_succeeded found
    trivial
  | dropNegative =>
    cases found
    trivial
  | multiply | divide | round | flipSign => exact total.elim

/-- How a calculation of samples fails, and what it leaves of them. -/
inductive Samples.FailsInto (samples : Samples) (calculation : Calculation) (error : Error) :
    Samples → Prop
  | unusable (refused : calculation.change = .error error) :
      FailsInto samples calculation error samples
  | unmerged {reduction : Reduction} {element : Element}
      (reduces : calculation = .reduction reduction) (member : element ∈ samples.elements)
      (single : element.isPending = false) (named : error = .notMerged element.literal) :
      FailsInto samples calculation error samples
  /-- The elements before one that cannot be changed are changed. -/
  | stopped {change : Element → Except Error Element} {done : List Element} {stuck : Element}
      {rest changed : List Element} (usable : calculation.change = .ok change)
      (merged : ∀ reduction, calculation = .reduction reduction →
        ∀ element ∈ samples.elements, element.isPending = true)
      (split : samples.elements = done ++ stuck :: rest)
      (changes : done.mapM change = .ok changed) (reason : change stuck = .error error) :
      FailsInto samples calculation error { samples with elements := changed ++ stuck :: rest }

namespace Samples

variable {samples left : Samples} {calculation : Calculation} {error : Error}

theorem failsInto_of_changed {change : Element → Except Error Element}
    (usable : calculation.change = .ok change)
    (merged : ∀ reduction, calculation = .reduction reduction →
      ∀ element ∈ samples.elements, element.isPending = true)
    (failed : (samples.changed change).error = some error) :
    samples.FailsInto calculation error (samples.changed change).samples := by
  obtain ⟨done, stuck, rest, altered, split, changes, reason, left⟩ := changeEach_failed failed
  have elements : (samples.changed change).samples =
      { samples with elements := altered ++ stuck :: rest } := by
    simp only [changed, left]
  rw [elements]
  exact .stopped usable merged split changes reason

theorem calculate_failed (failed : (samples.calculate calculation).error = some error) :
    samples.FailsInto calculation error (samples.calculate calculation).samples := by
  cases calculation with
  | reduction reduction =>
    simp only [calculate, reduce] at failed ⊢
    split at failed
    · rename_i element found
      cases failed
      exact .unmerged rfl (List.mem_of_find?_eq_some found) (by simpa using List.find?_some found)
        rfl
    · rename_i all
      refine failsInto_of_changed rfl (fun _ _ => ?_) failed
      simpa using List.find?_eq_none.1 all
  | adjustment adjustment =>
    simp only [calculate, adjust] at failed ⊢
    cases found : adjustment.transform with
    | error refusal =>
      rw [found] at failed
      cases failed
      exact .unusable (by rw [Calculation.change, found, Except.map])
    | ok transform =>
      rw [found] at failed
      refine failsInto_of_changed (by rw [Calculation.change, found, Except.map]) ?_ failed
      intro reduction other
      cases other

/-- Among decimals, a calculation that stops at an element has met a signal. -/
theorem FailsInto.unchanged_or_signal
    (decimals : ∀ element ∈ samples.elements, element.HoldsDecimals)
    (fails : samples.FailsInto calculation error left) :
    left = samples ∨ ¬calculation.IsTotal ∧ ∃ signal, error = .signal signal := by
  cases fails with
  | unusable | unmerged => exact .inl rfl
  | @stopped change done stuck rest changed usable merged split changes reason =>
    have member : stuck ∈ samples.elements := by simp [split]
    cases calculation with
    | reduction reduction =>
      cases usable
      obtain ⟨skips, signalled⟩ :=
        Element.reduce_failed (merged reduction rfl stuck member) (decimals stuck member) reason
      exact .inr ⟨by simp [Calculation.IsTotal, skips], signalled⟩
    | adjustment adjustment =>
      obtain ⟨transform, found, rfl⟩ := map_succeeded usable
      obtain ⟨partly, signalled⟩ := Element.transform_failed (decimals stuck member) reason
      exact .inr ⟨fun total => partly (Adjustment.isTotal_transform found total), signalled⟩

/-- What a calculation that fails leaves: everything as it was, or the elements before one that it
cannot change already changed. Decimals are all left as they were unless the failure is a signal,
and always by the calculations that give a result for every decimal. -/
theorem failedCalculation_leaves (failed : (samples.calculate calculation).error = some error) :
    samples.FailsInto calculation error (samples.calculate calculation).samples ∧
      ((∀ element ∈ samples.elements, element.HoldsDecimals) →
        (calculation.IsTotal ∨ ∀ signal, error ≠ .signal signal) →
          (samples.calculate calculation).samples = samples) := by
  have fails := calculate_failed failed
  refine ⟨fails, fun decimals harmless => ?_⟩
  rcases fails.unchanged_or_signal decimals with same | ⟨partly, signal, signalled⟩
  · exact same
  · rcases harmless with total | other
    · exact absurd total partly
    · exact absurd signalled (other signal)

/-- A merged sample with values that have a sum, and a second element after it. -/
def sumThen (second : Element) : Samples :=
  ⟨[.merged 0 (.pending [.decimal (Decimal.ofInt 1), .decimal (Decimal.ofInt 2)]), second], []⟩

/-- A plain sample after a merged one has no sum to be taken, and nothing is changed. -/
theorem failedCalculation_leaves_plain :
    let samples := sumThen (.sample 1 (.decimal (Decimal.ofInt 5)))
    ∃ error, (samples.calculate (.reduction .sum)).error = some error ∧
      (samples.calculate (.reduction .sum)).samples = samples := by
  intro samples
  have failed : (samples.calculate (.reduction .sum)).error =
      some (.notMerged (Element.literal (.sample 1 (.decimal (Decimal.ofInt 5))))) := rfl
  refine ⟨_, failed, (failedCalculation_leaves failed).2 ?_ (.inr nofun)⟩
  simp only [samples, sumThen, List.mem_cons, List.not_mem_nil, or_false]
  rintro _ (rfl | rfl)
  · simp [Element.HoldsDecimals, Value.IsDecimal]
  · exact ⟨_, rfl⟩

/-- The two infinities have no sum, and what stands before them has been summed up by then. A
product that is too large stops a multiplication in the same way. -/
theorem failedCalculation_changes :
    (let samples := sumThen
      (.merged 1 (.pending [.decimal (.infinite false), .decimal (.infinite true)]))
    let outcome := samples.calculate (.reduction .sum)
    outcome.error = some (.signal .invalidOperation) ∧
      outcome.samples.elements.head? = some (.merged 0 (.reduced (.decimal (Decimal.ofInt 3)))) ∧
      outcome.samples ≠ samples) ∧
    let samples : Samples :=
      ⟨[.sample 0 (.decimal (Decimal.ofInt 1)), .sample 1 (.decimal (.finite false 9 999999))], []⟩
    let outcome := samples.calculate (.adjustment (.multiply (.int 10)))
    outcome.error = some (.signal .overflow) ∧
      outcome.samples.elements.head? = some (.sample 0 (.decimal (Decimal.ofInt 10))) ∧
      outcome.samples ≠ samples := by
  refine ⟨⟨rfl, rfl, fun same => ?_⟩, rfl, rfl, fun same => ?_⟩
  · cases congrArg (·.elements.head?) same
  · cases congrArg (·.elements.head?) same

end Samples

end CalendarSeries
