import CalendarSeries.Proofs.Decimal.Defined
import CalendarSeries.Proofs.Sample.Rounding
/-!
What runs of transforms touch. Elements keep their kinds, their order and their timestamps, lists of
values keep their lengths, marks of failure and metadata stay; each value changes by itself. A value
that is no number stays as it is until such values are replaced, and only they are replaced. Once
they are, no transform by a number brings one back.
-/
namespace CalendarSeries

theorem forall₂_trans {α β γ : Type} {first : α → β → Prop} {second : β → γ → Prop}
    {joint : α → γ → Prop} (joins : ∀ x y z, first x y → second y z → joint x z)
    {xs : List α} {ys : List β} {zs : List γ} (start : List.Forall₂ first xs ys)
    (next : List.Forall₂ second ys zs) : List.Forall₂ joint xs zs := by
  induction start generalizing zs with
  | nil =>
    cases next
    exact .nil
  | cons one _ ih =>
    cases next with
    | cons other others => exact .cons (joins _ _ _ one other) (ih others)

namespace Value

/-- Whether a value is read as a number, finite or infinite. -/
def ReadsAsNumber (value : Value) : Prop :=
  ∃ x, value.toDecimal = .ok x ∧ x.isNaN = false

variable {value result : Value}

theorem decimalLike?_isNaN {x : Decimal} (number : value.isNaN = false)
    (found : value.decimalLike? = some x) : x.isNaN = false := by
  unfold decimalLike? at found
  split at found
  · cases found
    exact number
  · obtain ⟨n, -, rfl⟩ := Option.map_eq_some_iff.1 found
    rfl

theorem decimalResult_isNaN {outcome : Except Decimal.Signal Decimal}
    (each : ∀ x, outcome = .ok x → x.isNaN = false)
    (succeeded : decimalResult outcome = .ok result) : result.isNaN = false := by
  cases outcome with
  | error => cases succeeded
  | ok x =>
    cases succeeded
    exact each x rfl

theorem opposite_isNaN (number : value.isNaN = false) (succeeded : value.opposite = .ok result) :
    result.isNaN = false := by
  unfold opposite at succeeded
  split at succeeded
  · exact decimalResult_isNaN (fun _ => Decimal.neg_isNaN number) succeeded
  · rename_i x
    cases succeeded
    cases x with
    | nan => cases number
    | finite | infinite => rfl
  · cases succeeded
    rfl
  · split at succeeded <;> cases succeeded
    rfl

end Value

namespace Transform

/-- Whether the factor of a transform is a number, if it has a factor. -/
def HasNumber : Transform → Prop
  | multiply factor | divide factor => factor.isNaN = false
  | _ => True

variable {transform : Transform} {value result : Value}

theorem apply_nan (passes : transform.concernsNaN = false) (nan : value.isNaN = true) :
    transform.apply value = .ok value := by
  rw [apply, passes, nan, if_neg nofun]

theorem apply_replaceNaN (replacement : Decimal) :
    (replaceNaN replacement).apply value =
      .ok (if value.isNaN then .decimal replacement else value) := by
  rw [apply, concernsNaN]
  split <;> rfl

theorem change_isNaN (numeric : transform.HasNumber) (passes : transform.concernsNaN = false)
    (number : value.isNaN = false) (changed : transform.change value = .ok result) :
    result.isNaN = false := by
  cases transform with
  | multiply factor =>
    simp only [change, Value.times] at changed
    split at changed
    · rename_i x found
      have operand := Value.decimalLike?_isNaN number found
      exact Value.decimalResult_isNaN (fun _ => Decimal.mul_isNaN operand numeric) changed
    · cases changed
  | divide factor =>
    simp only [change, Value.dividedBy] at changed
    split at changed
    · rename_i x found
      have operand := Value.decimalLike?_isNaN number found
      exact Value.decimalResult_isNaN (fun _ => Decimal.div_isNaN operand numeric) changed
    · cases changed
  | round exponent =>
    simp only [change, Value.roundTo] at changed
    split at changed
    · exact Value.decimalResult_isNaN (fun _ => Decimal.quantize_isNaN number) changed
    · cases changed
  | replaceNaN => cases passes
  | dropNegative =>
    obtain ⟨positive, -, changed⟩ := bind_succeeded changed
    cases positive <;> cases changed
    · rfl
    · exact number
  | flipSign => exact Value.opposite_isNaN number changed

/-- A number stays one, unless it is multiplied or divided by something else. -/
theorem apply_isNaN (numeric : transform.HasNumber) (number : value.isNaN = false)
    (applied : transform.apply value = .ok result) : result.isNaN = false := by
  unfold apply at applied
  split at applied
  · rename_i concerned
    exact change_isNaN numeric (concerned.symm.trans number) number applied
  · cases applied
    exact number

theorem rounding_ok {places : Int} (found : rounding places = .ok transform) :
    ∃ exponent, transform = round exponent := by
  unfold rounding at found
  split at found <;> cases found
  exact ⟨_, rfl⟩

theorem roundingOf_ok {places : Value} (found : roundingOf places = .ok transform) :
    ∃ exponent, transform = round exponent := by
  unfold roundingOf at found
  split at found
  · exact rounding_ok found
  · cases found
  · split at found
    · exact rounding_ok found
    · cases found

end Transform

namespace Adjustment

/-- Whether a transform replaces what is no number. -/
def ReplacesNaN : Adjustment → Prop
  | replaceNaN _ => True
  | _ => False

/-- Whether the factor of a transform is read as a number, if it has a factor. -/
def HasNumber : Adjustment → Prop
  | multiply factor | divide factor => factor.ReadsAsNumber
  | _ => True

variable {adjustment : Adjustment} {transform : Transform}

theorem division_ok {divisor : Value} (found : Transform.division divisor = .ok transform) :
    ∃ x, divisor.toDecimal = .ok x ∧ transform = .divide x := by
  obtain ⟨x, read, found⟩ := bind_succeeded found
  split at found <;> cases found
  exact ⟨x, read, rfl⟩

theorem concernsNaN (asked : adjustment.transform = .ok transform) :
    transform.concernsNaN = true ↔ adjustment.ReplacesNaN := by
  cases adjustment with
  | multiply factor =>
    obtain ⟨x, -, rfl⟩ := map_succeeded asked
    exact iff_of_false Bool.false_ne_true id
  | divide divisor =>
    obtain ⟨x, -, rfl⟩ := division_ok asked
    exact iff_of_false Bool.false_ne_true id
  | round places =>
    obtain ⟨exponent, rfl⟩ := Transform.roundingOf_ok asked
    exact iff_of_false Bool.false_ne_true id
  | replaceNaN replacement =>
    obtain ⟨x, -, rfl⟩ := map_succeeded asked
    exact iff_of_true rfl trivial
  | dropNegative | flipSign =>
    cases asked
    exact iff_of_false Bool.false_ne_true id

theorem HasNumber.of_asked (numeric : adjustment.HasNumber)
    (asked : adjustment.transform = .ok transform) : transform.HasNumber := by
  cases adjustment with
  | multiply factor =>
    obtain ⟨x, read, number⟩ := numeric
    obtain ⟨y, same, rfl⟩ := map_succeeded asked
    cases read.symm.trans same
    exact number
  | divide divisor =>
    obtain ⟨x, read, number⟩ := numeric
    obtain ⟨y, same, rfl⟩ := division_ok asked
    cases read.symm.trans same
    exact number
  | round places =>
    obtain ⟨exponent, rfl⟩ := Transform.roundingOf_ok asked
    trivial
  | replaceNaN replacement =>
    obtain ⟨x, -, rfl⟩ := map_succeeded asked
    trivial
  | dropNegative | flipSign =>
    cases asked
    trivial

end Adjustment

/-- What a run of transforms makes of a value. -/
inductive Value.RunsTo : List Adjustment → Value → Value → Prop
  | nil (value : Value) : RunsTo [] value value
  | cons {adjustment : Adjustment} {run : List Adjustment} {transform : Transform}
      {value changed result : Value} (asked : adjustment.transform = .ok transform)
      (applied : transform.apply value = .ok changed) (rest : RunsTo run changed result) :
      RunsTo (adjustment :: run) value result

namespace Value.RunsTo

variable {run before later : List Adjustment} {value result : Value}

/-- Until values that are no numbers are replaced, they stay. -/
theorem nan_kept (runs : RunsTo run value result)
    (passes : ∀ adjustment ∈ run, ¬adjustment.ReplacesNaN) (nan : value.isNaN = true) :
    result = value := by
  induction runs with
  | nil => rfl
  | @cons adjustment run transform value changed result asked applied rest ih =>
    obtain ⟨first, others⟩ := List.forall_mem_cons.1 passes
    have unconcerned := Bool.eq_false_iff.2 fun concerned =>
      first ((Adjustment.concernsNaN asked).1 concerned)
    cases (Transform.apply_nan unconcerned nan).symm.trans applied
    exact ih others nan

/-- Where values that are no numbers are replaced, the others stay. -/
theorem number_kept (runs : RunsTo run value result)
    (replaces : ∀ adjustment ∈ run, adjustment.ReplacesNaN) (number : value.isNaN = false) :
    result = value := by
  induction runs with
  | nil => rfl
  | @cons adjustment run transform value changed result asked applied rest ih =>
    obtain ⟨first, others⟩ := List.forall_mem_cons.1 replaces
    have concerned := (Adjustment.concernsNaN asked).2 first
    rw [Transform.apply, concerned, number, if_neg Bool.false_ne_true] at applied
    cases applied
    exact ih others number

theorem isNaN (runs : RunsTo run value result)
    (numeric : ∀ adjustment ∈ run, adjustment.HasNumber) (number : value.isNaN = false) :
    result.isNaN = false := by
  induction runs with
  | nil => exact number
  | cons asked applied rest ih =>
    obtain ⟨first, others⟩ := List.forall_mem_cons.1 numeric
    exact ih others (Transform.apply_isNaN (first.of_asked asked) number applied)

theorem split (runs : RunsTo (before ++ later) value result) :
    ∃ middle, RunsTo later middle result := by
  induction before generalizing value with
  | nil => exact ⟨value, runs⟩
  | cons adjustment before ih =>
    cases runs with
    | cons asked applied rest => exact ih rest

/-- After what is no number has been replaced by a number, there is a number. -/
theorem replaced (runs : RunsTo (before ++ .replaceNaN replacement :: later) value result)
    (given : replacement.ReadsAsNumber)
    (numeric : ∀ adjustment ∈ later, adjustment.HasNumber) : result.isNaN = false := by
  obtain ⟨x, read, number⟩ := given
  obtain ⟨middle, runs⟩ := runs.split
  cases runs with
  | cons asked applied rest =>
    obtain ⟨y, same, rfl⟩ := map_succeeded asked
    cases read.symm.trans same
    rw [Transform.apply_replaceNaN] at applied
    cases applied
    refine rest.isNaN numeric ?_
    split
    · exact number
    · rename_i other
      exact Bool.eq_false_iff.2 other

end Value.RunsTo

namespace Element

variable {element changed last : Element} {related other : Value → Value → Prop}

/-- An element whose transform succeeds is what its values become. -/
theorem becomes_of_transform {transform : Transform}
    (succeeded : element.transform transform = .ok changed) :
    element.Becomes (fun value result => transform.apply value = .ok result) changed := by
  unfold Element.transform at succeeded
  split at succeeded
  · cases succeeded
    exact .failure _
  · obtain ⟨result, one, rfl⟩ := map_succeeded succeeded
    exact .sample one
  · obtain ⟨result, one, rfl⟩ := map_succeeded succeeded
    exact .reduced one
  · obtain ⟨results, all, rfl⟩ := map_succeeded succeeded
    exact .pending (mapM_ok_iff.1 all)

theorem Becomes.refl (same : ∀ value, related value value) (element : Element) :
    element.Becomes related element := by
  match element with
  | .sample _ value => exact .sample (same value)
  | .merged _ (.reduced value) => exact .reduced (same value)
  | .merged _ (.pending values) => exact .pending (List.forall₂_same.2 fun value _ => same value)
  | .failure error => exact .failure error

theorem Becomes.trans {joint : Value → Value → Prop}
    (joins : ∀ value middle result, related value middle → other middle result →
      joint value result)
    (start : element.Becomes related changed) (next : changed.Becomes other last) :
    element.Becomes joint last := by
  cases start with
  | sample one =>
    cases next with
    | sample two => exact .sample (joins _ _ _ one two)
  | reduced one =>
    cases next with
    | reduced two => exact .reduced (joins _ _ _ one two)
  | pending all =>
    cases next with
    | pending others => exact .pending (forall₂_trans joins all others)
  | failure error =>
    cases next with
    | failure => exact .failure error

end Element

/-- Changes of which none fails. -/
theorem forall₂_of_changeEach {change : Element → Except Error Element}
    {elements : List Element} (finished : (changeEach change elements).2 = none) :
    List.Forall₂ (fun element result => change element = .ok result) elements
      (changeEach change elements).1 := by
  induction elements with
  | nil => exact .nil
  | cons element rest ih =>
    rw [changeEach_error] at finished
    rw [changeEach_cons]
    cases step : change element with
    | error =>
      rw [step] at finished
      cases finished
    | ok changed =>
      rw [step] at finished
      exact .cons step (ih finished)

namespace Samples

/-- Whether a run of transforms succeeds, and what it leaves of the samples. -/
inductive RunsTo : List Adjustment → Samples → Samples → Prop
  | nil (samples : Samples) : RunsTo [] samples samples
  | cons {adjustment : Adjustment} {run : List Adjustment} {samples changed left : Samples}
      (adjusted : samples.adjust adjustment = ⟨changed, none⟩) (rest : RunsTo run changed left) :
      RunsTo (adjustment :: run) samples left

variable {samples changed left : Samples} {adjustment : Adjustment} {run : List Adjustment}

/-- A transform that succeeds changes each value by itself, and nothing else. -/
theorem adjust_becomes (adjusted : samples.adjust adjustment = ⟨changed, none⟩) :
    ∃ transform, adjustment.transform = .ok transform ∧ changed.metadata = samples.metadata ∧
      List.Forall₂ (Element.Becomes fun value result => transform.apply value = .ok result)
        samples.elements changed.elements := by
  unfold adjust at adjusted
  split at adjusted
  · rename_i transform asked
    rw [Samples.transform, Samples.changed] at adjusted
    obtain ⟨rfl, finished⟩ := Outcome.mk.inj adjusted
    refine ⟨transform, asked, rfl, (forall₂_of_changeEach finished).imp fun _ _ => ?_⟩
    exact Element.becomes_of_transform
  · cases adjusted

/-- So does a whole run. -/
theorem RunsTo.becomes (runs : RunsTo run samples left) :
    left.metadata = samples.metadata ∧
      List.Forall₂ (Element.Becomes (Value.RunsTo run)) samples.elements left.elements := by
  induction runs with
  | nil samples =>
    exact ⟨rfl, List.forall₂_same.2 fun element _ => .refl Value.RunsTo.nil element⟩
  | cons adjusted _ ih =>
    obtain ⟨transform, asked, kept, step⟩ := adjust_becomes adjusted
    obtain ⟨later, rest⟩ := ih
    refine ⟨later.trans kept, forall₂_trans (fun element middle last first next => ?_) step rest⟩
    refine first.trans ?_ next
    exact fun _ _ _ => Value.RunsTo.cons asked

/-- A run of transforms keeps the metadata and the order of the elements, and of each element the
kind, the timestamp and the number of values, and marks of failure altogether. Values that are no
numbers stay until such values are replaced, which changes no others. Once they are replaced by a
number, there are only numbers, and transforms by numbers keep it so. -/
theorem adjusted_touches (runs : RunsTo run samples left) :
    left.metadata = samples.metadata ∧
      List.Forall₂ (Element.Becomes fun value result =>
        ((∀ adjustment ∈ run, ¬adjustment.ReplacesNaN) → value.isNaN = true → result = value) ∧
        ((∀ adjustment ∈ run, adjustment.ReplacesNaN) → value.isNaN = false → result = value))
        samples.elements left.elements ∧
      ∀ before replacement later, run = before ++ .replaceNaN replacement :: later →
        replacement.ReadsAsNumber → (∀ adjustment ∈ later, adjustment.HasNumber) →
        ∀ value ∈ left.values, value.isNaN = false := by
  obtain ⟨kept, becomes⟩ := runs.becomes
  refine ⟨kept, becomes.imp fun _ _ => ?_, ?_⟩
  · exact .imp fun _ _ alone => ⟨alone.nan_kept, alone.number_kept⟩
  · rintro before replacement later rfl given numeric value member
    have alone : List.Forall₂ (Value.RunsTo _) samples.values left.values :=
      List.rel_flatMap becomes fun _ _ => Element.Becomes.values
    obtain ⟨origin, alone⟩ := exists_of_mem_forall₂ alone member
    exact alone.replaced given numeric

/-- Samples of every kind, with values that are no numbers among them. -/
def gaps : Samples where
  elements := [.sample 0 (.decimal (.nan true false 7)),
    .merged 1 (.pending [.decimal (.infinite true), .decimal .notANumber,
      .decimal (.finite false 25 (-1))]),
    .failure .noTimestamps, .merged 2 (.reduced (.decimal (.nan false true 0)))]
  metadata := [(.text "key", .text "energy")]

/-- Gaps outlast a multiplication by an infinite number, and are gone after a replacement. -/
theorem adjusted_touches_gaps :
    let run := [.multiply (.decimal (.infinite false)), .replaceNaN (.int 4), .flipSign,
      .divide (.int 8), .dropNegative]
    ∃ left, RunsTo run gaps left ∧
      left.elements = [.sample 0 (.decimal .zero),
        .merged 1 (.pending [.decimal (.infinite false), .decimal .zero, .decimal .zero]),
        .failure .noTimestamps, .merged 2 (.reduced (.decimal .zero))] ∧
      left.metadata = gaps.metadata ∧ ∀ value ∈ left.values, value.isNaN = false := by
  intro run
  have runs : RunsTo run gaps _ :=
    .cons rfl (.cons rfl (.cons rfl (.cons rfl (.cons rfl (.nil _)))))
  obtain ⟨kept, -, numbers⟩ := adjusted_touches runs
  refine ⟨_, runs, rfl, kept, numbers [_] _ [_, _, _] rfl ⟨_, rfl, rfl⟩ ?_⟩
  intro adjustment member
  simp only [List.mem_cons, List.not_mem_nil, or_false] at member
  rcases member with rfl | rfl | rfl
  · trivial
  · exact ⟨_, rfl, rfl⟩
  · trivial

end Samples

end CalendarSeries
