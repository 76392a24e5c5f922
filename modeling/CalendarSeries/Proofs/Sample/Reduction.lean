import CalendarSeries.Proofs.Outcome
import CalendarSeries.Proofs.Sample.Merge
import CalendarSeries.Sample.Calculation
/-!
How often a merged sequence is reduced. A transform keeps the timestamps of a sequence, and how many
values each element has, so only a reduction leaves single values. Once it has left one, all further
reductions are refused. Where no list was among the values that were merged, a reduction that
changes anything leaves a single value, so it is the last one.
-/
namespace CalendarSeries

namespace Value

/-- How many items a list has; nothing for a value that is no list. -/
def listLength? : Value → Option Nat
  | list items => some items.length
  | _ => Option.none

/-- Whether a value is no list. -/
abbrev IsScalar (value : Value) : Prop :=
  value.listLength? = Option.none

variable {value other result : Value}

theorem decimalResult_scalar {outcome : Except Decimal.Signal Decimal}
    (succeeded : decimalResult outcome = .ok result) : result.IsScalar := by
  unfold decimalResult at succeeded
  split at succeeded <;> cases succeeded
  rfl

theorem twice_scalar (scalar : value.IsScalar) (succeeded : value.twice = .ok result) :
    result.IsScalar := by
  unfold twice at succeeded
  split at succeeded
  · exact decimalResult_scalar succeeded
  · cases succeeded
    rfl
  · cases succeeded
    rfl
  · cases scalar
  · cases succeeded
    rfl
  · cases succeeded
    rfl
  · split at succeeded <;> cases succeeded <;> rfl

theorem minus_scalar (succeeded : value.minus other = .ok result) : result.IsScalar := by
  unfold minus at succeeded
  split at succeeded
  · cases succeeded
    rfl
  · split at succeeded
    · exact decimalResult_scalar succeeded
    · split at succeeded <;> cases succeeded
      rfl

theorem foldlM_minus_scalar {total result : Value} {values : List Value}
    (scalar : total.IsScalar) (succeeded : values.foldlM minus total = .ok result) :
    result.IsScalar := by
  induction values generalizing total with
  | nil =>
    cases succeeded
    exact scalar
  | cons value values ih =>
    rw [List.foldlM_cons] at succeeded
    obtain ⟨difference, minus, succeeded⟩ := bind_succeeded succeeded
    exact ih (minus_scalar minus) succeeded

theorem extreme_mem {before : Value → Value → Except Error Bool} {first : Value}
    {rest : List Value} (succeeded : extreme before first rest = .ok result) :
    result ∈ first :: rest := by
  induction rest generalizing first with
  | nil =>
    cases succeeded
    exact List.mem_cons_self
  | cons value values ih =>
    obtain ⟨lower, -, succeeded⟩ := bind_succeeded succeeded
    cases lower with
    | true => exact List.mem_cons_of_mem _ (ih succeeded)
    | false =>
      rcases List.mem_cons.1 (ih succeeded) with rfl | later
      · exact List.mem_cons_self
      · exact List.mem_cons_of_mem _ (List.mem_cons_of_mem _ later)

end Value

/-- What is left of values that are no lists is none either. -/
theorem Reduction.apply_scalar {reduction : Reduction} {first result : Value} {rest : List Value}
    (scalars : ∀ value ∈ first :: rest, value.IsScalar)
    (succeeded : reduction.apply first rest = .ok result) : result.IsScalar := by
  cases reduction with
  | sum =>
    obtain ⟨total, -, succeeded⟩ := bind_succeeded succeeded
    cases succeeded
    rfl
  | average =>
    obtain ⟨total, -, succeeded⟩ := bind_succeeded succeeded
    exact Value.decimalResult_scalar succeeded
  | subtract =>
    obtain ⟨doubled, twice, succeeded⟩ := bind_succeeded succeeded
    exact Value.foldlM_minus_scalar
      (Value.twice_scalar (scalars first List.mem_cons_self) twice) succeeded
  | minimum => exact scalars result (Value.extreme_mem succeeded)
  | maximum => exact scalars result (Value.extreme_mem succeeded)

theorem Transform.change_scalar {transform : Transform} {value result : Value}
    (scalar : value.IsScalar) (succeeded : transform.change value = .ok result) :
    result.IsScalar := by
  cases transform with
  | multiply factor =>
    simp only [change, Value.times] at succeeded
    split at succeeded
    · exact Value.decimalResult_scalar succeeded
    · cases succeeded
  | divide factor =>
    simp only [change, Value.dividedBy] at succeeded
    split at succeeded
    · exact Value.decimalResult_scalar succeeded
    · cases succeeded
  | round exponent =>
    simp only [change, Value.roundTo] at succeeded
    split at succeeded
    · exact Value.decimalResult_scalar succeeded
    · cases succeeded
  | replaceNaN replacement =>
    cases succeeded
    rfl
  | dropNegative =>
    obtain ⟨positive, -, succeeded⟩ := bind_succeeded succeeded
    cases positive <;> cases succeeded
    · rfl
    · exact scalar
  | flipSign =>
    simp only [change, Value.opposite] at succeeded
    split at succeeded
    · exact Value.decimalResult_scalar succeeded
    · cases succeeded
      rfl
    · cases succeeded
      rfl
    · split at succeeded <;> cases succeeded
      rfl

theorem Transform.apply_scalar {transform : Transform} {value result : Value}
    (scalar : value.IsScalar) (succeeded : transform.apply value = .ok result) :
    result.IsScalar := by
  unfold apply at succeeded
  split at succeeded
  · exact change_scalar scalar succeeded
  · cases succeeded
    exact scalar

section Changing

variable {change : Element → Except Error Element} {elements : List Element}
  {property : Element → Prop}

theorem changeEach_cons (element : Element) (rest : List Element) :
    (changeEach change (element :: rest)).1 =
      match change element with
      | .error _ => element :: rest
      | .ok changed => changed :: (changeEach change rest).1 := by
  rw [changeEach]
  cases change element <;> rfl

theorem forall_changeEach (holds : ∀ element ∈ elements, property element)
    (kept : ∀ element changed, property element → change element = .ok changed →
      property changed) :
    ∀ element ∈ (changeEach change elements).1, property element := by
  induction elements with
  | nil => exact holds
  | cons element rest ih =>
    have later := ih fun other member => holds other (List.mem_cons_of_mem _ member)
    rw [changeEach_cons]
    cases step : change element with
    | error => exact holds
    | ok changed =>
      intro other member
      rcases List.mem_cons.1 member with rfl | member
      · exact kept element _ (holds element List.mem_cons_self) step
      · exact later other member

/-- What no change of an element affects stays as it was in the whole list. -/
theorem map_changeEach {α : Type} {aspect : Element → α}
    (holds : ∀ element ∈ elements, property element)
    (same : ∀ element changed, property element → change element = .ok changed →
      aspect changed = aspect element) :
    (changeEach change elements).1.map aspect = elements.map aspect := by
  induction elements with
  | nil => rfl
  | cons element rest ih =>
    have later := ih fun other member => holds other (List.mem_cons_of_mem _ member)
    rw [changeEach_cons]
    cases step : change element with
    | error => rfl
    | ok changed =>
      dsimp only
      rw [List.map_cons, List.map_cons, later,
        same element changed (holds element List.mem_cons_self) step]

end Changing

namespace Element

/-- The timestamp of an element, and how many values it has if they are a list. -/
def shape (element : Element) : Option (Int × Option Nat) :=
  element.reading?.map fun (stamp, value) => (stamp, value.listLength?)

/-- Whether an element comes of a merge: a list of values, or a single one that is no list. -/
def IsMerged : Element → Prop
  | merged _ (.pending _) => True
  | merged _ (.reduced value) => value.IsScalar
  | _ => False

/-- Whether no list is among the values of an element. -/
def IsFlat : Element → Prop
  | merged _ (.pending values) => ∀ value ∈ values, value.IsScalar
  | merged _ (.reduced value) => value.IsScalar
  | _ => False

variable {element changed : Element}

theorem reduce_succeeded {reduction : Reduction}
    (succeeded : element.reduce reduction = .ok changed) :
    changed = element ∨ ∃ stamp values first rest value,
      element = merged stamp (.pending values) ∧ (∀ item ∈ first :: rest, item ∈ values) ∧
      reduction.apply first rest = .ok value ∧ changed = merged stamp (.ofValue value) := by
  unfold reduce at succeeded
  split at succeeded
  · rename_i stamp values
    split at succeeded
    · cases succeeded
      exact .inl rfl
    · rename_i first rest counted
      obtain ⟨value, applied, rfl⟩ := map_succeeded succeeded
      refine .inr ⟨stamp, values, first, rest, value, rfl, ?_, applied, rfl⟩
      rw [← counted]
      split
      · exact fun item member => (List.mem_filter.1 member).1
      · exact fun item member => member
  · cases succeeded

theorem IsMerged.reduce {reduction : Reduction} (merged : element.IsMerged)
    (succeeded : element.reduce reduction = .ok changed) : changed.IsMerged := by
  rcases reduce_succeeded succeeded with rfl | ⟨_, _, _, _, value, rfl, -, -, rfl⟩
  · exact merged
  · cases value <;> first | exact trivial | rfl

/-- A reduction leaves a single value of an element, or the element as it was. -/
theorem IsFlat.reduce {reduction : Reduction} (flat : element.IsFlat)
    (succeeded : element.reduce reduction = .ok changed) :
    changed.IsFlat ∧ (changed = element ∨ changed.isPending = false) := by
  rcases reduce_succeeded succeeded with rfl | ⟨stamp, values, _, _, value, rfl, held, applied, rfl⟩
  · exact ⟨flat, .inl rfl⟩
  · have scalar := Reduction.apply_scalar (fun item member => flat item (held item member)) applied
    have single : Entry.ofValue value = .reduced value := by
      cases value <;> first | rfl | cases scalar
    rw [single]
    exact ⟨scalar, .inr rfl⟩

theorem transform_shape {transform : Transform} (merged : element.IsMerged)
    (succeeded : element.transform transform = .ok changed) :
    changed.shape = element.shape ∧ changed.isPending = element.isPending := by
  unfold Element.transform at succeeded
  split at succeeded
  · cases succeeded
    exact ⟨rfl, rfl⟩
  · exact merged.elim
  · rename_i value
    obtain ⟨result, applied, rfl⟩ := map_succeeded succeeded
    have scalar : value.IsScalar := merged
    have after : result.IsScalar := Transform.apply_scalar scalar applied
    refine ⟨?_, rfl⟩
    simp only [shape, reading?, Entry.value, Option.map_some]
    rw [show result.listLength? = none from after, show value.listLength? = none from scalar]
  · obtain ⟨results, applied, rfl⟩ := map_succeeded succeeded
    refine ⟨?_, rfl⟩
    simp only [shape, reading?, Entry.value, Option.map_some, Value.listLength?,
      length_of_mapM applied]

theorem IsMerged.transform {transform : Transform} (merged : element.IsMerged)
    (succeeded : element.transform transform = .ok changed) : changed.IsMerged := by
  unfold Element.transform at succeeded
  split at succeeded
  · exact merged.elim
  · exact merged.elim
  · obtain ⟨result, applied, rfl⟩ := map_succeeded succeeded
    exact Transform.apply_scalar merged applied
  · obtain ⟨results, -, rfl⟩ := map_succeeded succeeded
    exact trivial

theorem IsFlat.transform {transform : Transform} (flat : element.IsFlat)
    (succeeded : element.transform transform = .ok changed) : changed.IsFlat := by
  unfold Element.transform at succeeded
  split at succeeded
  · exact flat.elim
  · exact flat.elim
  · obtain ⟨result, applied, rfl⟩ := map_succeeded succeeded
    exact Transform.apply_scalar flat applied
  · obtain ⟨results, applied, rfl⟩ := map_succeeded succeeded
    intro result member
    obtain ⟨value, there, applied⟩ := exists_of_mem_mapM applied member
    exact Transform.apply_scalar (flat value there) applied

end Element

/-- A transform as it is asked for, with its argument. -/
inductive Adjustment where
  | multiply (factor : Value)
  | divide (divisor : Value)
  | round (places : Value)
  | replaceNaN (replacement : Value)
  | dropNegative
  | flipSign

/-- The transform that is asked for, if the argument gives one. -/
def Adjustment.transform : Adjustment → Except Error Transform
  | multiply factor => Transform.multiplication factor
  | divide divisor => Transform.division divisor
  | round places => Transform.roundingOf places
  | replaceNaN replacement => Transform.replacement replacement
  | dropNegative => .ok .dropNegative
  | flipSign => .ok .flipSign

/-- A calculation on a sequence of samples. -/
inductive Calculation where
  | reduction (reduction : Reduction)
  | adjustment (adjustment : Adjustment)

namespace Samples

def adjust (adjustment : Adjustment) (samples : Samples) : Outcome :=
  match adjustment.transform with
  | .ok transform => samples.transform transform
  | .error error => ⟨samples, some error⟩

def calculate (samples : Samples) : Calculation → Outcome
  | .reduction reduction => samples.reduce reduction
  | .adjustment adjustment => samples.adjust adjustment

/-- What is left of samples after a run of calculations, those that fail included. -/
def after (samples : Samples) (calculations : List Calculation) : Samples :=
  calculations.foldl (fun samples calculation => (samples.calculate calculation).samples) samples

/-- Whether any element holds something else than a list of values. -/
def IsReduced (samples : Samples) : Prop :=
  ∃ element ∈ samples.elements, element.isPending = false

/-- Whether a reduction is refused, with nothing changed. -/
def Refuses (samples : Samples) (reduction : Reduction) : Prop :=
  (samples.reduce reduction).samples = samples ∧
    ∃ error, (samples.reduce reduction).error = some error ∧ error.kind = .calculation

variable {samples : Samples} {property : Element → Prop}

section Kept

variable (reduced : ∀ (reduction : Reduction) (element changed : Element), property element →
    element.reduce reduction = .ok changed → property changed)
  (transformed : ∀ (transform : Transform) (element changed : Element), property element →
    element.transform transform = .ok changed → property changed)

include reduced transformed

theorem forall_calculate (holds : ∀ element ∈ samples.elements, property element)
    (calculation : Calculation) :
    ∀ element ∈ (samples.calculate calculation).samples.elements, property element := by
  cases calculation with
  | reduction reduction =>
    rw [calculate, reduce]
    split
    · exact holds
    · exact forall_changeEach holds (reduced reduction)
  | adjustment adjustment =>
    rw [calculate, adjust]
    split
    · exact forall_changeEach holds (transformed _)
    · exact holds

/-- What each reduction and each transform of an element keeps is kept by every run. -/
theorem forall_after (holds : ∀ element ∈ samples.elements, property element)
    (calculations : List Calculation) :
    ∀ element ∈ (samples.after calculations).elements, property element := by
  induction calculations generalizing samples with
  | nil => exact holds
  | cons calculation rest ih => exact ih (forall_calculate reduced transformed holds calculation)

end Kept

theorem merged_after (merged : ∀ element ∈ samples.elements, element.IsMerged)
    (calculations : List Calculation) :
    ∀ element ∈ (samples.after calculations).elements, element.IsMerged :=
  forall_after (fun _ _ _ => Element.IsMerged.reduce) (fun _ _ _ => Element.IsMerged.transform)
    merged calculations

theorem flat_after (flat : ∀ element ∈ samples.elements, element.IsFlat)
    (calculations : List Calculation) :
    ∀ element ∈ (samples.after calculations).elements, element.IsFlat :=
  forall_after (fun _ _ _ flat succeeded => (Element.IsFlat.reduce flat succeeded).1)
    (fun _ _ _ => Element.IsFlat.transform) flat calculations

/-- A transform of a merged sequence keeps its timestamps, and how many values each element has. -/
theorem adjust_shape (merged : ∀ element ∈ samples.elements, element.IsMerged)
    (adjustment : Adjustment) :
    (samples.adjust adjustment).samples.elements.map Element.shape =
        samples.elements.map Element.shape ∧
      (samples.adjust adjustment).samples.elements.map Element.isPending =
        samples.elements.map Element.isPending := by
  unfold adjust
  split
  · exact ⟨map_changeEach merged fun _ _ merged succeeded =>
        (Element.transform_shape merged succeeded).1,
      map_changeEach merged fun _ _ merged succeeded =>
        (Element.transform_shape merged succeeded).2⟩
  · exact ⟨rfl, rfl⟩

theorem reduce_of_isReduced (reduced : samples.IsReduced) (reduction : Reduction) :
    ∃ shown, samples.reduce reduction = ⟨samples, some (.notMerged shown)⟩ := by
  obtain ⟨element, member, single⟩ := reduced
  unfold reduce
  split
  · exact ⟨_, rfl⟩
  · rename_i pending
    have := List.find?_eq_none.1 pending element member
    simp [single] at this

theorem IsReduced.refuses (reduced : samples.IsReduced) (reduction : Reduction) :
    samples.Refuses reduction := by
  obtain ⟨shown, refused⟩ := reduce_of_isReduced reduced reduction
  unfold Refuses
  rw [refused]
  exact ⟨rfl, _, rfl, rfl⟩

theorem IsReduced.calculate (reduced : samples.IsReduced)
    (merged : ∀ element ∈ samples.elements, element.IsMerged) (calculation : Calculation) :
    (samples.calculate calculation).samples.IsReduced := by
  cases calculation with
  | reduction reduction =>
    rw [Samples.calculate, (reduced.refuses reduction).1]
    exact reduced
  | adjustment adjustment =>
    obtain ⟨element, member, single⟩ := reduced
    have there := List.mem_map_of_mem (f := Element.isPending) member
    rw [← (adjust_shape merged adjustment).2, single] at there
    obtain ⟨other, inside, same⟩ := List.mem_map.1 there
    exact ⟨other, inside, same⟩

theorem IsReduced.after (reduced : samples.IsReduced)
    (merged : ∀ element ∈ samples.elements, element.IsMerged) (calculations : List Calculation) :
    (samples.after calculations).IsReduced := by
  induction calculations generalizing samples with
  | nil => exact reduced
  | cons calculation rest ih =>
    exact ih (reduced.calculate merged calculation)
      (forall_calculate (fun _ _ _ => Element.IsMerged.reduce)
        (fun _ _ _ => Element.IsMerged.transform) merged calculation)

/-- Elements without lists among their values change only to single values. -/
theorem exists_single {reduction : Reduction} {elements : List Element}
    (flat : ∀ element ∈ elements, element.IsFlat)
    (other : (changeEach (Element.reduce reduction) elements).1 ≠ elements) :
    ∃ element ∈ (changeEach (Element.reduce reduction) elements).1, element.isPending = false := by
  induction elements with
  | nil => exact absurd rfl other
  | cons element rest ih =>
    rw [changeEach_cons] at other ⊢
    cases step : element.reduce reduction with
    | error =>
      rw [step] at other
      exact absurd rfl other
    | ok changed =>
      rw [step] at other
      rcases ((flat element List.mem_cons_self).reduce step).2 with rfl | single
      · have later : (changeEach (Element.reduce reduction) rest).1 ≠ rest := fun same =>
          other (by rw [same])
        obtain ⟨found, member, single⟩ :=
          ih (fun other member => flat other (List.mem_cons_of_mem _ member)) later
        exact ⟨found, List.mem_cons_of_mem _ member, single⟩
      · exact ⟨changed, List.mem_cons_self, single⟩

theorem isReduced_of_changed {reduction : Reduction}
    (flat : ∀ element ∈ samples.elements, element.IsFlat)
    (other : (samples.reduce reduction).samples ≠ samples) :
    (samples.reduce reduction).samples.IsReduced := by
  unfold reduce at other ⊢
  split at other
  · exact absurd rfl other
  · refine exists_single flat fun same => other ?_
    exact congrArg (Samples.mk · samples.metadata) same

theorem merge_isMerged (policy : MergePolicy) (sets : List Samples) :
    ∀ element ∈ (merge policy sets).elements, element.IsMerged := by
  intro element member
  obtain ⟨stamp, rfl⟩ := merged_of_mem_merge member
  exact trivial

theorem merge_isFlat (policy : MergePolicy) {sets : List Samples}
    (scalars : ∀ samples ∈ sets, ∀ reading ∈ samples.readings, reading.2.IsScalar) :
    ∀ element ∈ (merge policy sets).elements, element.IsFlat := by
  intro element member
  obtain ⟨stamp, rfl⟩ := merged_of_mem_merge member
  intro value held
  obtain ⟨samples, inside, read⟩ := exists_of_mem_valuesAt held
  exact scalars samples inside (stamp, value) read

/-- A merged sequence keeps its timestamps and the numbers of its values in every transform, and
once any of its elements is a single value, it refuses all reductions. If no list was among the
values that were merged, the first reduction that changes anything brings this about. -/
theorem merge_reducedOnce (policy : MergePolicy) (sets : List Samples) :
    (∀ (run : List Calculation) (adjustment : Adjustment),
      let samples := (merge policy sets).after run
      (samples.adjust adjustment).samples.elements.map Element.shape =
        samples.elements.map Element.shape) ∧
    (∀ run later : List Calculation, ((merge policy sets).after run).IsReduced →
      ∀ again, (((merge policy sets).after run).after later).Refuses again) ∧
    ((∀ samples ∈ sets, ∀ reading ∈ samples.readings, reading.2.IsScalar) →
      ∀ (run : List Calculation) (reduction : Reduction),
        let samples := (merge policy sets).after run
        let changed := (samples.reduce reduction).samples
        changed ≠ samples → ∀ (later : List Calculation) (again : Reduction),
          (changed.after later).Refuses again) := by
  have merged (run : List Calculation) := merged_after (merge_isMerged policy sets) run
  refine ⟨fun run adjustment => (adjust_shape (merged run) adjustment).1,
    fun run later reduced again => (reduced.after (merged run) later).refuses again,
    fun scalars run reduction other later again => ?_⟩
  have flat := flat_after (merge_isFlat policy scalars) run
  have reduced := isReduced_of_changed flat other
  have left := forall_calculate (fun _ _ _ => Element.IsMerged.reduce)
    (fun _ _ _ => Element.IsMerged.transform) (merged run) (.reduction reduction)
  exact (reduced.after left later).refuses again

/-- A series with one sample, at the epoch. -/
def single (number : Int) : Samples :=
  ⟨[.sample 0 (.decimal (Decimal.ofInt number))], []⟩

/-- The smaller of two numbers is what a first reduction leaves. Its sign is changed, a division by
zero fails, and a second reduction is refused. -/
theorem merge_reducedOnce_minimum :
    let reduced := ((merge .keepAll [single 2, single 1]).reduce .minimum).samples
    reduced.elements = [.merged 0 (.reduced (.decimal (Decimal.ofInt 1)))] ∧
      (reduced.after [.adjustment .flipSign, .adjustment (.divide (.int 0))]).Refuses .sum := by
  intro reduced
  have scalars : ∀ samples ∈ [single 2, single 1], ∀ reading ∈ samples.readings,
      reading.2.IsScalar := by
    simp only [single, readings, List.mem_cons, List.not_mem_nil, or_false]
    rintro _ (rfl | rfl) reading member <;> cases List.mem_singleton.1 member <;> rfl
  have elements : reduced.elements = [.merged 0 (.reduced (.decimal (Decimal.ofInt 1)))] := rfl
  obtain ⟨-, -, once⟩ := merge_reducedOnce .keepAll [single 2, single 1]
  refine ⟨elements, once scalars [] .minimum ?_ _ _⟩
  intro same
  cases elements.symm.trans (congrArg Samples.elements same)

/-- Values that were merged before are a list among those that are merged. A first reduction leaves
that list, and a second one changes the sequence once more. -/
theorem merge_reducedTwice :
    let merged := merge .keepAll [merge .keepAll [single 2, single 1]]
    let once := merged.reduce .minimum
    let twice := once.samples.reduce .minimum
    merged.elements ≠ [] ∧ once.samples ≠ merged ∧ twice.samples ≠ once.samples ∧
      twice.error = none := by
  intro merged once twice
  have held : merged.elements = [.merged 0 (.pending
      [.list [.decimal (Decimal.ofInt 2), .decimal (Decimal.ofInt 1)]])] := rfl
  have listed : once.samples.elements = [.merged 0 (.pending
      [.decimal (Decimal.ofInt 2), .decimal (Decimal.ofInt 1)])] := rfl
  have single : twice.samples.elements =
      [.merged 0 (.reduced (.decimal (Decimal.ofInt 1)))] := rfl
  refine ⟨nofun, fun same => ?_, fun same => ?_, rfl⟩
  · cases (listed.symm.trans (congrArg Samples.elements same)).trans held
  · cases (single.symm.trans (congrArg Samples.elements same)).trans listed

end Samples

end CalendarSeries
