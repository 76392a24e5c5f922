import CalendarSeries.Proofs.Decimal.Order
import CalendarSeries.Proofs.Sample.Failure
/-!
Extremes of merged samples. The least or greatest of the values that are numbers is left of a merged
sample, and where none is a number, the values stay as they are. So it does not matter in which
order the sequences were merged: they have the same timestamps in any order, and the extremes at
each of them denote the same number.
-/
namespace CalendarSeries

namespace Value

theorem exists_decimals {values : List Value} (decimals : ∀ value ∈ values, value.IsDecimal) :
    ∃ xs : List Decimal, values = xs.map .decimal := by
  induction values with
  | nil => exact ⟨[], rfl⟩
  | cons value rest ih =>
    obtain ⟨⟨x, rfl⟩, others⟩ := List.forall_mem_cons.1 decimals
    obtain ⟨xs, rfl⟩ := ih others
    exact ⟨x :: xs, rfl⟩

theorem less_decimal {x y : Decimal} (number : x.isNaN = false) (other : y.isNaN = false) :
    less (.decimal x) (.decimal y) = .ok (decide (x.number < y.number)) := by
  rw [less]
  · change (x.less y).mapError Error.signal = _
    rw [Decimal.less_eq number other]
    rfl
  all_goals
    intro _ _ same
    cases same

/-- Where values are compared by a rank, one of the least rank is found. -/
theorem extreme_ranked {ρ : Type} [LinearOrder ρ] {rank : Decimal → ρ}
    {before : Value → Value → Except Error Bool} {first : Decimal} {rest : List Decimal}
    (ranked : ∀ x ∈ first :: rest, ∀ y ∈ first :: rest,
      before (.decimal x) (.decimal y) = .ok (decide (rank x < rank y))) :
    ∃ found ∈ first :: rest, extreme before (.decimal first) (rest.map .decimal) =
        .ok (.decimal found) ∧ ∀ y ∈ first :: rest, rank found ≤ rank y := by
  induction rest generalizing first with
  | nil => exact ⟨first, List.mem_cons_self, rfl, by simp⟩
  | cons next rest ih =>
    have compared := ranked next (by simp) first (by simp)
    rw [List.map_cons, extreme, compared]
    by_cases lower : rank next < rank first
    · obtain ⟨found, member, result, least⟩ := @ih next fun x inside y also =>
        ranked x (List.mem_cons_of_mem _ inside) y (List.mem_cons_of_mem _ also)
      rw [decide_eq_true lower]
      refine ⟨found, List.mem_cons_of_mem _ member, result, List.forall_mem_cons.2 ⟨?_, least⟩⟩
      exact (least next List.mem_cons_self).trans lower.le
    · obtain ⟨found, member, result, least⟩ := @ih first fun x inside y also =>
        ranked x (by grind) y (by grind)
      rw [decide_eq_false lower]
      refine ⟨found, by grind, result, ?_⟩
      obtain ⟨same, others⟩ := List.forall_mem_cons.1 least
      exact List.forall_mem_cons.2 ⟨same,
        List.forall_mem_cons.2 ⟨same.trans (not_lt.1 lower), others⟩⟩

end Value

/-- Whether one decimal is at least as extreme as another. -/
def Reduction.Prefers : Reduction → Decimal → Decimal → Prop
  | minimum, x, y => x.number ≤ y.number
  | maximum, x, y => y.number ≤ x.number
  | _, _, _ => False

variable {reduction : Reduction}

theorem Reduction.Prefers.antisymm {x y : Decimal} (one : reduction.Prefers x y)
    (other : reduction.Prefers y x) : x.number = y.number := by
  cases reduction with
  | minimum => exact le_antisymm one other
  | maximum => exact le_antisymm other one
  | sum | average | subtract => exact one.elim

theorem Reduction.apply_extreme (skips : reduction.skipsNaN = true) {first : Decimal}
    {rest : List Decimal} (numbers : ∀ x ∈ first :: rest, x.isNaN = false) :
    ∃ found ∈ first :: rest, reduction.apply (.decimal first) (rest.map .decimal) =
      .ok (.decimal found) ∧ ∀ y ∈ first :: rest, reduction.Prefers found y := by
  cases reduction with
  | minimum =>
    exact Value.extreme_ranked fun x inside y also =>
      Value.less_decimal (numbers x inside) (numbers y also)
  | maximum =>
    let rank (x : Decimal) := OrderDual.toDual x.number
    let before (x y : Value) := y.less x
    have ranked : ∀ x ∈ first :: rest, ∀ y ∈ first :: rest,
        before (.decimal x) (.decimal y) = .ok (decide (rank x < rank y)) :=
      fun x inside y also => Value.less_decimal (numbers y also) (numbers x inside)
    exact Value.extreme_ranked ranked
  | sum | average | subtract => cases skips

/-- What is left of decimals by an extreme: one of those that are numbers, than which none is more
extreme, or all of them if none is a number. -/
inductive Entry.IsExtreme (reduction : Reduction) (xs : List Decimal) : Entry → Prop
  | reached {x : Decimal} (member : x ∈ xs) (number : x.isNaN = false)
      (extreme : ∀ y ∈ xs, y.isNaN = false → reduction.Prefers x y) :
      IsExtreme reduction xs (.reduced (.decimal x))
  | undecided (none : ∀ x ∈ xs, x.isNaN = true) :
      IsExtreme reduction xs (.pending (xs.map .decimal))

/-- An extreme is left of every merged sample that holds decimals. -/
theorem Element.reduce_extreme (skips : reduction.skipsNaN = true) (stamp : Int)
    (xs : List Decimal) :
    ∃ entry, (merged stamp (.pending (xs.map .decimal))).reduce reduction =
      .ok (merged stamp entry) ∧ Entry.IsExtreme reduction xs entry := by
  have counted : (xs.map Value.decimal).filter (!·.isNaN) =
      (xs.filter (!·.isNaN)).map Value.decimal := List.filter_map
  rw [reduce, if_pos skips, counted]
  cases numbers : xs.filter (!·.isNaN) with
  | nil =>
    refine ⟨_, rfl, .undecided fun x member => ?_⟩
    simpa using List.filter_eq_nil_iff.1 numbers x member
  | cons first rest =>
    have inside (x : Decimal) : x ∈ first :: rest ↔ x ∈ xs ∧ x.isNaN = false := by
      rw [← numbers, List.mem_filter, Bool.not_eq_true']
    obtain ⟨found, member, applied, extreme⟩ :=
      Reduction.apply_extreme skips fun x member => ((inside x).1 member).2
    obtain ⟨among, number⟩ := (inside found).1 member
    refine ⟨.reduced (.decimal found), ?_, .reached among number fun y other numeric =>
      extreme y ((inside y).2 ⟨other, numeric⟩)⟩
    rw [List.map_cons]
    dsimp only
    rw [applied]
    rfl

namespace Entry

/-- What two orders of the same values leave: extremes that denote the same number, or as many
values of which none is a number. -/
inductive Agree : Entry → Entry → Prop
  | reached {x y : Decimal} (number : x.isNaN = false) (other : y.isNaN = false)
      (same : x.number = y.number) : Agree (.reduced (.decimal x)) (.reduced (.decimal y))
  | undecided {xs ys : List Decimal} (none : ∀ x ∈ xs, x.isNaN = true)
      (others : ∀ y ∈ ys, y.isNaN = true) (count : xs.length = ys.length) :
      Agree (.pending (xs.map .decimal)) (.pending (ys.map .decimal))

theorem IsExtreme.agree {xs ys : List Decimal} {one other : Entry}
    (first : IsExtreme reduction xs one) (second : IsExtreme reduction ys other)
    (reordered : xs.Perm ys) : one.Agree other := by
  cases first with
  | reached member number extreme =>
    cases second with
    | reached also numeric most =>
      exact .reached number numeric
        ((extreme _ (reordered.mem_iff.2 also) numeric).antisymm
          (most _ (reordered.mem_iff.1 member) number))
    | undecided none => cases number.symm.trans (none _ (reordered.mem_iff.1 member))
  | undecided none =>
    cases second with
    | reached also numeric => cases numeric.symm.trans (none _ (reordered.mem_iff.2 also))
    | undecided others => exact .undecided none others reordered.length_eq

end Entry

namespace Samples

variable {policy : MergePolicy} {sets others : List Samples}

theorem allStamps_perm (reordered : sets.Perm others) :
    (allStamps sets).Perm (allStamps others) := by
  refine (List.perm_ext_iff_of_nodup (nodup_eraseDups _) (nodup_eraseDups _)).2 fun stamp => ?_
  simp only [List.mem_eraseDups, List.mem_flatMap, reordered.mem_iff]

/-- Only the first sequence has a place of its own, where its timestamps decide. -/
theorem keeps_perm (reordered : sets.Perm others) (alike : policy ≠ .keepFirst) :
    policy.keeps sets = policy.keeps others := by
  funext stamp
  cases policy with
  | keepAll => exact reordered.any_eq
  | keepEqual => exact reordered.all_eq
  | keepFirst => exact absurd rfl alike

theorem reduce_ok {samples : Samples}
    (pending : ∀ element ∈ samples.elements, element.isPending = true) {reduced : List Element}
    (each : List.Forall₂ (fun element result => element.reduce reduction = .ok result)
      samples.elements reduced) :
    samples.reduce reduction = ⟨{ samples with elements := reduced }, none⟩ := by
  have all : samples.elements.find? (!·.isPending) = none := by
    rw [List.find?_eq_none]
    intro element member
    simp [pending element member]
  rw [reduce, all]
  dsimp only
  rw [changed, changeEach_ok each]

/-- Where decimals were merged, every merged sample is left with an extreme of its values. -/
theorem reduce_merge_extreme (policy : MergePolicy) (skips : reduction.skipsNaN = true)
    (decimals : ∀ samples ∈ sets, ∀ reading ∈ samples.readings, reading.2.IsDecimal) :
    ∃ (values : Int → List Decimal) (entry : Int → Entry),
      (∀ stamp, valuesAt sets stamp = (values stamp).map .decimal) ∧
      (∀ stamp, Entry.IsExtreme reduction (values stamp) (entry stamp)) ∧
      (merge policy sets).reduce reduction =
        ⟨{ merge policy sets with
            elements := ((allStamps sets).filter (policy.keeps sets)).map fun stamp =>
              .merged stamp (entry stamp) }, none⟩ := by
  have held (stamp : Int) : ∃ xs : List Decimal, valuesAt sets stamp = xs.map .decimal := by
    refine Value.exists_decimals fun value member => ?_
    obtain ⟨samples, inside, read⟩ := exists_of_mem_valuesAt member
    exact decimals samples inside _ read
  choose values held using held
  choose entry reduced extreme using fun stamp =>
    Element.reduce_extreme skips stamp (values stamp)
  refine ⟨values, entry, held, extreme, ?_⟩
  have pending : ∀ element ∈ (merge policy sets).elements, element.isPending = true := by
    intro element member
    obtain ⟨stamp, rfl⟩ := merged_of_mem_merge member
    rfl
  refine reduce_ok pending ?_
  rw [elements_merge, List.forall₂_map_left_iff, List.forall₂_map_right_iff, List.forall₂_same]
  intro stamp _
  rw [held]
  exact reduced stamp

/-- The extremes of merged sequences do not depend on the order in which the sequences are merged,
unless it decides which timestamps are kept. -/
theorem extreme_anyOrder (alike : policy ≠ .keepFirst) (skips : reduction.skipsNaN = true)
    (reordered : sets.Perm others)
    (decimals : ∀ samples ∈ sets, ∀ reading ∈ samples.readings, reading.2.IsDecimal) :
    let one := (merge policy sets).reduce reduction
    let other := (merge policy others).reduce reduction
    one.error = none ∧ other.error = none ∧ one.samples.stamps.Nodup ∧
      one.samples.stamps.Perm other.samples.stamps ∧
      ∀ element ∈ one.samples.elements, ∃ (stamp : Int) (xs : List Decimal) (entry entry' : Entry),
        element = .merged stamp entry ∧ .merged stamp entry' ∈ other.samples.elements ∧
        valuesAt sets stamp = xs.map .decimal ∧ Entry.IsExtreme reduction xs entry ∧
        entry.Agree entry' := by
  intro one other
  obtain ⟨values, entry, held, extreme, reduced⟩ := reduce_merge_extreme policy skips decimals
  obtain ⟨values', entry', held', extreme', reduced'⟩ :=
    reduce_merge_extreme policy skips fun samples member =>
      decimals samples (reordered.mem_iff.2 member)
  have kept : ((allStamps sets).filter (policy.keeps sets)).Perm
      ((allStamps others).filter (policy.keeps others)) := by
    rw [keeps_perm reordered alike]
    exact (allStamps_perm reordered).filter _
  have stamps_map (stamps : List Int) (entry : Int → Entry) (metadata : List (Value × Value)) :
      Samples.stamps ⟨stamps.map fun stamp => .merged stamp (entry stamp), metadata⟩ = stamps := by
    simp [Samples.stamps, readings, List.filterMap_map, Function.comp_def, Element.reading?]
  have first : one.samples.stamps = _ :=
    (congrArg (·.samples.stamps) reduced).trans (stamps_map _ entry _)
  have second : other.samples.stamps = _ :=
    (congrArg (·.samples.stamps) reduced').trans (stamps_map _ entry' _)
  refine ⟨congrArg Outcome.error reduced, congrArg Outcome.error reduced', ?_, ?_, ?_⟩
  · rw [first]
    exact (nodup_eraseDups _).filter _
  · rw [first, second]
    exact kept
  · intro element member
    rw [show one.samples.elements = _ from congrArg (·.samples.elements) reduced] at member
    obtain ⟨stamp, inside, rfl⟩ := List.mem_map.1 member
    have values_perm : (values stamp).Perm (values' stamp) := by
      refine (List.map_perm_map_iff fun _ _ => Value.decimal.inj).1 ?_
      rw [← held, ← held']
      exact reordered.filterMap _
    refine ⟨stamp, values stamp, entry stamp, entry' stamp, rfl, ?_, held stamp, extreme stamp,
      (extreme stamp).agree (extreme' stamp) values_perm⟩
    rw [show other.samples.elements = _ from congrArg (·.samples.elements) reduced']
    exact List.mem_map.2 ⟨stamp, kept.mem_iff.1 inside, rfl⟩

/-- A series with a mark of failure, a timestamp that comes twice, and values that are no numbers or
not finite. -/
def upstairs : Samples where
  elements := [.sample 1 (.decimal (.finite false 10 (-1))), .failure .noTimestamps,
    .sample 1 (.decimal (.infinite true)), .sample 2 (.decimal .notANumber),
    .sample 3 (.decimal (.infinite false))]
  metadata := []

def downstairs : Samples where
  elements := [.sample 3 (.decimal .notANumber), .sample 2 (.decimal (.nan true true 7)),
    .sample 1 (.decimal (.finite false 1 0))]
  metadata := []

/-- The series have equal values at the first timestamp, and the one that is merged first decides
how many places are written. -/
theorem extreme_anyOrder_swapped :
    let one := (merge .keepAll [upstairs, downstairs]).reduce .minimum
    let other := (merge .keepAll [downstairs, upstairs]).reduce .minimum
    one.samples.elements = [.merged 1 (.reduced (.decimal (.finite false 10 (-1)))),
        .merged 2 (.pending [.decimal .notANumber, .decimal (.nan true true 7)]),
        .merged 3 (.reduced (.decimal (.infinite false)))] ∧
      other.samples.elements = [.merged 3 (.reduced (.decimal (.infinite false))),
        .merged 2 (.pending [.decimal (.nan true true 7), .decimal .notANumber]),
        .merged 1 (.reduced (.decimal (.finite false 1 0)))] ∧
      one.samples.stamps.Perm other.samples.stamps := by
  intro one other
  have upper : ∀ reading ∈ upstairs.readings, reading.2.IsDecimal := by
    simp only [upstairs, readings, List.filterMap, Element.reading?, List.forall_mem_cons]
    exact ⟨⟨_, rfl⟩, ⟨_, rfl⟩, ⟨_, rfl⟩, ⟨_, rfl⟩, List.forall_mem_nil _⟩
  have lower : ∀ reading ∈ downstairs.readings, reading.2.IsDecimal := by
    simp only [downstairs, readings, List.filterMap, Element.reading?, List.forall_mem_cons]
    exact ⟨⟨_, rfl⟩, ⟨_, rfl⟩, ⟨_, rfl⟩, List.forall_mem_nil _⟩
  obtain ⟨-, -, -, same, -⟩ :=
    @extreme_anyOrder .minimum .keepAll [upstairs, downstairs] _ (by decide) rfl (.swap _ _ _)
      (List.forall_mem_cons.2 ⟨upper, List.forall_mem_singleton.2 lower⟩)
  exact ⟨rfl, rfl, same⟩

end Samples

end CalendarSeries
