import CalendarSeries.Proofs.Decimal.Quantize
import CalendarSeries.Proofs.Sample.Failure
/-!
Rounding the values of samples to a number of places. Every number becomes the nearest multiple of
the last place, the one of larger magnitude if two are equally near; so rounding again changes
nothing, and the order of the values is kept. An infinite value cannot be rounded, and neither can
one whose rounding has too many digits.
-/
namespace CalendarSeries

/-- What each item is related to makes a list that is related to the list of the items. -/
theorem exists_forall₂ {α β : Type} {related : α → β → Prop} {items : List α}
    (each : ∀ item ∈ items, ∃ result, related item result) :
    ∃ results, List.Forall₂ related items results := by
  induction items with
  | nil => exact ⟨[], .nil⟩
  | cons item rest ih =>
    obtain ⟨⟨result, one⟩, others⟩ := List.forall_mem_cons.1 each
    obtain ⟨results, all⟩ := ih others
    exact ⟨result :: results, .cons one all⟩

theorem exists_of_mem_forall₂ {α β : Type} {related : α → β → Prop} {items : List α}
    {results : List β} (all : List.Forall₂ related items results) {result : β}
    (member : result ∈ results) : ∃ item, related item result := by
  induction all with
  | nil => cases member
  | cons one _ ih =>
    rcases List.mem_cons.1 member with rfl | later
    · exact ⟨_, one⟩
    · exact ih later

namespace Element

/-- The values of an element. -/
def values : Element → List Value
  | sample _ value | merged _ (.reduced value) => [value]
  | merged _ (.pending values) => values
  | failure _ => []

/-- Whether one element becomes another when each of its values is replaced by a related one. -/
inductive Becomes (related : Value → Value → Prop) : Element → Element → Prop
  | sample {stamp : Int} {value result : Value} (one : related value result) :
      Becomes related (.sample stamp value) (.sample stamp result)
  | reduced {stamp : Int} {value result : Value} (one : related value result) :
      Becomes related (.merged stamp (.reduced value)) (.merged stamp (.reduced result))
  | pending {stamp : Int} {values results : List Value}
      (all : List.Forall₂ related values results) :
      Becomes related (.merged stamp (.pending values)) (.merged stamp (.pending results))
  | failure (error : Error) : Becomes related (.failure error) (.failure error)

variable {element changed : Element} {related other : Value → Value → Prop}
  {transform : Transform}

theorem exists_becomes (each : ∀ value ∈ element.values, ∃ result, related value result) :
    ∃ changed, element.Becomes related changed := by
  match element with
  | .sample _ _ | .merged _ (.reduced _) =>
    obtain ⟨result, one⟩ := each _ List.mem_cons_self
    first | exact ⟨_, .sample one⟩ | exact ⟨_, .reduced one⟩
  | .merged _ (.pending _) =>
    obtain ⟨results, all⟩ := exists_forall₂ each
    exact ⟨_, .pending all⟩
  | .failure error => exact ⟨_, .failure error⟩

namespace Becomes

theorem values (becomes : element.Becomes related changed) :
    List.Forall₂ related element.values changed.values := by
  cases becomes with
  | sample one | reduced one => exact .cons one .nil
  | pending all => exact all
  | failure => exact .nil

theorem imp (implies : ∀ value result, related value result → other value result)
    (becomes : element.Becomes related changed) : element.Becomes other changed := by
  cases becomes with
  | sample one => exact .sample (implies _ _ one)
  | reduced one => exact .reduced (implies _ _ one)
  | pending all => exact .pending (all.imp implies)
  | failure error => exact .failure error

/-- What an element became becomes itself again if every value does. -/
theorem again (implies : ∀ value result, related value result → other result result)
    (becomes : element.Becomes related changed) : changed.Becomes other changed := by
  cases becomes with
  | sample one => exact .sample (implies _ _ one)
  | reduced one => exact .reduced (implies _ _ one)
  | pending all =>
    refine .pending (List.forall₂_same.2 fun result member => ?_)
    obtain ⟨value, one⟩ := exists_of_mem_forall₂ all member
    exact implies value result one
  | failure error => exact .failure error

theorem transform_eq
    (becomes : element.Becomes (fun value result => transform.apply value = .ok result) changed) :
    element.transform transform = .ok changed := by
  cases becomes with
  | sample one | reduced one =>
    rw [Element.transform, one]
    rfl
  | pending all =>
    rw [Element.transform, mapM_ok_iff.2 all]
    rfl
  | failure => rfl

end Becomes

/-- A transform of an element fails as that of one of its values does. -/
theorem exists_failed {error : Error} (failed : element.transform transform = .error error) :
    ∃ value ∈ element.values, transform.apply value = .error error := by
  unfold Element.transform at failed
  split at failed
  · cases failed
  · exact ⟨_, List.mem_cons_self, map_failed failed⟩
  · exact ⟨_, List.mem_cons_self, map_failed failed⟩
  · exact mapM_failed (map_failed failed)

theorem exists_ok (succeeded : element.transform transform = .ok changed) {value : Value}
    (member : value ∈ element.values) : ∃ result, transform.apply value = .ok result := by
  unfold Element.transform at succeeded
  split at succeeded
  · cases member
  · obtain ⟨result, one, -⟩ := map_succeeded succeeded
    exact ⟨result, List.mem_singleton.1 member ▸ one⟩
  · obtain ⟨result, one, -⟩ := map_succeeded succeeded
    exact ⟨result, List.mem_singleton.1 member ▸ one⟩
  · obtain ⟨results, all, -⟩ := map_succeeded succeeded
    exact exists_ok_of_mapM all member

end Element

/-- A decimal that is rounded to the multiples of `10 ^ unit`. -/
inductive Value.RoundsTo (unit : Int) : Value → Value → Prop
  | decimal {x y : Decimal} (rounds : x.RoundsTo unit y) : RoundsTo unit (.decimal x) (.decimal y)

namespace Transform

variable {unit : Int}

theorem apply_of_roundsTo (within : unit.natAbs ≤ 900000) {value result : Value}
    (rounds : value.RoundsTo unit result) : (round unit).apply value = .ok result := by
  obtain ⟨rounds⟩ := rounds
  cases rounds with
  | finite near short =>
    change Value.decimalResult ((Decimal.finite _ _ _).quantize unit) = _
    rw [Decimal.quantize_near within near, if_pos short]
    rfl
  | nan => rfl

theorem apply_of_isUnroundable (within : unit.natAbs ≤ 900000) {x : Decimal}
    (unroundable : x.IsUnroundable unit) :
    (round unit).apply (.decimal x) = .error (.signal .invalidOperation) := by
  cases unroundable with
  | infinite => rfl
  | long near many =>
    change Value.decimalResult ((Decimal.finite _ _ _).quantize unit) = _
    rw [Decimal.quantize_near within near, if_neg (not_le.2 many)]
    rfl

/-- Rounding to a number of places is rounding to the multiples of the last of them. -/
theorem roundingOf_int {places : Int} (within : places.natAbs ≤ 900000) :
    roundingOf (.int places) = .ok (round (-places)) := by
  have one : Number.digitCount 1 = 1 := by decide
  have top : Decimal.working.top = 999999 := rfl
  have tiny : Decimal.working.tiny = -1000026 := rfl
  have precision : Decimal.working.precision = 28 := rfl
  have fits : Decimal.fit Decimal.working false 1 (-places) = .ok (.finite false 1 (-places)) := by
    rw [Decimal.fit, if_neg Nat.one_ne_zero]
    dsimp only
    rw [one, if_neg (by omega), if_pos (by omega)]
  have power : Decimal.powerOfTen (-places) = .ok (.finite false 1 (-places)) := by
    rw [Decimal.powerOfTen, if_neg (by omega), fits]
  change rounding places = _
  rw [rounding, power]

end Transform

namespace Samples

variable {samples : Samples} {unit : Int}

/-- All values of all elements. -/
def values (samples : Samples) : List Value :=
  samples.elements.flatMap Element.values

theorem round_changes (within : unit.natAbs ≤ 900000) {changed : List Element}
    (each : List.Forall₂ (Element.Becomes (Value.RoundsTo unit)) samples.elements changed) :
    samples.transform (.round unit) = ⟨{ samples with elements := changed }, none⟩ := by
  have transformed : List.Forall₂
      (fun element result => element.transform (.round unit) = .ok result)
      samples.elements changed :=
    each.imp fun _ _ becomes =>
      (becomes.imp fun _ _ => Transform.apply_of_roundsTo within).transform_eq
  rw [transform, Samples.changed, changeEach_ok transformed]

/-- Rounding decimals fails where one cannot be rounded, and with no other signal than that. -/
theorem round_fails (within : unit.natAbs ≤ 900000)
    (decimals : ∀ value ∈ samples.values, value.IsDecimal) {x : Decimal}
    (member : .decimal x ∈ samples.values) (unroundable : x.IsUnroundable unit) :
    (samples.transform (.round unit)).error = some (.signal .invalidOperation) := by
  cases failed : (samples.transform (.round unit)).error with
  | none =>
    obtain ⟨element, inside, held⟩ := List.mem_flatMap.1 member
    obtain ⟨changed, step⟩ := exists_ok_of_changeEach failed inside
    obtain ⟨result, one⟩ := Element.exists_ok step held
    cases (Transform.apply_of_isUnroundable within unroundable).symm.trans one
  | some error =>
    obtain ⟨done, stuck, rest, changed, split, -, reason, -⟩ := changeEach_failed failed
    obtain ⟨value, held, reason⟩ := Element.exists_failed reason
    have inside : stuck ∈ samples.elements := by simp [split]
    obtain ⟨y, rfl⟩ := decimals value (List.mem_flatMap.2 ⟨stuck, inside, held⟩)
    by_cases unroundable : y.IsUnroundable unit
    · cases (Transform.apply_of_isUnroundable within unroundable).symm.trans reason
      rfl
    · obtain ⟨z, rounds⟩ := Decimal.exists_roundsTo unroundable
      cases (Transform.apply_of_roundsTo within (.decimal rounds)).symm.trans reason

/-- Rounding to a number of places makes every value the nearest multiple of the last place, the one
of larger magnitude if two are equally near. Rounding the result changes nothing, and the order of
the values is kept. It signals where a value cannot be rounded. -/
theorem round_halfUp {places : Int} (within : places.natAbs ≤ 900000)
    (decimals : ∀ value ∈ samples.values, value.IsDecimal) :
    let outcome := samples.adjust (.round (.int places))
    ((∀ x, .decimal x ∈ samples.values → ¬x.IsUnroundable (-places)) →
      outcome.error = none ∧ outcome.samples.metadata = samples.metadata ∧
      List.Forall₂ (Element.Becomes (Value.RoundsTo (-places))) samples.elements
        outcome.samples.elements ∧
      outcome.samples.adjust (.round (.int places)) = outcome ∧
      ∀ x y x' y', (.decimal x, .decimal y) ∈ samples.values.zip outcome.samples.values →
        (.decimal x', .decimal y') ∈ samples.values.zip outcome.samples.values →
        x.number ≤ x'.number → y.number ≤ y'.number) ∧
    ∀ x, .decimal x ∈ samples.values → x.IsUnroundable (-places) →
      outcome.error = some (.signal .invalidOperation) := by
  have inside : (-places).natAbs ≤ 900000 := by omega
  have adjusted (samples : Samples) :
      samples.adjust (.round (.int places)) = samples.transform (.round (-places)) := by
    rw [adjust, Adjustment.transform, Transform.roundingOf_int within]
  intro outcome
  have outcome_eq : outcome = samples.transform (.round (-places)) := adjusted samples
  refine ⟨fun roundable => ?_, fun x member unroundable => ?_⟩
  · have each : ∀ element ∈ samples.elements, ∃ changed,
        element.Becomes (Value.RoundsTo (-places)) changed := by
      refine fun element member => Element.exists_becomes fun value held => ?_
      have found := List.mem_flatMap.2 ⟨element, member, held⟩
      obtain ⟨x, rfl⟩ := decimals value found
      obtain ⟨y, rounds⟩ := Decimal.exists_roundsTo (roundable x found)
      exact ⟨_, .decimal rounds⟩
    obtain ⟨changed, each⟩ := exists_forall₂ each
    rw [round_changes inside each] at outcome_eq
    rw [outcome_eq]
    refine ⟨rfl, rfl, each, ?_, ?_⟩
    · rw [adjusted]
      refine round_changes inside (List.forall₂_same.2 fun result member => ?_)
      obtain ⟨element, becomes⟩ := exists_of_mem_forall₂ each member
      refine becomes.again fun value result rounded => ?_
      obtain ⟨rounds⟩ := rounded
      exact .decimal rounds.again
    · have rounded : List.Forall₂ (Value.RoundsTo (-places)) samples.values
          (changed.flatMap Element.values) :=
        List.rel_flatMap each fun _ _ => Element.Becomes.values
      intro x y x' y' first second ordered
      obtain ⟨rounds⟩ := (List.forall₂_iff_zip.1 rounded).2 first
      obtain ⟨other⟩ := (List.forall₂_iff_zip.1 rounded).2 second
      exact rounds.monotone other ordered
  · rw [outcome_eq]
    exact round_fails inside decimals member unroundable

/-- Values of both signs that lie halfway between two hundreds, one that gains a digit by rounding,
one that is less than a half, and one that is no number. -/
def takings : Samples where
  elements := [.sample 0 (.decimal (.finite false 1250 0)),
    .merged 1 (.pending [.decimal (.finite true 1250 0), .decimal (.finite false 9950 0),
      .decimal .notANumber]),
    .failure .noTimestamps, .merged 2 (.reduced (.decimal (.finite true 49999 (-3))))]
  metadata := []

/-- A value of twenty-nine digits, of which the last is dropped and still a digit is gained. -/
def hoard : Samples where
  elements := [.sample 0 (.decimal (.finite false 99999999999999999999999999995 (-1)))]
  metadata := []

/-- Halves are rounded away from zero, and what gains a digit may have one too many. -/
theorem round_halfUp_hundreds :
    (let outcome := takings.adjust (.round (.int (-2)))
    outcome.error = none ∧ outcome.samples.elements =
        [.sample 0 (.decimal (.finite false 13 2)),
          .merged 1 (.pending [.decimal (.finite true 13 2), .decimal (.finite false 100 2),
            .decimal .notANumber]),
          .failure .noTimestamps, .merged 2 (.reduced (.decimal (.finite true 0 2)))] ∧
      outcome.samples.adjust (.round (.int (-2))) = outcome) ∧
    (hoard.adjust (.round (.int 0))).error = some (.signal .invalidOperation) := by
  have held : takings.values = [Decimal.finite false 1250 0, .finite true 1250 0,
      .finite false 9950 0, .notANumber, .finite true 49999 (-3)].map .decimal := rfl
  have roundable : ∀ x, .decimal x ∈ takings.values → ¬x.IsUnroundable (- -2) := by
    intro x member
    rw [held, List.mem_map] at member
    obtain ⟨x, member, ⟨⟩⟩ := member
    simp only [List.mem_cons, List.not_mem_nil, or_false] at member
    rcases member with rfl | rfl | rfl | rfl | rfl
    case inr.inr.inr.inl => rintro ⟨⟩
    all_goals
      rw [Decimal.isUnroundable_finite]
      decide
  have decimals : ∀ value ∈ takings.values, value.IsDecimal := by
    rw [held]
    intro value member
    obtain ⟨x, -, rfl⟩ := List.mem_map.1 member
    exact ⟨x, rfl⟩
  have long : (Decimal.finite false 99999999999999999999999999995 (-1)).IsUnroundable (-0) :=
    Decimal.isUnroundable_finite.2 (by decide)
  obtain ⟨none, -, -, again, -⟩ := (round_halfUp (by decide) decimals).1 roundable
  exact ⟨⟨none, rfl, again⟩,
    (round_halfUp (by decide) (List.forall_mem_singleton.2 ⟨_, rfl⟩)).2 _ List.mem_cons_self long⟩

end Samples

end CalendarSeries
