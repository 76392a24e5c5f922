import CalendarSeries.Proofs.Decimal.Operations
import CalendarSeries.Proofs.Sample.Extreme
/-!
The average of merged samples lies between their extremes. Each sum and the quotient are rounded,
but a sum of `k` numbers is never rounded past `k` times the least or the greatest of them, since
numbers of few digits leave room for these multiples to be held.
-/
namespace CalendarSeries

namespace Decimal

/-- Whether a number has at most seventeen significant digits, and an exponent well within the
limits. -/
def IsShortNumber (q : ℚ) : Prop :=
  ∃ c e : Int, c.natAbs < Number.tenTo 17 ∧ e.natAbs ≤ 999900 ∧ q = c * 10 ^ e

/-- Whether a decimal denotes such a number, however many zeros it is written with. -/
def IsShort (x : Decimal) : Prop :=
  ∃ q : ℚ, IsShortNumber q ∧ x.number = ((q : WithTop ℚ) : WithBot (WithTop ℚ))

theorem isShort_finite (negative : Bool) {coefficient : Nat} {exponent : Int}
    (digits : coefficient < Number.tenTo 17) (within : exponent.natAbs ≤ 999900) :
    (finite negative coefficient exponent).IsShort := by
  refine ⟨rational negative coefficient exponent, ?_, rfl⟩
  cases negative with
  | false => exact ⟨coefficient, exponent, digits, within, rfl⟩
  | true =>
    refine ⟨-coefficient, exponent, by rwa [Int.natAbs_neg], within, ?_⟩
    rw [rational, if_pos rfl, magnitude]
    push_cast
    ring

theorem IsShort.exists_finite {x : Decimal} (short : x.IsShort) :
    ∃ m a i, x = .finite m a i ∧ IsShortNumber (rational m a i) := by
  obtain ⟨q, short, same⟩ := short
  match x with
  | .finite m a i =>
    rw [number_finite, WithBot.coe_inj, WithTop.coe_inj] at same
    exact ⟨m, a, i, rfl, same ▸ short⟩
  | .infinite true | .nan .. => cases same
  | .infinite false => cases WithBot.coe_inj.1 same

/-- Whether a decimal is finite and denotes a number within bounds. -/
def Between (lo hi : ℚ) (x : Decimal) : Prop :=
  ∃ m a i, x = .finite m a i ∧ lo ≤ rational m a i ∧ rational m a i ≤ hi

variable {q lo hi : ℚ} {outcome : Except Signal Decimal}

/-- Multiples of a short number can be held. -/
theorem IsShortNumber.multiple (short : IsShortNumber q) {k : Nat} (few : k ≤ Number.tenTo 10) :
    IsHeld (k * q) ∧ |k * q| ≤ 10 ^ working.top := by
  obtain ⟨c, e, digits, within, rfl⟩ := short
  have top : working.top = 999999 := rfl
  have tiny : working.tiny = -1000026 := rfl
  have product : ((k * c : Int) : ℚ) * 10 ^ e = k * (c * 10 ^ e) := by
    push_cast
    ring
  have room : (k * c : Int).natAbs ≤ Number.tenTo 27 := by
    rw [Int.natAbs_mul, Int.natAbs_natCast]
    calc k * c.natAbs ≤ Number.tenTo 10 * Number.tenTo 17 := Nat.mul_le_mul few digits.le
      _ = Number.tenTo 27 := by decide
  rw [← product]
  refine ⟨⟨k * c, e, room.trans (by decide), by omega, rfl⟩, ?_⟩
  exact (abs_le_of_natAbs_le room e).trans (zpow_le_zpow_right₀ (by norm_num) (by omega))

theorem Yields.between (yields : Yields outcome q) (least : IsHeld lo) (most : IsHeld hi)
    (above : lo ≤ q) (below : q ≤ hi) : ∃ z, outcome = .ok z ∧ z.Between lo hi := by
  obtain ⟨m, a, i, found, faithful⟩ := yields
  exact ⟨_, found, m, a, i, rfl, (faithful lo least).1 above, (faithful hi most).2 below⟩

end Decimal

open Decimal

variable {lo hi : ℚ}

/-- A sum goes on between the multiples of bounds that its summands have. -/
theorem Value.sumFrom_between (shortLo : IsShortNumber lo) (shortHi : IsShortNumber hi)
    {xs : List Decimal} (inside : ∀ x ∈ xs, x.Between lo hi) {count : Nat}
    (few : count + xs.length ≤ Number.tenTo 10) {total : Decimal}
    (before : total.Between (count * lo) (count * hi)) :
    ∃ sum, (xs.map .decimal).foldlM addTo total = .ok sum ∧
      sum.Between ((count + xs.length : Nat) * lo) ((count + xs.length : Nat) * hi) := by
  induction xs generalizing count total with
  | nil => exact ⟨total, rfl, before⟩
  | cons x rest ih =>
    obtain ⟨⟨n, b, j, rfl, least, most⟩, others⟩ := List.forall_mem_cons.1 inside
    obtain ⟨m, a, i, rfl, lower, upper⟩ := before
    rw [List.length_cons] at few
    obtain ⟨heldLo, smallLo⟩ := shortLo.multiple (show count + 1 ≤ Number.tenTo 10 by omega)
    obtain ⟨heldHi, smallHi⟩ := shortHi.multiple (show count + 1 ≤ Number.tenTo 10 by omega)
    have above : ((count + 1 : Nat) : ℚ) * lo ≤ rational m a i + rational n b j := by
      push_cast
      linarith
    have below : rational m a i + rational n b j ≤ ((count + 1 : Nat) : ℚ) * hi := by
      push_cast
      linarith
    have small := abs_le_max_abs_abs above below
    obtain ⟨sum, added, next⟩ :=
      (add_yields (small.trans (max_le smallLo smallHi))).between heldLo heldHi above below
    obtain ⟨whole, summed, between⟩ := ih others (by omega) next
    refine ⟨whole, ?_, ?_⟩
    · rw [List.map_cons, List.foldlM_cons]
      have step : addTo (.finite m a i) (.decimal (.finite n b j)) = .ok sum := by
        change ((Decimal.finite m a i).add (.finite n b j)).mapError Error.signal = _
        rw [added]
        rfl
      rw [step]
      exact summed
    · rwa [List.length_cons, Nat.add_comm rest.length, ← Nat.add_assoc]

theorem Value.sumOf_between (shortLo : IsShortNumber lo) (shortHi : IsShortNumber hi)
    {xs : List Decimal} (inside : ∀ x ∈ xs, x.Between lo hi) (few : xs.length ≤ Number.tenTo 10) :
    ∃ sum, sumOf (xs.map .decimal) = .ok sum ∧ sum.Between (xs.length * lo) (xs.length * hi) := by
  have start : Decimal.zero.Between ((0 : Nat) * lo) ((0 : Nat) * hi) := by
    refine ⟨false, 0, 0, rfl, ?_, ?_⟩ <;> rw [rational_zero, Nat.cast_zero, zero_mul]
  have summed := sumFrom_between shortLo shortHi inside (by rwa [Nat.zero_add]) start
  rwa [Nat.zero_add] at summed

/-- The quotient of a sum by the number of its summands is back between their bounds. -/
theorem Reduction.average_between (shortLo : IsShortNumber lo) (shortHi : IsShortNumber hi)
    {first : Decimal} {rest : List Decimal} (inside : ∀ x ∈ first :: rest, x.Between lo hi)
    (few : (first :: rest).length ≤ Number.tenTo 10) :
    ∃ found, average.apply (.decimal first) (rest.map .decimal) = .ok (.decimal found) ∧
      found.Between lo hi := by
  obtain ⟨sum, summed, m, a, i, rfl, least, most⟩ :=
    Value.sumOf_between shortLo shortHi inside few
  obtain ⟨heldLo, smallLo⟩ := shortLo.multiple (show 1 ≤ Number.tenTo 10 by decide)
  obtain ⟨heldHi, smallHi⟩ := shortHi.multiple (show 1 ≤ Number.tenTo 10 by decide)
  rw [Nat.cast_one, one_mul] at heldLo smallLo heldHi smallHi
  have count : rational false (first :: rest).length 0 = (first :: rest).length := by
    simp [rational, magnitude]
  have divisor : Decimal.ofInt ((rest.map Value.decimal).length + 1) =
      .finite false (first :: rest).length 0 := by
    rw [List.length_map]
    rfl
  have positive : (0 : ℚ) < (first :: rest).length := by
    exact_mod_cast List.length_pos_of_mem List.mem_cons_self
  have above : lo ≤ rational m a i / rational false (first :: rest).length 0 := by
    rw [count, le_div_iff₀ positive]
    linarith
  have below : rational m a i / rational false (first :: rest).length 0 ≤ hi := by
    rw [count, div_le_iff₀ positive]
    linarith
  have small := (abs_le_max_abs_abs above below).trans (max_le smallLo smallHi)
  obtain ⟨found, divided, between⟩ :=
    (div_yields (List.cons_ne_nil _ _ ∘ List.length_eq_zero_iff.1) small).between heldLo heldHi
      above below
  refine ⟨found, ?_, between⟩
  rw [List.map_cons] at summed
  rw [apply, summed]
  change Value.decimalResult ((Decimal.finite m a i).div _) = _
  rw [divisor, divided]
  rfl

namespace Element

/-- Where there are numbers, an extreme one is left. -/
theorem reduce_extreme_short {reduction : Reduction} (skips : reduction.skipsNaN = true)
    (stamp : Int) {xs : List Decimal} (some : xs ≠ []) (short : ∀ x ∈ xs, x.IsShort) :
    ∃ x ∈ xs, (merged stamp (.pending (xs.map .decimal))).reduce reduction =
      .ok (merged stamp (.reduced (.decimal x))) ∧ ∀ y ∈ xs, reduction.Prefers x y := by
  have numbers : ∀ x ∈ xs, x.isNaN = false := by
    intro x member
    obtain ⟨m, a, i, rfl, -⟩ := (short x member).exists_finite
    rfl
  obtain ⟨entry, reduced, extreme⟩ := reduce_extreme skips stamp xs
  cases extreme with
  | reached member number extreme =>
    exact ⟨_, member, reduced, fun y other => extreme y other (numbers y other)⟩
  | undecided none =>
    obtain ⟨x, member⟩ := List.exists_mem_of_ne_nil xs some
    cases (none x member).symm.trans (numbers x member)

/-- Short decimals have an average, and it is between the extremes. -/
theorem average_between (stamp : Int) {xs : List Decimal} (some : xs ≠ [])
    (few : xs.length ≤ Number.tenTo 10) (short : ∀ x ∈ xs, x.IsShort) :
    let element := merged stamp (.pending (xs.map .decimal))
    ∃ least found most,
      element.reduce .minimum = .ok (merged stamp (.reduced (.decimal least))) ∧
      element.reduce .average = .ok (merged stamp (.reduced (.decimal found))) ∧
      element.reduce .maximum = .ok (merged stamp (.reduced (.decimal most))) ∧
      found.isFinite = true ∧ least.number ≤ found.number ∧ found.number ≤ most.number := by
  intro element
  obtain ⟨least, lowest, minimum, below⟩ :=
    @reduce_extreme_short .minimum rfl stamp xs some short
  obtain ⟨most, highest, maximum, above⟩ :=
    @reduce_extreme_short .maximum rfl stamp xs some short
  obtain ⟨m, a, i, rfl, shortLo⟩ := (short least lowest).exists_finite
  obtain ⟨n, b, j, rfl, shortHi⟩ := (short most highest).exists_finite
  have inside : ∀ x ∈ xs, x.Between (rational m a i) (rational n b j) := by
    intro x member
    obtain ⟨l, c, k, rfl, -⟩ := (short x member).exists_finite
    exact ⟨l, c, k, rfl, number_le_iff.1 (below _ member), number_le_iff.1 (above _ member)⟩
  cases xs with
  | nil => exact absurd rfl some
  | cons first rest =>
    obtain ⟨found, applied, l, c, k, rfl, lower, upper⟩ :=
      Reduction.average_between shortLo shortHi inside few
    refine ⟨_, _, _, minimum, ?_, maximum, rfl, number_le_iff.2 lower, number_le_iff.2 upper⟩
    change (Reduction.average.apply (.decimal first) (rest.map .decimal)).map _ = _
    rw [applied]
    rfl

end Element

namespace Samples

/-- A reduction that succeeds at every element leaves their results in their places. -/
theorem reduce_each {samples : Samples} {reduction : Reduction}
    (pending : ∀ element ∈ samples.elements, element.isPending = true)
    (each : ∀ element ∈ samples.elements, ∃ result, element.reduce reduction = .ok result) :
    (samples.reduce reduction).error = none ∧
      ∀ (k : Nat) (element result : Element), samples.elements[k]? = some element →
        element.reduce reduction = .ok result →
        (samples.reduce reduction).samples.elements[k]? = some result := by
  obtain ⟨reduced, mapped⟩ := exists_mapM_ok each
  have all := mapM_ok_iff.1 mapped
  rw [reduce_ok pending all]
  refine ⟨rfl, fun k element result there found => ?_⟩
  obtain ⟨inside, rfl⟩ := List.getElem?_eq_some_iff.1 there
  have also : k < reduced.length := all.length_eq ▸ inside
  have reached := all.get inside also
  rw [List.get_eq_getElem, List.get_eq_getElem, found] at reached
  cases reached
  exact List.getElem?_eq_getElem also

/-- The average of every merged sample lies between the least and the greatest of its values. -/
theorem average_betweenExtremes {samples : Samples}
    (merged : ∀ element ∈ samples.elements, ∃ stamp xs,
      element = .merged stamp (.pending (xs.map .decimal)) ∧ xs ≠ [] ∧
        xs.length ≤ Number.tenTo 10 ∧ ∀ x ∈ xs, x.IsShort) :
    let minima := samples.reduce .minimum
    let averages := samples.reduce .average
    let maxima := samples.reduce .maximum
    minima.error = none ∧ averages.error = none ∧ maxima.error = none ∧
      ∀ (k : Nat) (stamp : Int) (entry : Entry),
        samples.elements[k]? = some (.merged stamp entry) → ∃ least found most,
          minima.samples.elements[k]? = some (.merged stamp (.reduced (.decimal least))) ∧
          averages.samples.elements[k]? = some (.merged stamp (.reduced (.decimal found))) ∧
          maxima.samples.elements[k]? = some (.merged stamp (.reduced (.decimal most))) ∧
          found.isFinite = true ∧ least.number ≤ found.number ∧ found.number ≤ most.number := by
  have pending : ∀ element ∈ samples.elements, element.isPending = true := by
    intro element member
    obtain ⟨stamp, xs, rfl, -⟩ := merged element member
    rfl
  have each (reduction : Reduction) (among : reduction ∈ [.minimum, .average, .maximum]) :
      ∀ element ∈ samples.elements, ∃ result, element.reduce reduction = .ok result := by
    intro element member
    obtain ⟨stamp, xs, rfl, some, few, short⟩ := merged element member
    obtain ⟨least, found, most, minimum, average, maximum, -⟩ :=
      Element.average_between stamp some few short
    simp only [List.mem_cons, List.not_mem_nil, or_false] at among
    rcases among with rfl | rfl | rfl
    · exact ⟨_, minimum⟩
    · exact ⟨_, average⟩
    · exact ⟨_, maximum⟩
  obtain ⟨finished, minima⟩ := reduce_each pending (each .minimum (by decide))
  obtain ⟨finished', averages⟩ := reduce_each pending (each .average (by decide))
  obtain ⟨finished'', maxima⟩ := reduce_each pending (each .maximum (by decide))
  refine ⟨finished, finished', finished'', fun k stamp entry there => ?_⟩
  obtain ⟨stamp', xs, same, some, few, short⟩ := merged _ (List.mem_of_getElem? there)
  cases same
  obtain ⟨least, found, most, minimum, average, maximum, bounds⟩ :=
    Element.average_between stamp some few short
  exact ⟨least, found, most, minima k _ _ there minimum, averages k _ _ there average,
    maxima k _ _ there maximum, bounds⟩

/-- Values of which the last cancels the first, and nothing is left of the one between. -/
def cancelling : List Decimal :=
  [.finite false 1 300, .finite true 12345678901234567 (-300), .finite true 1 300]

/-- The same number three times. -/
def alike : List Decimal :=
  [.finite false 1 (-1), .finite false 100 (-3), .finite false 10 (-2)]

/-- What was lost of the values leaves a zero, which is still between the extremes; the average of
equal values is exact. -/
theorem average_betweenExtremes_cancelled :
    let samples : Samples := ⟨[.merged 0 (.pending (cancelling.map .decimal)),
      .merged 1 (.pending (alike.map .decimal))], []⟩
    let averages := samples.reduce .average
    averages.error = none ∧ averages.samples.elements =
        [.merged 0 (.reduced (.decimal (.finite false 0 273))),
          .merged 1 (.reduced (.decimal (.finite false 100 (-3))))] ∧
      (Decimal.finite true 1 300).number ≤ (Decimal.finite false 0 273).number ∧
      (Decimal.finite false 0 273).number ≤ (Decimal.finite false 1 300).number := by
  intro samples averages
  have first : ∀ x ∈ cancelling, x.IsShort := by
    simp only [cancelling, List.forall_mem_cons]
    exact ⟨isShort_finite _ (by decide) (by decide), isShort_finite _ (by decide) (by decide),
      isShort_finite _ (by decide) (by decide), List.forall_mem_nil _⟩
  have second : ∀ x ∈ alike, x.IsShort := by
    simp only [alike, List.forall_mem_cons]
    exact ⟨isShort_finite _ (by decide) (by decide), isShort_finite _ (by decide) (by decide),
      isShort_finite _ (by decide) (by decide), List.forall_mem_nil _⟩
  have merged : ∀ element ∈ samples.elements, ∃ stamp xs,
      element = .merged stamp (.pending (xs.map .decimal)) ∧ xs ≠ [] ∧
        xs.length ≤ Number.tenTo 10 ∧ ∀ x ∈ xs, x.IsShort := by
    simp only [samples, List.forall_mem_cons]
    exact ⟨⟨0, cancelling, rfl, List.cons_ne_nil _ _, by decide, first⟩,
      ⟨1, alike, rfl, List.cons_ne_nil _ _, by decide, second⟩, List.forall_mem_nil _⟩
  obtain ⟨-, finished, -, between⟩ := average_betweenExtremes merged
  obtain ⟨least, found, most, minimum, average, maximum, -, below, above⟩ := between 0 0 _ rfl
  cases minimum
  cases average
  cases maximum
  exact ⟨finished, rfl, below, above⟩

end Samples

end CalendarSeries
