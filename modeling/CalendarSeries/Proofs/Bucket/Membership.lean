import CalendarSeries.Proofs.Bucket.Tiling
import CalendarSeries.Value.Basic
/-!
What belongs to the buckets of a range. Every instant of the range, which is half-open as they are,
belongs to exactly one of them, so whatever is sorted into the buckets is neither lost nor taken
twice.
-/
namespace CalendarSeries.Bucket

variable {bucket : Bucket} {range : TimeRange} {start stop : Int} {buckets : List Bucket}

theorem has_iff (ordered : bucket.start ≤ bucket.stop) {instant : Int} :
    bucket.has instant = true ↔ bucket.start ≤ instant ∧ instant ≤ bucket.last := by
  unfold has last
  split
  · simp
    omega
  · simp
    omega

/-- Every instant of a sub-range belongs to the bucket. -/
def Holds (bucket : Bucket) (range : TimeRange) : Prop :=
  ∀ instant, range.start ≤ instant → instant ≤ range.stop → bucket.has instant = true

theorem holds_iff : bucket.Holds range ↔
    range.stop < range.start ∨ bucket.has range.start = true ∧ bucket.has range.stop = true := by
  constructor
  · intro holds
    by_cases proper : range.start ≤ range.stop
    · exact .inr ⟨holds _ (Int.le_refl _) proper, holds _ proper (Int.le_refl _)⟩
    · exact .inl (Int.not_le.1 proper)
  · rintro (reversed | ⟨first, last⟩) instant after before
    · omega
    · unfold has at first last ⊢
      split at first <;> simp_all <;> omega

instance : Decidable (bucket.Holds range) :=
  decidable_of_iff _ holds_iff.symm

/-- The bounds of a sub-range decide whether the bucket holds it. -/
theorem contains_iff_holds (ordered : bucket.start ≤ bucket.stop)
    (proper : range.start ≤ range.stop) :
    bucket.contains range.start range.stop = true ↔ bucket.Holds range := by
  rw [holds_iff, has_iff ordered, has_iff ordered]
  simp only [contains, Bool.and_eq_true, decide_eq_true_eq]
  omega

namespace Tiling

/-- What belongs to a bucket of a tiling lies before what belongs to a later one. -/
theorem has_before (order : start ≤ stop) (tiling : Tiling start stop buckets) :
    buckets.Pairwise fun bucket next => ∀ first second,
      bucket.has first = true → next.has second = true → first < second := by
  refine (tiling.apart order).imp_of_mem
    fun {bucket next} member among apart first second owned other => ?_
  have := (has_iff (tiling.ordered order bucket member)).1 owned
  have := (has_iff (tiling.ordered order next among)).1 other
  omega

/-- Proper buckets that join cover what lies between their ends. -/
theorem exists_has_iff (first : buckets.head?.map Bucket.start = some start)
    (last : buckets.getLast?.map Bucket.stop = some stop)
    (joined : buckets.IsChain fun bucket next => bucket.stop = next.start)
    (proper : ∀ bucket ∈ buckets, bucket.start < bucket.stop) :
    start < stop ∧ ∀ instant, (∃ bucket ∈ buckets, bucket.has instant = true) ↔
      start ≤ instant ∧ instant < stop := by
  induction buckets generalizing start with
  | nil => cases first
  | cons bucket rest ih =>
    cases first
    have long := proper bucket List.mem_cons_self
    have inside (instant : Int) :
        bucket.has instant = true ↔ bucket.start ≤ instant ∧ instant < bucket.stop := by
      simp [has, Int.ne_of_lt long]
    cases rest with
    | nil =>
      cases last
      exact ⟨long, fun instant => by simp [inside]⟩
    | cons next rest =>
      obtain ⟨meets, joined⟩ := List.isChain_cons_cons.1 joined
      obtain ⟨later, covered⟩ := ih rfl (by simpa only [List.getLast?_cons_cons] using last) joined
        fun bucket member => proper bucket (List.mem_cons_of_mem _ member)
      refine ⟨by omega, fun instant => ?_⟩
      rw [List.exists_mem_cons_iff, inside, covered]
      omega

/-- An instant belongs to a bucket of a tiling exactly if it belongs to the range. -/
theorem any_has (order : start ≤ stop) (tiling : Tiling start stop buckets) (instant : Int) :
    buckets.any (·.has instant) = (Bucket.mk start stop).has instant := by
  rcases Int.lt_or_eq_of_le order with long | same
  · obtain ⟨-, covered⟩ :=
      exists_has_iff tiling.first tiling.last tiling.joined (tiling.proper long)
    rw [Bool.eq_iff_iff, List.any_eq_true, covered]
    simp [has, Int.ne_of_lt long]
  · rw [tiling.empty same, List.any_cons, List.any_nil, Bool.or_false]

end Tiling

end CalendarSeries.Bucket
