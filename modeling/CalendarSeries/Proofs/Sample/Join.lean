import CalendarSeries.Proofs.Sample.Merge
import CalendarSeries.Proofs.Value.Map
/-!
A merge as a join of its sequences on the timestamp: an outer join, an inner join or a left join,
by its policy. The metadata of the sequences are joined on their keys, where the earliest sequence
that has a key decides.
-/
namespace CalendarSeries

namespace Samples

variable {isKey : Value → Prop} {sets : List Samples}

theorem mergedMetadata_cons (first : Samples) (rest : List Samples) :
    mergedMetadata (first :: rest) = Value.putAll first.metadata (mergedMetadata rest) := by
  rw [mergedMetadata, List.reverse_cons, List.foldl_append]
  rfl

theorem mergedMetadata_isMap (maps : ∀ samples ∈ sets, Value.IsMap isKey samples.metadata) :
    Value.IsMap isKey (mergedMetadata sets) := by
  induction sets with
  | nil => exact ⟨nofun, List.Pairwise.nil⟩
  | cons first rest ih =>
    rw [mergedMetadata_cons]
    exact (ih fun samples member => maps samples (List.mem_cons_of_mem _ member)).putAll
      (maps first List.mem_cons_self).keys

/-- The earliest sequence that has a key decides on its value. -/
theorem lookup?_mergedMetadata (lawful : Value.AreKeys isKey)
    (maps : ∀ samples ∈ sets, Value.IsMap isKey samples.metadata) {key : Value}
    (asked : isKey key) :
    Value.lookup? key (mergedMetadata sets) =
      sets.findSome? fun samples => Value.lookup? key samples.metadata := by
  induction sets with
  | nil => rfl
  | cons first rest ih =>
    have later : ∀ samples ∈ rest, Value.IsMap isKey samples.metadata := fun samples member =>
      maps samples (List.mem_cons_of_mem _ member)
    rw [mergedMetadata_cons, Value.lookup?_putAll lawful (maps first List.mem_cons_self)
      (mergedMetadata_isMap later) asked, ih later, List.findSome?_cons]
    cases Value.lookup? key first.metadata <;> rfl

/-- A merge joins its sequences on the timestamp. Its timestamps are those that the policy keeps, in
the order of their first appearance and each of them once, and hold the values that the sequences
have at them, of each the first, in the order of the sequences. Under each key the metadata have the
value of the earliest sequence that has the key. The sequences are values, and stay as they are. -/
theorem merge_joins (policy : MergePolicy) (sets : List Samples) :
    (merge policy sets).elements =
        ((sets.flatMap stamps).eraseDups.filter (policy.keeps sets)).map (fun stamp =>
          .merged stamp (.pending (sets.filterMap (·.valueAt? stamp)))) ∧
      (merge policy sets).stamps.Nodup ∧
      ∀ {isKey : Value → Prop}, Value.AreKeys isKey →
        (∀ samples ∈ sets, Value.IsMap isKey samples.metadata) →
        Value.IsMap isKey (merge policy sets).metadata ∧
        ∀ key, isKey key → Value.lookup? key (merge policy sets).metadata =
          sets.findSome? fun samples => Value.lookup? key samples.metadata := by
  refine ⟨elements_merge policy sets, ?_, fun lawful maps =>
    ⟨mergedMetadata_isMap maps, fun key asked => lookup?_mergedMetadata lawful maps asked⟩⟩
  have kept : (merge policy sets).stamps = (allStamps sets).filter (policy.keeps sets) := by
    rw [stamps, readings, elements_merge, List.filterMap_map]
    simp [Function.comp_def, Element.reading?]
  rw [kept]
  exact (nodup_eraseDups _).filter _

/-- A series that has a timestamp twice, with a mark of failure between its samples. -/
def heating : Samples where
  elements := [.sample 1 (.int 10), .failure .noTimestamps, .sample 1 (.int 11),
    .sample 2 (.int 12)]
  metadata := [(.text "key", .text "heating"), (.text "unit", .text "kWh")]

def cooling : Samples where
  elements := [.sample 2 (.int 20), .sample 3 (.int 21)]
  metadata := [(.text "key", .text "cooling"), (.text "site", .text "roof")]

/-- The series have one timestamp in common, and the unit of the first and the site of the second
are kept. -/
theorem merge_joins_heating :
    let merged := merge .keepEqual [heating, cooling]
    merged.elements = [.merged 2 (.pending [.int 12, .int 20])] ∧ merged.stamps.Nodup ∧
      Value.lookup? (.text "key") merged.metadata = some (.text "heating") ∧
      Value.lookup? (.text "site") merged.metadata = some (.text "roof") := by
  intro merged
  have maps : ∀ samples ∈ [heating, cooling],
      Value.IsMap (fun key => ∃ content, key = .text content) samples.metadata := by
    simp only [List.mem_cons, List.not_mem_nil, or_false]
    rintro samples (rfl | rfl) <;>
      exact ⟨by simp [heating, cooling], by simp [heating, cooling, Value.sameKey_text]⟩
  obtain ⟨elements, distinct, metadata⟩ := merge_joins .keepEqual [heating, cooling]
  obtain ⟨-, found⟩ := metadata Value.areKeys_text maps
  refine ⟨elements, distinct, (found _ ⟨_, rfl⟩).trans ?_, (found _ ⟨_, rfl⟩).trans ?_⟩
  · simp [heating, cooling, Value.lookup?, Value.sameKey_text]
  · simp [heating, cooling, Value.lookup?, Value.sameKey_text]

end Samples

end CalendarSeries
