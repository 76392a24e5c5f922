import CalendarSeries.Sample.Merge
import Mathlib.Data.List.Nodup
/-!
What a merge holds. The timestamps of several sequences are collected in the order of their first
appearance, each with the first value that every sequence has at it; a policy keeps those of any
sequence, of all of them, or of the first one. Where the sequences line up, that is one value of
each at every timestamp.
-/
namespace CalendarSeries

section FirstAppearance

variable {α : Type} [DecidableEq α]

/-- What is left out does not change the order of first appearance. -/
theorem filter_eraseDups (keep : α → Bool) (items : List α) :
    items.eraseDups.filter keep = (items.filter keep).eraseDups := by
  match items with
  | [] => rfl
  | first :: rest =>
    have others := filter_eraseDups keep (rest.filter fun item => !item == first)
    rw [List.eraseDups_cons, List.filter_cons, List.filter_cons, others]
    cases kept : keep first with
    | true => rw [if_pos rfl, if_pos rfl, List.eraseDups_cons, List.filter_comm]
    | false =>
      have passed : ∀ item ∈ rest.filter keep, (!item == first) = true := by
        intro item member
        have other : item ≠ first := by
          rintro rfl
          cases kept.symm.trans (List.mem_filter.1 member).2
        simpa using other
      rw [if_neg nofun, if_neg nofun, List.filter_comm, List.filter_eq_self.2 passed]
termination_by items.length
decreasing_by
  exact Nat.lt_succ_of_le (List.length_filter_le _ _)

theorem nodup_eraseDups (items : List α) : items.eraseDups.Nodup := by
  match items with
  | [] => exact List.nodup_nil
  | first :: rest =>
    rw [List.eraseDups_cons, List.nodup_cons, List.mem_eraseDups, List.mem_filter]
    refine ⟨fun ⟨_, other⟩ => ?_, nodup_eraseDups _⟩
    simp at other
termination_by items.length
decreasing_by
  exact Nat.lt_succ_of_le (List.length_filter_le _ _)

theorem eraseDups_of_nodup {items : List α} (distinct : items.Nodup) :
    items.eraseDups = items := by
  induction items with
  | nil => rfl
  | cons first rest ih =>
    obtain ⟨fresh, distinct⟩ := List.nodup_cons.1 distinct
    have others : ∀ item ∈ rest, (!item == first) = true := by
      intro item member
      have other : item ≠ first := fun same => fresh (same ▸ member)
      simpa using other
    rw [List.eraseDups_cons, List.filter_eq_self.2 others, ih distinct]

/-- Later items are only those that have not appeared before. -/
theorem eraseDups_append_filter (items later : List α) :
    (items ++ later).eraseDups =
      items.eraseDups ++ later.eraseDups.filter (· ∉ items.eraseDups) := by
  have same (item : α) : (!items.elem item) = decide (item ∉ items.eraseDups) := by
    simp [List.mem_eraseDups]
  simp only [List.eraseDups_append, List.removeAll, filter_eraseDups, same]

end FirstAppearance

namespace Samples

/-- The timestamps of the samples, in order. -/
def stamps (samples : Samples) : List Int :=
  samples.readings.map (·.1)

/-- The value of the first sample at a timestamp. -/
def valueAt? (samples : Samples) (stamp : Int) : Option Value :=
  samples.readings.lookup stamp

theorem lookup_isSome {readings : List (Int × Value)} {stamp : Int} :
    (readings.lookup stamp).isSome ↔ stamp ∈ readings.map (·.1) := by
  induction readings with
  | nil => simp
  | cons reading rest ih =>
    obtain ⟨other, value⟩ := reading
    rw [List.lookup_cons, List.map_cons, List.mem_cons, ← ih]
    cases same : stamp == other with
    | true => simp [beq_iff_eq.1 same]
    | false => simp [beq_eq_false_iff_ne.1 same]

theorem valueAt?_isSome {samples : Samples} {stamp : Int} :
    (samples.valueAt? stamp).isSome ↔ stamp ∈ samples.stamps :=
  lookup_isSome

theorem mem_of_lookup {readings : List (Int × Value)} {stamp : Int} {value : Value}
    (found : readings.lookup stamp = some value) : (stamp, value) ∈ readings := by
  induction readings with
  | nil => cases found
  | cons reading rest ih =>
    obtain ⟨other, held⟩ := reading
    rw [List.lookup_cons] at found
    cases same : stamp == other with
    | true =>
      rw [same] at found
      cases found
      rw [beq_iff_eq.1 same]
      exact List.mem_cons_self
    | false =>
      rw [same] at found
      exact List.mem_cons_of_mem _ (ih found)

theorem stamps_firstReadings (readings : List (Int × Value)) :
    (firstReadings readings).map (·.1) = (readings.map (·.1)).eraseDups := by
  induction readings with
  | nil => rfl
  | cons reading rest ih =>
    rw [firstReadings, List.map_cons, List.map_cons, List.eraseDups_cons, ← filter_eraseDups, ← ih,
      List.filter_map]
    rfl

theorem lookup_filter_ne {readings : List (Int × Value)} {stamp other : Int}
    (apart : stamp ≠ other) :
    (readings.filter (·.1 != other)).lookup stamp = readings.lookup stamp := by
  induction readings with
  | nil => rfl
  | cons reading rest ih =>
    obtain ⟨head, value⟩ := reading
    rw [List.filter_cons, List.lookup_cons]
    by_cases same : head = other
    · subst same
      simp [ih, beq_eq_false_iff_ne.2 apart]
    · simp [bne_iff_ne.2 same, List.lookup_cons, ih]

theorem lookup_firstReadings (readings : List (Int × Value)) (stamp : Int) :
    (firstReadings readings).lookup stamp = readings.lookup stamp := by
  induction readings with
  | nil => rfl
  | cons reading rest ih =>
    obtain ⟨head, value⟩ := reading
    rw [firstReadings, List.lookup_cons, List.lookup_cons]
    cases same : stamp == head with
    | true => rfl
    | false => exact (lookup_filter_ne (beq_eq_false_iff_ne.1 same)).trans ih

namespace Table

/-- The table of these timestamps, each with its values. -/
def tabulate (stamps : List Int) (values : Int → List Value) : Table :=
  stamps.map fun stamp => (stamp, values stamp)

/-- The timestamps of a table after others come up. -/
def grown (growing : Bool) (stamps later : List Int) : List Int :=
  if growing then stamps ++ later.filter (· ∉ stamps) else stamps

theorem add_same (growing : Bool) (head : Int) (value : Value) (values : List Value)
    (table : Table) :
    Table.add growing head value ((head, values) :: table) = (head, values ++ [value]) :: table :=
  if_pos rfl

theorem add_other (growing : Bool) {head other : Int} (apart : head ≠ other) (value : Value)
    (values : List Value) (table : Table) :
    Table.add growing other value ((head, values) :: table) =
      (head, values) :: Table.add growing other value table :=
  if_neg apart

theorem tabulate_cons (head : Int) (rest : List Int) (values : Int → List Value) :
    tabulate (head :: rest) values = (head, values head) :: tabulate rest values :=
  rfl

theorem tabulate_congr {stamps : List Int} {values others : Int → List Value}
    (same : ∀ stamp ∈ stamps, values stamp = others stamp) :
    tabulate stamps values = tabulate stamps others :=
  List.map_congr_left fun stamp member => by rw [same stamp member]

theorem grown_nil (growing : Bool) (stamps : List Int) : grown growing stamps [] = stamps := by
  cases growing <;> simp [grown]

/-- Timestamps come up one by one. -/
theorem grown_cons (growing : Bool) (stamps : List Int) {stamp : Int} {later : List Int}
    (fresh : stamp ∉ later) :
    grown growing (grown growing stamps [stamp]) later = grown growing stamps (stamp :: later) := by
  cases growing with
  | false => rfl
  | true =>
    have others : later.filter (· ∉ grown true stamps [stamp]) = later.filter (· ∉ stamps) := by
      apply List.filter_congr
      intro other member
      have apart : other ≠ stamp := fun same => fresh (same ▸ member)
      simp [grown, apart]
    rw [grown, if_pos rfl, others]
    by_cases known : stamp ∈ stamps <;> simp [grown, known]

theorem nodup_grown {growing : Bool} {stamps later : List Int} (distinct : stamps.Nodup)
    (apart : later.Nodup) : (grown growing stamps later).Nodup := by
  unfold grown
  split
  · refine List.nodup_append'.2 ⟨distinct, apart.filter _, fun stamp old new => ?_⟩
    simpa [old] using (List.mem_filter.1 new).2
  · exact distinct

/-- A value is added at its timestamp; a new timestamp comes last. -/
theorem add_tabulate {growing : Bool} {stamps : List Int} {values : Int → List Value} {stamp : Int}
    (value : Value) (distinct : stamps.Nodup)
    (unused : growing = true → stamp ∉ stamps → values stamp = []) :
    Table.add growing stamp value (tabulate stamps values) =
      tabulate (grown growing stamps [stamp]) fun other =>
        values other ++ if other = stamp then [value] else [] := by
  induction stamps with
  | nil =>
    cases growing with
    | false => rfl
    | true => simp [tabulate, grown, Table.add, unused]
  | cons head rest ih =>
    obtain ⟨fresh, distinct⟩ := List.nodup_cons.1 distinct
    by_cases same : head = stamp
    · subst same
      have kept : grown growing (head :: rest) [head] = head :: rest := by
        simp [grown]
      have others : tabulate rest values =
          tabulate rest fun other => values other ++ if other = head then [value] else [] := by
        apply tabulate_congr
        intro other member
        have apart : other ≠ head := fun same => fresh (same ▸ member)
        rw [if_neg apart, List.append_nil]
      rw [kept, tabulate_cons, add_same, tabulate_cons, if_pos rfl, others]
    · have kept : grown growing (head :: rest) [stamp] = head :: grown growing rest [stamp] := by
        cases growing with
        | false => rfl
        | true => simp [grown, List.filter_cons, Ne.symm same]
      have unused : growing = true → stamp ∉ rest → values stamp = [] := fun grows new =>
        unused grows (by simp [Ne.symm same, new])
      rw [kept, tabulate_cons, add_other growing same, tabulate_cons, ih distinct unused,
        if_neg same, List.append_nil]

/-- Readings at different timestamps are added one after another. -/
theorem foldl_add_tabulate {growing : Bool} {stamps : List Int} {values : Int → List Value}
    {readings : List (Int × Value)} (distinct : stamps.Nodup)
    (apart : (readings.map (·.1)).Nodup)
    (unused : growing = true → ∀ stamp ∉ stamps, values stamp = []) :
    readings.foldl (fun (table : Table) (stamp, value) => table.add growing stamp value)
        (tabulate stamps values) =
      tabulate (grown growing stamps (readings.map (·.1))) fun stamp =>
        values stamp ++ (readings.lookup stamp).toList := by
  induction readings generalizing stamps values with
  | nil => simp [grown_nil]
  | cons reading rest ih =>
    obtain ⟨stamp, value⟩ := reading
    obtain ⟨fresh, apart⟩ := List.nodup_cons.1 apart
    have later (grows : growing = true) (other : Int) (new : other ∉ grown growing stamps [stamp]) :
        (values other ++ if other = stamp then [value] else []) = [] := by
      subst grows
      have old : other ∉ stamps := fun member => new (by simp [grown, member])
      have apart : other ≠ stamp := by
        rintro rfl
        exact new (by simp [grown, old])
      rw [unused rfl other old, if_neg apart]
      rfl
    rw [List.foldl_cons]
    simp only [add_tabulate value distinct fun grows => unused grows stamp]
    rw [ih (nodup_grown distinct (List.nodup_singleton stamp)) apart later, List.map_cons,
      grown_cons growing stamps fresh]
    refine tabulate_congr fun other _ => ?_
    by_cases same : other = stamp
    · subst same
      have none : rest.lookup other = none :=
        Option.not_isSome_iff_eq_none.1 fun found => fresh (lookup_isSome.1 found)
      simp [none]
    · simp [List.lookup_cons, beq_eq_false_iff_ne.2 same, same]

/-- A sequence adds the first value that it has at each timestamp. -/
theorem addAll_tabulate {growing : Bool} {stamps : List Int} {values : Int → List Value}
    (samples : Samples) (distinct : stamps.Nodup)
    (unused : growing = true → ∀ stamp ∉ stamps, values stamp = []) :
    addAll growing (tabulate stamps values) samples.readings =
      tabulate (grown growing stamps samples.stamps.eraseDups) fun stamp =>
        values stamp ++ (samples.valueAt? stamp).toList := by
  have apart : ((firstReadings samples.readings).map (·.1)).Nodup := by
    rw [stamps_firstReadings]
    exact nodup_eraseDups _
  rw [addAll, foldl_add_tabulate distinct apart unused, stamps_firstReadings]
  simp only [lookup_firstReadings]
  rfl

/-- The timestamps of sequences by their first appearance, each with the values of all sequences. -/
theorem foldl_addAll_tabulate (growing : Bool) (done sets : List Samples) (stamps : List Int)
    (distinct : stamps.Nodup)
    (all : growing = true → stamps = (done.flatMap Samples.stamps).eraseDups) :
    sets.foldl (fun (table : Table) samples => table.addAll growing samples.readings)
        (tabulate stamps fun stamp => done.filterMap (·.valueAt? stamp)) =
      tabulate (if growing then ((done ++ sets).flatMap Samples.stamps).eraseDups else stamps)
        fun stamp => (done ++ sets).filterMap (·.valueAt? stamp) := by
  induction sets generalizing done stamps with
  | nil =>
    rw [List.append_nil]
    cases growing with
    | false => rfl
    | true => rw [all rfl]; rfl
  | cons samples rest ih =>
    have unused (grows : growing = true) (stamp : Int) (new : stamp ∉ stamps) :
        done.filterMap (·.valueAt? stamp) = [] := by
      rw [List.filterMap_eq_nil_iff]
      intro other member
      refine Option.not_isSome_iff_eq_none.1 fun found => new ?_
      rw [all grows, List.mem_eraseDups, List.mem_flatMap]
      exact ⟨other, member, valueAt?_isSome.1 found⟩
    have values (stamp : Int) : (done.filterMap (·.valueAt? stamp)) ++
        (samples.valueAt? stamp).toList = (done ++ [samples]).filterMap (·.valueAt? stamp) := by
      rw [List.filterMap_append]
      cases found : samples.valueAt? stamp <;> simp [found]
    have next := ih (done ++ [samples]) (grown growing stamps samples.stamps.eraseDups)
      (nodup_grown distinct (nodup_eraseDups _)) fun grows => by
        subst grows
        rw [all rfl, List.flatMap_append, List.flatMap_singleton, eraseDups_append_filter]
        rfl
    simp only [List.foldl_cons, addAll_tabulate samples distinct unused, values]
    rw [next, List.append_assoc]
    cases growing with
    | true => rfl
    | false => rfl

end Table

end Samples

/-- Whether a policy keeps a timestamp: that of any sequence, of all of them, or of the first. -/
def MergePolicy.keeps (policy : MergePolicy) (sets : List Samples) (stamp : Int) : Bool :=
  match policy with
  | .keepAll => sets.any fun samples => stamp ∈ samples.stamps
  | .keepEqual => sets.all fun samples => stamp ∈ samples.stamps
  | .keepFirst => sets.head?.any fun samples => stamp ∈ samples.stamps

namespace Samples

/-- The timestamps of several sequences in the order of their first appearance. -/
def allStamps (sets : List Samples) : List Int :=
  (sets.flatMap stamps).eraseDups

/-- The values that several sequences have at a timestamp, in the order of the sequences. -/
def valuesAt (sets : List Samples) (stamp : Int) : List Value :=
  sets.filterMap (·.valueAt? stamp)

namespace Table

/-- What sequences are collected into: the timestamps that are kept, by their first appearance, each
with the values of all sequences. -/
theorem collect_cons (policy : MergePolicy) (first : Samples) (rest : List Samples) :
    collect policy (first :: rest) =
      tabulate (if policy != .keepFirst then allStamps (first :: rest)
        else first.stamps.eraseDups) (valuesAt (first :: rest)) := by
  have start : addAll true [] first.readings =
      tabulate first.stamps.eraseDups fun stamp => [first].filterMap (·.valueAt? stamp) := by
    have added : addAll true (tabulate [] fun _ => []) first.readings =
        tabulate (grown true [] first.stamps.eraseDups) fun stamp =>
          [] ++ (first.valueAt? stamp).toList :=
      addAll_tabulate first List.nodup_nil fun _ _ _ => rfl
    refine added.trans ?_
    have whole : grown true [] first.stamps.eraseDups = first.stamps.eraseDups := by
      simp [grown]
    rw [whole]
    refine tabulate_congr fun stamp _ => ?_
    cases found : first.valueAt? stamp <;> simp [found]
  rw [collect, start]
  exact foldl_addAll_tabulate (policy != .keepFirst) [first] rest first.stamps.eraseDups
    (nodup_eraseDups _) fun _ => by rw [List.flatMap_singleton]

end Table

theorem length_valuesAt {sets : List Samples} {stamp : Int} :
    ((valuesAt sets stamp).length == sets.length) = MergePolicy.keepEqual.keeps sets stamp := by
  rw [Bool.eq_iff_iff, beq_iff_eq, valuesAt, List.filterMap_length_eq_length]
  simp [MergePolicy.keeps, valueAt?_isSome]

/-- The timestamps of the first sequence come first. -/
theorem filter_first (first : Samples) (rest : List Samples) :
    (allStamps (first :: rest)).filter (· ∈ first.stamps) = first.stamps.eraseDups := by
  have own : first.stamps.eraseDups.filter (· ∈ first.stamps) = first.stamps.eraseDups := by
    rw [List.filter_eq_self]
    intro stamp member
    simpa [List.mem_eraseDups] using member
  have others : ((rest.flatMap stamps).eraseDups.filter (· ∉ first.stamps.eraseDups)).filter
      (· ∈ first.stamps) = [] := by
    rw [List.filter_eq_nil_iff]
    intro stamp member
    simpa [List.mem_eraseDups] using (List.mem_filter.1 member).2
  rw [allStamps, List.flatMap_cons, eraseDups_append_filter, List.filter_append, own, others,
    List.append_nil]

/-- A merge has the timestamps that its policy keeps, in the order of their first appearance, each
with the values that the sequences have at it. -/
theorem elements_merge (policy : MergePolicy) (sets : List Samples) :
    (merge policy sets).elements =
      ((allStamps sets).filter (policy.keeps sets)).map fun stamp =>
        .merged stamp (.pending (valuesAt sets stamp)) := by
  cases sets with
  | nil => cases policy <;> rfl
  | cons first rest =>
    have held (stamps : List Int) :
        (Table.tabulate stamps (valuesAt (first :: rest))).map (fun entry =>
          Element.merged entry.1 (.pending entry.2)) =
        stamps.map fun stamp => .merged stamp (.pending (valuesAt (first :: rest) stamp)) := by
      rw [Table.tabulate, List.map_map]
      rfl
    have table := Table.collect_cons policy first rest
    unfold merge
    cases policy with
    | keepAll =>
      have all : (allStamps (first :: rest)).filter (MergePolicy.keepAll.keeps (first :: rest)) =
          allStamps (first :: rest) := by
        rw [List.filter_eq_self]
        intro stamp member
        rw [allStamps, List.mem_eraseDups, List.mem_flatMap] at member
        simpa [MergePolicy.keeps] using member
      rw [table, all]
      exact held _
    | keepEqual =>
      have kept : (allStamps (first :: rest)).filter
          (MergePolicy.keepEqual.keeps (first :: rest)) = (allStamps (first :: rest)).filter
            fun stamp => (valuesAt (first :: rest) stamp).length == (first :: rest).length :=
        List.filter_congr fun stamp _ => length_valuesAt.symm
      rw [table, kept, ← held]
      simp only [Table.tabulate, if_true, List.filter_map]
      rfl
    | keepFirst =>
      have kept : (allStamps (first :: rest)).filter
          (MergePolicy.keepFirst.keeps (first :: rest)) = first.stamps.eraseDups :=
        filter_first first rest
      rw [table, kept]
      exact held _

/-- Every element of a merge holds the values of the sequences at its timestamp. -/
theorem merged_of_mem_merge {policy : MergePolicy} {sets : List Samples} {element : Element}
    (member : element ∈ (merge policy sets).elements) :
    ∃ stamp, element = .merged stamp (.pending (valuesAt sets stamp)) := by
  rw [elements_merge] at member
  obtain ⟨stamp, -, rfl⟩ := List.mem_map.1 member
  exact ⟨stamp, rfl⟩

/-- What is merged are values of the sequences. -/
theorem exists_of_mem_valuesAt {sets : List Samples} {stamp : Int} {value : Value}
    (member : value ∈ valuesAt sets stamp) :
    ∃ samples ∈ sets, (stamp, value) ∈ samples.readings := by
  obtain ⟨samples, inside, found⟩ := List.mem_filterMap.1 member
  exact ⟨samples, inside, mem_of_lookup found⟩

section LinedUp

variable {ι κ : Type} {stamp : ι → Int} {items : List ι}

theorem lookup_map_of_mem (value : ι → Value) (distinct : (items.map stamp).Nodup) {item : ι}
    (member : item ∈ items) :
    (items.map fun item => (stamp item, value item)).lookup (stamp item) = some (value item) := by
  induction items with
  | nil => cases member
  | cons first rest ih =>
    rw [List.map_cons, List.nodup_cons] at distinct
    rw [List.map_cons, List.lookup_cons]
    rcases List.mem_cons.1 member with rfl | later
    · simp
    · have other : stamp item ≠ stamp first := fun same =>
        distinct.1 (same ▸ List.mem_map_of_mem later)
      rw [beq_eq_false_iff_ne.2 other]
      exact ih distinct.2 later

/-- Sequences that line up are merged timestamp by timestamp, whatever the policy. -/
theorem merge_along (policy : MergePolicy) {samples : κ → Samples} {value : κ → ι → Value}
    (distinct : (items.map stamp).Nodup) {sets : List κ} (some : sets ≠ [])
    (along : ∀ set ∈ sets,
      (samples set).readings = items.map fun item => (stamp item, value set item)) :
    (merge policy (sets.map samples)).elements = items.map fun item =>
      .merged (stamp item) (.pending (sets.map (value · item))) := by
  have own (set : κ) (member : set ∈ sets) : (samples set).stamps = items.map stamp := by
    rw [stamps, along set member, List.map_map]
    rfl
  have all : allStamps (sets.map samples) = items.map stamp := by
    cases sets with
    | nil => exact absurd rfl some
    | cons first rest =>
      have later : ∀ other ∈ (rest.map samples).flatMap stamps, other ∈ items.map stamp := by
        intro other member
        obtain ⟨_, inside, found⟩ := List.mem_flatMap.1 member
        obtain ⟨set, member, rfl⟩ := List.mem_map.1 inside
        rwa [own set (List.mem_cons_of_mem _ member)] at found
      have none : ((rest.map samples).flatMap stamps).eraseDups.filter (· ∉ items.map stamp) =
          [] := by
        rw [List.filter_eq_nil_iff]
        intro other member
        simpa using later other (List.mem_eraseDups.1 member)
      rw [allStamps, List.map_cons, List.flatMap_cons, own first List.mem_cons_self,
        eraseDups_append_filter, eraseDups_of_nodup distinct, none, List.append_nil]
  have kept : (items.map stamp).filter (policy.keeps (sets.map samples)) = items.map stamp := by
    rw [List.filter_eq_self]
    intro other member
    have everywhere : ∀ set ∈ sets, other ∈ (samples set).stamps := fun set inside =>
      (own set inside) ▸ member
    cases sets with
    | nil => exact absurd rfl some
    | cons first rest =>
      cases policy <;> simp_all [MergePolicy.keeps]
  rw [elements_merge, all, kept, List.map_map]
  refine List.map_congr_left fun item member => ?_
  have values : valuesAt (sets.map samples) (stamp item) = sets.map (value · item) := by
    rw [valuesAt, List.filterMap_map, ← List.filterMap_eq_map]
    refine List.filterMap_congr fun set inside => ?_
    rw [Function.comp_apply, valueAt?, along set inside]
    exact lookup_map_of_mem (value set) distinct member
  simp only [Function.comp_apply, values]

end LinedUp

end Samples

end CalendarSeries
