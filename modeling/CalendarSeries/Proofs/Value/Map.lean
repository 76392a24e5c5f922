import CalendarSeries.Value.Equality
/-!
Maps as lists of entries. Where being the same key is an equivalence, what is put under a key is
found under it, and the entries of a map whose keys are told apart stay as they are.
-/
namespace CalendarSeries

namespace Value

/-- Keys on which being the same is an equivalence, as it is on texts. -/
structure AreKeys (isKey : Value → Prop) : Prop where
  same_self : ∀ key, isKey key → sameKey key key = true
  alike : ∀ key other third, isKey key → isKey other → isKey third →
    sameKey key other = true → sameKey key third = sameKey other third

/-- Entries of a map: their keys are told apart. -/
structure IsMap (isKey : Value → Prop) (entries : List (Value × Value)) : Prop where
  keys : ∀ entry ∈ entries, isKey entry.1
  distinct : entries.Pairwise fun entry other => sameKey entry.1 other.1 = false

theorem sameKey_text (content other : String) :
    sameKey (.text content) (.text other) = (content == other) := by
  simp [sameKey, equal, equalSimple, number?, integer?, text?]

theorem areKeys_text : AreKeys fun key => ∃ content, key = .text content where
  same_self := by
    rintro _ ⟨content, rfl⟩
    rw [sameKey_text]
    exact beq_self_eq_true content
  alike := by
    rintro _ _ _ ⟨content, rfl⟩ ⟨other, rfl⟩ ⟨third, rfl⟩ same
    rw [sameKey_text] at same
    rw [beq_iff_eq.1 same]

variable {isKey : Value → Prop} {key : Value} {value : Value} {entries : List (Value × Value)}

theorem AreKeys.symm (lawful : AreKeys isKey) {other : Value} (known : isKey key)
    (also : isKey other) (same : sameKey key other = true) : sameKey other key = true := by
  rw [← lawful.alike key other key known also known same]
  exact lawful.same_self key known

theorem lookup?_cons (wanted key value : Value) (entries : List (Value × Value)) :
    lookup? wanted ((key, value) :: entries) =
      if sameKey key wanted then some value else lookup? wanted entries := by
  simp only [lookup?, List.find?_cons]
  cases sameKey key wanted <;> rfl

/-- An entry is put under its key and under no other. -/
theorem lookup?_put (lawful : AreKeys isKey) (keyed : ∀ entry ∈ entries, isKey entry.1)
    (known : isKey key) {wanted : Value} (asked : isKey wanted) :
    lookup? wanted (put key value entries) =
      if sameKey key wanted then some value else lookup? wanted entries := by
  induction entries with
  | nil => rw [put, lookup?_cons]
  | cons entry rest ih =>
    obtain ⟨held, old⟩ := entry
    have heldKnown : isKey held := keyed (held, old) List.mem_cons_self
    have rest := ih fun entry member => keyed entry (List.mem_cons_of_mem _ member)
    unfold put
    split
    · rename_i same
      rw [lookup?_cons, lookup?_cons, lawful.alike held key wanted heldKnown known asked same]
      split <;> rfl
    · rename_i other
      rw [lookup?_cons, lookup?_cons, rest]
      by_cases found : sameKey held wanted = true
      · have apart : sameKey key wanted = false := by
          rw [Bool.eq_false_iff]
          intro same
          have back := lawful.symm known asked same
          exact other ((lawful.alike held wanted key heldKnown asked known found).trans back)
        rw [if_pos found, if_neg (by rw [apart]; nofun), if_pos found]
      · rw [if_neg found, if_neg found]

theorem mem_put {entry : Value × Value} (member : entry ∈ put key value entries) :
    entry.1 = key ∨ ∃ held ∈ entries, entry.1 = held.1 := by
  induction entries with
  | nil =>
    rw [List.mem_singleton.1 member]
    exact .inl rfl
  | cons head rest ih =>
    obtain ⟨held, old⟩ := head
    unfold put at member
    split at member
    · rcases List.mem_cons.1 member with rfl | later
      · exact .inr ⟨(held, old), List.mem_cons_self, rfl⟩
      · exact .inr ⟨entry, List.mem_cons_of_mem _ later, rfl⟩
    · rcases List.mem_cons.1 member with rfl | later
      · exact .inr ⟨(held, old), List.mem_cons_self, rfl⟩
      · rcases ih later with same | ⟨found, inside, same⟩
        · exact .inl same
        · exact .inr ⟨found, List.mem_cons_of_mem _ inside, same⟩

/-- What is put into a map leaves a map. -/
theorem IsMap.put (map : IsMap isKey entries) (known : isKey key) :
    IsMap isKey (Value.put key value entries) where
  keys entry member := by
    rcases mem_put member with same | ⟨held, inside, same⟩
    · rwa [same]
    · rw [same]
      exact map.keys held inside
  distinct := by
    obtain ⟨-, distinct⟩ := map
    induction entries with
    | nil => exact List.pairwise_singleton _ _
    | cons head rest ih =>
      obtain ⟨held, old⟩ := head
      obtain ⟨apart, distinct⟩ := List.pairwise_cons.1 distinct
      unfold Value.put
      split
      · exact List.pairwise_cons.2 ⟨apart, distinct⟩
      · rename_i other
        refine List.pairwise_cons.2 ⟨fun entry member => ?_, ih distinct⟩
        rcases mem_put member with same | ⟨found, inside, same⟩
        · rw [same]
          exact Bool.eq_false_iff.2 other
        · rw [same]
          exact apart found inside

/-- All entries of a map, put in turn. -/
def putAll (entries kept : List (Value × Value)) : List (Value × Value) :=
  entries.foldl (fun kept (key, value) => put key value kept) kept

theorem IsMap.putAll {kept : List (Value × Value)} (map : IsMap isKey kept)
    (keyed : ∀ entry ∈ entries, isKey entry.1) : IsMap isKey (Value.putAll entries kept) := by
  induction entries generalizing kept with
  | nil => exact map
  | cons entry rest ih =>
    exact ih (map.put (keyed entry List.mem_cons_self)) fun other member =>
      keyed other (List.mem_cons_of_mem _ member)

/-- A map that is put over another decides on the keys that it has. -/
theorem lookup?_putAll (lawful : AreKeys isKey) (map : IsMap isKey entries)
    {kept : List (Value × Value)} (keyed : IsMap isKey kept) {wanted : Value}
    (asked : isKey wanted) :
    lookup? wanted (putAll entries kept) =
      (lookup? wanted entries).or (lookup? wanted kept) := by
  induction entries generalizing kept with
  | nil => rfl
  | cons entry rest ih =>
    obtain ⟨key, value⟩ := entry
    obtain ⟨keys, distinct⟩ := map
    obtain ⟨apart, distinct⟩ := List.pairwise_cons.1 distinct
    have known : isKey key := keys (key, value) List.mem_cons_self
    have later : IsMap isKey rest :=
      ⟨fun other member => keys other (List.mem_cons_of_mem _ member), distinct⟩
    have added : IsMap isKey (Value.put key value kept) := keyed.put known
    have step := ih later added
    rw [lookup?_put lawful keyed.keys known asked] at step
    refine step.trans ?_
    rw [lookup?_cons]
    by_cases same : sameKey key wanted = true
    · have absent : lookup? wanted rest = Option.none := by
        rw [lookup?, Option.map_eq_none_iff, List.find?_eq_none]
        intro other member found
        have back := lawful.symm (later.keys other member) asked found
        have others := lawful.alike key wanted other.1 known asked (later.keys other member) same
        rw [apart other member, back] at others
        cases others
      rw [absent, if_pos same, if_pos same]
      rfl
    · rw [if_neg same, if_neg same]

/-- A new key comes last. -/
theorem put_eq_append (new : ∀ entry ∈ entries, sameKey entry.1 key = false) :
    put key value entries = entries ++ [(key, value)] := by
  induction entries with
  | nil => rfl
  | cons head rest ih =>
    obtain ⟨held, old⟩ := head
    obtain ⟨other, later⟩ := List.forall_mem_cons.1 new
    rw [put, if_neg (Bool.eq_false_iff.1 other), ih later, List.cons_append]

theorem putAll_eq_append {kept : List (Value × Value)}
    (apart : (kept ++ entries).Pairwise fun entry other => sameKey entry.1 other.1 = false) :
    putAll entries kept = kept ++ entries := by
  induction entries generalizing kept with
  | nil => rw [List.append_nil]; rfl
  | cons entry rest ih =>
    have new : ∀ held ∈ kept, sameKey held.1 entry.1 = false := fun held member =>
      (List.pairwise_append.1 apart).2.2 held member entry List.mem_cons_self
    rw [List.append_cons] at apart ⊢
    rw [← ih apart, ← put_eq_append new]
    rfl

/-- Entries whose keys are told apart are all kept, in order. -/
theorem distinct_eq_self
    (apart : entries.Pairwise fun entry other => sameKey entry.1 other.1 = false) :
    distinct entries = entries :=
  putAll_eq_append (by rwa [List.nil_append])

end Value

end CalendarSeries
