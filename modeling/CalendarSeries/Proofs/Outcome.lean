import CalendarSeries.Error
import Mathlib.Data.List.Forall2
/-!
Reading off computations that may fail what their steps came to.
-/
namespace CalendarSeries

variable {α β ε : Type}

theorem bind_failed {first : Except ε α} {next : α → Except ε β} {error : ε}
    (failed : (first >>= next) = .error error) :
    first = .error error ∨ ∃ result, first = .ok result ∧ next result = .error error := by
  cases first with
  | error =>
    cases failed
    exact .inl rfl
  | ok result => exact .inr ⟨result, rfl, failed⟩

theorem bind_succeeded {first : Except ε α} {next : α → Except ε β} {value : β}
    (succeeded : (first >>= next) = .ok value) :
    ∃ result, first = .ok result ∧ next result = .ok value := by
  cases first with
  | error => cases succeeded
  | ok result => exact ⟨result, rfl, succeeded⟩

theorem map_failed {result : Except ε α} {f : α → β} {error : ε}
    (failed : result.map f = .error error) : result = .error error := by
  cases result with
  | error =>
    cases failed
    rfl
  | ok => cases failed

theorem map_succeeded {result : Except ε α} {f : α → β} {value : β}
    (succeeded : result.map f = .ok value) : ∃ found, result = .ok found ∧ f found = value := by
  cases result with
  | error => cases succeeded
  | ok found =>
    cases succeeded
    exact ⟨found, rfl, rfl⟩

theorem mapError_succeeded {δ : Type} {result : Except ε α} {f : ε → δ} {value : α}
    (succeeded : result.mapError f = .ok value) : result = .ok value := by
  cases result with
  | error => cases succeeded
  | ok => cases succeeded; rfl

theorem mapM_failed {f : α → Except ε β} {items : List α} {error : ε}
    (failed : items.mapM f = .error error) : ∃ item ∈ items, f item = .error error := by
  induction items with
  | nil => cases failed
  | cons item items ih =>
    rw [List.mapM_cons] at failed
    rcases bind_failed failed with found | ⟨result, -, failed⟩
    · exact ⟨item, List.mem_cons_self, found⟩
    rcases bind_failed failed with rest | ⟨results, -, failed⟩
    · obtain ⟨other, member, reason⟩ := ih rest
      exact ⟨other, List.mem_cons_of_mem _ member, reason⟩
    · cases failed

theorem exists_mapM_ok {f : α → Except ε β} {items : List α}
    (each : ∀ item ∈ items, ∃ result, f item = .ok result) :
    ∃ results, items.mapM f = .ok results := by
  cases mapped : items.mapM f with
  | ok results => exact ⟨results, rfl⟩
  | error error =>
    obtain ⟨item, member, failed⟩ := mapM_failed mapped
    obtain ⟨result, found⟩ := each item member
    cases failed.symm.trans found

theorem mapM_cons_ok {f : α → Except ε β} {first : α} {rest : List α} {results : List β}
    (mapped : (first :: rest).mapM f = .ok results) :
    ∃ result others, f first = .ok result ∧ rest.mapM f = .ok others ∧
      results = result :: others := by
  rw [List.mapM_cons] at mapped
  obtain ⟨result, found, mapped⟩ := bind_succeeded mapped
  obtain ⟨others, following, mapped⟩ := bind_succeeded mapped
  cases mapped
  exact ⟨result, others, found, following, rfl⟩

theorem mapM_ok_iff {f : α → Except ε β} {items : List α} {results : List β} :
    items.mapM f = .ok results ↔
      List.Forall₂ (fun item result => f item = .ok result) items results := by
  constructor
  · intro mapped
    induction items generalizing results with
    | nil =>
      cases mapped
      exact .nil
    | cons item items ih =>
      obtain ⟨result, others, found, rest, rfl⟩ := mapM_cons_ok mapped
      exact .cons found (ih rest)
  · intro each
    induction each with
    | nil => rfl
    | cons found _ ih =>
      rw [List.mapM_cons, found, ih]
      rfl

/-- A traversal fails with the failure of the first item that has one. -/
theorem mapM_error_iff {f : α → Except ε β} {items : List α} {error : ε} :
    items.mapM f = .error error ↔
      ∃ before item after, items = before ++ item :: after ∧
        (∀ earlier ∈ before, ∃ result, f earlier = .ok result) ∧ f item = .error error := by
  constructor
  · intro failed
    induction items with
    | nil => cases failed
    | cons first items ih =>
      rw [List.mapM_cons] at failed
      rcases bind_failed failed with found | ⟨result, succeeded, failed⟩
      · exact ⟨[], first, items, rfl, by simp, found⟩
      rcases bind_failed failed with rest | ⟨results, -, failed⟩
      · obtain ⟨before, item, after, rfl, earlier, found⟩ := ih rest
        exact ⟨first :: before, item, after, rfl,
          List.forall_mem_cons.2 ⟨⟨result, succeeded⟩, earlier⟩, found⟩
      · cases failed
  · rintro ⟨before, item, after, rfl, earlier, found⟩
    obtain ⟨results, mapped⟩ := exists_mapM_ok earlier
    rw [List.mapM_append, mapped, List.mapM_cons, found]
    rfl

theorem length_of_mapM {f : α → Except ε β} {items : List α} {results : List β}
    (mapped : items.mapM f = .ok results) : results.length = items.length := by
  induction items generalizing results with
  | nil =>
    cases mapped
    rfl
  | cons item items ih =>
    obtain ⟨result, others, -, rest, rfl⟩ := mapM_cons_ok mapped
    rw [List.length_cons, List.length_cons, ih rest]

theorem exists_of_mem_mapM {f : α → Except ε β} {items : List α} {results : List β}
    (mapped : items.mapM f = .ok results) {result : β} (member : result ∈ results) :
    ∃ item ∈ items, f item = .ok result := by
  induction items generalizing results with
  | nil =>
    cases mapped
    cases member
  | cons item items ih =>
    obtain ⟨first, others, found, rest, rfl⟩ := mapM_cons_ok mapped
    rcases List.mem_cons.1 member with rfl | later
    · exact ⟨item, List.mem_cons_self, found⟩
    · obtain ⟨other, inside, found⟩ := ih rest later
      exact ⟨other, List.mem_cons_of_mem _ inside, found⟩

theorem exists_mem_of_mapM {f : α → Except ε β} {items : List α} {results : List β}
    (mapped : items.mapM f = .ok results) {item : α} (member : item ∈ items) :
    ∃ result ∈ results, f item = .ok result := by
  induction items generalizing results with
  | nil => cases member
  | cons head items ih =>
    obtain ⟨first, others, found, rest, rfl⟩ := mapM_cons_ok mapped
    rcases List.mem_cons.1 member with rfl | later
    · exact ⟨first, List.mem_cons_self, found⟩
    · obtain ⟨result, inside, found⟩ := ih rest later
      exact ⟨result, List.mem_cons_of_mem _ inside, found⟩

theorem exists_ok_of_mapM {f : α → Except ε β} {items : List α} {results : List β}
    (mapped : items.mapM f = .ok results) {item : α} (member : item ∈ items) :
    ∃ result, f item = .ok result := by
  obtain ⟨result, -, found⟩ := exists_mem_of_mapM mapped member
  exact ⟨result, found⟩

/-- What is done to each item beforehand may as well be done to each result. -/
theorem mapM_map_comm {γ δ : Type} {f : α → Except ε β} {g : γ → Except ε δ} {into : γ → α}
    {out : δ → β} (each : ∀ item, f (into item) = (g item).map out) (items : List γ) :
    (items.map into).mapM f = (items.mapM g).map (List.map out) := by
  induction items with
  | nil => rfl
  | cons item items ih =>
    rw [List.map_cons, List.mapM_cons, List.mapM_cons, each, ih]
    cases g item with
    | error => rfl
    | ok => cases items.mapM g <;> rfl

/-- A traversal whose steps all succeed is a map. -/
theorem mapM_of_forall {m : Type → Type} [Monad m] [LawfulMonad m] {f : α → m β} {g : α → β}
    {items : List α} (each : ∀ item ∈ items, f item = pure (g item)) :
    items.mapM f = pure (items.map g) := by
  induction items with
  | nil => rfl
  | cons item items ih =>
    have rest := ih fun other member => each other (List.mem_cons_of_mem _ member)
    rw [List.mapM_cons, each item List.mem_cons_self, rest, pure_bind, pure_bind, List.map_cons]

end CalendarSeries
