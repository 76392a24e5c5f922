import Mathlib.Data.List.Basic
/-!
Gathering items for each of several owners, by the number of an owner or by what it owns. Nothing is
gathered twice, and nothing that has an owner is left out.
-/
namespace CalendarSeries

variable {α β γ : Type}

/-- What has one owner at most is listed once if the owners list what they own. -/
theorem flatMap_filter_perm {owns : β → α → Bool} {owners : List β} {items : List α}
    (apart : owners.Pairwise fun owner other => ∀ item ∈ items,
      owns owner item = true → owns other item = false) :
    (owners.flatMap fun owner => items.filter (owns owner)).Perm
      (items.filter fun item => owners.any (owns · item)) := by
  induction owners with
  | nil => simp
  | cons owner owners ih =>
    obtain ⟨others, apart⟩ := List.pairwise_cons.1 apart
    -- of what has an owner, the first owner takes its own and leaves the rest
    let owned := items.filter fun item => (owner :: owners).any (owns · item)
    have own : owned.filter (owns owner) = items.filter (owns owner) := by
      rw [List.filter_filter]
      refine List.filter_congr fun item _ => ?_
      cases taken : owns owner item <;> simp [taken]
    have rest : (owned.filter fun item => !owns owner item) =
        items.filter fun item => owners.any (owns · item) := by
      rw [List.filter_filter]
      refine List.filter_congr fun item member => ?_
      cases taken : owns owner item with
      | false => simp [taken]
      | true =>
        have none : owners.any (owns · item) = false :=
          List.any_eq_false.2 fun other among => by simp [others other among item member taken]
        simp [none]
    have halves := List.filter_append_perm (owns owner) owned
    rw [own, rest] at halves
    exact ((ih apart).append_left _).trans halves

/-- Numbers that are not read make no difference. -/
theorem flatMap_zipIdx (f : β → List γ) (items : List β) :
    (items.zipIdx.flatMap fun item => f item.1) = items.flatMap f := by
  conv_rhs => rw [← List.zipIdx_map_fst 0 items, List.flatMap_map]

theorem filter_flatMap_before {items : List β} (f : β → List γ) {start index : Nat}
    (before : index < start) :
    ((items.zipIdx start).flatMap fun (item, number) => (f item).map (number, ·)).filter
      (·.1 == index) = [] := by
  rw [List.filter_eq_nil_iff]
  intro pair member
  obtain ⟨numbered, inside, made⟩ := List.mem_flatMap.1 member
  obtain ⟨result, -, rfl⟩ := List.mem_map.1 made
  have := List.le_snd_of_mem_zipIdx inside
  simp only [beq_iff_eq]
  omega

/-- What is gathered for one of the items that stand one after another. -/
theorem gathered_eq {items : List β} (f : β → List γ) {item : β} (start offset : Nat)
    (there : items[offset]? = some item) :
    (((items.zipIdx start).flatMap fun (item, number) => (f item).map (number, ·)).filter
      (·.1 == start + offset)).map (·.2) = f item := by
  induction items generalizing start offset with
  | nil => simp at there
  | cons first items ih =>
    rw [List.zipIdx_cons, List.flatMap_cons, List.filter_append]
    cases offset with
    | zero =>
      cases there
      rw [filter_flatMap_before f (by omega), List.append_nil, List.filter_map]
      simp [Function.comp_def]
    | succ offset =>
      have later := ih (start + 1) offset (by simpa using there)
      rw [List.filter_map, show start + (offset + 1) = start + 1 + offset by omega]
      have other : (start == start + 1 + offset) = false := by simp; omega
      simp only [Function.comp_def, other, List.filter_false, List.map_nil, List.nil_append]
      exact later

/-- Items by their numbers. -/
theorem flatMap_range_eq {items : List β} {f : Nat → List γ} {g : β → List γ}
    (each : ∀ (index : Nat) (item : β), items[index]? = some item → f index = g item) :
    (List.range items.length).flatMap f = items.flatMap g := by
  induction items generalizing f with
  | nil => rfl
  | cons item items ih =>
    have rest := @ih (fun index => f (index + 1)) fun index other there =>
      each (index + 1) other (by simpa using there)
    rw [List.length_cons, List.range_succ_eq_map, List.flatMap_cons, List.flatMap_map, rest,
      each 0 item rfl, List.flatMap_cons]

end CalendarSeries
