import CalendarSeries.Proofs.Text.Words
import CalendarSeries.Text.Path
/-!
The short form of a path is its own short form.
-/
namespace CalendarSeries.Text

/-- Whether a step of a path leads somewhere. -/
structure IsStep (step : List Char) : Prop where
  solid : ∀ c ∈ step, (c == '/') = false
  nonempty : step ≠ []
  leads : step ≠ ['.']

variable {step : List Char} {steps : List (List Char)}

theorem isStep_of_mem {cs : List Char} (member : step ∈ pathSteps cs) : IsStep step := by
  obtain ⟨cut, leads⟩ := List.mem_filter.1 member
  rw [Bool.and_eq_true, bne_iff_ne] at leads
  refine ⟨fun c inside => ?_, by simpa using leads.1, leads.2⟩
  have whole := not_of_mem_splitWhen cut inside
  exact whole

theorem pathSteps_slash (cs : List Char) : pathSteps ('/' :: cs) = pathSteps cs := by
  simp [pathSteps, splitWhen]

theorem pathSteps_of_isStep (isStep : IsStep step) : pathSteps step = [step] := by
  rw [pathSteps, splitWhen_eq_splitOnP, List.splitOnP_eq_singleton isStep.solid]
  simp [isStep.nonempty, isStep.leads]

theorem pathSteps_append_slash (isStep : IsStep step) (rest : List Char) :
    pathSteps (step ++ '/' :: rest) = step :: pathSteps rest := by
  rw [pathSteps, splitWhen_eq_splitOnP,
    List.splitOnP_append_cons_of_forall_mem isStep.solid '/' rfl rest, pathSteps,
    splitWhen_eq_splitOnP]
  simp [isStep.nonempty, isStep.leads]

theorem pathSteps_joinWith (each : ∀ step ∈ steps, IsStep step) :
    pathSteps (joinWith ['/'] steps) = steps := by
  induction steps with
  | nil => rfl
  | cons step rest ih =>
    obtain ⟨first, later⟩ := List.forall_mem_cons.1 each
    cases rest with
    | nil => rw [joinWith, pathSteps_of_isStep first]
    | cons next rest =>
      rw [joinWith, List.append_assoc, List.singleton_append, pathSteps_append_slash first,
        ih later]
      nofun

/-- Steps that are joined do not begin with a slash. -/
theorem takeWhile_joinWith (each : ∀ step ∈ steps, IsStep step) :
    (joinWith ['/'] steps).takeWhile (· == '/') = [] := by
  cases steps with
  | nil => rfl
  | cons step rest =>
    have isStep := each step List.mem_cons_self
    obtain ⟨first, others, rfl⟩ := List.exists_cons_of_ne_nil isStep.nonempty
    have solid := isStep.solid first List.mem_cons_self
    cases rest with
    | nil => rw [joinWith, List.takeWhile_cons_of_neg (by simp [solid])]
    | cons next rest =>
      rw [joinWith, List.cons_append, List.cons_append,
        List.takeWhile_cons_of_neg (by simp [solid])]
      nofun

theorem pathRoot_cases (cs : List Char) :
    pathRoot cs = [] ∨ pathRoot cs = ['/'] ∨ pathRoot cs = ['/', '/'] := by
  unfold pathRoot
  split
  · exact .inl rfl
  · exact .inr (.inr rfl)
  · exact .inr (.inl rfl)

/-- A root and steps are those of the path that they make up. -/
theorem parts_of_short {root : List Char}
    (short : root = [] ∨ root = ['/'] ∨ root = ['/', '/'])
    (each : ∀ step ∈ steps, IsStep step) :
    pathRoot (root ++ joinWith ['/'] steps) = root ∧
      pathSteps (root ++ joinWith ['/'] steps) = steps := by
  have joined := pathSteps_joinWith each
  have bare := takeWhile_joinWith each
  rcases short with rfl | rfl | rfl <;>
    simp [pathRoot, pathSteps_slash, joined, bare]

theorem shortPath_shortPath (path : String) : shortPath (shortPath path) = shortPath path := by
  have each : ∀ step ∈ pathSteps path.toList, IsStep step := fun _ => isStep_of_mem
  obtain ⟨root, steps⟩ := parts_of_short (pathRoot_cases path.toList) each
  cases parts : pathRoot path.toList ++ joinWith ['/'] (pathSteps path.toList) with
  | nil =>
    have dot : shortPath path = "." := by rw [shortPath, parts]
    rw [dot]
    decide
  | cons first rest =>
    have short : shortPath path = String.ofList (first :: rest) := by rw [shortPath, parts]
    rw [parts] at root steps
    rw [short, shortPath, String.toList_ofList, root, steps, parts]

end CalendarSeries.Text
