import CalendarSeries.Settings.Environment
import Mathlib.Data.Option.Basic
/-!
What variables an environment has after some are set. A variable has the value that was set last;
the others keep theirs. Setting several stops before the first that cannot be set.
-/
namespace CalendarSeries.Environment

variable {environment : Environment} {assignments : List (String × String)}

theorem get?_cons (name value : String) (environment : Environment) (other : String) :
    get? ((name, value) :: environment) other =
      if other = name then some value else environment.get? other := by
  rw [get?, List.lookup_cons]
  split
  · rename_i same
    rw [if_pos (beq_iff_eq.1 same)]
  · rename_i apart
    rw [if_neg (by simpa using apart)]
    rfl

theorem get?_put (environment : Environment) (name value other : String) :
    (environment.put name value).get? other =
      if other = name then some value else environment.get? other := by
  induction environment with
  | nil => exact get?_cons name value [] other
  | cons entry rest ih =>
    obtain ⟨held, old⟩ := entry
    rw [put]
    split
    · rename_i same
      rw [get?_cons, get?_cons, same]
      split <;> rfl
    · rename_i apart
      rw [get?_cons, get?_cons, ih]
      by_cases found : other = held
      · rw [if_pos found, if_pos found, if_neg fun same => apart (found.symm.trans same)]
      · rw [if_neg found, if_neg found]

/-- The variables with several of them set in turn. -/
def putAll (environment : Environment) (assignments : List (String × String)) : Environment :=
  assignments.foldl (fun environment entry => environment.put entry.1 entry.2) environment

/-- The value that is set last is the one that a variable has. -/
theorem get?_putAll (environment : Environment) (assignments : List (String × String))
    (name : String) :
    (environment.putAll assignments).get? name =
      (assignments.reverse.lookup name).or (environment.get? name) := by
  induction assignments generalizing environment with
  | nil => rfl
  | cons entry rest ih =>
    obtain ⟨set, value⟩ := entry
    rw [putAll, List.foldl_cons, ← putAll, ih, get?_put, List.reverse_cons, List.lookup_append,
      Option.or_assoc]
    congr 1
    rw [List.lookup_cons]
    by_cases same : name = set
    · rw [if_pos same, beq_iff_eq.2 same]
      rfl
    · rw [if_neg same, beq_eq_false_iff_ne.2 same]
      rfl

theorem get?_putAll_of_not_mem {name : String}
    (absent : name ∉ assignments.map Prod.fst) :
    (environment.putAll assignments).get? name = environment.get? name := by
  rw [get?_putAll, List.lookup_eq_none_iff.2, Option.none_or]
  intro entry member
  rw [bne_iff_ne]
  rintro rfl
  exact absent (List.mem_map_of_mem (List.mem_reverse.1 member))

/-- A variable that is set has the same value whatever it had before. -/
theorem get?_putAll_of_mem {name : String} (member : name ∈ assignments.map Prod.fst)
    (environment other : Environment) :
    (environment.putAll assignments).get? name = (other.putAll assignments).get? name := by
  obtain ⟨entry, inside, rfl⟩ := List.mem_map.1 member
  have found : (assignments.reverse.lookup entry.1).isSome := by
    rw [List.lookup_isSome_iff]
    exact ⟨entry, List.mem_reverse.2 inside, beq_self_eq_true _⟩
  obtain ⟨value, found⟩ := Option.isSome_iff_exists.1 found
  rw [get?_putAll, get?_putAll, found]
  rfl

/-- Whether a variable can be set: it has a name without an equals sign, and there is no NUL. -/
def Sets (entry : String × String) : Prop :=
  refusal entry.1 entry.2 = none

instance (entry : String × String) : Decidable (Sets entry) :=
  inferInstanceAs (Decidable (_ = none))

theorem sets_iff {name value : String} :
    Sets (name, value) ↔
      name ≠ "" ∧ '=' ∉ name.toList ∧ '\x00' ∉ name.toList ∧ '\x00' ∉ value.toList := by
  simp only [Sets, refusal, hasNul, Bool.or_eq_true, List.contains_iff_mem]
  grind

end CalendarSeries.Environment

namespace CalendarSeries.EnvFile

open Environment

/-- Variables are set up to the first that is refused. -/
theorem setAll_eq (environment : Environment) (assignments : List (String × String)) :
    setAll environment assignments =
      (environment.putAll (assignments.takeWhile fun entry => Sets entry),
        assignments.findSome? fun entry => refusal entry.1 entry.2) := by
  induction assignments generalizing environment with
  | nil => rfl
  | cons entry rest ih =>
    obtain ⟨name, value⟩ := entry
    rw [setAll, Environment.set]
    cases refused : refusal name value with
    | none =>
      have sets : Sets (name, value) := refused
      dsimp only
      rw [ih, List.takeWhile_cons_of_pos (by simpa using sets), List.findSome?_cons, refused]
      rfl
    | some error =>
      have sticks : ¬Sets (name, value) := fun sets => by cases refused.symm.trans sets
      dsimp only
      rw [List.takeWhile_cons_of_neg (by simpa using sticks), List.findSome?_cons, refused]
      rfl

end CalendarSeries.EnvFile
