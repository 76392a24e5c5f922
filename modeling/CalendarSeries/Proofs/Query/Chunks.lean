import CalendarSeries.Query.Range
import Mathlib.Algebra.Order.Floor.Div
/-!
Chunks of a list. They hold its items in their order, none is empty or too long, and all but the
last are full, so there are as few of them as can be.
-/
namespace CalendarSeries

variable {α : Type} {size : Nat} {items : List α} {parts : List (List α)}

/-- Items dealt out one after another, to full parts as long as there are enough. -/
structure Chunked (size : Nat) (items : List α) (parts : List (List α)) : Prop where
  whole : parts.flatten = items
  bounded : ∀ part ∈ parts, 1 ≤ part.length ∧ part.length ≤ size
  full : ∀ part ∈ parts.dropLast, part.length = size

theorem Chunked.cons {part : List α} (long : part.length = size) (positive : 0 < size)
    (chunked : Chunked size items parts) : Chunked size (part ++ items) (part :: parts) where
  whole := by rw [List.flatten_cons, chunked.whole]
  bounded := List.forall_mem_cons.2 ⟨by omega, chunked.bounded⟩
  full := by
    cases parts with
    | nil => nofun
    | cons next rest =>
      rw [List.dropLast_cons_cons]
      exact List.forall_mem_cons.2 ⟨long, chunked.full⟩

/-- There are as many parts as the quotient rounded up. -/
theorem Chunked.length (positive : 0 < size) (chunked : Chunked size items parts) :
    parts.length = items.length ⌈/⌉ size := by
  rw [← chunked.whole, Nat.ceilDiv_eq_add_pred_div]
  have bounded := chunked.bounded
  have full := chunked.full
  clear chunked
  induction parts with
  | nil =>
    have below : 0 + size - 1 < size := by omega
    exact (Nat.div_eq_of_lt below).symm
  | cons part rest ih =>
    obtain ⟨proper, bounded⟩ := List.forall_mem_cons.1 bounded
    cases rest with
    | nil =>
      rw [List.flatten_singleton, List.length_singleton]
      have below : part.length + size - 1 = part.length - 1 + size := by omega
      rw [below, Nat.add_div_right _ positive, Nat.div_eq_of_lt (by omega)]
    | cons next rest =>
      rw [List.dropLast_cons_cons] at full
      obtain ⟨long, full⟩ := List.forall_mem_cons.1 full
      obtain ⟨some, -⟩ := List.forall_mem_cons.1 bounded
      have count : (part :: next :: rest).length = (next :: rest).length + 1 := rfl
      have total : (part :: next :: rest).flatten.length =
          size + (next :: rest).flatten.length := by
        rw [List.flatten_cons, List.length_append, long]
      have more : 1 ≤ (next :: rest).flatten.length := by
        rw [List.flatten_cons, List.length_append]
        omega
      have above : size + (next :: rest).flatten.length + size - 1 =
          (next :: rest).flatten.length + size - 1 + size := by omega
      rw [count, total, ih bounded full, above, Nat.add_div_right _ positive]

/-- Items are cut into chunks. -/
theorem chunked_chunksOf (positive : 0 < size) (items : List α) :
    Chunked size items (chunksOf size items) := by
  induction items using chunksOf.induct size with
  | case1 items proper ih =>
    rw [chunksOf, dif_pos proper]
    by_cases last : items.length ≤ size
    · -- the last chunk holds what is left
      have some := List.length_pos_iff.2 proper.2
      rw [List.take_of_length_le last, List.drop_of_length_le last, chunksOf,
        dif_neg fun more => more.2 rfl]
      exact ⟨List.flatten_singleton, by simp; omega, nofun⟩
    · have chunked := ih.cons (List.length_take_of_le (Nat.le_of_not_le last)) positive
      rwa [List.take_append_drop] at chunked
  | case2 items ended =>
    rw [chunksOf, dif_neg ended, not_not.1 fun some => ended ⟨positive, some⟩]
    exact ⟨rfl, nofun, nofun⟩

theorem chunksOf_eq_nil_iff (positive : 0 < size) : chunksOf size items = [] ↔ items = [] := by
  constructor
  · intro none
    rw [← (chunked_chunksOf positive items).whole, none, List.flatten_nil]
  · rintro rfl
    rw [chunksOf, dif_neg fun some => some.2 rfl]

theorem nil_not_mem_chunksOf : [] ∉ chunksOf size items := by
  intro member
  cases size with
  | zero =>
    rw [chunksOf, dif_neg (by simp)] at member
    cases member
  | succ size =>
    have := ((chunked_chunksOf size.succ_pos items).bounded [] member).1
    simp at this

end CalendarSeries
