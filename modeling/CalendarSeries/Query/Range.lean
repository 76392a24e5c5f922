import CalendarSeries.Instant
import CalendarSeries.Value.Conversion
/-!
Sub-ranges of a query and chunks of its timestamps.
-/
namespace CalendarSeries

namespace TimeRange

/-- A sub-range from a pair of points in time. -/
def ofPair (assumed : Instant.Assumed) (value : Value) : Except Error TimeRange := do
  let (start, stop) ← value.pair
  let start ← Instant.ofValue assumed start
  .ok ⟨start, ← Instant.ofValue assumed stop⟩

/-- A sub-range from an argument: one already, a range of numbers without its end, or a pair. -/
def ofValue (assumed : Instant.Assumed) (value : Value) : Except Error TimeRange :=
  match value with
  | .timeRange range => .ok range
  | .range start stop _ => .ok ⟨start, stop - 1⟩
  | _ =>
    match ofPair assumed value with
    | .ok range => if range.stop < range.start then .error (.invertedTimeRange value) else .ok range
    | .error error => .error (if error.isTypeOrValue then .notATimeRange value else error)

end TimeRange

/-- Consecutive chunks of at most `size` items, for a positive size. -/
def chunksOf (size : Nat) (items : List α) : List (List α) :=
  if _ : 0 < size ∧ items ≠ [] then
    items.take size :: chunksOf size (items.drop size)
  else []
termination_by items.length
decreasing_by
  rename_i proper
  have : items.length ≠ 0 := fun h => proper.2 (List.length_eq_zero_iff.1 h)
  simp only [List.length_drop]
  omega

/-- A chunk size from an argument. -/
def chunkSize (value : Value) : Except Error Nat := do
  if ← value.isBelow 1 then .error (.chunkNotPositive value.render)
  else match value.integer? with
    | some n => .ok n.toNat
    | none => .error (.wrongType "a chunk size is a whole number")

end CalendarSeries
