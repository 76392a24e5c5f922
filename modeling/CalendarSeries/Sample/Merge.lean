import CalendarSeries.Journal
import CalendarSeries.Sample.Basic
/-!
Merging sequences of samples by timestamp. Each sequence contributes at most one value to a
timestamp, its first; the result has the timestamps in the order in which they first appear.
-/
namespace CalendarSeries

namespace MergePolicy

/-- The policy of an argument: a policy itself or its name. -/
def ofValue (value : Value) : Except Error MergePolicy :=
  match value.text?.bind ofWord? with
  | some policy => .ok policy
  | none => .error (.unknownMergePolicy value)

end MergePolicy

namespace Samples

/-- The first reading at each timestamp. -/
def firstReadings : List (Int × Value) → List (Int × Value)
  | [] => []
  | reading :: rest => reading :: (firstReadings rest).filter (·.1 != reading.1)

/-- The values collected for each timestamp. -/
abbrev Table := List (Int × List Value)

/-- Adds a value at its timestamp, a new timestamp only where the table is `growing`. -/
def Table.add (growing : Bool) (stamp : Int) (value : Value) : Table → Table
  | [] => if growing then [(stamp, [value])] else []
  | (other, values) :: table =>
    if other = stamp then (other, values ++ [value]) :: table
    else (other, values) :: Table.add growing stamp value table

/-- Adds what one sequence contributes. -/
def Table.addAll (growing : Bool) (table : Table) (readings : List (Int × Value)) : Table :=
  (firstReadings readings).foldl (fun table (stamp, value) => table.add growing stamp value) table

/-- The table of several sequences. After the first one a table that keeps its timestamps no
longer grows. -/
def Table.collect (policy : MergePolicy) : List Samples → Table
  | [] => []
  | first :: rest =>
    rest.foldl (fun table samples => table.addAll (policy != .keepFirst) samples.readings)
      (Table.addAll true [] first.readings)

/-- The metadata of several sequences: under each key the value of the earliest that has it. -/
def mergedMetadata (sets : List Samples) : List (Value × Value) :=
  sets.reverse.foldl
    (fun kept samples =>
      samples.metadata.foldl (fun kept (key, value) => Value.put key value kept) kept)
    []

/-- One sequence of the values that several sequences have at each timestamp. -/
def merge (policy : MergePolicy) (sets : List Samples) : Samples :=
  let table := Table.collect policy sets
  let kept :=
    if policy = .keepEqual then table.filter fun (_, values) => values.length == sets.length
    else table
  ⟨kept.map fun (stamp, values) => .merged stamp (.pending values), mergedMetadata sets⟩

/-- What is noted of marks of failure, which a merge passes over. -/
def mergeNotes (sets : List Samples) : List Note :=
  sets.zipIdx.flatMap fun (samples, index) =>
    samples.failures.map fun error =>
      ⟨.warning, .samples, "Skipping error marker in series #" ++ Value.intText index ++
        " during merge: " ++ error.message⟩

end Samples

end CalendarSeries
