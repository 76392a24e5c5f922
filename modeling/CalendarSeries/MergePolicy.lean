/-!
Merge policies: which timestamps survive when several sequences of samples are merged.
-/
namespace CalendarSeries

inductive MergePolicy where
  /-- Every timestamp of any sequence. -/
  | keepAll
  /-- The timestamps that all sequences have. -/
  | keepEqual
  /-- The timestamps of the first sequence. -/
  | keepFirst
  deriving DecidableEq, Repr

namespace MergePolicy

def word : MergePolicy → String
  | keepAll => "keep_all"
  | keepEqual => "keep_equal"
  | keepFirst => "keep_first"

def all : List MergePolicy :=
  [keepAll, keepEqual, keepFirst]

def ofWord? (text : String) : Option MergePolicy :=
  all.find? (·.word == text)

end MergePolicy

end CalendarSeries
