import CalendarSeries.Text.Case
/-!
Duplicate policies: what a series does with a sample at a timestamp that it already has.
-/
namespace CalendarSeries

inductive DuplicatePolicy where
  | block
  | first
  | last
  | minimum
  | maximum
  | sum
  deriving DecidableEq, Repr

namespace DuplicatePolicy

def word : DuplicatePolicy → String
  | block => "block"
  | first => "first"
  | last => "last"
  | minimum => "min"
  | maximum => "max"
  | sum => "sum"

def all : List DuplicatePolicy :=
  [block, first, last, minimum, maximum, sum]

/-- The policy of a name in any case. -/
def ofName? (name : String) : Option DuplicatePolicy :=
  all.find? (·.word == Text.lower name)

/-- The option of a creation command. -/
def creationOption : String := "DUPLICATE_POLICY"

/-- The option of an addition. -/
def additionOption : String := "ON_DUPLICATE"

def render (policy : DuplicatePolicy) : String :=
  creationOption ++ " " ++ policy.word

end DuplicatePolicy

end CalendarSeries
