import CalendarSeries.Text.Blank
/-!
File paths in their short form: no repeated slashes, no `.` steps, no slash at the end. Two slashes
at the start stay, more become one, and a path without steps is `.`; steps of `..` stay.
-/
namespace CalendarSeries.Text

/-- The slashes that the short form of a path starts with. -/
def pathRoot (cs : List Char) : List Char :=
  match (cs.takeWhile (· == '/')).length with
  | 0 => []
  | 2 => ['/', '/']
  | _ => ['/']

/-- The steps of a path that lead somewhere. -/
def pathSteps (cs : List Char) : List (List Char) :=
  (splitWhen (· == '/') cs).filter fun step => !step.isEmpty && step != ['.']

/-- The short form of a path. -/
def shortPath (path : String) : String :=
  let cs := path.toList
  match pathRoot cs ++ joinWith ['/'] (pathSteps cs) with
  | [] => "."
  | short => String.ofList short

end CalendarSeries.Text
