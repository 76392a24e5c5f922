import CalendarSeries.Value.Conversion
/-!
Duplicate policies from arguments.
-/
namespace CalendarSeries.DuplicatePolicy

/-- The policy that an argument names. -/
def ofValue (value : Value) : Except Error DuplicatePolicy :=
  match ofName? value.render with
  | some policy => .ok policy
  | none => .error (.unknownPolicy (Text.lower value.render))

end CalendarSeries.DuplicatePolicy
