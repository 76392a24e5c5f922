import CalendarSeries.Instant
/-!
Arguments as they are sent: a flat list of texts. Lists are opened, nothing at all is left out, a
point in time becomes milliseconds, and a decimal is written without an exponent.
-/
namespace CalendarSeries.Wire

/-- An argument that is no list, in words. -/
def word (value : Value) : String :=
  match value with
  | .moment wall place =>
    Value.intText (Instant.milliseconds (Instant.ofReading wall place))
  | .unit unit => unit.word
  | .mergePolicy policy => policy.word
  | .decimal x => x.plain
  | _ => value.render

mutual

/-- The words of one argument. -/
def argument : Value → List String
  | .none => []
  | .list items => arguments items
  | .tuple items => arguments items
  | value => [word value]

/-- The words of several arguments. -/
def arguments : List Value → List String
  | [] => []
  | value :: values => argument value ++ arguments values

end

end CalendarSeries.Wire
