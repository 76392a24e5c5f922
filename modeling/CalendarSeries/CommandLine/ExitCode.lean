import CalendarSeries.Error
/-!
Exit codes, which tell a caller whose fault a failure is.
-/
namespace CalendarSeries

inductive ExitCode where
  | success
  | usage
  | configuration
  | unexpected
  | remote
  deriving DecidableEq, Repr

namespace ExitCode

def number : ExitCode → Nat
  | success => 0
  | usage => 2
  | configuration => 6
  | unexpected => 7
  | remote => 8

def ofFamily : FailureKind.Family → ExitCode
  | .configuration => configuration
  | .remote => remote
  | .unexpected => unexpected

def ofError (error : Error) : ExitCode :=
  ofFamily error.kind.family

end ExitCode

end CalendarSeries
