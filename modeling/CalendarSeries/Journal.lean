/-!
Notes for the log: a level, the component that speaks, and a message.
-/
namespace CalendarSeries

inductive Level where
  | trace
  | debug
  | info
  | success
  | warning
  | error
  | critical
  deriving DecidableEq, Repr

namespace Level

def name : Level → String
  | trace => "TRACE"
  | debug => "DEBUG"
  | info => "INFO"
  | success => "SUCCESS"
  | warning => "WARNING"
  | error => "ERROR"
  | critical => "CRITICAL"

def severity : Level → Nat
  | trace => 5
  | debug => 10
  | info => 20
  | success => 25
  | warning => 30
  | error => 40
  | critical => 50

def all : List Level :=
  [trace, debug, info, success, warning, error, critical]

def ofName? (name : String) : Option Level :=
  all.find? (·.name == name)

end Level

/-- The parts of the program that speak. -/
inductive Component where
  | client
  | planner
  | samples
  | commandLine
  deriving DecidableEq, Repr

namespace Component

def name : Component → String
  | client => "client"
  | planner => "planner"
  | samples => "samples"
  | commandLine => "cli"

def all : List Component :=
  [client, planner, samples, commandLine]

end Component

structure Note where
  level : Level
  component : Component
  message : String
  deriving DecidableEq, Repr

end CalendarSeries
