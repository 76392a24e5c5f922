import CalendarSeries.CommandLine.Words
import CalendarSeries.MergePolicy
import CalendarSeries.Number.Whole
import CalendarSeries.Sample.Calculation
/-!
What a command line asks for: the samples of one key, or those of several keys combined, over the
same kinds of ranges and buckets.
-/
namespace CalendarSeries.CommandLine

/-- The part of a series that is asked for, and how it is shown. -/
structure Selection where
  start : Option String := none
  stop : Option String := none
  day : Option String := none
  month : Option String := none
  zone : Option String := none
  includeEmpty : Bool := true
  asJson : Bool := false
  statistic : Option String := none
  bucket : Option String := none
  deriving DecidableEq, Repr

inductive Command where
  | range (key : String) (reverse : Bool) (count : Option Int)
  | combine (keys : List String) (policy : MergePolicy) (reduction : Reduction)
    (places : Option Int)
  deriving DecidableEq, Repr

structure Invocation where
  envFile : Option String
  debug : Bool
  selection : Selection
  command : Command
  deriving DecidableEq, Repr

/-- What the words of a command line come to. -/
inductive Request where
  | help
  | misused
  | invoked (invocation : Invocation)
  deriving DecidableEq, Repr

namespace Invocation

def helpOptions : OptionTable :=
  [("--help", .flag), ("-h", .flag)]

def generalOptions : OptionTable :=
  [("--env-file", .valued), ("--debug", .flag)] ++ helpOptions

def selectionOptions : OptionTable :=
  [("--from", .valued), ("--to", .valued), ("--day", .valued), ("--month", .valued),
   ("--tz", .valued), ("--empty", .flag), ("--no-empty", .flag), ("--json", .flag),
   ("--agg", .valued), ("--bucket", .valued)] ++ helpOptions

def rangeOptions : OptionTable :=
  [("--reverse", .flag), ("--count", .valued)] ++ selectionOptions

def combineOptions : OptionTable :=
  [("--policy", .valued), ("--op", .valued), ("--round", .valued)] ++ selectionOptions

def asksForHelp (words : Words) : Bool :=
  words.has "--help" || words.has "-h"

def readSelection (words : Words) : Selection :=
  { start := words.value? "--from"
    stop := words.value? "--to"
    day := words.value? "--day"
    month := words.value? "--month"
    zone := words.value? "--tz"
    includeEmpty := (words.lastOf "--empty" "--no-empty").getD true
    asJson := words.has "--json"
    statistic := words.value? "--agg"
    bucket := words.value? "--bucket" }

/-- A whole number from an option that may be left out. -/
def readNumber (word : Option String) : Option (Option Int) :=
  match word with
  | none => some none
  | some word =>
    match Whole.read word.toList with
    | .ok n => some (some n)
    | .error _ => none

/-- The range command; it has one key, and a count is positive. -/
def readRange (words : Words) : Option Command := do
  let [key] := words.others | none
  let count ← readNumber (words.value? "--count")
  if count.any (· < 1) then none
  some (.range key (words.has "--reverse") count)

/-- The combine command; it has keys, a statistic, a bucket and a reduction. -/
def readCombine (words : Words) : Option Command := do
  if words.others.isEmpty || !words.has "--agg" || !words.has "--bucket" then none
  let policy ← MergePolicy.ofWord? ((words.value? "--policy").getD MergePolicy.keepAll.word)
  let reduction ← (words.value? "--op").bind Reduction.ofWord?
  let places ← readNumber (words.value? "--round")
  some (.combine words.others policy reduction places)

/-- The options of a command, and how the command is read. -/
def commandNamed? (name : String) : Option (OptionTable × (Words → Option Command)) :=
  if name = "range" then some (rangeOptions, readRange)
  else if name = "combine" then some (combineOptions, readCombine)
  else none

def readCommand (general : Words) (name : String) (rest : List String) : Request :=
  match commandNamed? name with
  | none => .misused
  | some (table, readCommand) =>
    match Words.read table true rest with
    | none => .misused
    | some words =>
      if asksForHelp words then .help
      else match readCommand words with
        | none => .misused
        | some command =>
          .invoked ⟨general.value? "--env-file", general.has "--debug", readSelection words, command⟩

/-- Reads a command line: general options, a command, then what belongs to the command. The file
with settings must not be a directory. -/
def read (isDirectory : String → Bool) (args : List String) : Request :=
  if args.isEmpty then .help
  else match Words.read generalOptions false args with
    | none => .misused
    | some general =>
      if asksForHelp general then .help
      else if (general.value? "--env-file").any isDirectory then .misused
      else match general.others with
        | [] => .misused
        | name :: rest => readCommand general name rest

end Invocation

end CalendarSeries.CommandLine
