import CalendarSeries.Text.Blank
/-!
The words of a command line, told apart: options with their values, and the words that are no
options. An option's value follows an equals sign or is the next word, whatever that looks like;
after a bare `--` no word is an option.
-/
namespace CalendarSeries.CommandLine

inductive OptionForm where
  | flag
  | valued
  deriving DecidableEq, Repr

/-- The options of a command. -/
abbrev OptionTable := List (String × OptionForm)

structure Words where
  /-- The options in their order; flags have an empty value. -/
  options : List (String × String) := []
  others : List String := []
  deriving DecidableEq, Repr

namespace Words

def addOption (name value : String) (words : Words) : Words :=
  { words with options := (name, value) :: words.options }

def addOther (word : String) (words : Words) : Words :=
  { words with others := word :: words.others }

def isOption (word : String) : Bool :=
  match word.toList with
  | '-' :: _ :: _ => true
  | _ => false

/-- An option's name, and the value after an equals sign. -/
def splitOption (word : String) : String × Option String :=
  match Text.splitFirst '=' word.toList with
  | some (name, value) => (String.ofList name, some (String.ofList value))
  | none => (word, none)

/-- Tells words apart; nothing if an option is unknown, lacks its value or has one too many. Unless
options may stand among the other words, the first other word ends them. -/
def read (table : OptionTable) (mixed : Bool) : List String → Option Words
  | [] => some {}
  | word :: rest =>
    if word = "--" then some { others := rest }
    else if isOption word then
      let (name, given) := splitOption word
      match table.lookup name, given, rest with
      | some .flag, none, rest => (read table mixed rest).map (addOption name "")
      | some .valued, some value, rest => (read table mixed rest).map (addOption name value)
      | some .valued, none, value :: rest => (read table mixed rest).map (addOption name value)
      | _, _, _ => none
    else if mixed then (read table mixed rest).map (addOther word)
    else some { others := word :: rest }

def has (words : Words) (name : String) : Bool :=
  words.options.any (·.1 == name)

/-- The value of an option; the last one counts. -/
def value? (words : Words) (name : String) : Option String :=
  words.options.reverse.lookup name

/-- Which of two opposite flags comes last, if either does. -/
def lastOf (words : Words) (yes no : String) : Option Bool :=
  (words.options.reverse.find? fun (name, _) => name = yes || name = no).map (·.1 == yes)

end Words

end CalendarSeries.CommandLine
