import CalendarSeries.Error
import CalendarSeries.Text.Path
/-!
Environment variables, and files with settings for them. A file has a variable on each line that
has an equals sign; blanks around name and value do not count, nor does one pair of quotes around
a value, and lines that start with a number sign are comments.
-/
namespace CalendarSeries

open CalendarSeries.Text

/-- Variables with their values, in the order in which they were first set. -/
abbrev Environment := List (String × String)

namespace Environment

def get? (environment : Environment) (name : String) : Option String :=
  environment.lookup name

def getOr (environment : Environment) (name default : String) : String :=
  (environment.get? name).getD default

/-- The variables with one of them set. -/
def put (environment : Environment) (name value : String) : Environment :=
  match environment with
  | [] => [(name, value)]
  | (other, old) :: rest =>
    if other = name then (name, value) :: rest else (other, old) :: put rest name value

def remove (environment : Environment) (name : String) : Environment :=
  environment.filter (·.1 != name)

def hasNul (content : String) : Bool :=
  content.toList.contains '\x00'

/-- Why a variable cannot be set, if so. -/
def refusal (name value : String) : Option Error :=
  if hasNul name || hasNul value then some .embeddedNul
  else if name.toList.contains '=' then some .illegalName
  else if name = "" then some .invalidVariable
  else none

def set (environment : Environment) (name value : String) : Except Error Environment :=
  match refusal name value with
  | some error => .error error
  | none => .ok (environment.put name value)

end Environment

namespace EnvFile

/-- The lines of a text; a line may end with a carriage return, a line feed, or both. -/
def lines (cs : List Char) : List (List Char) :=
  match cs with
  | [] => [[]]
  | '\r' :: '\n' :: rest => [] :: lines rest
  | c :: rest =>
    if c = '\n' ∨ c = '\r' then [] :: lines rest
    else
      match lines rest with
      | [] => [[c]]
      | line :: more => (c :: line) :: more

/-- Whether a value has a quote at both ends. -/
def isQuoted (quote : Char) (value : List Char) : Bool :=
  value.head? == some quote && value.getLast? == some quote

/-- A value without the quotes around it. -/
def unquote (value : List Char) : List Char :=
  if isQuoted '"' value || isQuoted '\'' value then (value.drop 1).dropLast else value

/-- The variable that a line sets. -/
def ofLine? (line : List Char) : Option (String × String) := do
  let line := strip line
  if line.head? = some '#' then none
  let (name, value) ← splitFirst '=' line
  some (String.ofList (strip name), String.ofList (unquote (strip value)))

/-- The variables of a file. -/
def entries (content : String) : List (String × String) :=
  (lines content.toList).filterMap ofLine?

/-- Sets variables in turn, up to one that cannot be set. -/
def setAll (environment : Environment) :
    List (String × String) → Environment × Option Error
  | [] => (environment, none)
  | (name, value) :: rest =>
    match environment.set name value with
    | .ok environment => setAll environment rest
    | .error error => (environment, some error)

/-- Sets the variables of a file. -/
def load (environment : Environment) (content : String) : Environment × Option Error :=
  setAll environment (entries content)

end EnvFile

end CalendarSeries
