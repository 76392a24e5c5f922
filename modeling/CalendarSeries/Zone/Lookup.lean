import CalendarSeries.Text.Blank
import CalendarSeries.Zone.Table
import CalendarSeries.Zone.Timetable
/-!
Zones by name. The exact look-up takes a name as the path of a zone file and refuses paths that
lead elsewhere; the lenient one takes any case and finds a timetable.
-/
namespace CalendarSeries.Zone

open CalendarSeries.Text

/-- Why a name gives no zone. -/
inductive Unknown where
  | absolute (name : String)
  | notNormal (name : String)
  | outside (name : String)
  | nul
  | missing (name : String)
  | noTimetable (name : String)
  deriving DecidableEq, Repr

/-- The zone of exactly this name. -/
def named? (name : String) : Option Zone :=
  known.find? (·.name == name)

def names : List String :=
  known.map (·.name)

/-- One step of a relative path onto the steps before it, the last one first. -/
def normalStep (steps : List (List Char)) (step : List Char) : List (List Char) :=
  if step = [] ∨ step = ['.'] then steps
  else if step ≠ ['.', '.'] ∨ steps.head? = none ∨ steps.head? = some ['.', '.'] then step :: steps
  else steps.drop 1

/-- The steps of a relative path without empty ones, `.`, and those that `..` takes back. -/
def normalSteps (path : List Char) : List (List Char) :=
  ((splitWhen (· == '/') path).foldl normalStep []).reverse

def normalPath (path : List Char) : List Char :=
  match normalSteps path with
  | [] => ['.']
  | steps => joinWith ['/'] steps

/-- The zone whose file has this name as its path. -/
def find (name : String) : Except Unknown Zone :=
  let path := name.toList
  if path.head? = some '/' then .error (.absolute name)
  else if (normalPath path).length ≠ path.length then .error (.notNormal name)
  else if (normalSteps path).headD ['.', '.'] = ['.', '.'] then .error (.outside name)
  else if path.contains '\x00' then .error .nul
  else match named? name with
    | some zone => .ok zone
    | none => .error (.missing name)

/-- Whether two names differ at most in the case of ASCII letters. -/
def sameLetters (a b : String) : Bool :=
  a.toList.map Char.toLower == b.toList.map Char.toLower

/-- A text with every occurrence of a word replaced; `fuel` is the length of the text. -/
def replaceWord (word replacement : List Char) : Nat → List Char → List Char
  | 0, cs => cs
  | _, [] => []
  | fuel + 1, c :: cs =>
    if word.isPrefixOf (c :: cs) then
      replacement ++ replaceWord word replacement fuel ((c :: cs).drop word.length)
    else c :: replaceWord word replacement fuel cs

/-- A name with the signs written in words. -/
def spelledSigns (name : String) : String :=
  let cs := name.toList
  let plus := replaceWord "_plus_".toList ['+'] cs.length cs
  String.ofList (replaceWord "_minus_".toList ['-'] plus.length plus)

def isAscii (name : String) : Bool :=
  name.toList.all (·.toNat < 0x80)

/-- The timetable of the zone of this name in any case. -/
def timetable (name : String) : Except Unknown Timetable :=
  if !isAscii name then .error (.noTimetable name)
  else
    let name := spelledSigns name
    match known.find? fun zone => sameLetters zone.name name with
    | some zone => .ok (.ofZone zone)
    | none => .error (.noTimetable name)

end CalendarSeries.Zone
