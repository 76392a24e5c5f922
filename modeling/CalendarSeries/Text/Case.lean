import CalendarSeries.Text.CaseTable
import CalendarSeries.Text.Printable
/-!
Lower and upper case of Unicode text. A character may become several (`ß` is raised to `SS`), and
a capital sigma is lowered to its final form where it ends a word.
-/
namespace CalendarSeries.Text

/-- The shift of the first run that holds `n`, if any. -/
def runShift (n : Nat) : List (Nat × Nat × Nat × Int) → Option Int
  | [] => none
  | (first, last, step, shift) :: runs =>
    if first ≤ n && n ≤ last && (n - first) % step == 0 then some shift else runShift n runs

/-- One character under a case mapping given by its runs and its expansions. -/
def mapCase (runs : List (Nat × Nat × Nat × Int)) (expansions : List (Nat × List Nat))
    (c : Char) : List Char :=
  match runShift c.toNat runs with
  | some shift => [Char.ofNat ((c.toNat : Int) + shift).toNat]
  | none =>
    match expansions.lookup c.toNat with
    | some codes => codes.map Char.ofNat
    | none => [c]

def lowerChar (c : Char) : List Char :=
  if c.toNat < 0x80 then [c.toLower] else mapCase lowerRuns lowerExpansions c

def upperChar (c : Char) : List Char :=
  if c.toNat < 0x80 then [c.toUpper] else mapCase upperRuns upperExpansions c

/-- Whether the nearest character that is not passed over has a case. -/
def nextIsCased : List Char → Bool
  | [] => false
  | c :: cs =>
    if inAscending caseIgnoredRanges c.toNat then nextIsCased cs
    else inAscending casedRanges c.toNat

/-- Lowers a text whose part before it, read backwards, is `before`. -/
def lowerFrom (before : List Char) : List Char → List Char
  | [] => []
  | c :: cs =>
    let lowered :=
      if c.toNat = 0x3A3 then
        [Char.ofNat (if nextIsCased before && !nextIsCased cs then 0x3C2 else 0x3C3)]
      else lowerChar c
    lowered ++ lowerFrom (c :: before) cs

def lower (text : String) : String :=
  String.ofList (lowerFrom [] text.toList)

def upper (text : String) : String :=
  String.ofList (text.toList.flatMap upperChar)

end CalendarSeries.Text
