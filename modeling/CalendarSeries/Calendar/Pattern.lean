import CalendarSeries.Calendar.Date
import CalendarSeries.Text.Digit
/-!
Days and months as short options: `2024-03-31` and `2024-03`. The year has four digits; month and
day have one or two, and a space may stand for a day's leading zero.
-/
namespace CalendarSeries.Pattern

open CalendarSeries.Text

inductive Fault where
  | mismatch
  | leftOver (rest : List Char)
  | yearOutOfRange (year : Int)
  | dayOutOfRange
  deriving DecidableEq, Repr

def isBetween (low high c : Char) : Bool :=
  low ≤ c && c ≤ high

def readYear (cs : List Char) : Option (Nat × List Char) := do
  if cs.length < 4 then none
  let values ← (cs.take 4).mapM decimalValue
  some (digitsValue values, cs.drop 4)

def hyphen : List Char → Option (List Char)
  | '-' :: cs => some cs
  | _ => none

/-- The longest month number at the head of a text. -/
def readMonth : List Char → Option (Nat × List Char)
  | '1' :: c :: cs => if isBetween '0' '2' c then some (c.toNat - 38, cs) else some (1, c :: cs)
  | '0' :: c :: cs => if isBetween '1' '9' c then some (c.toNat - 48, cs) else none
  | c :: cs => if isBetween '1' '9' c then some (c.toNat - 48, cs) else none
  | [] => none

/-- A day number of two digits, if there is one at the head of a text. -/
def readTwoDigitDay : List Char → Option (Nat × List Char)
  | '3' :: c :: cs => if isBetween '0' '1' c then some (c.toNat - 18, cs) else none
  | '0' :: c :: cs => if isBetween '1' '9' c then some (c.toNat - 48, cs) else none
  | ' ' :: c :: cs => if isBetween '1' '9' c then some (c.toNat - 48, cs) else none
  | tens :: c :: cs =>
    if tens = '1' ∨ tens = '2' then
      (decimalValue c).map fun units => ((tens.toNat - 48) * 10 + units, cs)
    else none
  | _ => none

/-- The longest day number at the head of a text. -/
def readDay (cs : List Char) : Option (Nat × List Char) :=
  match readTwoDigitDay cs with
  | some found => some found
  | none =>
    match cs with
    | c :: cs => if isBetween '1' '9' c then some (c.toNat - 48, cs) else none
    | [] => none

/-- The date that was read, if the calendar has it. -/
def checked (date : Date) (rest : List Char) : Except Fault Date :=
  if !rest.isEmpty then .error (.leftOver rest)
  else if !Date.yearInRange date.year then .error (.yearOutOfRange date.year)
  else if !date.isValid then .error .dayOutOfRange
  else .ok date

/-- Reads a day such as `2024-03-31`. -/
def day (cs : List Char) : Except Fault Date :=
  let parts := do
    let (year, cs) ← readYear cs
    let (month, cs) ← readMonth (← hyphen cs)
    let (day, cs) ← readDay (← hyphen cs)
    some (Date.mk year month day, cs)
  match parts with
  | none => .error .mismatch
  | some (date, rest) => checked date rest

/-- Reads a month such as `2024-03`, as its first day. -/
def month (cs : List Char) : Except Fault Date :=
  let parts := do
    let (year, cs) ← readYear cs
    let (month, cs) ← readMonth (← hyphen cs)
    some (Date.mk year month 1, cs)
  match parts with
  | none => .error .mismatch
  | some (date, rest) => checked date rest

end CalendarSeries.Pattern
