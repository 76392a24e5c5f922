import CalendarSeries.Text.Blank
import CalendarSeries.Text.Digit
/-!
Whole numbers as text: an optional sign, then digits with single underscores allowed between
them, blanks around. A text of more than `digitLimit` digits is refused for its length.
-/
namespace CalendarSeries.Whole

open CalendarSeries.Text

inductive Fault where
  | malformed
  | tooLong (digits : Nat)
  deriving DecidableEq, Repr

/-- The greatest number of digits that is read. -/
def digitLimit : Nat := 4300

/-- The values of digits that may be grouped by single underscores. -/
def groupedDigits (value : Char → Option Nat) : List Char → Option (List Nat)
  | [] => none
  | [c] => (value c).map ([·])
  | c :: '_' :: cs => do return (← value c) :: (← groupedDigits value cs)
  | c :: cs => do return (← value c) :: (← groupedDigits value cs)

/-- Takes a leading sign off; `true` for minus. -/
def splitSign : List Char → Bool × List Char
  | '-' :: cs => (true, cs)
  | '+' :: cs => (false, cs)
  | cs => (false, cs)

def signed (negative : Bool) (magnitude : Nat) : Int :=
  if negative then -(magnitude : Int) else magnitude

def readWith (blank : Char → Bool) (value : Char → Option Nat) (cs : List Char) :
    Except Fault Int :=
  let (negative, body) := splitSign (trimBoth blank cs)
  let run := body.takeWhile fun c => (value c).isSome || c == '_'
  match groupedDigits value run with
  | none => .error .malformed
  | some digits =>
    if digitLimit < digits.length then .error (.tooLong digits.length)
    else if run.length < body.length then .error .malformed
    else .ok (signed negative (digitsValue digits))

/-- Reads digits of any script. -/
def read (cs : List Char) : Except Fault Int :=
  readWith isNumberBlank decimalValue cs

def isAsciiBlank (c : Char) : Bool :=
  c.toNat ≤ 0x20 && isNumberBlank c

/-- Reads bytes: the digits and blanks of ASCII only. -/
def readBytes (bytes : List UInt8) : Except Fault Int :=
  readWith isAsciiBlank asciiValue (bytes.map fun byte => Char.ofNat byte.toNat)

end CalendarSeries.Whole
