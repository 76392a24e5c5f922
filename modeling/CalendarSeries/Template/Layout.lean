import CalendarSeries.Binary64.Places
import CalendarSeries.Error
/-!
Layouts: how a value is written into a field. A layout says which character fills the field up and
on which side, how the sign is shown, how wide the field is at least, how digits are grouped, how
many digits are wanted, and in which form the value is written. Each part may be left out.
-/
namespace CalendarSeries.Template

open CalendarSeries.Text

structure Layout where
  fill : Option Char := none
  align : Option Char := none
  sign : Option Char := none
  alternate : Bool := false
  /-- Whether a zero before the width asks for zeros as filling. -/
  zeros : Bool := false
  width : Nat := 0
  grouping : Option Char := none
  precision : Option Nat := none
  code : Option Char := none
  deriving DecidableEq, Repr

namespace Layout

def isAlign (c : Char) : Bool :=
  c ∈ ['<', '>', '=', '^']

/-- The filling character, the side and what follows them. -/
def readAlign : List Char → Option Char × Option Char × List Char
  | c :: align :: rest =>
    if isAlign align then (some c, some align, rest)
    else if isAlign c then (none, some c, align :: rest)
    else (none, none, c :: align :: rest)
  | [c] => if isAlign c then (none, some c, []) else (none, none, [c])
  | [] => (none, none, [])

/-- One of some characters at the head of a text. -/
def readMark (marks : List Char) : List Char → Option Char × List Char
  | c :: rest => if c ∈ marks then (some c, rest) else (none, c :: rest)
  | [] => (none, [])

/-- The digits at the head of a text, as a number. -/
def readNumber (cs : List Char) : Option Nat × List Char :=
  let digits := cs.takeWhile fun c => (decimalValue c).isSome
  (if digits.isEmpty then none else some (digitsValue (digits.filterMap decimalValue)),
    cs.drop digits.length)

def readGrouping (cs : List Char) : Except LayoutFault (Option Char × List Char) :=
  match cs with
  | ',' :: '_' :: _ => .error .bothGroupings
  | '_' :: ',' :: _ => .error .bothGroupings
  | _ => .ok (readMark [',', '_'] cs)

def readPrecision (cs : List Char) : Except LayoutFault (Option Nat × List Char) :=
  match cs with
  | '.' :: rest =>
    match readNumber rest with
    | (none, _) => .error .noPrecision
    | found => .ok found
  | _ => .ok (none, cs)

def readCode : List Char → Except LayoutFault (Option Char)
  | [] => .ok none
  | [code] => .ok (some code)
  | _ => .error .unreadable

/-- The length of the groups of digits for a form, if it has groups. -/
def groupLength (mark code : Char) : Option Nat :=
  if code ∈ ['d', 'e', 'f', 'g', 'E', 'G', '%', 'F'] then some 3
  else if code ∈ ['b', 'o', 'x', 'X'] && mark = '_' then some 4
  else none

/-- Whether the grouping that is asked for suits the form. -/
def checkGrouping (default : Option Char) (layout : Layout) : Except LayoutFault Layout :=
  match layout.grouping, layout.code <|> default with
  | some mark, some code =>
    if (groupLength mark code).isSome then .ok layout else .error (.grouping mark code)
  | _, _ => .ok layout

/-- Reads a layout; `default` is the form of a value for which none is asked. -/
def read (default : Option Char) (cs : List Char) : Except LayoutFault Layout := do
  let (fill, align, cs) := readAlign cs
  let (sign, cs) := readMark [' ', '+', '-'] cs
  let (alternate, cs) := readMark ['#'] cs
  let (zeros, cs) := if fill.isSome then (none, cs) else readMark ['0'] cs
  let (width, cs) := readNumber cs
  let (grouping, cs) ← readGrouping cs
  let (precision, cs) ← readPrecision cs
  let code ← readCode cs
  checkGrouping default
    { fill, align, sign, alternate := alternate.isSome, zeros := zeros.isSome
      width := width.getD 0, grouping, precision, code }

def fillChar (layout : Layout) : Char :=
  layout.fill.getD (if layout.zeros then '0' else ' ')

/-- Text in a field: `lead`, which may be parted from the rest, then `body`. -/
def fit (layout : Layout) (default : Char) (lead body : List Char) : List Char :=
  let missing := layout.width - (lead.length + body.length)
  let filling (n : Nat) : List Char := List.replicate n layout.fillChar
  match layout.align.getD default with
  | '<' => lead ++ body ++ filling missing
  | '^' => filling (missing / 2) ++ lead ++ body ++ filling (missing - missing / 2)
  | '=' => lead ++ filling missing ++ body
  | _ => filling missing ++ lead ++ body

/-- Digits in groups from the right. -/
def groupFromRight (length : Nat) (mark : Char) : List Char → List Char
  | [] => []
  | c :: cs =>
    if cs.length % length = 0 && !cs.isEmpty then c :: mark :: groupFromRight length mark cs
    else c :: groupFromRight length mark cs

/-- The fewest digits that reach a width when they are in groups. -/
def groupedCount (length width : Nat) : Nat → Nat → Nat
  | 0, count => count
  | fuel + 1, count =>
    if width ≤ count + (count - 1) / length then count
    else groupedCount length width fuel (count + 1)

/-- The side on which a number is filled up. -/
def numberAlign (layout : Layout) : Char :=
  if layout.zeros then '=' else '>'

def signChars (layout : Layout) (negative : Bool) : List Char :=
  if negative then ['-']
  else match layout.sign with
    | some '+' => ['+']
    | some ' ' => [' ']
    | _ => []

/-- A number in a field: its sign and mark of base, its whole digits, and what follows them.
Zeros that fill it up are grouped like its own digits. -/
def fitNumber (layout : Layout) (length : Nat) (lead whole rest : List Char) : List Char :=
  match layout.grouping with
  | none => layout.fit layout.numberAlign lead (whole ++ rest)
  | some mark =>
    let width :=
      if layout.fillChar = '0' && layout.align.getD layout.numberAlign = '=' then
        layout.width - (lead.length + rest.length)
      else 0
    let count := groupedCount length width width whole.length
    let whole := List.replicate (count - whole.length) '0' ++ whole
    layout.fit layout.numberAlign lead (groupFromRight length mark whole ++ rest)

/-- A text in a field. -/
def writeText (layout : Layout) (text : List Char) : Except LayoutFault (List Char) :=
  match layout.code with
  | some 's' | none =>
    if layout.sign.isSome then .error .signedText
    else if layout.alternate then .error .alternateText
    else if layout.align = some '=' then .error .alignedText
    else
      let text := match layout.precision with
        | some count => text.take count
        | none => text
      .ok (layout.fit '<' [] text)
  | some code => .error (.unknownCode code "str")

/-- The base of a whole number's form, and the mark that can stand before it. -/
def base? (code : Char) : Option (Nat × List Char) :=
  match code with
  | 'd' | 'n' => some (10, [])
  | 'b' => some (2, ['0', 'b'])
  | 'o' => some (8, ['0', 'o'])
  | 'x' => some (16, ['0', 'x'])
  | 'X' => some (16, ['0', 'X'])
  | _ => none

/-- The character with a number, in a field. -/
def writeCharacter (layout : Layout) (n : Int) : Except LayoutFault (List Char) :=
  if layout.sign.isSome then .error .signedCharacter
  else if layout.alternate then .error .alternateCharacter
  else if n < 0 ∨ 0x10FFFF < n then .error .noCharacter
  else .ok (layout.fit layout.numberAlign [] [Char.ofNat n.toNat])

def isFraction (code : Char) : Bool :=
  code ∈ ['e', 'E', 'f', 'F', 'g', 'G', '%']

/-- A whole number in a field, in one of its own forms. -/
def writeInteger (layout : Layout) (n : Int) : Except LayoutFault (List Char) :=
  let code := layout.code.getD 'd'
  if code = 'c' then
    if layout.precision.isSome then .error .preciseInteger else layout.writeCharacter n
  else
    match base? code with
    | none => .error (.unknownCode code "int")
    | some (base, mark) =>
      if layout.precision.isSome then .error .preciseInteger
      else
        let digits := Nat.toDigits base n.natAbs
        let digits := if code = 'X' then digits.map Char.toUpper else digits
        let lead := layout.signChars (decide (n < 0)) ++ if layout.alternate then mark else []
        let length := (layout.grouping.bind (groupLength · code)).getD 3
        .ok (layout.fitNumber length lead digits [])

/-- The magnitude of a number in one of the forms for fractions; without a form, as few digits as
its precision allows, and one after the point at least. -/
def fractionChars (precision : Option Nat) (code : Option Char) (x : Binary64) :
    Option (List Char) :=
  let digits := precision.getD 6
  match code, precision with
  | some 'f', _ | some 'F', _ => some (x.fixedChars digits)
  | some '%', _ => some ((x.timesNat 100).fixedChars digits ++ ['%'])
  | some 'e', _ | some 'E', _ => some (x.scientificChars digits)
  | some 'g', _ | some 'G', _ | some 'n', _ => some (x.generalChars (max 1 digits))
  | none, none => some x.renderChars
  | none, some digits =>
    let cs := x.generalChars (max 1 digits)
    some (if cs.all Char.isDigit then cs ++ ['.', '0'] else cs)
  | _, _ => none

/-- A number in a field, in one of the forms for fractions. -/
def writeFraction (layout : Layout) (x : Binary64) : Except LayoutFault (List Char) :=
  match fractionChars layout.precision layout.code x.magnitude, layout.code with
  | none, code => .error (.unknownCode (code.getD 'd') "float")
  | some cs, code =>
    let cs := if code.any Char.isUpper then cs.map Char.toUpper else cs
    let whole := cs.takeWhile Char.isDigit
    .ok (layout.fitNumber 3 (layout.signChars x.isNegative) whole (cs.drop whole.length))

end Layout

end CalendarSeries.Template
