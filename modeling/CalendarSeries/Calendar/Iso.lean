import CalendarSeries.Calendar.Wall
import CalendarSeries.Number.Rounding
import CalendarSeries.Text.Blank
import CalendarSeries.Text.Digit
/-!
Dates and times in the ISO 8601 style. `render` writes one fixed form; `read` takes calendar and
week dates with or without hyphens, any one character before the time, times with or without
colons, a fraction after any component, and an offset written like a time.
-/
namespace CalendarSeries.Iso

open CalendarSeries.Text

/-- What a text denotes: a clock reading, and the offset from universal time if there is one. -/
structure Reading where
  wall : Micros
  offset : Option Micros
  deriving DecidableEq, Repr

def digits (count : Nat) (cs : List Char) : Option (Nat × List Char) := do
  if cs.length < count then none
  let values ← (cs.take count).mapM asciiValue
  some (digitsValue values, cs.drop count)

def isAsciiDigit (c : Char) : Bool :=
  (asciiValue c).isSome

/-- The length of the date at the head of a text whose year is followed by a week. Without
hyphens a day of the week is present if the digits after it come out in pairs. -/
def weekDateLength (cs : List Char) : Nat :=
  if cs[4]? = some '-' then
    if cs[8]? = some '-' then
      match cs[10]? with
      | some c => if isAsciiDigit c then 8 else 10
      | none => 10
    else 8
  else
    let count := 7 + ((cs.drop 7).takeWhile isAsciiDigit).length
    if count < 9 then count else if count % 2 = 0 then 7 else 8

/-- The length of the date at the head of a text. -/
def dateLength (cs : List Char) : Nat :=
  if cs.length = 7 then 7
  else if cs[4]? = some '-' then (if cs[5]? = some 'W' then weekDateLength cs else 10)
  else if cs[4]? = some 'W' then weekDateLength cs
  else 8

def expect (sign : Char) : List Char → Option (List Char)
  | [] => none
  | c :: cs => if c = sign then some cs else none

/-- A date that fills the text; the number of its day. -/
def readDate (cs : List Char) : Option Int := do
  let (year, cs) ← digits 4 cs
  let hyphens := cs.head? == some '-'
  let cs := if hyphens then cs.drop 1 else cs
  match cs with
  | 'W' :: cs =>
    let (week, cs) ← digits 2 cs
    if cs.isEmpty then Date.ofWeek year week 1
    else
      let cs ← if hyphens then expect '-' cs else some cs
      let (day, cs) ← digits 1 cs
      if cs.isEmpty then Date.ofWeek year week day else none
  | _ =>
    let (month, cs) ← digits 2 cs
    let cs ← if hyphens then expect '-' cs else some cs
    let (day, cs) ← digits 2 cs
    let date : Date := ⟨year, month, day⟩
    if cs.isEmpty && date.isValid then some date.toDays else none

/-- A time, and whether characters were left over after it. -/
structure Clock where
  time : TimeOfDay
  leftOver : Bool
  deriving DecidableEq, Repr

/-- A left-over character counts unless it is NUL, which ends the text. -/
def isLeftOver (c : Char) : Bool :=
  c.toNat != 0

/-- A fraction of a second: six digits count and further ones are passed over. -/
def readFraction (hour minute second : Nat) (cs : List Char) : Option Clock := do
  let values ← (cs.take 6).mapM asciiValue
  let micro := digitsValue values * Number.tenTo (6 - values.length)
  let rest := (cs.drop 6).dropWhile isAsciiDigit
  some ⟨⟨hour, minute, second, micro⟩, (rest.head?.map isLeftOver).getD false⟩

/-- What may follow a component: nothing, one stray character, or a fraction; `next` reads the
following component otherwise. -/
def afterComponent (hour minute second : Nat) (cs : List Char)
    (next : List Char → Option Clock) : Option Clock :=
  match cs with
  | [] => some ⟨⟨hour, minute, second, 0⟩, false⟩
  | [c] => if c.toNat < 0x80 then some ⟨⟨hour, minute, second, 0⟩, isLeftOver c⟩ else none
  | c :: rest =>
    if c = '.' || c = ',' then readFraction hour minute second rest else next cs

/-- A time with colons between its components, or with none; the same sign that parts the
components may also mark the fraction. -/
def readClock (cs : List Char) : Option Clock := do
  let (hour, cs) ← digits 2 cs
  if cs.head? = some ':' then
    afterComponent hour 0 0 cs fun cs => do
      let (minute, cs) ← digits 2 (← expect ':' cs)
      afterComponent hour minute 0 cs fun cs => do
        let (second, cs) ← digits 2 (← expect ':' cs)
        afterComponent hour minute second cs fun cs => do
          readFraction hour minute second (← expect ':' cs)
  else
    afterComponent hour 0 0 cs fun cs => do
      let (minute, cs) ← digits 2 cs
      afterComponent hour minute 0 cs fun cs => do
        let (second, cs) ← digits 2 cs
        afterComponent hour minute second cs (readFraction hour minute second)

def isOffsetSign (c : Char) : Bool :=
  c == '+' || c == '-'

/-- An offset after its sign: below a day, with nothing left over. One of less than a second is
none. -/
def readOffset (negative : Bool) (cs : List Char) : Option Micros := do
  let clock ← readClock cs
  let size := clock.time.micros
  if clock.leftOver || Micros.perDay ≤ size then none
  else if size < Micros.perSecond then some 0
  else some (if negative then -size else size)

/-- A time of day with an offset; what is left over before the offset does not count. -/
def readTime (cs : List Char) : Option (TimeOfDay × Option Micros) := do
  let clock ← readClock (cs.takeWhile fun c => !isOffsetSign c)
  if !clock.time.isValid then none
  match cs.dropWhile fun c => !isOffsetSign c with
  | [] => if clock.leftOver then none else some (clock.time, none)
  | sign :: rest => some (clock.time, some (← readOffset (sign == '-') rest))

/-- Reads a date alone, or a date, one character and a time. -/
def read (cs : List Char) : Option Reading := do
  if cs.length < 7 then none
  let length := dateLength cs
  let days ← readDate (cs.take length)
  let (time, offset) ← match cs.drop length with
    | [] => some (TimeOfDay.midnight, none)
    | _ :: rest => readTime rest
  let wall := Wall.of days time
  if Wall.inRange wall then some ⟨wall, offset⟩ else none

/-- Hours, minutes and seconds, a zero second being left out on request, and microseconds unless
they are zero. -/
def clockText (hideSeconds : Bool) (time : TimeOfDay) : List Char :=
  padded 2 time.hour ++ ':' :: padded 2 time.minute ++
    (if hideSeconds && time.second == 0 && time.micro == 0 then []
      else ':' :: padded 2 time.second) ++
    (if time.micro = 0 then [] else '.' :: padded 6 time.micro)

def dateText (date : Date) : List Char :=
  padded 4 date.year.toNat ++ '-' :: padded 2 date.month ++ '-' :: padded 2 date.day

def offsetText (offset : Micros) : List Char :=
  (if offset < 0 then '-' else '+') :: clockText true (Wall.timeOfDay offset.natAbs)

/-- The written form of a reading. -/
def render (reading : Reading) : String :=
  String.ofList (dateText (Wall.date reading.wall) ++
    'T' :: clockText false (Wall.timeOfDay reading.wall) ++
    ((reading.offset.map offsetText).getD []))

end CalendarSeries.Iso
