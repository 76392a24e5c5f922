import CalendarSeries.Error
/-!
Points in time as milliseconds since the epoch. `ofValue` takes whole numbers as they are and reads
texts and clock readings, `readingIn` gives back the reading of a clock with its offset, and
`changesSaving` tells the days on which a zone's daylight saving changes.
-/
namespace CalendarSeries.Instant

open CalendarSeries.Text

/-- The zone of readings that name none. -/
inductive Assumed where
  | universal
  | named (name : String)
  | zone (zone : Zone)
  deriving DecidableEq, Repr

def exactZone (name : String) : Except Error Zone :=
  (Zone.find name).mapError .unknownZone

def Assumed.place : Assumed → Except Error Place
  | .universal => .ok .universal
  | .named name => (exactZone name).map .zone
  | .zone known => .ok (.zone known)

/-- The place of a reading, where an unknown one is the assumed. -/
def located (assumed : Assumed) : Place → Except Error Place
  | .unknown => assumed.place
  | place => .ok place

/-- The instant of a reading; an unknown place counts as universal time. -/
def ofReading (wall : Micros) (place : Place) : Micros :=
  wall - (Value.placeOffset? wall place).getD 0

/-- A fixed offset as a place. -/
def placeOfOffset (offset : Micros) : Place :=
  if offset = 0 then .universal else .offset offset

/-- A text with each `Z` written as an offset of zero. -/
def spellZulu (cs : List Char) : List Char :=
  cs.flatMap fun c => if c = 'Z' then "+00:00".toList else [c]

/-- Reads an ISO 8601 text, shown as `shown` if it cannot be read. -/
def readShown (assumed : Assumed) (content shown : String) : Except Error (Micros × Place) :=
  match Iso.read (spellZulu (strip content.toList)) with
  | none => .error (.unreadableTime shown)
  | some ⟨wall, some offset⟩ => .ok (wall, placeOfOffset offset)
  | some ⟨wall, none⟩ => assumed.place.map fun place => (wall, place)

def read (assumed : Assumed) (content : String) : Except Error (Micros × Place) :=
  readShown assumed content content

/-- The whole milliseconds up to an instant, from its days, seconds and microseconds. -/
def milliseconds (instant : Micros) : Int :=
  let (days, seconds, micros) := Value.spanParts instant
  (days * 86400 + seconds) * 1000 + micros / 1000

theorem milliseconds_eq (instant : Micros) : milliseconds instant = instant / 1000 := by
  simp only [milliseconds, Value.spanParts, Micros.perDay, Micros.perHour, Micros.perMinute,
    Micros.perSecond]
  omega

/-- Whole milliseconds are counted as what they are. -/
theorem milliseconds_mul (n : Int) : milliseconds (n * 1000) = n := by
  rw [milliseconds_eq]
  omega

/-- The milliseconds since the epoch that a value denotes. -/
def ofValue (assumed : Assumed) (value : Value) : Except Error Int :=
  match value with
  | .int n => .ok n
  | .moment wall place =>
    (located assumed place).map fun place => milliseconds (ofReading wall place)
  | _ =>
    match value.text? with
    | some content =>
      (readShown assumed content value.render).map fun (wall, place) =>
        milliseconds (ofReading wall place)
    | none => .error (.notAnInstant value)

/-- A span of whole milliseconds, if it is not too long to be held. -/
def spanOfMilliseconds (n : Int) : Except Error Micros :=
  let span := n * 1000
  let days := span / Micros.perDay
  if days < -2147483648 ∨ 2147483647 < days then .error (.outOfRange .wideSpan)
  else if 999999999 < days.natAbs then .error (.outOfRange (.spanDays days))
  else .ok span

def checked (value : Micros) : Except Error Micros :=
  if Wall.inRange value then .ok value else .error (.outOfRange .date)

/-- The instant that many milliseconds after the epoch. -/
def ofMilliseconds (n : Int) : Except Error Micros := do
  checked (← spanOfMilliseconds n)

/-- What the clock of a place shows at an instant. -/
def readingAt (place : Place) (instant : Micros) : Except Error Iso.Reading :=
  match place with
  | .unknown => .ok ⟨instant, some 0⟩
  | .universal => .ok ⟨instant, some 0⟩
  | .offset offset => (checked (instant + offset)).map fun wall => ⟨wall, some offset⟩
  | .zone zone =>
    (checked (zone.reading instant)).map fun wall => ⟨wall, some (zone.offsetAt instant)⟩

/-- What the clock of the assumed zone shows `n` milliseconds after the epoch. -/
def readingIn (assumed : Assumed) (n : Int) : Except Error Iso.Reading := do
  let instant ← ofMilliseconds n
  readingAt (← assumed.place) instant

/-- The microseconds nearest to a number of milliseconds that may be a fraction. -/
def microsOfDouble (negative : Bool) (significand : Nat) (exponent : Int) : Micros :=
  let (dividend, divisor) := Binary64.fraction significand exponent
  let whole := dividend / divisor
  let rest := Binary64.ofRatio false (dividend % divisor * 1000) divisor
  let micros := match rest with
    | .finite _ significand exponent =>
      let (dividend, divisor) := Binary64.fraction significand exponent
      Number.nearest .toEven (whole * 1000 * divisor + dividend) divisor
    | _ => 0
  Binary64.signedValue negative micros

/-- What the clock of the assumed zone shows a number of milliseconds after the epoch. -/
def readingOf (assumed : Assumed) (value : Value) : Except Error Iso.Reading :=
  match value with
  | .double (.finite negative significand exponent) => do
    let micros := microsOfDouble negative significand exponent
    if 999999999 < (micros / Micros.perDay).natAbs then .error (.outOfRange .date)
    else
      let instant ← checked micros
      readingAt (← assumed.place) instant
  | .double .nan => .error .doubleNotInteger
  | .double (.infinite _) => .error (.outOfRange .infiniteDouble)
  | _ =>
    match value.integer? with
    | some n => readingIn assumed n
    | none => .error (.wrongType "a number of milliseconds is needed")

/-- A reading in universal time, in words. -/
def universalText (wall : Micros) (place : Place) : Except Error String :=
  (checked (ofReading wall place)).map fun instant => Iso.render ⟨instant, some 0⟩

/-- Reads an ISO 8601 text as a reading in universal time. -/
def readUniversal (content : String) : Except Error Iso.Reading := do
  let (wall, place) ← read .universal content
  (checked (ofReading wall place)).map fun instant => ⟨instant, some 0⟩

/-- Whether a zone's saving at the start of a day differs from that in its last hour. -/
def changesSaving (zone : Zone) (day : Int) : Bool :=
  let start := day * Micros.perDay
  zone.savingOfReading start != zone.savingOfReading (start + 23 * Micros.perHour)

/-- The day of a date or of a reading. -/
def dayOf? : Value → Option Int
  | .moment wall _ => some (Wall.day wall)
  | .date date => some date.toDays
  | _ => none

/-- Whether daylight saving changes on a day; the zone is looked up first. -/
def changesSavingOn (assumed : Assumed) (value : Value) : Except Error Bool := do
  let place ← assumed.place
  match dayOf? value with
  | none => .error (.wrongType "Expected date or datetime")
  | some day =>
    match place with
    | .zone zone => .ok (changesSaving zone day)
    | _ => .ok false

end CalendarSeries.Instant
