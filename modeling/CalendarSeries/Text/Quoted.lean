import CalendarSeries.Text.Printable
/-!
Quoted forms of texts and byte strings as they stand inside messages: in single quotes, or in
double quotes where the text holds a single quote and no double one; the quote, the backslash,
line ends and everything unprintable are escaped.
-/
namespace CalendarSeries.Text

def hexDigit (n : Nat) : Char :=
  (Nat.toDigits 16 n).headD '0'

/-- `n` in base sixteen with exactly `width` digits. -/
def hexDigits : Nat → Nat → List Char
  | 0, _ => []
  | width + 1, n => hexDigits width (n / 16) ++ [hexDigit (n % 16)]

/-- The quote that surrounds a text with these characters. -/
def chooseQuote (hasSingle hasDouble : Bool) : Char :=
  if hasSingle && !hasDouble then '"' else '\''

/-- The escapes that texts and byte strings share. -/
def shortEscape (quote c : Char) : Option (List Char) :=
  if c = quote || c = '\\' then some ['\\', c]
  else if c = '\n' then some ['\\', 'n']
  else if c = '\r' then some ['\\', 'r']
  else if c = '\t' then some ['\\', 't']
  else none

def escapeChar (quote c : Char) : List Char :=
  match shortEscape quote c with
  | some escaped => escaped
  | none =>
    if isPrintable c then [c]
    else if c.toNat ≤ 0xFF then '\\' :: 'x' :: hexDigits 2 c.toNat
    else if c.toNat ≤ 0xFFFF then '\\' :: 'u' :: hexDigits 4 c.toNat
    else '\\' :: 'U' :: hexDigits 8 c.toNat

def quoteChars (cs : List Char) : List Char :=
  let quote := chooseQuote (cs.contains '\'') (cs.contains '"')
  quote :: cs.flatMap (escapeChar quote) ++ [quote]

def quoted (text : String) : String :=
  String.ofList (quoteChars text.toList)

def escapeByte (quote : Char) (byte : Nat) : List Char :=
  match shortEscape quote (Char.ofNat byte) with
  | some escaped => escaped
  | none =>
    if 0x20 ≤ byte && byte < 0x7F then [Char.ofNat byte] else '\\' :: 'x' :: hexDigits 2 byte

/-- A byte string in quotes, marked by a leading `b`. -/
def quotedBytes (bytes : List Nat) : String :=
  let quote := chooseQuote (bytes.contains 39) (bytes.contains 34)
  String.ofList ('b' :: quote :: bytes.flatMap (escapeByte quote) ++ [quote])

end CalendarSeries.Text
