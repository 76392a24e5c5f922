import CalendarSeries.Text.Quoted
/-!
Texts as strings of JSON: in double quotes, with escapes for the quote, the backslash and the
control characters. All other characters stand for themselves.
-/
namespace CalendarSeries.Text

def escapeJsonChar (c : Char) : List Char :=
  if c = '"' || c = '\\' then ['\\', c]
  else if c = '\n' then ['\\', 'n']
  else if c = '\r' then ['\\', 'r']
  else if c = '\t' then ['\\', 't']
  else if c = '\x08' then ['\\', 'b']
  else if c = '\x0c' then ['\\', 'f']
  else if c.toNat < 0x20 then '\\' :: 'u' :: hexDigits 4 c.toNat
  else [c]

def jsonString (text : String) : String :=
  String.ofList ('"' :: text.toList.flatMap escapeJsonChar ++ ['"'])

end CalendarSeries.Text
