import CalendarSeries.Error
/-!
Templates: texts with fields between braces, where a brace that stands for itself is doubled. A
field is a name, then perhaps an exclamation mark with a conversion, then perhaps a colon with a
layout. A template is read character by character; what cannot be read ends it with its fault.
-/
namespace CalendarSeries.Template

/-- A part of a template. -/
inductive Piece where
  | plain (text : List Char)
  | field (name : List Char) (conversion : Option Char) (layout : List Char)
  | broken (fault : TemplateFault)
  deriving DecidableEq, Repr

/-- Where reading stands. What is being gathered is kept in reverse. -/
inductive Reader where
  | plain (gathered : List Char)
  | opened (gathered : List Char)
  | closed (gathered : List Char)
  | name (gathered : List Char)
  | item (gathered : List Char)
  | conversion (name : List Char)
  | converted (name : List Char) (conversion : Char)
  | layout (name : List Char) (conversion : Option Char) (depth : Nat) (gathered : List Char)
  | stopped

namespace Reader

def plainPiece (gathered : List Char) : List Piece :=
  if gathered.isEmpty then [] else [.plain gathered.reverse]

def stop (fault : TemplateFault) : Reader × List Piece :=
  (.stopped, [.broken fault])

/-- Ends a field; its name is in order, its layout in reverse. -/
def close (name : List Char) (conversion : Option Char) (gathered : List Char) :
    Reader × List Piece :=
  (.plain [], [.field name conversion gathered.reverse])

/-- A character of a field's name. Brackets in it may hold any character. -/
def stepName (gathered : List Char) (c : Char) : Reader × List Piece :=
  match c with
  | '\x7b' => stop .nestedBrace
  | '[' => (.item (c :: gathered), [])
  | '\x7d' => close gathered.reverse none []
  | ':' => (.layout gathered.reverse none 1 [], [])
  | '!' => (.conversion gathered.reverse, [])
  | _ => (.name (c :: gathered), [])

/-- A character of a layout, which may hold fields of its own. -/
def stepLayout (name : List Char) (conversion : Option Char) (depth : Nat)
    (gathered : List Char) (c : Char) : Reader × List Piece :=
  match c, depth with
  | '\x7d', 1 => close name conversion gathered
  | '\x7d', _ => (.layout name conversion (depth - 1) (c :: gathered), [])
  | '\x7b', _ => (.layout name conversion (depth + 1) (c :: gathered), [])
  | _, _ => (.layout name conversion depth (c :: gathered), [])

/-- Takes one character: where reading stands after it, and the pieces that it ends. -/
def step (reader : Reader) (c : Char) : Reader × List Piece :=
  match reader with
  | plain gathered =>
    if c = '\x7b' then (.opened gathered, [])
    else if c = '\x7d' then (.closed gathered, [])
    else (.plain (c :: gathered), [])
  | opened gathered =>
    if c = '\x7b' then (.plain (c :: gathered), [])
    else
      let (reader, pieces) := stepName [] c
      (reader, plainPiece gathered ++ pieces)
  | closed gathered => if c = '\x7d' then (.plain (c :: gathered), []) else stop .loneClosing
  | name gathered => stepName gathered c
  | item gathered => if c = ']' then (.name (c :: gathered), []) else (.item (c :: gathered), [])
  | conversion label => (.converted label c, [])
  | converted label letter =>
    if c = '\x7d' then close label (some letter) []
    else if c = ':' then (.layout label (some letter) 1 [], [])
    else stop .noColon
  | layout label letter depth gathered => stepLayout label letter depth gathered c
  | stopped => (.stopped, [])

/-- The pieces that the end of a template ends. -/
def finish : Reader → List Piece
  | plain gathered => plainPiece gathered
  | opened _ => [.broken .loneOpening]
  | closed _ => [.broken .loneClosing]
  | name _ => [.broken .unclosed]
  | item _ => [.broken .unclosed]
  | conversion _ => [.broken .noConversion]
  | converted .. => [.broken .openLayout]
  | layout .. => [.broken .openLayout]
  | stopped => []

/-- The pieces of the rest of a template. -/
def pieces (reader : Reader) : List Char → List Piece
  | [] => reader.finish
  | c :: cs =>
    let (reader, found) := reader.step c
    found ++ pieces reader cs

end Reader

/-- The pieces of a template, in their order. -/
def pieces (template : List Char) : List Piece :=
  Reader.pieces (.plain []) template

end CalendarSeries.Template
