import CalendarSeries.Decimal.Text
import CalendarSeries.Value.Literal
/-!
When two values are equal: numbers by what they denote whatever their kind, texts by their
characters, sequences item by item, points in time by the instant. A signalling decimal cannot be
compared with a number. `number?` gives the exact decimal that a number denotes.
-/
namespace CalendarSeries.Value

/-- The exact decimal equal to a binary number. -/
def decimalOfDouble : Binary64 → Decimal
  | .finite negative significand exponent =>
    if 0 ≤ exponent then .finite negative (significand * Nat.pow 2 exponent.toNat) 0
    else .finite negative (significand * Nat.pow 5 exponent.natAbs) exponent
  | .infinite negative => .infinite negative
  | .nan => .notANumber

/-- The decimal that a number denotes. -/
def number? : Value → Option Decimal
  | decimal x => some x
  | double x => some (decimalOfDouble x)
  | value => value.integer?.map Decimal.ofInt

/-- The instant of a moment at a known place. -/
def instantOf? (wall : Micros) (place : Place) : Option Micros :=
  (placeOffset? wall place).map (wall - ·)

def sameMoment (v : Micros) (p : Place) (w : Micros) (q : Place) : Bool :=
  match instantOf? v p, instantOf? w q with
  | some a, some b => a == b
  | Option.none, Option.none => v == w
  | _, _ => false

/-- Equality of values that hold no others. -/
def equalSimple (x y : Value) : Except Decimal.Signal Bool :=
  match x.number?, y.number? with
  | some a, some b => a.equal b
  | _, _ =>
    match x.text?, y.text? with
    | some a, some b => .ok (a == b)
    | _, _ =>
      match x, y with
      | none, none => .ok true
      | bytes a, bytes b => .ok (a == b)
      | moment v p, moment w q => .ok (sameMoment v p w q)
      | date a, date b => .ok (a == b)
      | span a, span b => .ok (a == b)
      | range a b c, range d e f => .ok (Range.toList a b c == Range.toList d e f)
      | timeRange a, timeRange b => .ok (a == b)
      | aggregation a, aggregation b => .ok (a == b)
      | policy a, policy b => .ok (a == b)
      | policy a, text name => .ok (DuplicatePolicy.ofName? name == some a)
      | text name, policy a => .ok (DuplicatePolicy.ofName? name == some a)
      | series a, series b => .ok (a == b)
      | _, _ => .ok false

mutual

def equal : Value → Value → Except Decimal.Signal Bool
  | list xs, list ys => if xs.length = ys.length then equalItems xs ys else .ok false
  | tuple xs, tuple ys => if xs.length = ys.length then equalItems xs ys else .ok false
  | map xs, map ys =>
    if xs.length = ys.length then equalEntries xs ys else .ok false
  | x, y => equalSimple x y

/-- Equality item by item; the first difference decides. -/
def equalItems : List Value → List Value → Except Decimal.Signal Bool
  | [], [] => .ok true
  | x :: xs, y :: ys => do if ← equal x y then equalItems xs ys else .ok false
  | _, _ => .ok false

/-- Whether each entry has an equal one in the other map. -/
def equalEntries : List (Value × Value) → List (Value × Value) → Except Decimal.Signal Bool
  | [], _ => .ok true
  | (key, value) :: entries, others => do
    if ← equalIn key value others then equalEntries entries others else .ok false

/-- Whether the map has an equal value under an equal key. -/
def equalIn (key value : Value) : List (Value × Value) → Except Decimal.Signal Bool
  | [] => .ok false
  | (k, v) :: others => do
    if ← equal key k then equal value v else equalIn key value others

end

/-- Whether two values are the same key of a map. -/
def sameKey (x y : Value) : Bool :=
  match x.equal y with
  | .ok same => same
  | .error _ => false

/-- The entries with `key` at its first place holding its latest value. -/
def put (key value : Value) : List (Value × Value) → List (Value × Value)
  | [] => [(key, value)]
  | (k, v) :: entries =>
    if sameKey k key then (k, value) :: entries else (k, v) :: put key value entries

/-- Entries in order of their first appearance, each with its last value. -/
def distinct (entries : List (Value × Value)) : List (Value × Value) :=
  entries.foldl (fun kept (key, value) => put key value kept) []

def lookup? (key : Value) (entries : List (Value × Value)) : Option Value :=
  (entries.find? fun (k, _) => sameKey k key).map (·.2)

end CalendarSeries.Value
