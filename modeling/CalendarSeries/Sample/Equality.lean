import CalendarSeries.Sample.Basic
/-!
When two elements are equal. Plain samples and merged ones are equal if their timestamps and
values are; a mark of failure equals itself alone. An element compared with itself needs no
comparison of its values, except of the one that a reduction has left.
-/
namespace CalendarSeries.Element

/-- Equality of timestamps, then of values. -/
def sameReading (stamp : Int) (value : Value) (other : Int) (value' : Value) : Except Error Bool :=
  if stamp = other then value.sameAs value' else .ok false

/-- Whether two elements are equal; `itself` if they are one and the same. -/
def equal (itself : Bool) (x y : Element) : Except Error Bool :=
  match x, y with
  | failure _, _ => .ok itself
  | _, failure _ => .ok itself
  | sample a v, sample b w => if itself then .ok true else sameReading a v b w
  | merged a (.pending v), merged b (.pending w) =>
    if itself then .ok true else sameReading a (.list v) b (.list w)
  | merged a v, merged b w => sameReading a v.value b w.value
  | sample a v, merged b w => sameReading b w.value a v
  | merged a v, sample b w => sameReading a v.value b w

end CalendarSeries.Element
