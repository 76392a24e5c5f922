/-!
Buckets: half-open spans of time in milliseconds since the epoch. Only a range of no length gives
a bucket that starts where it stops; it holds its start alone.
-/
namespace CalendarSeries

structure Bucket where
  start : Int
  stop : Int
  deriving DecidableEq, Repr

namespace Bucket

def duration (bucket : Bucket) : Int :=
  bucket.stop - bucket.start

/-- The last instant that belongs to the bucket. -/
def last (bucket : Bucket) : Int :=
  max bucket.start (bucket.stop - 1)

/-- Whether the inclusive span from `start` to `stop` lies wholly inside. -/
def contains (bucket : Bucket) (start stop : Int) : Bool :=
  bucket.start ≤ start && stop ≤ bucket.last

/-- Whether an instant belongs to the bucket. -/
def has (bucket : Bucket) (instant : Int) : Bool :=
  if bucket.start = bucket.stop then instant == bucket.start
  else bucket.start ≤ instant && instant < bucket.stop

end Bucket

end CalendarSeries
