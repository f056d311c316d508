/-!
# Instants

A point in time to the nanosecond, with the offset from UTC it was written with.  The offset is
kept for whoever reads the time back, and says nothing about when it was: two instants are
compared by their seconds and nanoseconds alone.

* `of?` — the instant of some seconds, nanoseconds and offset;
* `isWritable` — whether an instant can be kept as a text;
* `since` — the time from one instant to another, as whole seconds and a non-negative rest.
-/

namespace BenchDepot

/-- The nanoseconds of a second. -/
def nanosPerSecond : Nat := 1000000000

/-- A point in time: seconds since 1970-01-01 00:00 UTC, nanoseconds, and an offset in seconds. -/
structure Instant where
  seconds : Int64
  nanos : Nat
  offset : Int
  nanos_lt : nanos < nanosPerSecond
deriving DecidableEq

/-- A length of time: whole seconds, rounded down, and the nanoseconds above them. -/
structure Elapsed where
  seconds : Int64
  nanos : Nat
deriving DecidableEq

namespace Instant

/-- The instant that seconds are counted from. -/
def epoch : Instant :=
  ⟨0, 0, 0, by decide⟩

/-- The first second of the year -9999 in UTC. -/
def firstSecond : Int := -377705116800

/-- The last second of the year 9999 in UTC. -/
def lastSecond : Int := 253402300799

/-- The largest offset from UTC, on either side: 25:59:59. -/
def maxOffset : Nat := 93599

/-- Whether a count of seconds lies in the years -9999 to 9999. -/
def inYears (seconds : Int) : Bool :=
  firstSecond ≤ seconds && seconds ≤ lastSecond

/-- Whether a time can be written down: the year has at most four digits, in UTC as well as at
its offset, and the offset is less than 26 hours. -/
def isValid (seconds offset : Int) : Bool :=
  inYears seconds && inYears (seconds + offset) && decide (offset.natAbs ≤ maxOffset)

/-- An instant from its parts, if they are a valid time.  Nanoseconds beyond a second, or before
it, count as whole seconds. -/
def of? (seconds nanos offset : Int) : Option Instant :=
  let whole := seconds + nanos / nanosPerSecond
  if isValid whole offset then
    some ⟨Int64.ofInt whole, (nanos % nanosPerSecond).toNat, offset, by
      unfold nanosPerSecond
      omega⟩
  else
    none

/-- The first second of the year 0. -/
def firstWritable : Int := -62167219200

/-- Whether an instant can be kept as a text: at its offset the year has four digits and no sign,
and the offset is a number of whole minutes below a day. -/
def isWritable (t : Instant) : Bool :=
  decide (firstWritable ≤ t.seconds.toInt + t.offset) && decide (t.offset % 60 = 0)
    && decide (t.offset.natAbs < 86400)

/-- The same point in time some whole seconds earlier. -/
def before (t : Instant) (seconds : Int) : Instant :=
  { t with seconds := t.seconds - Int64.ofInt seconds }

/-- The time from one instant to a later one; a negative number of seconds if it is earlier. -/
def since (now start : Instant) : Elapsed :=
  if start.nanos ≤ now.nanos then
    ⟨now.seconds - start.seconds, now.nanos - start.nanos⟩
  else
    ⟨now.seconds - start.seconds - 1, now.nanos + nanosPerSecond - start.nanos⟩

end Instant

/-- Whether a length of time is strictly longer than some whole seconds. -/
def Elapsed.exceeds (e : Elapsed) (seconds : Int64) : Bool :=
  decide (seconds < e.seconds) || (e.seconds == seconds && decide (0 < e.nanos))

end BenchDepot
