import BenchDepot.Text.Cut
import BenchDepot.Time.Instant

/-!
# Spans of time as text

A span is written in the largest unit of which it holds at least one, with as many decimals as it
needs and no zeros at the end of them: `1.5s`, `60ms`, `250µs`.
-/

namespace BenchDepot.Span

/-- Some digits of a number, with zeros in front to fill a given number of places. -/
def padded (places n : Nat) : List Char :=
  let digits := Nat.toDigits 10 n
  List.replicate (places - digits.length) '0' ++ digits

/-- A number of parts, of which `10 ^ places` make a unit, as a decimal of units. -/
def decimal (places parts : Nat) : List Char :=
  let unit := Nat.pow 10 places
  let after := Text.dropTrailing '0' (padded places (parts % unit))
  Nat.toDigits 10 (parts / unit) ++ (if after.isEmpty then [] else '.' :: after)

/-- The text of some nanoseconds. -/
def text (nanos : Nat) : String :=
  if nanosPerSecond ≤ nanos then String.ofList (decimal 9 nanos) ++ "s"
  else if 1000000 ≤ nanos then String.ofList (decimal 6 nanos) ++ "ms"
  else if 1000 ≤ nanos then String.ofList (decimal 3 nanos) ++ "µs"
  else String.ofList (Nat.toDigits 10 nanos) ++ "ns"

end BenchDepot.Span
