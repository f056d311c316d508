/-!
# Averages

The average of some doubles, as the store computes it: a running sum beside a running
compensation for the digits that the sum loses (Kahan, Babuška and Neumaier).  The compensation
is added at the end, unless it is no finite number; that happens when the sum overflows.
-/

namespace BenchDepot.Store

/-- A sum and its compensation. -/
structure Sum where
  total : Float
  compensation : Float

namespace Sum

/-- The sum of no numbers. -/
def zero : Sum := ⟨0.0, 0.0⟩

/-- A sum with one more number. -/
def add (sum : Sum) (x : Float) : Sum :=
  let total := sum.total + x
  let lost :=
    if sum.total.abs > x.abs then (sum.total - total) + x else (x - total) + sum.total
  ⟨total, sum.compensation + lost⟩

/-- The number that a sum stands for. -/
def value (sum : Sum) : Float :=
  if sum.compensation.isFinite then sum.total + sum.compensation else sum.total

end Sum

/-- The average of some numbers, added in their order. -/
def average (xs : List Float) : Float :=
  (xs.foldl Sum.add Sum.zero).value / Float.ofNat xs.length

end BenchDepot.Store
