import BenchDepot.Decimal.Numeral

/-!
# Reading a numeral as a double

A numeral is read as a double in two roundings.  The leading digits that fit 64 bits make the
significand, which is rounded first; one multiplication or division by a power of ten then puts
the point where it belongs.  Digits that no longer fit only move the point, or are dropped after
it.  A number too large for a finite double has no reading; one too small becomes zero.
-/

namespace BenchDepot.Decimal

/-- The largest significand: what fits 64 bits. -/
def significandLimit : Nat := 0xffffffffffffffff

/-- A significand extended by the digits of a whole part while it fits, and the number of digits
left over. -/
def extendWhole : Nat → List (Fin 10) → Nat × Nat
  | s, [] => (s, 0)
  | s, d :: rest =>
    if s * 10 + d.val ≤ significandLimit then
      extendWhole (s * 10 + d.val) rest
    else
      (s, rest.length + 1)

/-- A significand extended by the digits of a fraction while it fits, and the number of digits
taken. -/
def extendFraction : Nat → Nat → List (Fin 10) → Nat × Nat
  | s, taken, [] => (s, taken)
  | s, taken, d :: rest =>
    if s * 10 + d.val ≤ significandLimit then
      extendFraction (s * 10 + d.val) (taken + 1) rest
    else
      (s, taken)

/-- The double next to a power of ten. -/
def powerOfTen (n : Nat) : Float :=
  Float.ofScientific 1 false n

/-- The largest power of ten that is a finite double, by its exponent. -/
def powerLimit : Nat := 308

/-- A significand divided by a power of ten, in at most two steps; beyond two steps nothing of a
64-bit significand is left. -/
def scaleDown (significand : Nat) (n : Nat) : Float :=
  let f := Float.ofNat significand
  if n ≤ powerLimit then f / powerOfTen n
  else if n ≤ 2 * powerLimit then f / powerOfTen powerLimit / powerOfTen (n - powerLimit)
  else 0.0

/-- A significand multiplied by a power of ten, if that is finite. -/
def scaleUp (significand : Nat) (n : Nat) : Option Float :=
  if n ≤ powerLimit then
    let f := Float.ofNat significand * powerOfTen n
    if f.isFinite then some f else none
  else if significand = 0 then some 0.0
  else none

/-- A significand times a power of ten. -/
def scale (significand : Nat) : Int → Option Float
  | .ofNat n => scaleUp significand n
  | .negSucc n => some (scaleDown significand (n + 1))

/-- The double that a numeral reads as. -/
def Numeral.toFloat? (n : Numeral) : Option Float :=
  let (head, extra) := extendWhole 0 (digitsOf n.whole)
  let (significand, taken) := extendFraction head 0 n.fraction
  let exponent := (extra : Int) - taken + n.exponent.getD 0
  (scale significand exponent).map fun f => if n.negative then -f else f

end BenchDepot.Decimal
