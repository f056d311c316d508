import BenchDepot.Decimal.Numeral

/-!
# The shortest decimal of a double

A finite double is written with the fewest significant digits that read back as the same double;
of several such decimals the nearest is taken, and of two equally near ones the even one.  The
search tries the grids of one, two, … seventeen digits in turn; on each grid only the two
neighbours of the exact value can read back, because the doubles that read back form an interval.

Reading back here means rounding to nearest, ties to even.
-/

namespace BenchDepot.Decimal

/-- A positive rational: the exact value of a double. -/
structure Ratio where
  num : Nat
  den : Nat

/-- The leading bit of the significand of a double, which is not stored. -/
def hiddenBit : Nat := 0x10000000000000

/-- The exact value of the magnitude of a finite double. -/
def magnitude (x : Float) : Ratio :=
  let bits := x.toBits.toNat % 0x8000000000000000
  let exponent := bits / hiddenBit
  let fraction := bits % hiddenBit
  if exponent = 0 then ⟨fraction, Nat.pow 2 1074⟩
  else if exponent < 1075 then ⟨fraction + hiddenBit, Nat.pow 2 (1075 - exponent)⟩
  else ⟨(fraction + hiddenBit) * Nat.pow 2 (exponent - 1075), 1⟩

/-- A rational over a power of ten. -/
def Ratio.over (r : Ratio) : Int → Ratio
  | .ofNat n => ⟨r.num, r.den * Nat.pow 10 n⟩
  | .negSucc n => ⟨r.num * Nat.pow 10 (n + 1), r.den⟩

/-- The exponent of the leading decimal digit of a positive rational. -/
def Ratio.leading (r : Ratio) : Int :=
  let guess := ((digitsOf r.num).length : Int) - (digitsOf r.den).length
  let scaled := r.over guess
  if scaled.den ≤ scaled.num then guess else guess - 1

/-- The double nearest to a decimal. -/
def nearest (digits : Nat) : Int → Float
  | .ofNat n => Float.ofScientific digits false n
  | .negSucc n => Float.ofScientific digits true (n + 1)

/-- A decimal: digits and the exponent of the last one. -/
structure Scaled where
  digits : Nat
  exponent : Int

/-- Whether a decimal reads back as the magnitude of a double. -/
def Scaled.readsAs (d : Scaled) (x : Float) : Bool :=
  (nearest d.digits d.exponent).toBits == x.abs.toBits

/-- The decimal on the grid of some number of digits that reads back as a double, if there is
one. -/
def onGrid? (x : Float) (value : Ratio) (leading : Int) (count : Nat) : Option Scaled :=
  let exponent := leading - count + 1
  let scaled := value.over exponent
  let below := scaled.num / scaled.den
  let low : Scaled := ⟨below, exponent⟩
  let high : Scaled := ⟨below + 1, exponent⟩
  match low.readsAs x, high.readsAs x with
  | true, true =>
    let twice := 2 * scaled.num
    let middle := (2 * below + 1) * scaled.den
    if twice < middle then some low
    else if middle < twice then some high
    else if below % 2 = 0 then some low
    else some high
  | true, false => some low
  | false, true => some high
  | false, false => none

/-- The shortest decimal of the magnitude of a finite double other than zero. -/
def shortest (x : Float) : Scaled :=
  let value := magnitude x
  let leading := value.leading
  let widest : Scaled :=
    let exponent := leading - 16
    let scaled := value.over exponent
    ⟨scaled.num / scaled.den, exponent⟩
  ((List.range 17).findSome? fun n => onGrid? x value leading (n + 1)).getD widest

/-- Digits without the zeros they end with. -/
def stripZeros (digits : List (Fin 10)) : List (Fin 10) :=
  (digits.reverse.dropWhile fun d => d.val == 0).reverse

/-- The digit zero. -/
def zeroDigit : Fin 10 := ⟨0, by decide⟩

/-- How a double is laid out: which leading exponents are written in positional notation. -/
structure Style where
  least : Int
  most : Int

/-- The numeral of some digits whose first one has a given exponent: positional within the bounds
of a style and always with a digit after the point, else one digit, the others after the point,
and an exponent. -/
def Style.layOut (style : Style) (negative : Bool) (digits : List (Fin 10)) (leading : Int) :
    Numeral :=
  if style.least ≤ leading ∧ leading ≤ style.most then
    if leading < 0 then
      ⟨negative, 0, List.replicate (-leading - 1).toNat zeroDigit ++ digits, none⟩
    else
      let width := leading.toNat + 1
      let padded := digits ++ List.replicate (width - digits.length) zeroDigit
      let after := padded.drop width
      ⟨negative, ofDigits (padded.take width), if after.isEmpty then [zeroDigit] else after, none⟩
  else
    ⟨negative, ofDigits (digits.take 1), digits.drop 1, some leading⟩

/-- The numeral of a finite double. -/
def Style.numeral? (style : Style) (x : Float) : Option Numeral :=
  if x.isFinite then
    let negative := decide (0x8000000000000000 ≤ x.toBits.toNat)
    if x == 0.0 then
      some ⟨negative, 0, [zeroDigit], none⟩
    else
      let d := shortest x
      let digits := digitsOf d.digits
      some (style.layOut negative (stripZeros digits) (d.exponent + digits.length - 1))
  else
    none

end BenchDepot.Decimal
