import BenchDepot.Decimal.Shortest

/-!
# The order of frequency labels

The cores of a processor are grouped by frequency, and each frequency is named by a label, most
often a decimal number of megahertz.  Labels that read as a double come first, in ascending order
of its value; labels of one value and labels that are no numbers are ordered as texts.

Values are ordered as IEEE 754 orders all doubles: from the negative NaN over minus infinity and
the negative numbers to minus zero, then from zero over infinity to NaN.  That order is the order
of the bit patterns, which `Level.rank` turns into integers.
-/

namespace BenchDepot.Cpu

/-- The value of a numeric label: a sign and the bit pattern of the magnitude. -/
structure Level where
  negative : Bool
  magnitude : Nat
deriving DecidableEq

namespace Level

/-- The bit pattern of infinity. -/
def infinity : Nat := 0x7ff0000000000000

/-- The bit pattern of NaN. -/
def nan : Nat := 0x7ff8000000000000

/-- The place of a value in the order of all doubles. -/
def rank (level : Level) : Int :=
  if level.negative then -(level.magnitude : Int) - 1 else level.magnitude

/-- The exponent written after its mark: an optional sign and at least one digit. -/
def exponent? (cs : List Char) : Option Int :=
  let (down, digits) :=
    match cs with
    | '+' :: rest => (false, rest)
    | '-' :: rest => (true, rest)
    | _ => (false, cs)
  if !digits.isEmpty && digits.all Char.isDigit then
    let size := Nat.ofDigitChars 10 digits 0
    some (if down then -(size : Int) else size)
  else
    none

/-- The exponent of a decimal: nothing, or a mark and an exponent. -/
def tail? : List Char → Option Int
  | [] => some 0
  | c :: rest => if c = 'e' ∨ c = 'E' then exponent? rest else none

/-- The digits after a point, if there is one, and what follows them. -/
def fraction (cs : List Char) : List Char × List Char :=
  match cs with
  | '.' :: rest => (rest.takeWhile Char.isDigit, rest.dropWhile Char.isDigit)
  | _ => ([], cs)

/-- The magnitude of a decimal without a sign: digits, a point and digits, of which one part may
be missing, and an exponent. -/
def decimal? (cs : List Char) : Option Nat :=
  let whole := cs.takeWhile Char.isDigit
  let (after, rest) := fraction (cs.dropWhile Char.isDigit)
  if whole.isEmpty && after.isEmpty then
    none
  else
    (tail? rest).map fun exponent =>
      let digits := Nat.ofDigitChars 10 (whole ++ after) 0
      (Decimal.nearest digits (exponent - after.length)).toBits.toNat

/-- The magnitude of a number without a sign: a decimal, or a word of any case. -/
def magnitude? (cs : List Char) : Option Nat :=
  let word := cs.map Char.toLower
  if word = ['i', 'n', 'f'] ∨ word = ['i', 'n', 'f', 'i', 'n', 'i', 't', 'y'] then some infinity
  else if word = ['n', 'a', 'n'] then some nan
  else decimal? cs

/-- The value of a label, if it is numeric. -/
def parse? (label : String) : Option Level :=
  match label.toList with
  | '+' :: rest => (magnitude? rest).map (⟨false, ·⟩)
  | '-' :: rest => (magnitude? rest).map (⟨true, ·⟩)
  | cs => (magnitude? cs).map (⟨false, ·⟩)

end Level

/-- The order of two labels. -/
def frequencyOrder (a b : String) : Ordering :=
  match Level.parse? a, Level.parse? b with
  | some x, some y => (compare x.rank y.rank).then (compare a b)
  | some _, none => .lt
  | none, some _ => .gt
  | none, none => compare a b

/-- Whether a label does not come after another. -/
def frequencyLe (a b : String) : Bool :=
  (frequencyOrder a b).isLE

end BenchDepot.Cpu
