/-!
# Decimal numerals

A decimal numeral as JSON spells it: a sign, a whole part without leading zeros, the digits after
the point, and an exponent.  A whole part and an exponent are numbers, because their digits say
nothing else; the digits after the point are kept one by one, because trailing zeros are part of
the spelling.

* `toInt?_ofInt` — the numeral of an integer reads as that integer.
-/

namespace BenchDepot.Decimal

/-- A decimal numeral.  No digits after the point means that there is no point. -/
structure Numeral where
  negative : Bool
  whole : Nat
  fraction : List (Fin 10)
  exponent : Option Int
deriving DecidableEq, Repr

/-- The character of a digit. -/
def digitChar (d : Fin 10) : Char :=
  Nat.digitChar d.val

/-- The digit that a character stands for. -/
def digit? (c : Char) : Option (Fin 10) :=
  if h : '0'.toNat ≤ c.toNat ∧ c.toNat ≤ '9'.toNat then
    some ⟨c.toNat - '0'.toNat, by
      have h0 : '0'.toNat = 48 := rfl
      have h9 : '9'.toNat = 57 := rfl
      omega⟩
  else
    none

/-- A digit's character stands for the digit. -/
theorem digit?_digitChar (d : Fin 10) : digit? (digitChar d) = some d := by
  revert d
  decide

/-- The digits of a natural number, most significant first, without leading zeros. -/
def digitsOf (n : Nat) : List (Fin 10) :=
  (Nat.toDigits 10 n).filterMap digit?

/-- The number that some digits spell. -/
def ofDigits (digits : List (Fin 10)) : Nat :=
  digits.foldl (fun n d => 10 * n + d.val) 0

namespace Numeral

/-- The exponent of a numeral, as it is written: the mark, always a sign, and the digits. -/
def renderExponent : Option Int → List Char
  | none => []
  | some (.ofNat n) => 'e' :: '+' :: Nat.toDigits 10 n
  | some (.negSucc n) => 'e' :: '-' :: Nat.toDigits 10 (n + 1)

/-- The fraction of a numeral, as it is written: nothing, or the point and the digits. -/
def renderFraction : List (Fin 10) → List Char
  | [] => []
  | digits => '.' :: digits.map digitChar

/-- The text of a numeral. -/
def render (n : Numeral) : List Char :=
  (if n.negative then ['-'] else []) ++ Nat.toDigits 10 n.whole
    ++ renderFraction n.fraction ++ renderExponent n.exponent

/-- The numeral of an integer. -/
def ofInt (i : Int) : Numeral :=
  ⟨decide (i < 0), i.natAbs, [], none⟩

/-- Whether a numeral is spelled as an integer.  The negative zero is not one: only a fractional
number can hold it. -/
def isInteger (n : Numeral) : Bool :=
  n.fraction.isEmpty && n.exponent.isNone && !(n.negative && n.whole == 0)

/-- The integer that a numeral spells, where it is spelled as one. -/
def toInt? (n : Numeral) : Option Int :=
  if n.isInteger then
    some (if n.negative then -(n.whole : Int) else n.whole)
  else
    none

/-- The numeral of an integer spells that integer. -/
theorem toInt?_ofInt (i : Int) : (ofInt i).toInt? = some i := by
  unfold toInt? isInteger ofInt
  by_cases h : i < 0
  · have hne : (i.natAbs == 0) = false := by
      rw [beq_eq_false_iff_ne]
      omega
    have habs : -(i.natAbs : Int) = i := by omega
    simp only [h, hne, habs, decide_true, List.isEmpty_nil, Option.isNone_none, Bool.and_false,
      Bool.and_self, Bool.not_false, if_true]
  · have habs : (i.natAbs : Int) = i := by omega
    simp only [h, habs, decide_false, List.isEmpty_nil, Option.isNone_none, Bool.false_and,
      Bool.and_self, Bool.not_false, Bool.false_eq_true, if_true, if_false]

end Numeral

end BenchDepot.Decimal
