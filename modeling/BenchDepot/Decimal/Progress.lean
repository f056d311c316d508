import BenchDepot.Decimal.Numeral

/-!
# Numerals in the course of being read

A numeral is read one character at a time, so that no text has to be looked at twice.  `Progress`
is what has been read so far; `step` takes one more character if it belongs to the numeral, and
`finish` gives the numeral if it may end here.

A whole part is a single zero or starts with another digit, a point is followed by at least one
digit, and so is the mark of an exponent, with or without a sign between them.
-/

namespace BenchDepot.Decimal

/-- A numeral read so far; the digits of a fraction stand in reverse. -/
inductive Progress where
  | sign
  | zero (negative : Bool)
  | whole (negative : Bool) (n : Nat)
  | point (negative : Bool) (n : Nat)
  | fraction (negative : Bool) (n : Nat) (digits : List (Fin 10))
  | mark (negative : Bool) (n : Nat) (digits : List (Fin 10))
  | markSign (negative : Bool) (n : Nat) (digits : List (Fin 10)) (down : Bool)
  | exponent (negative : Bool) (n : Nat) (digits : List (Fin 10)) (down : Bool) (size : Nat)

namespace Progress

/-- A numeral whose first character is given. -/
def start? (c : Char) : Option Progress :=
  if c = '-' then
    some .sign
  else
    (digit? c).map fun d => if d = 0 then .zero false else .whole false d.val

/-- What may follow a whole part: a point or the mark of an exponent. -/
def afterWhole (negative : Bool) (n : Nat) (c : Char) : Option Progress :=
  if c = '.' then some (.point negative n)
  else if c = 'e' ∨ c = 'E' then some (.mark negative n [])
  else none

/-- One more character of a numeral, if the character belongs to it. -/
def step : Progress → Char → Option Progress
  | .sign, c => (digit? c).map fun d => if d = 0 then .zero true else .whole true d.val
  | .zero negative, c => afterWhole negative 0 c
  | .whole negative n, c =>
    match digit? c with
    | some d => some (.whole negative (10 * n + d.val))
    | none => afterWhole negative n c
  | .point negative n, c => (digit? c).map fun d => .fraction negative n [d]
  | .fraction negative n digits, c =>
    match digit? c with
    | some d => some (.fraction negative n (d :: digits))
    | none => if c = 'e' ∨ c = 'E' then some (.mark negative n digits) else none
  | .mark negative n digits, c =>
    if c = '+' then some (.markSign negative n digits false)
    else if c = '-' then some (.markSign negative n digits true)
    else (digit? c).map fun d => .exponent negative n digits false d.val
  | .markSign negative n digits down, c =>
    (digit? c).map fun d => .exponent negative n digits down d.val
  | .exponent negative n digits down size, c =>
    (digit? c).map fun d => .exponent negative n digits down (10 * size + d.val)

/-- The numeral read so far, if a numeral may end here. -/
def finish : Progress → Option Numeral
  | .zero negative => some ⟨negative, 0, [], none⟩
  | .whole negative n => some ⟨negative, n, [], none⟩
  | .fraction negative n digits => some ⟨negative, n, digits.reverse, none⟩
  | .exponent negative n digits down size =>
    some ⟨negative, n, digits.reverse, some (if down then -(size : Int) else size)⟩
  | _ => none

end Progress

end BenchDepot.Decimal
