import BenchDepot.Decimal.Numeral

/-!
# JSON values

A JSON value as its text spells it.  Numbers and strings keep their spelling, because a value
that nobody asks for only has to be well-formed: a number may be too large for any type, and a
string may hold half of a surrogate pair or bytes that are no text.  Asking for the text of such a
string, or for a double too large, is what fails.

* `Piece.text?_ofString` — the text of the pieces of a text is the text.
-/

namespace BenchDepot.Json

open Decimal (Numeral)

/-- A part of a string: a character, the escape of one half of a surrogate pair, or a byte that
belongs to no character. -/
inductive Piece where
  | char (c : Char)
  | surrogate (offset : Fin 0x800)
  | stray
deriving DecidableEq

namespace Piece

/-- The character that two halves of a surrogate pair stand for, the high half first. -/
def pair? (high low : Fin 0x800) : Option Char :=
  if high.val < 0x400 ∧ 0x400 ≤ low.val then
    some (Char.ofNat (0x10000 + high.val * 0x400 + (low.val - 0x400)))
  else
    none

/-- The characters of some pieces, if they are a text: every half of a surrogate pair stands
beside its other half.  The characters found so far stand in reverse. -/
def decodeAfter : List Char → List Piece → Option (List Char)
  | found, [] => some found.reverse
  | found, .char c :: rest => decodeAfter (c :: found) rest
  | found, .surrogate high :: .surrogate low :: rest =>
    match pair? high low with
    | some c => decodeAfter (c :: found) rest
    | none => none
  | _, _ :: _ => none

/-- The text of some pieces, if they are one. -/
def text? (pieces : List Piece) : Option String :=
  (decodeAfter [] pieces).map String.ofList

/-- The pieces of a text: its characters. -/
def ofString (s : String) : List Piece :=
  s.toList.map .char

/-- Pieces that are characters are a text. -/
theorem decodeAfter_chars (found cs : List Char) :
    decodeAfter found (cs.map .char) = some (found.reverse ++ cs) := by
  induction cs generalizing found with
  | nil => simp [decodeAfter]
  | cons c cs ih => simp [decodeAfter, ih]

/-- The text of the pieces of a text is the text. -/
@[simp] theorem text?_ofString (s : String) : text? (ofString s) = some s := by
  simp [text?, ofString, decodeAfter_chars]

end Piece

/-- A JSON value. -/
inductive Value where
  | null
  | bool (b : Bool)
  | number (n : Numeral)
  | string (pieces : List Piece)
  | array (items : List Value)
  | object (members : List (List Piece × Value))

namespace Value

/-- The string value of a text. -/
def ofString (s : String) : Value :=
  .string (Piece.ofString s)

/-- The number value of an integer. -/
def ofInt (i : Int) : Value :=
  .number (Numeral.ofInt i)

/-- An object with texts for names. -/
def ofMembers (members : List (String × Value)) : Value :=
  .object (members.map fun m => (Piece.ofString m.1, m.2))

/-- The text of a string value. -/
def text? : Value → Option String
  | .string pieces => Piece.text? pieces
  | _ => none

end Value

end BenchDepot.Json
