import BenchDepot.Decimal.Shortest
import BenchDepot.Json.Value

/-!
# Writing a JSON value

A value is written without blanks.  A string escapes the quote, the backslash and the controls
below U+0020, the latter by a letter where there is one; everything else stands as it is.  A
double is written with the fewest digits that read back, in positional notation from 1e-5 up to
1e16; infinities and NaN have no numeral and are written as null.
-/

namespace BenchDepot.Json

open Decimal (Style)

/-- How doubles are laid out in JSON. -/
def floatStyle : Style := ⟨-5, 15⟩

/-- The value of a double. -/
def Value.ofFloat (x : Float) : Value :=
  match floatStyle.numeral? x with
  | some n => .number n
  | none => .null

/-- A hexadecimal digit in lower case. -/
def hexChar (d : Nat) : Char :=
  Nat.digitChar (d % 16)

/-- Four hexadecimal digits. -/
def hexUnit (value : Nat) : List Char :=
  [hexChar (value / 0x1000), hexChar (value / 0x100), hexChar (value / 0x10), hexChar value]

/-- How a string shows one character. -/
def escapeChar (c : Char) : List Char :=
  if c = '"' then ['\\', '"']
  else if c = '\\' then ['\\', '\\']
  else if c = '\x08' then ['\\', 'b']
  else if c = '\x0c' then ['\\', 'f']
  else if c = '\n' then ['\\', 'n']
  else if c = '\r' then ['\\', 'r']
  else if c = '\t' then ['\\', 't']
  else if c.toNat < 0x20 then '\\' :: 'u' :: hexUnit c.toNat
  else [c]

/-- How a string shows one piece; a byte that is no text is shown as the replacement character. -/
def Piece.render : Piece → List Char
  | .char c => escapeChar c
  | .surrogate offset => '\\' :: 'u' :: hexUnit (0xd800 + offset.val)
  | .stray => ['\ufffd']

/-- A string between its quotes. -/
def renderString (pieces : List Piece) : List Char :=
  '"' :: (pieces.flatMap Piece.render ++ ['"'])

namespace Value

mutual

/-- The text of a value. -/
def render : Value → List Char
  | .null => ['n', 'u', 'l', 'l']
  | .bool true => ['t', 'r', 'u', 'e']
  | .bool false => ['f', 'a', 'l', 's', 'e']
  | .number n => n.render
  | .string pieces => renderString pieces
  | .array [] => ['[', ']']
  | .array (item :: items) => '[' :: (render item ++ renderItems items ++ [']'])
  | .object [] => ['{', '}']
  | .object ((name, value) :: members) =>
    '{' :: (renderString name ++ ':' :: render value ++ renderMembers members ++ ['}'])

/-- The text of the items after the first, each behind a comma. -/
def renderItems : List Value → List Char
  | [] => []
  | item :: items => ',' :: (render item ++ renderItems items)

/-- The text of the members after the first, each behind a comma. -/
def renderMembers : List (List Piece × Value) → List Char
  | [] => []
  | (name, value) :: members =>
    ',' :: (renderString name ++ ':' :: render value ++ renderMembers members)

end

/-- The text of a value, as a string. -/
def text (v : Value) : String :=
  String.ofList v.render

end Value

end BenchDepot.Json
