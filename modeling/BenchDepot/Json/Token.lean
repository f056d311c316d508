import BenchDepot.Decimal.Progress
import BenchDepot.Json.Glyph
import BenchDepot.Json.Value

/-!
# Tokens of a JSON text

A text is cut into tokens by a machine that sees one glyph at a time and never goes back.  Between
tokens only the four blanks of JSON may stand.  A stray glyph is allowed inside a string only, and
so is every character from U+0020 on; a string's escapes are the eight letters and `u` with four
hexadecimal digits.
-/

namespace BenchDepot.Json

open Decimal (Numeral Progress)

/-- A token. -/
inductive Token where
  | openObject
  | closeObject
  | openArray
  | closeArray
  | comma
  | colon
  | null
  | bool (b : Bool)
  | number (n : Numeral)
  | string (pieces : List Piece)

/-- Where the machine stands: between tokens, or inside one.  The pieces of a string stand in
reverse. -/
inductive Mode where
  | between
  | word (due : List Char) (token : Token)
  | number (progress : Progress)
  | string (pieces : List Piece)
  | escape (pieces : List Piece)
  | unit (pieces : List Piece) (digits : Nat) (value : Nat)

/-- The machine: the tokens read, in reverse, and where it stands. -/
structure Scan where
  tokens : List Token
  mode : Mode

namespace Scan

/-- Whether a character may stand between tokens. -/
def isSpace (c : Char) : Bool :=
  c = ' ' || c = '\t' || c = '\n' || c = '\r'

/-- A character between tokens: a blank, a token of its own, or the start of one. -/
def start (tokens : List Token) (c : Char) : Option Scan :=
  if isSpace c then some ⟨tokens, .between⟩
  else if c = '{' then some ⟨.openObject :: tokens, .between⟩
  else if c = '}' then some ⟨.closeObject :: tokens, .between⟩
  else if c = '[' then some ⟨.openArray :: tokens, .between⟩
  else if c = ']' then some ⟨.closeArray :: tokens, .between⟩
  else if c = ',' then some ⟨.comma :: tokens, .between⟩
  else if c = ':' then some ⟨.colon :: tokens, .between⟩
  else if c = '"' then some ⟨tokens, .string []⟩
  else if c = 'n' then some ⟨tokens, .word ['u', 'l', 'l'] .null⟩
  else if c = 't' then some ⟨tokens, .word ['r', 'u', 'e'] (.bool true)⟩
  else if c = 'f' then some ⟨tokens, .word ['a', 'l', 's', 'e'] (.bool false)⟩
  else (Progress.start? c).map fun progress => ⟨tokens, .number progress⟩

/-- The character that a letter after a backslash stands for. -/
def escaped? (c : Char) : Option Char :=
  if c = '"' then some '"'
  else if c = '\\' then some '\\'
  else if c = '/' then some '/'
  else if c = 'b' then some '\x08'
  else if c = 'f' then some '\x0c'
  else if c = 'n' then some '\n'
  else if c = 'r' then some '\r'
  else if c = 't' then some '\t'
  else none

/-- The value of a hexadecimal digit of either case. -/
def hexDigit? (c : Char) : Option Nat :=
  if '0' ≤ c ∧ c ≤ '9' then some (c.toNat - '0'.toNat)
  else if 'a' ≤ c ∧ c ≤ 'f' then some (c.toNat - 'a'.toNat + 10)
  else if 'A' ≤ c ∧ c ≤ 'F' then some (c.toNat - 'A'.toNat + 10)
  else none

/-- The piece that four hexadecimal digits stand for. -/
def ofUnit (value : Nat) : Piece :=
  if h : 0xd800 ≤ value ∧ value < 0xe000 then
    .surrogate ⟨value - 0xd800, by omega⟩
  else
    .char (Char.ofNat value)

/-- One more character. -/
def stepChar (scan : Scan) (c : Char) : Option Scan :=
  match scan.mode with
  | .between => start scan.tokens c
  | .word [] _ => none
  | .word (d :: due) token =>
    if c = d then
      if due.isEmpty then some ⟨token :: scan.tokens, .between⟩
      else some ⟨scan.tokens, .word due token⟩
    else
      none
  | .number progress =>
    match progress.step c with
    | some next => some ⟨scan.tokens, .number next⟩
    | none =>
      match progress.finish with
      | some n => start (.number n :: scan.tokens) c
      | none => none
  | .string pieces =>
    if c = '"' then some ⟨.string pieces.reverse :: scan.tokens, .between⟩
    else if c = '\\' then some ⟨scan.tokens, .escape pieces⟩
    else if c.toNat < 0x20 then none
    else some ⟨scan.tokens, .string (.char c :: pieces)⟩
  | .escape pieces =>
    if c = 'u' then some ⟨scan.tokens, .unit pieces 0 0⟩
    else (escaped? c).map fun d => ⟨scan.tokens, .string (.char d :: pieces)⟩
  | .unit pieces digits value =>
    (hexDigit? c).map fun d =>
      if digits = 3 then ⟨scan.tokens, .string (ofUnit (16 * value + d) :: pieces)⟩
      else ⟨scan.tokens, .unit pieces (digits + 1) (16 * value + d)⟩

/-- One more glyph. -/
def step (scan : Scan) : Glyph → Option Scan
  | .char c => scan.stepChar c
  | .stray =>
    match scan.mode with
    | .string pieces => some ⟨scan.tokens, .string (.stray :: pieces)⟩
    | _ => none

/-- The machine after some glyphs. -/
def run (scan : Scan) : List Glyph → Option Scan
  | [] => some scan
  | g :: rest =>
    match scan.step g with
    | some next => next.run rest
    | none => none

/-- The tokens read, if the text may end here. -/
def finish (scan : Scan) : Option (List Token) :=
  match scan.mode with
  | .between => some scan.tokens.reverse
  | .number progress => progress.finish.map fun n => (Token.number n :: scan.tokens).reverse
  | _ => none

end Scan

/-- The tokens of a text, if it can be cut into tokens. -/
def Token.ofGlyphs? (glyphs : List Glyph) : Option (List Token) :=
  ((⟨[], .between⟩ : Scan).run glyphs).bind Scan.finish

end BenchDepot.Json
