import BenchDepot.Json.Token

/-!
# Reading a JSON value

The tokens of a text are put together by a machine with a stack: one frame for every array or
object that is still open.  Nesting is data here and not recursion, so that a text may nest as
deep as it likes.  There are no trailing commas, and nothing follows the value.
-/

namespace BenchDepot.Json

/-- An array or object that is still open; its items or members stand in reverse. -/
inductive Frame where
  | array (items : List Value)
  | object (members : List (List Piece × Value)) (label : List Piece)

/-- What the machine waits for. -/
inductive Assembly where
  /-- A value. -/
  | item (stack : List Frame)
  /-- The first item of an array, or its end. -/
  | firstItem (stack : List Frame)
  /-- A comma, or the end of an array. -/
  | afterItem (items : List Value) (stack : List Frame)
  /-- The first name of an object, or its end. -/
  | firstName (stack : List Frame)
  /-- A name. -/
  | name (members : List (List Piece × Value)) (stack : List Frame)
  /-- The colon after a name. -/
  | colon (members : List (List Piece × Value)) (label : List Piece) (stack : List Frame)
  /-- A comma, or the end of an object. -/
  | afterMember (members : List (List Piece × Value)) (stack : List Frame)
  /-- Nothing more. -/
  | whole (value : Value)

namespace Assembly

/-- A finished value goes into the innermost open array or object. -/
def put (value : Value) : List Frame → Assembly
  | [] => .whole value
  | .array items :: stack => .afterItem (value :: items) stack
  | .object members label :: stack => .afterMember ((label, value) :: members) stack

/-- A token where a value is due. -/
def begin (stack : List Frame) : Token → Option Assembly
  | .null => some (put .null stack)
  | .bool b => some (put (.bool b) stack)
  | .number n => some (put (.number n) stack)
  | .string pieces => some (put (.string pieces) stack)
  | .openArray => some (.firstItem stack)
  | .openObject => some (.firstName stack)
  | _ => none

/-- One more token. -/
def step : Assembly → Token → Option Assembly
  | .item stack, token => begin stack token
  | .firstItem stack, .closeArray => some (put (.array []) stack)
  | .firstItem stack, token => begin (.array [] :: stack) token
  | .afterItem items stack, .comma => some (.item (.array items :: stack))
  | .afterItem items stack, .closeArray => some (put (.array items.reverse) stack)
  | .firstName stack, .closeObject => some (put (.object []) stack)
  | .firstName stack, .string label => some (.colon [] label stack)
  | .name members stack, .string label => some (.colon members label stack)
  | .colon members label stack, .colon => some (.item (.object members label :: stack))
  | .afterMember members stack, .comma => some (.name members stack)
  | .afterMember members stack, .closeObject => some (put (.object members.reverse) stack)
  | _, _ => none

/-- The machine after some tokens. -/
def run (assembly : Assembly) : List Token → Option Assembly
  | [] => some assembly
  | token :: rest =>
    match assembly.step token with
    | some next => next.run rest
    | none => none

/-- The value, if it is whole. -/
def finish : Assembly → Option Value
  | .whole value => some value
  | _ => none

end Assembly

namespace Value

/-- The value that some tokens spell. -/
def ofTokens? (tokens : List Token) : Option Value :=
  ((Assembly.item []).run tokens).bind Assembly.finish

/-- The value that some glyphs spell. -/
def ofGlyphs? (glyphs : List Glyph) : Option Value :=
  (Token.ofGlyphs? glyphs).bind ofTokens?

/-- The value that a text spells. -/
def parse? (text : String) : Option Value :=
  ofGlyphs? (Glyph.ofString text)

end Value

end BenchDepot.Json
