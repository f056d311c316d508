import BenchDepot.Toml.Scalar
import BenchDepot.Toml.Table
import BenchDepot.Toml.Token

/-!
# Reading a TOML document

The tokens of a document are put together by a machine that knows which array or table is still
open.  A document is made of lines: a header in brackets, or a key, an equals sign and a value.
Keys are paths; their parts stand between points.  An array may go over several lines and end with
a comma, a table in braces may not.

* `Table.parse?` — the table of a document.
-/

namespace BenchDepot.Toml

/-- How many arrays and tables may be open at once, and how many parts a key may have. -/
def nesting : Nat := 79

/-! ## Keys -/

/-- A key that is being read: its parts, in reverse, and whether another part is due. -/
structure Path where
  parts : List String
  isDue : Bool

namespace Path

/-- A key of which nothing has been read. -/
def start : Path := ⟨[], true⟩

/-- A key with one more part. -/
def addPart (path : Path) (part : String) : Option Path :=
  if path.isDue then some ⟨part :: path.parts, false⟩ else none

/-- A key with a point after its parts. -/
def addPoint (path : Path) : Option Path :=
  if path.isDue then none else some { path with isDue := true }

/-- A key with a part that has no quotes, or with nothing. -/
def addBare (path : Path) (cs : List Char) : Option Path :=
  if cs.isEmpty then some path
  else if cs.all Scan.isBare then path.addPart (String.ofList cs)
  else none

/-- A key with parts without quotes and points between them. -/
def addPieces (path : Path) : List (List Char) → Option Path
  | [] => some path
  | [piece] => path.addBare piece
  | piece :: rest =>
    match (path.addBare piece).bind addPoint with
    | some next => next.addPieces rest
    | none => none

/-- A key with one more token. -/
def add (path : Path) : Token → Option Path
  | .word cs => path.addPieces (Text.pieces '.' cs)
  | .text s true => path.addPart s
  | _ => none

/-- The parts of a key that may end here. -/
def finish (path : Path) : Option (List String) :=
  if path.isDue || decide (nesting < path.parts.length) then none else some path.parts.reverse

end Path

/-! ## Values and lines -/

/-- An array or table that is still open; its items or members stand in reverse. -/
inductive Frame where
  | array (items : List Value)
  | table (pairs : List (List String × Value)) (key : List String)

/-- What the machine waits for. -/
inductive Wait where
  /-- The start of a line. -/
  | line
  /-- The end of a line. -/
  | lineEnd
  /-- More of a header, or its end. -/
  | header (isElement : Bool) (path : Path)
  /-- More of a key at the start of a line, or the equals sign. -/
  | key (path : Path)
  /-- A value; in an array also its end. -/
  | item (key : List String) (stack : List Frame)
  /-- A comma, or the end of an array. -/
  | afterItem (key : List String) (items : List Value) (stack : List Frame)
  /-- More of a key in a table, or the equals sign; before the first key also its end. -/
  | member (key : List String) (pairs : List (List String × Value)) (path : Path)
      (stack : List Frame)
  /-- A comma, or the end of a table. -/
  | afterMember (key : List String) (pairs : List (List String × Value)) (stack : List Frame)

/-- The machine: the sections read, in reverse, each with its values in reverse; those that stand
under no header come last. -/
structure Assembly where
  pairs : List (List String × Value)
  sections : List Section
  wait : Wait

namespace Assembly

/-- A value under a key of the section that is being read. -/
def addPair (a : Assembly) (key : List String) (value : Value) : Assembly :=
  match a.sections with
  | [] => { a with pairs := (key, value) :: a.pairs, wait := .lineEnd }
  | s :: rest =>
    { a with sections := { s with pairs := (key, value) :: s.pairs } :: rest, wait := .lineEnd }

/-- The start of a section. -/
def addSection (a : Assembly) (isElement : Bool) (path : List String) : Assembly :=
  { a with sections := ⟨isElement, path, []⟩ :: a.sections, wait := .lineEnd }

/-- A finished value goes into the innermost open array or table, or under its key. -/
def put (a : Assembly) (key : List String) (value : Value) : List Frame → Assembly
  | [] => a.addPair key value
  | .array items :: stack => { a with wait := .afterItem key (value :: items) stack }
  | .table pairs inner :: stack =>
    { a with wait := .afterMember key ((inner, value) :: pairs) stack }

/-- A token where a value is due. -/
def begin (a : Assembly) (key : List String) (stack : List Frame) : Token → Option Assembly
  | .word cs => (Value.ofWord? cs).map fun value => a.put key value stack
  | .text s _ => some (a.put key (.text s) stack)
  | .openArray =>
    if stack.length < nesting then some { a with wait := .item key (.array [] :: stack) } else none
  | .openTable =>
    if stack.length < nesting then some { a with wait := .member key [] .start stack } else none
  | _ => none

/-- A token where an item of an array may stand. -/
def inItem (a : Assembly) (key : List String) : List Frame → Token → Option Assembly
  | .array _ :: _, .newline => some a
  | .array items :: stack, .closeArray => some (a.put key (.array items.reverse) stack)
  | stack, token => a.begin key stack token

/-- One more token, other than a pair of brackets. -/
def stepOne (a : Assembly) (token : Token) : Option Assembly :=
  match a.wait, token with
  | .line, .newline => some a
  | .line, .openArray => some { a with wait := .header false .start }
  | .line, token => (Path.start.add token).map fun path => { a with wait := .key path }
  | .lineEnd, .newline => some { a with wait := .line }
  | .header false path, .closeArray => path.finish.map (a.addSection false)
  | .header isElement path, token =>
    (path.add token).map fun path => { a with wait := .header isElement path }
  | .key path, .equals => path.finish.map fun key => { a with wait := .item key [] }
  | .key path, token => (path.add token).map fun path => { a with wait := .key path }
  | .item key stack, token => a.inItem key stack token
  | .afterItem .., .newline => some a
  | .afterItem key items stack, .comma => some { a with wait := .item key (.array items :: stack) }
  | .afterItem key items stack, .closeArray => some (a.put key (.array items.reverse) stack)
  | .member key pairs path stack, .equals =>
    path.finish.map fun inner => { a with wait := .item key (.table pairs inner :: stack) }
  | .member key [] ⟨[], true⟩ stack, .closeTable => some (a.put key (.table []) stack)
  | .member key pairs path stack, token =>
    (path.add token).map fun path => { a with wait := .member key pairs path stack }
  | .afterMember key pairs stack, .comma =>
    some { a with wait := .member key pairs .start stack }
  | .afterMember key pairs stack, .closeTable =>
    (Value.ofPairs? pairs.reverse).map fun value => a.put key value stack
  | _, _ => none

/-- One more token.  A pair of brackets belongs to a header, or is two brackets. -/
def step (a : Assembly) (token : Token) : Option Assembly :=
  match a.wait, token with
  | .line, .openPair => some { a with wait := .header true .start }
  | .header true path, .closePair => path.finish.map (a.addSection true)
  | .header .., .closePair => none
  | _, .openPair => (a.stepOne .openArray).bind fun next => next.stepOne .openArray
  | _, .closePair => (a.stepOne .closeArray).bind fun next => next.stepOne .closeArray
  | _, _ => a.stepOne token

/-- The machine after some tokens. -/
def run (a : Assembly) : List Token → Option Assembly
  | [] => some a
  | token :: rest =>
    match a.step token with
    | some next => next.run rest
    | none => none

/-- The table read, if the document may end here. -/
def finish (a : Assembly) : Option Table :=
  match a.wait with
  | .line | .lineEnd =>
    Table.ofSections? a.pairs.reverse
      (a.sections.reverse.map fun s => { s with pairs := s.pairs.reverse })
  | _ => none

end Assembly

/-- The table of a document. -/
def Table.parse? (text : String) : Option Table :=
  (Token.ofText? text).bind fun tokens =>
    ((⟨[], [], .line⟩ : Assembly).run tokens).bind Assembly.finish

end BenchDepot.Toml
