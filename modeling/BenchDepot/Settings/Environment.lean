import BenchDepot.Cpu.Frequency
import BenchDepot.Settings.Document
import BenchDepot.Text.Blank
import BenchDepot.Text.Cut
import BenchDepot.TextMap
import BenchDepot.Toml.Token

/-!
# Settings from the environment

Every setting may be given by a variable: `BENCHCACHE_`, then the names of the section and the
setting with two underscores between them, in any case.  Its value is a number, a truth value, a
quoted text, a list in brackets or a table in braces; whatever is none of these is a text as it
stands.  A number without a minus sign and a character between single quotes are told apart from
what a document can hold.

* `Environment.path?` — the setting that a variable gives;
* `Environment.value` — the value of a variable;
* `Environment.table` — the table of an environment.
-/

namespace BenchDepot.Environment

open Toml (Scan Table Value)

/-! ## Names -/

/-- What the name of a variable starts with that gives a setting, in lower case. -/
def marker : List Char := "benchcache_".toList

/-- A name with a point for every two underscores. -/
def pointed : List Char → List Char
  | '_' :: '_' :: rest => '.' :: pointed rest
  | c :: rest => c :: pointed rest
  | [] => []

/-- The setting that a variable gives: the parts of its path. -/
def path? (name : String) : Option (List String) :=
  let cs := (Text.trim name.toList).map Char.toLower
  if marker.isPrefixOf cs then
    let parts := Text.pieces '.' (Text.trim (pointed (cs.drop marker.length)))
    if parts.any List.isEmpty then none else some (parts.map String.ofList)
  else
    none

/-! ## Values -/

/-- Whether a character separates the parts of a value. -/
def isSpace (c : Char) : Bool :=
  c == ' ' || c == '\t' || c == '\n' || c == '\r' || c == '\x0c'

/-- Whether a character ends a text without quotes. -/
def isSeparator (c : Char) : Bool :=
  c == ',' || c == '[' || c == ']' || c == '\x7b' || c == '\x7d'

/-- The integer of a text, if it has a sign or none, digits, and no more than 64 bits. -/
def integer? (cs : List Char) : Option Value :=
  let (isNegative, digits) :=
    match cs with
    | '+' :: rest => (false, rest)
    | '-' :: rest => (true, rest)
    | _ => (false, cs)
  if digits.isEmpty || !digits.all Char.isDigit then
    none
  else
    let n := Nat.ofDigitChars 10 digits 0
    if isNegative then if n ≤ 0x8000000000000000 then some (.integer (-(n : Int))) else none
    else if n < UInt64.size then some (.natural n) else none

/-- The value of a text without quotes. -/
def ofBare (cs : List Char) : Value :=
  let cs := Text.trim cs
  if cs.contains '.' && (Cpu.Level.parse? (String.ofList cs)).isSome then .real
  else (integer? cs).getD (.text (String.ofList cs))

/-- The text that starts behind a double quote, and what follows it. -/
def quotedFrom (scan : Scan) : List Char → Option (String × List Char)
  | [] => none
  | c :: rest =>
    match scan.step c with
    | none => none
    | some next =>
      match next.tokens with
      | .text s _ :: _ => some (s, rest)
      | _ => quotedFrom next rest

/-- The text that starts behind a double quote, and what follows it. -/
def quoted? (cs : List Char) : Option (String × List Char) :=
  quotedFrom ⟨[], .body ⟨'"', false, []⟩ 0⟩ cs

/-- The name of a member, and what follows it. -/
def name? (cs : List Char) : Option (String × List Char) :=
  match cs with
  | '"' :: rest => quoted? rest
  | _ =>
    let word := cs.takeWhile Scan.isBare
    if word.isEmpty then none else some (String.ofList word, cs.drop word.length)

/-- The value of a word without quotes, and what follows it. -/
def word (cs : List Char) : Value × List Char :=
  let taken := cs.takeWhile (!isSeparator ·)
  (ofBare taken, cs.drop taken.length)

/-- What follows a word at the start of a text. -/
def behind? (word : String) (cs : List Char) : Option (List Char) :=
  if word.toList.isPrefixOf cs then some (cs.drop word.length) else none

mutual

/-- The value at the start of a text and the text behind it, in some number of steps. -/
def read : Nat → List Char → Option (Value × List Char)
  | 0, _ => none
  | steps + 1, cs =>
    let cs := cs.dropWhile isSpace
    let found : Option (Value × List Char) :=
      match behind? "true" cs, behind? "false" cs with
      | some rest, _ => some (.bool true, rest)
      | none, some rest => some (.bool false, rest)
      | none, none =>
        match cs with
        | '[' :: rest => (readItems steps [] rest).map fun r => (.array r.1, r.2)
        | '\x7b' :: rest => (readMembers steps [] rest).map fun r => (.table r.1, r.2)
        | '"' :: rest => (quoted? rest).map fun r => (.text r.1, r.2)
        | '\'' :: c :: '\'' :: rest => some (.character c, rest)
        | '\'' :: _ => none
        | cs => some (word cs)
    found.map fun r => (r.1, r.2.dropWhile isSpace)

/-- The items of a list up to its bracket and the text behind that. -/
def readItems : Nat → List Value → List Char → Option (List Value × List Char)
  | 0, _, _ => none
  | _, items, ']' :: rest => some (items.reverse, rest)
  | steps + 1, items, cs =>
    match read steps cs with
    | some (v, ',' :: rest) => readItems steps (v :: items) rest
    | some (v, ']' :: rest) => some ((v :: items).reverse, rest)
    | _ => none

/-- The members of a table up to its brace and the text behind that; the last one of a name
counts. -/
def readMembers : Nat → Table → List Char → Option (Table × List Char)
  | 0, _, _ => none
  | _, table, '\x7d' :: rest => some (table, rest)
  | steps + 1, table, cs =>
    match name? (cs.dropWhile isSpace) with
    | none => none
    | some (name, rest) =>
      match rest.dropWhile isSpace with
      | '=' :: rest =>
        match read steps rest with
        | some (v, ',' :: rest) => readMembers steps (table.set name v) rest
        | some (v, '\x7d' :: rest) => some (table.set name v, rest)
        | _ => none
      | _ => none

end

/-- The value of a variable.  Every second step passes a character, so there are enough steps. -/
def value (text : String) : Value :=
  match read (2 * text.length + 2) text.toList with
  | some (v, []) => v
  | _ => .text text

/-! ## Tables -/

/-- A value under a path, as a table. -/
def nested (v : Value) : List String → Value
  | [] => v
  | name :: rest => .table [(name, nested v rest)]

/-- The table of an environment: its variables in the order of their names, each one laid over
those before it. -/
def table (environment : TextMap String) : Table :=
  environment.entries.foldl
    (fun laid given =>
      match path? given.1 with
      | some path => Table.over laid (nested (value given.2) path).members
      | none => laid)
    []

end BenchDepot.Environment
