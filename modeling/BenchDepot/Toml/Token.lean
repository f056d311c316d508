import BenchDepot.Text.Cut
import BenchDepot.Toml.Value

/-!
# Tokens of a TOML document

A document is cut into tokens by a machine that sees one character at a time.  Words are the
texts without quotes; whether a word is a key or a value is not decided here.  Texts stand in
double quotes, with escapes, or in single quotes, as they are; either may be tripled, and then a
text may have several lines.  Two brackets side by side are one token, because they mean something
else at the start of a line than two brackets apart.

* `Token.ofText?` — the tokens of a document.
-/

namespace BenchDepot.Toml

/-- A token. -/
inductive Token where
  | word (cs : List Char)
  | text (s : String) (onOneLine : Bool)
  | equals
  | comma
  | newline
  | openArray
  | closeArray
  | openPair
  | closePair
  | openTable
  | closeTable

/-- A text that is being read: its quote, whether that is tripled, and the characters so far, in
reverse. -/
structure Body where
  quote : Char
  isTripled : Bool
  found : List Char

/-- Where the machine stands. -/
inductive Mode where
  | between
  | word (cs : List Char)
  /-- After a date and one space: a time may follow, and then belongs to the date. -/
  | afterDate (cs : List Char)
  | comment
  /-- After one bracket. -/
  | bracket (opens : Bool)
  /-- After one quote. -/
  | quote (q : Char)
  /-- After two quotes. -/
  | twoQuotes (q : Char)
  /-- At the start of a text with tripled quotes: a line break here does not count. -/
  | start (body : Body)
  /-- In a text, after some quotes that may close it. -/
  | body (body : Body) (quotes : Nat)
  | escape (body : Body)
  | unit (body : Body) (due value : Nat)
  /-- In the blanks that an escaped line break removes, before the break or after it. -/
  | fold (body : Body) (broken : Bool)
  /-- After a carriage return: only a line feed may follow. -/
  | lineFeed (next : Mode)

/-- The machine: the tokens read, in reverse, and where it stands. -/
structure Scan where
  tokens : List Token
  mode : Mode

namespace Scan

/-- Whether a character separates tokens on a line. -/
def isSpace (c : Char) : Bool :=
  c == ' ' || c == '\t'

/-- Whether a character may stand in a key without quotes. -/
def isBare (c : Char) : Bool :=
  c.isAlphanum || c == '_' || c == '-'

/-- Whether a character may stand in a word. -/
def isWordChar (c : Char) : Bool :=
  isBare c || c == '+' || c == '.' || c == ':'

/-- Whether a character may stand for itself in a text or a comment. -/
def isPlain (c : Char) : Bool :=
  c == '\t' || (decide (0x20 ≤ c.toNat) && c != '\x7f')

/-- Whether some characters, in reverse, look like a date. -/
def looksLikeDate (cs : List Char) : Bool :=
  match cs.reverse with
  | [a, b, c, d, '-', e, f, '-', g, h] => [a, b, c, d, e, f, g, h].all Char.isDigit
  | _ => false

/-- The text of a body. -/
def close (body : Body) : Token :=
  .text (String.ofList body.found.reverse) !body.isTripled

/-- A body with more characters. -/
def push (body : Body) (cs : List Char) : Body :=
  { body with found := cs.reverse ++ body.found }

/-- A character between tokens. -/
def start (tokens : List Token) (c : Char) : Option Scan :=
  if isSpace c then some ⟨tokens, .between⟩
  else if c = '\n' then some ⟨.newline :: tokens, .between⟩
  else if c = '\r' then some ⟨.newline :: tokens, .lineFeed .between⟩
  else if c = '#' then some ⟨tokens, .comment⟩
  else if c = '=' then some ⟨.equals :: tokens, .between⟩
  else if c = ',' then some ⟨.comma :: tokens, .between⟩
  else if c = '{' then some ⟨.openTable :: tokens, .between⟩
  else if c = '}' then some ⟨.closeTable :: tokens, .between⟩
  else if c = '[' then some ⟨tokens, .bracket true⟩
  else if c = ']' then some ⟨tokens, .bracket false⟩
  else if c = '"' ∨ c = '\'' then some ⟨tokens, .quote c⟩
  else if isWordChar c then some ⟨tokens, .word [c]⟩
  else none

/-- A character in a text, after some quotes that may close it. -/
def inBody (tokens : List Token) (body : Body) (quotes : Nat) (c : Char) : Option Scan :=
  if c = body.quote then
    if !body.isTripled then some ⟨close body :: tokens, .between⟩
    else if quotes = 4 then some ⟨close (push body [c, c]) :: tokens, .between⟩
    else some ⟨tokens, .body body (quotes + 1)⟩
  else if 3 ≤ quotes then
    start (close (push body (List.replicate (quotes - 3) body.quote)) :: tokens) c
  else
    let body := push body (List.replicate quotes body.quote)
    if c = '\\' ∧ body.quote = '"' then some ⟨tokens, .escape body⟩
    else if c = '\n' then
      if body.isTripled then some ⟨tokens, .body (push body [c]) 0⟩ else none
    else if c = '\r' then
      if body.isTripled then some ⟨tokens, .lineFeed (.body (push body ['\n']) 0)⟩ else none
    else if isPlain c then some ⟨tokens, .body (push body [c]) 0⟩
    else none

/-- The character that a letter after a backslash stands for. -/
def escaped? (c : Char) : Option Char :=
  if c = '"' then some '"'
  else if c = '\\' then some '\\'
  else if c = 'b' then some '\x08'
  else if c = 'f' then some '\x0c'
  else if c = 'n' then some '\n'
  else if c = 'r' then some '\r'
  else if c = 't' then some '\t'
  else none

/-- A character after a backslash. -/
def inEscape (tokens : List Token) (body : Body) (c : Char) : Option Scan :=
  if c = 'u' then some ⟨tokens, .unit body 4 0⟩
  else if c = 'U' then some ⟨tokens, .unit body 8 0⟩
  else if body.isTripled && isSpace c then some ⟨tokens, .fold body false⟩
  else if body.isTripled && c == '\n' then some ⟨tokens, .fold body true⟩
  else if body.isTripled && c == '\r' then some ⟨tokens, .lineFeed (.fold body true)⟩
  else (escaped? c).map fun d => ⟨tokens, .body (push body [d]) 0⟩

/-- The value of a hexadecimal digit of either case. -/
def hexDigit? (c : Char) : Option Nat :=
  if c.isDigit then some (c.toNat - '0'.toNat)
  else if 'a' ≤ c ∧ c ≤ 'f' then some (c.toNat - 'a'.toNat + 10)
  else if 'A' ≤ c ∧ c ≤ 'F' then some (c.toNat - 'A'.toNat + 10)
  else none

/-- The character of a code point, if there is one. -/
def ofCode? (code : Nat) : Option Char :=
  if h : code.isValidChar then some (Char.ofNatAux code h) else none

/-- A hexadecimal digit of an escape of which some digits are due. -/
def inUnit (tokens : List Token) (body : Body) (due value : Nat) (c : Char) : Option Scan :=
  match hexDigit? c with
  | none => none
  | some d =>
    if due ≤ 1 then
      (ofCode? (16 * value + d)).map fun c => ⟨tokens, .body (push body [c]) 0⟩
    else
      some ⟨tokens, .unit body (due - 1) (16 * value + d)⟩

/-- A character among the blanks that an escaped line break removes. -/
def inFold (tokens : List Token) (body : Body) (broken : Bool) (c : Char) : Option Scan :=
  if isSpace c then some ⟨tokens, .fold body broken⟩
  else if c = '\n' then some ⟨tokens, .fold body true⟩
  else if c = '\r' then some ⟨tokens, .lineFeed (.fold body true)⟩
  else if broken then inBody tokens body 0 c
  else none

/-- The token of one bracket or of two. -/
def bracketToken (opens isDouble : Bool) : Token :=
  match opens, isDouble with
  | true, false => .openArray
  | true, true => .openPair
  | false, false => .closeArray
  | false, true => .closePair

/-- One more character. -/
def step (scan : Scan) (c : Char) : Option Scan :=
  let tokens := scan.tokens
  match scan.mode with
  | .between => start tokens c
  | .word cs =>
    if isWordChar c then some ⟨tokens, .word (c :: cs)⟩
    else if c = ' ' ∧ looksLikeDate cs = true then some ⟨tokens, .afterDate cs⟩
    else start (.word cs.reverse :: tokens) c
  | .afterDate cs =>
    if c.isDigit then some ⟨tokens, .word (c :: ' ' :: cs)⟩
    else start (.word cs.reverse :: tokens) c
  | .comment =>
    if c = '\n' ∨ c = '\r' then start tokens c
    else if isPlain c then some ⟨tokens, .comment⟩
    else none
  | .bracket opens =>
    if c = (if opens then '[' else ']') then
      some ⟨bracketToken opens true :: tokens, .between⟩
    else
      start (bracketToken opens false :: tokens) c
  | .quote q =>
    if c = q then some ⟨tokens, .twoQuotes q⟩ else inBody tokens ⟨q, false, []⟩ 0 c
  | .twoQuotes q =>
    if c = q then some ⟨tokens, .start ⟨q, true, []⟩⟩
    else start (close ⟨q, false, []⟩ :: tokens) c
  | .start body =>
    if c = '\n' then some ⟨tokens, .body body 0⟩
    else if c = '\r' then some ⟨tokens, .lineFeed (.body body 0)⟩
    else inBody tokens body 0 c
  | .body body quotes => inBody tokens body quotes c
  | .escape body => inEscape tokens body c
  | .unit body due value => inUnit tokens body due value c
  | .fold body broken => inFold tokens body broken c
  | .lineFeed next => if c = '\n' then some ⟨tokens, next⟩ else none

/-- The machine after some characters. -/
def run (scan : Scan) : List Char → Option Scan
  | [] => some scan
  | c :: rest =>
    match scan.step c with
    | some next => next.run rest
    | none => none

/-- The tokens read, if the document may end here. -/
def finish (scan : Scan) : Option (List Token) :=
  let tokens := scan.tokens
  match scan.mode with
  | .between => some tokens.reverse
  | .comment => some tokens.reverse
  | .word cs => some (Token.word cs.reverse :: tokens).reverse
  | .afterDate cs => some (Token.word cs.reverse :: tokens).reverse
  | .bracket opens => some (bracketToken opens false :: tokens).reverse
  | .twoQuotes q => some (close ⟨q, false, []⟩ :: tokens).reverse
  | .body body quotes =>
    if 3 ≤ quotes then
      some (close (push body (List.replicate (quotes - 3) body.quote)) :: tokens).reverse
    else
      none
  | _ => none

end Scan

/-- A text without the mark that tells its byte order. -/
def withoutMark : List Char → List Char
  | '\ufeff' :: rest => rest
  | cs => cs

/-- The tokens of a document, if it can be cut into tokens. -/
def Token.ofText? (text : String) : Option (List Token) :=
  ((⟨[], .between⟩ : Scan).run (withoutMark text.toList)).bind Scan.finish

end BenchDepot.Toml
