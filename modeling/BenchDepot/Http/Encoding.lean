import BenchDepot.Http.Message
import BenchDepot.Text.Blank
import BenchDepot.Text.Cut

/-!
# Content encodings

Whether a response is compressed is up to the client, which lists the encodings it takes with a
weight for each.  The service knows two: no encoding and gzip.  The one with the larger weight is
taken, and gzip if the weights are equal; an entry that is malformed, has no weight or names
something else does not count.  Short responses are not compressed.
-/

namespace BenchDepot.Http

/-- An encoding that the service knows. -/
inductive Coding where
  | identity
  | gzip
deriving DecidableEq

/-- The encoding of a name, of any case. -/
def Coding.ofName? (name : List Char) : Option Coding :=
  let name := String.ofList (name.map Char.toLower)
  if name = "gzip" ∨ name = "x-gzip" then some .gzip
  else if name = "identity" then some .identity
  else none

/-- The thousandths that the digits after a point stand for, up to three of them. -/
def thousandths? : List Char → Nat → Option Nat
  | [], _ => some 0
  | c :: rest, place =>
    if c.isDigit ∧ 0 < place then
      (thousandths? rest (place / 10)).map (place * (c.toNat - '0'.toNat) + ·)
    else
      none

/-- A weight in thousandths: a number from 0 to 1 with up to three digits after the point. -/
def weight? : List Char → Option Nat
  | ['0'] => some 0
  | ['1'] => some 1000
  | '0' :: '.' :: digits => thousandths? digits 100
  | '1' :: '.' :: digits =>
    match thousandths? digits 100 with
    | some 0 => some 1000
    | _ => none
  | _ => none

/-- The weight of an entry's parameter. -/
def parameter? : List Char → Option Nat
  | q :: '=' :: rest => if q = 'q' ∨ q = 'Q' then weight? rest else none
  | _ => none

/-- An encoding and its weight, from an entry of the list. -/
def accepted? (entry : List Char) : Option (Coding × Nat) :=
  let name := entry.takeWhile (· != ';')
  match Coding.ofName? (Text.trim name), entry.drop name.length with
  | some coding, [] => some (coding, 1000)
  | some coding, _ :: parameter => (parameter? (Text.trim parameter)).map (coding, ·)
  | none, _ => none

/-- Whether a header value is one that can be read as text. -/
def isVisible (value : String) : Bool :=
  value.toList.all fun c => c == '\t' || (' ' ≤ c && c ≤ '~')

/-- The entries of some header values. -/
def entriesOf (values : List String) : List (List Char) :=
  (values.filter isVisible).flatMap fun value => Text.pieces ',' value.toList

/-- The largest weight that some header values give an encoding. -/
def bestWeight (values : List String) (coding : Coding) : Nat :=
  (entriesOf values).foldl (fun best entry =>
    match accepted? entry with
    | some (other, weight) => if other = coding then max best weight else best
    | none => best) 0

/-- The encoding that some header values prefer. -/
def preferred (values : List String) : Coding :=
  let gzip := bestWeight values .gzip
  if 0 < gzip ∧ bestWeight values .identity ≤ gzip then .gzip else .identity

/-- The size from which on a response is compressed. -/
def compressFrom : Nat := 32

/-- A response in the encoding that its request prefers. -/
def Response.encodeFor (response : Response) (request : Request) : Response :=
  if compressFrom ≤ response.body.size
      ∧ preferred (request.values "accept-encoding") = .gzip then
    { response with headers := ("content-encoding", "gzip") :: response.headers }
  else
    response

end BenchDepot.Http
