/-!
# Origins

The servers that artifacts other than the aggregate are fetched from.  What an origin answers and
how long it takes is data here: each address has a list of answers, given one per fetch, and a
standard content once they are used up.
-/

namespace BenchDepot

/-- The outcome of a fetch. -/
inductive OriginReply where
  | body (content : ByteArray)
  /-- The origin answered with a status that is no success. -/
  | status (code : Nat)
  /-- The origin did not answer in time. -/
  | timeout
  /-- No answer could be had from the origin. -/
  | unreachable

/-- An answer of an origin, and the nanoseconds it takes. -/
structure OriginAnswer where
  reply : OriginReply
  takes : Nat

/-- The answers that are still to come, by address. -/
abbrev Origins := List (String × List OriginAnswer)

namespace Origins

/-- What an address holds when nothing else is said about it. -/
def standard (url : String) : OriginAnswer :=
  ⟨.body ("body of " ++ url).toUTF8, 0⟩

/-- The answer to one fetch, and the answers that are still to come. -/
def fetch (url : String) : Origins → OriginAnswer × Origins
  | [] => (standard url, [])
  | (address, answers) :: rest =>
    if address = url then
      match answers with
      | [] => (standard url, (address, []) :: rest)
      | answer :: more => (answer, (address, more) :: rest)
    else
      let (answer, rest) := fetch url rest
      (answer, (address, answers) :: rest)

/-- The origins with the answers of an address replaced. -/
def script (origins : Origins) (url : String) (answers : List OriginAnswer) : Origins :=
  (url, answers) :: origins.filter fun e => e.1 ≠ url

end Origins

end BenchDepot
