/-!
# HTTP messages

Requests as the service sees them and the responses it gives.  A request's target is a path with a
query, or a whole address; only its path matters, exactly as it is written.
-/

namespace BenchDepot.Http

/-- The method of a request; names are case sensitive. -/
inductive Method where
  | get
  | head
  | post
  | other (name : String)
deriving DecidableEq

namespace Method

/-- The method of a name. -/
def ofName (name : String) : Method :=
  match name with
  | "GET" => .get
  | "HEAD" => .head
  | "POST" => .post
  | _ => .other name

/-- The name of a method. -/
def name : Method → String
  | .get => "GET"
  | .head => "HEAD"
  | .post => "POST"
  | .other name => name

end Method

/-- A request. -/
structure Request where
  method : Method
  target : String
  headers : List (String × String)
  body : ByteArray

/-- A response. -/
structure Response where
  status : Nat
  headers : List (String × String)
  body : ByteArray

/-- What follows a marker in a text, if the marker occurs. -/
def afterMarker? (marker : List Char) : List Char → Option (List Char)
  | [] => if marker.isEmpty then some [] else none
  | c :: rest =>
    if marker.isPrefixOf (c :: rest) then some ((c :: rest).drop marker.length)
    else afterMarker? marker rest

/-- Whether a character ends a path. -/
def endsPath (c : Char) : Bool :=
  c == '?' || c == '#'

/-- What stands before the end of a path. -/
def pathPart (cs : List Char) : List Char :=
  cs.takeWhile fun c => !endsPath c

/-- The path of a target.  A target may be a path, a star, or an address; an address without a path
has that of the root, and a server alone has none. -/
def pathOf (target : String) : String :=
  match target.toList with
  | ['*'] => "*"
  | '/' :: rest => String.ofList ('/' :: pathPart rest)
  | cs =>
    match afterMarker? [':', '/', '/'] cs with
    | none => ""
    | some rest =>
      let path := pathPart (rest.dropWhile fun c => !(c == '/' || endsPath c))
      if path.isEmpty then "/" else String.ofList path

namespace Request

/-- The path of a request. -/
def path (request : Request) : String :=
  pathOf request.target

/-- The values of a header, whose name may be written in any case. -/
def values (request : Request) (name : String) : List String :=
  (request.headers.filter fun h => h.1.toLower == name).map (·.2)

end Request

/-- A response with a content type and a text. -/
def Response.ofText (status : Nat) (contentType text : String) : Response :=
  ⟨status, [("content-type", contentType)], text.toUTF8⟩

end BenchDepot.Http
