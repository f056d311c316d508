import BenchDepot.Time.Span

/-!
# Fetching over HTTP

A fetcher asks for an address, follows redirects a few times, and takes the body of an answer with
a status of success.  The network is data here: whether connections can be made at all, and what
the servers answer, one answer for each request.  A fetch fails with a status that is no success,
with a timeout when the server keeps it waiting, and otherwise with the connection.

* `Fetcher.of?` — a user agent that cannot be sent makes no fetcher;
* `Fetcher.fetch` — what is fetched, and the requests that the servers saw.
-/

namespace BenchDepot

namespace Fetch

/-- Whether a character may be sent in a header: all but the control characters, of which only
the tab may. -/
def isSendable (c : Char) : Bool :=
  (decide (0x20 ≤ c.toNat) && c != '\x7f') || c == '\t'

/-! ## Addresses -/

/-- A web address: its server and what the server is asked for. -/
structure Address where
  isSecure : Bool
  server : String
  target : String
deriving DecidableEq

namespace Address

/-- What is left of a text behind a marker at its start, which may be written in any case. -/
def behind? (marker : String) (cs : List Char) : Option (List Char) :=
  let head := (cs.take marker.length).map Char.toLower
  if head = marker.toList then some (cs.drop marker.length) else none

/-- Whether a character ends the server's part of an address. -/
def endsServer (c : Char) : Bool :=
  c == '/' || c == '?' || c == '#'

/-- What a server is asked for, by what follows its name: no fragment, and always a path. -/
def targetOf (cs : List Char) : String :=
  let sent := cs.takeWhile (· != '#')
  String.ofList (if sent.head? == some '/' then sent else '/' :: sent)

/-- The address of a server and what follows it, if the server has a name. -/
def ofRest? (isSecure : Bool) (cs : List Char) : Option Address :=
  let server := cs.takeWhile (!endsServer ·)
  if server.isEmpty then none
  else some ⟨isSecure, String.ofList server, targetOf (cs.dropWhile (!endsServer ·))⟩

/-- The address that a text spells: of a web page, and with a server. -/
def parse? (text : String) : Option Address :=
  let cs := text.toList
  match behind? "http://" cs, behind? "https://" cs with
  | some rest, _ => ofRest? false rest
  | none, some rest => ofRest? true rest
  | none, none => none

/-- The directory of a target: up to its last slash. -/
def directory (target : String) : List Char :=
  let path := target.toList.takeWhile (· != '?')
  (path.reverse.dropWhile (· != '/')).reverse

/-- Where a redirect from an address leads: to another address, to a place on the same server, or
beside the page that redirected. -/
def follow? (from_ : Address) (location : String) : Option Address :=
  let cs := location.toList
  match behind? "//" cs with
  | some rest => ofRest? from_.isSecure rest
  | none =>
    if cs.head? == some '/' then some { from_ with target := targetOf cs }
    else if cs.contains ':' then parse? location
    else some { from_ with target := targetOf (directory from_.target ++ cs) }

end Address

/-! ## The network -/

/-- What a server answers to a request. -/
inductive Reply where
  /-- A status, the address it redirects to if it does, a body, and the length that was announced
  for the body if one was.  A body that is shorter than announced ends with the connection, or
  the rest of it never comes. -/
  | response (status : Nat) (location : Option String) (body : ByteArray)
      (announced : Option Nat) (stalls : Bool)
  /-- The server takes the request and never answers. -/
  | silence
  /-- The server answers with something else than HTTP. -/
  | garbage

/-- The network: whether connections can be made, and what the servers answer.  There is no
connection either when the answers are used up. -/
structure Network where
  connects : Bool
  replies : List Reply

/-- A request as a server sees it. -/
structure Seen where
  method : String
  target : String
  userAgent : String
deriving DecidableEq

/-- Why nothing was fetched. -/
inductive Cause where
  /-- The server answered with a status that is no success. -/
  | status (code : Nat)
  /-- The answer did not come in time. -/
  | timeout (nanos : Nat)
  /-- There was no usable address or connection, or no end of redirects. -/
  | transport
deriving DecidableEq

/-- A fetch that failed: its address and why. -/
structure Failure where
  url : String
  cause : Cause
deriving DecidableEq

/-- The message of a fetch that failed.  That of a failed connection goes on with what the system
says about it. -/
def Failure.message (failure : Failure) : String :=
  match failure.cause with
  | .status code => "origin " ++ failure.url ++ " answered with status " ++ toString code
  | .timeout nanos => "request to " ++ failure.url ++ " timed out after " ++ Span.text nanos
  | .transport => "request to " ++ failure.url ++ " failed"

/-- Whether a status is one of success. -/
def isSuccess (status : Nat) : Bool :=
  decide (200 ≤ status ∧ status ≤ 299)

/-- The statuses that redirect. -/
def redirects : List Nat := [301, 302, 303, 307, 308]

/-- How many redirects are followed. -/
def mostRedirects : Nat := 10

end Fetch

/-! ## Fetchers -/

open Fetch

/-- A fetcher: the user agent it sends, and the nanoseconds it waits. -/
structure Fetcher where
  userAgent : String
  timeout : Nat
  sendable : userAgent.toList.all isSendable = true

namespace Fetcher

/-- The fetcher with a user agent, if that can be sent. -/
def of? (userAgent : String) (timeout : Nat) : Option Fetcher :=
  if h : userAgent.toList.all isSendable = true then some ⟨userAgent, timeout, h⟩ else none

/-- The request for an address, as its server sees it. -/
def request (fetcher : Fetcher) (address : Address) : Seen :=
  ⟨"GET", address.target, fetcher.userAgent⟩

/-- The body of a success: nothing of it counts unless all of it comes. -/
def receive (fetcher : Fetcher) (body : ByteArray) (announced : Option Nat) (stalls : Bool) :
    Except Cause ByteArray :=
  if body.size < announced.getD 0 then
    .error (if stalls then .timeout fetcher.timeout else .transport)
  else
    .ok body

/-- What the servers answer at an address, after some number of redirects may still follow, and
the requests they saw. -/
def ask (fetcher : Fetcher) : List Reply → Nat → Address → Except Cause ByteArray × List Seen
  | [], _, _ => (.error .transport, [])
  | reply :: more, left, address =>
    let seen := fetcher.request address
    match reply with
    | .silence => (.error (.timeout fetcher.timeout), [seen])
    | .garbage => (.error .transport, [seen])
    | .response status location body announced stalls =>
      let next := if redirects.contains status then location else none
      match next with
      | some target =>
        match left, address.follow? target with
        | left + 1, some address =>
          let (result, requests) := fetcher.ask more left address
          (result, seen :: requests)
        | _, _ => (.error .transport, [seen])
      | none =>
        if isSuccess status then (fetcher.receive body announced stalls, [seen])
        else (.error (.status status), [seen])

/-- What is fetched from an address, and the requests that the servers saw. -/
def fetch (fetcher : Fetcher) (network : Network) (url : String) :
    Except Failure ByteArray × List Seen :=
  match Address.parse? url with
  | none => (.error ⟨url, .transport⟩, [])
  | some address =>
    let replies := if network.connects then network.replies else []
    let (result, requests) := fetcher.ask replies mostRedirects address
    (result.mapError fun cause => ⟨url, cause⟩, requests)

end Fetcher

end BenchDepot
