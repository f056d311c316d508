import BenchDepot.Http.Encoding
import BenchDepot.Http.Message
import BenchDepot.Service.Basic
import BenchDepot.Time.Calendar

/-!
# The HTTP surface

Three paths have a handler of their own: the health check, the page of counters where it is
switched on, and the aggregate, to which results are posted.  Every other path is read as a key and
served from the stored artifacts; that can only be read.

* `route` — the handler of a path;
* `respond` — the response to a request, and the service after it.
-/

namespace BenchDepot.Http

open Json (Glyph Value)

/-- The version that the health check reports. -/
def version : String := "0.1.0"

/-- Why a request gets no answer of its own. -/
inductive ApiError where
  | notFound (key : Key)
  | badBody
  | forbidden (key : Key)
  | badMethod (method : Method)
  | store (cause : StoreError)
  | badSubmission (cause : SubmissionError)
  | badKey (cause : KeyError)
deriving DecidableEq

namespace ApiError

/-- The status of an error. -/
def status : ApiError → Nat
  | .notFound _ => 404
  | .badBody => 400
  | .forbidden _ => 403
  | .badMethod _ => 405
  | .store _ => 500
  | .badSubmission _ => 400
  | .badKey _ => 400

/-- The code of an error, for programs. -/
def code : ApiError → String
  | .notFound _ => "not_found"
  | .badBody => "bad_request"
  | .forbidden _ => "forbidden"
  | .badMethod _ => "method_not_allowed"
  | .store _ => "metadata_error"
  | .badSubmission _ => "invalid_submission"
  | .badKey _ => "invalid_key"

/-- The message of an error, for people. -/
def message : ApiError → String
  | .notFound key => "not found: " ++ key.text ++ ": file not found"
  | .badBody => "bad request: error while parsing JSON"
  | .forbidden key => "forbidden: can't POST to " ++ key.text
  | .badMethod method => "method not allowed: invalid method: " ++ method.name
  | .store cause => "metadata error: " ++ cause.message
  | .badSubmission cause => cause.message
  | .badKey cause => cause.message

/-- The response to a request that failed. -/
def response (error : ApiError) : Response :=
  Response.ofText error.status "application/json"
    (Value.ofMembers [("code", Value.ofString error.code),
      ("message", Value.ofString error.message)]).text

end ApiError

/-- The handler of a path. -/
inductive Route where
  | health
  | metrics
  | aggregate
  /-- No handler of its own: the path is read as a key. -/
  | artifact (path : String)
deriving DecidableEq

/-- The handler of a path, with the page of counters switched on or off. -/
def route (metricsEnabled : Bool) (path : String) : Route :=
  if path = "/health" then .health
  else if path = Key.aggregate.text then .aggregate
  else if path = "/metrics" ∧ metricsEnabled then .metrics
  else .artifact path

/-- The response to a method that a handler does not take. -/
def notAllowed (allowed : String) : Response :=
  ⟨405, [("allow", allowed)], ByteArray.empty⟩

/-- The size from which on an upload is not read. -/
def bodyLimit : Nat := 2097152

/-- The response to an upload that is too large. -/
def tooLarge : Response :=
  Response.ofText 413 "text/plain; charset=utf-8"
    "Failed to buffer the request body: length limit exceeded"

/-- The content type of a key's artifact. -/
def contentType (key : Key) : String :=
  if key.extension = ['j', 's', 'o', 'n'] then "application/json" else "text/plain; charset=utf-8"

/-- The response with an artifact. -/
def artifactResponse (key : Key) (artifact : Artifact) : Response :=
  ⟨200, [("content-type", contentType key), ("last-modified", httpDate artifact.generatedAt)],
    artifact.blob⟩

/-- A read of a key over HTTP. -/
def serve (s : Service) (key : Key) : Response × Service :=
  match s.read key with
  | (.ok (some artifact), after) => (artifactResponse key artifact, after)
  | (.ok none, after) => ((ApiError.notFound key).response, after)
  | (.error cause, after) => ((ApiError.store cause).response, after)

/-- A service that has rejected one more upload. -/
def rejected (s : Service) : Service :=
  s.count fun c => { c with rejected := c.rejected + 1 }

/-- The upload that a body spells. -/
def uploadOf? (body : ByteArray) : Option Upload :=
  (Value.ofGlyphs? (Glyph.ofBytes body)).bind Upload.codec.decode

/-- The response to an upload that was stored. -/
def storedResponse (count : Nat) : Response :=
  Response.ofText 200 "application/json" (Value.ofMembers [("stored", Value.ofInt count)]).text

/-- Records over HTTP: all of them are stored, or none. -/
def storeRecords (s : Service) (records : List Record) : Response × Service :=
  match s.append records s.now with
  | .ok after =>
    (storedResponse records.length,
      after.count fun c => { c with ingested := c.ingested + records.length })
  | .error cause => ((ApiError.store cause).response, s)

/-- An upload over HTTP. -/
def submit (s : Service) (body : ByteArray) : Response × Service :=
  if bodyLimit < body.size then
    (tooLarge, s)
  else
    match uploadOf? body with
    | none => (ApiError.badBody.response, rejected s)
    | some upload =>
      match upload.validate with
      | .error cause => ((ApiError.badSubmission cause).response, rejected s)
      | .ok records => storeRecords s records

/-- The response of the health check. -/
def healthResponse (s : Service) : Response :=
  match s.health with
  | .ok () =>
    Response.ofText 200 "application/json"
      (Value.ofMembers [("status", Value.ofString "ok"),
        ("version", Value.ofString version)]).text
  | .error cause => (ApiError.store cause).response

/-- The page of counters. -/
def metricsResponse (s : Service) : Response :=
  Response.ofText 200 "text/plain; version=0.0.4; charset=utf-8" s.counters.page

/-- A request for a path without a handler of its own. -/
def fallback (s : Service) (method : Method) (path : String) : Response × Service :=
  match Key.parse path with
  | .error cause => ((ApiError.badKey cause).response, s)
  | .ok key =>
    match method with
    | .get | .head => serve s key
    | .post => ((ApiError.forbidden key).response, s)
    | .other _ => ((ApiError.badMethod method).response, s)

/-- The full response to a request, before it is encoded, and the service after it. -/
def answer (s : Service) (request : Request) : Response × Service :=
  match route s.settings.server.metricsEnabled request.path, request.method with
  | .health, .get | .health, .head => (healthResponse s, s)
  | .health, _ => (notAllowed "GET,HEAD", s)
  | .metrics, .get | .metrics, .head => (metricsResponse s, s)
  | .metrics, _ => (notAllowed "GET,HEAD", s)
  | .aggregate, .get | .aggregate, .head => serve s Key.aggregate
  | .aggregate, .post => submit s request.body
  | .aggregate, .other _ => (notAllowed "GET,HEAD,POST", s)
  | .artifact path, method => fallback s method path

/-- A response as it is sent: without its body where only the head was asked for. -/
def Response.sendFor (response : Response) (request : Request) : Response :=
  let encoded := response.encodeFor request
  if request.method = .head then { encoded with body := ByteArray.empty } else encoded

/-- The response to a request, and the service after it. -/
def respond (s : Service) (request : Request) : Response × Service :=
  let (response, after) := answer s request
  (response.sendFor request, after)

end BenchDepot.Http
