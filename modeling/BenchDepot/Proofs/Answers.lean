import BenchDepot.Http.Router
import BenchDepot.Proofs.JsonText

/-!
# What an answer says

Errors and stored uploads are answered with small JSON objects.  A client finds in them the code of
the error and the number of records that were stored, whatever else stands in the object.

* `code?_response` — an error is told by its code;
* `stored?_storedResponse` — an upload that was stored is told by its number of records.
-/

namespace BenchDepot.Http

open Json (Codec Glyph Piece Value)

namespace Response

/-- The value of a name in the object that is the body of a response. -/
def member? (response : Response) (name : String) : Option Value :=
  match Value.ofGlyphs? (Glyph.ofBytes response.body) with
  | some (.object members) =>
    (members.find? fun m => decide (Piece.text? m.1 = some name)).map (·.2)
  | _ => none

/-- The code of the error that a response tells. -/
def code? (response : Response) : Option String :=
  (response.member? "code").bind Value.text?

/-- The number of stored records that a response tells. -/
def stored? (response : Response) : Option Nat :=
  (response.member? "stored").bind Codec.natural?

/-- An object that is written into a body is found in it. -/
theorem member?_ofText (status : Nat) (contentType : String) {members : List (String × Value)}
    (hplain : ∀ m ∈ members, m.2.Plain) (name : String) :
    (ofText status contentType (Value.ofMembers members).text).member? name =
      (members.find? fun m => decide (m.1 = name)).map (·.2) := by
  have hparse : Value.ofGlyphs?
      (Glyph.ofBytes (ofText status contentType (Value.ofMembers members).text).body) =
        some (Value.ofMembers members) := by
    rw [ofText, Glyph.ofBytes_toUTF8]
    exact Value.parse?_text (Value.plain_ofMembers hplain)
  have hname : ∀ text : String,
      decide (Piece.text? (Piece.ofString text) = some name) = decide (text = name) := by
    intro text
    simp only [Piece.text?_ofString, Option.some.injEq]
  rw [member?, hparse]
  simp only [Value.ofMembers, List.find?_map, Option.map_map, Function.comp_def, hname]

/-- The body is sent unless only the head was asked for. -/
theorem body_sendFor {request : Request} (response : Response) (h : request.method ≠ .head) :
    (response.sendFor request).body = response.body := by
  unfold sendFor encodeFor
  rw [if_neg h]
  split <;> rfl

/-- What is sent tells what the answer told, unless only the head was asked for. -/
theorem member?_sendFor {request : Request} (response : Response) (h : request.method ≠ .head)
    (name : String) : (response.sendFor request).member? name = response.member? name := by
  rw [member?, member?, body_sendFor response h]

end Response

/-- An error is told by its code. -/
theorem ApiError.code?_response (error : ApiError) : error.response.code? = some error.code := by
  rw [Response.code?, ApiError.response, Response.member?_ofText]
  · show (Value.ofString error.code).text? = _
    exact Piece.text?_ofString error.code
  · intro m hm
    simp only [List.mem_cons, List.not_mem_nil, or_false] at hm
    rcases hm with rfl | rfl
    · exact Value.plain_ofString _
    · exact Value.plain_ofString _

/-- An upload that was stored is told by its number of records. -/
theorem stored?_storedResponse (count : Nat) : (storedResponse count).stored? = some count := by
  rw [Response.stored?, storedResponse, Response.member?_ofText]
  · exact Codec.natural?_ofInt count
  · intro m hm
    rw [List.mem_singleton.mp hm]
    exact trivial

end BenchDepot.Http
