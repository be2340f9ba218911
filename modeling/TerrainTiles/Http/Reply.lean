import TerrainTiles.Fault
import TerrainTiles.Text.Case

/-!
# HTTP replies

A request is answered by a response or fails. A response has a status, headers,
and a body that arrives in chunks and can break off with a fault. Header names
are compared without regard to case; of repeated headers the last counts.
-/

namespace TerrainTiles.Http

structure Response where
  status : Int := 200
  reason : Option String := some "OK"
  headers : List (String × String) := []
  chunks : List Bytes := []
  failure : Option Fault := none

inductive Reply where
  | failed (fault : Fault)
  | answered (response : Response)

namespace Response

def header? (response : Response) (name : String) : Option String :=
  (response.headers.reverse.find? fun (key, _) =>
    Text.lowercase key = Text.lowercase name).map Prod.snd

/-- The declared length of the body as it is delivered. It is known only for an
unencoded body: the header counts bytes before they are decoded. -/
def declaredLength? (response : Response) : Option String :=
  match response.header? "Content-Encoding" with
  | none | some "" => response.header? "Content-Length"
  | some _ => none

/-- No coding of the body is named, or an empty one. -/
def Unencoded (response : Response) : Prop :=
  ∀ coding, response.header? "Content-Encoding" = some coding → coding = ""

theorem declaredLength?_eq_some_iff (response : Response) (text : String) :
    response.declaredLength? = some text ↔
      response.header? "Content-Length" = some text ∧ response.Unencoded := by
  unfold declaredLength? Unencoded
  split <;> simp_all

def statusFault? (response : Response) (url : String) : Option Fault :=
  if 400 ≤ response.status ∧ response.status < 500 then
    some (.httpStatus true response.status response.reason url)
  else if 500 ≤ response.status ∧ response.status < 600 then
    some (.httpStatus false response.status response.reason url)
  else none

end Response

def noRoute : Fault :=
  .reported { kind := .http .connection, details := [.text "no route"] }

end TerrainTiles.Http
