import Switchboard.Http.Headers
import Switchboard.Problem

/-! # Requests and responses

* `Http.Request` — what a client asks for;
* `Http.Response` — what it is answered. -/

namespace Switchboard.Http

/-- A request.  The path and the query are as the client wrote them. -/
structure Request where
  method : String
  path : String
  query : String
  headers : Headers
  body : String
  peer : Option Address

structure Response where
  status : Nat
  headers : List (String × String)
  body : String
deriving DecidableEq, Repr

namespace Response

def empty (status : Nat) : Response := ⟨status, [], ""⟩

def text (status : Nat) (body : String) : Response :=
  ⟨status, [("content-type", "text/plain; charset=utf-8")], body⟩

def json (v : Json) : Response := ⟨200, [("content-type", "application/json")], v.render⟩

def problem (p : Problem) : Response :=
  ⟨p.status, [("content-type", "application/json")], p.body⟩

def notFound : Response := empty 404

def withHeader (r : Response) (name value : String) : Response :=
  { r with headers := r.headers ++ [(name, value)] }

end Response

end Switchboard.Http
