import Switchboard.Http.Basic
import Switchboard.Json.Form

/-! # Bodies

* `Http.isJson` — whether a body says that it is JSON;
* `Http.Body.Fault` — why a body is not accepted, with the response to it;
* `Http.Request.form` — the fields of the form in a body. -/

namespace Switchboard.Http

/-- A content type whose subtype is `json` or ends in `+json`; what follows a semicolon does not
matter. -/
def isJson (contentType : String) : Bool :=
  let front := String.ofList (contentType.toList.takeWhile (· ≠ ';'))
  let essence := Text.lowerAscii (Text.trim front)
  match essence.toList.splitOn '/' with
  | [kind, subtype] => kind ≠ [] ∧ (subtype = "json".toList ∨ "+json".toList <:+ subtype)
  | _ => false

/-- The most bytes of a body. -/
def maxBody : Nat := 2097152

inductive Body.Fault where
  | contentType
  | tooLarge (size : Nat)
  | malformed (error : Json.Error)
deriving DecidableEq, Repr

/-- The response to a body that is not accepted. -/
def Body.Fault.response : Body.Fault → Response
  | .contentType => .text 400 "Content type error"
  | .tooLarge size =>
    .text 413
      ("JSON payload (" ++ toString size ++ " bytes) is larger than allowed (limit: "
        ++ toString maxBody ++ " bytes).")
  | .malformed e => .text 400 ("Json deserialize error: " ++ e.message)

/-- The fields of the form in the body of a request. -/
def Request.form (r : Request) (form : Json.Form) : Except Body.Fault (List String) :=
  if (r.headers.text? "content-type").any isJson then
    if maxBody < r.body.utf8ByteSize then .error (.tooLarge r.body.utf8ByteSize)
    else
      match form.read r.body with
      | .ok values => .ok values
      | .error e => .error (.malformed e)
  else .error .contentType

end Switchboard.Http
