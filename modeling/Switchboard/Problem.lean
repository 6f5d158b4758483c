import Switchboard.Json.Basic
import Switchboard.Json.Fault

/-! # Problems told to a client

* `Problem` — what went wrong, as a category and the particulars;
* `Problem.message` — the two in words;
* `Problem.status`, `Problem.body` — the answer that is sent for it.  Of problems
  that are the server's own only the category is told. -/

namespace Switchboard

/-- The categories of problems. -/
inductive Problem.Category where
  | internal
  | authentication
  | unauthorized
  | notFound
  | badRequest
  | conflict
  | configuration
  | validation
  | serialization
  | tooManyRequests
deriving DecidableEq, Repr

/-- A problem: its category and the particulars. -/
structure Problem where
  category : Problem.Category
  detail : String
deriving DecidableEq, Repr

namespace Problem

def Category.title : Category → String
  | .internal => "Internal error"
  | .authentication => "Authentication error"
  | .unauthorized => "Unauthorized"
  | .notFound => "Not found"
  | .badRequest => "Bad request"
  | .conflict => "Conflict"
  | .configuration => "Configuration error"
  | .validation => "Validation error"
  | .serialization => "Serialization error"
  | .tooManyRequests => "Too many requests"

/-- The name of a category in an answer. -/
def Category.tag : Category → String
  | .internal => "internal_error"
  | .authentication => "authentication_error"
  | .unauthorized => "unauthorized"
  | .notFound => "not_found"
  | .badRequest => "bad_request"
  | .conflict => "conflict"
  | .configuration => "configuration_error"
  | .validation => "validation_error"
  | .serialization => "serialization_error"
  | .tooManyRequests => "too_many_requests"

def Category.status : Category → Nat
  | .internal | .configuration | .serialization => 500
  | .authentication | .unauthorized => 401
  | .notFound => 404
  | .badRequest | .validation => 400
  | .conflict => 409
  | .tooManyRequests => 429

def status (p : Problem) : Nat := p.category.status

def message (p : Problem) : String := p.category.title ++ ": " ++ p.detail

/-- What a client is told.  Of the server's own problems that is no more than that there was one. -/
def told (p : Problem) : String :=
  if p.status = 500 then "Internal server error" else p.message

/-- The problem that a text is not the JSON that it should be. -/
def ofJson (e : Json.Error) : Problem :=
  ⟨.serialization, "JSON deserialization/serialization error: " ++ e.message⟩

def body (p : Problem) : String :=
  (Json.object [("code", .ofNat p.status), ("message", .string p.told),
    ("error_type", .string p.category.tag)]).render

end Problem

end Switchboard
