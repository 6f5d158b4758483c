import Switchboard.Http.Basic

/-! # Requests from pages of other origins

A browser tells from which origin a page comes that makes a request, and asks before it
makes one of an unusual kind.

* `Http.Origins` — the origins from which pages may make requests;
* `Http.Origins.preflight` — the answer to a browser that asks;
* `Http.Origins.allows` — whether the page that makes a request is of an allowed origin;
* `Http.Origins.mark` — a response that tells the browser so. -/

namespace Switchboard.Http

/-- The origins from which pages may make requests. -/
inductive Origins where
  | all
  | only (origins : List String)
deriving DecidableEq, Repr

namespace Origins

/-- A star anywhere in the list stands for all origins. -/
def ofList (origins : List String) : Origins := if "*" ∈ origins then all else only origins

/-- Why a browser that asks is told not to make its request. -/
inductive Refusal where
  | originMissing
  | originNotAllowed
  | methodNotAllowed
deriving DecidableEq, Repr

def Refusal.message : Refusal → String
  | .originMissing => "The request header `Origin` is required but was not provided"
  | .originNotAllowed => "Origin is not allowed to make this request"
  | .methodNotAllowed => "Requested method is not allowed"

def Refusal.response (r : Refusal) : Response := .text 400 r.message

/-- Whether pages of an origin may make requests. -/
def holds (o : Origins) (origin : String) : Bool :=
  match o with
  | all => true
  | only origins => origin ∈ origins

/-- Whether a request comes from a page of an allowed origin.  If not it is served all the same:
`mark` is left out, and the browser keeps the answer from the page. -/
def allows (o : Origins) (r : Request) : Bool := (r.headers.text? "origin").any o.holds

def methods : List String :=
  ["CONNECT", "DELETE", "GET", "HEAD", "OPTIONS", "PATCH", "POST", "PUT", "TRACE"]

/-- An `OPTIONS` request by which a browser asks before it makes the request itself. -/
def isPreflight (r : Request) : Bool :=
  r.method = "OPTIONS" ∧
    (r.headers.text? "access-control-request-method").any (· ≠ "")

/-- The response with the origin that it is for. -/
def mark (r : Request) (response : Response) : Response :=
  match r.headers.text? "origin" with
  | some origin => response.withHeader "access-control-allow-origin" origin
  | none => response

/-- Why a browser that asks is told not to make its request, if it is. -/
def refusal? (o : Origins) (r : Request) : Option Refusal :=
  match o, r.headers.text? "origin" with
  | .only _, none => some .originMissing
  | o, origin =>
    if origin.any fun origin => o.holds origin = false then some .originNotAllowed
    else if (r.headers.text? "access-control-request-method").any (· ∉ methods) then
      some .methodNotAllowed
    else none

def preflight (o : Origins) (r : Request) : Response :=
  match o.refusal? r with
  | some e => e.response
  | none =>
    let response := (mark r (.empty 200)).withHeader "access-control-allow-methods"
      (", ".intercalate methods)
    match r.headers.text? "access-control-request-headers" with
    | some names => response.withHeader "access-control-allow-headers" names
    | none => response

end Origins

end Switchboard.Http
