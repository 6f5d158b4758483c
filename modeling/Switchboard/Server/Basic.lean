import Switchboard.Http.Body
import Switchboard.Http.Cors
import Switchboard.Http.Upgrade
import Switchboard.Limits.Window
import Switchboard.Server.Route
import Switchboard.Service.Run
import Switchboard.Settings

/-! # The server

Requests come in as text.  Who asks is looked at first, then what is asked for, then how;
what is refused on the way changes nothing but what was needed to find that out.

* `Server` — the service, the limit on callers and the origins that may make requests;
* `Server.enter` — who may enter a part of the server;
* `Server.serve` — the response of whatever a route leads to;
* `Server.respond` — the response to a request;
* `Server.Event`, `Server.step`, `Server.run` — requests and what happens on connections, one
  after the other. -/

namespace Switchboard

structure Server where
  service : Service
  limiter : WindowLimiter
  origins : Http.Origins

namespace Server

open Http (Request Response)
open Service (Clock Fresh)

/-- A server where nobody is known. -/
def start (settings : Settings) : Server where
  service := .empty (.standard Password.Record.defaultCost)
    ⟨settings.secret, settings.tokenMinutes⟩ settings.relay
  limiter := .empty settings.maxRequests settings.windowMs
  origins := .ofList settings.corsOrigins

/-- What a request has led to: the server after it, the response, and the frames sent on a
connection that it opened. -/
structure Outcome where
  server : Server
  response : Response
  sent : Relay.Sent

def Outcome.only (s : Server) (response : Response) : Outcome := ⟨s, response, []⟩

/-! ## Who may enter -/

def tooOften : Problem := ⟨.tooManyRequests, "rate limit exceeded, try again later"⟩

def noBearer : Problem := ⟨.authentication, "missing or malformed Bearer token"⟩

/-- The access token behind `Bearer` and one blank, which may not be empty. -/
def bearer? (headers : Headers) : Option String :=
  match (headers.text? "authorization").map String.toList with
  | some ('B' :: 'e' :: 'a' :: 'r' :: 'e' :: 'r' :: ' ' :: c :: token) =>
    some (String.ofList (c :: token))
  | _ => none

/-- The account whose access token a request shows.  A browser that only asks, with `OPTIONS`, shows
none and needs none. -/
def account (s : Server) (now : Instant) (r : Request) : Except Problem (Option AccountId) :=
  if r.method = "OPTIONS" then .ok none
  else
    match bearer? r.headers with
    | none => .error noBearer
    | some token => (s.service.authenticate now token).map some

/-- Whether a request may enter the part of the server that it leads to.  The hall is open; to the
accounts callers come only so often, which is counted even if nothing is found there; and the
devices are for those who show an access token. -/
def enter (s : Server) (clock : Clock) (r : Request) :
    Server × Except Problem (Option AccountId) :=
  match Scope.ofPath r.path with
  | .hall => (s, .ok none)
  | .accounts =>
    match s.limiter.check (r.headers.client r.peer) clock.steady with
    | (true, limiter) => ({ s with limiter }, .ok none)
    | (false, limiter) => ({ s with limiter }, .error tooOften)
  | .devices => (s, s.account clock.wall r)

/-! ## What is asked for -/

def health : Json :=
  .object [("status", .string "ok"), ("version", .string Notice.version)]

def loginForm : Json.Form := ⟨"struct EmailPasswordRequest", ["email", "password"]⟩

def refreshForm : Json.Form := ⟨"struct RefreshRequest", ["refresh_token"]⟩

def pairForm : Json.Form := ⟨"struct PairDeviceRequest", ["device_name"]⟩

def answer {α : Type} (toJson : α → Json) : Except Problem α → Response
  | .ok a => .json (toJson a)
  | .error p => .problem p

/-- Answers with what `f` makes of the fields of a form, if the body holds them. -/
def withForm {α : Type} (s : Server) (r : Request) (form : Json.Form) (toJson : α → Json)
    (f : List String → Service × Except Problem α) : Outcome :=
  match r.form form with
  | .error e => .only s e.response
  | .ok values =>
    let (service, result) := f values
    .only { s with service } (answer toJson result)

/-- Removes the device that a path names; the account is that of the access token, so nobody removes
another's. -/
def remove (s : Server) (clock : Clock) (account : AccountId) (device : String) : Outcome :=
  match Uuid.parse device with
  | .error e =>
    .only s (.text 404 ("Path deserialize error: UUID parsing failed: " ++ e.message))
  | .ok device =>
    let (service, result) := s.service.unpair clock.steady account device
    .only { s with service } (answer (fun _ => .object [("ok", .bool true)]) result)

/-- The value of a name in a query; `none` if it is missing, and a fault if it is there twice. -/
def queryValue (query : List (String × String)) (name : String) :
    Except Json.Fault (Option String) :=
  match query.filter (·.1 = name) with
  | [] => .ok none
  | [pair] => .ok (some pair.2)
  | _ => .error (.duplicateField name)

/-- The two tokens that a query may hold. -/
def queryTokens (query : String) : Except Json.Fault (Option String × Option String) := do
  let pairs := Percent.pairs query
  let token ← queryValue pairs "token"
  let deviceToken ← queryValue pairs "device_token"
  return (token, deviceToken)

/-- Opens a connection.  Credentials go first: whether the request asks for a connection in the
right way matters only for somebody who is admitted. -/
def connect (s : Server) (clock : Clock) (fresh : Fresh) (r : Request) : Outcome :=
  match queryTokens r.query with
  | .error e => .only s (.text 400 ("Query deserialize error: " ++ e.message))
  | .ok (token, deviceToken) =>
    match s.service.identify clock.wall token deviceToken with
    | (service, .error p) => .only { s with service } (.problem p)
    | (service, .ok p) =>
      -- a device has been seen even if no connection is opened
      match r.upgradeKey with
      | none => .only { s with service } (.empty 400)
      | some key =>
        let (service, sent) := service.connect clock fresh p
        ⟨{ s with service }, .switching key, sent⟩

/-- What a route leads to.  `enter` has seen to it that routes to devices come with an account. -/
def serve (s : Server) (clock : Clock) (fresh : Fresh) (r : Request) :
    Route → Option AccountId → Outcome
  | .health, _ => .only s (.json health)
  | .connect, _ => s.connect clock fresh r
  | .register, _ =>
    s.withForm r loginForm Service.Tokens.toJson fun values =>
      s.service.register clock.wall fresh (values.getD 0 "") (values.getD 1 "")
  | .login, _ =>
    s.withForm r loginForm Service.Tokens.toJson fun values =>
      s.service.login clock.wall fresh (values.getD 0 "") (values.getD 1 "")
  | .refresh, _ =>
    s.withForm r refreshForm Service.Tokens.toJson fun values =>
      s.service.refresh clock.wall fresh (values.getD 0 "")
  | .pair, some account =>
    s.withForm r pairForm Service.Paired.toJson fun values =>
      s.service.pair clock.wall fresh account (values.getD 0 "")
  | .list, some account =>
    .only s (.json (.array ((s.service.devices account).map Service.Listed.toJson)))
  | .remove device, some account => s.remove clock account device
  | _, none => .only s .notFound

/-! ## The response -/

/-- Marks a response for the origin of the request, which only a response gets that came as far as
this. -/
def markFor (s : Server) (r : Request) (out : Outcome) : Outcome :=
  if s.origins.allows r then { out with response := Http.Origins.mark r out.response } else out

/-- The response to a request.  Preflights are answered before anything else, and whoever may not
enter is told so without a mark. -/
def respond (s : Server) (clock : Clock) (fresh : Fresh) (r : Request) : Outcome :=
  if Http.Origins.isPreflight r then .only s (s.origins.preflight r)
  else
    match s.enter clock r with
    | (s, .error p) => .only s (.problem p)
    | (s, .ok account) =>
      -- whether the path leads anywhere is shown only to those who may enter
      match Route.of? r.method r.path with
      | none => s.markFor r (.only s .notFound)
      | some route => s.markFor r (s.serve clock fresh r route account)

/-! ## The server at work -/

/-- What may happen to a server: a request comes in, or something happens on a connection. -/
inductive Event where
  | request (fresh : Fresh) (r : Http.Request)
  | move (o : OutboxId) (move : Socket.Move)

def step (s : Server) (clock : Clock) : Event → Server
  | .request fresh r => (s.respond clock fresh r).server
  | .move o move => { s with service := s.service.step clock (.move o move) }

def run (s : Server) (events : List (Clock × Event)) : Server :=
  events.foldl (fun s e => s.step e.1 e.2) s

end Server

end Switchboard
