import Switchboard.Config
import Switchboard.Limit
import Switchboard.Problem
import Switchboard.Text.Numeral

/-! # The settings of the server

They come from the environment, as texts by name; whatever is not set has a
default, except for the secret that tokens are signed with.

* `Settings` — everything that can be set;
* `Settings.Flaw` — what can be wrong with an environment;
* `Settings.load` — the settings of an environment, or the first flaw met. -/

namespace Switchboard

structure Settings where
  name : String
  environment : String
  host : String
  port : Nat
  corsOrigins : List String
  secret : String
  tokenMinutes : Int
  windowMs : Nat
  maxRequests : Nat
  relay : Config
deriving DecidableEq, Repr

namespace Settings

/-- The variables that are set, by name. -/
abbrev Environment := String → Option String

/-- What is wrong with an environment. -/
inductive Flaw where
  | port
  | secretMissing
  | secretBlank
  | number (name : String)
  | choice (message : String)
  | relay (flaw : Config.Flaw)
deriving DecidableEq, Repr

def Flaw.message : Flaw → String
  | .port => "SERVER_PORT must be a valid port number"
  | .secretMissing => "JWT_SECRET must be set"
  | .secretBlank => "JWT_SECRET must not be empty"
  | .number name => name ++ " must be a valid number"
  | .choice message => message
  | .relay flaw => flaw.message

def Flaw.problem (f : Flaw) : Problem := ⟨.configuration, f.message⟩

def text (env : Environment) (name default : String) : String := (env name).getD default

/-- A number that blanks may surround, or the default. -/
def number {α : Type} (parse : String → Option α) (env : Environment) (name default : String) :
    Except Flaw α :=
  match parse (Text.trim (text env name default)) with
  | some n => .ok n
  | none => .error (.number name)

def word : Environment → String → String → Except Flaw Nat := number (Text.natBelow Limit.bits64)

def halfWord : Environment → String → String → Except Flaw Nat :=
  number (Text.natBelow Limit.bits32)

/-- One of the alternatives of `c`, or the default. -/
def chosen {α : Type} (c : Choice α) (env : Environment) (default : String) : Except Flaw α :=
  match c.parse (text env c.setting default) with
  | .ok a => .ok a
  | .error message => .error (.choice message)

/-- The parts of a list with commas, blanks taken off and empty parts left out. -/
def listed (s : String) : List String :=
  ((s.splitOn ",").map Text.trim).filter (· ≠ "")

def loadPort (env : Environment) : Except Flaw Nat :=
  match Text.natBelow Limit.bits16 (text env "SERVER_PORT" "8090") with
  | some port => .ok port
  | none => .error .port

def loadSecret (env : Environment) : Except Flaw String :=
  match env "JWT_SECRET" with
  | none => .error .secretMissing
  | some secret => if Text.trim secret = "" then .error .secretBlank else .ok secret

/-- The configuration of the relay.  Each variable is read before `Config.flaw?` looks at them
together. -/
def loadRelay (env : Environment) : Except Flaw Config := do
  let heartbeat ← word env "RELAY_HEARTBEAT_INTERVAL_SECS" "30"
  let timeout ← word env "RELAY_CLIENT_TIMEOUT_SECS" "90"
  let capacity ← word env "RELAY_SEND_QUEUE_CAPACITY" "256"
  let overflow ← chosen Overflow.choice env "close"
  let routing ← chosen Routing.choice env "broadcast"
  let conflict ← chosen Conflict.choice env "replace"
  let connections ← word env "RELAY_MAX_CONNECTIONS_PER_ACCOUNT" "5"
  let burst ← halfWord env "RELAY_RATE_LIMIT_BURST" "50"
  let perSecond ← halfWord env "RELAY_RATE_LIMIT_PER_SEC" "25"
  let config : Config :=
    ⟨heartbeat, timeout, capacity, overflow, routing, conflict, connections, burst, perSecond⟩
  match config.flaw? with
  | some flaw => .error (.relay flaw)
  | none => .ok config

/-- The settings of an environment, or the first flaw met. -/
def load (env : Environment) : Except Flaw Settings := do
  let port ← loadPort env
  let secret ← loadSecret env
  let minutes ← number Text.int64Of env "JWT_ACCESS_TOKEN_DURATION_MINUTES" "60"
  let windowMs ← word env "RATE_LIMIT_WINDOW_MS" "60000"
  let maxRequests ← word env "RATE_LIMIT_MAX_REQUESTS" "10"
  let relay ← loadRelay env
  return {
    name := text env "APP_NAME" "job-relay"
    environment := text env "ENVIRONMENT" "development"
    host := text env "SERVER_HOST" "0.0.0.0"
    port
    corsOrigins := listed (text env "CORS_ORIGINS" "*")
    secret
    tokenMinutes := minutes
    windowMs
    maxRequests
    relay }

def toJson (s : Settings) : Json :=
  .object
    [("app", .object [("name", .string s.name), ("environment", .string s.environment)]),
     ("server", .object [("host", .string s.host), ("port", .ofNat s.port),
       ("cors_origins", .array (s.corsOrigins.map .string))]),
     ("auth", .object [("jwt_secret", .string s.secret),
       ("token_duration_minutes", .number (.whole s.tokenMinutes))]),
     ("rate_limit", .object [("window_ms", .ofNat s.windowMs),
       ("max_requests", .ofNat s.maxRequests)]),
     ("relay", s.relay.toJson)]

end Settings

end Switchboard
