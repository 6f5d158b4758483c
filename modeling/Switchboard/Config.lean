import Switchboard.Json.Shape
import Switchboard.Limit
import Switchboard.Policy

/-! # The configuration of the relay

* `Config` — the limits and policies that a relay runs by, with their defaults;
* `Config.flaw?` — what makes a configuration unusable;
* `Config.ofJson`, `Config.toJson` — a configuration as a JSON value. -/

namespace Switchboard

/-- The limits and policies that a relay runs by, with the defaults of `Settings.loadRelay`. -/
structure Config where
  heartbeatSeconds : Nat := 30
  timeoutSeconds : Nat := 90
  outboxCapacity : Nat := 256
  overflow : Overflow := .close
  routing : Routing := .broadcast
  conflict : Conflict := .replace
  maxConnections : Nat := 5
  burst : Nat := 50
  perSecond : Nat := 25
deriving DecidableEq, Repr

namespace Config

def heartbeatMs (c : Config) : Nat := c.heartbeatSeconds * 1000

/-- Milliseconds of silence after which a client counts as gone. -/
def timeoutMs (c : Config) : Nat := c.timeoutSeconds * 1000

inductive Flaw where
  | zero (setting : String)
  | timeoutTooShort
deriving DecidableEq, Repr

def Flaw.message : Flaw → String
  | .zero setting => setting ++ " must be greater than zero"
  | .timeoutTooShort => "RELAY_CLIENT_TIMEOUT_SECS must exceed RELAY_HEARTBEAT_INTERVAL_SECS"

def flaw? (c : Config) : Option Flaw :=
  if c.heartbeatSeconds = 0 then some (.zero "RELAY_HEARTBEAT_INTERVAL_SECS")
  else if c.outboxCapacity = 0 then some (.zero "RELAY_SEND_QUEUE_CAPACITY")
  else if c.maxConnections = 0 then some (.zero "RELAY_MAX_CONNECTIONS_PER_ACCOUNT")
  else if c.burst = 0 then some (.zero "RELAY_RATE_LIMIT_BURST")
  else if c.timeoutSeconds ≤ c.heartbeatSeconds then some .timeoutTooShort
  else none

/-! ## As a JSON value -/

open Json (Decoder Fault Record)

def word (name : String) : Decoder Nat := .natBelow Limit.bits64 name

def halfWord : Decoder Nat := .natBelow Limit.bits32 "u32"

def record : Record where
  title := "struct RelayConfig"
  fields :=
    [⟨"heartbeat_interval_secs", Json.refusal (word "u64"), false⟩,
     ⟨"client_timeout_secs", Json.refusal (word "u64"), false⟩,
     ⟨"send_queue_capacity", Json.refusal (word "usize"), false⟩,
     ⟨"overflow_policy", Json.refusal (Decoder.variant Overflow.choice.names), false⟩,
     ⟨"response_routing", Json.refusal (Decoder.variant Routing.choice.names), false⟩,
     ⟨"desktop_conflict", Json.refusal (Decoder.variant Conflict.choice.names), false⟩,
     ⟨"max_connections_per_account", Json.refusal (word "usize"), false⟩,
     ⟨"rate_limit_burst", Json.refusal halfWord, false⟩,
     ⟨"rate_limit_per_sec", Json.refusal halfWord, false⟩]

/-- The configuration that a JSON value holds.  No field may be missing, and nothing is checked as
`flaw?` would check it. -/
def ofJson (v : Json) : Except Fault Config := do
  let members ← record.members v
  let heartbeat ← Record.field members "heartbeat_interval_secs" (word "u64")
  let timeout ← Record.field members "client_timeout_secs" (word "u64")
  let capacity ← Record.field members "send_queue_capacity" (word "usize")
  let overflow ← Record.field members "overflow_policy" (.variant Overflow.choice.names)
  let routing ← Record.field members "response_routing" (.variant Routing.choice.names)
  let conflict ← Record.field members "desktop_conflict" (.variant Conflict.choice.names)
  let connections ← Record.field members "max_connections_per_account" (word "usize")
  let burst ← Record.field members "rate_limit_burst" halfWord
  let perSecond ← Record.field members "rate_limit_per_sec" halfWord
  return ⟨heartbeat, timeout, capacity, overflow, routing, conflict, connections, burst, perSecond⟩

def toJson (c : Config) : Json :=
  .object
    [("heartbeat_interval_secs", .ofNat c.heartbeatSeconds),
     ("client_timeout_secs", .ofNat c.timeoutSeconds),
     ("send_queue_capacity", .ofNat c.outboxCapacity),
     ("overflow_policy", .string (Overflow.choice.nameOf c.overflow)),
     ("response_routing", .string (Routing.choice.nameOf c.routing)),
     ("desktop_conflict", .string (Conflict.choice.nameOf c.conflict)),
     ("max_connections_per_account", .ofNat c.maxConnections),
     ("rate_limit_burst", .ofNat c.burst),
     ("rate_limit_per_sec", .ofNat c.perSecond)]

end Config

end Switchboard
