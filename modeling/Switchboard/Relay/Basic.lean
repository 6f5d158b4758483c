import Switchboard.Socket.Basic

/-! # The relay at work

* `Relay` — the hub and all sockets, by the names of their outboxes;
* `Relay.Event`, `Relay.step`, `Relay.run` — what may happen, one thing after the other. -/

namespace Switchboard

/-- The hub and all sockets, each under the name of its outbox. -/
structure Relay where
  hub : Hub
  sockets : Table OutboxId Socket

namespace Relay

def empty (config : Config) : Relay := ⟨.empty config, ∅⟩

/-- Frames with the sockets that sent them. -/
abbrev Sent := List (OutboxId × Frame)

/-- One socket does something, with the hub at hand.  One that is not there does nothing. -/
def act (r : Relay) (o : OutboxId) (f : Hub → Socket → Socket.Outcome) : Relay × Sent :=
  match r.sockets[o]? with
  | none => (r, [])
  | some s =>
    let out := f r.hub s
    (⟨out.hub, r.sockets.insert o out.socket⟩, out.sent.map fun frame => (o, frame))

/-- What may happen at one moment: a client connects, a socket makes a move, or a device is
unpaired. -/
inductive Event where
  /-- A client has connected; the connection names the outbox. -/
  | start (c : Connection)
  | move (o : OutboxId) (move : Socket.Move)
  /-- A device is no longer paired. -/
  | evict (account : AccountId) (device : DeviceId)

/-- A socket starts, unless there has been one of that name before. -/
def start (r : Relay) (now : Instant) (c : Connection) : Relay × Sent :=
  if c.outbox ∈ r.sockets then (r, [])
  else
    let out := Socket.start r.hub now c
    (⟨out.hub, r.sockets.insert c.outbox out.socket⟩,
      out.sent.map fun frame => (c.outbox, frame))

/-- One event at its moment, and the frames that are sent because of it. -/
def step (r : Relay) (now : Instant) : Event → Relay × Sent
  | .start c => r.start now c
  | .move o move => r.act o fun h s => s.step h now move
  | .evict account device => ({ r with hub := (r.hub.evict account device).1 }, [])

/-- Events one after the other, each at its moment, and all frames that are sent. -/
def run (r : Relay) : List (Instant × Event) → Relay × Sent
  | [] => (r, [])
  | (now, e) :: es =>
    let (r, sent) := r.step now e
    let (r, more) := r.run es
    (r, sent ++ more)

end Relay

end Switchboard
