import Switchboard.Relay.Basic

/-! # Until nothing more happens

Whatever is in an outbox is taken out, and a socket that has been told to stop stops.
The others may be told that, so this is done again, but not more often than there are
sockets that may stop.

* `Socket.attend` — one socket does what is left to do for it;
* `Relay.settle` — all of them do, until nothing is left.  In which order they take turns
  is up to whoever lets them. -/

namespace Switchboard

/-- `drain`, `beat` and `finish`: the socket takes everything out of its outbox, looks at the time,
and stops if it has been told to. -/
def Socket.attend (h : Hub) (s : Socket) (now : Instant) : Socket.Outcome :=
  let drained := s.drain h
  let out := (drained.socket.beat drained.hub now).after drained.sent
  (out.socket.finish out.hub).after out.sent

namespace Relay

def attend (r : Relay) (now : Instant) (o : OutboxId) : Relay × Sent :=
  r.act o fun h s => s.attend h now

/-- One round, in which each socket of a list gets its turn. -/
def attendAll (r : Relay) (now : Instant) : List OutboxId → Relay × Sent
  | [] => (r, [])
  | o :: os =>
    let (r, sent) := r.attend now o
    let (r, more) := r.attendAll now os
    (r, sent ++ more)

def settleRounds (r : Relay) (now : Instant) (order : List OutboxId) : Nat → Relay × Sent
  | 0 => (r, [])
  | rounds + 1 =>
    let (r, sent) := r.attendAll now order
    let (r, more) := r.settleRounds now order rounds
    (r, sent ++ more)

def going (r : Relay) : List Socket := r.sockets.values.filter (·.phase ≠ .stopped)

/-- Sockets take turns, in a given order, until nothing is left to do for them.  A round leaves
something to do only if a socket stopped in it, so one round more than there are sockets `going` is
enough. -/
def settle (r : Relay) (now : Instant) (order : List OutboxId) : Relay × Sent :=
  r.settleRounds now order (r.going.length + 1)

end Relay

end Switchboard
