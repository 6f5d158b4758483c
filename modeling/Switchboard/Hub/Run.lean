import Switchboard.Hub.Membership
import Switchboard.Hub.Route

/-! # The hub at work

Calls of the hub and what connections do with their outboxes come in any order, one
after the other.

* `Hub.Action`, `Hub.Answer` — what may be done, and what comes of it;
* `Hub.step`, `Hub.run` — one action, and several. -/

namespace Switchboard.Hub

/-- What may be done with a hub and the outboxes of connections: the calls of the hub, and what the
owner of an outbox does with it. -/
inductive Action where
  /-- A connection has been opened, with an empty outbox. -/
  | attach (o : OutboxId) (capacity : Nat)
  | register (c : Connection)
  | deregister (c : ConnectionId)
  | toDesktop (sender : ConnectionId) (m : Message)
  | toMobiles (sender : ConnectionId) (m : Message)
  | route (sender : ConnectionId) (role : Role) (text : String)
  | announce (account : AccountId) (online : Bool) (device : Option DeviceId)
      (deviceName : Option String)
  | evict (account : AccountId) (device : DeviceId)
  | push (o : OutboxId) (text : String)
  | pushClose (o : OutboxId) (reason : String)
  /-- A connection takes one item out of its outbox, and is done with a text at once if
  `release` says so. -/
  | handle (o : OutboxId) (release : Bool)
  /-- A connection is done with a text that it took out earlier. -/
  | release (o : OutboxId)
  /-- A connection has ended. -/
  | stop (o : OutboxId)
deriving DecidableEq, Repr

inductive Answer where
  | nothing
  | flag (b : Bool)
  | count (n : Nat)
  | registered (result : Except Refusal ConnectionId)
  | passed (result : Except Refusal Unit)
  | reached (result : Except Refusal Nat)
  | reply (notice : Option Notice)
  | pushed (result : Except Outbox.Refusal Unit)
  | handled (item : Option Outbox.Item)

def changeOutbox (h : Hub) (o : OutboxId) (f : Outbox → Outbox) : Hub :=
  h.setOutbox o (f (h.outbox o))

def step (h : Hub) : Action → Hub × Answer
  | .attach o capacity => (h.setOutbox o (.fresh capacity), .nothing)
  | .register c => (h.register c).map id .registered
  | .deregister c => (h.deregister c).map id .flag
  | .toDesktop sender m => (h.toDesktop sender m).map id .passed
  | .toMobiles sender m => (h.toMobiles sender m).map id .reached
  | .route sender role text => (h.route sender role text).map id .reply
  | .announce account online device deviceName =>
    (h.announce account (.desktopStatus online device deviceName)).map id .count
  | .evict account device => (h.evict account device).map id .flag
  | .push o text =>
    match h.push o text with
    | .ok h' => (h', .pushed (.ok ()))
    | .error e => (h, .pushed (.error e))
  | .pushClose o reason => (h.pushClose o reason, .nothing)
  | .handle o release =>
    match (h.outbox o).handle? release with
    | some (item, b) => (h.setOutbox o b, .handled (some item))
    | none => (h, .handled none)
  | .release o => (h.changeOutbox o .release, .nothing)
  | .stop o => (h.changeOutbox o .stop, .nothing)

/-- Actions one after the other, and the answer to each. -/
def run (h : Hub) : List Action → Hub × List Answer
  | [] => (h, [])
  | a :: as =>
    let (h, answer) := h.step a
    let (h, answers) := h.run as
    (h, answer :: answers)

end Switchboard.Hub
