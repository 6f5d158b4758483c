import Switchboard.Hub.Room
import Switchboard.Notice.Basic

/-! # The hub

The hub knows every connection: in which room it is, and by an index of all of them
in which account's room to look for it.

* `Hub` — the rooms, the index and the outboxes;
* `Hub.Refusal` — why the hub does not do what it was asked;
* `Hub.push`, `Hub.pushClose` — putting something into an outbox;
* `Hub.stats`, `Hub.hasDesktop`, `Hub.isOnline`, `Hub.isRegistered` — looking around. -/

namespace Switchboard

/-- The state of the relay.  `rooms` and `index` say the same twice: who is in the room of an
account, and in which room a connection is. -/
structure Hub where
  config : Config
  rooms : Table AccountId Room
  index : Table ConnectionId AccountId
  outboxes : Table OutboxId Outbox

namespace Hub

def empty (config : Config) : Hub := ⟨config, ∅, ∅, ∅⟩

/-! ## Refusals -/

inductive Refusal where
  | desktopConnected
  | tooMany (limit : Nat)
  | desktopOffline
  | desktopBusy
  | notRegistered
deriving DecidableEq, Repr

def Refusal.message : Refusal → String
  | .desktopConnected => "desktop already connected"
  | .tooMany limit => "too many connections for account (limit " ++ toString limit ++ ")"
  | .desktopOffline => "desktop is not connected"
  | .desktopBusy => "desktop send queue is full"
  | .notRegistered => "connection is not registered"

/-- What is told with the close of a connection that `Hub.register` turns away. -/
def Refusal.closeReason : Refusal → String
  | .desktopConnected => "desktop already connected"
  | .tooMany _ => "too many connections for account"
  | .desktopOffline | .desktopBusy | .notRegistered => "connection refused"

def replacedReason : String := "replaced by a newer desktop connection"

def overflowReason : String := "send queue overflow"

def unpairedReason : String := "device unpaired"

/-! ## Outboxes -/

def outbox (h : Hub) (o : OutboxId) : Outbox := h.outboxes.getD o .dead

def setOutbox (h : Hub) (o : OutboxId) (b : Outbox) : Hub :=
  { h with outboxes := h.outboxes.insert o b }

/-- `Outbox.pushText` on one of the hub's outboxes. -/
def push (h : Hub) (o : OutboxId) (text : String) : Except Outbox.Refusal Hub :=
  match (h.outbox o).pushText text with
  | .ok b => .ok (h.setOutbox o b)
  | .error e => .error e

/-- `Outbox.pushClose` on one of the hub's outboxes; one that has ended is left alone. -/
def pushClose (h : Hub) (o : OutboxId) (reason : String) : Hub :=
  if (h.outbox o).live then h.setOutbox o ((h.outbox o).pushClose reason) else h

/-! ## Rooms -/

def room (h : Hub) (account : AccountId) : Room := h.rooms.getD account .empty

/-- The hub with a room put in the place of the old one.  An empty room is erased, so `rooms` never
keeps one. -/
def setRoom (h : Hub) (account : AccountId) (r : Room) : Hub :=
  { h with
    rooms := if r.isEmpty then h.rooms.erase account else h.rooms.insert account r }

def hasDesktop (h : Hub) (account : AccountId) : Bool := (h.room account).desktop.isSome

def isOnline (h : Hub) (account : AccountId) (device : DeviceId) : Bool :=
  (h.room account).hasDevice device

def isRegistered (h : Hub) (c : ConnectionId) : Bool := c ∈ h.index

structure Stats where
  accounts : Nat
  desktops : Nat
  mobiles : Nat
deriving DecidableEq, Repr

def stats (h : Hub) : Stats :=
  { accounts := h.rooms.size
    desktops := (h.rooms.values.filter (·.desktop.isSome)).length
    mobiles := h.rooms.values.foldr (fun r n => r.mobiles.size + n) 0 }

end Hub

end Switchboard
