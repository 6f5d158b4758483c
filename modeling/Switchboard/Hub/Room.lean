import Switchboard.Config
import Switchboard.Hub.Outbox
import Switchboard.Message.Basic
import Switchboard.Principal
import Switchboard.Table

/-! # Rooms

The connections of one account share a room: at most one desktop, any number of
mobiles, and the commands whose responses are still to come.

* `Connection` — a connection as the relay knows it;
* `Room` — the connections of one account;
* `Room.await`, `Room.answer` — remembering who sent a command, and for whom a
  response is. -/

namespace Switchboard

abbrev OutboxId := Nat

/-- A connection: its name, whom it speaks for, and its outbox. -/
structure Connection where
  id : ConnectionId
  principal : Principal
  outbox : OutboxId
deriving DecidableEq, Repr

/-- The connections of one account.  `awaiting` is the table of commands under way: for the id of a
command, the mobile that sent it last. -/
structure Room where
  desktop : Option Connection
  mobiles : Table ConnectionId Connection
  awaiting : Table String ConnectionId

namespace Room

def empty : Room := ⟨none, ∅, ∅⟩

def size (r : Room) : Nat := r.mobiles.size + (if r.desktop.isSome then 1 else 0)

def isEmpty (r : Room) : Bool := r.size = 0

def isDesktop (r : Room) (c : ConnectionId) : Bool := r.desktop.any (·.id = c)

def hasDevice (r : Room) (device : DeviceId) : Bool :=
  r.desktop.any (·.principal.device = some device)

/-- Nobody answers the commands of before any more, so they are forgotten with the desktop. -/
def withoutDesktop (r : Room) : Room := { r with desktop := none, awaiting := ∅ }

/-- A new desktop has been sent no command yet, and the old one answers none any more. -/
def withDesktop (r : Room) (c : Connection) : Room := { r with desktop := some c, awaiting := ∅ }

def withMobile (r : Room) (c : Connection) : Room :=
  { r with mobiles := r.mobiles.insert c.id c }

/-- The commands of a mobile go with it, so that no response waits for somebody who has left. -/
def withoutMobile (r : Room) (c : ConnectionId) : Room :=
  { r with
    mobiles := r.mobiles.erase c
    awaiting := r.awaiting.filter fun _ origin => origin ≠ c }

/-- The room without a connection; the connection itself is handed back if it was the desktop, since
others have to know. -/
def remove (r : Room) (c : ConnectionId) : Room × Option Connection :=
  if r.isDesktop c then (r.withoutDesktop, r.desktop)
  else if c ∈ r.mobiles then (r.withoutMobile c, none)
  else (r, none)

/-- So many commands of one room are remembered; later ones are passed on all the same, and their
responses go to all. -/
def maxAwaiting : Nat := 1024

/-- Remembers `sender` for the id of a command, if responses go to one mobile only.  In a full table
the place of an id that is there already can still change hands. -/
def await (r : Room) (routing : Routing) (sender : ConnectionId) (m : Message) : Room :=
  match m.id with
  | some id =>
    if routing = .originator ∧ m.family = .command
        ∧ (r.awaiting.size < maxAwaiting ∨ id ∈ r.awaiting) then
      { r with awaiting := r.awaiting.insert id sender }
    else r
  | none => r

/-- Forgets a command, if it is remembered as one of the sender's. -/
def forget (r : Room) (sender : ConnectionId) (id : String) : Room :=
  if r.awaiting[id]? = some sender then { r with awaiting := r.awaiting.erase id } else r

/-- Whether a message is a response that goes to one mobile only. -/
def isAnswer (routing : Routing) (m : Message) : Bool :=
  routing = .originator ∧ m.family = .response

/-- The mobiles that a message of the desktop goes to: for a response the one that sent the command,
if `awaiting` knows it and it is still there, and otherwise all.  A response uses up the entry,
whether it is of use or not. -/
def answer (r : Room) (routing : Routing) (m : Message) : Room × List Connection :=
  match m.id with
  | some id =>
    if isAnswer routing m then
      let room := { r with awaiting := r.awaiting.erase id }
      -- a mobile that has left in the meantime is as good as unknown
      match (r.awaiting[id]?).bind fun origin => r.mobiles[origin]? with
      | some mobile => (room, [mobile])
      | none => (room, r.mobiles.values)
    else (r, r.mobiles.values)
  | none => (r, r.mobiles.values)

end Room

end Switchboard
