import Switchboard.Hub.Delivery

/-! # Coming and being sent away

* `Hub.refusal?` — why a connection is not let in;
* `Hub.register` — lets a connection in: it is greeted, and a desktop takes the place of
  the one before it and is announced to the mobiles;
* `Hub.evict` — sends away the desktop that runs on a device. -/

namespace Switchboard.Hub

def refusal? (h : Hub) (c : Connection) : Option Refusal :=
  let room := h.room c.principal.account
  let replacing := c.principal.isDesktop ∧ room.desktop.isSome
  if replacing ∧ h.config.conflict = .reject then some .desktopConnected
  -- a desktop that would be replaced gives its place to the new one
  else if h.config.maxConnections ≤ room.size - (if replacing then 1 else 0) then
    some (.tooMany h.config.maxConnections)
  else none

/-- Puts the greeting into the outbox of a connection.  If it does not fit, the connection goes
without. -/
def greet (h : Hub) (c : Connection) : Hub :=
  match h.push c.outbox (Notice.greeting c.id).render with
  | .ok h' => h'
  | .error _ => h

/-- Puts a connection into its room, in place of the desktop there if it is one, and into the
index. -/
def enter (h : Hub) (c : Connection) : Hub :=
  let account := c.principal.account
  let room := h.room account
  let h := h.setRoom account
    (if c.principal.isDesktop then room.withDesktop c else room.withMobile c)
  { h with index := h.index.insert c.id account }

/-- Sends away the desktop whose place another one has taken.  It is out of the room already, so
only the index and its outbox are left to do. -/
def dismiss (h : Hub) : Option Connection → Hub
  | none => h
  | some old => { h with index := h.index.erase old.id }.pushClose old.outbox replacedReason

/-- Lets a connection in, or says with a `Refusal` why not and leaves the hub as it is.  The
greeting goes first, so nothing can come before it; a desktop takes the place of the one before it,
and the mobiles of its account hear of the new one only. -/
def register (h : Hub) (c : Connection) : Hub × Except Refusal ConnectionId :=
  match h.refusal? c with
  | some e => (h, .error e)
  | none =>
    let account := c.principal.account
    let before := (h.room account).desktop
    let h := (h.greet c).enter c
    if c.principal.isDesktop then
      (((h.dismiss before).announce account (presence true c.principal)).1, .ok c.id)
    else (h, .ok c.id)

/-- Sends away the desktop that runs on a device, if it is the one that is connected, and tells its
mobiles. -/
def evict (h : Hub) (account : AccountId) (device : DeviceId) : Hub × Bool :=
  let room := h.room account
  match room.desktop with
  | some desktop =>
    if desktop.principal.device = some device then
      -- the desktop is out of index and room before anybody is told
      let h := { h with index := h.index.erase desktop.id }
      let h := (h.setRoom account room.withoutDesktop).pushClose desktop.outbox unpairedReason
      ((h.announce account (presence false desktop.principal)).1, true)
    else (h, false)
  | none => (h, false)

end Switchboard.Hub
