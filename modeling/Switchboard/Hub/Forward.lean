import Switchboard.Hub.Delivery

/-! # Passing messages on

* `Hub.toDesktop` — passes a mobile's command on to the desktop of its account;
* `Hub.toMobiles` — passes a desktop's message on to the mobiles of its account. -/

namespace Switchboard.Hub

/-- Takes back what `Room.await` has remembered, for a command that did not reach the desktop. -/
def forget (h : Hub) (account : AccountId) (sender : ConnectionId) (id : Option String) : Hub :=
  match id, h.rooms[account]? with
  | some id, some room => h.setRoom account (room.forget sender id)
  | _, _ => h

/-- What a mobile is told when its command did not reach the desktop.  A desktop that does not keep
up is `desktopBusy` only if it stays, that is under `dropNewest`. -/
def commandRefusal (overflow : Overflow) (e : Outbox.Refusal) : Refusal :=
  if e = .full ∧ overflow = .dropNewest then .desktopBusy else .desktopOffline

/-- Passes a mobile's command on to the desktop of its account.  The command is remembered before it
is delivered, so that no response can overtake it. -/
def toDesktop (h : Hub) (sender : ConnectionId) (m : Message) : Hub × Except Refusal Unit :=
  match h.index[sender]? with
  | none => (h, .error .notRegistered)
  | some account =>
    let room := h.room account
    if sender ∈ room.mobiles then
      match room.desktop with
      | none => (h, .error .desktopOffline)
      | some desktop =>
        let h := h.setRoom account (room.await h.config.routing sender m)
        match h.deliverTo ⟨desktop.id, desktop.outbox, m.raw⟩ with
        | (h, .ok _) => (h, .ok ())
        -- `deliverTo` may have taken the desktop out, and its room's entries with it
        | (h, .error e) =>
          (h.forget account sender m.id, .error (commandRefusal h.config.overflow e))
    else (h, .error .notRegistered)

/-- Passes a desktop's message on to those mobiles that `Room.answer` names, and counts whom it
reached. -/
def toMobiles (h : Hub) (sender : ConnectionId) (m : Message) : Hub × Except Refusal Nat :=
  match h.index[sender]? with
  | none => (h, .error .notRegistered)
  | some account =>
    let room := h.room account
    if room.isDesktop sender then
      let (room, targets) := room.answer h.config.routing m
      let (h, reached) := (h.setRoom account room).deliver (parcels targets m.raw)
      (h, .ok reached)
    else (h, .error .notRegistered)

end Switchboard.Hub
