import Switchboard.Hub.Forward

/-! # What becomes of a frame

* `Hub.route` — passes a frame on, or says why not to whoever sent it. -/

namespace Switchboard.Hub

def desktopOffline : String := "DESKTOP_OFFLINE"

def desktopBusy : String := "DESKTOP_BUSY"

/-- The answer to a command that did not reach the desktop.  A connection that is not
registered gets none. -/
def commandReply (id : Option String) : Refusal → Option Notice
  | .desktopOffline => some (.error id desktopOffline "desktop is not connected")
  | .desktopBusy => some (.error id desktopBusy "desktop is not keeping up, try again")
  | _ => none

/-- The answer to a message that may not be sent in this direction. -/
def directionReply (role : Role) (m : Message) : Notice :=
  .error m.id Notice.invalidMessage
    (role.name ++ " connections may not send `" ++ m.kind.tag ++ "`")

/-- Passes a message on in the one direction in which messages of its family go, and says what the
sender is to be told. -/
def pass (h : Hub) (sender : ConnectionId) (role : Role) (m : Message) : Hub × Option Notice :=
  if role = .mobile ∧ m.family.toDesktop then
    match h.toDesktop sender m with
    | (h, .ok _) => (h, none)
    | (h, .error e) => (h, commandReply m.id e)
  else if role = .desktop ∧ m.family.toMobiles then ((h.toMobiles sender m).1, none)
  else (h, some (directionReply role m))

/-- Passes a frame on.  What is no message is answered with the fault, under the id of the frame if
one can be made out. -/
def route (h : Hub) (sender : ConnectionId) (role : Role) (text : String) : Hub × Option Notice :=
  match Message.read text with
  | .error fault => (h, some (.invalid fault (Message.peekId text)))
  | .ok m => h.pass sender role m

end Switchboard.Hub
