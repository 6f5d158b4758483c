import Switchboard.Json.Basic
import Switchboard.Message.Basic
import Switchboard.Principal

/-! # What the relay itself tells a client

* `Notice` — the welcome, an error, or whether the desktop is there;
* `Notice.toJson`, `Notice.render` — a notice as the client gets it. -/

namespace Switchboard

/-- A message that the relay writes itself and no client may send. -/
inductive Notice where
  /-- The first message on every connection. -/
  | welcome (connection version : String)
  /-- A frame was refused; the id is that of the frame. -/
  | error (id : Option String) (code message : String)
  /-- The account's desktop has come or gone. -/
  | desktopStatus (online : Bool) (device : Option DeviceId) (deviceName : Option String)
deriving DecidableEq, Repr

namespace Notice

/-- The version of the relay that the welcome tells. -/
def version : String := "0.1.0"

/-- The code of errors in a frame itself. -/
def invalidMessage : String := "INVALID_MESSAGE"

/-- The notice that greets a connection. -/
def greeting (connection : ConnectionId) : Notice := .welcome connection.render version

/-- The notice that a frame is no message. -/
def invalid (fault : Message.Fault) (id : Option String) : Notice :=
  .error id invalidMessage fault.message

/-- A string member that is left out in its absence. -/
def optionalMember (name : String) : Option String → List (String × Json)
  | some s => [(name, .string s)]
  | none => []

def kind : Notice → Message.Kind
  | .welcome .. => .welcome
  | .error .. => .error
  | .desktopStatus .. => .desktopStatus

def members : Notice → List (String × Json)
  | .welcome connection version =>
    [("connection_id", .string connection), ("server_version", .string version)]
  | .error id code message =>
    optionalMember "id" id ++ [("code", .string code), ("message", .string message)]
  | .desktopStatus online device name =>
    ("online", .bool online) ::
      (optionalMember "device_id" (device.map Uuid.render) ++ optionalMember "device_name" name)

def toJson (n : Notice) : Json := .object (("type", .string n.kind.tag) :: n.members)

def render (n : Notice) : String := n.toJson.render

end Notice

end Switchboard
