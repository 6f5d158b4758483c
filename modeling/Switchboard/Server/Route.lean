import Switchboard.Http.Percent

/-! # Addresses

* `Server.Scope` — the parts of the server, which differ in who may enter;
* `Server.Route` — what there is under a method and a path. -/

namespace Switchboard.Server

inductive Scope where
  /-- Anybody may enter. -/
  | hall
  /-- Anybody may enter, but not too often. -/
  | accounts
  /-- Only holders of an access token may enter. -/
  | devices
deriving DecidableEq, Repr

inductive Route where
  | health
  | connect
  | register
  | login
  | refresh
  | pair
  | list
  | remove (device : String)
deriving DecidableEq, Repr

/-- Bytes that are not looked at behind percent signs when a path is taken apart: the
percent sign, the stroke and the plus sign. -/
def keptInPaths : List UInt8 := [37, 47, 43]

/-- The parts of a path between strokes, of which the first one is empty. -/
def segments (path : String) : List String :=
  ((Percent.decode keptInPaths path).toList.splitOn '/').map String.ofList

def Scope.ofPath (path : String) : Scope :=
  match segments path with
  | "" :: "auth" :: _ => .accounts
  | "" :: "devices" :: _ => .devices
  | _ => .hall

def Route.of? (method path : String) : Option Route :=
  match method, segments path with
  | "GET", ["", "health"] => some .health
  | "GET", ["", "ws"] => some .connect
  | "POST", ["", "auth", "register"] => some .register
  | "POST", ["", "auth", "login"] => some .login
  | "POST", ["", "auth", "refresh"] => some .refresh
  | "POST", ["", "devices", "pair"] => some .pair
  | "GET", ["", "devices"] => some .list
  | "DELETE", ["", "devices", device] =>
    if device = "" then none else some (.remove (Percent.decode [] device))
  | _, _ => none

end Switchboard.Server
